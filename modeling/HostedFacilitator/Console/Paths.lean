import HostedFacilitator.ControlPlane.Requests
import HostedFacilitator.Lib.Url
import HostedFacilitator.Nanopayments.Balance

/-!
# Paths from the console to the control plane

Every route of the console builds a path for the control plane out of the parameters of its own path, and hands it to
the proxy, which lets through the paths that match one of a few patterns. The control plane finds the route in the path
and checks the parameters again, in its own language.

* `isAllowedOpsPath_rooted`: what is let through has plain segments under `/ops/api`;
* `console_paths_agree`: which calls are let through, and that the control plane then runs the same route with the very
  same parameters, which it refuses in two cases only.
-/

namespace HostedFacilitator.Console

open ControlPlane (safeRecordIdText)

/-! ## The patterns of the proxy -/

/-- A part of a regular expression between two slashes. -/
abbrev Pattern := List Char → Bool

def literal (s : String) : Pattern := fun segment => segment = s.toList

/-- `[..]{low,high}`. -/
def many (p : Char → Bool) (low high : Nat) : Pattern := fun segment =>
  segment.all p && low ≤ segment.length && segment.length ≤ high

def matchesAll : List Pattern → List (List Char) → Bool
  | [], [] => true
  | p :: ps, s :: ss => p s && matchesAll ps ss
  | _, _ => false

/-- A path of these parts, each after a slash. -/
def matchesPath (ps : List Pattern) (pathname : List Char) : Bool :=
  match pathname.splitOn '/' with
  | [] :: segments => matchesAll ps segments
  | _ => false

/-- `[A-Za-z0-9_.-]`. -/
def isRefChar (c : Char) : Bool := c.isAlphanum || c = '_' || c = '.' || c = '-'

/-- `[A-Za-z0-9_-]`. -/
def isKeyChar (c : Char) : Bool := c.isAlphanum || c = '_' || c = '-'

def isRef : Pattern := many isRefChar 3 64

def isKeyId : Pattern := many isKeyChar 1 80

def isRecordId : Pattern := many Char.isDigit 1 20

def opsPath (ps : List Pattern) : List Pattern := literal "ops" :: literal "api" :: ps

/-- The patterns of `isAllowedOpsPath`. -/
def allowedPaths : List (List Pattern) :=
  [opsPath [literal "overview"], opsPath [literal "pauses"], opsPath [literal "sellers"],
    opsPath [literal "reconciliation"], opsPath [literal "settlements", isRecordId],
    opsPath [literal "reconciliation", isRecordId,
      fun s => literal "claim" s || literal "release" s || literal "manual-review" s],
    opsPath [literal "sellers", isRef], opsPath [literal "sellers", isRef, literal "api-keys"],
    opsPath [literal "sellers", isRef, literal "api-keys", isKeyId, literal "revoke"]]

/-- `isAllowedOpsPath`. -/
def isAllowedOpsPath (path : String) : Bool :=
  allowedPaths.any fun ps => matchesPath ps (path.toList.takeWhile (· ≠ '?'))

/-! ## Calls -/

/-- A route of the console, with the parameters of its path. -/
inductive Call where
  | overview
  | pauses
  | sellers
  | reconciliation
  | settlement (recordId : String)
  | act (action : ReconciliationAction) (recordId : String)
  | seller (sellerRef : String)
  | apiKeys (sellerRef : String)
  | revoke (sellerRef keyId : String)
  deriving DecidableEq

/-- The last segment of an action's path. -/
def actionName : ReconciliationAction → String
  | .claim => "claim"
  | .release => "release"
  | .manualReview => "manual-review"

/-- The segments, with the parameters written as `f` writes them. -/
def Call.segments (f : List Char → List Char) : Call → List (List Char)
  | .overview => ["ops".toList, "api".toList, "overview".toList]
  | .pauses => ["ops".toList, "api".toList, "pauses".toList]
  | .sellers => ["ops".toList, "api".toList, "sellers".toList]
  | .reconciliation => ["ops".toList, "api".toList, "reconciliation".toList]
  | .settlement recordId => ["ops".toList, "api".toList, "settlements".toList, f recordId.toList]
  | .act action recordId =>
    ["ops".toList, "api".toList, "reconciliation".toList, f recordId.toList, (actionName action).toList]
  | .seller sellerRef => ["ops".toList, "api".toList, "sellers".toList, f sellerRef.toList]
  | .apiKeys sellerRef => ["ops".toList, "api".toList, "sellers".toList, f sellerRef.toList, "api-keys".toList]
  | .revoke sellerRef keyId =>
    ["ops".toList, "api".toList, "sellers".toList, f sellerRef.toList, "api-keys".toList, f keyId.toList, "revoke".toList]

/-- The path that a route of the console calls; only the route of the queue adds the `search` of its own URL. -/
def Call.path (call : Call) (search : List Char) : String :=
  String.ofList (Url.rooted (call.segments Url.encodeComponent) ++ if call = .reconciliation then search else [])

/-- A parameter is a segment that is not empty. -/
def withParam (param : String) (call : Call) : Option Call := if param = "" then none else some call

/-- The routes of the control plane, of the segments of a path. -/
def planeRoute : List String → Option Call
  | ["ops", "api", "overview"] => some .overview
  | ["ops", "api", "pauses"] => some .pauses
  | ["ops", "api", "sellers"] => some .sellers
  | ["ops", "api", "sellers", sellerRef] => withParam sellerRef (.seller sellerRef)
  | ["ops", "api", "settlements", recordId] => withParam recordId (.settlement recordId)
  | ["ops", "api", "reconciliation"] => some .reconciliation
  | ["ops", "api", "reconciliation", recordId, "claim"] => withParam recordId (.act .claim recordId)
  | ["ops", "api", "reconciliation", recordId, "release"] => withParam recordId (.act .release recordId)
  | ["ops", "api", "reconciliation", recordId, "manual-review"] => withParam recordId (.act .manualReview recordId)
  | ["ops", "api", "sellers", sellerRef, "api-keys"] => withParam sellerRef (.apiKeys sellerRef)
  | ["ops", "api", "sellers", sellerRef, "api-keys", keyId, "revoke"] =>
    (withParam sellerRef (.revoke sellerRef keyId)).bind (withParam keyId)
  | _ => none

/-- What the handler of the control plane makes of the parameters, before anything else. -/
def Call.checkPath (env : ControlPlane.Env) : Call → Except PyErr PUnit
  | .overview | .pauses | .sellers | .reconciliation => .ok ()
  | .settlement recordId | .act _ recordId => (safeRecordIdText env recordId).map fun _ => ()
  | .seller sellerRef | .apiKeys sellerRef => (safeSellerRef env.rendering.unicode sellerRef).map fun _ => ()
  | .revoke sellerRef keyId => do
    let _ ← safeSellerRef env.rendering.unicode sellerRef
    let _ ← safeKeyId env.rendering.unicode keyId
    return ()

/-- The parameters are of the form that the proxy lets through. -/
def Call.WellFormed : Call → Prop
  | .overview | .pauses | .sellers | .reconciliation => True
  | .settlement recordId | .act _ recordId => isRecordId recordId.toList = true
  | .seller sellerRef | .apiKeys sellerRef => isRef sellerRef.toList = true
  | .revoke sellerRef keyId => isRef sellerRef.toList = true ∧ isKeyId keyId.toList = true

/-- What the control plane asks for besides: a seller reference begins with a letter or a digit, and a record has a
positive number. -/
def Call.Accepted : Call → Prop
  | .overview | .pauses | .sellers | .reconciliation => True
  | .settlement recordId | .act _ recordId => Nanopayments.number recordId.toList ≠ 0
  | .seller sellerRef | .apiKeys sellerRef | .revoke sellerRef _ =>
    sellerRef.toList.head?.all Char.isAlphanum = true

/-! ## What is let through -/

section Patterns

variable {ps : List Pattern} {segment : List Char} {segments : List (List Char)} {c : Char}

theorem isPlain_of_isRefChar (h : isRefChar c = true) : Url.isPlain c = true := by
  simp only [isRefChar, Url.isPlain, Bool.or_eq_true, decide_eq_true_eq] at h ⊢
  tauto

theorem isRefChar_of_isKeyChar (h : isKeyChar c = true) : isRefChar c = true := by
  simp only [isRefChar, isKeyChar, Bool.or_eq_true, decide_eq_true_eq] at h ⊢
  tauto

theorem isRefChar_of_isDigit (h : c.isDigit = true) : isRefChar c = true := by
  simp [isRefChar, Char.isAlphanum, h]

theorem many_iff {p : Char → Bool} {low high : Nat} : many p low high segment = true ↔
    (∀ c ∈ segment, p c = true) ∧ low ≤ segment.length ∧ segment.length ≤ high := by
  simp only [many, Bool.and_eq_true, List.all_eq_true, decide_eq_true_eq, and_assoc]

/-- A part that only plain segments match. -/
def Pattern.IsPlain (p : Pattern) : Prop := ∀ segment, p segment = true → Url.Plain segment

theorem isRef_plain : Pattern.IsPlain isRef := by
  intro segment h
  obtain ⟨hchars, hlow, -⟩ := many_iff.mp h
  refine ⟨fun c hc => isPlain_of_isRefChar (hchars c hc), ?_, ?_⟩
  · rintro rfl
    exact absurd hlow (by decide)
  · rintro rfl
    exact absurd hlow (by decide)

theorem plain_of_no_dot (h : ∀ c ∈ segment, Url.isPlain c = true ∧ c ≠ '.') : Url.Plain segment where
  chars c hc := (h c hc).1
  not_dot := by
    rintro rfl
    exact (h '.' List.mem_cons_self).2 rfl
  not_dots := by
    rintro rfl
    exact (h '.' List.mem_cons_self).2 rfl

theorem isKeyId_plain : Pattern.IsPlain isKeyId := by
  intro segment h
  refine plain_of_no_dot fun c hc => ⟨isPlain_of_isRefChar (isRefChar_of_isKeyChar ((many_iff.mp h).1 c hc)), ?_⟩
  rintro rfl
  exact absurd ((many_iff.mp h).1 '.' hc) (by decide)

theorem isRecordId_plain : Pattern.IsPlain isRecordId := by
  intro segment h
  refine plain_of_no_dot fun c hc => ⟨isPlain_of_isRefChar (isRefChar_of_isDigit ((many_iff.mp h).1 c hc)), ?_⟩
  rintro rfl
  exact absurd ((many_iff.mp h).1 '.' hc) (by decide)

theorem plain_of_all (h : (segment.all fun c => Url.isPlain c && c != '.') = true) : Url.Plain segment := by
  refine plain_of_no_dot fun c hc => ?_
  have hboth := List.all_eq_true.mp h c hc
  simpa using hboth

theorem literal_plain {s : String} (h : (s.toList.all fun c => Url.isPlain c && c != '.') = true) :
    Pattern.IsPlain (literal s) := by
  intro segment hs
  rw [of_decide_eq_true hs]
  exact plain_of_all h

theorem plain_of_matchesAll (h : ∀ p ∈ ps, p.IsPlain) (hm : matchesAll ps segments = true) :
    ∀ s ∈ segments, Url.Plain s := by
  induction ps generalizing segments with
  | nil =>
    cases segments with
    | nil => exact fun s hs => absurd hs List.not_mem_nil
    | cons s ss => cases hm
  | cons p ps ih =>
    cases segments with
    | nil => cases hm
    | cons s ss =>
      obtain ⟨hp, hps⟩ := List.forall_mem_cons.mp h
      obtain ⟨hs, hss⟩ := Bool.and_eq_true_iff.mp hm
      exact List.forall_mem_cons.mpr ⟨hp s hs, ih hps hss⟩

theorem allowedPaths_plain : ∀ ps ∈ allowedPaths, ∀ p ∈ ps, p.IsPlain := by
  have hliteral : ∀ s ∈ ["ops", "api", "overview", "pauses", "sellers", "reconciliation", "settlements", "api-keys",
      "revoke", "claim", "release", "manual-review"], Pattern.IsPlain (literal s) :=
    fun s hs => literal_plain (by revert s; decide)
  have haction : Pattern.IsPlain fun s => literal "claim" s || literal "release" s || literal "manual-review" s := by
    intro segment hs
    simp only [Bool.or_eq_true] at hs
    rcases hs with (hs | hs) | hs
    · exact hliteral "claim" (by decide) segment hs
    · exact hliteral "release" (by decide) segment hs
    · exact hliteral "manual-review" (by decide) segment hs
  simp only [allowedPaths, opsPath, List.forall_mem_cons, List.not_mem_nil, false_implies, implies_true, and_true]
  refine ⟨?_, ?_, ?_, ?_, ?_, ?_, ?_, ?_, ?_⟩
  all_goals
    simp only [isRef_plain, isKeyId_plain, isRecordId_plain, haction, hliteral, List.mem_cons, true_or, or_true, and_self]

/-- **What the proxy lets through** is a path of plain segments under `/ops/api`, perhaps with a query. -/
theorem isAllowedOpsPath_rooted {path : String} (h : isAllowedOpsPath path = true) :
    ∃ segments rest, path.toList = Url.rooted ("ops".toList :: "api".toList :: segments) ++ rest ∧ Url.IsQuery rest ∧
      ∀ s ∈ "api".toList :: segments, Url.Plain s := by
  obtain ⟨ps, hps, hm⟩ := List.any_eq_true.mp h
  unfold matchesPath at hm
  split at hm
  · rename_i segments hsplit
    have hplain := plain_of_matchesAll (allowedPaths_plain ps hps) hm
    have hops : ∃ rest, ps = literal "ops" :: literal "api" :: rest := by
      revert ps
      simp [allowedPaths, opsPath]
    obtain ⟨rest, rfl⟩ := hops
    match segments, hm with
    | ops :: api :: segments, hm =>
      obtain ⟨hopsEq, hrest⟩ := Bool.and_eq_true_iff.mp hm
      obtain ⟨hapiEq, -⟩ := Bool.and_eq_true_iff.mp hrest
      obtain rfl := of_decide_eq_true hopsEq
      obtain rfl := of_decide_eq_true hapiEq
      have hpath := (Url.rooted_of_splitOn hsplit).resolve_left (List.cons_ne_nil _ _)
      refine ⟨segments, path.toList.dropWhile (· ≠ '?'), ?_, ?_, fun s hs => hplain s (List.mem_cons_of_mem _ hs)⟩
      · rw [← hpath, List.takeWhile_append_dropWhile]
      · cases hdrop : path.toList.dropWhile (· ≠ '?') with
        | nil => exact .inl rfl
        | cons c q =>
          have hhead := List.head?_dropWhile_not (· ≠ '?') path.toList
          rw [hdrop] at hhead
          simp only [List.head?_cons, decide_not, Bool.not_eq_false', decide_eq_true_eq] at hhead
          exact .inr ⟨q, by rw [hhead]⟩
    | [_], hm => simp [matchesAll] at hm
    | [], hm => simp [matchesAll] at hm
  · cases hm

end Patterns

/-! ## Calls that are let through -/

section Calls

variable {call : Call} {search : List Char}

theorem many_encodeComponent {p : Char → Bool} {low high : Nat} (hp : ∀ c, p c = true → Url.isPlain c = true)
    (hpercent : p '%' = false) (cs : List Char) : many p low high (Url.encodeComponent cs) = many p low high cs := by
  have hall := Url.encodeComponent_all (s := cs) (fun c hc => Url.isUnescaped_of_isPlain (hp c hc)) hpercent
  cases hcs : cs.all p with
  | true =>
    have hsame : Url.encodeComponent cs = cs :=
      Url.encodeComponent_of_unescaped fun c hc => Url.isUnescaped_of_isPlain (hp c (List.all_eq_true.mp hcs c hc))
    rw [hsame]
  | false =>
    have hencoded : (Url.encodeComponent cs).all p = false := by
      rw [← Bool.not_eq_true, hall, hcs]
      exact Bool.false_ne_true
    simp [many, hencoded, hcs]

theorem isRef_encodeComponent (cs : List Char) : isRef (Url.encodeComponent cs) = isRef cs :=
  many_encodeComponent (fun _ => isPlain_of_isRefChar) (by decide) cs

theorem isKeyId_encodeComponent (cs : List Char) : isKeyId (Url.encodeComponent cs) = isKeyId cs :=
  many_encodeComponent (fun _ hc => isPlain_of_isRefChar (isRefChar_of_isKeyChar hc)) (by decide) cs

theorem isRecordId_encodeComponent (cs : List Char) : isRecordId (Url.encodeComponent cs) = isRecordId cs :=
  many_encodeComponent (fun _ hc => isPlain_of_isRefChar (isRefChar_of_isDigit hc)) (by decide) cs

/-- Neither a slash nor a question mark is left in a parameter. -/
theorem segments_chars (call : Call) : ∀ s ∈ call.segments Url.encodeComponent, '/' ∉ s ∧ '?' ∉ s := by
  have hencoded : ∀ cs, '/' ∉ Url.encodeComponent cs ∧ '?' ∉ Url.encodeComponent cs := fun cs =>
    ⟨fun h => absurd (Url.encodeComponent_chars h) (by decide), fun h => absurd (Url.encodeComponent_chars h) (by decide)⟩
  have hliteral : ∀ s ∈ ["ops", "api", "overview", "pauses", "sellers", "reconciliation", "settlements", "api-keys",
      "revoke", "claim", "release", "manual-review"], '/' ∉ s.toList ∧ '?' ∉ s.toList := by decide
  have haction : ∀ action, '/' ∉ (actionName action).toList ∧ '?' ∉ (actionName action).toList := by
    intro action
    cases action <;> decide
  cases call <;>
    simp only [Call.segments, List.forall_mem_cons, List.not_mem_nil, false_implies, implies_true, and_true, hencoded,
      haction, and_self] <;>
    decide

theorem isAllowedOpsPath_path (hsearch : Url.IsQuery search) : isAllowedOpsPath (call.path search) =
    allowedPaths.any fun ps => matchesAll ps (call.segments Url.encodeComponent) := by
  have hchars : ∀ c ∈ Url.rooted (call.segments Url.encodeComponent), (decide (c ≠ '?')) = true := by
    intro c hc
    obtain ⟨segment, hsegment, hmem⟩ := List.mem_flatMap.mp hc
    refine decide_eq_true fun heq => ?_
    rcases List.mem_cons.mp hmem with hslash | hmem
    · exact absurd (heq.symm.trans hslash) (by decide)
    · exact (segments_chars call segment hsegment).2 (heq ▸ hmem)
  have hpathname : (call.path search).toList.takeWhile (· ≠ '?') = Url.rooted (call.segments Url.encodeComponent) := by
    rw [Call.path, String.toList_ofList, List.takeWhile_append_of_pos hchars]
    split
    · rcases hsearch with rfl | ⟨q, rfl⟩
      · rw [List.takeWhile_nil, List.append_nil]
      · rw [List.takeWhile_cons_of_neg (by decide), List.append_nil]
    · rw [List.takeWhile_nil, List.append_nil]
  unfold isAllowedOpsPath
  rw [hpathname]
  congr 1
  funext ps
  rw [matchesPath, Url.splitOn_rooted fun s hs => (segments_chars call s hs).1]

theorem isAllowedOpsPath_iff (hsearch : Url.IsQuery search) :
    isAllowedOpsPath (call.path search) = true ↔ call.WellFormed := by
  rw [isAllowedOpsPath_path hsearch]
  cases call with
  | overview | pauses | sellers | reconciliation =>
    simp [allowedPaths, opsPath, Call.segments, matchesAll, literal, Call.WellFormed]
  | settlement recordId =>
    simp [allowedPaths, opsPath, Call.segments, matchesAll, literal, Call.WellFormed, isRecordId_encodeComponent]
  | act action recordId =>
    cases action <;>
      simp [allowedPaths, opsPath, Call.segments, matchesAll, literal, Call.WellFormed, actionName,
        isRecordId_encodeComponent]
  | seller sellerRef | apiKeys sellerRef =>
    simp [allowedPaths, opsPath, Call.segments, matchesAll, literal, Call.WellFormed, isRef_encodeComponent]
  | revoke sellerRef keyId =>
    simp [allowedPaths, opsPath, Call.segments, matchesAll, literal, Call.WellFormed, isRef_encodeComponent,
      isKeyId_encodeComponent]

/-! ## The parameters at the control plane -/

variable {env : ControlPlane.Env} {u : Unicode} {param : String}

theorem isPySpace_of_isPlain {c : Char} (h : Url.isPlain c = true) : isPySpace c = false := by
  have hval : c.toNat = c.val.toNat := rfl
  have := Url.isPlain_bounds h
  by_contra hspace
  simp only [Bool.not_eq_false, isPySpace, Bool.or_eq_true, Bool.and_eq_true, decide_eq_true_eq, beq_iff_eq, hval] at *
  omega

theorem strip_of_plain (h : ∀ c ∈ param.toList, Url.isPlain c = true) : strip param = param :=
  strip_of_ends (fun c hc => isPySpace_of_isPlain (h c (List.mem_of_mem_head? hc)))
    fun c hc => isPySpace_of_isPlain (h c (List.mem_of_mem_getLast? hc))

theorem lt_of_isPlain {c : Char} (h : Url.isPlain c = true) : c.toNat < 128 := by
  have := Url.isPlain_bounds h
  omega

/-- A reference that the proxy lets through is refused for its first character only. -/
theorem safeSellerRef_of_isRef (h : isRef param.toList = true) : safeSellerRef u param =
    if param.toList.head?.all Char.isAlphanum = true then .ok param
    else .error (.value "seller reference must start with a letter or number") := by
  obtain ⟨hchars, hlow, hhigh⟩ := many_iff.mp h
  have hplain : ∀ c ∈ param.toList, Url.isPlain c = true := fun c hc => isPlain_of_isRefChar (hchars c hc)
  have hkeeps : param.toList.all (u.keeps ['_', '-', '.']) = true := by
    rw [List.all_eq_true]
    intro c hc
    have hc' := hchars c hc
    simp only [isRefChar, Bool.or_eq_true, decide_eq_true_eq] at hc'
    rcases hc' with ((hc' | rfl) | rfl) | rfl
    · exact Unicode.keeps_of_alnum (by rw [u.ascii_isalnum c (lt_of_isPlain (hplain c hc)), hc'])
    all_goals exact Unicode.keeps_of_mem (by decide)
  have hhead : param.toList.head?.all u.isalnum = param.toList.head?.all Char.isAlphanum := by
    cases hcs : param.toList with
    | nil => rfl
    | cons c cs =>
      have hmem : c ∈ param.toList := hcs ▸ List.mem_cons_self
      exact u.ascii_isalnum c (lt_of_isPlain (hplain c hmem))
  unfold safeSellerRef
  rw [strip_of_plain hplain]
  dsimp only
  rw [if_neg (not_not.mpr ⟨hlow, hhigh⟩), hkeeps, if_neg (by simp), hhead]
  split <;> simp_all

theorem safeKeyId_of_isKeyId (h : isKeyId param.toList = true) : safeKeyId u param = .ok param := by
  obtain ⟨hchars, hlow, hhigh⟩ := many_iff.mp h
  have hkeeps : u.Keeps ['_', '-'] 80 param := by
    refine ⟨fun c hc => ?_, hhigh⟩
    have hc' := hchars c hc
    have hlt := lt_of_isPlain (isPlain_of_isRefChar (isRefChar_of_isKeyChar hc'))
    simp only [isKeyChar, Bool.or_eq_true, decide_eq_true_eq] at hc'
    rcases hc' with (hc' | rfl) | rfl
    · exact Unicode.keeps_of_alnum (by rw [u.ascii_isalnum c hlt, hc'])
    all_goals exact Unicode.keeps_of_mem (by decide)
  have hne : param ≠ "" := by
    rintro rfl
    exact absurd hlow (by decide)
  rw [safeKeyId, hkeeps.keepOnly, if_neg hne]

/-- A record id that the proxy lets through is the number that it spells, and is refused when that is zero. -/
theorem safeRecordIdText_of_isRecordId (h : isRecordId param.toList = true) : safeRecordIdText env param =
    if Nanopayments.number param.toList ≠ 0 then .ok (Nanopayments.number param.toList : Int)
    else .error (.value "settlement record id is required") := by
  obtain ⟨hdigits, hlow, hhigh⟩ := many_iff.mp h
  have hplain : ∀ c ∈ param.toList, Url.isPlain c = true :=
    fun c hc => isPlain_of_isRefChar (isRefChar_of_isDigit (hdigits c hc))
  have hne : param.toList ≠ [] := by
    intro hnil
    rw [hnil] at hlow
    exact absurd hlow (by decide)
  have hisDigits : env.rendering.unicode.isDigits param.toList = true := by
    rw [Unicode.isDigits, Bool.and_eq_true, List.all_eq_true]
    refine ⟨by simpa using hne, fun c hc => ?_⟩
    rw [env.rendering.unicode.ascii_isdigit c (lt_of_isPlain (hplain c hc)), hdigits c hc]
  have hnumber := Nanopayments.ofText_number (u := env.rendering.decimals) (.inl rfl) hne hdigits
  rw [List.nil_append, String.ofList_toList, if_pos (by omega)] at hnumber
  have hpositive : PyDecimal.signed (decide (([] : List Char) = ['-'])) (Nanopayments.number param.toList) =
      Nanopayments.number param.toList := rfl
  unfold safeRecordIdText
  rw [strip_of_plain hplain]
  dsimp only
  rw [hisDigits, hnumber, hpositive]
  by_cases hzero : Nanopayments.number param.toList = 0
  · simp [hzero]
  · simp [hzero]

/-- A reference of ASCII characters that the control plane takes as it is. -/
theorem isRef_of_safeSellerRef (h : safeSellerRef u param = .ok param) (hascii : ∀ c ∈ param.toList, c.toNat < 128) :
    isRef param.toList = true := by
  unfold safeSellerRef at h
  dsimp only at h
  split at h
  · cases h
  · rename_i hlength
    split at h
    · cases h
    · rename_i hkeeps
      split at h
      · cases h
      · have hstrip := Except.ok.inj h
        rw [hstrip] at hlength hkeeps
        obtain ⟨hlow, hhigh⟩ := not_not.mp hlength
        rw [not_not, List.all_eq_true] at hkeeps
        refine many_iff.mpr ⟨fun c hc => ?_, hlow, hhigh⟩
        have hc' := hkeeps c hc
        simp only [Unicode.keeps, u.ascii_isalnum c (hascii c hc), Bool.or_eq_true, List.contains_iff_mem,
          List.mem_cons, List.not_mem_nil, or_false] at hc'
        rcases hc' with hc' | rfl | rfl | rfl
        · simp [isRefChar, hc']
        all_goals decide

theorem ite_map_ok {α : Type} {p : Prop} [Decidable p] {a : α} {e : PyErr} :
    Except.map (fun _ => ()) (if p then .ok a else .error e : Except PyErr α) = .ok () ↔ p := by
  by_cases h : p <;> simp [h, Except.map]

theorem checkPath_iff (h : call.WellFormed) : call.checkPath env = .ok () ↔ call.Accepted := by
  cases call with
  | overview => exact iff_of_true rfl trivial
  | pauses => exact iff_of_true rfl trivial
  | sellers => exact iff_of_true rfl trivial
  | reconciliation => exact iff_of_true rfl trivial
  | settlement recordId | act action recordId =>
    rw [Call.checkPath, safeRecordIdText_of_isRecordId h, ite_map_ok]
    rfl
  | seller sellerRef | apiKeys sellerRef =>
    rw [Call.checkPath, safeSellerRef_of_isRef h, ite_map_ok]
    rfl
  | revoke sellerRef keyId =>
    rw [Call.checkPath, safeSellerRef_of_isRef h.1, safeKeyId_of_isKeyId h.2, Call.Accepted]
    split
    · exact iff_of_true rfl ‹_›
    · exact iff_of_false (by simp [bind, Except.bind]) ‹_›

/-! ## The route at the control plane -/

/-- A parameter that is let through is its own encoding. -/
theorem segments_encode (h : call.WellFormed) : call.segments Url.encodeComponent = call.segments id := by
  have hsame : ∀ {p : Char → Bool} {low high : Nat} {cs : List Char}, (∀ c, p c = true → Url.isPlain c = true) →
      many p low high cs = true → Url.encodeComponent cs = cs := fun hp hm =>
    Url.encodeComponent_of_unescaped fun c hc => Url.isUnescaped_of_isPlain (hp c ((many_iff.mp hm).1 c hc))
  have hrecord : ∀ {cs : List Char}, isRecordId cs = true → Url.encodeComponent cs = cs :=
    hsame fun _ hc => isPlain_of_isRefChar (isRefChar_of_isDigit hc)
  have href : ∀ {cs : List Char}, isRef cs = true → Url.encodeComponent cs = cs := hsame fun _ => isPlain_of_isRefChar
  have hkey : ∀ {cs : List Char}, isKeyId cs = true → Url.encodeComponent cs = cs :=
    hsame fun _ hc => isPlain_of_isRefChar (isRefChar_of_isKeyChar hc)
  cases call with
  | overview | pauses | sellers | reconciliation => rfl
  | settlement recordId | act action recordId => simp only [Call.segments, hrecord h, id]
  | seller sellerRef | apiKeys sellerRef => simp only [Call.segments, href h, id]
  | revoke sellerRef keyId => simp only [Call.segments, href h.1, hkey h.2, id]

theorem planeRoute_segments (h : call.WellFormed) : planeRoute ((call.segments id).map String.ofList) = some call := by
  have hne : ∀ {p : Char → Bool} {low high : Nat} {param : String}, 0 < low → many p low high param.toList = true →
      param ≠ "" := by
    rintro p low high param hlow hm rfl
    have hlength := (many_iff.mp hm).2.1
    exact absurd hlength (by simpa using Nat.ne_of_gt hlow)
  cases call with
  | overview | pauses | sellers | reconciliation => rfl
  | settlement recordId =>
    have hparam : recordId ≠ "" := hne (by decide) h
    simp [Call.segments, planeRoute, withParam, hparam]
  | act action recordId =>
    have hparam : recordId ≠ "" := hne (by decide) h
    cases action <;> simp [Call.segments, actionName, planeRoute, withParam, hparam]
  | seller sellerRef | apiKeys sellerRef =>
    have hparam : sellerRef ≠ "" := hne (by decide) h
    simp [Call.segments, planeRoute, withParam, hparam]
  | revoke sellerRef keyId =>
    have hparam : sellerRef ≠ "" := hne (by decide) h.1
    have hkey : keyId ≠ "" := hne (by decide) h.2
    simp [Call.segments, planeRoute, withParam, hparam, hkey]

theorem segments_plain (h : call.WellFormed) : ∀ s ∈ call.segments id, Url.Plain s := by
  have hliteral : ∀ s ∈ ["ops", "api", "overview", "pauses", "sellers", "reconciliation", "settlements", "api-keys",
      "revoke", "claim", "release", "manual-review"], Url.Plain s.toList :=
    fun s hs => plain_of_all (by revert s; decide)
  have haction : ∀ action, Url.Plain (actionName action).toList := by
    intro action
    cases action <;> exact hliteral _ (by decide)
  cases call with
  | overview | pauses | sellers | reconciliation =>
    simp only [Call.segments, List.forall_mem_cons, List.not_mem_nil, false_implies, implies_true, and_true]
    exact ⟨hliteral _ (by decide), hliteral _ (by decide), hliteral _ (by decide)⟩
  | settlement recordId =>
    simp only [Call.segments, List.forall_mem_cons, List.not_mem_nil, false_implies, implies_true, and_true, id]
    exact ⟨hliteral _ (by decide), hliteral _ (by decide), hliteral _ (by decide), isRecordId_plain _ h⟩
  | act action recordId =>
    simp only [Call.segments, List.forall_mem_cons, List.not_mem_nil, false_implies, implies_true, and_true, id]
    exact ⟨hliteral _ (by decide), hliteral _ (by decide), hliteral _ (by decide), isRecordId_plain _ h, haction action⟩
  | seller sellerRef =>
    simp only [Call.segments, List.forall_mem_cons, List.not_mem_nil, false_implies, implies_true, and_true, id]
    exact ⟨hliteral _ (by decide), hliteral _ (by decide), hliteral _ (by decide), isRef_plain _ h⟩
  | apiKeys sellerRef =>
    simp only [Call.segments, List.forall_mem_cons, List.not_mem_nil, false_implies, implies_true, and_true, id]
    exact ⟨hliteral _ (by decide), hliteral _ (by decide), hliteral _ (by decide), isRef_plain _ h, hliteral _ (by decide)⟩
  | revoke sellerRef keyId =>
    simp only [Call.segments, List.forall_mem_cons, List.not_mem_nil, false_implies, implies_true, and_true, id]
    exact ⟨hliteral _ (by decide), hliteral _ (by decide), hliteral _ (by decide), isRef_plain _ h.1,
      hliteral _ (by decide), isKeyId_plain _ h.2, hliteral _ (by decide)⟩

/-- The URL that is requested has the segments of the call. -/
theorem resolve_path (h : call.WellFormed) (hsearch : Url.IsQuery search) :
    ∃ rest, Url.resolve (call.path search).toList = .path (call.segments id) rest := by
  have hquery : Url.IsQuery (if call = .reconciliation then search else []) := by
    split
    · exact hsearch
    · exact .inl rfl
  obtain ⟨segments, hsegments⟩ : ∃ segments, call.segments id = "ops".toList :: segments := by
    cases call <;> exact ⟨_, rfl⟩
  have hplain := segments_plain h
  rw [hsegments, List.forall_mem_cons] at hplain
  rw [Call.path, String.toList_ofList, segments_encode h, hsegments]
  exact Url.resolve_rooted hplain.1 (by decide) hplain.2 hquery

end Calls

/-- **The console and the control plane read the same path.** A call is let through exactly when its parameters are
digits, a reference or a key id of ASCII characters; then the URL that is requested is on the host of the control plane,
with the segments of the path as they stand, and the control plane runs the same route with the very same parameters.
It refuses them only for a reference that begins with no letter or digit, or for the number zero. And a seller whose
reference it takes and that is ASCII can be called. -/
theorem console_paths_agree (env : ControlPlane.Env) (call : Call) (search : List Char) (hsearch : Url.IsQuery search) :
    (isAllowedOpsPath (call.path search) = true ↔ call.WellFormed) ∧
      (isAllowedOpsPath (call.path search) = true → ∃ segments rest,
        Url.resolve (call.path search).toList = .path segments rest ∧
          planeRoute (segments.map String.ofList) = some call ∧ (call.checkPath env = .ok () ↔ call.Accepted)) ∧
      ∀ sellerRef, safeSellerRef env.rendering.unicode sellerRef = .ok sellerRef →
        (∀ c ∈ sellerRef.toList, c.toNat < 128) → (Call.seller sellerRef).WellFormed := by
  refine ⟨isAllowedOpsPath_iff hsearch, fun h => ?_, fun sellerRef => isRef_of_safeSellerRef⟩
  have hwell := (isAllowedOpsPath_iff hsearch).mp h
  obtain ⟨rest, hresolve⟩ := resolve_path hwell hsearch
  exact ⟨_, rest, hresolve, planeRoute_segments hwell, checkPath_iff hwell⟩

/-- A key of a seller is revoked. -/
theorem console_paths_agree_revoke : ∃ segments rest,
    Url.resolve ((Call.revoke "shop-1" "key_1").path []).toList = .path segments rest ∧
      planeRoute (segments.map String.ofList) = some (.revoke "shop-1" "key_1") ∧
        (Call.revoke "shop-1" "key_1").checkPath ControlPlane.opsEnv = .ok () := by
  have hagree := console_paths_agree ControlPlane.opsEnv (.revoke "shop-1" "key_1") [] (.inl rfl)
  have hwell : (Call.revoke "shop-1" "key_1").WellFormed := ⟨by decide, by decide⟩
  have haccepted : (Call.revoke "shop-1" "key_1").Accepted := by
    show "shop-1".toList.head?.all Char.isAlphanum = true
    decide
  obtain ⟨segments, rest, hresolve, hroute, hcheck⟩ := hagree.2.1 (hagree.1.mpr hwell)
  exact ⟨segments, rest, hresolve, hroute, hcheck.mpr haccepted⟩

end HostedFacilitator.Console
