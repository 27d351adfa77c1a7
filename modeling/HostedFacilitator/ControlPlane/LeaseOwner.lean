import HostedFacilitator.Postgres.Operator

/-!
# The key of a lease owner

`_safe_operator_lease_owner` turns the subject and the issuer of an operator into a key: a readable name, a full stop and
24 digits of a digest. The control plane applies it again to the key, without the issuer, and so does the store; the
operations console computes the key in its own language (`operatorLeaseOwner`), to recognise its leases.

A key is left alone only where its name is ASCII (`safeOperatorLeaseOwner_key`), while the name keeps every letter that
Unicode knows, and the console does not strip the subject. `leaseOwner_agrees_iff` says when the stored owner is the
console's.
-/

namespace HostedFacilitator

/-- `hashlib.sha256(..).hexdigest()`: 64 digits. -/
structure Sha256 where
  hexdigest : String → String
  digits : ∀ s, ∀ c ∈ (hexdigest s).toList, c ∈ "0123456789abcdef".toList
  length_eq : ∀ s, (hexdigest s).toList.length = 64

/-- `sha256(f"{issuer}\0{subject}").hexdigest()[:24]`. -/
def Sha256.digest (sha256 : Sha256) (issuer subject : String) : List Char :=
  (sha256.hexdigest (issuer ++ "\x00" ++ subject)).toList.take 24

/-- A name, a full stop and a digest. -/
def leaseKey (name digest : List Char) : String := String.ofList (name ++ '.' :: digest)

/-- `[A-Za-z0-9_.@-]`. -/
def isOwnerChar (c : Char) : Bool := c.isAlphanum || ['_', '.', '@', '-'].contains c

section Keys

variable (u : Unicode) (sha256 : Sha256)

/-- `str(value).strip() or "unknown"`. -/
def leaseSubject (value : String) : String := orDefault (strip value) "unknown"

/-- `_safe_actor(subject)[:48]`. -/
def leaseName (subject : String) : List Char := (safeActor u subject).toList.take 48

/-- `_safe_operator_lease_owner`, with an issuer. -/
def safeOperatorLeaseOwnerWith (value issuer : String) : String :=
  let subject := leaseSubject value
  if issuer = "" ∧ isLeaseOwner subject = true then subject
  else leaseKey (leaseName u subject) (sha256.digest issuer subject)

/-- What the store writes to `reconciliation_owner` for an operator: the key, as the control plane and then the store
read it. -/
def reconciliationOwner (subject issuer : String) : String :=
  safeOperatorLeaseOwner u sha256.hexdigest
    (safeOperatorLeaseOwner u sha256.hexdigest (safeOperatorLeaseOwnerWith u sha256 subject issuer))

/-- `operatorLeaseOwner` of the console. -/
def operatorLeaseOwner (subject issuer : String) : String :=
  let safeSubject := (subject.toList.filter isOwnerChar).take 48
  leaseKey (if safeSubject = [] then "unknown".toList else safeSubject) (sha256.digest issuer subject)

end Keys

section Keys

variable {u : Unicode} {sha256 : Sha256} {name digest name' digest' : List Char} {s t issuer : String} {c : Char}

@[simp] theorem toList_leaseKey : (leaseKey name digest).toList = name ++ '.' :: digest := String.toList_ofList

theorem leaseKey_inj (hd : digest.length = digest'.length) :
    leaseKey name digest = leaseKey name' digest' ↔ name = name' ∧ digest = digest' := by
  rw [← String.toList_inj, toList_leaseKey, toList_leaseKey]
  constructor
  · intro h
    obtain ⟨hn, hdot⟩ := List.append_inj' h (by simp [hd])
    exact ⟨hn, (List.cons.inj hdot).2⟩
  · rintro ⟨rfl, rfl⟩
    rfl

theorem Sha256.length_digest : (sha256.digest issuer s).length = 24 := by
  rw [Sha256.digest, List.length_take, sha256.length_eq]
  rfl

theorem Sha256.mem_digest (h : c ∈ sha256.digest issuer s) : c ∈ "0123456789abcdef".toList :=
  sha256.digits _ c (List.mem_of_mem_take h)

theorem leaseKey_eq : leaseKey name digest = String.ofList name ++ "." ++ String.ofList digest := by
  rw [← String.toList_inj, toList_leaseKey, String.toList_append, String.toList_append, String.toList_ofList,
    String.toList_ofList, String.toList_ofList, List.append_assoc, List.singleton_append]

theorem safeOperatorLeaseOwnerWith_eq :
    safeOperatorLeaseOwnerWith u sha256 s issuer =
      if issuer = "" ∧ isLeaseOwner (leaseSubject s) = true then leaseSubject s
      else leaseKey (leaseName u (leaseSubject s)) (sha256.digest issuer (leaseSubject s)) := rfl

/-- Without an issuer it is what the store calls. -/
theorem safeOperatorLeaseOwner_eq (value : String) :
    safeOperatorLeaseOwner u sha256.hexdigest value = safeOperatorLeaseOwnerWith u sha256 value "" := by
  have hdigest : (sha256.hexdigest ("\x00" ++ leaseSubject value)).toList.take 24 =
      sha256.digest "" (leaseSubject value) := by
    rw [Sha256.digest, String.empty_append]
  simp only [safeOperatorLeaseOwnerWith, true_and, leaseKey_eq, ← hdigest]
  delta safeOperatorLeaseOwner leaseName
  rfl

/-! ## The characters of a key -/

theorem lt_of_isAlphanum (h : c.isAlphanum = true) : c.toNat < 128 := by
  have hval : c.toNat = c.val.toNat := rfl
  have halnum : c.isAlphanum = (decide (c.val ≥ 'A'.val ∧ c.val ≤ 'Z'.val) ||
      decide (c.val ≥ 'a'.val) && decide (c.val ≤ 'z'.val) ||
      decide (c.val ≥ '0'.val) && decide (c.val ≤ '9'.val)) := rfl
  simp only [halnum, Bool.or_eq_true, Bool.and_eq_true, decide_eq_true_eq, ge_iff_le, UInt32.le_iff_toNat_le] at h
  have hupper : 'Z'.val.toNat = 90 := rfl
  have hlower : 'z'.val.toNat = 122 := rfl
  have hdigit : '9'.val.toNat = 57 := rfl
  omega

/-- What the console keeps, the control plane keeps. -/
theorem keeps_of_isOwnerChar (h : isOwnerChar c = true) : u.keeps ['_', '-', '.', '@'] c = true := by
  simp only [isOwnerChar, Bool.or_eq_true, List.contains_iff_mem] at h
  rcases h with h | h
  · exact Unicode.keeps_of_alnum (by rw [u.ascii_isalnum c (lt_of_isAlphanum h), h])
  · refine Unicode.keeps_of_mem ?_
    revert h
    simp only [List.mem_cons, List.not_mem_nil, or_false]
    tauto

theorem isPySpace_of_keeps (h : u.keeps ['_', '-', '.', '@'] c = true) : isPySpace c = false := by
  by_contra hspace
  rw [Bool.not_eq_false] at hspace
  simp only [Unicode.keeps, u.not_alnum_of_space c hspace, Bool.false_or, List.contains_iff_mem] at h
  simp only [List.mem_cons, List.not_mem_nil, or_false] at h
  rcases h with rfl | rfl | rfl | rfl <;> exact absurd hspace (by decide)

theorem filter_isOwnerChar_strip (s : String) : (strip s).toList.filter isOwnerChar = s.toList.filter isOwnerChar :=
  filter_strip (fun _ hc => isPySpace_of_keeps (u := .ascii) (keeps_of_isOwnerChar hc)) s

theorem isOwnerChar_of_hex (h : c ∈ "0123456789abcdef".toList) : isOwnerChar c = true := by
  have hall : "0123456789abcdef".toList.all isOwnerChar = true := by decide
  exact List.all_eq_true.mp hall c h

/-! ## Recognising a key -/

/-- The texts that the regular expression matches. -/
structure IsKey (name digest : List Char) : Prop where
  length_eq : digest.length = 24
  hex : ∀ c ∈ digest, c ∈ "0123456789abcdef".toList
  ne_nil : name ≠ []
  length_le : name.length ≤ 48
  chars : ∀ c ∈ name, isOwnerChar c = true

theorem isLeaseOwner_leaseKey (hlen : digest.length = 24) (hhex : ∀ c ∈ digest, c ∈ "0123456789abcdef".toList) :
    isLeaseOwner (leaseKey name digest) = true ↔ name ≠ [] ∧ name.length ≤ 48 ∧ ∀ c ∈ name, isOwnerChar c = true := by
  have htotal : (name ++ '.' :: digest).length = name.length + 25 := by simp [hlen]
  have hdrop : (name ++ '.' :: digest).drop (name.length + 1) = digest := by simp
  have hhex' : digest.all (fun c => "0123456789abcdef".toList.contains c) = true := by
    simpa using hhex
  have hpos : 25 < name.length + 25 ↔ name ≠ [] := by
    rw [← List.length_pos_iff]
    omega
  simp only [isLeaseOwner, toList_leaseKey, htotal, show name.length + 25 - 25 = name.length by omega,
    show name.length + 25 - 24 = name.length + 1 by omega, List.take_left, hdrop, hhex', Bool.and_true,
    Bool.and_eq_true, decide_eq_true_eq, hpos, List.all_eq_true, List.getElem?_append_right (Nat.le_refl _),
    Nat.sub_self, List.getElem?_cons_zero, beq_self_eq_true, and_assoc]
  rfl

theorem IsKey.isLeaseOwner (h : IsKey name digest) : isLeaseOwner (leaseKey name digest) = true :=
  (isLeaseOwner_leaseKey h.length_eq h.hex).mpr ⟨h.ne_nil, h.length_le, h.chars⟩

theorem exists_isKey (h : isLeaseOwner s = true) : ∃ name digest, s = leaseKey name digest ∧ IsKey name digest := by
  simp only [isLeaseOwner, Bool.and_eq_true, decide_eq_true_eq, List.all_eq_true, beq_iff_eq,
    List.contains_iff_mem] at h
  obtain ⟨⟨⟨⟨hlen, hname⟩, hchars⟩, hdot⟩, hhex⟩ := h
  obtain ⟨hlt, hget⟩ := List.getElem?_eq_some_iff.mp hdot
  have hdrop : s.toList.drop (s.toList.length - 25) = '.' :: s.toList.drop (s.toList.length - 24) := by
    rw [List.drop_eq_getElem_cons hlt, hget]
    congr 2
    omega
  refine ⟨s.toList.take (s.toList.length - 25), s.toList.drop (s.toList.length - 24), ?_, ?_⟩
  · rw [leaseKey, ← hdrop, List.take_append_drop, String.ofList_toList]
  · refine ⟨?_, hhex, ?_, hname, fun c hc => ?_⟩
    · rw [List.length_drop]
      omega
    · rw [← List.length_pos_iff, List.length_take]
      omega
    · rw [isOwnerChar, Bool.or_eq_true, List.contains_iff_mem]
      simpa using hchars c hc

/-! ## Applying it again -/

/-- What `_safe_actor` lets through. -/
def KeepsAll (u : Unicode) (name : List Char) : Prop := ∀ c ∈ name, u.keeps ['_', '-', '.', '@'] c = true

theorem keeps_leaseKey (hname : KeepsAll u name) (hhex : ∀ c ∈ digest, c ∈ "0123456789abcdef".toList) :
    KeepsAll u (leaseKey name digest).toList := by
  intro c hc
  rw [toList_leaseKey, List.mem_append, List.mem_cons] at hc
  rcases hc with hc | rfl | hc
  · exact hname c hc
  · exact Unicode.keeps_of_mem (by decide)
  · exact keeps_of_isOwnerChar (isOwnerChar_of_hex (hhex c hc))

theorem leaseKey_ne : leaseKey name digest ≠ "" := by
  intro h
  have hlist := congrArg String.toList h
  rw [toList_leaseKey] at hlist
  exact absurd (List.append_eq_nil_iff.mp hlist).2 (by simp)

/-- A key has no spaces to strip. -/
theorem leaseSubject_leaseKey (hname : KeepsAll u name) (hhex : ∀ c ∈ digest, c ∈ "0123456789abcdef".toList) :
    leaseSubject (leaseKey name digest) = leaseKey name digest := by
  have hkeeps := keeps_leaseKey hname hhex
  have hstrip : strip (leaseKey name digest) = leaseKey name digest :=
    strip_of_ends (fun c hc => isPySpace_of_keeps (hkeeps c (List.mem_of_mem_head? hc)))
      fun c hc => isPySpace_of_keeps (hkeeps c (List.mem_of_mem_getLast? hc))
  rw [leaseSubject, hstrip, orDefault, if_neg leaseKey_ne]

theorem leaseName_leaseKey (hname : KeepsAll u name) (hhex : ∀ c ∈ digest, c ∈ "0123456789abcdef".toList)
    (hlen : name.length ≤ 48) (hdigest : digest.length = 24) :
    leaseName u (leaseKey name digest) = (name ++ '.' :: digest).take 48 := by
  have hkeeps : u.Keeps ['_', '-', '.', '@'] 96 (leaseKey name digest) := by
    refine ⟨keeps_leaseKey hname hhex, ?_⟩
    rw [toList_leaseKey, List.length_append, List.length_cons]
    omega
  rw [leaseName, safeActor, hkeeps.orDefault_keepOnly leaseKey_ne, toList_leaseKey]

theorem keeps_leaseName : KeepsAll u (leaseName u s) := by
  have hkeeps : u.Keeps ['_', '-', '.', '@'] 96 (safeActor u s) :=
    keeps_orDefault (keeps_ascii (List.all_iff_forall_prop.mp (by decide)) (by decide))
  exact fun c hc => hkeeps.1 c (List.mem_of_mem_take hc)

theorem leaseName_ne : leaseName u s ≠ [] := by
  have hne : safeActor u s ≠ "" := orDefault_ne (by decide)
  rw [leaseName, ne_eq, List.take_eq_nil_iff, not_or]
  exact ⟨by decide, fun h => hne (String.toList_inj.mp h)⟩

theorem length_leaseName : (leaseName u s).length ≤ 48 := by
  rw [leaseName, List.length_take]
  exact Nat.min_le_left _ _

variable (sha256) in
/-- A key is left alone where its name is ASCII, and becomes the name of another key elsewhere. -/
theorem safeOperatorLeaseOwner_key (hname : KeepsAll u name) (hne : name ≠ []) (hlen : name.length ≤ 48)
    (hhex : ∀ c ∈ digest, c ∈ "0123456789abcdef".toList) (hdigest : digest.length = 24) :
    safeOperatorLeaseOwner u sha256.hexdigest (leaseKey name digest) =
      if name.all isOwnerChar then leaseKey name digest
      else leaseKey ((name ++ '.' :: digest).take 48) (sha256.digest "" (leaseKey name digest)) := by
  have howner : isLeaseOwner (leaseKey name digest) = true ↔ name.all isOwnerChar = true := by
    rw [isLeaseOwner_leaseKey hdigest hhex, List.all_eq_true]
    exact ⟨fun h => h.2.2, fun h => ⟨hne, hlen, h⟩⟩
  rw [safeOperatorLeaseOwner_eq, safeOperatorLeaseOwnerWith]
  simp only [leaseSubject_leaseKey hname hhex, true_and, howner, leaseName_leaseKey hname hhex hlen hdigest]

theorem leaseSubject_cases (s : String) :
    strip s = "" ∧ leaseSubject s = "unknown" ∨ strip s ≠ "" ∧ leaseSubject s = strip s := by
  by_cases h : strip s = ""
  · exact .inl ⟨h, by rw [leaseSubject, h, orDefault, if_pos rfl]⟩
  · exact .inr ⟨h, by rw [leaseSubject, orDefault, if_neg h]⟩

/-! ## The name of the console -/

/-- The name that the console writes. -/
def consoleName (subject : String) : List Char :=
  if (subject.toList.filter isOwnerChar).take 48 = [] then "unknown".toList
  else (subject.toList.filter isOwnerChar).take 48

theorem operatorLeaseOwner_eq :
    operatorLeaseOwner sha256 s issuer = leaseKey (consoleName s) (sha256.digest issuer s) := rfl

theorem consoleName_chars : ∀ c ∈ consoleName s, isOwnerChar c = true := by
  intro c hc
  unfold consoleName at hc
  split at hc
  · have hall : "unknown".toList.all isOwnerChar = true := by decide
    exact List.all_eq_true.mp hall c hc
  · exact (List.mem_filter.mp (List.mem_of_mem_take hc)).2

/-- A filter that keeps the first characters of a text keeps them in front. -/
theorem take_filter_of_take {p : Char → Bool} {l : List Char} {n : Nat} (h : ∀ c ∈ l.take n, p c = true) :
    (l.filter p).take n = l.take n := by
  conv_lhs => rw [← List.take_append_drop n l, List.filter_append, List.filter_eq_self.mpr h]
  rcases Nat.le_total n l.length with hn | hn
  · have hlen : (l.take n).length = n := by rw [List.length_take, Nat.min_eq_left hn]
    exact List.take_left' hlen
  · rw [List.drop_of_length_le hn, List.filter_nil, List.append_nil, List.take_take, Nat.min_self]

theorem safeActor_unknown : safeActor u "unknown" = "unknown" :=
  (keeps_ascii (List.all_iff_forall_prop.mp (by decide)) (by decide)).orDefault_keepOnly (by decide)

/-- Where the control plane's name is ASCII it is the console's. -/
theorem leaseName_eq_consoleName (h : ∀ c ∈ leaseName u (leaseSubject s), isOwnerChar c = true) :
    leaseName u (leaseSubject s) = consoleName s := by
  have hfilter := filter_isOwnerChar_strip s
  rcases leaseSubject_cases s with ⟨hblank, hsubject⟩ | ⟨-, hsubject⟩
  · have hconsole : consoleName s = "unknown".toList := by
      rw [consoleName, ← hfilter, hblank]
      rfl
    rw [hsubject, hconsole, leaseName, safeActor_unknown]
    decide
  · let kept := (strip s).toList.filter (u.keeps ['_', '-', '.', '@'])
    have hascii : s.toList.filter isOwnerChar = kept.filter isOwnerChar := by
      rw [← hfilter, List.filter_filter]
      refine List.filter_congr fun c _ => ?_
      cases hc : isOwnerChar c with
      | true => rw [keeps_of_isOwnerChar hc]; rfl
      | false => rfl
    have hname : leaseName u (strip s) = if kept = [] then "unknown".toList else kept.take 48 := by
      by_cases hk : kept = []
      · have hempty : u.keepOnly ['_', '-', '.', '@'] 96 (strip s) = "" := by
          rw [Unicode.keepOnly, show (strip s).toList.filter _ = [] from hk]
          rfl
        rw [if_pos hk, leaseName, safeActor, hempty]
        decide
      · have hne : u.keepOnly ['_', '-', '.', '@'] 96 (strip s) ≠ "" := by
          intro he
          have hlist := congrArg String.toList he
          rw [Unicode.keepOnly, String.toList_ofList, String.toList_empty, List.take_eq_nil_iff] at hlist
          exact hk (hlist.resolve_left (by decide))
        rw [if_neg hk, leaseName, safeActor, orDefault, if_neg hne, Unicode.keepOnly, String.toList_ofList,
          List.take_take]
        rfl
    rw [hsubject, hname] at h ⊢
    by_cases hk : kept = []
    · rw [if_pos hk, consoleName, hascii, hk]
      rfl
    · rw [if_neg hk] at h ⊢
      have hne : kept.take 48 ≠ [] := by
        rw [ne_eq, List.take_eq_nil_iff]
        exact fun hor => hk (hor.resolve_left (by decide))
      rw [consoleName, hascii, take_filter_of_take h, if_neg hne]

/-! ## Agreement -/

/-- A key that is used as a subject: the console shortens it and adds a digest of its own. -/
theorem operatorLeaseOwner_of_key (h : isLeaseOwner (leaseSubject s) = true) :
    leaseSubject s = operatorLeaseOwner sha256 s issuer ↔
      (leaseSubject s).toList.length = 73 ∧ (leaseSubject s).toList.drop 49 = sha256.digest issuer s := by
  obtain ⟨name, digest, hs, hkey⟩ := exists_isKey h
  have hchars : ∀ c ∈ name ++ '.' :: digest, isOwnerChar c = true := by
    intro c hc
    rw [List.mem_append, List.mem_cons] at hc
    rcases hc with hc | rfl | hc
    · exact hkey.chars c hc
    · decide
    · exact isOwnerChar_of_hex (hkey.hex c hc)
  have hconsole : consoleName s = (name ++ '.' :: digest).take 48 := by
    rcases leaseSubject_cases s with ⟨-, hsubject⟩ | ⟨-, hsubject⟩
    · rw [hsubject] at h
      exact absurd h (by decide)
    · have hne : (name ++ '.' :: digest).take 48 ≠ [] := by simp
      rw [consoleName, ← filter_isOwnerChar_strip, ← hsubject, hs, toList_leaseKey, List.filter_eq_self.mpr hchars,
        if_neg hne]
  have hlen : (name ++ '.' :: digest).length = name.length + 25 := by simp [hkey.length_eq]
  have hname : name = (name ++ '.' :: digest).take 48 ↔ name.length = 48 := by
    constructor
    · intro heq
      have := congrArg List.length heq
      have := hkey.length_le
      rw [List.length_take, hlen] at *
      omega
    · exact fun heq => (List.take_left' heq).symm
  rw [operatorLeaseOwner_eq, hs, leaseKey_inj (hkey.length_eq.trans Sha256.length_digest.symm), hconsole, hname,
    toList_leaseKey, hlen]
  have hdrop : name.length = 48 → (name ++ '.' :: digest).drop 49 = digest := by
    intro h48
    rw [List.append_cons]
    exact List.drop_left' (by simp [h48])
  constructor
  · rintro ⟨h48, hd⟩
    exact ⟨by omega, (hdrop h48).trans hd⟩
  · rintro ⟨h73, hd⟩
    have h48 : name.length = 48 := by omega
    exact ⟨h48, (hdrop h48).symm.trans hd⟩

/-- **The console recognises its leases** when it and the control plane derive the same name and the same digest. -/
theorem leaseOwner_agrees_iff (u : Unicode) (sha256 : Sha256) (subject issuer : String) :
    (safeOperatorLeaseOwner u sha256.hexdigest (safeOperatorLeaseOwnerWith u sha256 subject issuer) =
        safeOperatorLeaseOwnerWith u sha256 subject issuer ∧
      reconciliationOwner u sha256 subject issuer = operatorLeaseOwner sha256 subject issuer) ↔
    if issuer = "" ∧ isLeaseOwner (leaseSubject subject) = true then
      (leaseSubject subject).toList.length = 73 ∧ (leaseSubject subject).toList.drop 49 = sha256.digest issuer subject
    else
      (∀ c ∈ leaseName u (leaseSubject subject), isOwnerChar c = true) ∧
        sha256.digest issuer (leaseSubject subject) = sha256.digest issuer subject := by
  split
  · rename_i hkey
    obtain ⟨rfl, howner⟩ := hkey
    have hfixed : safeOperatorLeaseOwner u sha256.hexdigest (leaseSubject subject) = leaseSubject subject := by
      obtain ⟨name, digest, hs, hkey⟩ := exists_isKey howner
      rw [hs, safeOperatorLeaseOwner_key sha256 (fun c hc => keeps_of_isOwnerChar (hkey.chars c hc)) hkey.ne_nil
        hkey.length_le hkey.hex hkey.length_eq, if_pos (List.all_eq_true.mpr hkey.chars)]
    have hwith : safeOperatorLeaseOwnerWith u sha256 subject "" = leaseSubject subject := by
      rw [safeOperatorLeaseOwnerWith_eq, if_pos ⟨rfl, howner⟩]
    rw [reconciliationOwner, hwith, hfixed, hfixed, ← operatorLeaseOwner_of_key howner]
    exact and_iff_right rfl
  · rename_i hkey
    have hwith : safeOperatorLeaseOwnerWith u sha256 subject issuer =
        leaseKey (leaseName u (leaseSubject subject)) (sha256.digest issuer (leaseSubject subject)) := by
      rw [safeOperatorLeaseOwnerWith_eq, if_neg hkey]
    have hkeeps : KeepsAll u (leaseName u (leaseSubject subject)) := keeps_leaseName
    have hhex : ∀ c ∈ sha256.digest issuer (leaseSubject subject), c ∈ "0123456789abcdef".toList :=
      fun c hc => Sha256.mem_digest hc
    have hagain := safeOperatorLeaseOwner_key sha256 hkeeps leaseName_ne length_leaseName hhex Sha256.length_digest
    have hlengths : (sha256.digest issuer (leaseSubject subject)).length = (sha256.digest issuer subject).length := by
      rw [Sha256.length_digest, Sha256.length_digest]
    rw [reconciliationOwner, hwith, operatorLeaseOwner_eq]
    by_cases hascii : ∀ c ∈ leaseName u (leaseSubject subject), isOwnerChar c = true
    · rw [if_pos (List.all_eq_true.mpr hascii)] at hagain
      rw [hagain, hagain, leaseKey_inj hlengths, leaseName_eq_consoleName hascii]
      exact ⟨fun h => ⟨consoleName_chars, h.2.2⟩, fun h => ⟨rfl, rfl, h.2⟩⟩
    · refine iff_of_false (fun h => ?_) fun h => hascii h.1
      -- a key that is left alone is the one that is stored, and the console's name is ASCII
      obtain ⟨hidem, hsame⟩ := h
      rw [hidem, hidem, leaseKey_inj hlengths] at hsame
      exact hascii (hsame.1 ▸ consoleName_chars)

end Keys

/-- The store gets the key as the control plane reads it, and reads it once more. -/
theorem prepare_owner {u : Unicode} {sha256 : Sha256} {fresh : Uuid} {call : Postgres.OperatorCall}
    {action : Postgres.Db.ControlAction} {subject issuer : String}
    (howner : call.owner = safeOperatorLeaseOwner u sha256.hexdigest (safeOperatorLeaseOwnerWith u sha256 subject issuer))
    (h : call.prepare u sha256.hexdigest fresh = .ok action) :
    action.owner = reconciliationOwner u sha256 subject issuer := by
  unfold Postgres.OperatorCall.prepare at h
  cases haction : safeReconciliationAction call.action with
  | error e =>
    rw [haction] at h
    cases h
  | ok safe =>
    rw [haction] at h
    obtain rfl := Except.ok.inj h
    rw [reconciliationOwner, ← howner]

/-! ## A subject with an umlaut -/

/-- The letters of Latin-1 from U+00C0 on, and of ASCII. -/
def isLatinAlnum (c : Char) : Bool :=
  c.isAlphanum || (0xc0 ≤ c.toNat && c.toNat ≤ 0xff && c.toNat != 0xd7 && c.toNat != 0xf7)

theorem isLatinAlnum_ascii (c : Char) (h : c.toNat < 128) : isLatinAlnum c = c.isAlphanum := by
  have hlow : ¬0xc0 ≤ c.toNat := by omega
  simp [isLatinAlnum, hlow]

/-- Latin-1 has no digits but those of ASCII. -/
theorem isDigit_ascii (c : Char) (_ : c.toNat < 128) : c.isDigit = c.isDigit := rfl

theorem isLatinAlnum_digit (c : Char) (h : c.isDigit = true) : isLatinAlnum c = true := by
  simp [isLatinAlnum, Char.isAlphanum, h]

theorem isLatinAlnum_space (c : Char) (h : isPySpace c = true) : isLatinAlnum c = false := by
  have hspace := h
  simp only [isPySpace, Bool.or_eq_true, Bool.and_eq_true, decide_eq_true_eq, beq_iff_eq] at hspace
  rw [isLatinAlnum, isAlphanum_of_space h, Bool.false_or, Bool.eq_false_iff]
  intro hletter
  simp only [Bool.and_eq_true, decide_eq_true_eq] at hletter
  omega

def Unicode.latin : Unicode where
  isalnum := isLatinAlnum
  isdigit := Char.isDigit
  ascii_isalnum := isLatinAlnum_ascii
  ascii_isdigit := isDigit_ascii
  alnum_of_digit := isLatinAlnum_digit
  not_alnum_of_space := isLatinAlnum_space

/-- SHA-256 on the two texts that are asked for. -/
def jorgHexdigest (s : String) : String :=
  if s = "https://idp.example.test\x00jörg" then "ccd537a711e1a90827332aa685477d9991285aed5775ed10f30e0002c01706aa"
  else if s = "\x00jörg.ccd537a711e1a90827332aa6" then "0e5d863591493de297b3bf6e3a31d60024f2a6d5c55a409e064c39b5f42c2480"
  else "0000000000000000000000000000000000000000000000000000000000000000"

theorem jorgHexdigest_mem (s : String) :
    (jorgHexdigest s).toList.all "0123456789abcdef".toList.contains = true ∧ (jorgHexdigest s).toList.length = 64 := by
  unfold jorgHexdigest
  split
  · decide +kernel
  · split <;> decide +kernel

theorem jorgHexdigest_digits (s : String) : ∀ c ∈ (jorgHexdigest s).toList, c ∈ "0123456789abcdef".toList :=
  fun c hc => List.contains_iff_mem.mp (List.all_eq_true.mp (jorgHexdigest_mem s).1 c hc)

theorem jorgHexdigest_length (s : String) : (jorgHexdigest s).toList.length = 64 := (jorgHexdigest_mem s).2

def jorgSha256 : Sha256 where
  hexdigest := jorgHexdigest
  digits := jorgHexdigest_digits
  length_eq := jorgHexdigest_length

/-- The key of `jörg` is not left alone: the store gets a name with two digests, which the console does not know. -/
theorem leaseOwner_jorg :
    ¬∀ (u : Unicode) (sha256 : Sha256) (subject issuer : String),
      safeOperatorLeaseOwner u sha256.hexdigest (safeOperatorLeaseOwnerWith u sha256 subject issuer) =
          safeOperatorLeaseOwnerWith u sha256 subject issuer ∧
        reconciliationOwner u sha256 subject issuer = operatorLeaseOwner sha256 subject issuer := by
  intro hall
  have h := (hall .latin jorgSha256 "jörg" "https://idp.example.test").1
  exact absurd h (by decide +kernel)

end HostedFacilitator
