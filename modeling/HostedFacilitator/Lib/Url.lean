import Mathlib.Data.List.TakeWhile
import HostedFacilitator.Lib.Trim

/-!
# Rooted references

How the URL parser of a browser resolves a reference that begins with a slash against an `http` or `https` URL: a
backslash counts as a slash, tabs and line ends are dropped first, two slashes begin an authority, and the segments of
a path are read one by one, with the dot segments resolved.

* `resolve_rooted`: a path of plain segments is resolved to these segments, whatever follows as a query;
* `leaves_iff`: when a reference that begins with a slash names another authority;
* `splitOn_rooted`: the segments of a rooted path are what stands between its slashes;
* `encodeComponent_all`: a text whose encoding has only plain characters has only these, and is its own encoding.
-/

namespace Url

/-! ## Percent-encoding -/

def hexDigit (n : Nat) : Char := Char.ofNat (if n < 10 then 48 + n else 55 + n)

def percentByte (b : UInt8) : List Char := ['%', hexDigit (b.toNat / 16), hexDigit (b.toNat % 16)]

/-- A character as itself, or its UTF-8 bytes percent-encoded. -/
def encodeChar (escapes : Char → Bool) (c : Char) : List Char :=
  if escapes c then (String.utf8EncodeChar c).flatMap percentByte else [c]

/-- What `encodeURIComponent` leaves alone. -/
def isUnescaped (c : Char) : Bool := c.isAlphanum || "-_.!~*'()".toList.contains c

/-- `encodeURIComponent`. -/
def encodeComponent (s : List Char) : List Char := s.flatMap (encodeChar fun c => !isUnescaped c)

section Encoding

variable {p : Char → Bool} {s : List Char} {c : Char}

theorem encodeChar_of_unescaped (h : isUnescaped c = true) : encodeChar (fun c => !isUnescaped c) c = [c] := by
  simp [encodeChar, h]

theorem percent_mem_encodeChar (h : isUnescaped c = false) : '%' ∈ encodeChar (fun c => !isUnescaped c) c := by
  have hne : String.utf8EncodeChar c ≠ [] := by
    have hlen := String.length_utf8EncodeChar c
    have hpos := Char.utf8Size_pos c
    intro hnil
    rw [hnil, List.length_nil] at hlen
    omega
  obtain ⟨b, bs, hbytes⟩ := List.exists_cons_of_ne_nil hne
  simp [encodeChar, h, hbytes, percentByte]

theorem encodeComponent_of_unescaped (h : ∀ c ∈ s, isUnescaped c = true) : encodeComponent s = s := by
  induction s with
  | nil => rfl
  | cons c s ih =>
    obtain ⟨hc, hs⟩ := List.forall_mem_cons.mp h
    rw [encodeComponent, List.flatMap_cons, encodeChar_of_unescaped hc]
    exact congrArg (c :: ·) (ih hs)

/-- A text whose encoding has only plain characters has only these, and is its own encoding. -/
theorem encodeComponent_all (hp : ∀ c, p c = true → isUnescaped c = true) (hpercent : p '%' = false) :
    (encodeComponent s).all p = true ↔ s.all p = true := by
  constructor
  · intro h
    have hplain : ∀ c ∈ s, isUnescaped c = true := by
      intro c hc
      by_contra hescaped
      have hmem : '%' ∈ encodeComponent s :=
        List.mem_flatMap.mpr ⟨c, hc, percent_mem_encodeChar (Bool.not_eq_true _ ▸ hescaped)⟩
      rw [List.all_eq_true.mp h '%' hmem] at hpercent
      cases hpercent
    rwa [encodeComponent_of_unescaped hplain] at h
  · intro h
    rwa [encodeComponent_of_unescaped fun c hc => hp c (List.all_eq_true.mp h c hc)]

/-- The characters of an encoding. -/
theorem encodeComponent_chars (h : c ∈ encodeComponent s) : isUnescaped c = true ∨ c = '%' := by
  have hdigit : ∀ n < 16, isUnescaped (hexDigit n) = true := by decide +kernel
  obtain ⟨d, -, hc⟩ := List.mem_flatMap.mp h
  unfold encodeChar at hc
  split at hc
  · obtain ⟨b, -, hb⟩ := List.mem_flatMap.mp hc
    have hlt := b.toNat_lt
    simp only [percentByte, List.mem_cons, List.not_mem_nil, or_false] at hb
    rcases hb with rfl | rfl | rfl
    · exact .inr rfl
    · exact .inl (hdigit _ (by omega))
    · exact .inl (hdigit _ (by omega))
  · rename_i hplain
    rw [List.mem_singleton.mp hc]
    exact .inl (by simpa using hplain)

end Encoding

/-! ## Resolution -/

def isTabOrNewline (c : Char) : Bool := c = '\t' || c = '\n' || c = '\r'

def isControlOrSpace (c : Char) : Bool := c.toNat ≤ 32

def isSlash (c : Char) : Bool := c = '/' || c = '\\'

/-- What the parser drops before it starts. -/
def tidy (s : List Char) : List Char := (Trim.trim isControlOrSpace s).filter fun c => !isTabOrNewline c

/-- The path percent-encode set. -/
def escapesInPath (c : Char) : Bool :=
  c.toNat ≤ 31 || 126 < c.toNat || " \"#<>?^\x60\x7b\x7d".toList.contains c

/-- A dot in a segment may be percent-encoded. -/
def undot : List Char → List Char
  | '%' :: '2' :: e :: s => if e = 'e' ∨ e = 'E' then '.' :: undot s else '%' :: '2' :: e :: undot s
  | c :: s => c :: undot s
  | [] => []

/-- A segment ends, with a slash or without. -/
def endSegment (done : List (List Char)) (segment : List Char) (slash : Bool) : List (List Char) :=
  if undot segment = ['.', '.'] then if slash then done.dropLast else done.dropLast ++ [[]]
  else if undot segment = ['.'] then if slash then done else done ++ [[]]
  else done ++ [segment]

/-- The path state: the segments, and the query and the fragment. -/
def readPath (done : List (List Char)) (segment : List Char) : List Char → List (List Char) × List Char
  | [] => (endSegment done segment false, [])
  | c :: s =>
    if isSlash c then readPath (endSegment done segment true) [] s
    else if c = '?' ∨ c = '#' then (endSegment done segment false, c :: s)
    else readPath done (segment ++ encodeChar escapesInPath c) s

/-- What a reference names: something relative to the path of the base, another authority, or a path under the authority
of the base. -/
inductive Target where
  | relative
  | authority (rest : List Char)
  | path (segments : List (List Char)) (rest : List Char)
  deriving DecidableEq

/-- A tidy reference. -/
def resolveTidy : List Char → Target
  | [] => .relative
  | c :: s =>
    if isSlash c then
      if s.head?.any isSlash then .authority s.tail else .path (readPath [] [] s).1 (readPath [] [] s).2
    else .relative

/-- A reference, against an `http` or `https` URL. -/
def resolve (s : List Char) : Target := resolveTidy (tidy s)

/-! ## Plain segments -/

/-- A character that the parser takes as it is. -/
def isPlain (c : Char) : Bool := c.isAlphanum || c = '-' || c = '_' || c = '.'

/-- A segment that the parser takes as it is. -/
structure Plain (segment : List Char) : Prop where
  chars : ∀ c ∈ segment, isPlain c = true
  not_dot : segment ≠ ['.']
  not_dots : segment ≠ ['.', '.']

/-- The segments, each after a slash. -/
def rooted (segments : List (List Char)) : List Char := segments.flatMap ('/' :: ·)

section Rooted

variable {segment s : List Char} {segments : List (List Char)}

theorem splitOn_append_rooted (hfirst : '/' ∉ segment) (h : ∀ s ∈ segments, '/' ∉ s) :
    (segment ++ rooted segments).splitOn '/' = segment :: segments := by
  induction segments generalizing segment with
  | nil =>
    rw [rooted, List.flatMap_nil, List.append_nil]
    exact List.splitOn_eq_singleton hfirst
  | cons s segments ih =>
    obtain ⟨hs, hsegments⟩ := List.forall_mem_cons.mp h
    have hnext : rooted (s :: segments) = '/' :: (s ++ rooted segments) := rfl
    rw [hnext, List.splitOn_append_cons_self_of_not_mem hfirst, ih hs hsegments]

/-- The segments of a rooted path are what stands between its slashes. -/
theorem splitOn_rooted (h : ∀ s ∈ segments, '/' ∉ s) : (rooted segments).splitOn '/' = [] :: segments :=
  @splitOn_append_rooted [] segments List.not_mem_nil h

theorem rooted_of_splitOn (h : s.splitOn '/' = [] :: segments) : segments = [] ∨ s = rooted segments := by
  have hjoin : ['/'].intercalate (s.splitOn '/') = s := List.intercalate_splitOn '/'
  cases segments with
  | nil => exact .inl rfl
  | cons segment segments =>
    right
    rw [h] at hjoin
    rw [← hjoin]
    clear h hjoin
    induction segments generalizing segment with
    | nil => simp [List.intercalate, rooted]
    | cons next segments ih =>
      have hnext : rooted (segment :: next :: segments) = '/' :: (segment ++ rooted (next :: segments)) := rfl
      rw [hnext, ← ih next]
      simp [List.intercalate]

end Rooted

section Plain

variable {c : Char} {segment s rest : List Char} {done segments : List (List Char)} {slash : Bool}

theorem isAlphanum_bounds (h : c.isAlphanum = true) : 48 ≤ c.toNat ∧ c.toNat ≤ 122 ∧
    (c.toNat ≤ 57 ∨ 65 ≤ c.toNat ∧ c.toNat ≤ 90 ∨ 97 ≤ c.toNat) := by
  have hval : c.toNat = c.val.toNat := rfl
  have halnum : c.isAlphanum = (decide (c.val ≥ 'A'.val ∧ c.val ≤ 'Z'.val) ||
      decide (c.val ≥ 'a'.val) && decide (c.val ≤ 'z'.val) ||
      decide (c.val ≥ '0'.val) && decide (c.val ≤ '9'.val)) := rfl
  simp only [halnum, Bool.or_eq_true, Bool.and_eq_true, decide_eq_true_eq, ge_iff_le, UInt32.le_iff_toNat_le] at h
  have hA : 'A'.val.toNat = 65 := rfl
  have hZ : 'Z'.val.toNat = 90 := rfl
  have ha : 'a'.val.toNat = 97 := rfl
  have hz : 'z'.val.toNat = 122 := rfl
  have h0 : '0'.val.toNat = 48 := rfl
  have h9 : '9'.val.toNat = 57 := rfl
  omega

/-- The code points of plain characters. -/
theorem isPlain_bounds (h : isPlain c = true) : 48 ≤ c.toNat ∧ c.toNat ≤ 57 ∨ 65 ≤ c.toNat ∧ c.toNat ≤ 90 ∨
    97 ≤ c.toNat ∧ c.toNat ≤ 122 ∨ c.toNat = 45 ∨ c.toNat = 95 ∨ c.toNat = 46 := by
  simp only [isPlain, Bool.or_eq_true, decide_eq_true_eq] at h
  rcases h with ((h | rfl) | rfl) | rfl
  · have := isAlphanum_bounds h
    omega
  all_goals decide

theorem ne_of_isPlain {d : Char} (h : isPlain c = true) (hd : isPlain d = false) : c ≠ d := by
  rintro rfl
  rw [h] at hd
  cases hd

theorem isUnescaped_of_isPlain (h : isPlain c = true) : isUnescaped c = true := by
  simp only [isPlain, Bool.or_eq_true, decide_eq_true_eq] at h
  rcases h with ((h | rfl) | rfl) | rfl
  · simp [isUnescaped, h]
  all_goals decide

@[simp] theorem isSlash_of_isPlain (h : isPlain c = true) : isSlash c = false := by
  simp [isSlash, ne_of_isPlain h (d := '/') (by decide), ne_of_isPlain h (d := '\\') (by decide)]

@[simp] theorem isTabOrNewline_of_isPlain (h : isPlain c = true) : isTabOrNewline c = false := by
  simp [isTabOrNewline, ne_of_isPlain h (d := '\t') (by decide), ne_of_isPlain h (d := '\n') (by decide),
    ne_of_isPlain h (d := '\r') (by decide)]

theorem isControlOrSpace_of_isPlain (h : isPlain c = true) : isControlOrSpace c = false := by
  have := isPlain_bounds h
  simp only [isControlOrSpace, decide_eq_false_iff_not]
  omega

theorem escapesInPath_of_isPlain (h : isPlain c = true) : escapesInPath c = false := by
  have hbounds := isPlain_bounds h
  have hlow : ¬c.toNat ≤ 31 := by omega
  have hhigh : ¬126 < c.toNat := by omega
  have hall : (" \"#<>?^\x60\x7b\x7d".toList.all fun d => !isPlain d) = true := by decide
  have hmem : ∀ d ∈ " \"#<>?^\x60\x7b\x7d".toList, c ≠ d := fun d hd =>
    ne_of_isPlain h (by simpa using List.all_eq_true.mp hall d hd)
  simp only [escapesInPath, decide_eq_false hlow, decide_eq_false hhigh, Bool.false_or]
  by_contra hcontains
  rw [Bool.not_eq_false, List.contains_iff_mem] at hcontains
  exact hmem c hcontains rfl

theorem undot_of_plain (h : ∀ c ∈ segment, isPlain c = true) : undot segment = segment := by
  induction segment with
  | nil => rfl
  | cons c s ih =>
    obtain ⟨hc, hs⟩ := List.forall_mem_cons.mp h
    have hpercent : c ≠ '%' := ne_of_isPlain hc (by decide)
    rw [undot, ih hs]
    intro e t heq
    exact absurd heq hpercent

theorem Plain.endSegment (h : Plain segment) : endSegment done segment slash = done ++ [segment] := by
  rw [Url.endSegment, undot_of_plain h.chars, if_neg h.not_dots, if_neg h.not_dot]

/-- Plain characters are read into the segment. -/
theorem readPath_chars (h : ∀ c ∈ s, isPlain c = true) :
    readPath done segment (s ++ rest) = readPath done (segment ++ s) rest := by
  induction s generalizing segment with
  | nil => rw [List.nil_append, List.append_nil]
  | cons c s ih =>
    obtain ⟨hc, hs⟩ := List.forall_mem_cons.mp h
    have hquery : ¬(c = '?' ∨ c = '#') :=
      not_or.mpr ⟨ne_of_isPlain hc (by decide), ne_of_isPlain hc (by decide)⟩
    rw [List.cons_append, readPath, isSlash_of_isPlain hc, if_neg Bool.false_ne_true, if_neg hquery, encodeChar,
      escapesInPath_of_isPlain hc, if_neg Bool.false_ne_true, ih hs, List.append_assoc, List.singleton_append]

/-- A query, or nothing. -/
def IsQuery (s : List Char) : Prop := s = [] ∨ ∃ q, s = '?' :: q

theorem readPath_end (h : Plain segment) (hrest : IsQuery rest) :
    readPath done segment rest = (done ++ [segment], rest) := by
  rcases hrest with rfl | ⟨q, rfl⟩
  · rw [readPath, h.endSegment]
  · rw [readPath, if_neg (by decide), if_pos (.inl rfl), h.endSegment]

/-- The segments are read one by one. -/
theorem readPath_rooted (hfirst : Plain segment) (h : ∀ s ∈ segments, Plain s) (hrest : IsQuery rest) :
    readPath done [] (segment ++ (rooted segments ++ rest)) = (done ++ segment :: segments, rest) := by
  induction segments generalizing done segment with
  | nil =>
    rw [readPath_chars hfirst.chars, List.nil_append, rooted, List.flatMap_nil, List.nil_append,
      readPath_end hfirst hrest]
  | cons s segments ih =>
    obtain ⟨hs, hsegments⟩ := List.forall_mem_cons.mp h
    have hnext : rooted (s :: segments) ++ rest = '/' :: (s ++ (rooted segments ++ rest)) := by
      simp [rooted]
    rw [readPath_chars hfirst.chars, List.nil_append, hnext, readPath]
    show readPath (Url.endSegment done segment true) [] (s ++ (rooted segments ++ rest)) = _
    rw [hfirst.endSegment, ih hs hsegments, List.append_assoc, List.singleton_append]

/-! ## Tidy references -/

/-- What is dropped at the end. -/
def dropEnd (s : List Char) : List Char := (s.reverse.dropWhile isControlOrSpace).reverse

theorem dropEnd_append (hc : isControlOrSpace c = false) : dropEnd (s ++ c :: rest) = s ++ c :: dropEnd rest := by
  have hstop : (c :: s.reverse).dropWhile isControlOrSpace = c :: s.reverse :=
    List.dropWhile_cons_of_neg (by simp [hc])
  rw [dropEnd, List.reverse_append, List.reverse_cons, List.append_assoc, List.singleton_append, List.dropWhile_append,
    hstop]
  split
  · rename_i hempty
    simp [dropEnd, List.isEmpty_iff.mp hempty]
  · simp [dropEnd]

theorem exists_dropEnd (s : List Char) : ∃ post, s = dropEnd s ++ post := by
  refine ⟨(s.reverse.takeWhile isControlOrSpace).reverse, ?_⟩
  rw [dropEnd, ← List.reverse_append, List.takeWhile_append_dropWhile, List.reverse_reverse]

/-- What stands between characters that stay is dropped on its own. -/
theorem tidy_cons (hc : isControlOrSpace c = false) :
    tidy (c :: s) = c :: (dropEnd s).filter fun c => !isTabOrNewline c := by
  have htab : (!isTabOrNewline c) = true := by
    by_contra h
    rw [Bool.not_eq_true, Bool.not_eq_false', isTabOrNewline] at h
    simp only [Bool.or_eq_true, decide_eq_true_eq] at h
    rcases h with (rfl | rfl) | rfl <;> cases hc
  have htrim : Trim.trim isControlOrSpace (c :: s) = c :: dropEnd s := by
    rw [Trim.trim, List.dropWhile_cons_of_neg (by simp [hc])]
    exact dropEnd_append (s := []) hc
  rw [tidy, htrim, List.filter_cons, if_pos htab]

theorem isQuery_filter (h : IsQuery rest) : IsQuery ((dropEnd rest).filter fun c => !isTabOrNewline c) := by
  rcases h with rfl | ⟨q, rfl⟩
  · exact .inl rfl
  · have hend : dropEnd ('?' :: q) = '?' :: dropEnd q := dropEnd_append (s := []) (by decide)
    rw [hend, List.filter_cons_of_pos (by decide)]
    exact .inr ⟨_, rfl⟩

theorem dropEnd_chars (h : ∀ c ∈ s, isControlOrSpace c = false) : dropEnd (s ++ rest) = s ++ dropEnd rest := by
  rcases s.eq_nil_or_concat with rfl | ⟨s', c, rfl⟩
  · rfl
  · rw [List.concat_eq_append, List.append_assoc, List.singleton_append, List.append_assoc, List.singleton_append]
    exact dropEnd_append (h c (by simp))

theorem filter_chars (h : ∀ c ∈ s, isTabOrNewline c = false) :
    (s ++ rest).filter (fun c => !isTabOrNewline c) = s ++ rest.filter fun c => !isTabOrNewline c := by
  rw [List.filter_append, List.filter_eq_self.mpr fun c hc => by rw [h c hc]; rfl]

theorem rooted_chars (h : ∀ s ∈ segments, Plain s) (hc : c ∈ rooted segments) : c = '/' ∨ isPlain c = true := by
  obtain ⟨segment, hsegment, hmem⟩ := List.mem_flatMap.mp hc
  rcases List.mem_cons.mp hmem with rfl | hmem
  · exact .inl rfl
  · exact .inr ((h segment hsegment).chars c hmem)

/-- **A path of plain segments is resolved to these segments**, whatever follows as a query. -/
theorem resolve_rooted (hfirst : Plain segment) (hne : segment ≠ []) (h : ∀ s ∈ segments, Plain s)
    (hrest : IsQuery rest) :
    ∃ rest', resolve (rooted (segment :: segments) ++ rest) = .path (segment :: segments) rest' := by
  have hchars : ∀ c ∈ segment ++ rooted segments, c = '/' ∨ isPlain c = true := by
    intro c hc
    rcases List.mem_append.mp hc with hc | hc
    · exact .inr (hfirst.chars c hc)
    · exact rooted_chars h hc
  have hcontrol : ∀ c ∈ segment ++ rooted segments, isControlOrSpace c = false := by
    intro c hc
    rcases hchars c hc with rfl | hplain
    · decide
    · exact isControlOrSpace_of_isPlain hplain
  have htab : ∀ c ∈ segment ++ rooted segments, isTabOrNewline c = false := by
    intro c hc
    rcases hchars c hc with rfl | hplain
    · decide
    · exact isTabOrNewline_of_isPlain hplain
  have htext : rooted (segment :: segments) ++ rest = '/' :: ((segment ++ rooted segments) ++ rest) := by
    simp [rooted]
  obtain ⟨c, cs, rfl⟩ := List.exists_cons_of_ne_nil hne
  have hslash : isSlash c = false := isSlash_of_isPlain (hfirst.chars c List.mem_cons_self)
  refine ⟨(dropEnd rest).filter fun c => !isTabOrNewline c, ?_⟩
  rw [resolve, htext, tidy_cons (by decide), dropEnd_chars hcontrol, filter_chars htab, resolveTidy, if_pos (by decide),
    List.append_assoc, readPath_rooted hfirst h (isQuery_filter hrest), if_neg (by simp [hslash]), List.nil_append]

/-- **When a reference that begins with a slash names another authority**: a second slash follows, perhaps after tabs
and line ends. -/
theorem leaves_iff : (∃ rest, resolve ('/' :: s) = .authority rest) ↔
    ∃ gap c rest, s = gap ++ c :: rest ∧ (∀ g ∈ gap, isTabOrNewline g = true) ∧ isSlash c = true := by
  have hresolve : (∃ rest, resolve ('/' :: s) = .authority rest) ↔
      ((dropEnd s).filter fun c => !isTabOrNewline c).head?.any isSlash = true := by
    rw [resolve, tidy_cons (by decide), resolveTidy, if_pos (by decide)]
    split
    · rename_i hslash
      exact iff_of_true ⟨_, rfl⟩ hslash
    · rename_i hslash
      exact iff_of_false (by simp) hslash
  rw [hresolve, List.head?_filter, Option.any_eq_true]
  constructor
  · rintro ⟨c, hfind, hslash⟩
    obtain ⟨-, gap, rest, hs, hgap⟩ := List.find?_eq_some_iff_append.mp hfind
    obtain ⟨post, hpost⟩ := exists_dropEnd s
    refine ⟨gap, c, rest ++ post, ?_, fun g hg => by simpa using hgap g hg, hslash⟩
    rw [hpost, hs, List.append_assoc, List.cons_append]
  · rintro ⟨gap, c, rest, rfl, hgap, hslash⟩
    have hc : isControlOrSpace c = false ∧ isTabOrNewline c = false := by
      simp only [isSlash, Bool.or_eq_true, decide_eq_true_eq] at hslash
      rcases hslash with rfl | rfl <;> decide
    refine ⟨c, List.find?_eq_some_iff_append.mpr ⟨by rw [hc.2]; rfl, gap, dropEnd rest, dropEnd_append hc.1, ?_⟩, hslash⟩
    intro g hg
    simp [hgap g hg]

end Plain

end Url
