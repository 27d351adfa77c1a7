import Mathlib.Data.List.TakeWhile
import HostedFacilitator.Lib.Separator
import HostedFacilitator.Python.Value

/-!
# Characters and the texts built from them

`str.isalnum()` and `str.isdigit()` read the Unicode tables, which stay a parameter (`Unicode`) with their values on
ASCII and what every table has: a digit is alphanumeric, a space is not. Three things are done with texts: characters
are dropped and the rest is cut (`keepOnly`), characters are replaced and the rest is cut (`replaceOthers`), and
texts are joined around a separator that none of them contains (`Separator.joined_inj`).
-/

namespace HostedFacilitator

/-- The tables behind `str.isalnum()` and `str.isdigit()`, for one character. -/
structure Unicode where
  isalnum : Char → Bool
  isdigit : Char → Bool
  ascii_isalnum : ∀ c : Char, c.toNat < 128 → isalnum c = c.isAlphanum
  ascii_isdigit : ∀ c : Char, c.toNat < 128 → isdigit c = c.isDigit
  alnum_of_digit : ∀ c : Char, isdigit c = true → isalnum c = true
  not_alnum_of_space : ∀ c : Char, isPySpace c = true → isalnum c = false

/-- A space is no letter and no digit. -/
theorem isAlphanum_of_space {c : Char} (h : isPySpace c = true) : c.isAlphanum = false := by
  have hval : c.toNat = c.val.toNat := rfl
  simp only [isPySpace, Bool.or_eq_true, Bool.and_eq_true, decide_eq_true_eq, beq_iff_eq, hval] at h
  have halnum : c.isAlphanum = (decide (c.val ≥ 'A'.val ∧ c.val ≤ 'Z'.val) ||
      decide (c.val ≥ 'a'.val) && decide (c.val ≤ 'z'.val) ||
      decide (c.val ≥ '0'.val) && decide (c.val ≤ '9'.val)) := rfl
  rw [Bool.eq_false_iff]
  intro ha
  simp only [halnum, Bool.or_eq_true, Bool.and_eq_true, decide_eq_true_eq, ge_iff_le, UInt32.le_iff_toNat_le] at ha
  have hupper : 'A'.val.toNat = 65 ∧ 'Z'.val.toNat = 90 := ⟨rfl, rfl⟩
  have hlower : 'a'.val.toNat = 97 ∧ 'z'.val.toNat = 122 := ⟨rfl, rfl⟩
  have hdigit : '0'.val.toNat = 48 ∧ '9'.val.toNat = 57 := ⟨rfl, rfl⟩
  omega

/-- A table that knows nothing beyond ASCII. -/
def Unicode.ascii : Unicode where
  isalnum := Char.isAlphanum
  isdigit := Char.isDigit
  ascii_isalnum := fun _ _ => rfl
  ascii_isdigit := fun _ _ => rfl
  alnum_of_digit := fun c h => by simp [Char.isAlphanum, h]
  not_alnum_of_space := fun _ => isAlphanum_of_space

/-- `text.isdigit()`: not empty, and digits only. -/
def Unicode.isDigits (u : Unicode) (s : List Char) : Bool := !s.isEmpty && s.all u.isdigit

namespace Unicode

variable (u : Unicode)

/-- `ch.isalnum() or ch in extra`. -/
def keeps (extra : List Char) (c : Char) : Bool := u.isalnum c || extra.contains c

/-- `"".join(ch for ch in value if ch.isalnum() or ch in extra)[:size]`. -/
def keepOnly (extra : List Char) (size : Nat) (value : String) : String :=
  String.ofList ((value.toList.filter (u.keeps extra)).take size)

/-- `"".join(ch if ch.isalnum() or ch in extra else "_" for ch in value)[:size]`. -/
def replaceOthers (extra : List Char) (size : Nat) (value : String) : String :=
  String.ofList ((value.toList.map fun c => if u.keeps extra c then c else '_').take size)

/-- A text that `keepOnly` leaves alone. -/
def Keeps (extra : List Char) (size : Nat) (s : String) : Prop :=
  (∀ c ∈ s.toList, u.keeps extra c = true) ∧ s.toList.length ≤ size

instance (extra : List Char) (size : Nat) (s : String) : Decidable (u.Keeps extra size s) :=
  inferInstanceAs (Decidable (_ ∧ _))

variable {u} {extra : List Char} {size : Nat} {s t : String}

theorem keeps_of_alnum {c : Char} (h : u.isalnum c = true) : u.keeps extra c = true := by simp [keeps, h]

theorem keeps_of_mem {c : Char} (h : c ∈ extra) : u.keeps extra c = true := by simp [keeps, h]

theorem keeps_mono {extra' : List Char} (h : ∀ c ∈ extra, c ∈ extra') {c : Char} (hc : u.keeps extra c = true) :
    u.keeps extra' c = true := by
  simp only [keeps, Bool.or_eq_true, List.contains_iff_mem] at hc ⊢
  exact hc.imp_right (h c)

theorem keepOnly_keeps : u.Keeps extra size (u.keepOnly extra size s) := by
  constructor
  · intro c hc
    rw [keepOnly, String.toList_ofList] at hc
    exact (List.mem_filter.mp (List.mem_of_mem_take hc)).2
  · rw [keepOnly, String.toList_ofList, List.length_take]
    exact Nat.min_le_left _ _

theorem Keeps.keepOnly (h : u.Keeps extra size s) : u.keepOnly extra size s = s := by
  rw [Unicode.keepOnly, List.filter_eq_self.mpr h.1, List.take_of_length_le h.2, String.ofList_toList]

theorem Keeps.replaceOthers (h : u.Keeps extra size s) : u.replaceOthers extra size s = s := by
  have hmap : (s.toList.map fun c => if u.keeps extra c then c else '_') = s.toList := by
    conv_rhs => rw [← List.map_id s.toList]
    apply List.map_congr_left
    intro c hc
    simp [h.1 c hc]
  rw [Unicode.replaceOthers, hmap, List.take_of_length_le h.2, String.ofList_toList]

theorem Keeps.mono {extra' : List Char} {size' : Nat} (h : u.Keeps extra size s) (he : ∀ c ∈ extra, c ∈ extra')
    (hs : size ≤ size') : u.Keeps extra' size' s :=
  ⟨fun c hc => keeps_mono he (h.1 c hc), h.2.trans hs⟩

theorem Keeps.append {size' : Nat} (hs : u.Keeps extra size s) (ht : u.Keeps extra size' t) :
    u.Keeps extra (size + size') (s ++ t) := by
  constructor
  · intro c hc
    rw [String.toList_append, List.mem_append] at hc
    exact hc.elim (hs.1 c) (ht.1 c)
  · rw [String.toList_append, List.length_append]
    have h₁ := hs.2
    have h₂ := ht.2
    omega

/-- What `replaceOthers` writes is kept, or the replacement. -/
theorem replaceOthers_mem {c : Char} (h : c ∈ (u.replaceOthers extra size s).toList) :
    u.keeps extra c = true ∨ c = '_' := by
  rw [replaceOthers, String.toList_ofList] at h
  obtain ⟨c', -, rfl⟩ := List.mem_map.mp (List.mem_of_mem_take h)
  by_cases hk : u.keeps extra c' = true
  · simp [hk]
  · simp [hk]

end Unicode

/-! ## Stripping -/

theorem strip_of_ends {s : String} (hfirst : ∀ c, s.toList.head? = some c → isPySpace c = false)
    (hlast : ∀ c, s.toList.getLast? = some c → isPySpace c = false) : strip s = s := by
  have hdrop : ∀ l : List Char, (∀ c, l.head? = some c → isPySpace c = false) → l.dropWhile isPySpace = l := by
    intro l hl
    cases l with
    | nil => rfl
    | cons c l => simp [List.dropWhile, hl c rfl]
  rw [strip, hdrop _ hfirst, hdrop, List.reverse_reverse, String.ofList_toList]
  intro c hc
  rw [List.head?_reverse] at hc
  exact hlast c hc

/-- Nothing is left of spaces, and of nothing else. -/
theorem strip_eq_empty {s : String} : strip s = "" ↔ ∀ c ∈ s.toList, isPySpace c = true := by
  have hchars : strip s = "" ↔ ∀ c ∈ s.toList.dropWhile isPySpace, isPySpace c = true := by
    rw [strip, ← String.toList_inj, String.toList_ofList, String.toList_empty, List.reverse_eq_nil_iff,
      List.dropWhile_eq_nil_iff]
    simp only [List.mem_reverse]
  rw [hchars]
  refine ⟨fun hall => ?_, fun h c hc => h c ((List.dropWhile_sublist _).mem hc)⟩
  rw [← List.dropWhile_eq_nil_iff]
  -- the first character that is left would be no space
  cases hrest : s.toList.dropWhile isPySpace with
  | nil => rfl
  | cons c rest =>
    have hnot := List.head?_dropWhile_not isPySpace s.toList
    rw [hrest] at hnot hall
    simp only [List.head?_cons, hall c List.mem_cons_self] at hnot
    cases hnot

/-- Stripping takes away nothing that a filter without spaces keeps. -/
theorem filter_strip {p : Char → Bool} (h : ∀ c, p c = true → isPySpace c = false) (s : String) :
    (strip s).toList.filter p = s.toList.filter p := by
  have hdrop : ∀ l : List Char, (l.dropWhile isPySpace).filter p = l.filter p := by
    intro l
    induction l with
    | nil => rfl
    | cons c l ih =>
      by_cases hc : isPySpace c = true
      · have hp : ¬p c = true := fun hp => absurd hc (by simp [h c hp])
        rw [List.dropWhile_cons_of_pos hc, List.filter_cons_of_neg hp, ih]
      · rw [List.dropWhile_cons_of_neg hc]
  rw [strip, String.toList_ofList, List.filter_reverse, hdrop, List.filter_reverse, List.reverse_reverse, hdrop]

theorem strip_strip (s : String) : strip (strip s) = strip s := by
  have hdropped : ∀ (l : List Char) (c : Char), (l.dropWhile isPySpace).head? = some c → isPySpace c = false := by
    intro l c hc
    have hnot := List.head?_dropWhile_not isPySpace l
    rw [hc] at hnot
    exact hnot
  refine strip_of_ends (fun c hc => ?_) fun c hc => ?_
  · -- what is left after the second cut begins as what was left after the first
    rw [strip, String.toList_ofList] at hc
    obtain ⟨tail, htail⟩ := List.dropWhile_suffix isPySpace (l := (s.toList.dropWhile isPySpace).reverse)
    have hsplit : s.toList.dropWhile isPySpace =
        ((s.toList.dropWhile isPySpace).reverse.dropWhile isPySpace).reverse ++ tail.reverse := by
      rw [← List.reverse_append, htail, List.reverse_reverse]
    apply hdropped s.toList c
    rw [hsplit, List.head?_append, hc]
    rfl
  · rw [strip, String.toList_ofList, List.getLast?_reverse] at hc
    exact hdropped _ c hc

end HostedFacilitator
