import HostedFacilitator.Lib.Base64

/-!
# `base64.urlsafe_b64decode`

The decoder of `binascii` skips what is no symbol, stops where the filling ends a group, and raises when a group is
left open. A text that was encoded and filled is read back (`urlsafeB64decode_padded`).
-/

namespace HostedFacilitator

/-- `binascii.a2b_base64`, not strict. Of the open group `position` symbols were read; `left` are the bits over, and
`pads` counts the filling since the last symbol. -/
def a2bBase64 (position left pads : Nat) : List Char → Option (List UInt8)
  | [] => if position = 0 then some [] else none
  | c :: cs =>
    if c = '=' then
      if 2 ≤ position then
        if 4 ≤ position + (pads + 1) then some [] else a2bBase64 position left (pads + 1) cs
      else a2bBase64 position left pads cs
    else match Base64.standard.value c with
      | none => a2bBase64 position left pads cs
      | some v => match position with
        | 0 => a2bBase64 1 v 0 cs
        | 1 => (a2bBase64 2 (v % 16) 0 cs).map (UInt8.ofNat (left * 4 + v / 16) :: ·)
        | 2 => (a2bBase64 3 (v % 4) 0 cs).map (UInt8.ofNat (left * 16 + v / 4) :: ·)
        | _ => (a2bBase64 0 0 0 cs).map (UInt8.ofNat (left * 64 + v) :: ·)

/-- The translation of the two last symbols. -/
def toStandard (c : Char) : Char := if c = '-' then '+' else if c = '_' then '/' else c

/-- `base64.urlsafe_b64decode`; a text that is not ASCII raises too. -/
def urlsafeB64decode (cs : List Char) : Option (List UInt8) :=
  if cs.all fun c => c.toNat < 128 then a2bBase64 0 0 0 (cs.map toStandard) else none

/-! ## Encoded texts -/

section Symbols

variable {n left pads : Nat} {cs : List Char}

@[simp] theorem a2bBase64_first (h : n < 64) :
    a2bBase64 0 left pads (Base64.standard.symbol n :: cs) = a2bBase64 1 n 0 cs := by
  simp [a2bBase64, Base64.standard.symbol_ne n h, Base64.standard.value_symbol n h]

@[simp] theorem a2bBase64_second (h : n < 64) :
    a2bBase64 1 left pads (Base64.standard.symbol n :: cs) =
      (a2bBase64 2 (n % 16) 0 cs).map (UInt8.ofNat (left * 4 + n / 16) :: ·) := by
  simp [a2bBase64, Base64.standard.symbol_ne n h, Base64.standard.value_symbol n h]

@[simp] theorem a2bBase64_third (h : n < 64) :
    a2bBase64 2 left pads (Base64.standard.symbol n :: cs) =
      (a2bBase64 3 (n % 4) 0 cs).map (UInt8.ofNat (left * 16 + n / 4) :: ·) := by
  simp [a2bBase64, Base64.standard.symbol_ne n h, Base64.standard.value_symbol n h]

@[simp] theorem a2bBase64_fourth (h : n < 64) :
    a2bBase64 3 left pads (Base64.standard.symbol n :: cs) =
      (a2bBase64 0 0 0 cs).map (UInt8.ofNat (left * 64 + n) :: ·) := by
  simp [a2bBase64, Base64.standard.symbol_ne n h, Base64.standard.value_symbol n h]

end Symbols

/-- The groups of an encoded text, one after the other; the last one may be filled. -/
theorem a2bBase64_padded : ∀ bs : List UInt8, a2bBase64 0 0 0 (Base64.padded Base64.standard bs) = some bs
  | [] => rfl
  | [a] => by
    have hlt := Base64.sextets_lt [a]
    have ha := a.toNat_lt
    simp only [Base64.sextets, List.forall_mem_cons] at hlt
    simp only [Base64.padded, Base64.encode, Base64.sextets, List.map_cons, List.map_nil, List.cons_append,
      List.nil_append, a2bBase64_first hlt.1, a2bBase64_second hlt.2.1, List.length_cons, List.length_nil]
    rw [Base64.ofNat_eq (a := a) (by omega)]
    rfl
  | [a, b] => by
    have hlt := Base64.sextets_lt [a, b]
    have ha := a.toNat_lt
    have hb := b.toNat_lt
    simp only [Base64.sextets, List.forall_mem_cons] at hlt
    simp only [Base64.padded, Base64.encode, Base64.sextets, List.map_cons, List.map_nil, List.cons_append,
      List.nil_append, a2bBase64_first hlt.1, a2bBase64_second hlt.2.1, a2bBase64_third hlt.2.2.1, List.length_cons,
      List.length_nil]
    rw [Base64.ofNat_eq (a := a) (by omega), Base64.ofNat_eq (a := b) (by omega)]
    rfl
  | a :: b :: c :: rest => by
    have hlt := Base64.sextets_lt (a :: b :: c :: rest)
    have ha := a.toNat_lt
    have hb := b.toNat_lt
    have hc := c.toNat_lt
    have ih := a2bBase64_padded rest
    simp only [Base64.sextets, List.forall_mem_cons] at hlt
    have hpad : (4 - ((Base64.sextets rest).length + 1 + 1 + 1 + 1) % 4) % 4 = (4 - (Base64.sextets rest).length % 4) % 4 := by
      omega
    simp only [Base64.padded, Base64.encode] at ih
    simp only [Base64.padded, Base64.encode, Base64.sextets, List.map_cons, List.cons_append, a2bBase64_first hlt.1,
      a2bBase64_second hlt.2.1, a2bBase64_third hlt.2.2.1, a2bBase64_fourth hlt.2.2.2.1, List.length_cons, hpad, ih,
      Option.map_some]
    rw [Base64.ofNat_eq (a := a) (by omega), Base64.ofNat_eq (a := b) (by omega), Base64.ofNat_eq (a := c) (by omega)]

theorem toStandard_symbol : ∀ n < 64, toStandard (Base64.urlSafe.symbol n) = Base64.standard.symbol n ∧
    (Base64.urlSafe.symbol n).toNat < 128 := by
  decide +kernel

/-- What was encoded and filled is read back. -/
theorem urlsafeB64decode_padded (bs : List UInt8) : urlsafeB64decode (Base64.padded Base64.urlSafe bs) = some bs := by
  have hsymbols : (Base64.encode Base64.urlSafe bs).map toStandard = Base64.encode Base64.standard bs := by
    rw [Base64.encode, Base64.encode, List.map_map]
    exact List.map_congr_left fun n hn => (toStandard_symbol n (Base64.sextets_lt bs n hn)).1
  have hascii : (Base64.padded Base64.urlSafe bs).all (fun c => c.toNat < 128) = true := by
    rw [List.all_eq_true, Base64.padded]
    intro c hc
    rcases List.mem_append.mp hc with hc | hc
    · exact Base64.encode_all (p := fun c => decide (c.toNat < 128) = true)
        (fun n hn => decide_eq_true (toStandard_symbol n hn).2) bs c hc
    · rw [List.eq_of_mem_replicate hc]
      rfl
  have hfill : ∀ k, (List.replicate k '=').map toStandard = List.replicate k '=' := fun k => List.map_replicate
  rw [urlsafeB64decode, if_pos hascii, Base64.padded, List.map_append, hsymbols, hfill]
  exact a2bBase64_padded bs

end HostedFacilitator
