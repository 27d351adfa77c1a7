import HostedFacilitator.Python.Chars
import HostedFacilitator.Python.Numbers

/-!
# IP addresses

`ipaddress.ip_address(text)` reads a dotted IPv4 address, or an IPv6 address with at most one `::`, an IPv4 address for
its last two parts, and a scope behind a `%`. A network contains the addresses of its own kind whose masked bits are
the network's (`IpNetwork.contains`); a scope does not count.
-/

namespace HostedFacilitator

/-- The number of an address. -/
inductive IpAddress where
  | v4 (ip : BitVec 32)
  | v6 (ip : BitVec 128)
  deriving DecidableEq

inductive IpNetwork where
  | v4 (networkAddress netmask : BitVec 32)
  | v6 (networkAddress netmask : BitVec 128)
  deriving DecidableEq

/-- `address in network`. -/
def IpNetwork.contains : IpNetwork → IpAddress → Bool
  | .v4 networkAddress netmask, .v4 ip => ip &&& netmask == networkAddress
  | .v6 networkAddress netmask, .v6 ip => ip &&& netmask == networkAddress
  | .v4 .., .v6 _ | .v6 .., .v4 _ => false

/-! ## Reading -/

/-- `IPv4Address._parse_octet`: up to three ASCII digits, without a leading zero. -/
def parseOctet (s : List Char) : Option Nat :=
  if !s.all Char.isDigit || 3 < s.length || (s != ['0'] && s.head? == some '0') then none
  else (readNat 10 s).filter (· ≤ 255)

/-- `IPv4Address._ip_int_from_string`. -/
def parseIPv4 (s : List Char) : Option (BitVec 32) :=
  let octets := s.splitOn '.'
  if octets.length ≠ 4 then none
  else (octets.mapM parseOctet).map fun octets => BitVec.ofNat 32 (octets.foldl (fun acc o => 256 * acc + o) 0)

/-- `IPv6Address._parse_hextet`: one to four hexadecimal digits. -/
def parseHextet (s : List Char) : Option Nat :=
  if !s.all (fun c => (digitValue c).isSome) || 4 < s.length then none else readNat 16 s

/-- The parts between the colons; an IPv4 address at the end stands for two of them. -/
def ipv6Parts (s : List Char) : Option (List (List Char)) :=
  let parts := s.splitOn ':'
  let last := parts.getLastD []
  if parts.length < 3 then none
  else if last.contains '.' then
    (parseIPv4 last).map fun ip =>
      parts.dropLast ++ [Nat.toDigits 16 (ip.toNat / 65536), Nat.toDigits 16 (ip.toNat % 65536)]
  else some parts

/-- `IPv6Address._ip_int_from_string`. -/
def parseIPv6 (s : List Char) : Option (BitVec 128) := do
  let parts ← ipv6Parts s
  let number (hi : List (List Char)) (skipped : Nat) (lo : List (List Char)) : Option (BitVec 128) := do
    let hi ← hi.mapM parseHextet
    let lo ← lo.mapM parseHextet
    return BitVec.ofNat 128 ((hi ++ List.replicate skipped 0 ++ lo).foldl (fun acc h => 65536 * acc + h) 0)
  let noFirst := (parts.headD []).isEmpty
  let noLast := (parts.getLastD []).isEmpty
  if 9 < parts.length then none
  else
    -- the empty parts that are not at an end: where the `::` is
    match ((List.range (parts.length - 1)).drop 1).filter fun i => (parts.getD i []).isEmpty with
    | [] => if parts.length ≠ 8 || noFirst || noLast then none else number parts 0 []
    | [skip] =>
      let hi := if noFirst then skip - 1 else skip
      let lo := if noLast then parts.length - skip - 2 else parts.length - skip - 1
      if (noFirst && hi != 0) || (noLast && lo != 0) || 8 ≤ hi + lo then none
      else number (parts.take hi) (8 - (hi + lo)) (parts.drop (parts.length - lo))
    | _ => none

/-- `IPv6Address(text)`: `_split_scope_id` takes the scope off. -/
def parseScopedIPv6 (s : List Char) : Option (BitVec 128) :=
  let scope := s.dropWhile (· != '%')
  if s.contains '/' then none
  else if scope.isEmpty then parseIPv6 s
  else if (scope.drop 1).isEmpty || (scope.drop 1).contains '%' then none
  else parseIPv6 (s.takeWhile (· != '%'))

/-- `ip_address(text)`; `none` is a `ValueError`. -/
def ipAddress (text : String) : Option IpAddress :=
  ((parseIPv4 text.toList).map .v4).or ((parseScopedIPv6 text.toList).map .v6)

/-- An address has another character than spaces. -/
theorem strip_ne_of_ipAddress {text : String} {a : IpAddress} (h : ipAddress text = some a) : strip text ≠ "" := by
  intro hblank
  have hspaces := strip_eq_empty.mp hblank
  have hsplit : ∀ sep, isPySpace sep = false → text.toList.splitOn sep = [text.toList] := by
    intro sep hsep
    refine List.splitOnP_eq_singleton fun c hc => ?_
    rw [beq_eq_false_iff_ne]
    rintro rfl
    rw [hspaces c hc] at hsep
    cases hsep
  have hnone : parseIPv4 text.toList = none := by
    simp [parseIPv4, hsplit '.' (by decide)]
  have hno : ∀ c, isPySpace c = false → c ∉ text.toList := fun c hc hmem => by
    rw [hspaces c hmem] at hc
    cases hc
  have hscope : text.toList.dropWhile (· != '%') = [] := by
    rw [List.dropWhile_eq_nil_iff]
    intro c hc
    rw [bne_iff_ne]
    rintro rfl
    exact hno _ (by decide) hc
  have hnone' : parseScopedIPv6 text.toList = none := by
    simp [parseScopedIPv6, hscope, parseIPv6, ipv6Parts, hsplit ':' (by decide)]
  rw [ipAddress, hnone, hnone'] at h
  cases h

end HostedFacilitator
