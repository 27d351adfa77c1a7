import Mathlib.Data.Bool.AllAny
import HostedFacilitator.Python.Chars

/-!
# What the control plane lets through

The `_safe_*` functions of `control_plane.py`. Most of them drop characters and cut the rest (`Unicode.keepOnly`);
what they return is a fixed point (`safeActor_idem` and its siblings), so reading a stored value through the same
function changes nothing. `_safe_reason` is the exception: it maps every text that is not blank to
`operator_supplied`, its own `unspecified` included (`safeReason_idem_iff`).
-/

namespace HostedFacilitator

/-- `str(uuid4())`: hexadecimal digits and hyphens. -/
structure Uuid where
  text : String
  length_eq : text.toList.length = 36
  chars : ∀ c ∈ text.toList, c.isAlphanum = true ∧ c.toNat < 128 ∨ c = '-'

def Uuid.sample : Uuid := ⟨"9f1c2d3e-4b5a-4c6d-8e7f-0a1b2c3d4e5f", by decide, List.all_iff_forall_prop.mp (by decide)⟩

section Sanitize

variable (u : Unicode)

/-- `safe or default`. -/
def orDefault (safe default : String) : String := if safe = "" then default else safe

/-- `_safe_actor`. -/
def safeActor (value : String) : String := orDefault (u.keepOnly ['_', '-', '.', '@'] 96 value) "unknown"

/-- `_safe_correlation_id`; `fresh` is the `uuid4()` that it draws when nothing is left. -/
def safeCorrelationId (fresh : Uuid) (value : String) : String :=
  orDefault (u.keepOnly ['_', '-', '.'] 96 value) fresh.text

/-- `_safe_reason`. -/
def safeReason (value : String) : String := if strip value = "" then "unspecified" else "operator_supplied"

/-- `_safe_audit_reason`. -/
def safeAuditReason (value : String) : String := orDefault (u.keepOnly ['_', '-', ':', '.'] 160 value) "unspecified"

/-- `_safe_key_prefix`. -/
def safeKeyPrefix (value : String) : String := orDefault (u.keepOnly ['_', '-'] 32 value) "unknown"

/-- `_safe_provider_name`. -/
def safeProviderName (value : String) : String := orDefault (u.keepOnly ['_', '-', '.'] 64 value) "unknown"

/-- `_safe_key_id`. -/
def safeKeyId (value : String) : Except PyErr String :=
  let safe := u.keepOnly ['_', '-'] 80 value
  if safe = "" then .error (.value "seller API key id is required") else .ok safe

/-- `_safe_network`. -/
def safeNetwork (value : String) : Except PyErr String :=
  let digits := value.toList.drop 7
  if value.toList.take 7 = "eip155:".toList ∧ u.isDigits digits = true ∧ digits.length ≤ 20 then .ok value
  else .error (.value "unsupported control-plane network target")

/-- `_safe_network_or_none`. -/
def safeNetworkOrNone : Option String → Option String
  | none => none
  | some value => (safeNetwork u value).toOption

/-- `_safe_seller_ref`. -/
def safeSellerRef (value : String) : Except PyErr String :=
  let text := strip value
  if ¬(3 ≤ text.toList.length ∧ text.toList.length ≤ 64) then
    .error (.value "seller reference must be 3 to 64 characters")
  else if ¬text.toList.all (u.keeps ['_', '-', '.']) then
    .error (.value "seller reference may only contain letters, numbers, underscore, hyphen, and dot")
  else if ¬text.toList.head?.all u.isalnum then
    .error (.value "seller reference must start with a letter or number")
  else .ok text

/-- The operator actions that `_safe_reconciliation_action` lets through. -/
inductive ReconciliationAction where
  | claim
  | release
  | manualReview
  deriving DecidableEq, Repr

/-- `_safe_reconciliation_action`. -/
def safeReconciliationAction (action : String) : Except PyErr ReconciliationAction :=
  let safe := strip action
  if safe = "reconciliation_claim" then .ok .claim
  else if safe = "reconciliation_release" then .ok .release
  else if safe = "reconciliation_manual_review" then .ok .manualReview
  else .error (.value "unsupported reconciliation action")

/-- The words of `str.split()`. -/
def splitWords (value : String) : List String :=
  ((value.toList.splitOnP isPySpace).filter (· ≠ [])).map String.ofList

/-- `_seller_key_audit_reason`. -/
def sellerKeyAuditReason (keyPrefix : String) (reason : Option String) : String :=
  let value := "api_key_prefix:" ++ safeKeyPrefix u keyPrefix
  match reason with
  | none => value
  | some reason => safeAuditReason u (value ++ ":reason:" ++ "_".intercalate (splitWords (strip reason)))

end Sanitize

/-! ## Fixed points -/

section FixedPoints

variable {u : Unicode} {fresh : Uuid} {s : String}

theorem orDefault_ne {safe default : String} (h : default ≠ "") : orDefault safe default ≠ "" := by
  unfold orDefault
  split <;> assumption

/-- A sanitised text is one that the filter leaves alone and that is not empty. -/
theorem Unicode.Keeps.orDefault_keepOnly {extra : List Char} {size : Nat} {default : String}
    (h : u.Keeps extra size s) (hne : s ≠ "") : orDefault (u.keepOnly extra size s) default = s := by
  rw [h.keepOnly, orDefault, if_neg hne]

theorem keeps_orDefault {extra : List Char} {size : Nat} {default : String} (h : u.Keeps extra size default) :
    u.Keeps extra size (orDefault (u.keepOnly extra size s) default) := by
  unfold orDefault
  split
  · exact h
  · exact Unicode.keepOnly_keeps

/-- Every ASCII letter and digit is kept. -/
theorem keeps_ascii {extra : List Char} {size : Nat}
    (hchars : ∀ c ∈ s.toList, c.isAlphanum = true ∧ c.toNat < 128 ∨ c ∈ extra) (hlen : s.toList.length ≤ size) :
    u.Keeps extra size s := by
  refine ⟨fun c hc => ?_, hlen⟩
  rcases hchars c hc with ⟨ha, hlt⟩ | hmem
  · exact Unicode.keeps_of_alnum (by rw [u.ascii_isalnum c hlt, ha])
  · exact Unicode.keeps_of_mem hmem

theorem Uuid.keeps {extra : List Char} (h : '-' ∈ extra) {size : Nat} (hs : 36 ≤ size) :
    u.Keeps extra size fresh.text := by
  refine keeps_ascii (fun c hc => ?_) (fresh.length_eq ▸ hs)
  rcases fresh.chars c hc with halnum | rfl
  · exact Or.inl halnum
  · exact Or.inr h

theorem Uuid.text_ne : fresh.text ≠ "" := by
  intro h
  have hlen := fresh.length_eq
  rw [h] at hlen
  cases hlen

theorem safeActor_idem : safeActor u (safeActor u s) = safeActor u s :=
  (keeps_orDefault (keeps_ascii (List.all_iff_forall_prop.mp (by decide)) (by decide))).orDefault_keepOnly
    (orDefault_ne (by decide))

theorem safeCorrelationId_idem {fresh' : Uuid} :
    safeCorrelationId u fresh' (safeCorrelationId u fresh s) = safeCorrelationId u fresh s :=
  (keeps_orDefault (Uuid.keeps (by decide) (by decide))).orDefault_keepOnly (orDefault_ne Uuid.text_ne)

theorem safeProviderName_idem : safeProviderName u (safeProviderName u s) = safeProviderName u s :=
  (keeps_orDefault (keeps_ascii (List.all_iff_forall_prop.mp (by decide)) (by decide))).orDefault_keepOnly
    (orDefault_ne (by decide))

/-- The audit text of a key prefix passes the filter for audit texts. -/
theorem safeAuditReason_keyPrefix :
    safeAuditReason u ("api_key_prefix:" ++ safeKeyPrefix u s) = "api_key_prefix:" ++ safeKeyPrefix u s := by
  have hprefix : u.Keeps ['_', '-', ':', '.'] 15 "api_key_prefix:" :=
    keeps_ascii (List.all_iff_forall_prop.mp (by decide)) (by decide)
  have hkey : u.Keeps ['_', '-'] 32 (safeKeyPrefix u s) :=
    keeps_orDefault (keeps_ascii (List.all_iff_forall_prop.mp (by decide)) (by decide))
  have hkey' : u.Keeps ['_', '-', ':', '.'] 32 (safeKeyPrefix u s) := hkey.mono (by simp) le_rfl
  have hboth := hprefix.append hkey'
  refine (hboth.mono (fun _ h => h) (by decide)).orDefault_keepOnly ?_
  intro h
  have hlen := congrArg (·.toList.length) h
  simp [String.toList_append] at hlen

/-- `_safe_reason` is a fixed point of itself only where the text was not blank. -/
theorem safeReason_idem_iff : safeReason (safeReason s) = safeReason s ↔ strip s ≠ "" := by
  by_cases h : strip s = ""
  · have hblank : safeReason s = "unspecified" := if_pos h
    simp only [hblank, h, ne_eq, not_true_eq_false, iff_false]
    decide
  · have hgiven : safeReason s = "operator_supplied" := if_neg h
    simp only [hgiven, h, ne_eq, not_false_eq_true, iff_true]
    decide

theorem safeNetwork_ok {n : String} (h : safeNetwork u s = .ok n) : n = s := by
  simp only [safeNetwork] at h
  split at h
  · exact (Except.ok.inj h).symm
  · cases h

theorem safeNetwork_idem {n : String} (h : safeNetwork u s = .ok n) : safeNetwork u n = .ok n := by
  rw [safeNetwork_ok h]
  exact safeNetwork_ok h ▸ h

end FixedPoints

end HostedFacilitator
