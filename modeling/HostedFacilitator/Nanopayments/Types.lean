import HostedFacilitator.Python.Numbers

/-!
# The data classes of `nanopayments/types.py`

A request to Circle is read into data classes (`from_dict`) and written out of them again (`to_dict`). The classes do
not check their fields: a field holds whatever JSON value the request has, or the default where the key is missing.
Reading back what was written gives the same object (`PaymentPayload.fromDict_toDict`).
-/

namespace HostedFacilitator

/-- `d.get(key, default)`. -/
def PyDict.getOr (d : PyDict) (key : String) (default : PyVal) : PyVal := (d.lookup key).getD default

/-- The dictionary that a `.get` call needs. -/
def PyVal.expectDict : PyVal → Except PyErr PyDict
  | .dict d => .ok d
  | _ => .error (.other "AttributeError" "object has no attribute 'get'")

theorem PyDict.getOr_of_has {d : PyDict} {key : String} (h : d.has key = true) (default : PyVal) :
    d.getOr key default = d.get key := by
  obtain ⟨v, hv⟩ := Option.isSome_iff_exists.mp h
  simp [getOr, get, hv]

theorem PyDict.get_of_not_has {d : PyDict} {key : String} (h : d.has key = false) : d.get key = .null := by
  rw [has, Option.isSome_eq_false_iff, Option.isNone_iff_eq_none] at h
  rw [get, h, Option.getD_none]

theorem PyDict.getOr_of_not_has {d : PyDict} {key : String} (h : d.has key = false) (default : PyVal) :
    d.getOr key default = default := by
  rw [has, Option.isSome_eq_false_iff, Option.isNone_iff_eq_none] at h
  rw [getOr, h, Option.getD_none]

@[simp] theorem PyVal.expectDict_dict (d : PyDict) : (PyVal.dict d).expectDict = .ok d := rfl

namespace Nanopayments

structure PaymentRequirementsExtra where
  name : PyVal
  version : PyVal
  verifyingContract : PyVal
  minValiditySeconds : Option Int := none
  assets : List PyDict := []

structure PaymentRequirementsKind where
  scheme : PyVal
  network : PyVal
  asset : PyVal
  amount : PyVal
  maxTimeoutSeconds : PyVal
  payTo : PyVal
  extra : PaymentRequirementsExtra

structure PaymentRequirements where
  x402Version : PyVal
  accepts : List PaymentRequirementsKind

structure EIP3009Authorization where
  fromAddress : PyVal
  toAddress : PyVal
  value : PyVal
  validAfter : PyVal
  validBefore : PyVal
  nonce : PyVal

structure ResourceInfo where
  url : PyVal
  description : PyVal
  mimeType : PyVal

structure PaymentPayloadInner where
  signature : PyVal
  authorization : EIP3009Authorization

/-- `accepted` is a kind or `None`; the provider never puts a plain dictionary there. -/
structure PaymentPayload where
  x402Version : PyVal
  scheme : PyVal
  network : PyVal
  payload : PaymentPayloadInner
  resource : Option ResourceInfo := none
  accepted : Option PaymentRequirementsKind := none

/-! ## Writing -/

def PaymentRequirementsExtra.toDict (e : PaymentRequirementsExtra) : PyDict :=
  [("name", e.name), ("version", e.version), ("verifyingContract", e.verifyingContract)] ++
    (match e.minValiditySeconds with
      | some n => [("minValiditySeconds", .int n)]
      | none => []) ++
    (if e.assets.isEmpty then [] else [("assets", .list (e.assets.map .dict))])

def PaymentRequirementsKind.toDict (k : PaymentRequirementsKind) : PyDict :=
  [("scheme", k.scheme), ("network", k.network), ("asset", k.asset), ("amount", k.amount),
    ("maxTimeoutSeconds", k.maxTimeoutSeconds), ("payTo", k.payTo), ("extra", .dict k.extra.toDict)]

def PaymentRequirements.toDict (p : PaymentRequirements) : PyDict :=
  [("x402Version", p.x402Version), ("accepts", .list (p.accepts.map fun k => .dict k.toDict))]

def EIP3009Authorization.toDict (a : EIP3009Authorization) : PyDict :=
  [("from", a.fromAddress), ("to", a.toAddress), ("value", a.value), ("validAfter", a.validAfter),
    ("validBefore", a.validBefore), ("nonce", a.nonce)]

def ResourceInfo.toDict (i : ResourceInfo) : PyDict :=
  [("url", i.url), ("description", i.description), ("mimeType", i.mimeType)]

def PaymentPayloadInner.toDict (p : PaymentPayloadInner) : PyDict :=
  [("signature", p.signature), ("authorization", .dict p.authorization.toDict)]

def PaymentPayload.toDict (p : PaymentPayload) : PyDict :=
  [("x402Version", p.x402Version), ("scheme", p.scheme), ("network", p.network),
      ("payload", .dict p.payload.toDict)] ++
    (match p.resource with
      | some i => [("resource", .dict i.toDict)]
      | none => []) ++
    (match p.accepted with
      | some k => [("accepted", .dict k.toDict)]
      | none => [])

/-! ## Reading -/

section Reading

variable (u : Decimals)

/-- `int(min_validity)` where there is one; a value that is no number counts as missing. -/
def minValidity : PyVal → Except PyErr (Option Int)
  | .null => .ok none
  | v => noneOnBadValue (v.toInt u)

def PaymentRequirementsExtra.fromDict (d : PyDict) : Except PyErr PaymentRequirementsExtra := do
  let assets := match d.getOr "assets" (.list []) with
    | .list xs => xs.filterMap PyVal.asDict
    | _ => []
  let minValiditySeconds ← minValidity u (d.get "minValiditySeconds")
  .ok
    { name := d.getOr "name" (.str "")
      version := d.getOr "version" (.str "")
      verifyingContract := d.getOr "verifyingContract" (.str "")
      minValiditySeconds := minValiditySeconds
      assets := assets }

def PaymentRequirementsKind.fromDict (d : PyDict) : Except PyErr PaymentRequirementsKind := do
  let extra ← (d.getOr "extra" (.dict [])).expectDict
  let extra ← PaymentRequirementsExtra.fromDict u extra
  .ok
    { scheme := d.getOr "scheme" (.str "")
      network := d.getOr "network" (.str "")
      asset := d.getOr "asset" (.str "")
      amount := d.getOr "amount" (.str "")
      maxTimeoutSeconds := d.getOr "maxTimeoutSeconds" (.int 0)
      payTo := d.getOr "payTo" (.str "")
      extra := extra }

def EIP3009Authorization.fromDict (d : PyDict) : EIP3009Authorization where
  fromAddress := d.getOr "from" (.str "")
  toAddress := d.getOr "to" (.str "")
  value := d.getOr "value" (.str "")
  validAfter := d.getOr "validAfter" (.str "0")
  validBefore := d.getOr "validBefore" (.str "")
  nonce := d.getOr "nonce" (.str "")

def ResourceInfo.fromDict (d : PyDict) : ResourceInfo where
  url := d.getOr "url" (.str "")
  description := d.getOr "description" (.str "")
  mimeType := d.getOr "mimeType" (.str "")

def PaymentPayloadInner.fromDict (d : PyDict) : Except PyErr PaymentPayloadInner := do
  let authorization ← (d.getOr "authorization" (.dict [])).expectDict
  .ok
    { signature := d.getOr "signature" (.str "")
      authorization := EIP3009Authorization.fromDict authorization }

/-- `X.from_dict(data) if data else None`. -/
def optionally {α : Type} (read : PyDict → Except PyErr α) (v : PyVal) : Except PyErr (Option α) :=
  if v.truthy then do
    let d ← v.expectDict
    let x ← read d
    .ok (some x)
  else .ok none

def PaymentPayload.fromDict (d : PyDict) : Except PyErr PaymentPayload := do
  let resource ← optionally (fun d => .ok (ResourceInfo.fromDict d)) (d.get "resource")
  let accepted ← optionally (PaymentRequirementsKind.fromDict u) (d.get "accepted")
  let payload ← (d.getOr "payload" (.dict [])).expectDict
  let payload ← PaymentPayloadInner.fromDict payload
  .ok
    { x402Version := d.getOr "x402Version" (.int 2)
      scheme := d.getOr "scheme" (.str "exact")
      network := d.getOr "network" (.str "")
      payload := payload
      resource := resource
      accepted := accepted }

end Reading

/-! ## Reading back -/

section RoundTrip

variable {u : Decimals}

theorem filterMap_asDict (ds : List PyDict) : (ds.map PyVal.dict).filterMap PyVal.asDict = ds := by
  induction ds with
  | nil => rfl
  | cons d ds ih => simp [PyVal.asDict, ih]

theorem PaymentRequirementsExtra.fromDict_toDict (e : PaymentRequirementsExtra) :
    fromDict u e.toDict = .ok e := by
  obtain ⟨name, version, contract, validity, assets⟩ := e
  have hassets : ∀ validity, Except.ok (ε := PyErr) (mk name version contract validity
      ((assets.map PyVal.dict).filterMap PyVal.asDict)) = .ok ⟨name, version, contract, validity, assets⟩ := by
    intro validity
    rw [filterMap_asDict]
  cases validity with
  | none =>
    cases assets with
    | nil => rfl
    | cons d ds => exact bind_ok.mpr ⟨none, rfl, hassets none⟩
  | some n =>
    cases assets with
    | nil => rfl
    | cons d ds => exact bind_ok.mpr ⟨some n, rfl, hassets (some n)⟩

theorem PaymentRequirementsKind.fromDict_toDict (k : PaymentRequirementsKind) : fromDict u k.toDict = .ok k :=
  bind_ok.mpr ⟨k.extra.toDict, rfl, bind_ok.mpr ⟨k.extra, k.extra.fromDict_toDict, rfl⟩⟩

/-- **Reading back.** A payload is what `from_dict` reads from what `to_dict` wrote. -/
theorem PaymentPayload.fromDict_toDict (p : PaymentPayload) : fromDict u p.toDict = .ok p := by
  obtain ⟨version, scheme, network, payload, resource, accepted⟩ := p
  have hread : ∀ k : PaymentRequirementsKind,
      optionally (PaymentRequirementsKind.fromDict u) (.dict k.toDict) = .ok (some k) :=
    fun k => bind_ok.mpr ⟨k.toDict, rfl, bind_ok.mpr ⟨k, k.fromDict_toDict, rfl⟩⟩
  have hpayload : PaymentPayloadInner.fromDict payload.toDict = .ok payload := rfl
  cases resource with
  | none =>
    cases accepted with
    | none => rfl
    | some k => exact bind_ok.mpr ⟨none, rfl, bind_ok.mpr ⟨some k, hread k, rfl⟩⟩
  | some i =>
    cases accepted with
    | none => rfl
    | some k => exact bind_ok.mpr ⟨some i, rfl, bind_ok.mpr ⟨some k, hread k, rfl⟩⟩

end RoundTrip

end Nanopayments
end HostedFacilitator
