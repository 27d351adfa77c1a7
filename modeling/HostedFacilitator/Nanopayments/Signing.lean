import HostedFacilitator.Nanopayments.Types

/-!
# Signing a transfer

`EIP3009Signer.sign_transfer_with_authorization` turns a requirement into a signed payload. What is signed is the typed
data of `build_eip712_domain` and `build_eip712_message`; what is sent is an `EIP3009Authorization` that is written
apart from it. `Signed` says that the two agree, and everything that was checked on the way.

The signature itself is third-party code (`EIP3009Signer.sign`), the clock and the random bytes are arguments.
-/

namespace HostedFacilitator.Nanopayments

/-! ## The exceptions of `exceptions.py` that a buyer meets -/

def unsupportedSchemeError (scheme : String) : PyErr :=
  .other "UnsupportedSchemeError" ("Unsupported payment scheme: " ++ scheme)

def unsupportedNetworkError (network : String) : PyErr :=
  .other "UnsupportedNetworkError" ("Unsupported network: " ++ network)

def missingVerifyingContractError : PyErr :=
  .other "MissingVerifyingContractError" "Missing verifyingContract in payment requirements"

def signingError (message : String) : PyErr := .other "SigningError" message

/-- The string that a call of `.startswith` needs. -/
def expectStr : PyVal → Except PyErr String
  | .str s => .ok s
  | _ => .error (.other "AttributeError" "object has no attribute 'startswith'")

/-! ## Typed data -/

def circleBatchingName : String := "GatewayWalletBatched"

def minValidBeforeSeconds : Int := 604800

def defaultValidBeforeSeconds : Int := 604900

structure Eip712Domain where
  name : PyVal
  version : PyVal
  chainId : Int
  verifyingContract : String

/-- `build_eip712_domain`. -/
def buildEip712Domain (chainId : Int) (verifyingContract name version : PyVal) : Except PyErr Eip712Domain :=
  if !verifyingContract.truthy then .error (signingError "verifying_contract cannot be empty")
  else do
    let contract ← expectStr verifyingContract
    if !startsHex contract then .error (signingError ("verifying_contract must be a hex address: " ++ contract))
    else if chainId ≤ 0 then .error (signingError ("chain_id must be positive: " ++ toString chainId))
    else .ok { name := name, version := version, chainId := chainId, verifyingContract := contract }

/-- The message of `TransferWithAuthorization`. -/
structure Eip712Message where
  fromAddress : String
  toAddress : String
  value : Int
  validAfter : Int := 0
  validBefore : Int
  nonce : String

/-- `"0x" + os.urandom(32).hex()`. -/
def randomNonce (fresh : List UInt8) : String := String.ofList ('0' :: 'x' :: hexDigits fresh)

section Message

variable (u : Decimals) (text : Text)

/-- The expiry: the given one, which has to be far enough away, or the default. -/
def chooseValidBefore (now : Int) : Option Int → Except PyErr Int
  | none => .ok (now + defaultValidBeforeSeconds)
  | some validBefore =>
    if validBefore < now + minValidBeforeSeconds then
      .error (signingError ("valid_before must be at least " ++ toString minValidBeforeSeconds ++ " seconds (" ++
        toString (minValidBeforeSeconds / 86400) ++ " days) in the future. Got: " ++ toString validBefore ++
        ", minimum required: " ++ toString (now + minValidBeforeSeconds)))
    else .ok validBefore

/-- The nonce: the given one, which has to be 32 bytes in hexadecimal, or a random one. -/
def chooseNonce (fresh : List UInt8) : Option String → Except PyErr String
  | none => .ok (randomNonce fresh)
  | some nonce =>
    let digits := nonce.toList.drop 2
    if !startsHex nonce then .error (signingError ("nonce must start with 0x: " ++ nonce))
    else if digits.length ≠ 64 then
      .error (signingError ("nonce must be 32 bytes (64 hex chars), got " ++ toString (digits.length / 2) ++ " bytes"))
    else match u.ofText 16 (String.ofList digits) with
      | some _ => .ok nonce
      | none => .error (signingError "nonce must be a valid hex string")

/-- `build_eip712_message`; `valid_after` is never given. -/
def buildEip712Message (now : Int) (fresh : List UInt8) (fromAddress : String) (toAddress : PyVal) (value : Int)
    (validBefore : Option Int) (nonce : Option String) : Except PyErr Eip712Message :=
  if !startsHex fromAddress then .error (signingError ("from_address must be a hex address: " ++ fromAddress))
  else do
    let toAddress ← expectStr toAddress
    if !startsHex toAddress then .error (signingError ("to_address must be a hex address: " ++ toAddress))
    else if text.lower fromAddress = text.lower toAddress then
      .error (signingError "from_address and to_address cannot be the same (self-transfer)")
    else if value < 0 then .error (signingError ("value must be non-negative: " ++ toString value))
    else do
      let validBefore ← chooseValidBefore now validBefore
      let nonce ← chooseNonce u fresh nonce
      .ok { fromAddress := fromAddress, toAddress := toAddress, value := value, validBefore := validBefore, nonce := nonce }

end Message

/-! ## The signer -/

/-- The address of the key, and `encode_typed_data` with `sign_message`: the hexadecimal signature, or the text of an
exception. -/
structure EIP3009Signer where
  address : String
  sign : Eip712Domain → Eip712Message → Except String String

/-- The chain id of a CAIP-2 network: what stands between the first two colons. -/
def caip2ChainId (u : Decimals) (network : String) : Except PyErr Int :=
  if network.toList.take 7 ≠ "eip155:".toList then .error (unsupportedNetworkError network)
  else match u.ofText 10 (String.ofList ((network.toList.drop 7).takeWhile (· ≠ ':'))) with
    | some chainId => .ok chainId
    | none => .error (unsupportedNetworkError network)

/-- The amount to sign: the required one, or a given one that does not exceed it. -/
def chooseAmount (required : Int) : Option Int → Except PyErr Int
  | none => .ok required
  | some amount =>
    if required < amount then
      .error (signingError ("amount_atomic (" ++ toString amount ++ ") exceeds required amount (" ++ toString required ++ ")"))
    else .ok amount

/-- `self._account.sign_message(signable)` in its `try`. -/
def EIP3009Signer.trySign (signer : EIP3009Signer) (domain : Eip712Domain) (message : Eip712Message) :
    Except PyErr String :=
  match signer.sign domain message with
  | .ok signature => .ok signature
  | .error e => .error (signingError ("Failed to sign EIP-712 message: " ++ e))

/-- `EIP3009Authorization.create` for a signed message. -/
def EIP3009Authorization.create (message : Eip712Message) (value validBefore : String) : EIP3009Authorization where
  fromAddress := .str message.fromAddress
  toAddress := .str message.toAddress
  value := .str value
  validAfter := .str "0"
  validBefore := .str validBefore
  nonce := .str message.nonce

variable (u : Decimals) (text : Text) (signer : EIP3009Signer) (now : Int) (fresh : List UInt8)

/-- `sign_transfer_with_authorization`. -/
def signTransferWithAuthorization (requirements : PaymentRequirementsKind) (amountAtomic validBefore : Option Int)
    (nonce : Option String) : Except PyErr PaymentPayload :=
  if requirements.extra.name.asStr ≠ some circleBatchingName then
    .error (unsupportedSchemeError (requirements.extra.name.toStr text))
  else if !requirements.extra.verifyingContract.truthy then .error missingVerifyingContractError
  else do
    let required ← requirements.amount.toInt u
    let amount ← chooseAmount required amountAtomic
    let network ← expectStr requirements.network
    let chainId ← caip2ChainId u network
    let domain ← buildEip712Domain chainId requirements.extra.verifyingContract requirements.extra.name
      requirements.extra.version
    let message ← buildEip712Message u text now fresh signer.address requirements.payTo amount validBefore nonce
    let signature ← signer.trySign domain message
    let value ← strInt amount
    let expiry ← strInt message.validBefore
    .ok
      { x402Version := .int 2
        scheme := requirements.scheme
        network := requirements.network
        payload := { signature := .str ("0x" ++ signature), authorization := .create message value expiry } }

/-! ## What has been signed -/

/-- A payload that came of a requirement: its authorization says what was signed, and what was signed is what the
requirement asks for. -/
structure Signed (requirements : PaymentRequirementsKind) (amount : Int) (domain : Eip712Domain)
    (message : Eip712Message) (payload : PaymentPayload) : Prop where
  name : requirements.extra.name = .str circleBatchingName
  contract : requirements.extra.verifyingContract = .str domain.verifyingContract
  domainName : domain.name = requirements.extra.name
  version : domain.version = requirements.extra.version
  chain : 0 < domain.chainId
  network : ∃ n, requirements.network = .str n ∧ caip2ChainId u n = .ok domain.chainId
  value : message.value = amount
  positive : 0 ≤ amount
  payer : message.fromAddress = signer.address
  payee : requirements.payTo = .str message.toAddress
  other : text.lower message.fromAddress ≠ text.lower message.toAddress
  expiry : now + minValidBeforeSeconds ≤ message.validBefore
  signature : ∃ s, signer.sign domain message = .ok s ∧ payload.payload.signature = .str ("0x" ++ s)
  authorization : payload.payload.authorization =
    .create message (toString message.value) (toString message.validBefore)
  version2 : payload.x402Version = .int 2
  scheme : payload.scheme = requirements.scheme
  sameNetwork : payload.network = requirements.network
  bare : payload.resource = none ∧ payload.accepted = none

variable {u text signer now fresh} {requirements : PaymentRequirementsKind} {amountAtomic validBefore : Option Int}
  {nonce : Option String} {payload : PaymentPayload}

theorem expectStr_ok {v : PyVal} {s : String} (h : expectStr v = .ok s) : v = .str s := by
  cases v with
  | str t => exact congrArg PyVal.str (Except.ok.inj h)
  | null | bool | int | float | list | dict => cases h

theorem strInt_ok {n : Int} {s : String} (h : strInt n = .ok s) : s = toString n := by
  unfold strInt at h
  split at h
  · exact (Except.ok.inj h).symm
  · cases h

theorem buildEip712Domain_ok {chainId : Int} {contract name version : PyVal} {domain : Eip712Domain}
    (h : buildEip712Domain chainId contract name version = .ok domain) :
    contract = .str domain.verifyingContract ∧ domain.name = name ∧ domain.version = version ∧
      domain.chainId = chainId ∧ 0 < chainId := by
  unfold buildEip712Domain at h
  split at h
  · cases h
  obtain ⟨c, hc, h⟩ := bind_ok.mp h
  split at h
  · cases h
  split at h
  · cases h
  cases h
  exact ⟨expectStr_ok hc, rfl, rfl, rfl, by omega⟩

theorem chooseValidBefore_ok {t : Int} (h : chooseValidBefore now validBefore = .ok t) :
    now + minValidBeforeSeconds ≤ t := by
  cases validBefore with
  | none =>
    cases h
    simp only [minValidBeforeSeconds, defaultValidBeforeSeconds]
    omega
  | some t' =>
    simp only [chooseValidBefore] at h
    split at h
    · cases h
    · cases h
      omega

theorem buildEip712Message_ok {fromAddress : String} {toAddress : PyVal} {value : Int} {message : Eip712Message}
    (h : buildEip712Message u text now fresh fromAddress toAddress value validBefore nonce = .ok message) :
    message.fromAddress = fromAddress ∧ toAddress = .str message.toAddress ∧ message.value = value ∧ 0 ≤ value ∧
      text.lower message.fromAddress ≠ text.lower message.toAddress ∧ message.validAfter = 0 ∧
      now + minValidBeforeSeconds ≤ message.validBefore ∧ chooseNonce u fresh nonce = .ok message.nonce := by
  unfold buildEip712Message at h
  split at h
  · cases h
  obtain ⟨payee, hto, h⟩ := bind_ok.mp h
  split at h
  · cases h
  split at h
  · cases h
  rename_i hself
  split at h
  · cases h
  rename_i hneg
  obtain ⟨t, ht, h⟩ := bind_ok.mp h
  obtain ⟨n, hn, h⟩ := bind_ok.mp h
  cases h
  exact ⟨rfl, expectStr_ok hto, rfl, by omega, hself, rfl, chooseValidBefore_ok ht, hn⟩

theorem trySign_ok {domain : Eip712Domain} {message : Eip712Message} {s : String}
    (h : signer.trySign domain message = .ok s) : signer.sign domain message = .ok s := by
  unfold EIP3009Signer.trySign at h
  split at h
  · cases h
    assumption
  · cases h

/-- Every payload that the signer returns is signed as it says. -/
theorem sign_ok (h : signTransferWithAuthorization u text signer now fresh requirements amountAtomic validBefore nonce =
    .ok payload) :
    ∃ required amount domain message, requirements.amount.toInt u = .ok required ∧ amount ≤ required ∧
      chooseAmount required amountAtomic = .ok amount ∧
      Signed u text signer now requirements amount domain message payload ∧
      chooseNonce u fresh nonce = .ok message.nonce := by
  unfold signTransferWithAuthorization at h
  split at h
  · cases h
  rename_i hname
  split at h
  · cases h
  obtain ⟨required, hrequired, h⟩ := bind_ok.mp h
  obtain ⟨amount, hamount, h⟩ := bind_ok.mp h
  obtain ⟨network, hnetwork, h⟩ := bind_ok.mp h
  obtain ⟨chainId, hchain, h⟩ := bind_ok.mp h
  obtain ⟨domain, hdomain, h⟩ := bind_ok.mp h
  obtain ⟨message, hmessage, h⟩ := bind_ok.mp h
  obtain ⟨signature, hsignature, h⟩ := bind_ok.mp h
  obtain ⟨value, hvalue, h⟩ := bind_ok.mp h
  obtain ⟨expiry, hexpiry, h⟩ := bind_ok.mp h
  cases h
  obtain ⟨hcontract, hdname, hversion, hid, hpos⟩ := buildEip712Domain_ok hdomain
  obtain ⟨hfrom, hto, hval, hnonneg, hother, -, hbefore, hnonce⟩ := buildEip712Message_ok hmessage
  have hle : amount ≤ required := by
    cases amountAtomic with
    | none => exact Int.le_of_eq (Except.ok.inj hamount).symm
    | some a =>
      simp only [chooseAmount] at hamount
      split at hamount
      · cases hamount
      · cases hamount
        omega
  refine ⟨required, amount, domain, message, hrequired, hle, hamount, ?_, hnonce⟩
  refine ⟨PyVal.asStr_eq_some (by simpa using hname), hcontract, hdname, hversion, hid ▸ hpos,
    ⟨network, expectStr_ok hnetwork, hid ▸ hchain⟩, hval, hnonneg, hfrom, hto, hother, hbefore,
    ⟨signature, trySign_ok hsignature, rfl⟩, ?_, rfl, rfl, rfl, rfl, rfl⟩
  rw [hval, ← strInt_ok hvalue, ← strInt_ok hexpiry]

end HostedFacilitator.Nanopayments
