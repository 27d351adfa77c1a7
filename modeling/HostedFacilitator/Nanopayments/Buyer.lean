import HostedFacilitator.Lib.Base64
import HostedFacilitator.Lib.Transaction
import HostedFacilitator.Nanopayments.Adapter
import HostedFacilitator.Nanopayments.Amounts
import HostedFacilitator.Nanopayments.Balance
import HostedFacilitator.Nanopayments.Client
import HostedFacilitator.Nanopayments.Declines
import HostedFacilitator.Nanopayments.Signing

/-!
# A buyer's payment

`NanopaymentProtocolAdapter.execute` pays a URL (`pay_x402_url`) or an address (`pay_direct`). It runs on a journal of
what the buyer has signed and of what has left him, and it takes what the others do (`Replies`) as an argument, so that
a theorem for all replies is one about every behaviour of the seller, of Circle and of the network.

* A result that allows another payment route comes with a journal in which nothing has been signed (`fallback_safe`).
* What leaves the buyer for a URL is one signed authorization of what the seller's first Gateway requirement asks for,
  and his balance covers it (`url_pays_as_asked`); for an address it is one authorization, posted again at most as
  often as there are retries (`direct_pays_once`).
-/

namespace HostedFacilitator
namespace Nanopayments

open Transaction

/-! ## Exceptions -/

def gatewayAPIError (message : String) : PyErr := .other "GatewayAPIError" message

def settlementError (reason : String) : PyErr := .other "SettlementError" ("Payment settlement failed: " ++ reason)

def insufficientBalanceError (reason : String) : PyErr :=
  .other "InsufficientBalanceError" ("Payment verification failed: " ++ reason)

/-- How a call of the client fails: never for an unsupported network or scheme. -/
inductive Failure where
  | apiError (message : String)
  | timedOut (endpoint : String)
  | connection (reason : String)
  | other (message : String)

def Failure.toErr : Failure → PyErr
  | .apiError message => gatewayAPIError message
  | .timedOut endpoint => .other "GatewayTimeoutError" ("Circle Gateway request timed out: " ++ endpoint)
  | .connection reason => .other "GatewayConnectionError" ("Cannot connect to Circle Gateway: " ++ reason)
  | .other message => .runtime message

def SettleError.toErr : SettleError → PyErr
  | .gatewayTimeout endpoint => (Failure.timedOut endpoint).toErr
  | .gatewayConnection reason => (Failure.connection reason).toErr
  | .nonceReused reason => .other "NonceReusedError" ("Payment verification failed: " ++ reason)
  | .insufficientBalance reason => insufficientBalanceError reason
  | .settlement reason => settlementError reason
  | .other message => .runtime message

/-! ## What the others do -/

/-- Third-party code: `json.dumps`, `json.loads`, `json.loads(base64.b64decode(..))`, `str(exc)`, `str.upper()`,
`urlparse(url).path`, `Web3.to_checksum_address`, and `f"{seconds:.0f}"`. -/
structure Wire where
  dumps : PyVal → String
  loads : String → Except String PyVal
  loadsHeader : String → Except String PyVal
  describe : PyErr → String
  upper : String → String
  urlPath : String → Except String String
  checksum : PyVal → Except String PyVal
  seconds : ℚ → String

structure HttpResponse where
  statusCode : Nat
  header : String → Option String
  text : String
  hasContent : Bool

/-- How `await self._http.request(..)` ends. -/
inductive HttpResult where
  | response (r : HttpResponse)
  | timedOut (message : String)
  | failed (message : String)
  | raised (message : String)

structure SupportedKind where
  x402Version : PyVal
  scheme : PyVal
  network : PyVal
  extra : PyDict

/-- What the seller, Circle and the network answer during one payment, what the clock says, and the random bytes.
`get_supported` is awaited for the contract, the asset and the balance. -/
structure Replies where
  initial : HttpResult
  retry : HttpResult
  contracts : Except Failure (List SupportedKind)
  assets : Except Failure (List SupportedKind)
  domains : Except Failure (List SupportedKind)
  balances : Except Failure (Nat × Option PyVal)
  settle : Nat → HttpReply
  unreachable : String
  breaker : NanopaymentCircuitBreaker
  checked : ℚ
  breakers : Nat → NanopaymentCircuitBreaker
  recorded : Nat → ℚ
  now : Int
  entropy : List UInt8

/-! ## The client -/

section Client

variable (u : Decimals) (text : Text) (wire : Wire)

/-- The property `verifying_contract`. -/
def SupportedKind.verifyingContract (kind : SupportedKind) : PyVal := kind.extra.get "verifyingContract"

/-- The property `usdc_address`. -/
def SupportedKind.usdcAddress (kind : SupportedKind) : PyVal :=
  let assets := match kind.extra.get "assets" with
    | .list assets => assets.filterMap PyVal.asDict
    | _ => []
  let listed := assets.find? fun asset =>
    (asset.get "symbol").asStr == some "USDC" && (asset.get "address").asStr.isSome
  match listed with
  | some asset => asset.get "address"
  | none => if (kind.extra.get "usdcAddress").asStr.isSome then kind.extra.get "usdcAddress" else .null

/-- The loop of `get_verifying_contract` and of `get_usdc_address`. -/
def findAddress (address : SupportedKind → PyVal) (network : PyVal) : List SupportedKind → Except PyErr PyVal
  | [] => .error (unsupportedNetworkError (network.toStr text))
  | kind :: rest =>
    if kind.network.eq network && (address kind).truthy then (wire.checksum (address kind)).mapError .value
    else findAddress address network rest

def getVerifyingContract (r : Replies) (network : PyVal) : Except PyErr PyVal :=
  (r.contracts.mapError Failure.toErr).bind (findAddress text wire SupportedKind.verifyingContract network)

def getUsdcAddress (r : Replies) (network : PyVal) : Except PyErr PyVal :=
  (r.assets.mapError Failure.toErr).bind (findAddress text wire SupportedKind.usdcAddress network)

/-- `CAIP2_TO_CIRCLE_DOMAIN`. -/
def caip2ToCircleDomain : List (String × Int) :=
  [("eip155:1", 0), ("eip155:43114", 1), ("eip155:10", 2), ("eip155:42161", 3),
    ("solana:5eykt4UsFv8P8NJdTREpY1vzqKqZKvdp", 5), ("eip155:8453", 6), ("eip155:137", 7), ("eip155:130", 10),
    ("eip155:146", 13), ("eip155:480", 14), ("eip155:32", 16), ("eip155:9649", 19), ("eip155:5042002", 26)]

/-- `_caip2_to_circle_domain_id`; a list or a dictionary cannot be looked up. -/
def caip2ToCircleDomainId : PyVal → Except PyErr Int
  | .list _ | .dict _ => .error (.type "unhashable type")
  | .str caip2 =>
    match caip2ToCircleDomain.lookup caip2 with
    | some domain => .ok domain
    | none => .error (unsupportedNetworkError caip2)
  | v => .error (unsupportedNetworkError (v.toStr text))

/-- `check_balance`. -/
def requestBalance (r : Replies) (network : PyVal) : Except PyErr GatewayBalance := do
  let _ ← r.domains.mapError Failure.toErr
  let domainId ← caip2ToCircleDomainId text network
  let (statusCode, json) ← r.balances.mapError Failure.toErr
  if statusCode = 404 then .error (unsupportedNetworkError (network.toStr text))
  else if !(200 ≤ statusCode && statusCode ≤ 299) then
    .error (gatewayAPIError ("Gateway /balances returned " ++ toString statusCode))
  else match json with
    | some data => checkBalance text u domainId data
    | none => .error (.value "Expecting value")

/-- The exception of a declined settlement, in the classes that the adapter tells apart. -/
def declineError (c : ExcClass) (reason : PyVal) : SettleError :=
  if !c.arguments.all c.parameters.contains then .other "__init__() got an unexpected keyword argument"
  else
    let stored := (c.storedReason text reason).toStr text
    match c with
    | .nonceReusedError => .nonceReused stored
    | .insufficientBalanceError => .insufficientBalance stored
    | .settlementError => .settlement stored
    | _ => .other ("Payment verification failed: " ++ stored)

/-- `_map_settlement_error`, in these classes. -/
def declined (reason : PyVal) : SettleError :=
  let given := reason.orElse (.str "settlement_declined")
  match reason.orElse (.str "") with
  | .list _ | .dict _ => .other "unhashable type"
  | .str s => declineError text (classFor s) given
  | _ => declineError text .settlementError given

/-- `client.settle`, from the response on. -/
def settleResult (r : Replies) : HttpReply → SettleResult
  | .timedOut => .raised (.gatewayTimeout "/v1/x402/settle")
  | .connectionFailed => .raised (.gatewayConnection r.unreachable)
  | .response statusCode json =>
    if statusCode = 402 then
      match json with
      | some (.dict body) => .raised (declined text (PyDict.getOr body "errorReason" (.str "settlement_declined")))
      | _ => .raised (.other "Expecting value")
    else if !(200 ≤ statusCode && statusCode ≤ 299) then
      .raised (.other ("Gateway /settle returned " ++ toString statusCode))
    else match json with
      | some (.dict data) =>
        match PyDict.get data "success" with
        | .bool true =>
          match PyDict.get data "transaction" with
          | .str transaction =>
            if strip transaction ≠ "" then
              .returned { success := true, transaction := some transaction, payer := (PyDict.get data "payer").asStr,
                          errorReason := none }
            else .raised (.other "Gateway /settle returned success without transaction")
          | _ => .raised (.other "Gateway /settle returned success without transaction")
        | .bool false => .raised (declined text (PyDict.get data "errorReason"))
        | _ => .raised (.other "Gateway /settle returned malformed success field")
      | _ => .raised (.other "Expecting value")

end Client

/-! ## The journal -/

structure Request where
  method : String
  url : String
  headers : List (String × String)
  body : Option String

/-- What has been signed, and what has left: requests to the seller, and settlements posted to Circle. -/
structure Journal where
  signed : List PaymentPayloadInner := []
  requests : List Request := []
  settlements : List SettleRequest := []

/-- A computation that signs and sends. -/
abbrev Paying := Body Journal PyErr

/-- The header of a paid retry. -/
def signatureHeader : String := "PAYMENT-SIGNATURE"

/-- A request to the seller; `timedOut` and `failed` begin the messages. -/
def send (timedOut failed : String) (request : Request) (result : HttpResult) : Paying HttpResponse := do
  modify fun j => { j with requests := j.requests ++ [request] }
  match result with
  | .response r => pure r
  | .timedOut _ => throw (gatewayAPIError (timedOut ++ request.url))
  | .failed message => throw (gatewayAPIError (failed ++ message))
  | .raised message => throw (.runtime message)

/-! ## The adapter -/

/-- `NanopaymentAdapter`, as far as a payment reads it. -/
structure Buyer where
  signer : EIP3009Signer
  retries : NanopaymentAdapter := {}
  network : String := "eip155:5042002"
  strictSettlement : Bool := false

/-- `NanopaymentResult`. -/
structure NanopaymentResult where
  success : Bool
  payer : String
  seller : PyVal
  transaction : String
  amountUsdc : String
  amountAtomic : PyVal
  network : PyVal
  responseData : Option String
  isNanopayment : Bool

/-- `_SUCCESS_STATUS_CODES`. -/
def isSuccessStatus (statusCode : Nat) : Bool := [200, 201, 202, 204].contains statusCode

/-- `resp.text if resp.content else None`. -/
def HttpResponse.data (r : HttpResponse) : Option String := if r.hasContent then some r.text else none

/-- `headers.get(name.lower()) or headers.get(name)`; the empty text counts as missing. -/
def HttpResponse.headerText (r : HttpResponse) (lower name : String) : Option String :=
  (orStr (r.header lower) (r.header name)).filter (· ≠ "")

/-- `PaymentRequirements.from_dict`. -/
def PaymentRequirements.fromDict (u : Decimals) (d : PyDict) : Except PyErr PaymentRequirements := do
  let kinds ← match d.getOr "accepts" (.list []) with
    | .list kinds => kinds.mapM fun kind => kind.expectDict >>= PaymentRequirementsKind.fromDict u
    | .dict [] | .str "" => .ok []
    | .dict _ | .str _ => .error (.other "AttributeError" "object has no attribute 'get'")
    | _ => .error (.type "object is not iterable")
  .ok { x402Version := d.getOr "x402Version" (.int 2), accepts := kinds }

/-- `find_gateway_kind`. -/
def PaymentRequirements.findGatewayKind (p : PaymentRequirements) : Option PaymentRequirementsKind :=
  p.accepts.find? fun kind => kind.extra.name.asStr == some circleBatchingName

/-- `_encode_payment_signature_header`. -/
def encodePaymentSignatureHeader (wire : Wire) (payload : PaymentPayload) (accepted : PaymentRequirementsKind) :
    String :=
  let written := wire.dumps (.dict (Dict.set payload.toDict "accepted" (.dict accepted.toDict)))
  String.ofList (Base64.padded Base64.standard written.toUTF8.data.toList)

section Adapter

variable (u : Decimals) (text : Text) (wire : Wire) (buyer : Buyer) (r : Replies)

/-- `_sign`; the payloads of the signer have no resource. -/
def signPayment (requirements : PaymentRequirementsKind) (resource : ResourceInfo) (amountAtomic : Option Int) :
    Paying PaymentPayload := do
  let amount ← attempt (amountAtomic.elim (requirements.amount.toInt u) .ok)
  let payload ← attempt (signTransferWithAuthorization u text buyer.signer r.now r.entropy requirements (some amount)
    none none)
  modify fun j => { j with signed := j.signed ++ [payload.payload] }
  pure { payload with resource := some resource }

/-- The check of the balance, before anything is signed. -/
def requireBalance (balance : GatewayBalance) (required : Int) : Except PyErr Unit :=
  if balance.available < required then
    .error (insufficientBalanceError ("Insufficient balance: available " ++ toString balance.available ++
      ", required " ++ toString required))
  else .ok ()

/-! ### A URL -/

/-- The requirements of a 402 response. -/
def readRequirements (initial : HttpResponse) : Except PyErr PaymentRequirements :=
  match initial.headerText "payment-required" "PAYMENT-REQUIRED" with
  | none => .error (gatewayAPIError "402 response missing PAYMENT-REQUIRED header")
  | some header =>
    let parsed : Except String PaymentRequirements :=
      (wire.loadsHeader header).bind fun data =>
        (data.expectDict >>= PaymentRequirements.fromDict u).mapError wire.describe
    parsed.mapError fun e => gatewayAPIError ("Failed to parse PAYMENT-REQUIRED header: " ++ e)

/-- The resource of the body, or one that is made of the URL. -/
def readResource (url : String) (initial : HttpResponse) : Except PyErr ResourceInfo :=
  let body : Except String PyVal := if initial.text ≠ "" then wire.loads initial.text else .ok (.dict [])
  let given := match body with
    | .ok (.dict data) => (PyDict.get data "resource").asDict.filter fun d => !d.isEmpty
    | _ => none
  match given with
  | some d => .ok (ResourceInfo.fromDict d)
  | none =>
    match wire.urlPath url with
    | .error e => .error (.value e)
    | .ok path =>
      .ok { url := .str url, description := .str ("x402 payment for " ++ (if path = "" then "/" else path)),
            mimeType := .str "application/json" }

/-- The requirement that is signed, from the one that the seller sent. -/
def updatedKind (kind : PaymentRequirementsKind) (verifyingContract : PyVal) : PaymentRequirementsKind :=
  { kind with
    extra := { kind.extra with
      name := .str circleBatchingName
      version := kind.extra.version.orElse (.str "1")
      verifyingContract := verifyingContract } }

/-- The contract of the seller's requirement, or the one that Circle gives. -/
def chooseContract (kind : PaymentRequirementsKind) : Except PyErr PyVal :=
  if kind.extra.verifyingContract.truthy then .ok kind.extra.verifyingContract
  else getVerifyingContract text wire r kind.network

/-- Steps 3 to 6: what is going to be signed, for a 402 response. -/
def quote (url : String) (initial : HttpResponse) : Except PyErr (PaymentRequirementsKind × ResourceInfo) := do
  let requirements ← readRequirements u wire initial
  let resource ← readResource wire url initial
  match requirements.findGatewayKind with
  | none =>
    .error (unsupportedSchemeError (text.containerStr (.list (requirements.accepts.map fun kind => kind.extra.name))))
  | some kind => do
    let contract ← chooseContract text wire r kind
    let updated := updatedKind kind contract
    let balance ← requestBalance u text r kind.network
    let required ← updated.amount.toInt u
    requireBalance balance required
    .ok (updated, resource)

/-- The PAYMENT-RESPONSE header: whether the settlement succeeded, and its transaction. -/
def readPaymentResponse (retry : HttpResponse) : Except PyErr (Bool × String) :=
  let strict := buyer.strictSettlement && !isSuccessStatus retry.statusCode
  match retry.headerText "payment-response" "PAYMENT-RESPONSE" with
  | none =>
    if strict then .error (settlementError "Missing PAYMENT-RESPONSE header") else .ok (false, "")
  | some header =>
    match (wire.loadsHeader header).bind fun data => data.expectDict.mapError wire.describe with
    | .ok data =>
      let transaction := data.get "transaction"
      .ok ((data.get "success").truthy, if transaction.truthy then transaction.toStr text else "")
    | .error e =>
      if strict then .error (settlementError ("Invalid PAYMENT-RESPONSE header: " ++ e)) else .ok (false, "")

/-- Steps 9 to 11. -/
def finish (kind : PaymentRequirementsKind) (retry : HttpResponse) : Except PyErr NanopaymentResult := do
  let (settled, transaction) ← readPaymentResponse text wire buyer retry
  let amount ← atomicTextToDecimal u (kind.amount.toStr text)
  .ok
    { success := if buyer.strictSettlement then settled else settled || isSuccessStatus retry.statusCode
      payer := buyer.signer.address
      seller := kind.payTo
      transaction := transaction
      amountUsdc := amount
      amountAtomic := kind.amount
      network := kind.network
      responseData := retry.data
      isNanopayment := true }

/-- A response that asks for no payment. -/
def freeResult (initial : HttpResponse) : NanopaymentResult where
  success := isSuccessStatus initial.statusCode
  payer := ""
  seller := .str ""
  transaction := ""
  amountUsdc := "0"
  amountAtomic := .str "0"
  network := .str ""
  responseData := initial.data
  isNanopayment := false

/-- The request for a resource, before it is paid. -/
def plainRequest (method url : String) (headers : List (String × String)) (body : Option String) : Request where
  method := wire.upper method
  url := url
  headers := headers
  body := body

/-- The same request, with the header of a payment. -/
def paidRequest (method url : String) (headers : List (String × String)) (body : Option String)
    (payload : PaymentPayload) (kind : PaymentRequirementsKind) : Request :=
  { plainRequest wire method url headers body with
    headers := Dict.set headers signatureHeader (encodePaymentSignatureHeader wire payload kind) }

/-- `pay_x402_url`. -/
def payX402Url (url method : String) (headers : List (String × String)) (body : Option String) :
    Paying NanopaymentResult := do
  let initial ← send "Request timed out: " "Request failed: " (plainRequest wire method url headers body) r.initial
  if initial.statusCode ≠ 402 then pure (freeResult initial)
  else do
    let (kind, resource) ← attempt (quote u text wire r url initial)
    let payload ← signPayment u text buyer r kind resource none
    let retry ← send "Retry request timed out: " "Retry request failed: "
      (paidRequest wire method url headers body payload kind) r.retry
    attempt (finish u text wire buyer kind retry)

/-! ### An address -/

/-- The settlement that `client.settle` posts. -/
def postSettlement (payload : PaymentPayload) (requirements : PaymentRequirements) : Paying Unit := do
  let request ← attempt (settleRequest payload requirements)
  modify fun j => { j with settlements := j.settlements ++ [request] }

/-- After a sleep, the loop goes on with the next attempt. -/
def wake (a : NanopaymentAdapter) : CallPhase → CallPhase
  | .sleeping attempt _ error => a.beginAttempt (attempt + 1) (some error)
  | phase => phase

/-- The loop of `_settle_with_retry`; `fuel` counts the attempts that are left. -/
def settleFrom (payload : PaymentPayload) (requirements : PaymentRequirements) : Nat → CallPhase → Paying CallOutcome
  | _, .finished outcome => pure outcome
  | _, .sleeping .. => pure .cancelled
  | 0, .settling _ => pure .cancelled
  | fuel + 1, .settling attempt => do
    postSettlement payload requirements
    let (_, phase) := buyer.retries.onResult text (r.breakers attempt) attempt (r.recorded attempt) (r.recorded attempt)
      (settleResult text r (r.settle attempt))
    settleFrom payload requirements fuel (wake buyer.retries phase)

/-- `_settle_with_retry`. -/
def settleWithRetry (payload : PaymentPayload) (requirements : PaymentRequirements) : Paying CallOutcome :=
  settleFrom text buyer r payload requirements (buyer.retries.retryAttempts + 1).toNat
    (buyer.retries.begin r.breaker r.checked)

/-- The requirement that `pay_direct` builds for a seller. -/
def directKind (sellerAddress network amount : String) (asset verifyingContract : PyVal) : PaymentRequirementsKind where
  scheme := .str "exact"
  network := .str network
  asset := asset
  amount := .str amount
  maxTimeoutSeconds := .int 345600
  payTo := .str sellerAddress
  extra := { name := .str circleBatchingName, version := .str "1", verifyingContract := verifyingContract }

/-- Steps 1 to 3: what is going to be signed, and its amount. -/
def quoteDirect (sellerAddress amountUsdc network : String) : Except PyErr (PaymentRequirementsKind × Int) := do
  let contract ← getVerifyingContract text wire r (.str network)
  let asset ← getUsdcAddress text wire r (.str network)
  let amount ← decimalToAtomic u amountUsdc
  let amountText ← strInt amount
  let balance ← requestBalance u text r (.str network)
  requireBalance balance amount
  .ok (directKind sellerAddress network amountText asset contract, amount)

/-- How a call of `_settle_with_retry` ends for `pay_direct`; an open circuit is a failed settlement. -/
def directOutcome (sellerAddress amountUsdc network : String) (amount : Int) : CallOutcome →
    Except PyErr NanopaymentResult
  | .raised error => .error error.toErr
  | .circuitOpen recoverySeconds =>
    .error (settlementError ("Nanopayments temporarily unavailable (circuit breaker open): Circuit breaker is open. " ++
      "Nanopayments temporarily unavailable. Retry in " ++ wire.seconds recoverySeconds ++ "s."))
  | .returned response => .ok (result response.success (response.transaction.getD ""))
  | .returnedNone | .cancelled => .ok (result false "")
where
  result (success : Bool) (transaction : String) : NanopaymentResult :=
    { success := success
      payer := buyer.signer.address
      seller := .str sellerAddress
      transaction := transaction
      amountUsdc := amountUsdc
      amountAtomic := .str (toString amount)
      network := .str network
      responseData := none
      isNanopayment := true }

/-- The resource of a direct payment. -/
def directResource (sellerAddress network : String) : ResourceInfo where
  url := .str ("direct:" ++ sellerAddress)
  description := .str ("Nanopayment to " ++ sellerAddress ++ " on " ++ network)
  mimeType := .str "application/json"

/-- `pay_direct`. -/
def payDirect (sellerAddress amountUsdc network : String) : Paying NanopaymentResult := do
  let (kind, amount) ← attempt (quoteDirect u text wire r sellerAddress amountUsdc network)
  let payload ← signPayment u text buyer r kind (directResource sellerAddress network) (some amount)
  let outcome ← settleWithRetry text buyer r payload { x402Version := .int 2, accepts := [kind] }
  attempt (directOutcome wire buyer sellerAddress amountUsdc network amount outcome)

/-! ### The protocol adapter -/

/-- The values of `PaymentStatus`. -/
inductive PaymentStatus where
  | settled
  | completed
  | failed
  | failedFinal
  deriving DecidableEq

/-- The `metadata` of a result. -/
inductive Metadata where
  | paid (payer : String) (seller amountAtomic network : PyVal) (isNanopayment : Bool)
  | failed (fallbackEligible : Bool)

/-- `PaymentResult`; its `method` is always that of nanopayments, and its `blockchain_tx` is always missing. -/
structure PaymentResult where
  success : Bool
  transactionId : Option String
  amount : PyDecimal
  recipient : String
  status : PaymentStatus
  error : Option String
  resourceData : Option String := none
  metadata : Metadata

/-- `_is_url`. -/
def isUrl (recipient : String) : Bool :=
  recipient.toList.take 7 == "http://".toList || recipient.toList.take 8 == "https://".toList

/-- The classes of the first `except` clause. -/
def PyErr.isSafeFallback : PyErr → Bool
  | .other name _ => ["UnsupportedSchemeError", "CircuitOpenError", "UnsupportedNetworkError"].contains name
  | _ => false

/-- The network of a direct payment. -/
def directNetwork (destinationChain sourceNetwork : Option String) : String :=
  (orStr (orStr destinationChain sourceNetwork) (some buyer.network)).getD ""

/-- The payment of `execute`, by the kind of its recipient. -/
def pay (recipient : String) (amount : PyDecimal) (destinationChain sourceNetwork : Option String) :
    Paying NanopaymentResult :=
  if isUrl recipient then payX402Url u text wire buyer r recipient "GET" [] none
  else payDirect u text wire buyer r recipient amount.toStr (directNetwork buyer destinationChain sourceNetwork)

/-- `Decimal(result.amount_usdc) if result.amount_usdc else amount`. -/
def paidAmount (amount : PyDecimal) (amountUsdc : String) : Except PyErr PyDecimal :=
  if amountUsdc = "" then .ok amount
  else match u.decimal amountUsdc with
    | some paid => .ok paid
    | none => .error conversionSyntax

/-- The result of a payment that has returned. -/
def paidResult (recipient : String) (amount : PyDecimal) (result : NanopaymentResult) : Except PyErr PaymentResult := do
  let paid ← paidAmount u amount result.amountUsdc
  .ok
    { success := result.success
      transactionId := if result.transaction = "" then none else some result.transaction
      amount := paid
      recipient := recipient
      status :=
        if result.success then (if buyer.strictSettlement then .settled else .completed)
        else if buyer.strictSettlement then .failedFinal else .failed
      error := if result.success then none else some "Nanopayment settlement failed"
      resourceData := result.responseData
      metadata := .paid result.payer result.seller result.amountAtomic result.network result.isNanopayment }

/-- The result of a payment that has raised. -/
def failedResult (recipient : String) (amount : PyDecimal) (e : PyErr) : PaymentResult where
  success := false
  transactionId := none
  amount := amount
  recipient := recipient
  status := .failed
  error := some ((if PyErr.isSafeFallback e then "Nanopayment failed (falling back): "
    else "Nanopayment failed (falling back disabled): ") ++ wire.describe e)
  metadata := .failed (PyErr.isSafeFallback e)

/-- `execute`, with the journal that it leaves. -/
def execute (recipient : String) (amount : PyDecimal) (destinationChain sourceNetwork : Option String) :
    PaymentResult × Journal :=
  let payment : Paying PaymentResult := do
    let result ← pay u text wire buyer r recipient amount destinationChain sourceNetwork
    attempt (paidResult u buyer recipient amount result)
  match exec payment {} with
  | (.ok result, journal) => (result, journal)
  | (.error e, journal) => (failedResult wire recipient amount e, journal)

end Adapter

/-! ## Errors that do not fall back -/

section Errors

variable {u : Decimals} {text : Text} {wire : Wire} {buyer : Buyer} {r : Replies} {e : PyErr}

theorem settleError_final (error : SettleError) : PyErr.isSafeFallback error.toErr = false := by
  cases error <;> rfl

theorem fix_final {negative : Bool} {c : Nat} {q : Int} (h : PyDecimal.fix negative c q = .error e) :
    PyErr.isSafeFallback e = false := by
  unfold PyDecimal.fix at h
  split at h
  · cases h
  · simp only at h
    split at h
    · cases h
      rfl
    · cases h

theorem divNat_final {n : Nat} {d : PyDecimal} (h : d.divNat n = .error e) : PyErr.isSafeFallback e = false := by
  cases d with
  | finite negative c q =>
    simp only [PyDecimal.divNat] at h
    split at h
    · exact fix_final h
    · split at h <;> split at h <;> exact fix_final h
  | infinity negative => cases h
  | nan negative signaling payload =>
    cases signaling with
    | true =>
      cases h
      rfl
    | false => cases h

theorem atomicTextToDecimal_final {amount : String} (h : atomicTextToDecimal u amount = .error e) :
    PyErr.isSafeFallback e = false := by
  unfold atomicTextToDecimal at h
  split at h
  · cases h
    rfl
  · rename_i d hd
    cases hdiv : d.divNat 1000000 with
    | error e' =>
      rw [hdiv] at h
      cases h
      exact divNat_final hdiv
    | ok q =>
      rw [hdiv] at h
      cases h

theorem readPaymentResponse_final {retry : HttpResponse} (h : readPaymentResponse text wire buyer retry = .error e) :
    PyErr.isSafeFallback e = false := by
  unfold readPaymentResponse at h
  simp only at h
  split at h
  · split at h
    · cases h
      rfl
    · cases h
  · split at h
    · cases h
    · split at h
      · cases h
        rfl
      · cases h

theorem finish_final {kind : PaymentRequirementsKind} {retry : HttpResponse}
    (h : finish u text wire buyer kind retry = .error e) : PyErr.isSafeFallback e = false := by
  unfold finish at h
  cases hresponse : readPaymentResponse text wire buyer retry with
  | error e' =>
    rw [hresponse] at h
    cases h
    exact readPaymentResponse_final hresponse
  | ok settled =>
    rw [hresponse] at h
    cases hamount : atomicTextToDecimal u (kind.amount.toStr text) with
    | error e' =>
      rw [hamount] at h
      cases h
      exact atomicTextToDecimal_final hamount
    | ok amount =>
      rw [hamount] at h
      cases h

theorem directOutcome_final {sellerAddress amountUsdc network : String} {amount : Int} {outcome : CallOutcome}
    (h : directOutcome wire buyer sellerAddress amountUsdc network amount outcome = .error e) :
    PyErr.isSafeFallback e = false := by
  cases outcome with
  | raised error =>
    cases h
    exact settleError_final error
  | circuitOpen seconds =>
    cases h
    rfl
  | returned | returnedNone | cancelled => cases h

theorem paidResult_final {recipient : String} {amount : PyDecimal} {result : NanopaymentResult}
    (h : paidResult u buyer recipient amount result = .error e) : PyErr.isSafeFallback e = false := by
  have hpaid : paidAmount u amount result.amountUsdc = .error e := by
    cases hpaid : paidAmount u amount result.amountUsdc with
    | error e' =>
      rw [paidResult, hpaid] at h
      cases h
      rfl
    | ok paid =>
      rw [paidResult, hpaid] at h
      cases h
  unfold paidAmount at hpaid
  split at hpaid
  · cases hpaid
  · split at hpaid
    · cases hpaid
    · cases hpaid
      rfl

end Errors

/-! ## What a payment does to the journal -/

section Steps

variable (u : Decimals) (text : Text) (wire : Wire) (buyer : Buyer) (r : Replies)

/-- How a request ends. -/
def answer (timedOut failed url : String) : HttpResult → Except PyErr HttpResponse
  | .response response => .ok response
  | .timedOut _ => .error (gatewayAPIError (timedOut ++ url))
  | .failed message => .error (gatewayAPIError (failed ++ message))
  | .raised message => .error (.runtime message)

theorem exec_send (timedOut failed : String) (request : Request) (result : HttpResult) (j : Journal) :
    exec (send timedOut failed request result) j =
      (answer timedOut failed request.url result, { j with requests := j.requests ++ [request] }) := by
  unfold send
  rw [exec_bind, exec_modify]
  cases result <;> rfl

/-- A request whose answer is only looked at. -/
theorem exec_send_attempt {α : Type} (timedOut failed : String) (request : Request) (result : HttpResult)
    (f : HttpResponse → Except PyErr α) (j : Journal) :
    exec (send timedOut failed request result >>= fun response => attempt (f response)) j =
      ((answer timedOut failed request.url result).bind f, { j with requests := j.requests ++ [request] }) := by
  rw [exec_bind, exec_send]
  cases answer timedOut failed request.url result with
  | error e => rfl
  | ok response => exact exec_attempt

theorem answer_final {timedOut failed url : String} {result : HttpResult} {e : PyErr}
    (h : answer timedOut failed url result = .error e) : PyErr.isSafeFallback e = false := by
  cases result with
  | response => cases h
  | timedOut | failed | raised =>
    cases h
    rfl

/-- What `_sign` signs. -/
def signedPayment (kind : PaymentRequirementsKind) (amountAtomic : Option Int) : Except PyErr PaymentPayload := do
  let amount ← amountAtomic.elim (kind.amount.toInt u) .ok
  signTransferWithAuthorization u text buyer.signer r.now r.entropy kind (some amount) none none

theorem exec_signPayment (kind : PaymentRequirementsKind) (resource : ResourceInfo) (amountAtomic : Option Int)
    (j : Journal) :
    exec (signPayment u text buyer r kind resource amountAtomic) j =
      match signedPayment u text buyer r kind amountAtomic with
      | .ok payload =>
        (.ok { payload with resource := some resource }, { j with signed := j.signed ++ [payload.payload] })
      | .error e => (.error e, j) := by
  rw [signPayment, exec_bind, exec_attempt, signedPayment]
  cases amountAtomic.elim (kind.amount.toInt u) Except.ok with
  | error e => rfl
  | ok amount =>
    show exec (attempt _ >>= _) j = _
    rw [exec_bind, exec_attempt]
    cases hs : signTransferWithAuthorization u text buyer.signer r.now r.entropy kind (some amount) none none with
    | error e => simp [bind, Except.bind, hs]
    | ok payload => simp [bind, Except.bind, hs]; rfl

/-- What a payment of a URL comes to: it ends before anything is signed, or it has signed one payload and sent it. -/
inductive UrlRun (url method : String) (headers : List (String × String)) (body : Option String) :
    Except PyErr NanopaymentResult × Journal → Prop
  | unsigned (x : Except PyErr NanopaymentResult) :
    UrlRun url method headers body (x, { requests := [plainRequest wire method url headers body] })
  | paid (initial : HttpResponse) (kind : PaymentRequirementsKind) (resource : ResourceInfo) (payload : PaymentPayload)
    (x : Except PyErr NanopaymentResult) (hinitial : r.initial = .response initial) (hcode : initial.statusCode = 402)
    (hquote : quote u text wire r url initial = .ok (kind, resource))
    (hsigned : signedPayment u text buyer r kind none = .ok payload)
    (hfinal : ∀ e, x = .error e → PyErr.isSafeFallback e = false) :
    UrlRun url method headers body
      (x, { signed := [payload.payload]
            requests := [plainRequest wire method url headers body,
              paidRequest wire method url headers body { payload with resource := some resource } kind] })

theorem payX402Url_run (url method : String) (headers : List (String × String)) (body : Option String) :
    UrlRun u text wire buyer r url method headers body
      (exec (payX402Url u text wire buyer r url method headers body) {}) := by
  unfold payX402Url
  rw [exec_bind, exec_send]
  cases hinitial : r.initial with
  | timedOut | failed | raised => exact .unsigned _
  | response initial =>
    show UrlRun u text wire buyer r url method headers body (exec (if initial.statusCode ≠ 402 then _ else _) _)
    by_cases hcode : initial.statusCode = 402
    · rw [if_neg (not_not.mpr hcode), exec_bind, exec_attempt]
      cases hquote : quote u text wire r url initial with
      | error e => exact .unsigned _
      | ok quoted =>
        obtain ⟨kind, resource⟩ := quoted
        dsimp only
        rw [exec_bind, exec_signPayment]
        cases hsigned : signedPayment u text buyer r kind none with
        | error e => exact .unsigned _
        | ok payload =>
          dsimp only
          rw [exec_send_attempt]
          refine .paid initial kind resource payload _ hinitial hcode hquote hsigned ?_
          intro e he
          cases hretry : answer "Retry request timed out: " "Retry request failed: " url r.retry with
          | error e' =>
            rw [show (paidRequest wire method url headers body _ kind).url = url from rfl, hretry] at he
            cases he
            exact answer_final hretry
          | ok retry =>
            rw [show (paidRequest wire method url headers body _ kind).url = url from rfl, hretry] at he
            exact finish_final he
    · rw [if_pos hcode]
      exact .unsigned _

/-- The outcome after `done` attempts: a success is what Circle said to the last of them. -/
structure Accounted (done : Nat) (outcome : CallOutcome) : Prop where
  ends : outcome ≠ .cancelled
  success : ∀ response, outcome = .returned response →
    0 < done ∧ settleResult text r (r.settle (done - 1)) = .returned response

variable {text r} in
theorem accounted_of {done : Nat} {outcome : CallOutcome} (hends : outcome ≠ .cancelled)
    (hnot : ∀ response, outcome ≠ .returned response) : Accounted text r done outcome :=
  ⟨hends, fun response h => absurd h (hnot response)⟩

/-- After `done` attempts, the fuel is enough for the rest. -/
def Within (a : NanopaymentAdapter) (fuel done : Nat) : CallPhase → Prop
  | .settling attempt => attempt = done ∧ (done : Int) < a.retryAttempts + 1 ∧ a.retryAttempts + 1 ≤ done + fuel
  | .sleeping .. => False
  | .finished outcome => Accounted text r done outcome

variable {text r} in
theorem within_beginAttempt {a : NanopaymentAdapter} {fuel done : Nat} (hfuel : a.retryAttempts + 1 ≤ done + fuel)
    (lastError : Option SettleError) : Within text r a fuel done (a.beginAttempt done lastError) := by
  unfold NanopaymentAdapter.beginAttempt
  split
  · exact ⟨rfl, ‹_›, hfuel⟩
  · cases lastError with
    | none => exact accounted_of (by intro h; cases h) (by intro _ h; cases h)
    | some error => exact accounted_of (by intro h; cases h) (by intro _ h; cases h)

variable {text r} in
theorem wake_beginAttempt (a : NanopaymentAdapter) (done : Nat) (lastError : Option SettleError) :
    wake a (a.beginAttempt done lastError) = a.beginAttempt done lastError := by
  unfold NanopaymentAdapter.beginAttempt
  split <;> rfl

variable {text r} in
/-- A result leads to the next attempt, or to the end. -/
theorem within_onResult {a : NanopaymentAdapter} {fuel done : Nat} (hfuel : a.retryAttempts + 1 ≤ done + 1 + fuel)
    (b : NanopaymentCircuitBreaker) (now later : ℚ) :
    Within text r a fuel (done + 1)
      (wake a (a.onResult text b done now later (settleResult text r (r.settle done))).2) := by
  have hnext : ∀ error, Within text r a fuel (done + 1) (a.beginAttempt (done + 1) (some error)) :=
    fun error => within_beginAttempt (by omega) _
  have hraised : ∀ error, Within text r a fuel (done + 1) (.finished (.raised error)) :=
    fun _ => accounted_of (by intro h; cases h) (by intro _ h; cases h)
  have hgateway : ∀ error, Within text r a fuel (done + 1) (wake a (a.onGatewayError b done error now later).2) := by
    intro error
    unfold NanopaymentAdapter.onGatewayError
    dsimp only
    split
    · exact hnext error
    · rw [wake_beginAttempt]
      exact hnext error
  cases hresult : settleResult text r (r.settle done) with
  | returned response =>
    refine ⟨(by intro h; cases h), ?_⟩
    rintro _ ⟨⟩
    exact ⟨Nat.succ_pos _, hresult⟩
  | raised error =>
    cases error with
    | gatewayTimeout endpoint => exact hgateway _
    | gatewayConnection reason => exact hgateway _
    | nonceReused reason | insufficientBalance reason | other message => exact hraised _
    | settlement reason =>
      rw [NanopaymentAdapter.onResult_settlement]
      split
      · split
        · exact hnext _
        · exact hraised _
      · exact hraised _

/-- The loop posts one and the same request. -/
theorem settleFrom_run {payload : PaymentPayload} {requirements : PaymentRequirements} {request : SettleRequest}
    (hrequest : settleRequest payload requirements = .ok request) (fuel done : Nat) (phase : CallPhase)
    (h : Within text r buyer.retries fuel done phase) (j : Journal) :
    ∃ n outcome, exec (settleFrom text buyer r payload requirements fuel phase) j =
        (.ok outcome, { j with settlements := j.settlements ++ List.replicate n request }) ∧
      n ≤ fuel ∧ Accounted text r (done + n) outcome := by
  induction fuel generalizing done phase j with
  | zero =>
    cases phase with
    | settling attempt =>
      obtain ⟨-, hlt, hle⟩ := h
      omega
    | sleeping => exact h.elim
    | finished outcome => exact ⟨0, outcome, by simp [settleFrom], Nat.le_refl 0, h⟩
  | succ fuel ih =>
    cases phase with
    | sleeping => exact h.elim
    | finished outcome => exact ⟨0, outcome, by simp [settleFrom], Nat.zero_le _, h⟩
    | settling attempt =>
      obtain ⟨rfl, hlt, hle⟩ := h
      have hpost : exec (postSettlement payload requirements) j =
          (.ok (), { j with settlements := j.settlements ++ [request] }) := by
        rw [postSettlement, exec_bind, exec_attempt, hrequest]
        rfl
      obtain ⟨n, outcome, hrun, hn, hout⟩ := ih (attempt + 1) _
        (within_onResult (by omega) (r.breakers attempt) (r.recorded attempt) (r.recorded attempt))
        { j with settlements := j.settlements ++ [request] }
      refine ⟨n + 1, outcome, ?_, by omega, by rw [show attempt + (n + 1) = attempt + 1 + n by omega]; exact hout⟩
      rw [settleFrom, exec_bind, hpost]
      refine hrun.trans ?_
      rw [List.append_assoc, List.singleton_append, ← List.replicate_succ]

theorem settleWithRetry_run {payload : PaymentPayload} {requirements : PaymentRequirements} {request : SettleRequest}
    (hrequest : settleRequest payload requirements = .ok request) (j : Journal) :
    ∃ n outcome, exec (settleWithRetry text buyer r payload requirements) j =
        (.ok outcome, { j with settlements := j.settlements ++ List.replicate n request }) ∧
      n ≤ (buyer.retries.retryAttempts + 1).toNat ∧ Accounted text r n outcome := by
  have hbegin : Within text r buyer.retries (buyer.retries.retryAttempts + 1).toNat 0
      (buyer.retries.begin r.breaker r.checked) := by
    unfold NanopaymentAdapter.begin
    split
    · exact within_beginAttempt (by omega) none
    · exact accounted_of (by intro h; cases h) (by intro _ h; cases h)
  obtain ⟨n, outcome, hrun, hn, hout⟩ := settleFrom_run text buyer r hrequest _ 0 _ hbegin j
  exact ⟨n, outcome, hrun, hn, by rwa [Nat.zero_add] at hout⟩

/-- What a payment to an address comes to: it ends before anything is signed, or it has signed one payload and posted
it, again after each failure that is retried. -/
inductive DirectRun (sellerAddress amountUsdc network : String) : Except PyErr NanopaymentResult × Journal → Prop
  | unsigned (e : PyErr) : DirectRun sellerAddress amountUsdc network (.error e, {})
  | posted (kind : PaymentRequirementsKind) (amount : Int) (payload : PaymentPayload) (request : SettleRequest) (n : Nat)
    (outcome : CallOutcome)
    (hquote : quoteDirect u text wire r sellerAddress amountUsdc network = .ok (kind, amount))
    (hsigned : signedPayment u text buyer r kind (some amount) = .ok payload)
    (hrequest : settleRequest { payload with resource := some (directResource sellerAddress network) }
      { x402Version := .int 2, accepts := [kind] } = .ok request)
    (hn : n ≤ (buyer.retries.retryAttempts + 1).toNat) (hout : Accounted text r n outcome) :
    DirectRun sellerAddress amountUsdc network
      (directOutcome wire buyer sellerAddress amountUsdc network amount outcome,
        { signed := [payload.payload], settlements := List.replicate n request })

theorem payDirect_run (sellerAddress amountUsdc network : String) :
    DirectRun u text wire buyer r sellerAddress amountUsdc network
      (exec (payDirect u text wire buyer r sellerAddress amountUsdc network) {}) := by
  unfold payDirect
  rw [exec_bind, exec_attempt]
  cases hquote : quoteDirect u text wire r sellerAddress amountUsdc network with
  | error e => exact .unsigned _
  | ok quoted =>
    obtain ⟨kind, amount⟩ := quoted
    dsimp only
    rw [exec_bind, exec_signPayment]
    cases hsigned : signedPayment u text buyer r kind (some amount) with
    | error e => exact .unsigned _
    | ok payload =>
      obtain ⟨request, -, hrequest, -⟩ := settleRequest_ok
        { payload with resource := some (directResource sellerAddress network) } (.int 2) kind
      dsimp only
      obtain ⟨n, outcome, hrun, hn, hout⟩ := settleWithRetry_run text buyer r hrequest
        { signed := [payload.payload] }
      rw [exec_bind]
      refine Eq.mpr (congrArg (DirectRun u text wire buyer r sellerAddress amountUsdc network) ?_)
        (.posted kind amount payload request n outcome hquote hsigned hrequest hn hout)
      rw [show ({ signed := ({} : Journal).signed ++ [payload.payload] } : Journal) =
        { signed := [payload.payload] } from rfl]
      rw [hrun]
      exact exec_attempt

end Steps

/-! ## What holds of every payment -/

section Payments

variable (u : Decimals) (text : Text) (wire : Wire) (buyer : Buyer) (r : Replies) (recipient : String)
  (amount : PyDecimal) (destinationChain sourceNetwork : Option String)

theorem execute_eq : execute u text wire buyer r recipient amount destinationChain sourceNetwork =
    match exec (pay u text wire buyer r recipient amount destinationChain sourceNetwork) {} with
    | (.ok result, journal) =>
      match paidResult u buyer recipient amount result with
      | .ok result => (result, journal)
      | .error e => (failedResult wire recipient amount e, journal)
    | (.error e, journal) => (failedResult wire recipient amount e, journal) := by
  unfold execute
  dsimp only
  rw [exec_bind]
  rcases exec (pay u text wire buyer r recipient amount destinationChain sourceNetwork) {} with ⟨e | result, journal⟩
  · rfl
  · dsimp only
    rw [exec_attempt]
    cases paidResult u buyer recipient amount result <;> rfl

/-- The journal is that of the payment; only an error of the payment falls back, and only its success is one. -/
theorem execute_cases : ∃ x, exec (pay u text wire buyer r recipient amount destinationChain sourceNetwork) {} =
      (x, (execute u text wire buyer r recipient amount destinationChain sourceNetwork).2) ∧
    ((execute u text wire buyer r recipient amount destinationChain sourceNetwork).1.metadata = .failed true →
      ∃ e, x = .error e ∧ PyErr.isSafeFallback e = true) ∧
    ((execute u text wire buyer r recipient amount destinationChain sourceNetwork).1.success = true →
      ∃ result, x = .ok result ∧ result.success = true) := by
  rw [execute_eq u text wire buyer r recipient amount destinationChain sourceNetwork]
  rcases exec (pay u text wire buyer r recipient amount destinationChain sourceNetwork) {} with ⟨e | result, journal⟩
  · refine ⟨.error e, rfl, fun h => ⟨e, rfl, Metadata.failed.inj h⟩, fun h => ?_⟩
    cases h
  · cases hpaid : paidResult u buyer recipient amount result with
    | ok result' =>
      refine ⟨.ok result, by dsimp only; rw [hpaid], fun h => ?_, fun h => ⟨result, rfl, ?_⟩⟩
      · dsimp only at h
        rw [hpaid] at h
        obtain ⟨paid, -, hpaid⟩ := bind_ok.mp hpaid
        cases hpaid
        cases h
      · dsimp only at h
        rw [hpaid] at h
        obtain ⟨paid, -, hpaid⟩ := bind_ok.mp hpaid
        cases hpaid
        exact h
    | error e =>
      refine ⟨.ok result, by dsimp only; rw [hpaid], fun h => ?_, fun h => ?_⟩
      · dsimp only at h
        rw [hpaid] at h
        have hfinal := paidResult_final hpaid
        rw [Metadata.failed.inj h] at hfinal
        cases hfinal
      · dsimp only at h
        rw [hpaid] at h
        cases h

/-! ### A sample shop -/

/-- The requirement of a shop, with the given name. -/
def shopRequirement (name : String) : PyDict :=
  [("scheme", .str "exact"), ("network", .str "eip155:5042002"), ("asset", .str "0xa5"), ("amount", .str "1000"),
    ("maxTimeoutSeconds", .int 604900), ("payTo", .str "0xb0"),
    ("extra", .dict [("name", .str name), ("version", .str "1"), ("verifyingContract", .str "0xc0")])]

/-- The libraries, on the texts of the samples; the header of a shop is the name of its requirement. -/
def shopWire : Wire where
  dumps := fun _ => "\x7b\x7d"
  loads := fun _ => .ok (.dict [])
  loadsHeader := fun header =>
    .ok (.dict [("x402Version", .int 2), ("accepts", .list [.dict (shopRequirement header)])])
  describe := fun e => match e with
    | .other _ message => message
    | _ => ""
  upper := id
  urlPath := fun _ => .ok "/item"
  checksum := .ok
  seconds := fun _ => "60"

def shopBuyer : Buyer where
  signer := { address := "0xa1", sign := fun _ _ => .ok "02" }

/-- The shop asks for a payment by a requirement of the given name, and the buyer has enough. -/
def shopReplies (name : String) : Replies where
  initial := .response
    { statusCode := 402, header := fun key => if key = "payment-required" then some name else none, text := "",
      hasContent := false }
  retry := .response { statusCode := 200, header := fun _ => none, text := "item", hasContent := true }
  contracts := .ok [{ x402Version := .int 2, scheme := .str "exact", network := .str "eip155:5042002",
                      extra := [("verifyingContract", .str "0xc0"), ("usdcAddress", .str "0xa5")] }]
  assets := .ok [{ x402Version := .int 2, scheme := .str "exact", network := .str "eip155:5042002",
                   extra := [("verifyingContract", .str "0xc0"), ("usdcAddress", .str "0xa5")] }]
  domains := .ok []
  balances := .ok (200, some (.dict [("balances", .list [.dict [("domain", .int 26), ("balance", .str "5000")]])]))
  settle := fun _ => .response 200 (some (.dict [("success", .bool true), ("transaction", .str "t1")]))
  unreachable := ""
  breaker := {}
  checked := 0
  breakers := fun _ => {}
  recorded := fun _ => 0
  now := 1700000000
  entropy := List.replicate 32 7

/-- **A payment that may be made another way has not been made this way.** When the result says that another route may
be tried, nothing has been signed, no request carried a payment, and nothing was posted to Circle. -/
theorem fallback_safe
    (h : (execute u text wire buyer r recipient amount destinationChain sourceNetwork).1.metadata = .failed true) :
    let journal := (execute u text wire buyer r recipient amount destinationChain sourceNetwork).2
    journal.signed = [] ∧ journal.settlements = [] ∧ ∀ request ∈ journal.requests, request.headers = [] := by
  obtain ⟨x, hexec, hfallback, -⟩ := execute_cases u text wire buyer r recipient amount destinationChain sourceNetwork
  obtain ⟨e, rfl, he⟩ := hfallback h
  generalize (execute u text wire buyer r recipient amount destinationChain sourceNetwork).2 = journal at hexec
  unfold pay at hexec
  split at hexec
  · have hrun := payX402Url_run u text wire buyer r recipient "GET" [] none
    rw [hexec] at hrun
    cases hrun with
    | unsigned =>
      refine ⟨rfl, rfl, fun request hrequest => ?_⟩
      rw [List.mem_singleton.mp hrequest]
      rfl
    | paid initial kind resource payload x hinitial hcode hquote hsigned hfinal =>
      rw [hfinal e rfl] at he
      cases he
  · have hrun := payDirect_run u text wire buyer r recipient amount.toStr
      (directNetwork buyer destinationChain sourceNetwork)
    rw [hexec] at hrun
    generalize hx : (Except.error e : Except PyErr NanopaymentResult) = x at hrun
    cases hrun with
    | unsigned => exact ⟨rfl, rfl, fun request hrequest => absurd hrequest List.not_mem_nil⟩
    | posted kind amount payload request n outcome hquote hsigned hrequest hn hout =>
      rw [directOutcome_final hx.symm] at he
      cases he

/-- A shop that takes no Gateway payments may be paid another way. -/
theorem fallback_safe_sample :
    (execute .ascii lowerText shopWire shopBuyer (shopReplies "USDC") "https://shop/item" (.finite false 1 (-3)) none
      none).2.signed = [] :=
  (fallback_safe .ascii lowerText shopWire shopBuyer (shopReplies "USDC") "https://shop/item" (.finite false 1 (-3)) none
    none rfl).1

variable {u text wire buyer r recipient amount destinationChain sourceNetwork}

/-- What the quote of a URL has made sure of. -/
theorem quote_ok {url : String} {initial : HttpResponse} {updated : PaymentRequirementsKind} {resource : ResourceInfo}
    (h : quote u text wire r url initial = .ok (updated, resource)) :
    ∃ requirements kind contract balance required, readRequirements u wire initial = .ok requirements ∧
      requirements.findGatewayKind = some kind ∧ updated = updatedKind kind contract ∧
      requestBalance u text r kind.network = .ok balance ∧ kind.amount.toInt u = .ok required ∧
      required ≤ balance.available := by
  unfold quote at h
  obtain ⟨requirements, hrequirements, h⟩ := bind_ok.mp h
  obtain ⟨resource', -, h⟩ := bind_ok.mp h
  split at h
  · cases h
  rename_i kind hkind
  obtain ⟨contract, -, h⟩ := bind_ok.mp h
  obtain ⟨balance, hbalance, h⟩ := bind_ok.mp h
  obtain ⟨required, hrequired, h⟩ := bind_ok.mp h
  obtain ⟨_, hcheck, h⟩ := bind_ok.mp h
  cases h
  refine ⟨requirements, kind, contract, balance, required, hrequirements, hkind, rfl, hbalance, hrequired, ?_⟩
  unfold requireBalance at hcheck
  split at hcheck
  · cases hcheck
  · omega

/-- What is signed for a requirement is its amount. -/
theorem signedPayment_ok {kind : PaymentRequirementsKind} {amountAtomic : Option Int} {payload : PaymentPayload}
    (h : signedPayment u text buyer r kind amountAtomic = .ok payload) :
    ∃ amount domain message, amountAtomic.elim (kind.amount.toInt u) .ok = .ok amount ∧
      Signed u text buyer.signer r.now kind amount domain message payload ∧
      message.nonce = randomNonce r.entropy := by
  obtain ⟨amount, hamount, h⟩ := bind_ok.mp h
  obtain ⟨required, amount', domain, message, -, -, hchoose, hsigned, hnonce⟩ := sign_ok h
  have hsame : amount' = amount := by
    unfold chooseAmount at hchoose
    simp only at hchoose
    split at hchoose
    · cases hchoose
    · exact (Except.ok.inj hchoose).symm
  subst hsame
  exact ⟨amount', domain, message, hamount, hsigned, (Except.ok.inj hnonce).symm⟩

/-- **A URL is paid as asked.** A request that carries a payment comes after a 402 response, and is one of two requests.
The payment is the only one that was signed, for the first Gateway requirement of that response; the balance covers the
amount. -/
theorem url_pays_as_asked (hurl : isUrl recipient = true) {request : Request} {header : String}
    (hrequest : request ∈ (execute u text wire buyer r recipient amount destinationChain sourceNetwork).2.requests)
    (hheader : Dict.get request.headers signatureHeader = some header) :
    ∃ initial requirements kind contract resource payload balance required domain message,
      r.initial = .response initial ∧ initial.statusCode = 402 ∧ readRequirements u wire initial = .ok requirements ∧
      requirements.findGatewayKind = some kind ∧
      requestBalance u text r kind.network = .ok balance ∧ kind.amount.toInt u = .ok required ∧
      required ≤ balance.available ∧
      Signed u text buyer.signer r.now (updatedKind kind contract) required domain message payload ∧
      header = encodePaymentSignatureHeader wire { payload with resource := some resource } (updatedKind kind contract) ∧
      (execute u text wire buyer r recipient amount destinationChain sourceNetwork).2 =
        { signed := [payload.payload]
          requests := [plainRequest wire "GET" recipient [] none, request] } := by
  obtain ⟨x, hexec, -, -⟩ := execute_cases u text wire buyer r recipient amount destinationChain sourceNetwork
  generalize (execute u text wire buyer r recipient amount destinationChain sourceNetwork).2 = journal at hexec hrequest ⊢
  rw [pay, if_pos hurl] at hexec
  have hrun := payX402Url_run u text wire buyer r recipient "GET" [] none
  rw [hexec] at hrun
  cases hrun with
  | unsigned =>
    rw [List.mem_singleton.mp hrequest] at hheader
    cases hheader
  | paid initial updated resource payload x hinitial hcode hquote hsigned hfinal =>
    obtain ⟨requirements, kind, contract, balance, required, hread, hkind, rfl, hbalance, hrequired, hle⟩ := quote_ok hquote
    obtain ⟨amount', domain, message, hamount, hsign, -⟩ := signedPayment_ok hsigned
    obtain rfl : required = amount' := Except.ok.inj (hrequired.symm.trans hamount)
    rcases List.mem_cons.mp hrequest with rfl | hrequest
    · cases hheader
    · obtain rfl := List.mem_singleton.mp hrequest
      exact ⟨initial, requirements, kind, contract, resource, payload, balance, required, domain, message, hinitial, hcode,
        hread, hkind, hbalance, hrequired, hle, hsign, (Option.some.inj hheader).symm, rfl⟩

/-- What the sample buyer signs for a shop is what he sends it. -/
theorem url_pays_as_asked_sample :
    ∃ request header kind contract resource required domain message payload,
      Dict.get request.headers signatureHeader = some header ∧
      Signed .ascii lowerText shopBuyer.signer 1700000000 (updatedKind kind contract) required domain message payload ∧
      header = encodePaymentSignatureHeader shopWire { payload with resource := some resource }
        (updatedKind kind contract) ∧
      (execute .ascii lowerText shopWire shopBuyer (shopReplies "GatewayWalletBatched") "https://shop/item"
        (.finite false 1 (-3)) none none).2 =
        { signed := [payload.payload]
          requests := [plainRequest shopWire "GET" "https://shop/item" [] none, request] } := by
  have hheaders : (execute .ascii lowerText shopWire shopBuyer (shopReplies "GatewayWalletBatched") "https://shop/item"
      (.finite false 1 (-3)) none none).2.requests.map Request.headers = [[], [("PAYMENT-SIGNATURE", "e30=")]] := rfl
  obtain ⟨request, hrequest, hheader⟩ := List.mem_map.mp
    (hheaders ▸ List.mem_cons_of_mem _ List.mem_cons_self : [("PAYMENT-SIGNATURE", "e30=")] ∈ _)
  have hget : Dict.get request.headers signatureHeader = some "e30=" := by
    rw [hheader]
    rfl
  obtain ⟨initial, requirements, kind, contract, resource, payload, balance, required, domain, message, -, -, -, -, -, -, -,
    hsigned, hencoded, hjournal⟩ := url_pays_as_asked rfl hrequest hget
  exact ⟨request, "e30=", kind, contract, resource, required, domain, message, payload, hget, hsigned, hencoded, hjournal⟩

/-- What the quote of an address has made sure of. -/
theorem quoteDirect_ok {sellerAddress amountUsdc network : String} {kind : PaymentRequirementsKind} {n : Int}
    (h : quoteDirect u text wire r sellerAddress amountUsdc network = .ok (kind, n)) :
    ∃ asset contract balance, kind = directKind sellerAddress network (toString n) asset contract ∧
      decimalToAtomic u amountUsdc = .ok n ∧ requestBalance u text r (.str network) = .ok balance ∧
      n ≤ balance.available := by
  unfold quoteDirect at h
  obtain ⟨contract, -, h⟩ := bind_ok.mp h
  obtain ⟨asset, -, h⟩ := bind_ok.mp h
  obtain ⟨n', hn, h⟩ := bind_ok.mp h
  obtain ⟨amountText, htext, h⟩ := bind_ok.mp h
  obtain ⟨balance, hbalance, h⟩ := bind_ok.mp h
  obtain ⟨_, hcheck, h⟩ := bind_ok.mp h
  cases h
  refine ⟨asset, contract, balance, by rw [strInt_ok htext], hn, hbalance, ?_⟩
  unfold requireBalance at hcheck
  split at hcheck
  · cases hcheck
  · omega

theorem directOutcome_success {sellerAddress amountUsdc network : String} {n : Int} {outcome : CallOutcome}
    {result : NanopaymentResult}
    (h : directOutcome wire buyer sellerAddress amountUsdc network n outcome = .ok result)
    (hsuccess : result.success = true) : ∃ response, outcome = .returned response ∧ response.success = true := by
  cases outcome with
  | returned response =>
    cases h
    exact ⟨response, rfl, hsuccess⟩
  | returnedNone | cancelled =>
    cases h
    cases hsuccess
  | raised error => cases h
  | circuitOpen seconds => cases h

/-- A random nonce is a key. -/
theorem randomNonce_truthy (entropy : List UInt8) : (PyVal.str (randomNonce entropy)).truthy = true := by
  have hne : randomNonce entropy ≠ "" := by
    intro h
    have hlist := congrArg String.toList h
    rw [randomNonce, String.toList_ofList] at hlist
    cases hlist
  simpa [PyVal.truthy] using hne

/-- **An address is paid once.** Everything that is posted to Circle is one and the same request, at most once for each
attempt: it carries the only authorization that was signed, for the seller and the amount of the call, with its nonce
as the key. The balance covers the amount, and a success is Circle's answer to the last request. -/
theorem direct_pays_once (hurl : isUrl recipient = false) :
    let network := directNetwork buyer destinationChain sourceNetwork
    let executed := execute u text wire buyer r recipient amount destinationChain sourceNetwork
    (executed.2 = {} ∧ executed.1.success = false) ∨
      ∃ n asset contract balance domain message payload request posted count,
        executed.2 = { signed := [payload.payload], settlements := List.replicate count request } ∧
        count ≤ (buyer.retries.retryAttempts + 1).toNat ∧
        decimalToAtomic u amount.toStr = .ok n ∧ requestBalance u text r (.str network) = .ok balance ∧
        n ≤ balance.available ∧
        Signed u text buyer.signer r.now (directKind recipient network (toString n) asset contract) n domain message
          payload ∧
        request.body = [("paymentPayload", .dict posted),
          ("paymentRequirements", .dict (convertKind (directKind recipient network (toString n) asset contract).toDict))] ∧
        PyDict.get posted "payload" = .dict
          [("authorization", .dict payload.payload.authorization.toDict), ("signature", payload.payload.signature)] ∧
        request.idempotencyKey = .str message.nonce ∧
        (executed.1.success = true →
          0 < count ∧ ∃ response, settleResult text r (r.settle (count - 1)) = .returned response) := by
  intro network executed
  obtain ⟨x, hexec, -, hsuccess⟩ := execute_cases u text wire buyer r recipient amount destinationChain sourceNetwork
  change exec _ _ = (x, executed.2) at hexec
  change executed.1.success = true → _ at hsuccess
  clear_value executed
  obtain ⟨result, journal⟩ := executed
  have hnot : ¬ isUrl recipient = true := by simp [hurl]
  rw [pay, if_neg hnot] at hexec
  have hrun := payDirect_run u text wire buyer r recipient amount.toStr network
  rw [hexec] at hrun
  dsimp only at hrun hsuccess ⊢
  cases hrun with
  | unsigned e =>
    refine .inl ⟨rfl, ?_⟩
    by_contra hs
    obtain ⟨paid, hpaid, -⟩ := hsuccess (by simpa using hs)
    cases hpaid
  | posted kind n payload request count outcome hquote hsigned hrequest hn hout =>
    right
    obtain ⟨asset, contract, balance, rfl, hamount, hbalance, hle⟩ := quoteDirect_ok hquote
    obtain ⟨n', domain, message, hn', hsign, hnonce⟩ := signedPayment_ok hsigned
    obtain rfl : n = n' := Except.ok.inj hn'
    obtain ⟨request', posted, hrequest', hbody, hposted, -, hkey⟩ := settleRequest_ok
      { payload with resource := some (directResource recipient network) } (.int 2)
      (directKind recipient network (toString n) asset contract)
    obtain rfl : request = request' := Except.ok.inj (hrequest.symm.trans hrequest')
    refine ⟨n, asset, contract, balance, domain, message, payload, request, posted, count, rfl, hn, hamount, hbalance,
      hle, hsign, hbody, hposted, ?_, ?_⟩
    · rw [hkey]
      show (if payload.payload.authorization.nonce.truthy = true then payload.payload.authorization.nonce else .null) = _
      rw [hsign.authorization]
      show (if (PyVal.str message.nonce).truthy = true then PyVal.str message.nonce else .null) = _
      rw [hnonce, if_pos (randomNonce_truthy r.entropy)]
    · intro hs
      obtain ⟨paid, hpaid, hpaid'⟩ := hsuccess hs
      obtain ⟨response, rfl, -⟩ := directOutcome_success hpaid hpaid'
      obtain ⟨hpos, hresult⟩ := hout.success response rfl
      exact ⟨hpos, response, hresult⟩

/-- An address is paid with one request, which has the nonce as its key. -/
theorem direct_pays_once_sample :
    ∃ (request : SettleRequest) (message : Eip712Message) (payload : PaymentPayload),
      (execute .ascii lowerText shopWire shopBuyer (shopReplies "USDC") "0xb0" (.finite false 1 (-3)) none none).2 =
        { signed := [payload.payload], settlements := [request] } ∧
      request.idempotencyKey = .str message.nonce ∧
      payload.payload.authorization = .create message (toString message.value) (toString message.validBefore) := by
  have hlength : (execute .ascii lowerText shopWire shopBuyer (shopReplies "USDC") "0xb0" (.finite false 1 (-3)) none
      none).2.settlements.length = 1 := by decide +kernel
  have hpays := @direct_pays_once .ascii lowerText shopWire shopBuyer (shopReplies "USDC") "0xb0" (.finite false 1 (-3))
    none none rfl
  obtain ⟨hnone, -⟩ | ⟨n, asset, contract, balance, domain, message, payload, request, posted, count, hjournal, -, -, -,
    -, hsigned, -, -, hkey, -⟩ := hpays
  · rw [hnone] at hlength
    cases hlength
  · rw [hjournal, List.length_replicate] at hlength
    subst hlength
    exact ⟨request, message, payload, hjournal, hkey, hsigned.authorization⟩

end Payments

end Nanopayments
end HostedFacilitator
