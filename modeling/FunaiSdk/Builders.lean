import FunaiSdk.KeyOrder
import FunaiSdk.Signer
import FunaiSdk.Run

/-!
# Transaction builders

The five unsigned builders share one body, `buildUnsigned`, written in the source's order and
applied to each builder's payload, post-condition options, ABI check and multi-sig branch.
The signed builders delegate to them and sign, a multi-sig origin through
`mutatingSignAppendMultiSig`. Options are `Object.assign(defaultOptions, txOptions)`: a key
the caller gives replaces the default even when its value is `undefined` or `null`.
-/

namespace FunaiSdk

variable {σ : Type} (c : Collaborators) (crypto : Crypto)

/-- The keys every builder reads besides its payload's. -/
structure BaseOptions where
  fee : JsOpt IntegerType := .absent
  nonce : JsOpt IntegerType := .absent
  sponsored : JsOpt Bool := .absent
  network : JsOpt NetworkInput := .absent

structure UnsignedMultiSigOptions where
  numSignatures : Nat
  publicKeys : List KeyInput
  address : JsOpt String := .absent
  useNonSequentialMultiSig : JsOpt Bool := .absent

/-- The origin of an unsigned build: a `publicKey`, or the multi-sig options. -/
inductive OriginOptions
  | singleSig (publicKey : KeyInput)
  | multiSig (options : UnsignedMultiSigOptions)

/-- The origin of a signed build: a `senderKey`, or the multi-sig options and the
`signerKeys`. -/
inductive SignedOriginOptions
  | singleSig (senderKey : KeyInput)
  | multiSig (options : UnsignedMultiSigOptions) (signerKeys : List KeyInput)

structure InferOptions extends BaseOptions where
  inferUserAddress : String
  amount : IntegerType
  userInput : String
  context : String
  modelName : String

structure RegisterModelOptions extends BaseOptions where
  modelName : String
  modelParams : String

structure TokenTransferOptions extends BaseOptions where
  recipient : String
  amount : IntegerType
  memo : JsOpt String := .absent

structure ContractDeployOptions extends BaseOptions where
  clarityVersion : JsOpt ClarityVersion := .absent
  contractName : String
  codeBody : String
  postConditionMode : JsOpt PostConditionMode := .absent
  postConditions : JsOpt (List PostConditionWire) := .absent

/-- `validateWithAbi`: a flag, or the ABI itself. -/
inductive AbiOption
  | flag (validate : Bool)
  | abi (abi : ClarityAbi)

structure ContractCallOptions extends BaseOptions where
  contractAddress : String
  contractName : String
  functionName : String
  functionArgs : List ClarityValue
  postConditionMode : JsOpt PostConditionMode := .absent
  postConditions : JsOpt (List PostConditionWire) := .absent
  validateWithAbi : JsOpt AbiOption := .absent

/-- `networkFrom(options.network)`, whose `client` is read next: a network given as
`undefined` or `null` throws there. -/
def networkFromOption : JsOpt NetworkInput → Except String FunaiNetwork
  | .value network => networkFrom network
  | .null => .error "Cannot read properties of null (reading 'client')"
  | _ => .error "Cannot read properties of undefined (reading 'client')"

/-- Modelled from the spec: a post-condition mode option after the defaults. -/
def postConditionModeFrom : JsOpt PostConditionMode → Except String PostConditionMode
  | .value mode => .ok mode
  | .null => .error "Invalid post condition mode: null"
  | _ => .error "Invalid post condition mode: undefined"

/-- The null principal an infer payload carries, for the signer to assign. -/
def inferNodePrincipal : String := "ST000000000000000000002AMW42H"

/-- The hash mode `useNonSequentialMultiSig` selects. -/
def multiSigHashMode (options : UnsignedMultiSigOptions) : MultiSigHashMode :=
  if options.useNonSequentialMultiSig.isTrue then .P2SHNonSequential else .P2SH

/-- The member keys in the order the unsigned builders derive the signer from: resolved
against `address` when one is given, as given otherwise. -/
def orderedPublicKeys (options : UnsignedMultiSigOptions) : Except String (List String) :=
  match options.address.nonEmpty with
  | some address => do
    let hash := (← createAddress crypto address).hash160
    sortPublicKeysForAddress crypto (options.publicKeys.map publicKeyToHex) options.numSignatures
      (multiSigHashMode options) hash
  | none => pure (options.publicKeys.map publicKeyToHex)

/-- The multi-sig branch of the transfer, deploy and call builders. -/
def multiSigOrigin (options : UnsignedMultiSigOptions) (nonce fee : JsOpt IntegerType) :
    Except String SpendingCondition := do
  let publicKeys ← orderedPublicKeys crypto options
  createMultiSigSpendingCondition crypto (multiSigHashMode options) options.numSignatures
    publicKeys nonce fee

/-- The `if ('publicKey' in options)` block: a single-sig P2PKH condition for a public key,
the builder's multi-sig branch otherwise. -/
def originCondition
    (multiSig : UnsignedMultiSigOptions → JsOpt IntegerType → JsOpt IntegerType →
      Except String SpendingCondition)
    (origin : OriginOptions) (nonce fee : JsOpt IntegerType) : Except String SpendingCondition :=
  match origin with
  | .singleSig publicKey => createSingleSigSpendingCondition crypto .P2PKH publicKey nonce fee
  | .multiSig options => multiSig options nonce fee

/-- `if (omitted) { const fee = await fetchFeeEstimate(...); transaction.setFee(fee); }` -/
def estimateFee (omitted : Bool) (transaction : Transaction) : Run σ Transaction :=
  if omitted then do
    let fee ← fetchFeeEstimate c transaction
    return transaction.setFee fee
  else pure transaction

/-- The `address` key of the builder's options: a multi-sig origin's `address`. The options
of a single-sig origin have no such key. -/
def OriginOptions.address : OriginOptions → JsOpt String
  | .singleSig _ => .absent
  | .multiSig options => options.address

/-- The `address` of `{ address, ...options }`: an `address` key of the options replaces the
computed one, and an explicit `undefined` or `null` reaches `fetchNonce`'s URL as its text. -/
def spreadAddress (address : String) : JsOpt String → String
  | .absent => address
  | .value given => given
  | .undefined => "undefined"
  | .null => "null"

/-- The nonce lookup of the unsigned builders, `fetchNonce({ address, ...options })`. The
computed address is the origin signer's with the network's single-sig version, whatever the
origin's hash mode. -/
def lookupNonce (omitted : Bool) (network : FunaiNetwork) (addressOption : JsOpt String)
    (transaction : Transaction) : Run σ Transaction :=
  if omitted then do
    let address ← liftExcept
      (c32address crypto network.addressVersion.singleSig transaction.auth.spendingCondition.signer)
    let nonce ← fetchNonce c (spreadAddress address addressOption)
    return transaction.setNonce nonce
  else pure transaction

/-- The body of the five unsigned builders, in the source's order: the network, the
post-condition mode, the payload, the ABI check, the origin condition and the transaction,
then an omitted fee and an omitted nonce. -/
def buildUnsigned (options : BaseOptions) (origin : OriginOptions)
    (postConditionMode : Except String PostConditionMode) (payload : Except String Payload)
    (validate : Payload → Run σ Unit)
    (multiSig : UnsignedMultiSigOptions → JsOpt IntegerType → JsOpt IntegerType →
      Except String SpendingCondition)
    (postConditions : List PostConditionWire) (feeOmitted nonceOmitted : Bool) :
    Run σ Transaction := do
  let network ← liftExcept (networkFromOption (options.network.assign (.network funaiMainnet)))
  let postConditionMode ← liftExcept postConditionMode
  let payload ← liftExcept payload
  validate payload
  let spendingCondition ← liftExcept (originCondition crypto multiSig origin
    (options.nonce.assign (.bigint 0)) (options.fee.assign (.bigint 0)))
  let authorization := if options.sponsored.isTrue then createSponsoredAuth crypto spendingCondition
    else createStandardAuth spendingCondition
  let transaction : Transaction := ⟨network.transactionVersion, network.chainId, authorization,
    payload, postConditionMode, postConditions⟩
  let transaction ← estimateFee c feeOmitted transaction
  lookupNonce c crypto nonceOmitted network origin.address transaction

/-- An infer transaction, whose post-conditions are the transaction's defaults. -/
def makeUnsignedInfer (txOptions : InferOptions) (origin : OriginOptions) : Run σ Transaction :=
  buildUnsigned c crypto txOptions.toBaseOptions origin (.ok .deny)
    (.ok (createInferPayload txOptions.inferUserAddress txOptions.amount.toInt
      txOptions.userInput txOptions.context inferNodePrincipal txOptions.modelName))
    (fun _ => pure ()) (fun _ _ _ => .error "Multi-sig infer not yet implemented") []
    txOptions.fee.isNullish txOptions.nonce.isNullish

def makeUnsignedRegisterModel (txOptions : RegisterModelOptions) (origin : OriginOptions) :
    Run σ Transaction :=
  buildUnsigned c crypto txOptions.toBaseOptions origin (.ok .deny)
    (.ok (createRegisterModelPayload txOptions.modelName txOptions.modelParams))
    (fun _ => pure ()) (fun _ _ _ => .error "Multi-sig register-model not yet implemented") []
    txOptions.fee.isNullish txOptions.nonce.isNullish

def makeUnsignedFunaiTokenTransfer (txOptions : TokenTransferOptions) (origin : OriginOptions) :
    Run σ Transaction :=
  buildUnsigned c crypto txOptions.toBaseOptions origin (.ok .deny)
    (createTokenTransferPayload txOptions.recipient txOptions.amount.toInt
      ((txOptions.memo.assign "").toOption.getD ""))
    (fun _ => pure ()) (multiSigOrigin crypto) []
    txOptions.fee.isNullish txOptions.nonce.isNullish

def makeUnsignedContractDeploy (txOptions : ContractDeployOptions) (origin : OriginOptions) :
    Run σ Transaction :=
  buildUnsigned c crypto txOptions.toBaseOptions origin
    (postConditionModeFrom (txOptions.postConditionMode.assign .deny))
    (createSmartContractPayload txOptions.contractName txOptions.codeBody
      (txOptions.clarityVersion.assign .clarity3).toOption)
    (fun _ => pure ()) (multiSigOrigin crypto) (txOptions.postConditions.toOption.getD [])
    txOptions.fee.isUndefinedOrNull txOptions.nonce.isUndefinedOrNull

/-- The ABI check of `makeUnsignedContractCall`: with `validateWithAbi: true` the ABI is
fetched, an ABI given is used as it is. The network is always set by then, so the source's
branch for a missing network is not reached. -/
def checkWithAbi (txOptions : ContractCallOptions) (payload : Payload) : Run σ Unit :=
  match txOptions.validateWithAbi with
  | .value (.flag true) => do
    let abi ← fetchAbi c txOptions.contractAddress txOptions.contractName
    liftExcept (abi.validateContractCall payload)
  | .value (.abi abi) => liftExcept (abi.validateContractCall payload)
  | _ => pure ()

def makeUnsignedContractCall (txOptions : ContractCallOptions) (origin : OriginOptions) :
    Run σ Transaction :=
  buildUnsigned c crypto txOptions.toBaseOptions origin
    (postConditionModeFrom (txOptions.postConditionMode.assign .deny))
    (createContractCallPayload txOptions.contractAddress txOptions.contractName
      txOptions.functionName txOptions.functionArgs)
    (checkWithAbi c txOptions) (multiSigOrigin crypto) (txOptions.postConditions.toOption.getD [])
    txOptions.fee.isUndefinedOrNull txOptions.nonce.isUndefinedOrNull

/-- `signerKeys.find(key => privateKeyToPublic(key) === publicKey)`: the first signer key
whose public key is spelled exactly as the member key. -/
def findSignerKey (publicKey : String) : List String → Except String (Option String)
  | [] => .ok none
  | key :: keys => do
    if (← privateKeyToPublic crypto (.hex key)) = publicKey then return some key
    findSignerKey publicKey keys

/-- `for (const publicKey of pubs)`: sign with the member's signer key, or append the
member's public key. -/
def signAppend (signerKeys : List String) :
    TransactionSigner → List String → Except String TransactionSigner
  | signer, [] => .ok signer
  | signer, publicKey :: pubs => do
    let signer ← match ← findSignerKey crypto publicKey signerKeys with
      | some signerKey =>
        if signerKey ≠ "" then do
          let privateKey ← privateKeyToBytes (.hex signerKey)
          pure (signer.signOrigin crypto privateKey)
        else signer.appendOrigin publicKey
      | none => signer.appendOrigin publicKey
    signAppend signerKeys signer pubs

/-- `address ? sortPublicKeysForAddress(publicKeys, ...) : publicKeys`: the order the loop
signs in, resolved with the threshold and hash mode the origin carries. -/
def signingOrder (publicKeys : List String) (condition : MultiSigSpendingCondition)
    (address : JsOpt String) : Except String (List String) :=
  match address.nonEmpty with
  | some address => do
    let hash := (← createAddress crypto address).hash160
    sortPublicKeysForAddress crypto publicKeys condition.signaturesRequired condition.hashMode hash
  | none => pure publicKeys

/-- Sign a multi-sig origin in the order of its member keys, resolved against `address`
when one is given. The transaction is the builder's own, so what the loop appended before
an error is never seen. -/
def mutatingSignAppendMultiSig (transaction : Transaction) (publicKeys signerKeys : List String)
    (address : JsOpt String) : Except String Transaction := do
  let condition ← match transaction.auth.spendingCondition with
    | .singleSig _ => throw "Transaction is not a multi-sig transaction"
    | .multiSig condition => pure condition
  let signer := TransactionSigner.new crypto transaction
  let pubs ← signingOrder crypto publicKeys condition address
  let signer ← signAppend crypto signerKeys signer pubs
  return signer.transaction

/-- The single-sig branch of the signed builders: the unsigned transaction is built with
the public key of `senderKey`, then the origin signed. -/
def signSingleSig (makeUnsigned : OriginOptions → Run σ Transaction) (senderKey : KeyInput) :
    Run σ Transaction := do
  let publicKey ← liftExcept (privateKeyToPublic crypto senderKey)
  let transaction ← makeUnsigned (.singleSig (.hex publicKey))
  let privateKey ← liftExcept (privateKeyToBytes senderKey)
  return ((TransactionSigner.new crypto transaction).signOrigin crypto privateKey).transaction

/-- The multi-sig branch: the unsigned transaction is built from the options without
`signerKeys`, then every member signs or has its key appended. -/
def signMultiSig (makeUnsigned : OriginOptions → Run σ Transaction)
    (options : UnsignedMultiSigOptions) (signerKeys : List KeyInput) : Run σ Transaction := do
  let transaction ← makeUnsigned (.multiSig options)
  liftExcept (mutatingSignAppendMultiSig crypto transaction (options.publicKeys.map publicKeyToHex)
    (signerKeys.map privateKeyToHex) options.address)

def makeInfer (txOptions : InferOptions) : SignedOriginOptions → Run σ Transaction
  | .singleSig senderKey => signSingleSig crypto (makeUnsignedInfer c crypto txOptions) senderKey
  | .multiSig _ _ => throw "Multi-sig infer not yet implemented"

def makeRegisterModel (txOptions : RegisterModelOptions) :
    SignedOriginOptions → Run σ Transaction
  | .singleSig senderKey =>
    signSingleSig crypto (makeUnsignedRegisterModel c crypto txOptions) senderKey
  | .multiSig _ _ => throw "Multi-sig register-model not yet implemented"

def makeFunaiTokenTransfer (txOptions : TokenTransferOptions) :
    SignedOriginOptions → Run σ Transaction
  | .singleSig senderKey =>
    signSingleSig crypto (makeUnsignedFunaiTokenTransfer c crypto txOptions) senderKey
  | .multiSig options signerKeys =>
    signMultiSig crypto (makeUnsignedFunaiTokenTransfer c crypto txOptions) options signerKeys

def makeContractDeploy (txOptions : ContractDeployOptions) :
    SignedOriginOptions → Run σ Transaction
  | .singleSig senderKey =>
    signSingleSig crypto (makeUnsignedContractDeploy c crypto txOptions) senderKey
  | .multiSig options signerKeys =>
    signMultiSig crypto (makeUnsignedContractDeploy c crypto txOptions) options signerKeys

def makeContractCall (txOptions : ContractCallOptions) :
    SignedOriginOptions → Run σ Transaction
  | .singleSig senderKey =>
    signSingleSig crypto (makeUnsignedContractCall c crypto txOptions) senderKey
  | .multiSig options signerKeys =>
    signMultiSig crypto (makeUnsignedContractCall c crypto txOptions) options signerKeys

/-- A call of one of the five builders, with its options. -/
inductive Build
  | infer (txOptions : InferOptions)
  | registerModel (txOptions : RegisterModelOptions)
  | tokenTransfer (txOptions : TokenTransferOptions)
  | contractDeploy (txOptions : ContractDeployOptions)
  | contractCall (txOptions : ContractCallOptions)

namespace Build

def options : Build → BaseOptions
  | .infer o => o.toBaseOptions
  | .registerModel o => o.toBaseOptions
  | .tokenTransfer o => o.toBaseOptions
  | .contractDeploy o => o.toBaseOptions
  | .contractCall o => o.toBaseOptions

/-- The unsigned builder of the call. -/
def unsigned : Build → OriginOptions → Run σ Transaction
  | .infer o => makeUnsignedInfer c crypto o
  | .registerModel o => makeUnsignedRegisterModel c crypto o
  | .tokenTransfer o => makeUnsignedFunaiTokenTransfer c crypto o
  | .contractDeploy o => makeUnsignedContractDeploy c crypto o
  | .contractCall o => makeUnsignedContractCall c crypto o

/-- The signed builder of the call. -/
def signed : Build → SignedOriginOptions → Run σ Transaction
  | .infer o => makeInfer c crypto o
  | .registerModel o => makeRegisterModel c crypto o
  | .tokenTransfer o => makeFunaiTokenTransfer c crypto o
  | .contractDeploy o => makeContractDeploy c crypto o
  | .contractCall o => makeContractCall c crypto o

/-- Whether the build fetches a contract's ABI: a contract call with `validateWithAbi: true`. -/
def fetchesAbi : Build → Bool
  | .contractCall o => (o.validateWithAbi matches .value (.flag true))
  | _ => false

end Build

section Steps

variable {c crypto} {t t' : Transaction} {w w' : World σ}

theorem estimateFee_ok {omitted : Bool} :
    estimateFee c omitted t w = .ok t' w' ↔
      if omitted then ∃ fee, c.fetchFeeEstimate t = .ok fee ∧
        w' = w.log (.fetchFeeEstimate t) ∧ t.setFee fee = t'
      else t = t' ∧ w = w' := by
  cases omitted <;> simp [estimateFee, fetchFeeEstimate, map_ok, request_apply_ok, and_assoc]

theorem lookupNonce_ok {omitted : Bool} {network : FunaiNetwork} {addressOption : JsOpt String} :
    lookupNonce c crypto omitted network addressOption t w = .ok t' w' ↔
      if omitted then ∃ address,
        c32address crypto network.addressVersion.singleSig t.auth.spendingCondition.signer =
          .ok address ∧ ∃ nonce, c.fetchNonce (spreadAddress address addressOption) = .ok nonce ∧
        w' = w.log (.fetchNonce (spreadAddress address addressOption)) ∧ t.setNonce nonce = t'
      else t = t' ∧ w = w' := by
  cases omitted <;> simp [lookupNonce, fetchNonce, bind_ok, map_ok, liftExcept_apply_ok,
    request_apply_ok, and_assoc]

/-- Filling the fee leaves the payload and the authorization type. -/
theorem estimateFee_frame {omitted : Bool} (h : estimateFee c omitted t w = .ok t' w') :
    t'.payload = t.payload ∧ t'.auth.authType = t.auth.authType := by
  rw [estimateFee_ok] at h
  split at h
  · obtain ⟨_, _, _, rfl⟩ := h
    simp
  · obtain ⟨rfl, -⟩ := h
    exact ⟨rfl, rfl⟩

/-- Filling the nonce leaves the payload and the authorization type. -/
theorem lookupNonce_frame {omitted : Bool} {network : FunaiNetwork} {addressOption : JsOpt String}
    (h : lookupNonce c crypto omitted network addressOption t w = .ok t' w') :
    t'.payload = t.payload ∧ t'.auth.authType = t.auth.authType := by
  rw [lookupNonce_ok] at h
  split at h
  · obtain ⟨_, _, _, _, _, rfl⟩ := h
    simp
  · obtain ⟨rfl, -⟩ := h
    exact ⟨rfl, rfl⟩

/-- A returned unsigned build: the steps before the fee returned, then the fee and the
nonce were filled in on the transaction they built. -/
theorem buildUnsigned_ok {options : BaseOptions} {origin : OriginOptions}
    {postConditionMode : Except String PostConditionMode} {payload : Except String Payload}
    {validate : Payload → Run σ Unit}
    {multiSig : UnsignedMultiSigOptions → JsOpt IntegerType → JsOpt IntegerType →
      Except String SpendingCondition}
    {postConditions : List PostConditionWire} {feeOmitted nonceOmitted : Bool}
    (h : buildUnsigned c crypto options origin postConditionMode payload validate multiSig
      postConditions feeOmitted nonceOmitted w = .ok t w') :
    ∃ network mode p condition w₁ t₁ w₂,
      networkFromOption (options.network.assign (.network funaiMainnet)) = .ok network ∧
      postConditionMode = .ok mode ∧ payload = .ok p ∧ validate p w = .ok () w₁ ∧
      originCondition crypto multiSig origin (options.nonce.assign (.bigint 0))
        (options.fee.assign (.bigint 0)) = .ok condition ∧
      estimateFee c feeOmitted ⟨network.transactionVersion, network.chainId,
          if options.sponsored.isTrue then createSponsoredAuth crypto condition
          else createStandardAuth condition, p, mode, postConditions⟩ w₁ = .ok t₁ w₂ ∧
      lookupNonce c crypto nonceOmitted network origin.address t₁ w₂ = .ok t w' := by
  simp only [buildUnsigned, bind_ok, liftExcept_apply_ok] at h
  obtain ⟨network, _, ⟨hnetwork, rfl⟩, mode, _, ⟨hmode, rfl⟩, p, _, ⟨hp, rfl⟩, _, _, hvalidate,
    condition, _, ⟨hcondition, rfl⟩, t₁, w₂, hfee, hnonce⟩ := h
  exact ⟨network, mode, p, condition, _, t₁, w₂, hnetwork, hmode, hp, hvalidate, hcondition,
    hfee, hnonce⟩

/-- A returned unsigned build carries its payload, under a standard authorization unless
sponsored. -/
theorem buildUnsigned_payload {options : BaseOptions} {origin : OriginOptions}
    {postConditionMode : Except String PostConditionMode} {payload : Except String Payload}
    {validate : Payload → Run σ Unit}
    {multiSig : UnsignedMultiSigOptions → JsOpt IntegerType → JsOpt IntegerType →
      Except String SpendingCondition}
    {postConditions : List PostConditionWire} {feeOmitted nonceOmitted : Bool}
    (h : buildUnsigned c crypto options origin postConditionMode payload validate multiSig
      postConditions feeOmitted nonceOmitted w = .ok t w') :
    payload = .ok t.payload ∧ (options.sponsored.isTrue = false → t.auth.authType = .standard) := by
  obtain ⟨_, _, _, _, _, _, _, -, -, hp, -, -, hfee, hnonce⟩ := buildUnsigned_ok h
  obtain ⟨hp₁, htype₁⟩ := estimateFee_frame hfee
  obtain ⟨hp₂, htype₂⟩ := lookupNonce_frame hnonce
  refine ⟨by rw [hp, hp₂, hp₁], fun hsponsored => ?_⟩
  rw [htype₂, htype₁]
  simp [hsponsored]

end Steps

/-- A transfer of 1 with fee and nonce given. -/
def toyTransfer : TokenTransferOptions :=
  { fee := .value (.bigint 0), nonce := .value (.bigint 0),
    recipient := "ST000000000000000000002AMW42H", amount := .bigint 1 }

end FunaiSdk
