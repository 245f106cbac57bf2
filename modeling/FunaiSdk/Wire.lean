import FunaiSdk.Message

/-!
# Wire types: payloads, spending conditions, transactions, networks

The records the builders assemble, after `wire/types.ts` and the data model of the spec; the
authorization and transaction modules are not among the sources, so the spending conditions
and their setters are modelled from the spec. The two kinds of spending condition carry hash
modes of two different types, so a condition whose hash mode disagrees with its kind cannot
be built.
-/

namespace FunaiSdk

/-- The Clarity values of the spec's data model. -/
inductive ClarityValue
  | int (value : Int)
  | uint (value : Nat)
  | boolTrue
  | boolFalse
  | buffer (bytes : Bytes)
  | standardPrincipal (address : String)
  | contractPrincipal (address contractName : String)
  | optionalNone
  | optionalSome (value : ClarityValue)
  | responseOk (value : ClarityValue)
  | responseErr (value : ClarityValue)
  | list (values : List ClarityValue)
  | tuple (fields : List (String × ClarityValue))
  | stringAscii (data : String)
  | stringUtf8 (data : String)

def trueCV : ClarityValue := .boolTrue

def falseCV : ClarityValue := .boolFalse

def boolCV (bool : Bool) : ClarityValue := if bool then trueCV else falseCV

structure AddressWire where
  version : Nat
  hash160 : Bytes
  deriving DecidableEq, Repr

inductive PostConditionPrincipalWire
  | origin
  | standard (address : AddressWire)
  | contract (address : AddressWire) (contractName : String)

structure AssetWire where
  address : AddressWire
  contractName : String
  assetName : String

inductive PostConditionWire
  | stx (principal : PostConditionPrincipalWire) (conditionCode : Nat) (amount : Int)
  | fungible (principal : PostConditionPrincipalWire) (conditionCode : Nat) (amount : Int)
      (asset : AssetWire)
  | nonFungible (principal : PostConditionPrincipalWire) (conditionCode : Nat) (asset : AssetWire)
      (assetName : ClarityValue)

inductive PostConditionMode
  | allow
  | deny
  deriving DecidableEq, Repr

inductive PayloadType
  | tokenTransfer
  | smartContract
  | contractCall
  | poisonMicroblock
  | coinbase
  | coinbaseToAltRecipient
  | versionedSmartContract
  | tenureChange
  | nakamotoCoinbase
  | infer
  | registerModel
  deriving DecidableEq, Repr

/-- `PayloadType[type]`: the enum member's name. -/
def PayloadType.name : PayloadType → String
  | .tokenTransfer => "TokenTransfer"
  | .smartContract => "SmartContract"
  | .contractCall => "ContractCall"
  | .poisonMicroblock => "PoisonMicroblock"
  | .coinbase => "Coinbase"
  | .coinbaseToAltRecipient => "CoinbaseToAltRecipient"
  | .versionedSmartContract => "VersionedSmartContract"
  | .tenureChange => "TenureChange"
  | .nakamotoCoinbase => "NakamotoCoinbase"
  | .infer => "Infer"
  | .registerModel => "RegisterModel"

inductive ClarityVersion
  | clarity1
  | clarity2
  | clarity3
  deriving DecidableEq, Repr

inductive TenureChangeCause
  | blockFound
  | extended
  deriving DecidableEq, Repr

/-- The payload variants of `wire/types.ts`; names and strings are kept as the builder
passes them, before their length-prefixed wrapping. -/
inductive Payload
  | tokenTransfer (recipient : String) (amount : Int) (memo : String)
  | contractCall (contractAddress contractName functionName : String)
      (functionArgs : List ClarityValue)
  | smartContract (contractName codeBody : String)
  | versionedSmartContract (clarityVersion : ClarityVersion) (contractName codeBody : String)
  | poisonMicroblock
  | coinbase (coinbaseBytes : Bytes)
  | coinbaseToAltRecipient (coinbaseBytes : Bytes) (recipient : String)
  | nakamotoCoinbase (coinbaseBytes : Bytes) (recipient : Option String) (vrfProof : Bytes)
  | tenureChange (tenureHash previousTenureHash burnViewHash previousTenureEnd : String)
      (previousTenureBlocks : Nat) (cause : TenureChangeCause) (publicKeyHash : String)
  | infer (inferUserAddress : String) (amount : Int)
      (userInput context nodePrincipal modelName : String)
  | registerModel (modelName modelParams : String)

def Payload.payloadType : Payload → PayloadType
  | .tokenTransfer .. => .tokenTransfer
  | .contractCall .. => .contractCall
  | .smartContract .. => .smartContract
  | .versionedSmartContract .. => .versionedSmartContract
  | .poisonMicroblock => .poisonMicroblock
  | .coinbase .. => .coinbase
  | .coinbaseToAltRecipient .. => .coinbaseToAltRecipient
  | .nakamotoCoinbase .. => .nakamotoCoinbase
  | .tenureChange .. => .tenureChange
  | .infer .. => .infer
  | .registerModel .. => .registerModel

/-- The byte length of a string, checked against a declared maximum. -/
def checkMaxLength (content : String) (maxLengthBytes : Nat) : Except String Unit :=
  if (Message.utf8ToBytes content).length ≤ maxLengthBytes then .ok ()
  else .error "ValueTooLong"

/-- Modelled from the spec: a memo is at most 34 bytes. -/
def createTokenTransferPayload (recipient : String) (amount : Int) (memo : String) :
    Except String Payload := do
  checkMaxLength memo 34
  return .tokenTransfer recipient amount memo

/-- Modelled from the spec: contract and function names keep the identifier limit. -/
def createContractCallPayload (contractAddress contractName functionName : String)
    (functionArgs : List ClarityValue) : Except String Payload := do
  checkMaxLength contractName 128
  checkMaxLength functionName 128
  return .contractCall contractAddress contractName functionName functionArgs

/-- Modelled from the spec: a versioned deploy when a Clarity version is given. -/
def createSmartContractPayload (contractName codeBody : String)
    (clarityVersion : Option ClarityVersion) : Except String Payload := do
  checkMaxLength contractName 128
  checkMaxLength codeBody 100000
  return match clarityVersion with
    | some version => .versionedSmartContract version contractName codeBody
    | none => .smartContract contractName codeBody

/-- Modelled from the spec: the infer payload of the domain-specific variant. -/
def createInferPayload (inferUserAddress : String) (amount : Int)
    (userInput context nodePrincipal modelName : String) : Payload :=
  .infer inferUserAddress amount userInput context nodePrincipal modelName

/-- Modelled from the spec: the register-model payload. -/
def createRegisterModelPayload (modelName modelParams : String) : Payload :=
  .registerModel modelName modelParams

inductive SingleSigHashMode
  | P2PKH
  | P2WPKH
  deriving DecidableEq, Repr

inductive MultiSigHashMode
  | P2SH
  | P2WSH
  | P2SHNonSequential
  | P2WSHNonSequential
  deriving DecidableEq, Repr

inductive AddressHashMode
  | singleSig (hashMode : SingleSigHashMode)
  | multiSig (hashMode : MultiSigHashMode)
  deriving DecidableEq, Repr

inductive PubKeyEncoding
  | compressed
  | uncompressed
  deriving DecidableEq, Repr

inductive AuthFieldContents
  | publicKey (data : Bytes)
  | messageSignature (data : Bytes)
  deriving DecidableEq, Repr

structure TransactionAuthField where
  pubKeyEncoding : PubKeyEncoding
  contents : AuthFieldContents
  deriving DecidableEq, Repr

structure SingleSigSpendingCondition where
  hashMode : SingleSigHashMode
  signer : Bytes
  nonce : Int
  fee : Int
  keyEncoding : PubKeyEncoding
  signature : Bytes
  deriving DecidableEq, Repr

structure MultiSigSpendingCondition where
  hashMode : MultiSigHashMode
  signer : Bytes
  nonce : Int
  fee : Int
  fields : List TransactionAuthField
  signaturesRequired : Nat
  deriving DecidableEq, Repr

inductive SpendingCondition
  | singleSig (condition : SingleSigSpendingCondition)
  | multiSig (condition : MultiSigSpendingCondition)
  deriving DecidableEq, Repr

namespace SpendingCondition

def isSingleSig : SpendingCondition → Bool
  | .singleSig _ => true
  | .multiSig _ => false

def signer : SpendingCondition → Bytes
  | .singleSig c => c.signer
  | .multiSig c => c.signer

def hashMode : SpendingCondition → AddressHashMode
  | .singleSig c => .singleSig c.hashMode
  | .multiSig c => .multiSig c.hashMode

def nonce : SpendingCondition → Int
  | .singleSig c => c.nonce
  | .multiSig c => c.nonce

def fee : SpendingCondition → Int
  | .singleSig c => c.fee
  | .multiSig c => c.fee

def setFee (fee : Int) : SpendingCondition → SpendingCondition
  | .singleSig c => .singleSig { c with fee }
  | .multiSig c => .multiSig { c with fee }

def setNonce (nonce : Int) : SpendingCondition → SpendingCondition
  | .singleSig c => .singleSig { c with nonce }
  | .multiSig c => .multiSig { c with nonce }

@[simp] theorem fee_setFee (c : SpendingCondition) (fee : Int) : (c.setFee fee).fee = fee := by
  cases c <;> rfl

@[simp] theorem nonce_setFee (c : SpendingCondition) (fee : Int) :
    (c.setFee fee).nonce = c.nonce := by
  cases c <;> rfl

@[simp] theorem signer_setFee (c : SpendingCondition) (fee : Int) :
    (c.setFee fee).signer = c.signer := by
  cases c <;> rfl

@[simp] theorem nonce_setNonce (c : SpendingCondition) (nonce : Int) :
    (c.setNonce nonce).nonce = nonce := by
  cases c <;> rfl

@[simp] theorem fee_setNonce (c : SpendingCondition) (nonce : Int) :
    (c.setNonce nonce).fee = c.fee := by
  cases c <;> rfl

@[simp] theorem signer_setNonce (c : SpendingCondition) (nonce : Int) :
    (c.setNonce nonce).signer = c.signer := by
  cases c <;> rfl

@[simp] theorem hashMode_setFee (c : SpendingCondition) (fee : Int) :
    (c.setFee fee).hashMode = c.hashMode := by
  cases c <;> rfl

@[simp] theorem hashMode_setNonce (c : SpendingCondition) (nonce : Int) :
    (c.setNonce nonce).hashMode = c.hashMode := by
  cases c <;> rfl

end SpendingCondition

inductive AuthType
  | standard
  | sponsored
  deriving DecidableEq, Repr

inductive Authorization
  | standard (spendingCondition : SpendingCondition)
  | sponsored (spendingCondition sponsorSpendingCondition : SpendingCondition)
  deriving DecidableEq, Repr

namespace Authorization

def authType : Authorization → AuthType
  | .standard _ => .standard
  | .sponsored .. => .sponsored

def spendingCondition : Authorization → SpendingCondition
  | .standard c => c
  | .sponsored c _ => c

/-- Modelled from the spec: the fee a transaction pays, the sponsor's when sponsored. -/
def fee : Authorization → Int
  | .standard c => c.fee
  | .sponsored _ s => s.fee

/-- Modelled from the spec: the fee of a sponsored transaction is the sponsor's. -/
def setFee (amount : Int) : Authorization → Authorization
  | .standard c => .standard (c.setFee amount)
  | .sponsored c s => .sponsored c (s.setFee amount)

/-- Modelled from the spec: the nonce set before signing is the origin's. -/
def setNonce (nonce : Int) : Authorization → Authorization
  | .standard c => .standard (c.setNonce nonce)
  | .sponsored c s => .sponsored (c.setNonce nonce) s

/-- Modelled from the spec: a sponsor condition is attached to a sponsored
authorization only. -/
def setSponsor (sponsorSpendingCondition : SpendingCondition) :
    Authorization → Except String Authorization
  | .standard _ => .error "Cannot sponsor sign a non-sponsored transaction"
  | .sponsored c _ => .ok (.sponsored c sponsorSpendingCondition)

@[simp] theorem authType_setFee (a : Authorization) (amount : Int) :
    (a.setFee amount).authType = a.authType := by
  cases a <;> rfl

@[simp] theorem authType_setNonce (a : Authorization) (nonce : Int) :
    (a.setNonce nonce).authType = a.authType := by
  cases a <;> rfl

@[simp] theorem spendingCondition_setNonce (a : Authorization) (nonce : Int) :
    (a.setNonce nonce).spendingCondition = a.spendingCondition.setNonce nonce := by
  cases a <;> rfl

@[simp] theorem fee_setFee (a : Authorization) (amount : Int) : (a.setFee amount).fee = amount := by
  cases a <;> simp [setFee, fee]

@[simp] theorem fee_setNonce (a : Authorization) (nonce : Int) : (a.setNonce nonce).fee = a.fee := by
  cases a <;> simp [setNonce, fee]

@[simp] theorem nonce_spendingCondition_setFee (a : Authorization) (amount : Int) :
    (a.setFee amount).spendingCondition.nonce = a.spendingCondition.nonce := by
  cases a <;> simp [setFee, spendingCondition]

@[simp] theorem signer_spendingCondition_setFee (a : Authorization) (amount : Int) :
    (a.setFee amount).spendingCondition.signer = a.spendingCondition.signer := by
  cases a <;> simp [setFee, spendingCondition]

/-- `setFee` writes the origin's fee on a standard authorization, and leaves it on a
sponsored one. -/
theorem spendingCondition_setFee (a : Authorization) (amount : Int) :
    (a.setFee amount).spendingCondition =
      if a.authType = .standard then a.spendingCondition.setFee amount else a.spendingCondition := by
  cases a <;> rfl

end Authorization

structure Transaction where
  transactionVersion : Nat
  chainId : Nat
  auth : Authorization
  payload : Payload
  postConditionMode : PostConditionMode
  postConditions : List PostConditionWire

namespace Transaction

def setFee (t : Transaction) (amount : Int) : Transaction :=
  { t with auth := t.auth.setFee amount }

def setNonce (t : Transaction) (nonce : Int) : Transaction :=
  { t with auth := t.auth.setNonce nonce }

def setSponsor (t : Transaction) (sponsorSpendingCondition : SpendingCondition) :
    Except String Transaction := do
  let auth ← t.auth.setSponsor sponsorSpendingCondition
  return { t with auth }

@[simp] theorem auth_setFee (t : Transaction) (amount : Int) :
    (t.setFee amount).auth = t.auth.setFee amount := rfl

@[simp] theorem auth_setNonce (t : Transaction) (nonce : Int) :
    (t.setNonce nonce).auth = t.auth.setNonce nonce := rfl

@[simp] theorem payload_setFee (t : Transaction) (amount : Int) :
    (t.setFee amount).payload = t.payload := rfl

@[simp] theorem payload_setNonce (t : Transaction) (nonce : Int) :
    (t.setNonce nonce).payload = t.payload := rfl

end Transaction

structure AddressVersions where
  singleSig : Nat
  multiSig : Nat
  deriving DecidableEq, Repr

/-- The parameters of a network that the builders read. -/
structure FunaiNetwork where
  chainId : Nat
  transactionVersion : Nat
  addressVersion : AddressVersions
  deriving DecidableEq, Repr

/-- Modelled from the spec: the network constants are not among the sources; these are
the chain's mainnet values. -/
def funaiMainnet : FunaiNetwork :=
  ⟨0x00000001, 0x00, ⟨22, 20⟩⟩

/-- Modelled from the spec: the chain's testnet values, which devnet and mocknet share. -/
def funaiTestnet : FunaiNetwork :=
  ⟨0x80000000, 0x80, ⟨26, 21⟩⟩

def funaiDevnet : FunaiNetwork := funaiTestnet

def funaiMocknet : FunaiNetwork := funaiDevnet

def networkFromName (name : String) : Except String FunaiNetwork :=
  if name = "mainnet" then .ok funaiMainnet
  else if name = "testnet" then .ok funaiTestnet
  else if name = "devnet" then .ok funaiDevnet
  else if name = "mocknet" then .ok funaiMocknet
  else .error s!"Unknown network name: {name}"

/-- A `network` option: a network name or a network object. -/
inductive NetworkInput
  | name (name : String)
  | network (network : FunaiNetwork)

def networkFrom : NetworkInput → Except String FunaiNetwork
  | .name name => networkFromName name
  | .network network => .ok network

end FunaiSdk
