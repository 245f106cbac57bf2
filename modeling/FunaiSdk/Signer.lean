import FunaiSdk.Keys

/-!
# The signer: chained sighashes and the keys a verifier reads back

The signer module is not among the sources; it is modelled from the spec's signing protocol.
Each signature is made over a pre-sign hash of the running sighash, the authorization type,
the fee and the nonce, and the running sighash then absorbs the signature; a raw public key
leaves it as it was. A verifier replays the same chain over the appended fields, reading
back a key from each, and `Synced` says the signer's chain is in step with the verifier's.
-/

namespace FunaiSdk

variable (crypto : Crypto)

def AuthType.byte : AuthType → UInt8
  | .standard => 0x04
  | .sponsored => 0x05

def PubKeyEncoding.byte : PubKeyEncoding → UInt8
  | .compressed => 0x00
  | .uncompressed => 0x01

/-- A fee or nonce as 8 big-endian bytes. -/
def bytes8 (n : Int) : Bytes :=
  (Varuint.writeLE 8 n.toNat).reverse

/-- Modelled from the spec: a condition with fee, nonce and signature area cleared. -/
def SpendingCondition.clear : SpendingCondition → SpendingCondition
  | .singleSig c => .singleSig { c with nonce := 0, fee := 0, signature := emptyMessageSignature }
  | .multiSig c => .multiSig { c with nonce := 0, fee := 0, fields := [] }

/-- Modelled from the spec: the authorization the initial sighash covers. -/
def intoInitialSighashAuth : Authorization → Authorization
  | .standard c => .standard c.clear
  | .sponsored c _ => .sponsored c.clear (defaultSponsorSpendingCondition crypto)

def signBegin (t : Transaction) : Bytes :=
  crypto.txid { t with auth := intoInitialSighashAuth crypto t.auth }

def sigHashPreSign (curSigHash : Bytes) (authType : AuthType) (fee nonce : Int) : Bytes :=
  crypto.txidFromData (curSigHash ++ [authType.byte] ++ bytes8 fee ++ bytes8 nonce)

def nextSigHash (preSign : Bytes) (encoding : PubKeyEncoding) (signature : Bytes) : Bytes :=
  crypto.txidFromData (preSign ++ [encoding.byte] ++ signature)

section Replay

variable (authType : AuthType) (fee nonce : Int)

/-- The running sighash after one field: a signature advances it, a public key does not. -/
def stepSigHash (sigHash : Bytes) (field : TransactionAuthField) : Bytes :=
  match field.contents with
  | .publicKey _ => sigHash
  | .messageSignature signature =>
    nextSigHash crypto (sigHashPreSign crypto sigHash authType fee nonce) field.pubKeyEncoding
      signature

/-- The key a verifier reads from one field at the running sighash. -/
def fieldKey (sigHash : Bytes) (field : TransactionAuthField) : Bytes :=
  match field.contents with
  | .publicKey data => data
  | .messageSignature signature =>
    crypto.recoverPublicKey (sigHashPreSign crypto sigHash authType fee nonce) signature
      field.pubKeyEncoding

def chainSigHash (sigHash : Bytes) (fields : List TransactionAuthField) : Bytes :=
  fields.foldl (stepSigHash crypto authType fee nonce) sigHash

/-- Modelled from the spec: the keys a verifier reads back from a field sequence. -/
def readBackKeys : Bytes → List TransactionAuthField → List Bytes
  | _, [] => []
  | sigHash, field :: fields =>
    fieldKey crypto authType fee nonce sigHash field ::
      readBackKeys (stepSigHash crypto authType fee nonce sigHash field) fields

@[simp] theorem chainSigHash_nil (sigHash : Bytes) :
    chainSigHash crypto authType fee nonce sigHash [] = sigHash := rfl

@[simp] theorem chainSigHash_append (sigHash : Bytes) (fields : List TransactionAuthField)
    (field : TransactionAuthField) :
    chainSigHash crypto authType fee nonce sigHash (fields ++ [field]) =
      stepSigHash crypto authType fee nonce (chainSigHash crypto authType fee nonce sigHash fields)
        field := by
  simp [chainSigHash]

end Replay

namespace SpendingCondition

/-- Modelled from the spec: a signature fills a single-sig condition's signature area and
is appended to a multi-sig condition's fields. -/
def appendSignature (encoding : PubKeyEncoding) (signature : Bytes) :
    SpendingCondition → SpendingCondition
  | .singleSig c => .singleSig { c with signature }
  | .multiSig c => .multiSig { c with fields := c.fields ++ [⟨encoding, .messageSignature signature⟩] }

/-- Modelled from the spec: a raw public key is appended to a multi-sig condition only. -/
def appendPublicKey (encoding : PubKeyEncoding) (key : Bytes) :
    SpendingCondition → Except String SpendingCondition
  | .singleSig _ => .error "Can't append public key to a singlesig condition"
  | .multiSig c => .ok (.multiSig { c with fields := c.fields ++ [⟨encoding, .publicKey key⟩] })

/-- The origin's field sequence; a single-sig condition has none. -/
def fields : SpendingCondition → List TransactionAuthField
  | .singleSig _ => []
  | .multiSig c => c.fields

@[simp] theorem clear_appendSignature (c : SpendingCondition) (encoding : PubKeyEncoding)
    (signature : Bytes) : (c.appendSignature encoding signature).clear = c.clear := by
  cases c <;> rfl

@[simp] theorem fee_appendSignature (c : SpendingCondition) (encoding : PubKeyEncoding)
    (signature : Bytes) : (c.appendSignature encoding signature).fee = c.fee := by
  cases c <;> rfl

@[simp] theorem signer_appendSignature (c : SpendingCondition) (encoding : PubKeyEncoding)
    (signature : Bytes) : (c.appendSignature encoding signature).signer = c.signer := by
  cases c <;> rfl

@[simp] theorem hashMode_appendSignature (c : SpendingCondition) (encoding : PubKeyEncoding)
    (signature : Bytes) : (c.appendSignature encoding signature).hashMode = c.hashMode := by
  cases c <;> rfl

@[simp] theorem nonce_appendSignature (c : SpendingCondition) (encoding : PubKeyEncoding)
    (signature : Bytes) : (c.appendSignature encoding signature).nonce = c.nonce := by
  cases c <;> rfl

@[simp] theorem clear_setFee (c : SpendingCondition) (fee : Int) : (c.setFee fee).clear = c.clear := by
  cases c <;> rfl

@[simp] theorem clear_setNonce (c : SpendingCondition) (nonce : Int) :
    (c.setNonce nonce).clear = c.clear := by
  cases c <;> rfl

@[simp] theorem fields_setFee (c : SpendingCondition) (fee : Int) : (c.setFee fee).fields = c.fields := by
  cases c <;> rfl

@[simp] theorem fields_setNonce (c : SpendingCondition) (nonce : Int) :
    (c.setNonce nonce).fields = c.fields := by
  cases c <;> rfl

/-- A condition with the cleared form and fields of a multi-sig condition is that condition
but for its fee and nonce. -/
theorem eq_multiSig_of_clear {c : SpendingCondition} {m : MultiSigSpendingCondition}
    (hclear : c.clear = (SpendingCondition.multiSig m).clear) (hfields : c.fields = m.fields) :
    c = .multiSig { m with fee := c.fee, nonce := c.nonce } := by
  cases c with
  | singleSig _ => cases hclear
  | multiSig m' =>
    simp only [clear, multiSig.injEq, MultiSigSpendingCondition.mk.injEq] at hclear
    cases m'
    simp_all [fields, fee, nonce]

end SpendingCondition

namespace Authorization

def setOrigin (condition : SpendingCondition) : Authorization → Authorization
  | .standard _ => .standard condition
  | .sponsored _ s => .sponsored condition s

@[simp] theorem spendingCondition_setOrigin (a : Authorization) (c : SpendingCondition) :
    (a.setOrigin c).spendingCondition = c := by
  cases a <;> rfl

@[simp] theorem authType_setOrigin (a : Authorization) (c : SpendingCondition) :
    (a.setOrigin c).authType = a.authType := by
  cases a <;> rfl

@[simp] theorem clear_spendingCondition_setFee (a : Authorization) (amount : Int) :
    (a.setFee amount).spendingCondition.clear = a.spendingCondition.clear := by
  cases a <;> simp [Authorization.setFee, spendingCondition]

@[simp] theorem fields_spendingCondition_setFee (a : Authorization) (amount : Int) :
    (a.setFee amount).spendingCondition.fields = a.spendingCondition.fields := by
  cases a <;> simp [Authorization.setFee, spendingCondition]

/-- Clearing an authorization forgets whatever was appended to the origin. -/
theorem intoInitialSighashAuth_setOrigin (a : Authorization) (c : SpendingCondition)
    (h : c.clear = a.spendingCondition.clear) :
    intoInitialSighashAuth crypto (a.setOrigin c) = intoInitialSighashAuth crypto a := by
  cases a <;> simp_all [setOrigin, intoInitialSighashAuth, spendingCondition]

end Authorization

/-- Modelled from the spec: the signer of a transaction, with its running sighash. -/
structure TransactionSigner where
  transaction : Transaction
  sigHash : Bytes

namespace TransactionSigner

/-- The origin's chain over fields already in place, as the signer's constructor replays. -/
def originSigHash (t : Transaction) : Bytes :=
  let c := t.auth.spendingCondition
  chainSigHash crypto .standard c.fee c.nonce (signBegin crypto t) c.fields

def new (t : Transaction) : TransactionSigner :=
  ⟨t, originSigHash crypto t⟩

def withOrigin (s : TransactionSigner) (condition : SpendingCondition) (sigHash : Bytes) :
    TransactionSigner :=
  ⟨{ s.transaction with auth := s.transaction.auth.setOrigin condition }, sigHash⟩

/-- Modelled from the spec: sign the origin's pre-sign hash and append the signature. -/
def signOrigin (s : TransactionSigner) (privateKey : Bytes) : TransactionSigner :=
  let condition := s.transaction.auth.spendingCondition
  let preSign := sigHashPreSign crypto s.sigHash .standard condition.fee condition.nonce
  let signature := crypto.sign preSign privateKey
  let encoding := privateKeyEncoding privateKey
  s.withOrigin (condition.appendSignature encoding signature)
    (nextSigHash crypto preSign encoding signature)

/-- Modelled from the spec: append a member's raw public key to the origin. -/
def appendOrigin (s : TransactionSigner) (publicKey : String) :
    Except String TransactionSigner := do
  let key ← createFunaiPublicKey (.hex publicKey)
  let condition ← s.transaction.auth.spendingCondition.appendPublicKey (publicKeyEncoding key) key
  return s.withOrigin condition s.sigHash

/-- Modelled from the spec: the origin's sighash once its signatures are in. A single-sig
origin's signature advances the initial sighash once; a multi-sig origin's fields advance
it as the verifier replays them. -/
def originFinalSigHash (t : Transaction) : Bytes :=
  match t.auth.spendingCondition with
  | .singleSig c =>
    stepSigHash crypto .standard c.fee c.nonce (signBegin crypto t)
      ⟨c.keyEncoding, .messageSignature c.signature⟩
  | .multiSig c => chainSigHash crypto .standard c.fee c.nonce (signBegin crypto t) c.fields

/-- Modelled from the spec: the sponsor signs a copy of the transaction with its condition
attached, starting from the origin's final sighash. -/
def createSponsorSigner (t : Transaction) (sponsorSpendingCondition : SpendingCondition) :
    TransactionSigner :=
  let t : Transaction := { t with
    auth := match t.auth with
      | .sponsored origin _ => .sponsored origin sponsorSpendingCondition
      | auth => auth }
  ⟨t, originFinalSigHash crypto t⟩

/-- Modelled from the spec: the sponsor's signature over the pre-sign hash of the running
sighash, with the sponsored authorization type and the sponsor's fee and nonce.
`sponsorTransaction` calls it on a sponsored transaction only. -/
def signSponsor (s : TransactionSigner) (privateKey : Bytes) : TransactionSigner :=
  match s.transaction.auth with
  | .sponsored origin sponsor =>
    let preSign := sigHashPreSign crypto s.sigHash .sponsored sponsor.fee sponsor.nonce
    let signature := crypto.sign preSign privateKey
    let encoding := privateKeyEncoding privateKey
    ⟨{ s.transaction with auth := .sponsored origin (sponsor.appendSignature encoding signature) },
      nextSigHash crypto preSign encoding signature⟩
  | .standard _ => s

/-- The signer after one more field on its multi-sig origin `m`, its running sighash moved
past the field. -/
def appendField (s : TransactionSigner) (m : MultiSigSpendingCondition)
    (field : TransactionAuthField) : TransactionSigner :=
  ⟨{ s.transaction with
      auth := s.transaction.auth.setOrigin (.multiSig { m with fields := m.fields ++ [field] }) },
    stepSigHash crypto .standard m.fee m.nonce s.sigHash field⟩

/-- The field `signOrigin` appends at the running sighash `sigHash`. -/
def signatureField (sigHash : Bytes) (fee nonce : Int) (privateKey : Bytes) :
    TransactionAuthField :=
  ⟨privateKeyEncoding privateKey,
    .messageSignature (crypto.sign (sigHashPreSign crypto sigHash .standard fee nonce) privateKey)⟩

/-- The field `appendOrigin` appends for a key. -/
def publicKeyField (key : Bytes) : TransactionAuthField :=
  ⟨publicKeyEncoding key, .publicKey key⟩

/-- Replacing the origin by one of the same cleared form keeps the initial sighash. -/
theorem signBegin_setOrigin {t : Transaction} {c : SpendingCondition}
    (h : c.clear = t.auth.spendingCondition.clear) :
    signBegin crypto { t with auth := t.auth.setOrigin c } = signBegin crypto t := by
  simp only [signBegin, Authorization.intoInitialSighashAuth_setOrigin crypto _ _ h]

variable {s : TransactionSigner} {m : MultiSigSpendingCondition}

/-- Signing the origin keeps the authorization type and the origin's fee and nonce. -/
@[simp] theorem authType_signOrigin (privateKey : Bytes) :
    (s.signOrigin crypto privateKey).transaction.auth.authType = s.transaction.auth.authType := by
  simp [signOrigin, withOrigin]

@[simp] theorem fee_signOrigin (privateKey : Bytes) :
    (s.signOrigin crypto privateKey).transaction.auth.spendingCondition.fee =
      s.transaction.auth.spendingCondition.fee := by
  simp [signOrigin, withOrigin]

@[simp] theorem nonce_signOrigin (privateKey : Bytes) :
    (s.signOrigin crypto privateKey).transaction.auth.spendingCondition.nonce =
      s.transaction.auth.spendingCondition.nonce := by
  simp [signOrigin, withOrigin]

@[simp] theorem payload_signOrigin (privateKey : Bytes) :
    (s.signOrigin crypto privateKey).transaction.payload = s.transaction.payload := rfl

@[simp] theorem spendingCondition_appendField (field : TransactionAuthField) :
    (s.appendField crypto m field).transaction.auth.spendingCondition =
      .multiSig { m with fields := m.fields ++ [field] } := by
  simp [appendField]

theorem signOrigin_eq (hm : s.transaction.auth.spendingCondition = .multiSig m)
    (privateKey : Bytes) :
    s.signOrigin crypto privateKey =
      s.appendField crypto m (signatureField crypto s.sigHash m.fee m.nonce privateKey) := by
  simp [signOrigin, appendField, withOrigin, signatureField, stepSigHash, hm,
    SpendingCondition.appendSignature, SpendingCondition.fee, SpendingCondition.nonce]

theorem appendOrigin_eq (hm : s.transaction.auth.spendingCondition = .multiSig m)
    (publicKey : String) :
    s.appendOrigin publicKey =
      (hexToBytes publicKey).map fun key => s.appendField crypto m (publicKeyField key) := by
  cases h : hexToBytes publicKey <;>
    simp [appendOrigin, createFunaiPublicKey, h, hm, SpendingCondition.appendPublicKey,
      withOrigin, appendField, publicKeyField, stepSigHash, Except.map]

/-- The signer's running sighash is the verifier's chain over the origin's fields. -/
def Synced (s : TransactionSigner) : Prop :=
  s.sigHash = originSigHash crypto s.transaction

theorem synced_new (t : Transaction) : (new crypto t).Synced crypto := rfl

theorem synced_appendField (hm : s.transaction.auth.spendingCondition = .multiSig m)
    (hs : s.Synced crypto) (field : TransactionAuthField) :
    (s.appendField crypto m field).Synced crypto := by
  have hclear : (SpendingCondition.multiSig { m with fields := m.fields ++ [field] }).clear =
      s.transaction.auth.spendingCondition.clear := by
    simp [hm, SpendingCondition.clear]
  have hbegin : signBegin crypto (s.appendField crypto m field).transaction =
      signBegin crypto s.transaction :=
    signBegin_setOrigin crypto hclear
  simp only [Synced, originSigHash, hbegin, spendingCondition_appendField] at hs ⊢
  simp [appendField, hs, hm, SpendingCondition.fee, SpendingCondition.nonce,
    SpendingCondition.fields]

/-- A verifier reads the signer's public key back from its signature field. -/
@[simp] theorem fieldKey_signatureField (fee nonce : Int) (sigHash privateKey : Bytes) :
    fieldKey crypto .standard fee nonce sigHash (signatureField crypto sigHash fee nonce privateKey) =
      crypto.publicKeyOf privateKey := by
  simp [fieldKey, signatureField, crypto.recover_sign]

@[simp] theorem fieldKey_publicKeyField (fee nonce : Int) (sigHash key : Bytes) :
    fieldKey crypto .standard fee nonce sigHash (publicKeyField key) = key := rfl

@[simp] theorem stepSigHash_publicKeyField (fee nonce : Int) (sigHash key : Bytes) :
    stepSigHash crypto .standard fee nonce sigHash (publicKeyField key) = sigHash := rfl

end TransactionSigner

end FunaiSdk
