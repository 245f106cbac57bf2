import FunaiSdk.Wire

/-!
# Keys, addresses and the cryptographic collaborators

The curve, the hash functions, the transaction id and the c32check decoder are outside the
repository; `Crypto` collects them, with the law that a signature recovers its signer's
public key. The key and address helpers over it are modelled from the spec: a derived public
key is lowercase hex, a key given as a string is kept as spelled, and an address is `S`, the
c32 digit of its version, and the c32 encoding of its hash and checksum.
-/

namespace FunaiSdk

/-- `PRIVATE_KEY_BYTES_COMPRESSED`. -/
def privateKeyBytesCompressed : Nat := 33

/-- The encoding of a private key's public key: compressed for a 33-byte key. -/
def privateKeyEncoding (privateKey : Bytes) : PubKeyEncoding :=
  if privateKey.length = privateKeyBytesCompressed then .compressed else .uncompressed

/-- The collaborators outside the repository. -/
structure Crypto where
  /-- The curve's public key of a private key, in the encoding `privateKeyEncoding` gives. -/
  publicKeyOf : Bytes → Bytes
  /-- A recoverable signature of a sighash. -/
  sign : Bytes → Bytes → Bytes
  recoverPublicKey : Bytes → Bytes → PubKeyEncoding → Bytes
  recover_sign : ∀ sigHash privateKey,
    recoverPublicKey sigHash (sign sigHash privateKey) (privateKeyEncoding privateKey) =
      publicKeyOf privateKey
  sha256 : Bytes → Bytes
  hash160 : Bytes → Bytes
  /-- SHA-512/256, under every sighash. -/
  txidFromData : Bytes → Bytes
  /-- The hash of a transaction's wire serialization, whose codec is outside this model. -/
  txid : Transaction → Bytes
  c32addressDecode : String → Except String (Nat × Bytes)

/-- A lawful instance of the collaborators for running the model on small inputs: every
private key has the public key `02ab`, signatures are empty, `sha256` is the identity and
`hash160` keeps the first 20 bytes, padded with zeros. -/
def toyCrypto : Crypto where
  publicKeyOf _ := [0x02, 0xab]
  sign _ _ := []
  recoverPublicKey _ _ _ := [0x02, 0xab]
  recover_sign _ _ := rfl
  sha256 := id
  hash160 bytes := (bytes ++ List.replicate 20 0).take 20
  txidFromData := id
  txid _ := []
  c32addressDecode _ := .error "Invalid c32 address"

/-- A private key of 32 bytes, whose toy public key is `02ab`. -/
def toyKey : String :=
  "0101010101010101010101010101010101010101010101010101010101010101"

variable (crypto : Crypto)

/-- A `PublicKey` or `PrivateKey` argument: a hex string or a `Uint8Array`. -/
inductive KeyInput
  | hex (key : String)
  | bytes (key : Bytes)

def publicKeyToHex : KeyInput → String
  | .hex key => key
  | .bytes key => bytesToHex key

def privateKeyToHex : KeyInput → String
  | .hex key => key
  | .bytes key => bytesToHex key

/-- Modelled from the spec: a private key is 32 bytes, or 33 ending in `01` for a key
whose public key is compressed. -/
def privateKeyToBytes (privateKey : KeyInput) : Except String Bytes := do
  let bytes ← match privateKey with
    | .hex key => hexToBytes key
    | .bytes key => pure key
  if bytes.length ≠ 32 ∧ bytes.length ≠ 33 then
    throw ("Improperly formatted private-key. Private-key byte length should be 32 or 33. " ++
      "Length provided: " ++ toString bytes.length)
  if bytes.length = 33 ∧ bytes.getLast? ≠ some 1 then
    throw "Improperly formatted private-key. 33 bytes indicate compressed key, but the last byte must be == 01"
  return bytes

/-- The key bytes of a `PublicKeyWire`. -/
def createFunaiPublicKey : KeyInput → Except String Bytes
  | .hex key => hexToBytes key
  | .bytes key => .ok key

/-- Modelled from the spec: the public key of a private key, as lowercase hex. -/
def privateKeyToPublic (privateKey : KeyInput) : Except String String := do
  let bytes ← privateKeyToBytes privateKey
  return bytesToHex (crypto.publicKeyOf bytes)

theorem privateKeyToPublic_ok {privateKey : KeyInput} {publicKey : String}
    (h : privateKeyToPublic crypto privateKey = .ok publicKey) :
    ∃ bytes, privateKeyToBytes privateKey = .ok bytes ∧
      bytesToHex (crypto.publicKeyOf bytes) = publicKey := by
  cases hb : privateKeyToBytes privateKey with
  | error e => simp [privateKeyToPublic, hb] at h
  | ok bytes =>
    simp only [privateKeyToPublic, hb, except_ok_bind, except_pure, Except.ok.injEq] at h
    exact ⟨bytes, rfl, h⟩

/-- An empty private key is refused, so it has no public key. -/
theorem privateKeyToPublic_hex_empty (publicKey : String) :
    privateKeyToPublic crypto (.hex "") ≠ .ok publicKey :=
  nofun

def isCompressed (key : Bytes) : Bool :=
  key.head? != some 0x04

/-- The encoding flag of a public key's bytes. -/
def publicKeyEncoding (key : Bytes) : PubKeyEncoding :=
  if isCompressed key then .compressed else .uncompressed

/-- `OP_m <keys> OP_n OP_CHECKMULTISIG`. -/
def multiSigScript (numSigs : Nat) (publicKeys : List Bytes) : Bytes :=
  (0x50 + numSigs).toUInt8 :: publicKeys.flatMap (fun key => key.length.toUInt8 :: key) ++
    [(0x50 + publicKeys.length).toUInt8, 0xae]

/-- Modelled from the spec: the address hash of a key list, which for a multi-sig mode
commits to the keys in their order. -/
def addressFromPublicKeys (version : Nat) (hashMode : AddressHashMode) (numSigs : Nat)
    (publicKeys : List Bytes) : Except String AddressWire :=
  if publicKeys = [] then .error "Invalid number of public keys" else
  match hashMode with
  | .singleSig mode =>
    match publicKeys, numSigs with
    | [key], 1 =>
      match mode with
      | .P2PKH => .ok ⟨version, crypto.hash160 key⟩
      | .P2WPKH =>
        if isCompressed key then .ok ⟨version, crypto.hash160 ([0x00, 0x14] ++ crypto.hash160 key)⟩
        else .error "Public keys must be compressed for segwit"
    | _, _ => .error "Invalid number of public keys or signatures"
  | .multiSig mode =>
    if 15 < numSigs ∨ 15 < publicKeys.length then
      .error "P2SH multisig address can only hold up to 15 public keys"
    else
      let script := multiSigScript numSigs publicKeys
      match mode with
      | .P2SH | .P2SHNonSequential => .ok ⟨version, crypto.hash160 script⟩
      | .P2WSH | .P2WSHNonSequential =>
        if publicKeys.all isCompressed then
          .ok ⟨version, crypto.hash160 ([0x00, 0x20] ++ crypto.sha256 script)⟩
        else .error "Public keys must be compressed for segwit"

def c32Alphabet : List Char :=
  "0123456789ABCDEFGHJKMNPQRSTVWXYZ".data

/-- The base-32 digits of `n`, most significant first, none for zero. -/
def base32Digits : Nat → Nat → List Nat
  | 0, _ => []
  | fuel + 1, n => if n = 0 then [] else base32Digits fuel (n / 32) ++ [n % 32]

/-- `c32encode`: one `0` per leading zero byte, then the base-32 digits of the number. -/
def c32encode (data : Bytes) : List Char :=
  List.replicate (data.takeWhile (· == 0)).length '0' ++
    (base32Digits (2 * data.length) (data.foldl (fun acc b => 256 * acc + b.toNat) 0)).map
      (c32Alphabet.getD · '0')

def c32checksum (version : Nat) (data : Bytes) : Bytes :=
  (crypto.sha256 (crypto.sha256 (version.toUInt8 :: data))).take 4

/-- `c32address` of the c32check library. -/
def c32address (version : Nat) (hash160 : Bytes) : Except String String :=
  if hash160.length ≠ 20 then .error "Invalid argument: not a hash160 hex string"
  else if 32 ≤ version then .error "Invalid version (must be between 0 and 31)"
  else .ok ⟨'S' :: c32Alphabet.getD version '0' ::
    c32encode (hash160 ++ c32checksum crypto version hash160)⟩

def createAddress (c32AddressString : String) : Except String AddressWire := do
  let (version, hash160) ← crypto.c32addressDecode c32AddressString
  return ⟨version, hash160⟩

/-- The value of c32 digits, most significant first; `none` for a character outside the
alphabet. -/
def c32Value (digits : List Char) : Option Nat :=
  digits.foldlM (fun acc ch => (List.indexOf? ch c32Alphabet).map (32 * acc + ·)) 0

/-- The `length` low bytes of `n`, most significant first. -/
def bytesOfNat (n : Nat) : Nat → Bytes
  | 0 => []
  | length + 1 => bytesOfNat (n / 256) length ++ [(n % 256).toUInt8]

/-- A c32check decoder of the addresses `c32address` builds from a 20-byte hash, with the
checksum taken under `sha256`: the version digit, then the hash and checksum read as one
base-32 number. -/
def c32addressDecodeUnder (sha256 : Bytes → Bytes) (address : String) :
    Except String (Nat × Bytes) :=
  match address.data with
  | 'S' :: versionChar :: digits =>
    match List.indexOf? versionChar c32Alphabet, c32Value digits with
    | some version, some value =>
      let data := bytesOfNat value 24
      if data.drop 20 = (sha256 (sha256 (version.toUInt8 :: data.take 20))).take 4 then
        .ok (version, data.take 20)
      else .error "Invalid c32check string: checksum mismatch"
    | _, _ => .error "Invalid c32 address: invalid characters"
  | _ => .error "Invalid c32 address: must start with S"

/-- A lawful instance in which keys differ: the public key of a private key is `02` followed
by its bytes, a signature carries the private key, so that recovery is exact, `sha256` is the
identity, `hash160` keeps the first 20 bytes, padded with zeros, and the c32 decoder reads
back what `c32address` writes. -/
def keyedCrypto : Crypto where
  publicKeyOf key := 0x02 :: key
  sign _ key := key
  recoverPublicKey _ signature _ := 0x02 :: signature
  recover_sign _ _ := rfl
  sha256 := id
  hash160 bytes := (bytes ++ List.replicate 20 0).take 20
  txidFromData := id
  txid _ := []
  c32addressDecode := c32addressDecodeUnder id

/-- Modelled from the spec: the single-sig address of a public key. -/
def publicKeyToAddress (version : Nat) (publicKey : String) : Except String String := do
  let bytes ← hexToBytes publicKey
  c32address crypto version (crypto.hash160 bytes)

def getAddressFromPrivateKey (privateKey : KeyInput) (network : FunaiNetwork) :
    Except String String := do
  let publicKey ← privateKeyToPublic crypto privateKey
  publicKeyToAddress crypto network.addressVersion.singleSig publicKey

/-- An `IntegerType` value: a JavaScript number, taken integral, or a bigint. -/
inductive IntegerType
  | number (value : Int)
  | bigint (value : Int)

/-- A value a caller may leave out: absent, present as `undefined` or `null`, or given. -/
inductive JsOpt (α : Type)
  | absent
  | undefined
  | null
  | value (a : α)

/-- `x == null`: absent, `undefined` and `null` alike. -/
def JsOpt.isNullish {α : Type} : JsOpt α → Bool
  | .value _ => false
  | _ => true

/-- `x === undefined || x === null`, the spelling of `x == null` in some builders. -/
def JsOpt.isUndefinedOrNull {α : Type} : JsOpt α → Bool
  | .value _ => false
  | .absent | .undefined | .null => true

@[simp] theorem JsOpt.isUndefinedOrNull_eq_isNullish {α : Type} (o : JsOpt α) :
    o.isUndefinedOrNull = o.isNullish := by
  cases o <;> rfl

/-- A boolean option read for its truthiness. -/
def JsOpt.isTrue : JsOpt Bool → Bool
  | .value b => b
  | _ => false

/-- A string option read for its truthiness: given and not empty. -/
def JsOpt.nonEmpty : JsOpt String → Option String
  | .value s => if s = "" then none else some s
  | _ => none

/-- The value of a given key: `x ?? fallback` is `x.toOption.getD fallback`. -/
def JsOpt.toOption {α : Type} : JsOpt α → Option α
  | .value a => some a
  | _ => none

/-- `Object.assign(defaults, options)`: a key the options carry replaces the default, also
when its value is `undefined` or `null`. -/
def JsOpt.assign {α : Type} (default : α) : JsOpt α → JsOpt α
  | .absent => .value default
  | o => o

def IntegerType.toInt : IntegerType → Int
  | .number value => value
  | .bigint value => value

/-- Modelled from the spec: a fee or nonce is an integer, so no other value converts. -/
def intToBigInt : JsOpt IntegerType → Except String Int
  | .value n => .ok n.toInt
  | _ => .error
    "intToBigInt: Invalid value type. Must be a number, bigint, BigInt-compatible string, or Uint8Array."

def emptyMessageSignature : Bytes := List.replicate 65 0

/-- Modelled from the spec: a single-sig condition with an empty signature. -/
def createSingleSigSpendingCondition (hashMode : SingleSigHashMode) (pubKey : KeyInput)
    (nonce fee : JsOpt IntegerType) : Except String SpendingCondition := do
  let key ← createFunaiPublicKey pubKey
  let address ← addressFromPublicKeys crypto 0 (.singleSig hashMode) 1 [key]
  let nonce ← intToBigInt nonce
  let fee ← intToBigInt fee
  return .singleSig ⟨hashMode, address.hash160, nonce, fee, publicKeyEncoding key,
    emptyMessageSignature⟩

/-- Modelled from the spec: a multi-sig condition with no fields yet, whose signer is the
address hash of the keys in the order given. -/
def createMultiSigSpendingCondition (hashMode : MultiSigHashMode) (numSigs : Nat)
    (pubKeys : List String) (nonce fee : JsOpt IntegerType) : Except String SpendingCondition := do
  let keys ← pubKeys.mapM (createFunaiPublicKey ∘ .hex)
  let address ← addressFromPublicKeys crypto 0 (.multiSig hashMode) numSigs keys
  let nonce ← intToBigInt nonce
  let fee ← intToBigInt fee
  return .multiSig ⟨hashMode, address.hash160, nonce, fee, [], numSigs⟩

theorem createSingleSigSpendingCondition_ok {hashMode : SingleSigHashMode} {pubKey : KeyInput}
    {nonce fee : JsOpt IntegerType} {condition : SpendingCondition}
    (h : createSingleSigSpendingCondition crypto hashMode pubKey nonce fee = .ok condition) :
    ∃ key address, createFunaiPublicKey pubKey = .ok key ∧
      addressFromPublicKeys crypto 0 (.singleSig hashMode) 1 [key] = .ok address ∧
      condition.signer = address.hash160 ∧ condition.hashMode = .singleSig hashMode ∧
      intToBigInt nonce = .ok condition.nonce ∧ intToBigInt fee = .ok condition.fee := by
  simp only [createSingleSigSpendingCondition, except_bind_eq_ok, except_pure,
    Except.ok.injEq] at h
  obtain ⟨key, hkey, address, haddress, nonce', hnonce, fee', hfee, rfl⟩ := h
  exact ⟨key, address, hkey, haddress, rfl, rfl, hnonce, hfee⟩

/-- The placeholder sponsor of `createSponsoredAuth`: the P2PKH condition of the all-zero
key with fee and nonce 0. -/
def defaultSponsorSpendingCondition : SpendingCondition :=
  .singleSig ⟨.P2PKH, crypto.hash160 (List.replicate 33 0), 0, 0, .compressed,
    emptyMessageSignature⟩

def createStandardAuth (spendingCondition : SpendingCondition) : Authorization :=
  .standard spendingCondition

def createSponsoredAuth (spendingCondition : SpendingCondition)
    (sponsorSpendingCondition : Option SpendingCondition := none) : Authorization :=
  .sponsored spendingCondition (sponsorSpendingCondition.getD (defaultSponsorSpendingCondition crypto))

@[simp] theorem spendingCondition_createStandardAuth (c : SpendingCondition) :
    (createStandardAuth c).spendingCondition = c := rfl

@[simp] theorem spendingCondition_createSponsoredAuth (c : SpendingCondition)
    (sponsor : Option SpendingCondition) :
    (createSponsoredAuth crypto c sponsor).spendingCondition = c := rfl

@[simp] theorem authType_createStandardAuth (c : SpendingCondition) :
    (createStandardAuth c).authType = .standard := rfl

@[simp] theorem authType_createSponsoredAuth (c : SpendingCondition)
    (sponsor : Option SpendingCondition) :
    (createSponsoredAuth crypto c sponsor).authType = .sponsored := rfl

end FunaiSdk
