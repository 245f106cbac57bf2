import FunaiSdk.Verify
import FunaiSdk.Message
import Mathlib.Algebra.Group.Int

/-!
# The node API: task submission and stake queries

`submitInferenceTask` and `submitEncryptedInferenceTask` sign an infer transaction with
`makeInfer`, then send the signer a request that repeats its amount, fee and nonce through
`Number(...)`, the fee and nonce only when truthy: a fee or nonce of 0 is committed by the
transaction and left out of the request. `getInferStakeInfo` passes the read-only call
`0x0516` and the address's c32 characters, too few to be the principal's serialization.
-/

namespace FunaiSdk

variable {σ : Type} (c : Collaborators) (crypto : Crypto)

def bitLengthAux : Nat → Nat → Nat
  | 0, _ => 0
  | fuel + 1, n => if n = 0 then 0 else bitLengthAux fuel (n / 2) + 1

/-- The number of binary digits of `n`. -/
def bitLength (n : Nat) : Nat := bitLengthAux n n

/-- The double nearest to `n`: its leading 53 bits, rounded half to even. -/
def roundToDouble (n : Nat) : Nat :=
  let shift := bitLength n - 53
  let q := n / 2 ^ shift
  let r := n % 2 ^ shift
  let half := 2 ^ shift / 2
  (if half < r ∨ (r = half ∧ 0 < shift ∧ q % 2 = 1) then q + 1 else q) * 2 ^ shift

/-- `Number(value)` of a bigint: the nearest double, infinite, with the bigint's sign, from
`2^1024` on, the first power of two past the largest double. -/
def bigIntToNumber (value : Int) : JsNumber :=
  let magnitude := roundToDouble value.natAbs
  if 1024 < bitLength magnitude then .infinite (decide (value < 0))
  else .finite (if value < 0 then -(magnitude : Int) else magnitude)

/-- `Number(x)` of an `IntegerType`: a number is itself, a bigint is rounded. -/
def IntegerType.toNumber : IntegerType → JsNumber
  | .number value => .finite value
  | .bigint value => bigIntToNumber value

/-- `x ? Number(x) : undefined`: an omitted value, `0` and `0n` are falsy. -/
def numberIfTruthy : JsOpt IntegerType → Option JsNumber
  | .value v => if v.toInt = 0 then none else some v.toNumber
  | _ => none

/-- `{ key: options.key }`: the key is in the new object, `undefined` when the options lack
it. -/
def JsOpt.passed {α : Type} : JsOpt α → JsOpt α
  | .absent => .undefined
  | o => o

theorem bitLengthAux_le : ∀ {fuel n k : Nat}, n < 2 ^ k → bitLengthAux fuel n ≤ k
  | 0, _, _, _ => Nat.zero_le _
  | fuel + 1, n, k, h => by
    unfold bitLengthAux
    split
    · exact Nat.zero_le _
    · obtain _ | k := k
      · omega
      · have : n / 2 < 2 ^ k := Nat.div_lt_of_lt_mul (by rw [Nat.pow_succ] at h; omega)
        exact Nat.succ_le_succ (bitLengthAux_le this)

theorem roundToDouble_of_lt {n : Nat} (h : n < 2 ^ 53) : roundToDouble n = n := by
  have hshift : bitLength n - 53 = 0 := Nat.sub_eq_zero_of_le (bitLengthAux_le h)
  simp [roundToDouble, hshift, Nat.mod_one]

/-- Below `2^53` a bigint converts exactly. -/
theorem bigIntToNumber_of_lt {value : Int} (h : value.natAbs < 2 ^ 53) :
    bigIntToNumber value = .finite value := by
  have hround := roundToDouble_of_lt h
  have hsmall : ¬ 1024 < bitLength value.natAbs := by
    have := @bitLengthAux_le value.natAbs _ _ h
    unfold bitLength
    omega
  simp only [bigIntToNumber, hround, hsmall, if_false, JsNumber.finite.injEq]
  split <;> omega

theorem toNumber_of_lt {v : IntegerType} (h : v.toInt.natAbs < 2 ^ 53) :
    v.toNumber = .finite v.toInt := by
  cases v with
  | number value => rfl
  | bigint value =>
    simp only [IntegerType.toNumber, IntegerType.toInt] at h ⊢
    exact bigIntToNumber_of_lt h

/-- The fields of a `FunaiNodeApi` the methods read. -/
structure FunaiNodeApi where
  baseUrl : String
  network : FunaiNetwork

/-- The options of `submitInferenceTask`. The `nodePrincipal` it passes on is not read by
`makeUnsignedInfer`, which puts the null principal in the payload. -/
structure SubmitInferenceOptions where
  privateKey : String
  userInput : String
  context : String
  modelName : String
  amount : IntegerType
  maxInferTime : Nat
  fee : JsOpt IntegerType := .absent
  nonce : JsOpt IntegerType := .absent
  taskId : JsOpt String := .absent

/-- The options `submitEncryptedInferenceTask` reads. -/
structure EncryptedInferOptions extends SubmitInferenceOptions where
  encrypt : JsOpt Bool := .absent

/-- The `InferStakeInfo` of a staked node. -/
structure InferStakeInfo where
  isStaked : Bool
  rawResult : String

namespace FunaiNodeApi

variable (api : FunaiNodeApi)

def submitInferTask (request : SubmitTaskRequest) : Run σ String :=
  FunaiSdk.request (.submitInferTask request) (c.submitInferTask request)

/-- `getSignerPublicKey()`, read for its `public_key`. -/
def getSignerPublicKey : Run σ String :=
  FunaiSdk.request .getSignerPublicKey c.getSignerPublicKey

def encryptWithPublicKey (plaintext recipientPublicKeyHex : String) : Run σ String :=
  liftExcept (c.encryptForSigner plaintext recipientPublicKeyHex)

/-- The infer options `makeInfer` gets from a submission: the fee and nonce keys are always
present, `undefined` when the caller gave none. -/
def inferOptions (options : SubmitInferenceOptions) (userAddress txUserInput txContext : String) :
    InferOptions :=
  { inferUserAddress := userAddress, amount := options.amount, userInput := txUserInput,
    context := txContext, modelName := options.modelName,
    network := .value (.network api.network), fee := options.fee.passed,
    nonce := options.nonce.passed }

def submitInferenceTask (options : SubmitInferenceOptions) : Run σ String := do
  let userAddress ← liftExcept
    (getAddressFromPrivateKey crypto (.hex options.privateKey) api.network)
  let transaction ← makeInfer c crypto
    (api.inferOptions options userAddress options.userInput options.context)
    (.singleSig (.hex options.privateKey))
  submitInferTask c
    { taskId := options.taskId.toOption, userAddress, userInput := options.userInput,
      context := options.context, modelName := options.modelName,
      inferFee := options.amount.toNumber, maxInferTime := options.maxInferTime,
      fee := numberIfTruthy options.fee, nonce := numberIfTruthy options.nonce,
      signedTx := transaction, isEncrypted := none, signerPublicKey := none }

/-- What an encrypted submission sends the signer, and the placeholders it commits on
chain. -/
structure TaskInputs where
  apiUserInput : String
  apiContext : String
  signerPublicKey : Option String
  txUserInput : String
  txContext : String

/-- The `if (shouldEncrypt) { ... }` block: the inputs are encrypted for the signer, and the
transaction carries `enc:` and 16 hex digits of the hash of each. -/
def taskInputs (shouldEncrypt : Bool) (userInput context : String) : Run σ TaskInputs :=
  if shouldEncrypt then do
    let signerPublicKey ← getSignerPublicKey c
    let apiUserInput ← encryptWithPublicKey c userInput signerPublicKey
    let apiContext ← encryptWithPublicKey c context signerPublicKey
    let inputHash := (bytesToHex (crypto.sha256 (Message.utf8ToBytes apiUserInput))).take 16
    let contextHash := (bytesToHex (crypto.sha256 (Message.utf8ToBytes apiContext))).take 16
    pure ⟨apiUserInput, apiContext, some signerPublicKey, "enc:" ++ inputHash,
      "enc:" ++ contextHash⟩
  else pure ⟨userInput, context, none, userInput, context⟩

def submitEncryptedInferenceTask (options : EncryptedInferOptions) : Run σ String := do
  let shouldEncrypt := !(options.encrypt matches .value false)
  let userAddress ← liftExcept
    (getAddressFromPrivateKey crypto (.hex options.privateKey) api.network)
  let inputs ← taskInputs c crypto shouldEncrypt options.userInput options.context
  let transaction ← makeInfer c crypto
    (api.inferOptions options.toSubmitInferenceOptions userAddress inputs.txUserInput
      inputs.txContext)
    (.singleSig (.hex options.privateKey))
  submitInferTask c
    { taskId := options.taskId.toOption, userAddress, userInput := inputs.apiUserInput,
      context := inputs.apiContext, modelName := options.modelName,
      inferFee := options.amount.toNumber, maxInferTime := options.maxInferTime,
      fee := numberIfTruthy options.fee, nonce := numberIfTruthy options.nonce,
      signedTx := transaction, isEncrypted := some shouldEncrypt,
      signerPublicKey := inputs.signerPublicKey }

/-- The read-only call of `getInferStakeInfo`, whose argument splices the address. -/
def getInferStakeInfo (nodeAddress : String) : Run σ (Option InferStakeInfo) := do
  let url := api.baseUrl ++
    "/v2/contracts/call-read/ST000000000000000000002AMW42H/pox-4/infer-get-stake-info"
  let arguments := ["0x0516" ++ nodeAddress.drop 2]
  let result ← FunaiSdk.request (.callReadOnly url nodeAddress arguments)
    (c.callReadOnly url nodeAddress arguments)
  if result.okay ∧ result.result ≠ "0x09" then return some ⟨true, result.result⟩
  else return none

end FunaiNodeApi

/-- `x ? Number(x) : undefined` of a given value below `2^53`: the value itself, or nothing at
`0`. -/
theorem numberIfTruthy_value {v : IntegerType} (h : v.toInt.natAbs < 2 ^ 53) :
    numberIfTruthy (.value v) = if v.toInt = 0 then none else some (.finite v.toInt) := by
  simp only [numberIfTruthy, toNumber_of_lt h]

/-- `{ key: options.key }` keeps a key given a value, and only then is it not nullish. -/
theorem JsOpt.passed_eq_value {α : Type} {o : JsOpt α} (h : o.passed.isExplicitNullish = false) :
    ∃ v, o = .value v ∧ o.passed = .value v := by
  cases o <;> simp_all [JsOpt.passed, JsOpt.isExplicitNullish]

/-- What a task request says of the transaction it carries, against the submission's
`options`: the infer payload names the request's user and model and the options' amount,
which the request gives as `Number`; the options gave a fee and a nonce, which the origin of a
standard authorization commits and the request gives as `Number` when truthy. -/
def RequestAgrees (options : SubmitInferenceOptions) (request : SubmitTaskRequest) : Prop :=
  (∃ txUserInput txContext, request.signedTx.payload = createInferPayload request.userAddress
    options.amount.toInt txUserInput txContext inferNodePrincipal request.modelName) ∧
  request.modelName = options.modelName ∧ request.inferFee = options.amount.toNumber ∧
  request.signedTx.auth.authType = .standard ∧
  ∃ fee nonce, options.fee = .value fee ∧ options.nonce = .value nonce ∧
    request.signedTx.auth.spendingCondition.fee = fee.toInt ∧
    request.fee = numberIfTruthy (.value fee) ∧
    request.signedTx.auth.spendingCondition.nonce = nonce.toInt ∧
    request.nonce = numberIfTruthy (.value nonce)

section Submission

variable {c crypto} {w w' : World σ} {t : Transaction}

/-- The law of a build whose fee and nonce keys were passed on from options that may lack
them: both were given, and the origin commits them. -/
theorem FeeNonceLaw.of_passed {fee nonce : JsOpt IntegerType} {options : BaseOptions}
    {calls : List Call} (hfee : options.fee = fee.passed) (hnonce : options.nonce = nonce.passed)
    (h : FeeNonceLaw c options calls t) :
    ∃ f n, fee = .value f ∧ nonce = .value n ∧
      (t.auth.authType = .standard → t.auth.spendingCondition.fee = f.toInt) ∧
      t.auth.spendingCondition.nonce = n.toInt := by
  obtain ⟨hfeeNullish, hnonceNullish, hfeeFilled, hnonceFilled⟩ := h
  rw [hfee] at hfeeNullish hfeeFilled
  rw [hnonce] at hnonceNullish hnonceFilled
  obtain ⟨f, rfl, hf⟩ := JsOpt.passed_eq_value hfeeNullish
  obtain ⟨n, rfl, hn⟩ := JsOpt.passed_eq_value hnonceNullish
  rw [hf] at hfeeFilled
  rw [hn] at hnonceFilled
  exact ⟨f, n, rfl, rfl, hfeeFilled.2, hnonceFilled.2⟩

/-- A returned signed infer build carries the infer payload of its options, under a standard
authorization unless sponsored. -/
theorem makeInfer_singleSig_ok {txOptions : InferOptions} {senderKey : KeyInput}
    (h : makeInfer c crypto txOptions (.singleSig senderKey) w = .ok t w') :
    t.payload = createInferPayload txOptions.inferUserAddress txOptions.amount.toInt
      txOptions.userInput txOptions.context inferNodePrincipal txOptions.modelName ∧
    (txOptions.sponsored.isTrue = false → t.auth.authType = .standard) := by
  have hb : (Build.infer txOptions).signed c crypto (.singleSig senderKey) w = .ok t w' := h
  obtain ⟨_, _, hunsigned, hpayload, htype⟩ := Build.signed_singleSig_frame hb
  obtain ⟨hp, hstandard⟩ := buildUnsigned_payload hunsigned
  exact ⟨hpayload.trans (Except.ok.inj hp).symm, fun hs => htype.trans (hstandard hs)⟩

/-- The request both submissions build agrees with the transaction `makeInfer` returned for
the same options. -/
theorem requestAgrees_of_makeInfer (api : FunaiNodeApi) {options : SubmitInferenceOptions}
    {userAddress txUserInput txContext : String} {senderKey : KeyInput}
    {request : SubmitTaskRequest}
    (h : makeInfer c crypto (api.inferOptions options userAddress txUserInput txContext)
      (.singleSig senderKey) w = .ok request.signedTx w')
    (huser : request.userAddress = userAddress) (hmodel : request.modelName = options.modelName)
    (hamount : request.inferFee = options.amount.toNumber)
    (hfee : request.fee = numberIfTruthy options.fee)
    (hnonce : request.nonce = numberIfTruthy options.nonce) :
    RequestAgrees options request := by
  obtain ⟨hp, htype⟩ := makeInfer_singleSig_ok h
  have hstandard := htype rfl
  have hb : (Build.infer (api.inferOptions options userAddress txUserInput txContext)).signed c
      crypto (.singleSig senderKey) w = .ok request.signedTx w' := h
  obtain ⟨_, -, hlaw⟩ := Build.signed_feeNonceLaw _ hb
  obtain ⟨fee, nonce, hfee_eq, hnonce_eq, hfeeCommitted, hnonceCommitted⟩ := hlaw.of_passed rfl rfl
  refine ⟨⟨txUserInput, txContext, by rw [huser, hmodel]; exact hp⟩, hmodel, hamount, hstandard,
    fee, nonce, hfee_eq, hnonce_eq, hfeeCommitted hstandard, hfee_eq ▸ hfee, hnonceCommitted,
    hnonce_eq ▸ hnonce⟩

end Submission

/-- A returned submission, plain or encrypted, sent the signer a request, last, that agrees
with the signed transaction it carries. -/
theorem submitted_request_agrees (api : FunaiNodeApi) :
    (∀ (options : SubmitInferenceOptions) (w : World σ) r w',
      api.submitInferenceTask c crypto options w = .ok r w' →
      ∃ calls request, w'.calls = calls ++ [.submitInferTask request] ∧
        RequestAgrees options request) ∧
    (∀ (options : EncryptedInferOptions) (w : World σ) r w',
      api.submitEncryptedInferenceTask c crypto options w = .ok r w' →
      ∃ calls request, w'.calls = calls ++ [.submitInferTask request] ∧
        RequestAgrees options.toSubmitInferenceOptions request) := by
  constructor
  · intro options w r w' h
    simp only [FunaiNodeApi.submitInferenceTask, FunaiNodeApi.submitInferTask, bind_ok,
      liftExcept_apply_ok, request_apply_ok] at h
    obtain ⟨userAddress, _, ⟨-, rfl⟩, t, w₁, hmake, -, rfl⟩ := h
    exact ⟨_, _, World.calls_log _ _, requestAgrees_of_makeInfer api hmake rfl rfl rfl rfl rfl⟩
  · intro options w r w' h
    simp only [FunaiNodeApi.submitEncryptedInferenceTask, FunaiNodeApi.submitInferTask, bind_ok,
      liftExcept_apply_ok, request_apply_ok] at h
    obtain ⟨userAddress, _, ⟨-, rfl⟩, inputs, w₁, -, t, w₂, hmake, -, rfl⟩ := h
    exact ⟨_, _, World.calls_log _ _, requestAgrees_of_makeInfer api hmake rfl rfl rfl rfl rfl⟩

/-- The text the transaction carries for an input the request sends: the input itself, or,
encrypted, `enc:` and the first 16 hex digits of the SHA-256 of its UTF-8 bytes. -/
def committedInput (shouldEncrypt : Bool) (apiInput : String) : String :=
  if shouldEncrypt then
    "enc:" ++ (bytesToHex (crypto.sha256 (Message.utf8ToBytes apiInput))).take 16
  else apiInput

/-- What the transaction of a task request commits: its infer payload carries the request's
user address and the committed forms of the request's inputs, that address is the address of
the transaction's origin on the API's network, and the origin signed it with the caller's
key. -/
def RequestCommitted (api : FunaiNodeApi) (options : SubmitInferenceOptions)
    (shouldEncrypt : Bool) (request : SubmitTaskRequest) : Prop :=
  request.signedTx.payload = createInferPayload request.userAddress options.amount.toInt
    (committedInput crypto shouldEncrypt request.userInput)
    (committedInput crypto shouldEncrypt request.context) inferNodePrincipal options.modelName ∧
  c32address crypto api.network.addressVersion.singleSig
    request.signedTx.auth.spendingCondition.signer = .ok request.userAddress ∧
  ∃ privateKey, privateKeyToBytes (.hex options.privateKey) = .ok privateKey ∧
    OriginSigned crypto request.signedTx privateKey

section Commitment

variable {c crypto} {w w' : World σ} {t : Transaction}

/-- The inputs of a returned `if (shouldEncrypt)` block: the transaction's are the committed
forms of the request's, which are the caller's or their encryptions for the signer. -/
theorem taskInputs_ok {shouldEncrypt : Bool} {userInput context : String} {inputs : FunaiNodeApi.TaskInputs}
    (h : FunaiNodeApi.taskInputs c crypto shouldEncrypt userInput context w = .ok inputs w') :
    inputs.txUserInput = committedInput crypto shouldEncrypt inputs.apiUserInput ∧
    inputs.txContext = committedInput crypto shouldEncrypt inputs.apiContext ∧
    if shouldEncrypt then ∃ signerPublicKey, c.getSignerPublicKey = .ok signerPublicKey ∧
      inputs.signerPublicKey = some signerPublicKey ∧
      c.encryptForSigner userInput signerPublicKey = .ok inputs.apiUserInput ∧
      c.encryptForSigner context signerPublicKey = .ok inputs.apiContext
    else inputs.signerPublicKey = none ∧ inputs.apiUserInput = userInput ∧
      inputs.apiContext = context := by
  cases shouldEncrypt with
  | false =>
    simp only [FunaiNodeApi.taskInputs, Bool.false_eq_true, if_false, pure_apply,
      EStateM.Result.ok.injEq] at h
    obtain ⟨rfl, rfl⟩ := h
    exact ⟨rfl, rfl, rfl, rfl, rfl⟩
  | true =>
    simp only [FunaiNodeApi.taskInputs, if_true, bind_ok, FunaiNodeApi.getSignerPublicKey,
      FunaiNodeApi.encryptWithPublicKey, request_apply_ok, liftExcept_apply_ok, pure_apply,
      EStateM.Result.ok.injEq] at h
    obtain ⟨signerPublicKey, _, ⟨hkey, rfl⟩, _, _, ⟨huser, rfl⟩, _, _, ⟨hcontext, rfl⟩, rfl,
      rfl⟩ := h
    exact ⟨rfl, rfl, signerPublicKey, hkey, rfl, huser, hcontext⟩

/-- A returned infer build for a submission carries the inputs it was given, its origin is
the account whose address the submission names, and that origin signed it with the caller's
key. -/
theorem makeInfer_commits (api : FunaiNodeApi) {options : SubmitInferenceOptions}
    {userAddress txUserInput txContext : String}
    (haddress : getAddressFromPrivateKey crypto (.hex options.privateKey) api.network =
      .ok userAddress)
    (h : makeInfer c crypto (api.inferOptions options userAddress txUserInput txContext)
      (.singleSig (.hex options.privateKey)) w = .ok t w') :
    t.payload = createInferPayload userAddress options.amount.toInt txUserInput txContext
      inferNodePrincipal options.modelName ∧
    c32address crypto api.network.addressVersion.singleSig t.auth.spendingCondition.signer =
      .ok userAddress ∧
    ∃ privateKey, privateKeyToBytes (.hex options.privateKey) = .ok privateKey ∧
      OriginSigned crypto t privateKey := by
  obtain ⟨privateKey, hprivate, hmode, hsigned⟩ :=
    Build.signed_singleSig_verifies c crypto (.infer _) _ h
  refine ⟨(makeInfer_singleSig_ok h).1, ?_, privateKey, hprivate, hsigned⟩
  rw [hsigned.signer_of_P2PKH crypto hmode]
  simp only [getAddressFromPrivateKey, except_bind_eq_ok] at haddress
  obtain ⟨publicKey, hpublic, haddress⟩ := haddress
  obtain ⟨bytes, hbytes, rfl⟩ := privateKeyToPublic_ok crypto hpublic
  rw [hprivate, Except.ok.injEq] at hbytes
  subst hbytes
  simpa [publicKeyToAddress] using haddress

end Commitment

/-- A returned submission sent a request, last, whose transaction commits the inputs the
request carries, as they are or, encrypted, by a prefix of their hash; names as user the
address of its own origin; and is signed by the caller's key. A plain submission sends the caller's inputs; an encrypted one,
unless `encrypt` is `false`, sends their encryptions under the signer's public key. -/
theorem submitted_inputs_committed (api : FunaiNodeApi) :
    (∀ (options : SubmitInferenceOptions) (w : World σ) r w',
      api.submitInferenceTask c crypto options w = .ok r w' →
      ∃ calls request, w'.calls = calls ++ [.submitInferTask request] ∧
        request.userInput = options.userInput ∧ request.context = options.context ∧
        RequestCommitted crypto api options false request) ∧
    (∀ (options : EncryptedInferOptions) (w : World σ) r w',
      api.submitEncryptedInferenceTask c crypto options w = .ok r w' →
      ∃ calls request shouldEncrypt, w'.calls = calls ++ [.submitInferTask request] ∧
        (shouldEncrypt = false ↔ options.encrypt = .value false) ∧
        request.isEncrypted = some shouldEncrypt ∧
        RequestCommitted crypto api options.toSubmitInferenceOptions shouldEncrypt request ∧
        if shouldEncrypt then ∃ signerPublicKey, c.getSignerPublicKey = .ok signerPublicKey ∧
          request.signerPublicKey = some signerPublicKey ∧
          c.encryptForSigner options.userInput signerPublicKey = .ok request.userInput ∧
          c.encryptForSigner options.context signerPublicKey = .ok request.context
        else request.signerPublicKey = none ∧ request.userInput = options.userInput ∧
          request.context = options.context) := by
  constructor
  · intro options w r w' h
    simp only [FunaiNodeApi.submitInferenceTask, FunaiNodeApi.submitInferTask, bind_ok,
      liftExcept_apply_ok, request_apply_ok] at h
    obtain ⟨userAddress, _, ⟨haddress, rfl⟩, t, w₁, hmake, -, rfl⟩ := h
    exact ⟨_, _, World.calls_log _ _, rfl, rfl, makeInfer_commits api haddress hmake⟩
  · intro options w r w' h
    simp only [FunaiNodeApi.submitEncryptedInferenceTask, FunaiNodeApi.submitInferTask, bind_ok,
      liftExcept_apply_ok, request_apply_ok] at h
    obtain ⟨userAddress, _, ⟨haddress, rfl⟩, inputs, w₁, hinputs, t, w₂, hmake, -, rfl⟩ := h
    obtain ⟨huser, hcontext, hencrypted⟩ := taskInputs_ok hinputs
    rw [huser, hcontext] at hmake
    refine ⟨_, _, _, World.calls_log _ _, ?_, rfl, makeInfer_commits api haddress hmake,
      hencrypted⟩
    rcases options.encrypt with _ | _ | _ | _ | _ <;> simp

/-- An encrypted submission with the `encrypt` key absent. -/
def toyEncryptedSubmission : EncryptedInferOptions :=
  { privateKey := toyKey, userInput := "hi", context := "", modelName := "m",
    amount := .bigint 1, maxInferTime := 60, fee := .value (.bigint 1),
    nonce := .value (.bigint 0) }

theorem submitted_inputs_committed_encrypted :
    ∃ r w', (⟨"http://localhost:20443", funaiTestnet⟩ : FunaiNodeApi).submitEncryptedInferenceTask
        toyServices toyCrypto toyEncryptedSubmission (⟨[], ()⟩ : World Unit) = .ok r w' ∧
      ∃ calls request shouldEncrypt, w'.calls = calls ++ [.submitInferTask request] ∧
        (shouldEncrypt = false ↔ toyEncryptedSubmission.encrypt = .value false) ∧
        request.isEncrypted = some shouldEncrypt ∧
        RequestCommitted toyCrypto ⟨"http://localhost:20443", funaiTestnet⟩
          toyEncryptedSubmission.toSubmitInferenceOptions shouldEncrypt request ∧
        if shouldEncrypt then ∃ signerPublicKey,
          toyServices.getSignerPublicKey = .ok signerPublicKey ∧
          request.signerPublicKey = some signerPublicKey ∧
          toyServices.encryptForSigner "hi" signerPublicKey = .ok request.userInput ∧
          toyServices.encryptForSigner "" signerPublicKey = .ok request.context
        else request.signerPublicKey = none ∧ request.userInput = "hi" ∧ request.context = "" :=
  let ⟨r, w', h⟩ : ∃ r w', (⟨"http://localhost:20443", funaiTestnet⟩ :
      FunaiNodeApi).submitEncryptedInferenceTask toyServices toyCrypto toyEncryptedSubmission
      (⟨[], ()⟩ : World Unit) = .ok r w' := ⟨_, _, rfl⟩
  ⟨r, w', h, (submitted_inputs_committed toyServices toyCrypto _).2 _ _ _ _ h⟩

/-- A plain submission giving the fee `0` and the nonce `0`. -/
def zeroFeeSubmission : SubmitInferenceOptions :=
  { privateKey := toyKey, userInput := "hi", context := "", modelName := "m",
    amount := .bigint 1, maxInferTime := 60, fee := .value (.bigint 0),
    nonce := .value (.bigint 0) }

/-- Given the fee `0` and the nonce `0`, a submission's transaction commits both, while its
request leaves both out. -/
theorem submitInferenceTask_zero_fee_nonce_dropped :
    ∃ r w', (⟨"http://localhost:20443", funaiTestnet⟩ : FunaiNodeApi).submitInferenceTask
        toyServices toyCrypto zeroFeeSubmission (⟨[], ()⟩ : World Unit) = .ok r w' ∧
      ∃ request, w'.calls = [.submitInferTask request] ∧
        request.signedTx.auth.spendingCondition.fee = 0 ∧
        request.signedTx.auth.spendingCondition.nonce = 0 ∧
        request.fee = none ∧ request.nonce = none :=
  ⟨_, _, rfl, _, rfl, rfl, rfl, rfl, rfl⟩

/-- Modelled from the spec: the Clarity serialization of a standard principal, the type
byte `0x05`, the address version and the 20-byte `hash160`, as a read-only call argument. -/
def principalArgument (version : Nat) (hash160 : Bytes) : String :=
  "0x" ++ bytesToHex (0x05 :: version.toUInt8 :: hash160)

theorem length_base32Digits_le : ∀ {fuel n m : Nat}, n < 32 ^ m →
    (base32Digits fuel n).length ≤ m
  | 0, _, _, _ => Nat.zero_le _
  | fuel + 1, n, m, h => by
    unfold base32Digits
    split
    · exact Nat.zero_le _
    · obtain _ | m := m
      · omega
      · have : n / 32 < 32 ^ m := Nat.div_lt_of_lt_mul (by rw [Nat.pow_succ] at h; omega)
        simpa using length_base32Digits_le this

/-- The value `c32encode` reads from its bytes, big-endian. -/
theorem foldl_bytes_lt (bytes : Bytes) (acc : Nat) :
    bytes.foldl (fun acc b => 256 * acc + b.toNat) acc < (acc + 1) * 256 ^ bytes.length := by
  induction bytes generalizing acc with
  | nil => simp
  | cons b bs ih =>
    have hb := toNat_lt_256 b
    calc (b :: bs).foldl (fun acc b => 256 * acc + b.toNat) acc
        = bs.foldl (fun acc b => 256 * acc + b.toNat) (256 * acc + b.toNat) := rfl
      _ < (256 * acc + b.toNat + 1) * 256 ^ bs.length := ih _
      _ ≤ (acc + 1) * 256 ^ (b :: bs).length := by
        rw [List.length_cons, Nat.pow_succ', ← Nat.mul_assoc]
        apply Nat.mul_le_mul_right
        omega

/-- Leading zero bytes add nothing to the value. -/
theorem foldl_dropWhile_zero (bytes : Bytes) :
    bytes.foldl (fun acc b => 256 * acc + b.toNat) 0 =
      (bytes.dropWhile (· == 0)).foldl (fun acc b => 256 * acc + b.toNat) 0 := by
  induction bytes with
  | nil => rfl
  | cons b bs ih =>
    by_cases hb : b = 0
    · subst hb
      simpa using ih
    · simp [List.dropWhile_cons, hb]

/-- Five bits a digit, and one `0` for each leading zero byte. -/
theorem length_c32encode (data : Bytes) : (c32encode data).length ≤ (8 * data.length + 4) / 5 := by
  have hsplit := congrArg List.length (List.takeWhile_append_dropWhile (· == 0) data)
  rw [List.length_append] at hsplit
  have hvalue := foldl_bytes_lt (data.dropWhile (· == 0)) 0
  rw [← foldl_dropWhile_zero, Nat.zero_add, Nat.one_mul] at hvalue
  have hpow : 256 ^ (data.dropWhile (· == 0)).length ≤
      32 ^ ((8 * (data.dropWhile (· == 0)).length + 4) / 5) := by
    rw [show (256 : Nat) = 2 ^ 8 by rfl, show (32 : Nat) = 2 ^ 5 by rfl, ← Nat.pow_mul,
      ← Nat.pow_mul]
    exact Nat.pow_le_pow_right (by decide) (by omega)
  have hdigits := @length_base32Digits_le (2 * data.length) _ _ (lt_of_lt_of_le hvalue hpow)
  simp only [c32encode, List.length_append, List.length_replicate, List.length_map]
  omega

/-- A c32 address is `S`, a version digit, and at most 39 c32 digits of its hash and
checksum. -/
theorem c32address_drop_two {version : Nat} {hash160 : Bytes} {address : String}
    (h : c32address crypto version hash160 = .ok address) :
    hash160.length = 20 ∧ (address.drop 2).length ≤ 39 := by
  unfold c32address at h
  split_ifs at h with hlen hversion
  simp only [Except.ok.injEq] at h
  subst h
  refine ⟨by simpa using hlen, ?_⟩
  have hchecksum : (c32checksum crypto version hash160).length ≤ 4 := List.length_take_le _ _
  have hencode := length_c32encode (hash160 ++ c32checksum crypto version hash160)
  simp only [String.drop_eq, String.length_mk, List.drop_succ_cons, List.drop_zero,
    List.length_append] at hencode ⊢
  omega

theorem length_principalArgument {version : Nat} {hash160 : Bytes} (h : hash160.length = 20) :
    (principalArgument version hash160).length = 46 := by
  have h0x : ("0x" : String).length = 2 := rfl
  simp [principalArgument, length_bytesToHex, h, h0x]

/-- `getInferStakeInfo` makes one request, the read-only call, whatever its answer. -/
theorem FunaiNodeApi.worldAfter_getInferStakeInfo (api : FunaiNodeApi) (nodeAddress : String)
    (w : World σ) :
    worldAfter (api.getInferStakeInfo c nodeAddress w) =
      w.log (.callReadOnly (api.baseUrl ++
        "/v2/contracts/call-read/ST000000000000000000002AMW42H/pox-4/infer-get-stake-info")
        nodeAddress ["0x0516" ++ nodeAddress.drop 2]) := by
  simp only [getInferStakeInfo, Bind.bind, EStateM.bind, FunaiSdk.request]
  split <;> rename_i hanswer <;> split at hanswer <;> cases hanswer
  · split <;> rfl
  · rfl

/-- For every c32 address, the read-only call gets one argument, the splice, and it is not
the serialization of the address's principal: it is too short. -/
theorem getInferStakeInfo_argument_not_principal (api : FunaiNodeApi) {version : Nat}
    {hash160 : Bytes} {nodeAddress : String}
    (haddress : c32address crypto version hash160 = .ok nodeAddress) (w : World σ) :
    ∃ url argument,
      (worldAfter (api.getInferStakeInfo c nodeAddress w)).calls =
        w.calls ++ [.callReadOnly url nodeAddress [argument]] ∧
      argument = "0x0516" ++ nodeAddress.drop 2 ∧ argument ≠ principalArgument version hash160 := by
  obtain ⟨hlen, hdrop⟩ := c32address_drop_two crypto haddress
  refine ⟨_, _, by rw [api.worldAfter_getInferStakeInfo c, World.calls_log], rfl, fun heq => ?_⟩
  have hlength := congrArg String.length heq
  have h0516 : ("0x0516" : String).length = 6 := rfl
  rw [length_principalArgument hlen, String.length_append, h0516] at hlength
  omega

theorem getInferStakeInfo_argument_not_principal_testnet :
    ∃ nodeAddress, c32address toyCrypto 26 (List.replicate 20 1) = .ok nodeAddress ∧
      ∃ url argument,
        (worldAfter ((⟨"http://localhost:20443", funaiTestnet⟩ : FunaiNodeApi).getInferStakeInfo
          toyServices nodeAddress (⟨[], ()⟩ : World Unit))).calls =
          [.callReadOnly url nodeAddress [argument]] ∧
        argument = "0x0516" ++ nodeAddress.drop 2 ∧
        argument ≠ principalArgument 26 (List.replicate 20 1) :=
  let ⟨nodeAddress, haddress⟩ : ∃ a, c32address toyCrypto 26 (List.replicate 20 1) = .ok a :=
    ⟨_, rfl⟩
  ⟨nodeAddress, haddress,
    getInferStakeInfo_argument_not_principal toyServices toyCrypto _ haddress _⟩

end FunaiSdk
