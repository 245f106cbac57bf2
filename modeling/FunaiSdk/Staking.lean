import FunaiSdk.Api

/-!
# Staking an inference node

`stakeAsInferNode`, `increaseInferStake`, `extendInferLock` and `unlockInferStake` each sign a
call of a `pox-4` function with `makeContractCall` and broadcast it; each is `inferStakeCall`
at its own function name and arguments. The options' fee and nonce reach `makeContractCall`
as keys that are always present, so a staking call is broadcast only with both given. The
broadcast is a collaborator, and the Clarity argument constructors are modelled from the spec.
-/

namespace FunaiSdk

variable {σ : Type} (c : Collaborators) (crypto : Crypto)

/-- `MAX_U128`, the largest unsigned Clarity integer. -/
def maxU128 : Int := 0xffffffffffffffffffffffffffffffff

/-- Modelled from the spec: `uintCV(value)`, an unsigned Clarity integer of at most 128 bits. -/
def uintCV (value : IntegerType) : Except String ClarityValue := do
  let bigInt ← intToBigInt (.value value)
  if bigInt < 0 then throw "Cannot construct unsigned clarity integer from negative value"
  else if maxU128 < bigInt then
    throw "Cannot construct unsigned clarity integer greater than 340282366920938463463374607431768211455"
  else pure (.uint bigInt.toNat)

/-- Modelled from the spec: `stringAsciiCV(data)`. -/
def stringAsciiCV (data : String) : ClarityValue := .stringAscii data

structure InferStakeOptions where
  amountUstx : IntegerType
  lockPeriod : IntegerType
  nodeId : String
  senderKey : String
  fee : JsOpt IntegerType := .absent
  nonce : JsOpt IntegerType := .absent

structure InferIncreaseStakeOptions where
  additionalAmountUstx : IntegerType
  senderKey : String
  fee : JsOpt IntegerType := .absent
  nonce : JsOpt IntegerType := .absent

structure InferExtendLockOptions where
  additionalPeriod : IntegerType
  senderKey : String
  fee : JsOpt IntegerType := .absent
  nonce : JsOpt IntegerType := .absent

structure InferUnlockOptions where
  senderKey : String
  fee : JsOpt IntegerType := .absent
  nonce : JsOpt IntegerType := .absent

namespace FunaiNodeApi

variable (api : FunaiNodeApi)

/-- The body the four staking methods share: the arguments are built, a call of `pox-4`'s
`functionName` is signed, and the transaction is broadcast. -/
def inferStakeCall (functionName : String) (functionArgs : Except String (List ClarityValue))
    (senderKey : String) (fee nonce : JsOpt IntegerType) : Run σ String := do
  let functionArgs ← liftExcept functionArgs
  let tx ← makeContractCall c crypto
    { contractAddress := "ST000000000000000000002AMW42H", contractName := "pox-4",
      functionName, functionArgs, fee := fee.passed, nonce := nonce.passed,
      network := .value (.network api.network) }
    (.singleSig (.hex senderKey))
  broadcastTransaction c tx

def stakeAsInferNode (options : InferStakeOptions) : Run σ String :=
  api.inferStakeCall c crypto "infer-stake-stx"
    (do pure [← uintCV options.amountUstx, ← uintCV options.lockPeriod,
      stringAsciiCV options.nodeId])
    options.senderKey options.fee options.nonce

def increaseInferStake (options : InferIncreaseStakeOptions) : Run σ String :=
  api.inferStakeCall c crypto "infer-increase-stake"
    (do pure [← uintCV options.additionalAmountUstx]) options.senderKey options.fee options.nonce

def extendInferLock (options : InferExtendLockOptions) : Run σ String :=
  api.inferStakeCall c crypto "infer-extend-lock"
    (do pure [← uintCV options.additionalPeriod]) options.senderKey options.fee options.nonce

def unlockInferStake (options : InferUnlockOptions) : Run σ String :=
  api.inferStakeCall c crypto "infer-unlock-stx" (pure []) options.senderKey options.fee
    options.nonce

/-- `info !== null && info.isStaked`. -/
def isInferNodeStaked (nodeAddress : String) : Run σ Bool := do
  let info ← api.getInferStakeInfo c nodeAddress
  return match info with
    | some info => info.isStaked
    | none => false

end FunaiNodeApi

section ContractCall

variable {c crypto} {w w' : World σ} {t : Transaction}

theorem createContractCallPayload_ok {contractAddress contractName functionName : String}
    {functionArgs : List ClarityValue} {payload : Payload}
    (h : createContractCallPayload contractAddress contractName functionName functionArgs =
      .ok payload) :
    payload = .contractCall contractAddress contractName functionName functionArgs := by
  simp only [createContractCallPayload, except_bind_eq_ok, except_pure, Except.ok.injEq] at h
  obtain ⟨_, -, _, -, rfl⟩ := h
  rfl

/-- A returned signed contract call carries the call's payload, under a standard
authorization unless sponsored, and obeys the fee and nonce law. -/
theorem makeContractCall_singleSig_ok {txOptions : ContractCallOptions} {senderKey : KeyInput}
    (h : makeContractCall c crypto txOptions (.singleSig senderKey) w = .ok t w') :
    t.payload = .contractCall txOptions.contractAddress txOptions.contractName
      txOptions.functionName txOptions.functionArgs ∧
    (txOptions.sponsored.isTrue = false → t.auth.authType = .standard) ∧
    ∃ calls, w'.calls = w.calls ++ calls ∧ FeeNonceLaw c txOptions.toBaseOptions calls t := by
  have hb : (Build.contractCall txOptions).signed c crypto (.singleSig senderKey) w = .ok t w' := h
  obtain ⟨_, _, hunsigned, hpayload, htype⟩ := Build.signed_singleSig_frame hb
  obtain ⟨hp, hstandard⟩ := buildUnsigned_payload hunsigned
  exact ⟨hpayload.trans (createContractCallPayload_ok hp),
    fun hs => htype.trans (hstandard hs), Build.signed_feeNonceLaw _ hb⟩

theorem makeContractCall_rejects {txOptions : ContractCallOptions} (senderKey : KeyInput)
    (hnullish : txOptions.fee.isExplicitNullish ∨ txOptions.nonce.isExplicitNullish) :
    RejectsWithoutFeeNonce (makeContractCall c crypto txOptions (.singleSig senderKey) :
      Run σ Transaction) :=
  show RejectsWithoutFeeNonce ((Build.contractCall txOptions).signed c crypto
    (.singleSig senderKey) : Run σ Transaction) from Build.signed_rejects _ _ hnullish

end ContractCall

/-- A key passed on from options that lack a value is `undefined` or `null`. -/
theorem JsOpt.isExplicitNullish_passed {α : Type} {o : JsOpt α} (h : o.toOption = none) :
    o.passed.isExplicitNullish = true := by
  cases o <;> simp_all [JsOpt.passed, JsOpt.toOption, JsOpt.isExplicitNullish]

/-- Every staking method, whatever its function and arguments: a returned call broadcast, last,
a standard transaction calling `pox-4`'s function with the built arguments, whose origin
commits the fee and nonce the options gave. Options that lack either are refused before any
fee or nonce request. -/
theorem inferStakeCall_broadcasts (api : FunaiNodeApi) (functionName : String)
    (functionArgs : Except String (List ClarityValue)) (senderKey : String)
    (fee nonce : JsOpt IntegerType) :
    (∀ (w : World σ) r w',
      api.inferStakeCall c crypto functionName functionArgs senderKey fee nonce w = .ok r w' →
      ∃ args calls t, functionArgs = .ok args ∧ w'.calls = calls ++ [.broadcastTransaction t] ∧
        t.payload = .contractCall "ST000000000000000000002AMW42H" "pox-4" functionName args ∧
        t.auth.authType = .standard ∧
        ∃ f n, fee = .value f ∧ nonce = .value n ∧
          t.auth.spendingCondition.fee = f.toInt ∧ t.auth.spendingCondition.nonce = n.toInt) ∧
    (fee.toOption = none ∨ nonce.toOption = none →
      RejectsWithoutFeeNonce (api.inferStakeCall c crypto functionName functionArgs senderKey
        fee nonce : Run σ String)) := by
  constructor
  · intro w r w' h
    simp only [FunaiNodeApi.inferStakeCall, broadcastTransaction, bind_ok, liftExcept_apply_ok,
      request_apply_ok] at h
    obtain ⟨args, _, ⟨hargs, rfl⟩, t, w₁, hcall, -, rfl⟩ := h
    obtain ⟨hpayload, htype, _, -, hlaw⟩ := makeContractCall_singleSig_ok hcall
    have hstandard := htype rfl
    obtain ⟨f, n, hfee, hnonce, hfeeCommitted, hnonceCommitted⟩ := hlaw.of_passed rfl rfl
    exact ⟨args, _, t, hargs, World.calls_log _ _, hpayload, hstandard, f, n, hfee, hnonce,
      hfeeCommitted hstandard, hnonceCommitted⟩
  · intro hmissing
    have hnullish : fee.passed.isExplicitNullish ∨ nonce.passed.isExplicitNullish :=
      hmissing.imp JsOpt.isExplicitNullish_passed JsOpt.isExplicitNullish_passed
    refine ⟨fun w r w' h => ?_, ?_⟩
    · simp only [FunaiNodeApi.inferStakeCall, bind_ok, liftExcept_apply_ok] at h
      obtain ⟨_, _, ⟨-, rfl⟩, _, _, hcall, -⟩ := h
      exact (makeContractCall_rejects _ hnullish).1 _ _ _ hcall
    · unfold FunaiNodeApi.inferStakeCall
      exact .bind (.liftExcept _) fun _ => .bind (makeContractCall_rejects _ hnullish).2
        fun _ => .broadcastTransaction c _

/-- A stake of 1000 uSTX for 2100 blocks, with fee and nonce given. -/
def toyStake : InferStakeOptions :=
  { amountUstx := .bigint 1000, lockPeriod := .number 2100, nodeId := "node-1",
    senderKey := toyKey, fee := .value (.bigint 200), nonce := .value (.bigint 4) }

theorem inferStakeCall_broadcasts_stake :
    ∃ r w', (⟨"http://localhost:20443", funaiTestnet⟩ : FunaiNodeApi).stakeAsInferNode
        toyServices toyCrypto toyStake (⟨[], ()⟩ : World Unit) = .ok r w' ∧
      ∃ args calls t, (do pure [← uintCV (.bigint 1000), ← uintCV (.number 2100),
          stringAsciiCV "node-1"] : Except String (List ClarityValue)) = .ok args ∧
        w'.calls = calls ++ [.broadcastTransaction t] ∧
        t.payload = .contractCall "ST000000000000000000002AMW42H" "pox-4" "infer-stake-stx" args ∧
        t.auth.authType = .standard ∧
        ∃ f n, toyStake.fee = .value f ∧ toyStake.nonce = .value n ∧
          t.auth.spendingCondition.fee = f.toInt ∧ t.auth.spendingCondition.nonce = n.toInt :=
  let ⟨r, w', h⟩ : ∃ r w', (⟨"http://localhost:20443", funaiTestnet⟩ : FunaiNodeApi).stakeAsInferNode
      toyServices toyCrypto toyStake (⟨[], ()⟩ : World Unit) = .ok r w' := ⟨_, _, rfl⟩
  ⟨r, w', h, (inferStakeCall_broadcasts toyServices toyCrypto _ _ _ _ _ _).1 _ _ _ h⟩

/-- `isInferNodeStaked` is `true` exactly when the stake query's answer is `okay` with a
result other than `0x09`, the serialized `none`. -/
theorem isInferNodeStaked_ok (api : FunaiNodeApi) {nodeAddress : String} {w w' : World σ}
    {staked : Bool} (h : api.isInferNodeStaked c nodeAddress w = .ok staked w') :
    ∃ url answer, c.callReadOnly url nodeAddress ["0x0516" ++ nodeAddress.drop 2] = .ok answer ∧
      (staked = true ↔ answer.okay = true ∧ answer.result ≠ "0x09") := by
  simp only [FunaiNodeApi.isInferNodeStaked, FunaiNodeApi.getInferStakeInfo, bind_ok,
    request_apply_ok, pure_apply, EStateM.Result.ok.injEq] at h
  obtain ⟨info, _, ⟨answer, _, ⟨hanswer, rfl⟩, hinfo⟩, rfl, rfl⟩ := h
  refine ⟨_, answer, hanswer, ?_⟩
  split at hinfo <;> cases hinfo <;> simp_all

end FunaiSdk
