import FunaiSdk.MultiSig
import FunaiSdk.Sponsor

/-!
# Fee and nonce

Every builder fills in the fee and the nonce the same way: a value the caller gives is
written into the origin, and one left out is asked of the fee estimator or the nonce service,
once. A fee or nonce given as `undefined` or `null` passes the test for a left-out value, but
`Object.assign` has copied it over the default and the spending condition refuses it. The
nonce is asked for the account `{ address, ...options }` names: the origin's signer under the
network's single-sig version, unless the multi-sig options carry an address of their own.
-/

namespace FunaiSdk

variable {σ : Type} {c : Collaborators} {crypto : Crypto}

/-- A `undefined` or `null` given for a key, as opposed to a value or no key at all. -/
def JsOpt.isExplicitNullish {α : Type} : JsOpt α → Bool
  | .undefined | .null => true
  | _ => false

/-- A fee or nonce against what the caller `supplied`: a value given is written as given
and not asked for; one left out was asked for once, in `requests`, and the answer written. -/
def Filled {α : Type} (supplied : JsOpt IntegerType) (requests : List α)
    (answer : α → Except String Int) (written : Int → Prop) : Prop :=
  match supplied with
  | .value v => requests = [] ∧ written v.toInt
  | _ => ∃ request answered, requests = [request] ∧ answer request = .ok answered ∧
      written answered

/-- The law of a returned build, over the requests `calls` it made: the fee and the nonce
were given or left out, never `undefined` or `null`; the nonce is filled in the origin, and
the fee in the origin of a standard authorization. -/
def FeeNonceLaw (c : Collaborators) (options : BaseOptions) (calls : List Call)
    (t : Transaction) : Prop :=
  options.fee.isExplicitNullish = false ∧ options.nonce.isExplicitNullish = false ∧
  Filled options.fee (feeRequests calls) c.fetchFeeEstimate
    (fun fee => t.auth.authType = .standard → t.auth.spendingCondition.fee = fee) ∧
  Filled options.nonce (nonceRequests calls) c.fetchNonce
    (fun nonce => t.auth.spendingCondition.nonce = nonce)

/-- The law of a returned sponsoring: the sponsor condition's fee and nonce are filled. -/
def SponsorFeeNonceLaw (c : Collaborators) (sponsorOptions : SponsorOptionsOpts)
    (calls : List Call) (t : Transaction) : Prop :=
  ∃ sponsor, t.auth.sponsorCondition = some sponsor ∧
    Filled sponsorOptions.fee (feeRequests calls) c.fetchFeeEstimate (sponsor.fee = ·) ∧
    Filled sponsorOptions.sponsorNonce (nonceRequests calls) c.fetchNonce (sponsor.nonce = ·)

theorem Filled.mono {α : Type} {supplied : JsOpt IntegerType} {requests : List α}
    {answer : α → Except String Int} {written written' : Int → Prop}
    (h : Filled supplied requests answer written) (hw : ∀ x, written x → written' x) :
    Filled supplied requests answer written' := by
  cases supplied with
  | value v => exact ⟨h.1, hw _ h.2⟩
  | _ =>
    obtain ⟨request, answered, hreq, hans, hx⟩ := h
    exact ⟨request, answered, hreq, hans, hw _ hx⟩

/-- The law reads only the authorization type and the origin's fee and nonce. -/
theorem FeeNonceLaw.of_origin {options : BaseOptions} {calls : List Call} {t t' : Transaction}
    (h : FeeNonceLaw c options calls t) (htype : t'.auth.authType = t.auth.authType)
    (hfee : t'.auth.spendingCondition.fee = t.auth.spendingCondition.fee)
    (hnonce : t'.auth.spendingCondition.nonce = t.auth.spendingCondition.nonce) :
    FeeNonceLaw c options calls t' :=
  ⟨h.1, h.2.1, h.2.2.1.mono fun _ hx hstd => hfee.trans (hx (htype ▸ hstd)),
    h.2.2.2.mono fun _ hx => hnonce.trans hx⟩

/-- A multi-sig branch building conditions that carry the nonce and fee they are given. -/
def TakesFeeNonce
    (multiSig : UnsignedMultiSigOptions → JsOpt IntegerType → JsOpt IntegerType →
      Except String SpendingCondition) : Prop :=
  ∀ options nonce fee condition, multiSig options nonce fee = .ok condition →
    intToBigInt nonce = .ok condition.nonce ∧ intToBigInt fee = .ok condition.fee

theorem takesFeeNonce_multiSigOrigin : TakesFeeNonce (multiSigOrigin crypto) := by
  intro options nonce fee condition h
  obtain ⟨_, m, -, rfl, -, -, -, -, hnonce, hfee⟩ := multiSigOrigin_ok h
  exact ⟨hnonce, hfee⟩

theorem takesFeeNonce_error (e : String) : TakesFeeNonce fun _ _ _ => .error e :=
  fun _ _ _ _ h => nomatch h

theorem originCondition_feeNonce
    {multiSig : UnsignedMultiSigOptions → JsOpt IntegerType → JsOpt IntegerType →
      Except String SpendingCondition}
    (hmultiSig : TakesFeeNonce multiSig) {origin : OriginOptions} {nonce fee : JsOpt IntegerType}
    {condition : SpendingCondition}
    (h : originCondition crypto multiSig origin nonce fee = .ok condition) :
    intToBigInt nonce = .ok condition.nonce ∧ intToBigInt fee = .ok condition.fee := by
  cases origin with
  | singleSig publicKey =>
    obtain ⟨_, _, -, -, -, -, hnonce, hfee⟩ := createSingleSigSpendingCondition_ok crypto h
    exact ⟨hnonce, hfee⟩
  | multiSig options => exact hmultiSig options nonce fee condition h

/-- An option after the default converts only when it was given or left out. -/
theorem intToBigInt_assign_ok {o : JsOpt IntegerType} {default : IntegerType} {x : Int}
    (h : intToBigInt (o.assign default) = .ok x) :
    (o = .absent ∧ x = default.toInt) ∨ ∃ v, o = .value v ∧ x = v.toInt := by
  cases o <;> simp_all [intToBigInt, JsOpt.assign, eq_comm]

section Steps

variable {t₀ t₁ t : Transaction} {w w₁ w' : World σ}

theorem estimateFee_filled {o : JsOpt IntegerType}
    (hcondition : intToBigInt (o.assign (.bigint 0)) = .ok t₀.auth.spendingCondition.fee)
    (h : estimateFee c o.isNullish t₀ w = .ok t₁ w') :
    ∃ calls, w'.calls = w.calls ++ calls ∧ nonceRequests calls = [] ∧
      Filled o (feeRequests calls) c.fetchFeeEstimate
        (fun fee => t₁.auth.authType = .standard → t₁.auth.spendingCondition.fee = fee) ∧
      t₁.auth.authType = t₀.auth.authType ∧
      t₁.auth.spendingCondition.nonce = t₀.auth.spendingCondition.nonce := by
  rw [estimateFee_ok] at h
  rcases intToBigInt_assign_ok hcondition with ⟨rfl, -⟩ | ⟨v, rfl, hfee⟩
  · obtain ⟨fee, hanswer, rfl, rfl⟩ := h
    refine ⟨[.fetchFeeEstimate t₀], rfl, rfl, ⟨t₀, fee, rfl, hanswer, fun hstd => ?_⟩, by simp,
      by simp⟩
    rw [Transaction.auth_setFee, Authorization.authType_setFee] at hstd
    simp [Authorization.spendingCondition_setFee, hstd]
  · obtain ⟨rfl, rfl⟩ := h
    exact ⟨[], by simp, rfl, ⟨rfl, fun _ => hfee⟩, rfl, rfl⟩

theorem lookupNonce_filled {o : JsOpt IntegerType} {network : FunaiNetwork}
    {addressOption : JsOpt String}
    (hcondition : intToBigInt (o.assign (.bigint 0)) = .ok t₁.auth.spendingCondition.nonce)
    (h : lookupNonce c crypto o.isNullish network addressOption t₁ w = .ok t w') :
    ∃ calls, w'.calls = w.calls ++ calls ∧ feeRequests calls = [] ∧
      Filled o (nonceRequests calls) c.fetchNonce
        (fun nonce => t.auth.spendingCondition.nonce = nonce) ∧
      t.auth.authType = t₁.auth.authType ∧
      t.auth.spendingCondition.fee = t₁.auth.spendingCondition.fee := by
  rw [lookupNonce_ok] at h
  rcases intToBigInt_assign_ok hcondition with ⟨rfl, -⟩ | ⟨v, rfl, hnonce⟩
  · obtain ⟨address, -, nonce, hanswer, rfl, rfl⟩ := h
    exact ⟨[.fetchNonce _], rfl, rfl, ⟨_, nonce, rfl, hanswer, by simp⟩, by simp, by simp⟩
  · obtain ⟨rfl, rfl⟩ := h
    exact ⟨[], by simp, rfl, ⟨rfl, hnonce⟩, rfl, rfl⟩

end Steps

theorem isExplicitNullish_of_assign_ok {o : JsOpt IntegerType} {default : IntegerType} {x : Int}
    (h : intToBigInt (o.assign default) = .ok x) : o.isExplicitNullish = false := by
  rcases intToBigInt_assign_ok h with ⟨rfl, -⟩ | ⟨v, rfl, -⟩ <;> rfl

theorem asksNoFeeNonce_checkWithAbi (txOptions : ContractCallOptions) (payload : Payload) :
    AsksNoFeeNonce (checkWithAbi c txOptions payload : Run σ Unit) := by
  unfold checkWithAbi
  split
  · exact .bind (.fetchAbi c _ _) fun _ => .liftExcept _
  · exact .liftExcept _
  · exact .pure ()

variable (c crypto) in
/-- Every unsigned build is the shared body, with an ABI check that asks for no fee or
nonce and a multi-sig branch that carries the fee and nonce it is given. -/
theorem Build.unsigned_eq (b : Build) :
    ∃ postConditionMode payload validate multiSig postConditions,
      (∀ p, AsksNoFeeNonce (validate p : Run σ Unit)) ∧ TakesFeeNonce multiSig ∧
      ∀ origin, b.unsigned c crypto origin =
        buildUnsigned c crypto b.options origin postConditionMode payload validate multiSig
          postConditions b.options.fee.isNullish b.options.nonce.isNullish := by
  cases b with
  | infer _ => exact ⟨_, _, _, _, _, fun _ => .pure (), takesFeeNonce_error _, fun _ => rfl⟩
  | registerModel _ =>
    exact ⟨_, _, _, _, _, fun _ => .pure (), takesFeeNonce_error _, fun _ => rfl⟩
  | tokenTransfer _ =>
    exact ⟨_, _, _, _, _, fun _ => .pure (), takesFeeNonce_multiSigOrigin, fun _ => rfl⟩
  | contractDeploy o =>
    refine ⟨postConditionModeFrom (o.postConditionMode.assign .deny),
      createSmartContractPayload o.contractName o.codeBody (o.clarityVersion.assign .clarity3).toOption,
      fun _ => pure (), multiSigOrigin crypto, o.postConditions.toOption.getD [],
      fun _ => .pure (), takesFeeNonce_multiSigOrigin, fun _ => ?_⟩
    simp only [Build.unsigned, makeUnsignedContractDeploy, JsOpt.isUndefinedOrNull_eq_isNullish]
    rfl
  | contractCall o =>
    refine ⟨postConditionModeFrom (o.postConditionMode.assign .deny),
      createContractCallPayload o.contractAddress o.contractName o.functionName o.functionArgs,
      checkWithAbi c o, multiSigOrigin crypto, o.postConditions.toOption.getD [],
      asksNoFeeNonce_checkWithAbi o, takesFeeNonce_multiSigOrigin, fun _ => ?_⟩
    simp only [Build.unsigned, makeUnsignedContractCall, JsOpt.isUndefinedOrNull_eq_isNullish]
    rfl

section Builds

variable {options : BaseOptions} {origin : OriginOptions}
  {postConditionMode : Except String PostConditionMode} {payload : Except String Payload}
  {validate : Payload → Run σ Unit}
  {multiSig : UnsignedMultiSigOptions → JsOpt IntegerType → JsOpt IntegerType →
    Except String SpendingCondition}
  {postConditions : List PostConditionWire} {w w' : World σ} {t : Transaction}

theorem buildUnsigned_feeNonceLaw (hvalidate : ∀ p, AsksNoFeeNonce (validate p))
    (hmultiSig : TakesFeeNonce multiSig)
    (h : buildUnsigned c crypto options origin postConditionMode payload validate multiSig
      postConditions options.fee.isNullish options.nonce.isNullish w = .ok t w') :
    ∃ calls, w'.calls = w.calls ++ calls ∧ FeeNonceLaw c options calls t := by
  obtain ⟨network, mode, p, condition, w₁, t₁, w₂, -, -, -, hvalid, hcondition, hfee, hnonce⟩ :=
    buildUnsigned_ok h
  obtain ⟨hconditionNonce, hconditionFee⟩ := originCondition_feeNonce hmultiSig hcondition
  obtain ⟨validateCalls, hvcalls, hvfee, hvnonce⟩ := hvalidate p w
  rw [hvalid] at hvcalls
  obtain ⟨feeCalls, hfcalls, hfnonce, hffilled, hftype, hfnonceEq⟩ :=
    estimateFee_filled (by split <;> exact hconditionFee) hfee
  obtain ⟨nonceCalls, hncalls, hnfee, hnfilled, hntype, hnfeeEq⟩ :=
    lookupNonce_filled (by rw [hfnonceEq]; split <;> exact hconditionNonce) hnonce
  have hfeeRequests : feeRequests (validateCalls ++ feeCalls ++ nonceCalls) =
      feeRequests feeCalls := by simp [hvfee, hnfee]
  have hnonceRequests : nonceRequests (validateCalls ++ feeCalls ++ nonceCalls) =
      nonceRequests nonceCalls := by simp [hvnonce, hfnonce]
  refine ⟨validateCalls ++ feeCalls ++ nonceCalls, ?_, isExplicitNullish_of_assign_ok hconditionFee,
    isExplicitNullish_of_assign_ok hconditionNonce, ?_, ?_⟩
  · rw [hncalls, hfcalls, show w₁.calls = w.calls ++ validateCalls from hvcalls]
    simp only [List.append_assoc]
  · rw [hfeeRequests]
    exact hffilled.mono fun _ hx hstd => hnfeeEq.trans (hx (hntype ▸ hstd))
  · rw [hnonceRequests]
    exact hnfilled

end Builds

section Runs

variable {w w' : World σ} {t : Transaction}

/-- Every returned unsigned build obeys the law. -/
theorem Build.unsigned_feeNonceLaw (b : Build) {origin : OriginOptions}
    (h : b.unsigned c crypto origin w = .ok t w') :
    ∃ calls, w'.calls = w.calls ++ calls ∧ FeeNonceLaw c b.options calls t := by
  obtain ⟨_, _, _, _, _, hvalidate, hmultiSig, heq⟩ := b.unsigned_eq c crypto
  rw [heq] at h
  exact buildUnsigned_feeNonceLaw hvalidate hmultiSig h

theorem Build.signed_singleSig_ok {b : Build} {senderKey : KeyInput}
    (h : b.signed c crypto (.singleSig senderKey) w = .ok t w') :
    ∃ publicKey t₁ privateKey, b.unsigned c crypto (.singleSig (.hex publicKey)) w = .ok t₁ w' ∧
      t = ((TransactionSigner.new crypto t₁).signOrigin crypto privateKey).transaction := by
  cases b <;>
    simp only [Build.signed, Build.unsigned, makeInfer, makeRegisterModel, makeFunaiTokenTransfer,
      makeContractDeploy, makeContractCall, signSingleSig, bind_ok, liftExcept_apply_ok,
      pure_apply, EStateM.Result.ok.injEq] at h ⊢ <;>
    obtain ⟨publicKey, _, ⟨-, rfl⟩, t₁, _, hunsigned, privateKey, _, ⟨-, rfl⟩, rfl, rfl⟩ := h <;>
    exact ⟨publicKey, t₁, privateKey, hunsigned, rfl⟩

/-- Signing the origin leaves the payload and the authorization type. -/
theorem Build.signed_singleSig_frame {b : Build} {senderKey : KeyInput}
    (h : b.signed c crypto (.singleSig senderKey) w = .ok t w') :
    ∃ publicKey t₁, b.unsigned c crypto (.singleSig (.hex publicKey)) w = .ok t₁ w' ∧
      t.payload = t₁.payload ∧ t.auth.authType = t₁.auth.authType := by
  obtain ⟨publicKey, t₁, _, hunsigned, rfl⟩ := Build.signed_singleSig_ok h
  exact ⟨publicKey, t₁, hunsigned, rfl, by simp [TransactionSigner.new]⟩

/-- Every returned signed build obeys the law: signing leaves the origin's fee and nonce. -/
theorem Build.signed_feeNonceLaw (b : Build) {origin : SignedOriginOptions}
    (h : b.signed c crypto origin w = .ok t w') :
    ∃ calls, w'.calls = w.calls ++ calls ∧ FeeNonceLaw c b.options calls t := by
  cases origin with
  | singleSig senderKey =>
    obtain ⟨_, t₁, _, hunsigned, rfl⟩ := Build.signed_singleSig_ok h
    obtain ⟨calls, hcalls, hlaw⟩ := b.unsigned_feeNonceLaw hunsigned
    exact ⟨calls, hcalls, hlaw.of_origin (by simp [TransactionSigner.new])
      (by simp [TransactionSigner.new]) (by simp [TransactionSigner.new])⟩
  | multiSig options signerKeys =>
    obtain ⟨t₁, hunsigned, hsign⟩ := Build.signed_multiSig_ok h
    obtain ⟨calls, hcalls, hlaw⟩ := b.unsigned_feeNonceLaw hunsigned
    obtain ⟨m, -, -, hm, -, -, rfl⟩ := mutatingSignAppendMultiSig_ok hsign
    exact ⟨calls, hcalls, hlaw.of_origin (by simp) (by simp [hm, SpendingCondition.fee])
      (by simp [hm, SpendingCondition.nonce])⟩

end Runs

/-- A run that never returns, and asks for no fee and no nonce before it throws. -/
def RejectsWithoutFeeNonce {α : Type} (x : Run σ α) : Prop :=
  (∀ w a w', x w ≠ .ok a w') ∧ AsksNoFeeNonce x

section Rejects

variable {options : BaseOptions} {origin : OriginOptions}
  {postConditionMode : Except String PostConditionMode} {payload : Except String Payload}
  {validate : Payload → Run σ Unit}
  {multiSig : UnsignedMultiSigOptions → JsOpt IntegerType → JsOpt IntegerType →
    Except String SpendingCondition}
  {postConditions : List PostConditionWire} {feeOmitted nonceOmitted : Bool}

/-- An explicit `undefined` or `null` fee or nonce makes the origin condition throw, before
the fee and nonce steps. -/
theorem buildUnsigned_rejects (hvalidate : ∀ p, AsksNoFeeNonce (validate p))
    (hmultiSig : TakesFeeNonce multiSig)
    (hnullish : options.fee.isExplicitNullish ∨ options.nonce.isExplicitNullish) :
    RejectsWithoutFeeNonce (buildUnsigned c crypto options origin postConditionMode payload
      validate multiSig postConditions feeOmitted nonceOmitted) := by
  obtain ⟨e, hcondition⟩ : ∃ e, originCondition crypto multiSig origin
      (options.nonce.assign (.bigint 0)) (options.fee.assign (.bigint 0)) = .error e := by
    cases h : originCondition crypto multiSig origin (options.nonce.assign (.bigint 0))
      (options.fee.assign (.bigint 0)) with
    | error e => exact ⟨e, rfl⟩
    | ok condition =>
      obtain ⟨hnonce, hfee⟩ := originCondition_feeNonce hmultiSig h
      rw [isExplicitNullish_of_assign_ok hfee, isExplicitNullish_of_assign_ok hnonce] at hnullish
      simp at hnullish
  refine ⟨fun w a w' h => ?_, ?_⟩
  · obtain ⟨_, _, _, _, _, _, _, -, -, -, -, hcondition', -⟩ := buildUnsigned_ok h
    rw [hcondition] at hcondition'
    cases hcondition'
  · simp only [buildUnsigned, hcondition, liftExcept_error, throw_bind]
    exact .bind (.liftExcept _) fun _ => .bind (.liftExcept _) fun _ =>
      .bind (.liftExcept _) fun p => .bind (hvalidate p) fun _ => .throw _

end Rejects

theorem Build.signed_singleSig_eq (b : Build) (senderKey : KeyInput) :
    (b.signed c crypto (.singleSig senderKey) : Run σ Transaction) =
      signSingleSig crypto (b.unsigned c crypto) senderKey := by
  cases b <;> rfl

theorem Build.unsigned_rejects (b : Build) (origin : OriginOptions)
    (hnullish : b.options.fee.isExplicitNullish ∨ b.options.nonce.isExplicitNullish) :
    RejectsWithoutFeeNonce (b.unsigned c crypto origin : Run σ Transaction) := by
  obtain ⟨_, _, _, _, _, hvalidate, hmultiSig, heq⟩ := b.unsigned_eq c crypto
  rw [heq]
  exact buildUnsigned_rejects hvalidate hmultiSig hnullish

/-- The signed builds reject as the unsigned builds they call. -/
theorem Build.signed_rejects (b : Build) (origin : SignedOriginOptions)
    (hnullish : b.options.fee.isExplicitNullish ∨ b.options.nonce.isExplicitNullish) :
    RejectsWithoutFeeNonce (b.signed c crypto origin : Run σ Transaction) := by
  have hunsigned : ∀ origin, RejectsWithoutFeeNonce (b.unsigned c crypto origin : Run σ Transaction) :=
    fun origin => b.unsigned_rejects origin hnullish
  refine ⟨fun w t w' h => ?_, ?_⟩
  · cases origin with
    | singleSig senderKey =>
      obtain ⟨_, _, _, hunsigned', -⟩ := Build.signed_singleSig_ok h
      exact (hunsigned _).1 _ _ _ hunsigned'
    | multiSig options signerKeys =>
      obtain ⟨_, hunsigned', -⟩ := Build.signed_multiSig_ok h
      exact (hunsigned _).1 _ _ _ hunsigned'
  · cases origin with
    | singleSig senderKey =>
      rw [Build.signed_singleSig_eq]
      exact .bind (.liftExcept _) fun _ => .bind (hunsigned _).2 fun _ =>
        .bind (.liftExcept _) fun _ => .pure _
    | multiSig options signerKeys =>
      cases b
      all_goals first
        | exact .throw _
        | exact .bind (hunsigned _).2 fun _ => .liftExcept _

@[simp] theorem estimateFee_false (t : Transaction) :
    estimateFee c false t = (pure t : Run σ Transaction) := rfl

@[simp] theorem lookupNonce_false (network : FunaiNetwork) (addressOption : JsOpt String)
    (t : Transaction) :
    lookupNonce c crypto false network addressOption t = (pure t : Run σ Transaction) := rfl

theorem checkWithAbi_congr (c' : Collaborators) {txOptions : ContractCallOptions}
    (habi : (txOptions.validateWithAbi matches .value (.flag true)) = false) :
    (checkWithAbi c' txOptions : Payload → Run σ Unit) = checkWithAbi c txOptions := by
  funext payload
  rcases hv : txOptions.validateWithAbi with _ | _ | _ | ⟨_ | _⟩ | abi <;>
    simp_all [checkWithAbi]

/-- With the fee and the nonce given and no ABI fetched, an unsigned build is the same for
every behaviour of the services. -/
theorem Build.unsigned_congr (b : Build) (c' : Collaborators)
    (hfee : b.options.fee.isNullish = false) (hnonce : b.options.nonce.isNullish = false)
    (habi : b.fetchesAbi = false) :
    (b.unsigned c' crypto : OriginOptions → Run σ Transaction) = b.unsigned c crypto := by
  funext origin
  cases b <;> simp only [Build.options, Build.fetchesAbi] at hfee hnonce habi <;>
    simp only [Build.unsigned, makeUnsignedInfer, makeUnsignedRegisterModel,
      makeUnsignedFunaiTokenTransfer, makeUnsignedContractDeploy, makeUnsignedContractCall,
      JsOpt.isUndefinedOrNull_eq_isNullish, hfee, hnonce, buildUnsigned, estimateFee_false,
      lookupNonce_false]
  rw [checkWithAbi_congr c habi]

theorem Build.signed_congr (b : Build) (c' : Collaborators)
    (hunsigned : (b.unsigned c' crypto : OriginOptions → Run σ Transaction) = b.unsigned c crypto) :
    (b.signed c' crypto : SignedOriginOptions → Run σ Transaction) = b.signed c crypto := by
  funext origin
  cases b <;> cases origin <;> simp only [Build.unsigned] at hunsigned <;>
    simp only [Build.signed, makeInfer, makeRegisterModel, makeFunaiTokenTransfer,
      makeContractDeploy, makeContractCall, hunsigned]

section Sponsor

variable {sponsorOptions : SponsorOptionsOpts} {t : Transaction} {w w₁ : World Transaction}

theorem sponsorFee_filled {fee : JsOpt IntegerType} {x : Int}
    (h : sponsorFee c sponsorOptions t w = .ok fee w₁) (hx : intToBigInt fee = .ok x) :
    ∃ calls, w₁.calls = w.calls ++ calls ∧ nonceRequests calls = [] ∧
      Filled sponsorOptions.fee (feeRequests calls) c.fetchFeeEstimate (x = ·) := by
  have hstage := sponsorFee_ok h
  split at hstage
  next hnull =>
    obtain ⟨txFee, hanswer, rfl, rfl⟩ := hstage
    cases hx
    refine ⟨[.fetchFeeEstimate t], rfl, rfl, ?_⟩
    rcases hfee : sponsorOptions.fee <;> simp_all [JsOpt.isNullish, Filled, IntegerType.toInt, Call.feeTransaction, Call.nonceAddress]
  next hnull =>
    obtain ⟨rfl, rfl⟩ := hstage
    refine ⟨[], by simp, rfl, ?_⟩
    rcases hfee : sponsorOptions.fee <;> simp_all [JsOpt.isNullish, Filled, intToBigInt]

theorem sponsorNonceLookup_filled {network : FunaiNetwork} {sponsorPubKey : String}
    {nonce : JsOpt IntegerType} {w₂ : World Transaction} {x : Int}
    (h : sponsorNonceLookup c crypto sponsorOptions network sponsorPubKey w₁ = .ok nonce w₂)
    (hx : intToBigInt nonce = .ok x) :
    ∃ calls, w₂.calls = w₁.calls ++ calls ∧ feeRequests calls = [] ∧
      Filled sponsorOptions.sponsorNonce (nonceRequests calls) c.fetchNonce (x = ·) := by
  have hstage := sponsorNonceLookup_ok h
  split at hstage
  next hnull =>
    obtain ⟨address, answer, -, hanswer, rfl, rfl⟩ := hstage
    cases hx
    refine ⟨[.fetchNonce address], rfl, rfl, ?_⟩
    rcases hnonce : sponsorOptions.sponsorNonce <;>
      simp_all [JsOpt.isNullish, Filled, IntegerType.toInt, Call.feeTransaction, Call.nonceAddress]
  next hnull =>
    obtain ⟨rfl, rfl⟩ := hstage
    refine ⟨[], by simp, rfl, ?_⟩
    rcases hnonce : sponsorOptions.sponsorNonce <;> simp_all [JsOpt.isNullish, Filled, intToBigInt]

/-- Every returned sponsoring fills the sponsor condition's fee and nonce. -/
theorem sponsorTransaction_feeNonceLaw {w' : World Transaction}
    (h : sponsorTransaction c crypto sponsorOptions w = .ok t w') :
    ∃ calls, w'.calls = w.calls ++ calls ∧ SponsorFeeNonceLaw c sponsorOptions calls t := by
  obtain ⟨_, _, _, _, _, condition, w₁, w₂, -, -, hfee, hnonce, -, hcondition, hcalls, _, _,
    hsponsor⟩ := sponsorTransaction_ok c crypto sponsorOptions h
  obtain ⟨_, _, -, -, -, -, hconditionNonce, hconditionFee⟩ :=
    createSingleSigSpendingCondition_ok crypto hcondition
  obtain ⟨feeCalls, hfcalls, hfnonce, hffilled⟩ := sponsorFee_filled hfee hconditionFee
  obtain ⟨nonceCalls, hncalls, hnfee, hnfilled⟩ := sponsorNonceLookup_filled hnonce hconditionNonce
  refine ⟨feeCalls ++ nonceCalls, by rw [hcalls, hncalls, hfcalls, List.append_assoc], _,
    hsponsor, ?_, ?_⟩
  · rw [feeRequests_append, hnfee, List.append_nil]
    exact hffilled.mono fun _ hx => by simp [hx]
  · rw [nonceRequests_append, hfnonce, List.nil_append]
    exact hnfilled.mono fun _ hx => by simp [hx]

end Sponsor

/-- Every build, unsigned or signed, and `sponsorTransaction`, fill the fee and the nonce
as supplied or as answered, asking each service once for what was left out. An explicit
`undefined` or `null` fee or nonce is refused before any request, and with both given and
no ABI fetched a build is the same for all services. -/
theorem builds_fill_fee_and_nonce (b : Build) :
    (∀ origin (w : World σ) t w', b.unsigned c crypto origin w = .ok t w' →
      ∃ calls, w'.calls = w.calls ++ calls ∧ FeeNonceLaw c b.options calls t) ∧
    (∀ origin (w : World σ) t w', b.signed c crypto origin w = .ok t w' →
      ∃ calls, w'.calls = w.calls ++ calls ∧ FeeNonceLaw c b.options calls t) ∧
    (b.options.fee.isExplicitNullish ∨ b.options.nonce.isExplicitNullish →
      (∀ origin, RejectsWithoutFeeNonce (b.unsigned c crypto origin : Run σ Transaction)) ∧
      ∀ origin, RejectsWithoutFeeNonce (b.signed c crypto origin : Run σ Transaction)) ∧
    (b.options.fee.isNullish = false → b.options.nonce.isNullish = false →
      b.fetchesAbi = false → ∀ c' : Collaborators,
        (b.unsigned c' crypto : OriginOptions → Run σ Transaction) = b.unsigned c crypto ∧
        (b.signed c' crypto : SignedOriginOptions → Run σ Transaction) = b.signed c crypto) ∧
    ∀ sponsorOptions (w : World Transaction) t w',
      sponsorTransaction c crypto sponsorOptions w = .ok t w' →
      ∃ calls, w'.calls = w.calls ++ calls ∧ SponsorFeeNonceLaw c sponsorOptions calls t :=
  ⟨fun _ _ _ _ h => b.unsigned_feeNonceLaw h, fun _ _ _ _ h => b.signed_feeNonceLaw h,
    fun hnullish => ⟨fun origin => b.unsigned_rejects origin hnullish,
      fun origin => b.signed_rejects origin hnullish⟩,
    fun hfee hnonce habi c' =>
      have hunsigned := b.unsigned_congr c' hfee hnonce habi
      ⟨hunsigned, b.signed_congr c' hunsigned⟩,
    fun _ _ _ _ h => sponsorTransaction_feeNonceLaw h⟩

/-- A transfer whose fee is given as `undefined` is refused without a fee estimate. -/
theorem transfer_undefined_fee_not_estimated :
    ∃ e w', (Build.tokenTransfer { toyTransfer with fee := .undefined }).unsigned toyServices
        toyCrypto (.singleSig (.hex "02ab")) (⟨[], ()⟩ : World Unit) = .error e w' ∧
      feeRequests w'.calls = [] :=
  ⟨_, _, rfl, rfl⟩

/-- A returned unsigned build that looked up its nonce asked for the address of the origin's
signer under the network's single-sig version, or for the `address` of the multi-sig options
when they carry that key. -/
theorem Build.unsigned_nonceAddress (b : Build) {origin : OriginOptions} {w w' : World σ}
    {t : Transaction} (h : b.unsigned c crypto origin w = .ok t w')
    (hnonce : b.options.nonce.isNullish = true) :
    ∃ network calls address,
      networkFromOption (b.options.network.assign (.network funaiMainnet)) = .ok network ∧
      w'.calls = w.calls ++ calls ∧ nonceRequests calls = [spreadAddress address origin.address] ∧
      c32address crypto network.addressVersion.singleSig t.auth.spendingCondition.signer =
        .ok address := by
  obtain ⟨_, _, _, _, _, hvalidate, hmultiSig, heq⟩ := b.unsigned_eq c crypto
  rw [heq] at h
  obtain ⟨network, _, p, _, w₁, t₁, w₂, hnetwork, -, -, hvalid, hcondition, hfee, hlookup⟩ :=
    buildUnsigned_ok h
  obtain ⟨-, hconditionFee⟩ := originCondition_feeNonce hmultiSig hcondition
  obtain ⟨validateCalls, hvcalls, -, hvnonce⟩ := hvalidate p w
  rw [hvalid] at hvcalls
  obtain ⟨feeCalls, hfcalls, hfnonce, -⟩ :=
    estimateFee_filled (by split <;> exact hconditionFee) hfee
  rw [lookupNonce_ok, hnonce, if_pos rfl] at hlookup
  obtain ⟨address, haddress, nonce, -, rfl, rfl⟩ := hlookup
  refine ⟨network, validateCalls ++ feeCalls ++ [.fetchNonce (spreadAddress address origin.address)],
    address, hnetwork, ?_,
    by simp [hvnonce, hfnonce, Call.nonceAddress], by simpa using haddress⟩
  rw [World.calls_log, hfcalls, show w₁.calls = w.calls ++ validateCalls from hvcalls]
  simp

/-- A returned sponsoring that looked up the sponsor's nonce asked for the single-sig
address of the `hash160` of the sponsor's key; the sponsor condition's signer is the address
hash of that key under the sponsor's own hash mode. -/
theorem sponsorTransaction_nonceAddress {sponsorOptions : SponsorOptionsOpts}
    {w w' : World Transaction} {t : Transaction}
    (h : sponsorTransaction c crypto sponsorOptions w = .ok t w')
    (hnonce : sponsorOptions.sponsorNonce.isNullish = true) :
    ∃ network sponsorPubKey key calls address sponsor,
      networkFromOption (sponsorOptions.network.assign
        (.network (deriveNetworkFromTx w.heap))) = .ok network ∧
      privateKeyToPublic crypto sponsorOptions.sponsorPrivateKey = .ok sponsorPubKey ∧
      hexToBytes sponsorPubKey = .ok key ∧
      w'.calls = w.calls ++ calls ∧ nonceRequests calls = [address] ∧
      c32address crypto network.addressVersion.singleSig (crypto.hash160 key) = .ok address ∧
      t.auth.sponsorCondition = some sponsor ∧
      ∃ hashMode sponsorAddress, sponsor.hashMode = .singleSig hashMode ∧
        addressFromPublicKeys crypto 0 (.singleSig hashMode) 1 [key] = .ok sponsorAddress ∧
        sponsor.signer = sponsorAddress.hash160 := by
  obtain ⟨network, sponsorPubKey, fee, nonce, hashMode, condition, w₁, w₂, hnetwork, hpub, hfee,
    hlookup, -, hcondition, hcalls, _, _, hsponsor⟩ := sponsorTransaction_ok c crypto sponsorOptions h
  obtain ⟨key, sponsorAddress, hkey, hsponsorAddress, hsigner, hmode, -, hconditionFee⟩ :=
    createSingleSigSpendingCondition_ok crypto hcondition
  obtain ⟨feeCalls, hfcalls, hfnonce, -⟩ := sponsorFee_filled hfee hconditionFee
  have hstage := sponsorNonceLookup_ok hlookup
  rw [hnonce, if_pos rfl] at hstage
  obtain ⟨address, _, haddress, -, -, rfl⟩ := hstage
  simp only [createFunaiPublicKey] at hkey
  simp only [publicKeyToAddress, hkey, except_ok_bind] at haddress
  refine ⟨network, sponsorPubKey, key, feeCalls ++ [.fetchNonce address], address, _, hnetwork,
    hpub, hkey, ?_, by simp [hfnonce, Call.nonceAddress], haddress, hsponsor, hashMode,
    sponsorAddress, by simp [hmode], hsponsorAddress, by simp [hsigner]⟩
  rw [hcalls, World.calls_log, hfcalls, List.append_assoc]

/-- The builders ask for the nonce of the origin signer's single-sig address, whatever the
origin's hash mode, unless the multi-sig options carry an `address`, which the spread of the
options puts in its place; `sponsorTransaction` asks for the P2PKH address of the sponsor's
key, whatever the sponsor's hash mode. -/
theorem nonce_lookup_address (b : Build) :
    (∀ origin (w : World σ) t w', b.unsigned c crypto origin w = .ok t w' →
      b.options.nonce.isNullish = true →
      ∃ network calls address,
        networkFromOption (b.options.network.assign (.network funaiMainnet)) = .ok network ∧
        w'.calls = w.calls ++ calls ∧ nonceRequests calls = [spreadAddress address origin.address] ∧
        c32address crypto network.addressVersion.singleSig t.auth.spendingCondition.signer =
          .ok address) ∧
    ∀ sponsorOptions (w : World Transaction) t w',
      sponsorTransaction c crypto sponsorOptions w = .ok t w' →
      sponsorOptions.sponsorNonce.isNullish = true →
      ∃ network sponsorPubKey key calls address sponsor,
        networkFromOption (sponsorOptions.network.assign
          (.network (deriveNetworkFromTx w.heap))) = .ok network ∧
        privateKeyToPublic crypto sponsorOptions.sponsorPrivateKey = .ok sponsorPubKey ∧
        hexToBytes sponsorPubKey = .ok key ∧
        w'.calls = w.calls ++ calls ∧ nonceRequests calls = [address] ∧
        c32address crypto network.addressVersion.singleSig (crypto.hash160 key) = .ok address ∧
        t.auth.sponsorCondition = some sponsor ∧
        ∃ hashMode sponsorAddress, sponsor.hashMode = .singleSig hashMode ∧
          addressFromPublicKeys crypto 0 (.singleSig hashMode) 1 [key] = .ok sponsorAddress ∧
          sponsor.signer = sponsorAddress.hash160 :=
  ⟨fun _ _ _ _ h hnonce => b.unsigned_nonceAddress h hnonce,
    fun _ _ _ _ h hnonce => sponsorTransaction_nonceAddress h hnonce⟩

/-- Two builds with the nonce left out ask for another account's nonce: a 1-of-1 multi-sig
transfer on mainnet asks for the single-sig address of its signer, not its multi-sig address,
and a P2WPKH sponsor for an address whose hash is not the sponsor condition's signer. -/
theorem nonce_lookup_other_account :
    (∃ t w', (Build.tokenTransfer { toyTransfer with nonce := .absent }).unsigned toyServices
        toyCrypto (.multiSig (soloMember "02ab")) (⟨[], ()⟩ : World Unit) = .ok t w' ∧
      ∃ address multiSigAddress, nonceRequests w'.calls = [address] ∧
        c32address toyCrypto funaiMainnet.addressVersion.multiSig
          t.auth.spendingCondition.signer = .ok multiSigAddress ∧
        address ≠ multiSigAddress) ∧
    ∃ t w', sponsorTransaction toyServices toyCrypto
        { sponsorPrivateKey := .hex toyKey, fee := .value (.bigint 0),
          sponsorAddressHashmode := .value .P2WPKH } ⟨[], toySponsoredTransfer⟩ = .ok t w' ∧
      ∃ address sponsor sponsorAddress, nonceRequests w'.calls = [address] ∧
        t.auth.sponsorCondition = some sponsor ∧
        c32address toyCrypto funaiMainnet.addressVersion.singleSig sponsor.signer =
          .ok sponsorAddress ∧
        address ≠ sponsorAddress :=
  ⟨⟨_, _, rfl, _, _, rfl, rfl, by decide⟩, ⟨_, _, rfl, _, _, _, rfl, rfl, rfl, by decide⟩⟩

end FunaiSdk
