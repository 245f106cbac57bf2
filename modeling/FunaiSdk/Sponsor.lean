import FunaiSdk.Builders

/-!
# Sponsoring a transaction

`sponsorTransaction` works on the caller's transaction object, the heap of its run. It writes
the fee estimate into that object as soon as the estimate arrives, then looks up the
sponsor's nonce, builds the sponsor condition, sets it on the object, and returns the
sponsor-signed copy. A rejected run leaves the caller's transaction as it was, unless it was
rejected after the fee estimate: the transaction then keeps the estimated fee.
-/

namespace FunaiSdk

variable {σ : Type} (c : Collaborators) (crypto : Crypto)

/-- Modelled from the spec: the network a transaction's version belongs to. -/
def deriveNetworkFromTx (transaction : Transaction) : FunaiNetwork :=
  if transaction.transactionVersion = funaiMainnet.transactionVersion then funaiMainnet
  else funaiTestnet

/-- `SponsorOptionsOpts`; the transaction it names is the caller's object, in the heap. -/
structure SponsorOptionsOpts where
  sponsorPrivateKey : KeyInput
  fee : JsOpt IntegerType := .absent
  sponsorNonce : JsOpt IntegerType := .absent
  sponsorAddressHashmode : JsOpt SingleSigHashMode := .absent
  network : JsOpt NetworkInput := .absent

/-- The fee estimate of `sponsorTransaction`, for the payload types it supports. -/
def sponsorFeeEstimate (transaction : Transaction) : Run σ Int :=
  match transaction.payload.payloadType with
  | .tokenTransfer | .smartContract | .versionedSmartContract | .contractCall =>
    fetchFeeEstimate c transaction
  | type => throw ("Sponsored transactions not supported for transaction type " ++ type.name)

/-- The sponsor's hash mode after the defaults: one given as `undefined` or `null` has no
address construction. -/
def sponsorHashMode : JsOpt SingleSigHashMode → Except String SingleSigHashMode
  | .value hashMode => .ok hashMode
  | .null => .error "Not yet implemented: address construction using public keys for hash mode: null"
  | _ => .error
    "Not yet implemented: address construction using public keys for hash mode: undefined"

/-- `if (sponsorOptions.fee == null) { ... }`: the estimate is written into the caller's
transaction at once, and becomes the sponsor's fee. -/
def sponsorFee (sponsorOptions : SponsorOptionsOpts) (transaction : Transaction) :
    Run Transaction (JsOpt IntegerType) :=
  if sponsorOptions.fee.isNullish then do
    let txFee ← sponsorFeeEstimate c transaction
    setHeap (transaction.setFee txFee)
    pure (.value (.bigint txFee))
  else pure (sponsorOptions.fee.assign (.number 0))

/-- `if (sponsorOptions.sponsorNonce == null) { ... }`: the nonce of the single-sig address
of the sponsor's public key. -/
def sponsorNonceLookup (sponsorOptions : SponsorOptionsOpts) (network : FunaiNetwork)
    (sponsorPubKey : String) : Run Transaction (JsOpt IntegerType) :=
  if sponsorOptions.sponsorNonce.isNullish then do
    let address ← liftExcept
      (publicKeyToAddress crypto network.addressVersion.singleSig sponsorPubKey)
    let sponsorNonce ← fetchNonce c address
    pure (.value (.bigint sponsorNonce))
  else pure (sponsorOptions.sponsorNonce.assign (.number 0))

/-- Sponsor the transaction in the heap, which is mutated in place: its fee is set as soon
as it is estimated, and its sponsor condition once built. The signed copy is returned. -/
def sponsorTransaction (sponsorOptions : SponsorOptionsOpts) : Run Transaction Transaction := do
  let transaction ← getHeap
  let network ← liftExcept (networkFromOption
    (sponsorOptions.network.assign (.network (deriveNetworkFromTx transaction))))
  let sponsorPubKey ← liftExcept (privateKeyToPublic crypto sponsorOptions.sponsorPrivateKey)
  let fee ← sponsorFee c sponsorOptions transaction
  let sponsorNonce ← sponsorNonceLookup c crypto sponsorOptions network sponsorPubKey
  let hashMode ← liftExcept (sponsorHashMode (sponsorOptions.sponsorAddressHashmode.assign .P2PKH))
  let sponsorSpendingCondition ← liftExcept
    (createSingleSigSpendingCondition crypto hashMode (.hex sponsorPubKey) sponsorNonce fee)
  let transaction ← getHeap
  setHeap (← liftExcept (transaction.setSponsor sponsorSpendingCondition))
  let privateKey ← liftExcept (privateKeyToBytes sponsorOptions.sponsorPrivateKey)
  let signer := TransactionSigner.createSponsorSigner crypto (← getHeap) sponsorSpendingCondition
  return (signer.signSponsor crypto privateKey).transaction

/-- The sponsor condition of a sponsored authorization. -/
def Authorization.sponsorCondition : Authorization → Option SpendingCondition
  | .sponsored _ sponsor => some sponsor
  | .standard _ => none

section Stages

variable {c crypto} {sponsorOptions : SponsorOptionsOpts} {t : Transaction}
  {w w' : World Transaction}

theorem sponsorFeeEstimate_ok {fee : Int} (h : sponsorFeeEstimate c t w = .ok fee w') :
    c.fetchFeeEstimate t = .ok fee ∧ w' = w.log (.fetchFeeEstimate t) := by
  rcases hp : t.payload.payloadType <;>
    simp only [sponsorFeeEstimate, hp, fetchFeeEstimate, request_apply_ok, throw_apply] at h
  all_goals first
    | exact h
    | cases h

theorem sponsorFeeEstimate_error_heap {e : String} (h : sponsorFeeEstimate c t w = .error e w') :
    w'.heap = w.heap := by
  rcases hp : t.payload.payloadType <;>
    simp only [sponsorFeeEstimate, hp, fetchFeeEstimate, request_apply_error, throw_apply,
      EStateM.Result.error.injEq] at h
  all_goals first
    | rw [h.2]; rfl
    | rw [← h.2]

theorem sponsorFee_ok {fee : JsOpt IntegerType} (h : sponsorFee c sponsorOptions t w = .ok fee w') :
    if sponsorOptions.fee.isNullish then ∃ txFee, c.fetchFeeEstimate t = .ok txFee ∧
      fee = .value (.bigint txFee) ∧
      w' = { w.log (.fetchFeeEstimate t) with heap := t.setFee txFee }
    else fee = sponsorOptions.fee ∧ w' = w := by
  unfold sponsorFee at h
  cases hnull : sponsorOptions.fee.isNullish
  · rcases hfee : sponsorOptions.fee with _ | _ | _ | v <;>
      simp_all [JsOpt.isNullish, JsOpt.assign]
  · simp only [hnull, if_true, bind_ok, setHeap_bind, pure_apply, EStateM.Result.ok.injEq] at h
    obtain ⟨txFee, _, hestimate, rfl, rfl⟩ := h
    obtain ⟨hanswer, rfl⟩ := sponsorFeeEstimate_ok hestimate
    exact ⟨txFee, hanswer, rfl, rfl⟩

theorem sponsorFee_error_heap {e : String} (h : sponsorFee c sponsorOptions t w = .error e w') :
    w'.heap = w.heap := by
  unfold sponsorFee at h
  split at h
  · simp only [bind_error, setHeap_bind, pure_apply] at h
    rcases h with h | ⟨_, _, _, h⟩
    · exact sponsorFeeEstimate_error_heap h
    · cases h
  · cases h

theorem sponsorNonceLookup_ok {network : FunaiNetwork} {sponsorPubKey : String}
    {nonce : JsOpt IntegerType}
    (h : sponsorNonceLookup c crypto sponsorOptions network sponsorPubKey w = .ok nonce w') :
    if sponsorOptions.sponsorNonce.isNullish then ∃ address answer,
      publicKeyToAddress crypto network.addressVersion.singleSig sponsorPubKey = .ok address ∧
      c.fetchNonce address = .ok answer ∧ nonce = .value (.bigint answer) ∧
      w' = w.log (.fetchNonce address)
    else nonce = sponsorOptions.sponsorNonce ∧ w' = w := by
  unfold sponsorNonceLookup at h
  cases hnull : sponsorOptions.sponsorNonce.isNullish
  · rcases hnonce : sponsorOptions.sponsorNonce with _ | _ | _ | v <;>
      simp_all [JsOpt.isNullish, JsOpt.assign]
  · simp only [hnull, if_true, bind_ok, liftExcept_apply_ok, fetchNonce, request_apply_ok,
      pure_apply, EStateM.Result.ok.injEq] at h
    obtain ⟨address, _, ⟨haddress, rfl⟩, answer, _, ⟨hanswer, rfl⟩, rfl, rfl⟩ := h
    exact ⟨address, answer, haddress, hanswer, rfl, rfl⟩

theorem sponsorNonceLookup_error_heap {network : FunaiNetwork} {sponsorPubKey : String}
    {e : String}
    (h : sponsorNonceLookup c crypto sponsorOptions network sponsorPubKey w = .error e w') :
    w'.heap = w.heap := by
  unfold sponsorNonceLookup at h
  split at h
  · simp only [bind_error, bind_ok, liftExcept_apply_error, liftExcept_apply_ok, fetchNonce,
      request_apply_error, request_apply_ok, pure_apply] at h
    rcases h with ⟨-, rfl⟩ | ⟨_, _, ⟨-, rfl⟩, ⟨-, rfl⟩ | ⟨_, _, _, h⟩⟩
    · rfl
    · rfl
    · cases h
  · cases h

end Stages

/-- A sponsored transfer of 1 from the toy key's account, with fee and nonce 0. -/
def toySponsoredTransfer : Transaction :=
  ⟨funaiMainnet.transactionVersion, funaiMainnet.chainId,
    createSponsoredAuth toyCrypto
      (.singleSig ⟨.P2PKH, toyCrypto.hash160 [0x02, 0xab], 0, 0, .compressed,
        emptyMessageSignature⟩),
    .tokenTransfer "ST000000000000000000002AMW42H" 1 "", .deny, []⟩

/-- A rejection leaves the caller's transaction as it was, or, after the fee estimate, with
its fee set to the estimate: the authorization is then not the one the caller had. -/
theorem sponsorTransaction_error_heap (sponsorOptions : SponsorOptionsOpts)
    {w w' : World Transaction} {e : String}
    (h : sponsorTransaction c crypto sponsorOptions w = .error e w') :
    w'.heap = w.heap ∨ ∃ fee, sponsorOptions.fee.isNullish = true ∧
      c.fetchFeeEstimate w.heap = .ok fee ∧ w'.heap = w.heap.setFee fee := by
  simp only [sponsorTransaction, getHeap_bind, bind_error, bind_ok, liftExcept_apply_ok,
    liftExcept_apply_error] at h
  rcases h with ⟨-, rfl⟩ | ⟨network, _, ⟨-, rfl⟩, h⟩
  · exact .inl rfl
  rcases h with ⟨-, rfl⟩ | ⟨sponsorPubKey, _, ⟨hpub, rfl⟩, h⟩
  · exact .inl rfl
  rcases h with hfee | ⟨fee, w₁, hfee, h⟩
  · exact .inl (sponsorFee_error_heap hfee)
  -- every later rejection keeps the heap the fee stage left
  suffices hkeep : w'.heap = w₁.heap by
    have hstage := sponsorFee_ok hfee
    split at hstage
    · obtain ⟨txFee, hanswer, -, rfl⟩ := hstage
      exact .inr ⟨txFee, by assumption, hanswer, hkeep⟩
    · exact .inl (hkeep.trans (congrArg World.heap hstage.2))
  rcases h with hnonce | ⟨nonce, w₂, hnonce, h⟩
  · exact sponsorNonceLookup_error_heap hnonce
  have hw₂ : w₂.heap = w₁.heap := by
    have hstage := sponsorNonceLookup_ok hnonce
    split at hstage
    · obtain ⟨_, _, _, _, _, rfl⟩ := hstage; rfl
    · rw [hstage.2]
  rw [← hw₂]
  rcases h with ⟨-, rfl⟩ | ⟨hashMode, _, ⟨-, rfl⟩, h⟩
  · rfl
  rcases h with ⟨-, rfl⟩ | ⟨condition, _, ⟨-, rfl⟩, h⟩
  · rfl
  rcases h with ⟨-, rfl⟩ | ⟨t, _, ⟨-, rfl⟩, h | ⟨_, _, -, h⟩⟩
  · rfl
  · cases h
  · obtain ⟨bytes, hbytes, -⟩ := privateKeyToPublic_ok crypto hpub
    simp [hbytes] at h

/-- Services whose nonce lookup fails. -/
def nonceOffline : Collaborators :=
  { toyServices with fetchNonce := fun _ => .error "offline" }

/-- Sponsoring the toy transfer with its fee omitted, against a nonce lookup that fails:
the rejection leaves the caller's transaction with the estimated fee 180 as its sponsor's
fee. -/
theorem sponsorTransaction_nonce_failure_keeps_fee :
    ∃ e w', sponsorTransaction nonceOffline toyCrypto { sponsorPrivateKey := .hex toyKey }
        ⟨[], toySponsoredTransfer⟩ = .error e w' ∧
      (w'.heap = toySponsoredTransfer ∨ ∃ fee, JsOpt.isNullish (α := IntegerType) .absent ∧
        nonceOffline.fetchFeeEstimate toySponsoredTransfer = .ok fee ∧
        w'.heap = toySponsoredTransfer.setFee fee) ∧
      w'.heap.auth ≠ toySponsoredTransfer.auth :=
  ⟨_, _, rfl, @sponsorTransaction_error_heap nonceOffline toyCrypto
    { sponsorPrivateKey := .hex toyKey } ⟨[], toySponsoredTransfer⟩ _ _ rfl, by decide⟩

theorem sponsorCondition_signSponsor {t t' : Transaction} {condition : SpendingCondition}
    (privateKey : Bytes) (h : t.setSponsor condition = .ok t') :
    ∃ encoding signature,
      ((TransactionSigner.createSponsorSigner crypto t' condition).signSponsor crypto
        privateKey).transaction.auth.sponsorCondition =
        some (condition.appendSignature encoding signature) := by
  rcases ht : t.auth with origin | ⟨origin, sponsor⟩ <;>
    simp only [Transaction.setSponsor, Authorization.setSponsor, ht, except_ok_bind,
      except_error_bind, except_pure, Except.ok.injEq, reduceCtorEq] at h
  subst h
  exact ⟨_, _, rfl⟩

/-- A returned sponsoring: the steps in the source's order, and the sponsor condition of the
returned copy, which is the condition built with its signature appended. -/
theorem sponsorTransaction_ok (sponsorOptions : SponsorOptionsOpts) {w w' : World Transaction}
    {t : Transaction} (h : sponsorTransaction c crypto sponsorOptions w = .ok t w') :
    ∃ network sponsorPubKey fee nonce hashMode condition w₁ w₂,
      networkFromOption (sponsorOptions.network.assign
        (.network (deriveNetworkFromTx w.heap))) = .ok network ∧
      privateKeyToPublic crypto sponsorOptions.sponsorPrivateKey = .ok sponsorPubKey ∧
      sponsorFee c sponsorOptions w.heap w = .ok fee w₁ ∧
      sponsorNonceLookup c crypto sponsorOptions network sponsorPubKey w₁ = .ok nonce w₂ ∧
      sponsorHashMode (sponsorOptions.sponsorAddressHashmode.assign .P2PKH) = .ok hashMode ∧
      createSingleSigSpendingCondition crypto hashMode (.hex sponsorPubKey) nonce fee =
        .ok condition ∧
      w'.calls = w₂.calls ∧
      ∃ encoding signature,
        t.auth.sponsorCondition = some (condition.appendSignature encoding signature) := by
  simp only [sponsorTransaction, getHeap_bind, bind_ok, liftExcept_apply_ok, setHeap_bind,
    pure_apply, EStateM.Result.ok.injEq] at h
  obtain ⟨network, _, ⟨hnetwork, rfl⟩, sponsorPubKey, _, ⟨hpub, rfl⟩, fee, w₁, hfee, nonce, w₂,
    hnonce, hashMode, _, ⟨hmode, rfl⟩, condition, _, ⟨hcondition, rfl⟩, t', _, ⟨hset, rfl⟩,
    privateKey, _, ⟨-, rfl⟩, rfl, rfl⟩ := h
  exact ⟨network, sponsorPubKey, fee, nonce, hashMode, condition, w₁, _, hnetwork, hpub, hfee,
    hnonce, hmode, hcondition, rfl, sponsorCondition_signSponsor crypto privateKey hset⟩

end FunaiSdk
