import FunaiSdk.FeeNonce

/-!
# What a verifier reads from a signed transaction

A verifier sees only the transaction: it computes the initial sighash, the pre-sign hash of
each signature and the origin's final sighash, and checks each signature against the signer
hash next to it. A single-sig build signs its origin over the initial sighash; a sponsor
signs over the origin's final sighash and leaves the origin as it was, so a sponsored build
carries both signatures, each over what the verifier computes from the final transaction.
-/

namespace FunaiSdk

variable {σ : Type} (c : Collaborators) (crypto : Crypto)

/-- A single-sig condition a verifier accepts at the pre-sign hash `preSign`: it holds the
signature of `preSign` by `privateKey`, and its signer is the address hash of that key's
public key under the condition's hash mode. -/
def SingleSigSpendingCondition.SignedBy (condition : SingleSigSpendingCondition)
    (preSign privateKey : Bytes) : Prop :=
  condition.signature = crypto.sign preSign privateKey ∧
    ∃ address, addressFromPublicKeys crypto 0 (.singleSig condition.hashMode) 1
      [crypto.publicKeyOf privateKey] = .ok address ∧ condition.signer = address.hash160

/-- A single-sig origin signed by `privateKey` over the pre-sign hash of the transaction's
initial sighash, with the standard type and the origin's fee and nonce. -/
def OriginSigned (t : Transaction) (privateKey : Bytes) : Prop :=
  ∃ origin, t.auth.spendingCondition = .singleSig origin ∧
    origin.SignedBy crypto
      (sigHashPreSign crypto (signBegin crypto t) .standard origin.fee origin.nonce) privateKey

/-- A single-sig sponsor signed by `privateKey` over the pre-sign hash of the origin's final
sighash, with the sponsored type and the sponsor's fee and nonce. -/
def SponsorSigned (t : Transaction) (privateKey : Bytes) : Prop :=
  ∃ origin sponsor, t.auth = .sponsored origin (.singleSig sponsor) ∧
    sponsor.SignedBy crypto (sigHashPreSign crypto
      (TransactionSigner.originFinalSigHash crypto t) .sponsored sponsor.fee sponsor.nonce)
      privateKey

/-- The signer of an accepted P2PKH origin is the `hash160` of the key's public key. -/
theorem OriginSigned.signer_of_P2PKH {t : Transaction} {privateKey : Bytes}
    (h : OriginSigned crypto t privateKey)
    (hmode : t.auth.spendingCondition.hashMode = .singleSig .P2PKH) :
    t.auth.spendingCondition.signer = crypto.hash160 (crypto.publicKeyOf privateKey) := by
  obtain ⟨origin, horigin, -, address, haddress, hsigner⟩ := h
  simp only [horigin, SpendingCondition.hashMode, AddressHashMode.singleSig.injEq] at hmode
  simp only [hmode, addressFromPublicKeys, reduceCtorEq, if_false, Except.ok.injEq] at haddress
  simp [horigin, SpendingCondition.signer, hsigner, ← haddress]

/-- The sponsor signs from the origin's final sighash, and its signature fills the sponsor
condition. -/
theorem signSponsor_createSponsorSigner {crypto} (t : Transaction)
    (origin sponsor condition : SpendingCondition) (privateKey : Bytes) :
    ((TransactionSigner.createSponsorSigner crypto { t with auth := .sponsored origin sponsor }
        condition).signSponsor crypto privateKey).transaction =
      { t with auth := .sponsored origin (condition.appendSignature (privateKeyEncoding privateKey)
        (crypto.sign (sigHashPreSign crypto (TransactionSigner.originFinalSigHash crypto
          { t with auth := .sponsored origin condition }) .sponsored condition.fee condition.nonce)
          privateKey)) } := rfl

namespace Transaction

theorem setSponsor_setFee (t : Transaction) (fee : Int) (condition : SpendingCondition) :
    (t.setFee fee).setSponsor condition = t.setSponsor condition := by
  rcases t with ⟨_, _, _ | _, _, _, _⟩ <;> rfl

theorem setSponsor_ok {t t' : Transaction} {condition : SpendingCondition}
    (h : t.setSponsor condition = .ok t') :
    ∃ origin sponsor, t.auth = .sponsored origin sponsor ∧
      t' = { t with auth := .sponsored origin condition } := by
  rcases ht : t.auth with origin | ⟨origin, sponsor⟩ <;>
    simp only [setSponsor, Authorization.setSponsor, ht, except_ok_bind, except_error_bind,
      except_pure, Except.ok.injEq, reduceCtorEq] at h
  exact ⟨origin, sponsor, rfl, h.symm⟩

end Transaction

section Conditions

variable {crypto}

/-- A returned single-sig condition: the address hash of its key, with an empty signature. -/
theorem createSingleSigSpendingCondition_eq {hashMode : SingleSigHashMode} {pubKey : KeyInput}
    {nonce fee : JsOpt IntegerType} {condition : SpendingCondition}
    (h : createSingleSigSpendingCondition crypto hashMode pubKey nonce fee = .ok condition) :
    ∃ key address nonce' fee', createFunaiPublicKey pubKey = .ok key ∧
      addressFromPublicKeys crypto 0 (.singleSig hashMode) 1 [key] = .ok address ∧
      condition = .singleSig ⟨hashMode, address.hash160, nonce', fee', publicKeyEncoding key,
        emptyMessageSignature⟩ := by
  simp only [createSingleSigSpendingCondition, except_bind_eq_ok, except_pure,
    Except.ok.injEq] at h
  obtain ⟨key, hkey, address, haddress, nonce', -, fee', -, rfl⟩ := h
  exact ⟨key, address, nonce', fee', hkey, haddress, rfl⟩

/-- The key written out by `privateKeyToPublic` reads back as the private key's public key. -/
theorem createFunaiPublicKey_privateKeyToPublic {privateKey : KeyInput} {publicKey : String}
    {bytes key : Bytes} (hpublic : privateKeyToPublic crypto privateKey = .ok publicKey)
    (hbytes : privateKeyToBytes privateKey = .ok bytes)
    (hkey : createFunaiPublicKey (.hex publicKey) = .ok key) :
    key = crypto.publicKeyOf bytes := by
  obtain ⟨bytes', hbytes', rfl⟩ := privateKeyToPublic_ok crypto hpublic
  rw [hbytes, Except.ok.injEq] at hbytes'
  simpa [createFunaiPublicKey, hbytes'] using hkey.symm

end Conditions

namespace TransactionSigner

/-- Signing the origin keeps the initial sighash. -/
theorem signBegin_signOrigin (s : TransactionSigner) (privateKey : Bytes) :
    signBegin crypto (s.signOrigin crypto privateKey).transaction = signBegin crypto s.transaction :=
  signBegin_setOrigin crypto (SpendingCondition.clear_appendSignature _ _ _)

variable {crypto}

/-- A fresh signer over a single-sig origin signs the pre-sign hash of the initial sighash. -/
theorem signOrigin_new_singleSig {t : Transaction} {origin : SingleSigSpendingCondition}
    (ht : t.auth.spendingCondition = .singleSig origin) (privateKey : Bytes) :
    ((new crypto t).signOrigin crypto privateKey).transaction =
      { t with auth := t.auth.setOrigin (.singleSig { origin with
          signature := crypto.sign
            (sigHashPreSign crypto (signBegin crypto t) .standard origin.fee origin.nonce)
            privateKey }) } := by
  simp [signOrigin, new, withOrigin, originSigHash, ht, SpendingCondition.appendSignature,
    SpendingCondition.fields, SpendingCondition.fee, SpendingCondition.nonce]

end TransactionSigner

section Builds

variable {c crypto} {w w' : World σ} {t t' : Transaction}

/-- Filling the fee or the nonce leaves the origin's cleared form. -/
theorem estimateFee_clear {omitted : Bool} (h : estimateFee c omitted t w = .ok t' w') :
    t'.auth.spendingCondition.clear = t.auth.spendingCondition.clear := by
  rw [estimateFee_ok] at h
  split at h
  · obtain ⟨_, _, _, rfl⟩ := h
    simp
  · rw [h.1]

theorem lookupNonce_clear {omitted : Bool} {network : FunaiNetwork} {addressOption : JsOpt String}
    (h : lookupNonce c crypto omitted network addressOption t w = .ok t' w') :
    t'.auth.spendingCondition.clear = t.auth.spendingCondition.clear := by
  rw [lookupNonce_ok] at h
  split at h
  · obtain ⟨_, _, _, _, _, rfl⟩ := h
    simp
  · rw [h.1]

/-- An unsigned build with a single-sig origin has the P2PKH condition of the key given. -/
theorem Build.unsigned_singleSig_origin (b : Build) {publicKey : KeyInput}
    (h : b.unsigned c crypto (.singleSig publicKey) w = .ok t w') :
    ∃ key address origin, createFunaiPublicKey publicKey = .ok key ∧
      addressFromPublicKeys crypto 0 (.singleSig .P2PKH) 1 [key] = .ok address ∧
      t.auth.spendingCondition = .singleSig origin ∧ origin.hashMode = .P2PKH ∧
      origin.signer = address.hash160 := by
  obtain ⟨_, _, _, _, _, -, -, heq⟩ := b.unsigned_eq c crypto
  rw [heq] at h
  obtain ⟨_, _, _, condition, _, t₁, _, -, -, -, -, hcondition, hfee, hnonce⟩ := buildUnsigned_ok h
  obtain ⟨key, address, nonce, fee, hkey, haddress, rfl⟩ :=
    createSingleSigSpendingCondition_eq hcondition
  have hclear : t.auth.spendingCondition.clear =
      .singleSig ⟨.P2PKH, address.hash160, 0, 0, publicKeyEncoding key, emptyMessageSignature⟩ := by
    rw [lookupNonce_clear hnonce, estimateFee_clear hfee]
    split <;> rfl
  rcases ht : t.auth.spendingCondition with origin | _ <;>
    simp only [ht, SpendingCondition.clear, SpendingCondition.singleSig.injEq,
      SingleSigSpendingCondition.mk.injEq, reduceCtorEq] at hclear
  exact ⟨key, address, origin, hkey, haddress, rfl, hclear.1, hclear.2.1⟩

/-- A returned single-sig branch: the unsigned build under the public key of the sender's
private key, and its origin signed with that key. -/
theorem signSingleSig_ok {makeUnsigned : OriginOptions → Run σ Transaction}
    {senderKey : KeyInput} (h : signSingleSig crypto makeUnsigned senderKey w = .ok t w') :
    ∃ publicKey privateKey t₁, privateKeyToPublic crypto senderKey = .ok publicKey ∧
      privateKeyToBytes senderKey = .ok privateKey ∧
      makeUnsigned (.singleSig (.hex publicKey)) w = .ok t₁ w' ∧
      t = ((TransactionSigner.new crypto t₁).signOrigin crypto privateKey).transaction := by
  simp only [signSingleSig, bind_ok, liftExcept_apply_ok, pure_apply,
    EStateM.Result.ok.injEq] at h
  obtain ⟨publicKey, _, ⟨hpublic, rfl⟩, t₁, _, hunsigned, privateKey, _, ⟨hprivate, rfl⟩, rfl,
    rfl⟩ := h
  exact ⟨publicKey, privateKey, t₁, hpublic, hprivate, hunsigned, rfl⟩

end Builds

variable {w w' : World σ} {t : Transaction}

/-- A returned single-sig signed build verifies: its P2PKH origin is signed by the sender's
key over the pre-sign hash of the returned transaction's initial sighash. -/
theorem Build.signed_singleSig_verifies (b : Build) (senderKey : KeyInput)
    (h : b.signed c crypto (.singleSig senderKey) w = .ok t w') :
    ∃ privateKey, privateKeyToBytes senderKey = .ok privateKey ∧
      t.auth.spendingCondition.hashMode = .singleSig .P2PKH ∧ OriginSigned crypto t privateKey := by
  rw [Build.signed_singleSig_eq] at h
  obtain ⟨publicKey, privateKey, t₁, hpublic, hprivate, hunsigned, rfl⟩ := signSingleSig_ok h
  obtain ⟨key, address, origin, hkey, haddress, horigin, hmode, hsigner⟩ :=
    b.unsigned_singleSig_origin hunsigned
  obtain rfl := createFunaiPublicKey_privateKeyToPublic hpublic hprivate hkey
  have hbegin := TransactionSigner.signBegin_signOrigin crypto (.new crypto t₁) privateKey
  rw [TransactionSigner.signOrigin_new_singleSig horigin] at hbegin ⊢
  refine ⟨privateKey, hprivate, by simp [SpendingCondition.hashMode, hmode], _,
    Authorization.spendingCondition_setOrigin _ _, by rw [hbegin]; rfl, address, ?_, hsigner⟩
  rwa [hmode]

section Sponsoring

variable {c crypto} {sponsorOptions : SponsorOptionsOpts} {w w' : World Transaction}

/-- The nonce lookup leaves the heap. -/
theorem sponsorNonceLookup_heap {network : FunaiNetwork} {sponsorPubKey : String}
    {nonce : JsOpt IntegerType}
    (h : sponsorNonceLookup c crypto sponsorOptions network sponsorPubKey w = .ok nonce w') :
    w'.heap = w.heap := by
  have hstage := sponsorNonceLookup_ok h
  split at hstage
  · obtain ⟨_, _, _, _, _, rfl⟩ := hstage
    rfl
  · rw [hstage.2]

/-- The fee estimate written into the caller's transaction is overwritten when the sponsor
condition is set. -/
theorem sponsorFee_setSponsor {fee : JsOpt IntegerType}
    (h : sponsorFee c sponsorOptions w.heap w = .ok fee w') (condition : SpendingCondition) :
    w'.heap.setSponsor condition = w.heap.setSponsor condition := by
  have hstage := sponsorFee_ok h
  split at hstage
  · obtain ⟨txFee, -, -, rfl⟩ := hstage
    exact Transaction.setSponsor_setFee _ _ _
  · rw [hstage.2]

end Sponsoring

/-- A returned sponsoring keeps the caller's origin, and with it the initial sighash, and
signs its single-sig sponsor condition with the sponsor's key. -/
theorem sponsorTransaction_verifies (sponsorOptions : SponsorOptionsOpts)
    {w w' : World Transaction} {t : Transaction}
    (h : sponsorTransaction c crypto sponsorOptions w = .ok t w') :
    ∃ privateKey sponsor, privateKeyToBytes sponsorOptions.sponsorPrivateKey = .ok privateKey ∧
      t = { w.heap with auth := .sponsored w.heap.auth.spendingCondition sponsor } ∧
      signBegin crypto t = signBegin crypto w.heap ∧ SponsorSigned crypto t privateKey := by
  simp only [sponsorTransaction, getHeap_bind, bind_ok, liftExcept_apply_ok, setHeap_bind,
    pure_apply, EStateM.Result.ok.injEq] at h
  obtain ⟨_, _, ⟨-, rfl⟩, sponsorPubKey, _, ⟨hpublic, rfl⟩, _, w₁, hfee, _, w₂, hnonce, h⟩ := h
  obtain ⟨hashMode, _, ⟨-, rfl⟩, condition, _, ⟨hcondition, rfl⟩, h⟩ := h
  obtain ⟨t', _, ⟨hset, rfl⟩, privateKey, _, ⟨hprivate, rfl⟩, rfl, rfl⟩ := h
  rw [sponsorNonceLookup_heap hnonce, sponsorFee_setSponsor hfee] at hset
  obtain ⟨origin, _, hauth, rfl⟩ := Transaction.setSponsor_ok hset
  obtain ⟨key, address, _, _, hkey, haddress, rfl⟩ := createSingleSigSpendingCondition_eq hcondition
  obtain rfl := createFunaiPublicKey_privateKeyToPublic hpublic hprivate hkey
  rw [signSponsor_createSponsorSigner]
  refine ⟨privateKey, _, hprivate, by rw [hauth]; rfl, ?_, origin, _, rfl, rfl, address, haddress,
    rfl⟩
  unfold signBegin
  rw [hauth]
  rfl

/-- An origin signature stays accepted when the origin and the initial sighash stay. -/
theorem OriginSigned.of_signBegin {t t' : Transaction} {privateKey : Bytes}
    (h : OriginSigned crypto t privateKey)
    (horigin : t'.auth.spendingCondition = t.auth.spendingCondition)
    (hbegin : signBegin crypto t' = signBegin crypto t) : OriginSigned crypto t' privateKey := by
  rw [OriginSigned, horigin, hbegin]
  exact h

/-- A sponsored single-sig build, once sponsored, carries both signatures a verifier checks
on the final transaction: the sender's over the origin's pre-sign hash, and the sponsor's
over the pre-sign hash of the origin's final sighash. -/
theorem sponsored_build_verifies (b : Build) (senderKey : KeyInput)
    (sponsorOptions : SponsorOptionsOpts) {w w₁ : World σ} {t₀ : Transaction} {calls : List Call}
    {w' : World Transaction}
    (hbuild : b.signed c crypto (.singleSig senderKey) w = .ok t₀ w₁)
    (hsponsor : sponsorTransaction c crypto sponsorOptions ⟨calls, t₀⟩ = .ok t w') :
    ∃ privateKey sponsorKey, privateKeyToBytes senderKey = .ok privateKey ∧
      privateKeyToBytes sponsorOptions.sponsorPrivateKey = .ok sponsorKey ∧
      OriginSigned crypto t privateKey ∧ SponsorSigned crypto t sponsorKey := by
  obtain ⟨privateKey, hprivate, -, horigin⟩ := b.signed_singleSig_verifies c crypto senderKey hbuild
  obtain ⟨sponsorKey, _, hsponsorKey, rfl, hbegin, hsponsorSigned⟩ :=
    sponsorTransaction_verifies c crypto sponsorOptions hsponsor
  exact ⟨privateKey, sponsorKey, hprivate, hsponsorKey, horigin.of_signBegin crypto rfl hbegin,
    hsponsorSigned⟩

/-- A sponsored transfer of 1 with fee and nonce given. -/
def toySponsoredTransferOptions : TokenTransferOptions :=
  { toyTransfer with sponsored := .value true }

theorem sponsored_transfer_verifies :
    ∃ t₀ w₁ t w', (Build.tokenTransfer toySponsoredTransferOptions).signed toyServices toyCrypto
        (.singleSig (.hex toyKey)) (⟨[], ()⟩ : World Unit) = .ok t₀ w₁ ∧
      sponsorTransaction toyServices toyCrypto
        { sponsorPrivateKey := .hex toyKey, fee := .value (.bigint 0) } ⟨[], t₀⟩ = .ok t w' ∧
      ∃ privateKey sponsorKey, privateKeyToBytes (.hex toyKey) = .ok privateKey ∧
        privateKeyToBytes (.hex toyKey) = .ok sponsorKey ∧
        OriginSigned toyCrypto t privateKey ∧ SponsorSigned toyCrypto t sponsorKey := by
  refine ⟨_, _, _, _, rfl, rfl, ?_⟩
  exact sponsored_build_verifies toyServices toyCrypto (.tokenTransfer toySponsoredTransferOptions)
    (.hex toyKey) { sponsorPrivateKey := .hex toyKey, fee := .value (.bigint 0) } (w := ⟨[], ()⟩)
    rfl rfl

end FunaiSdk
