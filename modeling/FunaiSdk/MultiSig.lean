import FunaiSdk.Builders

/-!
# Signing a multi-sig origin

`mutatingSignAppendMultiSig` walks the member keys and appends one field per member: a
signature when a signer key's public key is spelled exactly as the member key, the member's
key otherwise. The unsigned builder and the loop resolve the member order from the same keys,
so a verifier replaying the fields reads back the keys the origin's signer was derived from.
A member key spelled in uppercase is never matched, and gets a raw key field.
-/

namespace FunaiSdk

variable (crypto : Crypto)

/-- The fields appended for the member keys `keys`, from the running sighash on: a
signature by a signer key whose public key is spelled as the member key, or, when no
signer key's is, the member key's bytes. -/
def StandFor (signerKeys : List String) (fee nonce : Int) :
    Bytes → List TransactionAuthField → List String → Prop
  | _, [], [] => True
  | sigHash, field :: fields, key :: keys =>
    ((∃ signerKey ∈ signerKeys, ∃ privateKey,
        privateKeyToPublic crypto (.hex signerKey) = .ok key ∧
        privateKeyToBytes (.hex signerKey) = .ok privateKey ∧
        field = TransactionSigner.signatureField crypto sigHash fee nonce privateKey) ∨
      ((∀ signerKey ∈ signerKeys, privateKeyToPublic crypto (.hex signerKey) ≠ .ok key) ∧
        ∃ bytes, hexToBytes key = .ok bytes ∧ field = TransactionSigner.publicKeyField bytes)) ∧
    StandFor signerKeys fee nonce (stepSigHash crypto .standard fee nonce sigHash field) fields keys
  | _, _, _ => False

def TransactionAuthField.isSignature (field : TransactionAuthField) : Bool :=
  field.contents matches .messageSignature _

/-- Whether the public key of `signerKey` is spelled `publicKey`, the test of the loop's
`find`. -/
def spellsPublicKey (signerKey publicKey : String) : Bool :=
  match privateKeyToPublic crypto (.hex signerKey) with
  | .ok derived => derived == publicKey
  | .error _ => false

variable {crypto}

theorem spellsPublicKey_iff (signerKey publicKey : String) :
    spellsPublicKey crypto signerKey publicKey = true ↔
      privateKeyToPublic crypto (.hex signerKey) = .ok publicKey := by
  unfold spellsPublicKey
  split <;> simp_all

section StandFor

variable {signerKeys : List String} {fee nonce : Int}

theorem length_eq_of_standFor :
    ∀ {sigHash : Bytes} {fields : List TransactionAuthField} {keys : List String},
      StandFor crypto signerKeys fee nonce sigHash fields keys → fields.length = keys.length
  | _, [], [], _ => rfl
  | _, _ :: _, _ :: _, ⟨_, h⟩ => congrArg (· + 1) (length_eq_of_standFor h)
  | _, [], _ :: _, h => h.elim
  | _, _ :: _, [], h => h.elim

/-- A verifier replaying the fields reads back the member keys' bytes, in order. -/
theorem readBackKeys_of_standFor :
    ∀ {sigHash : Bytes} {fields : List TransactionAuthField} {keys : List String},
      StandFor crypto signerKeys fee nonce sigHash fields keys →
      keys.mapM hexToBytes = .ok (readBackKeys crypto .standard fee nonce sigHash fields)
  | _, [], [], _ => rfl
  | sigHash, field :: fields, key :: keys, ⟨hfield, h⟩ => by
    have hkey : hexToBytes key = .ok (fieldKey crypto .standard fee nonce sigHash field) := by
      rcases hfield with ⟨_, _, privateKey, hpublic, hprivate, rfl⟩ | ⟨-, bytes, hbytes, rfl⟩
      · obtain ⟨bytes, hbytes, rfl⟩ := privateKeyToPublic_ok crypto hpublic
        rw [hprivate] at hbytes
        cases hbytes
        simp
      · simpa using hbytes
    simp only [List.mapM_cons, hkey, readBackKeys_of_standFor h, readBackKeys, except_ok_bind,
      except_pure]
  | _, [], _ :: _, h => h.elim
  | _, _ :: _, [], h => h.elim

/-- Each field and its member key: a signature, at some running sighash, by a signer key
spelling the key, or the key's bytes when no signer key spells it. -/
theorem forall₂_of_standFor {P : TransactionAuthField → String → Prop}
    (hsignature : ∀ sigHash signerKey privateKey key, signerKey ∈ signerKeys →
      privateKeyToPublic crypto (.hex signerKey) = .ok key →
      privateKeyToBytes (.hex signerKey) = .ok privateKey →
      P (TransactionSigner.signatureField crypto sigHash fee nonce privateKey) key)
    (hpublicKey : ∀ key bytes,
      (∀ signerKey ∈ signerKeys, privateKeyToPublic crypto (.hex signerKey) ≠ .ok key) →
      hexToBytes key = .ok bytes → P (TransactionSigner.publicKeyField bytes) key) :
    ∀ {sigHash : Bytes} {fields : List TransactionAuthField} {keys : List String},
      StandFor crypto signerKeys fee nonce sigHash fields keys → List.Forall₂ P fields keys
  | _, [], [], _ => .nil
  | _, _ :: _, _ :: _, ⟨hfield, h⟩ => by
    refine .cons ?_ (forall₂_of_standFor hsignature hpublicKey h)
    rcases hfield with ⟨signerKey, hmem, _, hpublic, hprivate, rfl⟩ | ⟨hnone, _, hbytes, rfl⟩
    · exact hsignature _ _ _ _ hmem hpublic hprivate
    · exact hpublicKey _ _ hnone hbytes
  | _, [], _ :: _, h => h.elim
  | _, _ :: _, [], h => h.elim

/-- The signature fields are those of the members whose key a signer key spells. -/
theorem signatures_of_standFor {sigHash : Bytes} {fields : List TransactionAuthField}
    {keys : List String} (h : StandFor crypto signerKeys fee nonce sigHash fields keys) :
    List.Forall₂ (fun field key => field.isSignature = signerKeys.any
      fun signerKey => spellsPublicKey crypto signerKey key) fields keys := by
  refine forall₂_of_standFor (fun _ signerKey _ key hmem hpublic _ => ?_)
    (fun key _ hnone _ => ?_) h
  · have hany : signerKeys.any (fun signerKey => spellsPublicKey crypto signerKey key) = true :=
      List.any_eq_true.mpr ⟨signerKey, hmem, (spellsPublicKey_iff signerKey key).mpr hpublic⟩
    rw [hany]
    rfl
  · have hany : signerKeys.any (fun signerKey => spellsPublicKey crypto signerKey key) = false :=
      List.any_eq_false.mpr fun signerKey hmem hspells =>
        hnone signerKey hmem ((spellsPublicKey_iff signerKey key).mp hspells)
    rw [hany]
    rfl

end StandFor

theorem findSignerKey_ok {publicKey : String} :
    ∀ {signerKeys : List String} {found : Option String},
      findSignerKey crypto publicKey signerKeys = .ok found →
      match found with
      | some signerKey =>
        signerKey ∈ signerKeys ∧ privateKeyToPublic crypto (.hex signerKey) = .ok publicKey
      | none => ∀ signerKey ∈ signerKeys, privateKeyToPublic crypto (.hex signerKey) ≠ .ok publicKey
  | [], _, h => by cases h; simp
  | key :: keys, found, h => by
    cases hkey : privateKeyToPublic crypto (.hex key) with
    | error e => simp [findSignerKey, hkey] at h
    | ok derived =>
      simp only [findSignerKey, hkey, except_ok_bind] at h
      split_ifs at h with hmatch
      · cases h
        exact ⟨List.mem_cons_self _ _, hkey.trans (congrArg _ hmatch)⟩
      · have ih := findSignerKey_ok h
        cases found with
        | some signerKey => exact ⟨List.mem_cons_of_mem _ ih.1, ih.2⟩
        | none =>
          intro signerKey hmem
          rcases List.mem_cons.mp hmem with rfl | hmem
          · rw [hkey]
            exact fun h => hmatch (Except.ok.inj h)
          · exact ih signerKey hmem

namespace TransactionSigner

theorem setOrigin_spendingCondition (a : Authorization) : a.setOrigin a.spendingCondition = a := by
  cases a <;> rfl

@[simp] theorem setOrigin_setOrigin (a : Authorization) (c c' : SpendingCondition) :
    (a.setOrigin c).setOrigin c' = a.setOrigin c' := by
  cases a <;> rfl

end TransactionSigner

/-- One member of the loop: it appends a field that stands for the member, and the rest of
the loop runs from the signer after it. -/
theorem signAppend_cons_ok {signerKeys pubs : List String} {publicKey : String}
    {s s' : TransactionSigner} {m : MultiSigSpendingCondition}
    (hm : s.transaction.auth.spendingCondition = .multiSig m)
    (h : signAppend crypto signerKeys s (publicKey :: pubs) = .ok s') :
    ∃ field,
      ((∃ signerKey ∈ signerKeys, ∃ privateKey,
          privateKeyToPublic crypto (.hex signerKey) = .ok publicKey ∧
          privateKeyToBytes (.hex signerKey) = .ok privateKey ∧
          field = TransactionSigner.signatureField crypto s.sigHash m.fee m.nonce privateKey) ∨
        ((∀ signerKey ∈ signerKeys, privateKeyToPublic crypto (.hex signerKey) ≠ .ok publicKey) ∧
          ∃ bytes, hexToBytes publicKey = .ok bytes ∧
            field = TransactionSigner.publicKeyField bytes)) ∧
      signAppend crypto signerKeys (s.appendField crypto m field) pubs = .ok s' := by
  simp only [signAppend] at h
  cases hfind : findSignerKey crypto publicKey signerKeys with
  | error e => simp [hfind] at h
  | ok found =>
    have hfound := findSignerKey_ok hfind
    simp only [hfind, except_ok_bind] at h
    cases found with
    | some signerKey =>
      obtain ⟨hmem, hpublic⟩ := hfound
      obtain ⟨privateKey, hprivate, -⟩ := privateKeyToPublic_ok crypto hpublic
      have hne : signerKey ≠ "" := by
        rintro rfl
        exact privateKeyToPublic_hex_empty crypto publicKey hpublic
      simp only [hne, ne_eq, not_false_eq_true, if_true, hprivate, except_ok_bind,
        except_pure, TransactionSigner.signOrigin_eq crypto hm] at h
      exact ⟨_, .inl ⟨signerKey, hmem, privateKey, hpublic, hprivate, rfl⟩, h⟩
    | none =>
      simp only [TransactionSigner.appendOrigin_eq crypto hm] at h
      cases hbytes : hexToBytes publicKey with
      | error e => simp [hbytes, Except.map] at h
      | ok bytes =>
        simp only [hbytes, Except.map, except_ok_bind] at h
        exact ⟨_, .inr ⟨hfound, bytes, rfl, rfl⟩, h⟩

/-- The loop over the member keys appends fields that stand for them, and keeps the signer
in step with the verifier. -/
theorem signAppend_ok {signerKeys : List String} :
    ∀ (pubs : List String) {s s' : TransactionSigner} {m : MultiSigSpendingCondition},
      s.transaction.auth.spendingCondition = .multiSig m → s.Synced crypto →
      signAppend crypto signerKeys s pubs = .ok s' →
      ∃ fields, StandFor crypto signerKeys m.fee m.nonce s.sigHash fields pubs ∧
        s'.transaction = { s.transaction with
          auth := s.transaction.auth.setOrigin (.multiSig { m with fields := m.fields ++ fields }) }
  | [], s, s', m, hm, _, h => by
    cases h
    refine ⟨[], trivial, ?_⟩
    rw [List.append_nil, ← hm, TransactionSigner.setOrigin_spendingCondition]
  | _ :: pubs, _, _, _, hm, hs, h => by
    obtain ⟨field, hfield, hrest⟩ := signAppend_cons_ok hm h
    obtain ⟨fields, hstand, htransaction⟩ := signAppend_ok pubs
      (TransactionSigner.spendingCondition_appendField crypto field)
      (TransactionSigner.synced_appendField crypto hm hs field) hrest
    refine ⟨field :: fields, ⟨hfield, hstand⟩, ?_⟩
    simp [htransaction, TransactionSigner.appendField]

section Origin

variable {σ : Type} {c : Collaborators}

theorem createMultiSigSpendingCondition_ok {hashMode : MultiSigHashMode} {numSigs : Nat}
    {publicKeys : List String} {nonce fee : JsOpt IntegerType} {condition : SpendingCondition}
    (h : createMultiSigSpendingCondition crypto hashMode numSigs publicKeys nonce fee =
      .ok condition) :
    ∃ m, condition = .multiSig m ∧ m.hashMode = hashMode ∧ m.signaturesRequired = numSigs ∧
      m.fields = [] ∧ keysHash crypto hashMode numSigs publicKeys = .ok m.signer ∧
      intToBigInt nonce = .ok m.nonce ∧ intToBigInt fee = .ok m.fee := by
  simp only [createMultiSigSpendingCondition, except_bind_eq_ok, except_pure,
    Except.ok.injEq] at h
  obtain ⟨keys, hkeys, address, haddress, _, hnonce, _, hfee, rfl⟩ := h
  exact ⟨_, rfl, rfl, rfl, rfl,
    by simp only [keysHash, hkeys, haddress, except_ok_bind, except_pure], hnonce, hfee⟩

theorem multiSigOrigin_ok {options : UnsignedMultiSigOptions} {nonce fee : JsOpt IntegerType}
    {condition : SpendingCondition} (h : multiSigOrigin crypto options nonce fee = .ok condition) :
    ∃ keys m, orderedPublicKeys crypto options = .ok keys ∧ condition = .multiSig m ∧
      m.hashMode = multiSigHashMode options ∧ m.signaturesRequired = options.numSignatures ∧
      m.fields = [] ∧ keysHash crypto m.hashMode m.signaturesRequired keys = .ok m.signer ∧
      intToBigInt nonce = .ok m.nonce ∧ intToBigInt fee = .ok m.fee := by
  unfold multiSigOrigin at h
  cases hkeys : orderedPublicKeys crypto options with
  | error e => simp [hkeys] at h
  | ok keys =>
    simp only [hkeys, except_ok_bind] at h
    obtain ⟨m, rfl, hmode, hrequired, hfields, hhash, hnonce, hfee⟩ :=
      createMultiSigSpendingCondition_ok h
    exact ⟨keys, m, rfl, rfl, hmode, hrequired, hfields, hmode ▸ hrequired ▸ hhash, hnonce, hfee⟩

theorem length_orderedPublicKeys {options : UnsignedMultiSigOptions} {keys : List String}
    (h : orderedPublicKeys crypto options = .ok keys) : keys.length = options.publicKeys.length := by
  unfold orderedPublicKeys at h
  split at h
  next _ address _ =>
    cases haddress : createAddress crypto address with
    | error e => simp only [haddress, except_error_bind] at h; cases h
    | ok address =>
      simp only [haddress, except_ok_bind] at h
      rcases (sortPublicKeysForAddress_ok crypto h).1 with rfl | rfl
      · simp
      · simp [(perm_jsSort _).length_eq]
  next =>
    cases h
    simp

/-- The loop resolves the member order as the unsigned builder did, from the threshold and
hash mode the builder put in the origin. -/
theorem signingOrder_eq_orderedPublicKeys {options : UnsignedMultiSigOptions}
    {m : MultiSigSpendingCondition} (hrequired : m.signaturesRequired = options.numSignatures)
    (hmode : m.hashMode = multiSigHashMode options) :
    signingOrder crypto (options.publicKeys.map publicKeyToHex) m options.address =
      orderedPublicKeys crypto options := by
  simp only [signingOrder, orderedPublicKeys, hrequired, hmode]

/-- The fee and nonce steps leave the origin but for its fee and nonce. -/
theorem fill_origin {feeOmitted nonceOmitted : Bool} {network : FunaiNetwork}
    {addressOption : JsOpt String} {t₀ t₁ t : Transaction} {w w₁ w' : World σ}
    (hfee : estimateFee c feeOmitted t₀ w = .ok t₁ w₁)
    (hnonce : lookupNonce c crypto nonceOmitted network addressOption t₁ w₁ = .ok t w') :
    t.auth.spendingCondition.clear = t₀.auth.spendingCondition.clear ∧
      t.auth.spendingCondition.fields = t₀.auth.spendingCondition.fields := by
  have h₁ : t₁.auth.spendingCondition.clear = t₀.auth.spendingCondition.clear ∧
      t₁.auth.spendingCondition.fields = t₀.auth.spendingCondition.fields := by
    rw [estimateFee_ok] at hfee
    split_ifs at hfee
    · obtain ⟨_, -, -, rfl⟩ := hfee
      simp
    · obtain ⟨rfl, -⟩ := hfee
      simp
  rw [lookupNonce_ok] at hnonce
  split_ifs at hnonce
  · obtain ⟨_, -, _, -, -, rfl⟩ := hnonce
    simpa using h₁
  · obtain ⟨rfl, -⟩ := hnonce
    exact h₁

/-- A returned unsigned build with a multi-sig origin: the origin has no fields yet, and its
signer hash is that of the member keys in the order `orderedPublicKeys` resolves. -/
theorem Build.unsigned_multiSig_ok {b : Build} {options : UnsignedMultiSigOptions}
    {w w' : World σ} {t : Transaction} (h : b.unsigned c crypto (.multiSig options) w = .ok t w') :
    ∃ keys m, orderedPublicKeys crypto options = .ok keys ∧ t.auth.spendingCondition = .multiSig m ∧
      m.hashMode = multiSigHashMode options ∧ m.signaturesRequired = options.numSignatures ∧
      m.fields = [] ∧ keysHash crypto m.hashMode m.signaturesRequired keys = .ok m.signer := by
  obtain ⟨condition, hcondition, hclear, hfields⟩ : ∃ condition,
      multiSigOrigin crypto options (b.options.nonce.assign (.bigint 0))
        (b.options.fee.assign (.bigint 0)) = .ok condition ∧
      t.auth.spendingCondition.clear = condition.clear ∧
      t.auth.spendingCondition.fields = condition.fields := by
    cases b <;>
      obtain ⟨_, _, _, condition, _, _, _, -, -, -, -, hcondition, hfee, hnonce⟩ := buildUnsigned_ok h
    · cases hcondition
    · cases hcondition
    all_goals
      have := fill_origin hfee hnonce
      split_ifs at this <;> exact ⟨condition, hcondition, by simpa using this⟩
  obtain ⟨keys, m, hkeys, rfl, hmode, hrequired, hfields₀, hhash, -, -⟩ := multiSigOrigin_ok hcondition
  exact ⟨keys, _, hkeys, SpendingCondition.eq_multiSig_of_clear hclear hfields, hmode, hrequired,
    hfields₀, hhash⟩

/-- With an address, the resolved order hashes to the address's `hash160`. -/
theorem orderedPublicKeys_address {options : UnsignedMultiSigOptions} {keys : List String}
    {address : String} (h : orderedPublicKeys crypto options = .ok keys)
    (haddress : options.address.nonEmpty = some address) :
    ∃ addressWire, createAddress crypto address = .ok addressWire ∧
      keysHash crypto (multiSigHashMode options) options.numSignatures keys =
        .ok addressWire.hash160 := by
  simp only [orderedPublicKeys, haddress] at h
  cases hwire : createAddress crypto address with
  | error e => simp only [hwire, except_error_bind] at h; cases h
  | ok addressWire =>
    simp only [hwire, except_ok_bind] at h
    exact ⟨addressWire, rfl, (sortPublicKeysForAddress_ok crypto h).2⟩

/-- The keys' bytes hash to what `keysHash` gives for their spellings. -/
theorem keysHash_of_mapM {hashMode : MultiSigHashMode} {numSigs : Nat} {keys : List String}
    {hash : Bytes} {bytes : List Bytes}
    (hhash : keysHash crypto hashMode numSigs keys = .ok hash)
    (hbytes : keys.mapM hexToBytes = .ok bytes) :
    ∃ address, addressFromPublicKeys crypto 0 (.multiSig hashMode) numSigs bytes = .ok address ∧
      address.hash160 = hash := by
  rw [keysHash_eq_of_mapM hbytes] at hhash
  cases haddress : addressFromPublicKeys crypto 0 (.multiSig hashMode) numSigs bytes <;>
    simp only [haddress, Except.map, Except.ok.injEq, reduceCtorEq] at hhash
  exact ⟨_, rfl, hhash⟩

end Origin

section Signed

variable {σ : Type} {c : Collaborators}

theorem mutatingSignAppendMultiSig_ok {t t' : Transaction} {publicKeys signerKeys : List String}
    {address : JsOpt String}
    (h : mutatingSignAppendMultiSig crypto t publicKeys signerKeys address = .ok t') :
    ∃ m pubs fields, t.auth.spendingCondition = .multiSig m ∧
      signingOrder crypto publicKeys m address = .ok pubs ∧
      StandFor crypto signerKeys m.fee m.nonce (TransactionSigner.originSigHash crypto t) fields
        pubs ∧
      t' = { t with auth := t.auth.setOrigin (.multiSig { m with fields := m.fields ++ fields }) } := by
  cases hsc : t.auth.spendingCondition with
  | singleSig _ => simp only [mutatingSignAppendMultiSig, hsc] at h; cases h
  | multiSig m =>
    simp only [mutatingSignAppendMultiSig, hsc, except_pure, except_ok_bind,
      except_bind_eq_ok] at h
    obtain ⟨pubs, hpubs, s, hloop, h⟩ := h
    cases h
    obtain ⟨fields, hstand, htransaction⟩ :=
      signAppend_ok pubs hsc (TransactionSigner.synced_new crypto t) hloop
    exact ⟨m, pubs, fields, rfl, hpubs, hstand, htransaction⟩

theorem Build.signed_multiSig_ok {b : Build} {options : UnsignedMultiSigOptions}
    {signerKeys : List KeyInput} {w w' : World σ} {t : Transaction}
    (h : b.signed c crypto (.multiSig options signerKeys) w = .ok t w') :
    ∃ t₁, b.unsigned c crypto (.multiSig options) w = .ok t₁ w' ∧
      mutatingSignAppendMultiSig crypto t₁ (options.publicKeys.map publicKeyToHex)
        (signerKeys.map privateKeyToHex) options.address = .ok t := by
  cases b with
  | infer _ => cases h
  | registerModel _ => cases h
  | _ =>
    simp only [Build.signed, makeFunaiTokenTransfer, makeContractDeploy, makeContractCall,
      signMultiSig, bind_ok, liftExcept_apply_ok] at h
    obtain ⟨t₁, _, hunsigned, hsign, rfl⟩ := h
    exact ⟨t₁, hunsigned, hsign⟩

/-- A returned signed multi-sig build: its origin is the unsigned build's, with fields that
stand for the member keys in the order the signer hash was derived from. -/
theorem Build.signed_multiSig_standFor {b : Build} {options : UnsignedMultiSigOptions}
    {signerKeys : List KeyInput} {w w' : World σ} {t : Transaction}
    (h : b.signed c crypto (.multiSig options signerKeys) w = .ok t w') :
    ∃ keys m, orderedPublicKeys crypto options = .ok keys ∧
      t.auth.spendingCondition = .multiSig m ∧
      m.hashMode = multiSigHashMode options ∧ m.signaturesRequired = options.numSignatures ∧
      keysHash crypto m.hashMode m.signaturesRequired keys = .ok m.signer ∧
      StandFor crypto (signerKeys.map privateKeyToHex) m.fee m.nonce (signBegin crypto t) m.fields
        keys := by
  obtain ⟨t₁, hunsigned, hsign⟩ := Build.signed_multiSig_ok h
  obtain ⟨keys, m, hkeys, hm, hmode, hrequired, hfields, hhash⟩ := Build.unsigned_multiSig_ok hunsigned
  obtain ⟨m', pubs, fields, hm', hpubs, hstand, rfl⟩ := mutatingSignAppendMultiSig_ok hsign
  rw [hm, SpendingCondition.multiSig.injEq] at hm'
  subst hm'
  rw [signingOrder_eq_orderedPublicKeys hrequired hmode, hkeys, Except.ok.injEq] at hpubs
  subst hpubs
  have hbegin : signBegin crypto { t₁ with
      auth := t₁.auth.setOrigin (.multiSig { m with fields := m.fields ++ fields }) } =
        signBegin crypto t₁ :=
    TransactionSigner.signBegin_setOrigin crypto (by simp [hm, SpendingCondition.clear])
  have horigin : TransactionSigner.originSigHash crypto t₁ = signBegin crypto t₁ := by
    simp [TransactionSigner.originSigHash, hm, hfields, SpendingCondition.fields]
  refine ⟨keys, { m with fields := m.fields ++ fields }, hkeys, by simp, hmode, hrequired, hhash, ?_⟩
  rw [hbegin, ← horigin]
  simpa [hfields] using hstand

/-- What a signed multi-sig build promises of the transaction it returns: one appended
field per member key, in the order the origin's signer hash was derived from, each
standing for its key; a verifier replaying them reads back the keys, which hash to the
signer, itself the `hash160` of the address when one is given. -/
def FieldsStandForKeys (crypto : Crypto) (options : UnsignedMultiSigOptions)
    (signerKeys : List KeyInput) (t : Transaction) : Prop :=
  ∃ keys m, orderedPublicKeys crypto options = .ok keys ∧
    t.auth.spendingCondition = .multiSig m ∧
    keysHash crypto m.hashMode m.signaturesRequired keys = .ok m.signer ∧
    m.fields.length = options.publicKeys.length ∧
    StandFor crypto (signerKeys.map privateKeyToHex) m.fee m.nonce (signBegin crypto t) m.fields
      keys ∧
    keys.mapM hexToBytes =
      .ok (readBackKeys crypto .standard m.fee m.nonce (signBegin crypto t) m.fields) ∧
    (∃ address, addressFromPublicKeys crypto 0 (.multiSig m.hashMode) m.signaturesRequired
        (readBackKeys crypto .standard m.fee m.nonce (signBegin crypto t) m.fields) = .ok address ∧
      address.hash160 = m.signer) ∧
    ∀ address, options.address.nonEmpty = some address →
      ∃ addressWire, createAddress crypto address = .ok addressWire ∧
        addressWire.hash160 = m.signer

/-- Every signed multi-sig build that returns keeps that promise, whichever builder, key
order, hash mode and signer keys. -/
theorem multiSig_build_fields_stand_for_keys (b : Build) (options : UnsignedMultiSigOptions)
    (signerKeys : List KeyInput) {w w' : World σ} {t : Transaction}
    (h : b.signed c crypto (.multiSig options signerKeys) w = .ok t w') :
    FieldsStandForKeys crypto options signerKeys t := by
  obtain ⟨keys, m, hkeys, hm, hmode, hrequired, hhash, hstand⟩ := Build.signed_multiSig_standFor h
  have hread := readBackKeys_of_standFor hstand
  refine ⟨keys, m, hkeys, hm, hhash, ?_, hstand, hread, keysHash_of_mapM hhash hread, ?_⟩
  · rw [length_eq_of_standFor hstand, length_orderedPublicKeys hkeys]
  · intro address haddress
    obtain ⟨addressWire, hwire, hsorted⟩ := orderedPublicKeys_address hkeys haddress
    rw [← hmode, ← hrequired, hhash, Except.ok.injEq] at hsorted
    exact ⟨addressWire, hwire, hsorted.symm⟩

/-- A 1-of-1 multi-sig account whose member key is spelled `publicKey`. -/
def soloMember (publicKey : String) : UnsignedMultiSigOptions :=
  { numSignatures := 1, publicKeys := [.hex publicKey] }

/-- A private key of 32 bytes `11`, whose keyed public key is `02` followed by it. -/
def pairKeyA : String := "1111111111111111111111111111111111111111111111111111111111111111"

/-- A 2-of-2 account of the keyed public keys of `pairKeyA` and of the key of 32 bytes `22`,
resolved against its c32 address. -/
def keyedPair : UnsignedMultiSigOptions :=
  { numSignatures := 2,
    publicKeys := [.hex "021111111111111111111111111111111111111111111111111111111111111111",
      .hex "022222222222222222222222222222222222222222222222222222222222222222"],
    address := .value "SN19220GH248H248H248H248H248H248H24AN4882" }

/-- The 2-of-2 account, its address given, signed by the first member's key only. -/
theorem multiSig_build_fields_stand_for_keys_pair :
    ∃ t w', (Build.tokenTransfer toyTransfer).signed toyServices keyedCrypto
        (.multiSig keyedPair [.hex pairKeyA]) (⟨[], ()⟩ : World Unit) = .ok t w' ∧
      FieldsStandForKeys keyedCrypto keyedPair [.hex pairKeyA] t :=
  let ⟨t, w', h⟩ : ∃ t w', (Build.tokenTransfer toyTransfer).signed toyServices keyedCrypto
      (.multiSig keyedPair [.hex pairKeyA]) (⟨[], ()⟩ : World Unit) = .ok t w' :=
    ⟨_, _, rfl⟩
  ⟨t, w', h, multiSig_build_fields_stand_for_keys (Build.tokenTransfer toyTransfer) keyedPair
    [.hex pairKeyA] h⟩

/-- The loop matches a member by the spelling of its key: a key spelled with an uppercase
hex letter is never the lowercase spelling of a derived public key, so its member gets the
raw key field whichever signer keys are supplied. -/
theorem multiSig_build_uppercase_member_unsigned (b : Build) (options : UnsignedMultiSigOptions)
    (signerKeys : List KeyInput) {w w' : World σ} {t : Transaction}
    (h : b.signed c crypto (.multiSig options signerKeys) w = .ok t w') :
    ∃ keys m, orderedPublicKeys crypto options = .ok keys ∧
      t.auth.spendingCondition = .multiSig m ∧
      List.Forall₂ (fun field key => ∀ bytes, key = upperHex bytes →
          upperHex bytes ≠ bytesToHex bytes → field = TransactionSigner.publicKeyField bytes)
        m.fields keys := by
  obtain ⟨keys, m, hkeys, hm, -, -, -, hstand⟩ := Build.signed_multiSig_standFor h
  refine ⟨keys, m, hkeys, hm, forall₂_of_standFor ?_ ?_ hstand⟩
  · intro _ _ _ key _ hpublic _ bytes hkey hne
    obtain ⟨privateKey, -, hspelled⟩ := privateKeyToPublic_ok crypto hpublic
    have hbytes := congrArg hexToBytes (hspelled.trans hkey)
    rw [hexToBytes_bytesToHex, hexToBytes_upperHex, Except.ok.injEq] at hbytes
    rw [hbytes] at hspelled
    exact absurd (hspelled.trans hkey).symm hne
  · intro key bytes' _ hbytes' bytes hkey _
    rw [hkey, hexToBytes_upperHex, Except.ok.injEq] at hbytes'
    rw [hbytes']

/-- The member `02AB` is the toy key's public key in uppercase: it gets its raw key field
though the toy key signs for it. -/
theorem multiSig_build_uppercase_member_unsigned_solo :
    ∃ t w', (Build.tokenTransfer toyTransfer).signed toyServices toyCrypto
        (.multiSig (soloMember "02AB") [.hex toyKey]) (⟨[], ()⟩ : World Unit) = .ok t w' ∧
      privateKeyToPublic toyCrypto (.hex toyKey) = .ok (bytesToHex [0x02, 0xab]) ∧
      ∃ keys m, orderedPublicKeys toyCrypto (soloMember "02AB") = .ok keys ∧
        t.auth.spendingCondition = .multiSig m ∧
        List.Forall₂ (fun field key => ∀ bytes, key = upperHex bytes →
            upperHex bytes ≠ bytesToHex bytes → field = TransactionSigner.publicKeyField bytes)
          m.fields keys :=
  let ⟨t, w', h⟩ : ∃ t w', (Build.tokenTransfer toyTransfer).signed toyServices toyCrypto
      (.multiSig (soloMember "02AB") [.hex toyKey]) (⟨[], ()⟩ : World Unit) = .ok t w' :=
    ⟨_, _, rfl⟩
  ⟨t, w', h, rfl, multiSig_build_uppercase_member_unsigned _ _ _ h⟩

theorem length_filter_of_forall₂ {α β : Type} {p : α → Bool} {q : β → Bool} :
    ∀ {l : List α} {l' : List β}, List.Forall₂ (fun a b => p a = q b) l l' →
      (l.filter p).length = (l'.filter q).length
  | _, _, .nil => rfl
  | a :: _, b :: _, .cons hab h => by
    have ih := length_filter_of_forall₂ h
    by_cases hq : q b <;> simp_all [List.filter_cons]

/-- The signed multi-sig builds sign for exactly the members whose key a signer key
spells; nothing compares that count with the threshold `numSignatures` the origin carries. -/
theorem multiSig_build_signature_count (b : Build) (options : UnsignedMultiSigOptions)
    (signerKeys : List KeyInput) {w w' : World σ} {t : Transaction}
    (h : b.signed c crypto (.multiSig options signerKeys) w = .ok t w') :
    ∃ keys m, orderedPublicKeys crypto options = .ok keys ∧
      t.auth.spendingCondition = .multiSig m ∧ m.signaturesRequired = options.numSignatures ∧
      (m.fields.filter TransactionAuthField.isSignature).length =
        (keys.filter fun key => (signerKeys.map privateKeyToHex).any
          fun signerKey => spellsPublicKey crypto signerKey key).length := by
  obtain ⟨keys, m, hkeys, hm, -, hrequired, -, hstand⟩ := Build.signed_multiSig_standFor h
  exact ⟨keys, m, hkeys, hm, hrequired, length_filter_of_forall₂ (signatures_of_standFor hstand)⟩

/-- The 2-of-2 account signed by one of its members: one member matched, the other not. -/
theorem multiSig_build_signature_count_pair :
    ∃ t w', (Build.tokenTransfer toyTransfer).signed toyServices keyedCrypto
        (.multiSig keyedPair [.hex pairKeyA]) (⟨[], ()⟩ : World Unit) = .ok t w' ∧
      ∃ keys m, orderedPublicKeys keyedCrypto keyedPair = .ok keys ∧
        t.auth.spendingCondition = .multiSig m ∧
        m.signaturesRequired = keyedPair.numSignatures ∧
        (m.fields.filter TransactionAuthField.isSignature).length =
          (keys.filter fun key => ([.hex pairKeyA] : List KeyInput).map privateKeyToHex |>.any
            fun signerKey => spellsPublicKey keyedCrypto signerKey key).length :=
  let ⟨t, w', h⟩ : ∃ t w', (Build.tokenTransfer toyTransfer).signed toyServices keyedCrypto
      (.multiSig keyedPair [.hex pairKeyA]) (⟨[], ()⟩ : World Unit) = .ok t w' :=
    ⟨_, _, rfl⟩
  ⟨t, w', h, multiSig_build_signature_count (Build.tokenTransfer toyTransfer) keyedPair
    [.hex pairKeyA] h⟩

/-- With no signer keys a 1-of-1 transfer returns, its origin carrying no signature. -/
theorem multiSig_build_below_threshold :
    ∃ t w', (Build.tokenTransfer toyTransfer).signed toyServices toyCrypto
        (.multiSig (soloMember "02ab") []) (⟨[], ()⟩ : World Unit) = .ok t w' ∧
      (t.auth.spendingCondition.fields.filter TransactionAuthField.isSignature).length <
        (soloMember "02ab").numSignatures :=
  ⟨_, _, rfl, by decide⟩

end Signed

end FunaiSdk
