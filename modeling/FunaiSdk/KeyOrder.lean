import FunaiSdk.Keys
import Mathlib.Data.List.Lex
import Mathlib.Data.List.Sort

/-!
# Key order of a multi-sig address

`sortPublicKeysForAddress` finds the order of the member keys that hashes to a known address:
the keys as given, or else the keys after JavaScript's default sort, which compares the hex
strings as spelled. On keys spelled as `bytesToHex` spells them it is the byte order of the
keys; on keys of mixed letter case or odd length it is not.
-/

namespace FunaiSdk

variable (crypto : Crypto)

/-- The default order of `Array.prototype.sort`: strings compared code by code, a proper
prefix first. The keys that reach it are ASCII hex, whose characters' codes are their
UTF-16 units. -/
def jsStringLe (a b : String) : Bool :=
  !decide (List.Lex (· < ·) (b.data.map Char.toNat) (a.data.map Char.toNat))

def jsSort (keys : List String) : List String :=
  keys.mergeSort jsStringLe

/-- Ascending lexicographic order of key bytes. -/
def bytesLe (a b : Bytes) : Bool :=
  !decide (List.Lex (· < ·) (b.map UInt8.toNat) (a.map UInt8.toNat))

/-- `addressFromPublicKeys(0, hashMode, numSigs, keys.map(createFunaiPublicKey)).hash160`. -/
def keysHash (hashMode : MultiSigHashMode) (numSigs : Nat) (publicKeys : List String) :
    Except String Bytes := do
  let keys ← publicKeys.mapM (createFunaiPublicKey ∘ .hex)
  let address ← addressFromPublicKeys crypto 0 (.multiSig hashMode) numSigs keys
  return address.hash160

def sortPublicKeysForAddress (publicKeys : List String) (numSigs : Nat)
    (hashMode : MultiSigHashMode) (hash : Bytes) : Except String (List String) := do
  let hashUnsorted ← keysHash crypto hashMode numSigs publicKeys
  if hashUnsorted = hash then return publicKeys
  let publicKeysSorted := jsSort publicKeys
  let hashSorted ← keysHash crypto hashMode numSigs publicKeysSorted
  if hashSorted = hash then return publicKeysSorted
  throw "Failed to find matching multi-sig address given public-keys."

theorem sortPublicKeysForAddress_of_hash {publicKeys : List String} {numSigs : Nat}
    {hashMode : MultiSigHashMode} {hash : Bytes}
    (h : keysHash crypto hashMode numSigs publicKeys = .ok hash) :
    sortPublicKeysForAddress crypto publicKeys numSigs hashMode hash = .ok publicKeys := by
  simp [sortPublicKeysForAddress, h]

/-- Every order the resolution returns is the given one or the sorted one, and hashes to
the target. -/
theorem sortPublicKeysForAddress_ok {publicKeys sorted : List String} {numSigs : Nat}
    {hashMode : MultiSigHashMode} {hash : Bytes}
    (h : sortPublicKeysForAddress crypto publicKeys numSigs hashMode hash = .ok sorted) :
    (sorted = publicKeys ∨ sorted = jsSort publicKeys) ∧
      keysHash crypto hashMode numSigs sorted = .ok hash := by
  simp only [sortPublicKeysForAddress] at h
  cases hu : keysHash crypto hashMode numSigs publicKeys with
  | error e => simp [hu] at h
  | ok hashUnsorted =>
    simp only [hu, except_ok_bind] at h
    split_ifs at h with h1
    · cases h; exact ⟨.inl rfl, hu.trans (congrArg _ h1)⟩
    · cases hs : keysHash crypto hashMode numSigs (jsSort publicKeys) with
      | error e => simp [hs] at h
      | ok hashSorted =>
        simp only [hs, except_ok_bind] at h
        split_ifs at h with h2
        · cases h; exact ⟨.inr rfl, hs.trans (congrArg _ h2)⟩
        · cases h

theorem perm_jsSort (keys : List String) : (jsSort keys).Perm keys :=
  List.mergeSort_perm keys _

theorem mergeSort_pair {α : Type} (a b : α) (le : α → α → Bool) :
    [a, b].mergeSort le = if le a b then [a, b] else [b, a] := by
  rw [List.mergeSort]
  simp [List.splitInTwo, List.mergeSort, List.merge]

/-- Lexicographic comparison of two lists headed by a pair. -/
theorem lex_cons_iff {a b : Nat} {as bs : List Nat} :
    List.Lex (· < ·) (a :: as) (b :: bs) ↔ a < b ∨ a = b ∧ List.Lex (· < ·) as bs := by
  constructor
  · intro h
    cases h with
    | cons h => exact .inr ⟨rfl, h⟩
    | rel h => exact .inl h
  · rintro (h | ⟨rfl, h⟩)
    · exact .rel h
    · exact .cons h

/-- The code of the lowercase hex digit of a nibble. -/
def hexDigitCode (n : Nat) : Nat := (hexDigit n).toNat

/-- A nibble's digit code: `0`-`9` from 48, `a`-`f` from 97. -/
theorem hexDigitCode_fin : ∀ n : Fin 16,
    hexDigitCode n = if (n : Nat) < 10 then 48 + (n : Nat) else 87 + (n : Nat) := by
  decide

theorem hexDigitCode_lt_iff (n m : Fin 16) : hexDigitCode n < hexDigitCode m ↔ n < m := by
  rw [hexDigitCode_fin, hexDigitCode_fin, Fin.lt_def]
  split_ifs <;> omega

theorem hexDigitCode_inj (n m : Fin 16) : hexDigitCode n = hexDigitCode m ↔ n = m := by
  rw [hexDigitCode_fin, hexDigitCode_fin, Fin.ext_iff]
  split_ifs <;> omega

/-- The character codes of a lowercase hex spelling. -/
def hexCodes (bytes : Bytes) : List Nat :=
  bytes.flatMap fun b => [hexDigitCode (b.toNat / 16), hexDigitCode (b.toNat % 16)]

theorem data_bytesToHex_codes (bytes : Bytes) :
    (bytesToHex bytes).data.map Char.toNat = hexCodes bytes := by
  induction bytes with
  | nil => rfl
  | cons b bs ih =>
    simp only [bytesToHex, List.flatMap_cons, List.map_append] at ih ⊢
    rw [ih]; rfl

/-- On lowercase spellings, comparing the hex strings compares the bytes. -/
theorem lex_hexCodes_iff (a b : Bytes) :
    List.Lex (· < ·) (hexCodes a) (hexCodes b) ↔
      List.Lex (· < ·) (a.map UInt8.toNat) (b.map UInt8.toNat) := by
  induction a generalizing b with
  | nil =>
    cases b with
    | nil => simp [hexCodes, List.Lex.not_nil_right]
    | cons y bs => simp only [hexCodes, List.flatMap_cons, List.map_cons]; exact ⟨fun _ => .nil, fun _ => .nil⟩
  | cons x as ih =>
    cases b with
    | nil => simp [hexCodes, List.Lex.not_nil_right]
    | cons y bs =>
      have hx := toNat_lt_256 x
      have hy := toNat_lt_256 y
      have hi := hexDigitCode_lt_iff ⟨x.toNat / 16, by omega⟩ ⟨y.toNat / 16, by omega⟩
      have hie := hexDigitCode_inj ⟨x.toNat / 16, by omega⟩ ⟨y.toNat / 16, by omega⟩
      have lo := hexDigitCode_lt_iff ⟨x.toNat % 16, by omega⟩ ⟨y.toNat % 16, by omega⟩
      have loe := hexDigitCode_inj ⟨x.toNat % 16, by omega⟩ ⟨y.toNat % 16, by omega⟩
      simp only [Fin.mk_lt_mk, Fin.mk.injEq] at hi hie lo loe
      have hxy : x = y ↔ x.toNat = y.toNat := ⟨congrArg _, UInt8.toNat.inj⟩
      simp only [hexCodes, List.flatMap_cons, List.cons_append, List.nil_append,
        List.map_cons, lex_cons_iff, hi, hie, lo, loe] at ih ⊢
      rw [ih bs]
      by_cases hl : List.Lex (· < ·) (as.map UInt8.toNat) (bs.map UInt8.toNat) <;>
        simp only [hl, and_true, and_false, or_false] <;> omega

theorem jsStringLe_bytesToHex (a b : Bytes) :
    jsStringLe (bytesToHex a) (bytesToHex b) = bytesLe a b := by
  simp only [jsStringLe, bytesLe, data_bytesToHex_codes, lex_hexCodes_iff]

/-- The default sort orders lowercase key spellings as their bytes. -/
theorem jsSort_bytesToHex (keys : List Bytes) :
    jsSort (keys.map bytesToHex) = (keys.mergeSort bytesLe).map bytesToHex :=
  (List.map_mergeSort fun a _ b _ => (jsStringLe_bytesToHex a b).symm).symm

/-- The keys in ascending lexicographic order of their bytes, spelled in lowercase. -/
def inByteOrder (keys : List Bytes) : List String :=
  (keys.mergeSort bytesLe).map bytesToHex

/-- The compressed public key of `2·G` on secp256k1. -/
def twoG : Bytes :=
  [0x02, 0xc6, 0x04, 0x7f, 0x94, 0x41, 0xed, 0x7d, 0x6d, 0x30, 0x45, 0x40, 0x6e, 0x95, 0xc0,
   0x7c, 0xd8, 0x5c, 0x77, 0x8e, 0x4b, 0x8c, 0xef, 0x3c, 0xa7, 0xab, 0xac, 0x09, 0xb9, 0x5c,
   0x70, 0x9e, 0xe5]

/-- The compressed public key of `3·G` on secp256k1. -/
def threeG : Bytes :=
  [0x02, 0xf9, 0x30, 0x8a, 0x01, 0x92, 0x58, 0xc3, 0x10, 0x49, 0x34, 0x4f, 0x85, 0xf8, 0x9d,
   0x52, 0x29, 0xb5, 0x31, 0xc8, 0x45, 0x83, 0x6f, 0x99, 0xb0, 0x86, 0x01, 0xf1, 0x13, 0xbc,
   0xe0, 0x36, 0xf9]

section Lowercase

variable {crypto} {hashMode : MultiSigHashMode} {numSigs : Nat}

theorem mapM_hexToBytes_bytesToHex (keys : List Bytes) :
    (keys.map bytesToHex).mapM hexToBytes = .ok keys := by
  induction keys with
  | nil => rfl
  | cons key keys ih =>
    simp only [List.map_cons, List.mapM_cons, hexToBytes_bytesToHex, ih, except_ok_bind,
      except_pure]

/-- The hash of keys whose spellings read back as `bytes` is their address's. -/
theorem keysHash_eq_of_mapM {keys : List String} {bytes : List Bytes}
    (hbytes : keys.mapM hexToBytes = .ok bytes) :
    keysHash crypto hashMode numSigs keys =
      (addressFromPublicKeys crypto 0 (.multiSig hashMode) numSigs bytes).map
        AddressWire.hash160 := by
  have hfun : (createFunaiPublicKey ∘ KeyInput.hex) = hexToBytes := rfl
  simp only [keysHash, hfun, hbytes, except_ok_bind]
  cases addressFromPublicKeys crypto 0 (.multiSig hashMode) numSigs bytes <;> rfl

/-- Whether a multi-sig address exists depends on the set of keys, not on their order. -/
theorem addressFromPublicKeys_multiSig_ok_of_perm {keys keys' : List Bytes} {version : Nat}
    {address : AddressWire} (hperm : keys.Perm keys')
    (h : addressFromPublicKeys crypto version (.multiSig hashMode) numSigs keys = .ok address) :
    ∃ address', addressFromPublicKeys crypto version (.multiSig hashMode) numSigs keys' =
      .ok address' := by
  have hnil : keys' = [] ↔ keys = [] := by
    rw [← List.length_eq_zero, ← List.length_eq_zero, hperm.length_eq]
  have hall : keys'.all isCompressed = keys.all isCompressed :=
    Bool.eq_iff_iff.mpr (by
      simp only [List.all_eq_true]
      exact ⟨fun h x hx => h x (hperm.mem_iff.mp hx), fun h x hx => h x (hperm.mem_iff.mpr hx)⟩)
  unfold addressFromPublicKeys at h ⊢
  simp only [hnil, ← hperm.length_eq, hall]
  split_ifs at h ⊢ <;> cases hashMode <;> simp_all

theorem keysHash_ok_of_perm {keys keys' : List Bytes} {hash : Bytes} (hperm : keys.Perm keys')
    (h : keysHash crypto hashMode numSigs (keys.map bytesToHex) = .ok hash) :
    ∃ hash', keysHash crypto hashMode numSigs (keys'.map bytesToHex) = .ok hash' := by
  rw [keysHash_eq_of_mapM (mapM_hexToBytes_bytesToHex keys)] at h
  rw [keysHash_eq_of_mapM (mapM_hexToBytes_bytesToHex keys')]
  cases haddress : addressFromPublicKeys crypto 0 (.multiSig hashMode) numSigs keys with
  | error e => rw [haddress] at h; cases h
  | ok address =>
    obtain ⟨address', h'⟩ := addressFromPublicKeys_multiSig_ok_of_perm hperm haddress
    exact ⟨address'.hash160, by rw [h']; rfl⟩

end Lowercase

/-- Every order the resolution returns is a permutation of the keys that hashes to the
target, however they are spelled. On keys spelled in lowercase the string sort is the
byte order, so the resolution is: the keys as given when they hash to the target, else the
keys in byte order when those do, else an error. -/
theorem sortPublicKeysForAddress_byte_order_of_lowercase (publicKeys : List String)
    (numSigs : Nat) (hashMode : MultiSigHashMode) (hash : Bytes) :
    (∀ sorted, sortPublicKeysForAddress crypto publicKeys numSigs hashMode hash = .ok sorted →
      sorted.Perm publicKeys ∧ keysHash crypto hashMode numSigs sorted = .ok hash) ∧
    ∀ keys : List Bytes, publicKeys = keys.map bytesToHex →
      (keysHash crypto hashMode numSigs publicKeys = .ok hash →
        sortPublicKeysForAddress crypto publicKeys numSigs hashMode hash = .ok publicKeys) ∧
      (keysHash crypto hashMode numSigs publicKeys ≠ .ok hash →
        keysHash crypto hashMode numSigs (inByteOrder keys) = .ok hash →
        sortPublicKeysForAddress crypto publicKeys numSigs hashMode hash =
          .ok (inByteOrder keys)) ∧
      (keysHash crypto hashMode numSigs publicKeys ≠ .ok hash →
        keysHash crypto hashMode numSigs (inByteOrder keys) ≠ .ok hash →
        ∃ e, sortPublicKeysForAddress crypto publicKeys numSigs hashMode hash = .error e) := by
  refine ⟨fun sorted h => ?_, fun keys hkeys => ?_⟩
  · obtain ⟨horder | horder, hhash⟩ := sortPublicKeysForAddress_ok crypto h
    · exact ⟨horder ▸ .refl _, hhash⟩
    · exact ⟨horder ▸ perm_jsSort _, hhash⟩
  subst hkeys
  have hsort : jsSort (keys.map bytesToHex) = inByteOrder keys := jsSort_bytesToHex keys
  refine ⟨sortPublicKeysForAddress_of_hash crypto, fun hne hsorted => ?_, fun hne hne₂ => ?_⟩
  · obtain ⟨hash', hunsorted⟩ := keysHash_ok_of_perm (List.mergeSort_perm keys bytesLe) hsorted
    have hdiff : hash' ≠ hash := fun heq => hne (heq ▸ hunsorted)
    simp [sortPublicKeysForAddress, hunsorted, hdiff, hsort, hsorted]
  · simp only [sortPublicKeysForAddress, hsort]
    cases hunsorted : keysHash crypto hashMode numSigs (keys.map bytesToHex) with
    | error e => exact ⟨e, rfl⟩
    | ok hash' =>
      have hdiff : hash' ≠ hash := fun heq => hne (heq ▸ hunsorted)
      cases hsorted : keysHash crypto hashMode numSigs (inByteOrder keys) with
      | error e => simp [hdiff, hsorted]
      | ok hash₂ =>
        have hdiff₂ : hash₂ ≠ hash := fun heq => hne₂ (heq ▸ hsorted)
        simp only [hdiff, hdiff₂, except_ok_bind, if_false]
        exact ⟨_, rfl⟩

/-- The keys `3·G`, `2·G` in lowercase, under the toy hashes: the resolution finds the byte
order. -/
theorem sortPublicKeysForAddress_byte_order_of_lowercase_two_keys :
    sortPublicKeysForAddress toyCrypto [bytesToHex threeG, bytesToHex twoG] 2 .P2SH
        (toyCrypto.hash160 (multiSigScript 2 [twoG, threeG])) =
      .ok (inByteOrder [threeG, twoG]) := by
  have hgiven : keysHash toyCrypto .P2SH 2 [bytesToHex threeG, bytesToHex twoG] =
      .ok (toyCrypto.hash160 (multiSigScript 2 [threeG, twoG])) := rfl
  have hbyteOrder : inByteOrder [threeG, twoG] = [bytesToHex twoG, bytesToHex threeG] := by
    simp only [inByteOrder, mergeSort_pair, show bytesLe threeG twoG = false by decide]
    rfl
  exact ((sortPublicKeysForAddress_byte_order_of_lowercase toyCrypto _ 2 .P2SH
    (toyCrypto.hash160 (multiSigScript 2 [twoG, threeG]))).2 [threeG, twoG] rfl).2.1
    (by rw [List.map_cons, List.map_cons, List.map_nil, hgiven]
        exact fun h => absurd (Except.ok.inj h) (by decide))
    (by rw [hbyteOrder]; rfl)

/-- Keys that the string sort leaves in place and that, so ordered, hash to another target:
neither order the resolution tries matches, and it throws. -/
theorem sortPublicKeysForAddress_of_sorted {publicKeys : List String} {numSigs : Nat}
    {hashMode : MultiSigHashMode} {hash hash' : Bytes} (hsorted : jsSort publicKeys = publicKeys)
    (hhash : keysHash crypto hashMode numSigs publicKeys = .ok hash') (hne : hash' ≠ hash) :
    sortPublicKeysForAddress crypto publicKeys numSigs hashMode hash =
      .error "Failed to find matching multi-sig address given public-keys." := by
  simp only [sortPublicKeysForAddress, hsorted, hhash, hne, except_ok_bind, if_false]
  rfl

/-- `2·G` in 65 lowercase digits, its leading `0` dropped; `hexToBytes` pads it back. -/
def twoGOddHex : String := "2c6047f9441ed7d6d3045406e95c07cd85c778e4b8cef3ca7abac09b95c709ee5"

/-- `3·G` spelled in uppercase, or `2·G` spelled with an odd number of digits, sorts before the
other key spelled as `bytesToHex` spells it, although its bytes sort after: an address derived
from the keys in byte order is then matched by neither order the resolution tries. -/
theorem sortPublicKeysForAddress_misspelled
    (hsep : crypto.hash160 (multiSigScript 2 [threeG, twoG]) ≠
      crypto.hash160 (multiSigScript 2 [twoG, threeG])) :
    sortPublicKeysForAddress crypto [upperHex threeG, bytesToHex twoG] 2 .P2SH
        (crypto.hash160 (multiSigScript 2 [twoG, threeG])) =
      .error "Failed to find matching multi-sig address given public-keys." ∧
    sortPublicKeysForAddress crypto [bytesToHex threeG, twoGOddHex] 2 .P2SH
        (crypto.hash160 (multiSigScript 2 [twoG, threeG])) =
      .error "Failed to find matching multi-sig address given public-keys." := by
  have hodd : hexToBytes twoGOddHex = .ok twoG := rfl
  have hhash : ∀ {threeGHex twoGHex : String}, hexToBytes threeGHex = .ok threeG →
      hexToBytes twoGHex = .ok twoG → keysHash crypto .P2SH 2 [threeGHex, twoGHex] =
        .ok (crypto.hash160 (multiSigScript 2 [threeG, twoG])) := fun h₃ h₂ => by
    simp only [keysHash, List.mapM_cons, List.mapM_nil, Function.comp, createFunaiPublicKey, h₃,
      h₂, except_ok_bind, except_pure]
    rfl
  exact ⟨sortPublicKeysForAddress_of_sorted crypto (List.mergeSort_of_sorted (by decide))
      (hhash (hexToBytes_upperHex _) (hexToBytes_bytesToHex _)) hsep,
    sortPublicKeysForAddress_of_sorted crypto (List.mergeSort_of_sorted (by decide))
      (hhash (hexToBytes_bytesToHex _) hodd) hsep⟩

/-- Under the toy hashes, `3·G` in uppercase and `2·G` in lowercase, or `3·G` in lowercase and
`2·G` in 65 lowercase digits: the keys in byte order hash to the target, yet the resolution
throws. -/
theorem sortPublicKeysForAddress_mixed_case_throws :
    bytesLe twoG threeG = true ∧
      keysHash toyCrypto .P2SH 2 [bytesToHex twoG, upperHex threeG] =
        .ok (toyCrypto.hash160 (multiSigScript 2 [twoG, threeG])) ∧
      sortPublicKeysForAddress toyCrypto [upperHex threeG, bytesToHex twoG] 2 .P2SH
          (toyCrypto.hash160 (multiSigScript 2 [twoG, threeG])) =
        .error "Failed to find matching multi-sig address given public-keys." ∧
      hexToBytes twoGOddHex = .ok twoG ∧
      sortPublicKeysForAddress toyCrypto [bytesToHex threeG, twoGOddHex] 2 .P2SH
          (toyCrypto.hash160 (multiSigScript 2 [twoG, threeG])) =
        .error "Failed to find matching multi-sig address given public-keys." :=
  have hmisspelled := sortPublicKeysForAddress_misspelled toyCrypto (by decide)
  ⟨by decide, rfl, hmisspelled.1, rfl, hmisspelled.2⟩

end FunaiSdk
