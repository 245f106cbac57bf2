import FunaiSdk.Hex

/-!
# The `varuint` length prefix

The signed-message codec prefixes a message with its length as a Bitcoin CompactSize
integer: one byte below `0xfd`, else a marker `0xfd`, `0xfe` or `0xff` and a 2-, 4- or 8-byte
little-endian payload. Values are JavaScript numbers, so every entry point first checks that
its value is a safe integer. The decoder accepts any width for a value; only `encode` picks
the shortest.
-/

namespace FunaiSdk.Varuint

/-- `Number.MAX_SAFE_INTEGER`. -/
def maxSafeInteger : Nat := 2 ^ 53 - 1

def checkUInt53 (n : Nat) : Except String Unit :=
  if n ≤ maxSafeInteger then .ok () else .error "value out of range"

/-- The `width` low bytes of `n`, least significant first. -/
def writeLE : Nat → Nat → Bytes
  | 0, _ => []
  | w + 1, n => (n % 256).toUInt8 :: writeLE w (n / 256)

/-- The little-endian number in the first `width` bytes; `none` when they run out. -/
def readLE : Nat → Bytes → Option Nat
  | 0, _ => some 0
  | _ + 1, [] => none
  | w + 1, b :: bs => (b.toNat + 256 * ·) <$> readLE w bs

def readUIntLE (width : Nat) (buffer : Bytes) : Except String Nat :=
  match readLE width buffer with
  | some v => .ok v
  | none => .error "buffer too small"

/-- Modelled from the spec: the `varuint` module the message codec imports is not among
the sources; this is the CompactSize encoder of the Bitcoin library it copies. -/
def encode (number : Nat) : Except String Bytes := do
  checkUInt53 number
  if number < 0xfd then
    return [number.toUInt8]
  else if number ≤ 0xffff then
    return 0xfd :: writeLE 2 number
  else if number ≤ 0xffffffff then
    return 0xfe :: writeLE 4 number
  else
    return 0xff :: (writeLE 4 (number % 0x100000000) ++ writeLE 4 (number / 0x100000000))

/-- Modelled from the spec: the CompactSize decoder of the `varuint` module. -/
def decode (buffer : Bytes) : Except String Nat :=
  match buffer with
  | [] => .error "buffer too small"
  | first :: rest =>
    if first < 0xfd then .ok first.toNat
    else if first = 0xfd then readUIntLE 2 rest
    else if first = 0xfe then readUIntLE 4 rest
    else do
      let lo ← readUIntLE 4 rest
      let hi ← readUIntLE 4 (rest.drop 4)
      let number := hi * 0x0100000000 + lo
      checkUInt53 number
      return number

/-- Modelled from the spec: the width `encode` chooses. -/
def encodingLength (number : Nat) : Except String Nat := do
  checkUInt53 number
  return if number < 0xfd then 1 else if number ≤ 0xffff then 3
    else if number ≤ 0xffffffff then 5 else 9

@[simp] theorem checkUInt53_of_le {n : Nat} (h : n ≤ maxSafeInteger) : checkUInt53 n = .ok () :=
  if_pos h

@[simp] theorem length_writeLE (w n : Nat) : (writeLE w n).length = w := by
  induction w generalizing n <;> simp_all [writeLE]

theorem readLE_writeLE (w n : Nat) (rest : Bytes) :
    readLE w (writeLE w n ++ rest) = some (n % 256 ^ w) := by
  induction w generalizing n with
  | zero => simp [readLE, Nat.mod_one]
  | succ w ih =>
    have hb : ((n % 256).toUInt8).toNat = n % 256 :=
      UInt8.toNat_ofNat_of_lt (Nat.mod_lt _ (by decide))
    rw [writeLE, List.cons_append, readLE, ih, hb, Nat.pow_succ', Nat.mod_mul]
    rfl

theorem readUIntLE_writeLE {w n : Nat} (h : n < 256 ^ w) (rest : Bytes) :
    readUIntLE w (writeLE w n ++ rest) = .ok n := by
  simp [readUIntLE, readLE_writeLE, Nat.mod_eq_of_lt h]

/-- What `encode` can return: a safe integer in the shortest of the four forms. -/
theorem encode_cases {n : Nat} {v : Bytes} (h : encode n = .ok v) :
    n ≤ maxSafeInteger ∧
      (n < 0xfd ∧ v = [n.toUInt8] ∨
       0xfd ≤ n ∧ n ≤ 0xffff ∧ v = 0xfd :: writeLE 2 n ∨
       0xffff < n ∧ n ≤ 0xffffffff ∧ v = 0xfe :: writeLE 4 n ∨
       0xffffffff < n ∧ v = 0xff :: (writeLE 4 (n % 0x100000000) ++ writeLE 4 (n / 0x100000000))) := by
  by_cases hs : n ≤ maxSafeInteger
  · simp only [encode, checkUInt53_of_le hs] at h
    refine ⟨hs, ?_⟩
    split_ifs at h with h1 h2 h3 <;> cases h
    · exact .inl ⟨h1, rfl⟩
    · exact .inr (.inl ⟨by omega, h2, rfl⟩)
    · exact .inr (.inr (.inl ⟨by omega, h3, rfl⟩))
    · exact .inr (.inr (.inr ⟨by omega, rfl⟩))
  · simp [encode, checkUInt53, hs] at h

theorem encode_of_le {n : Nat} (h : n ≤ maxSafeInteger) : ∃ v, encode n = .ok v := by
  simp only [encode, checkUInt53_of_le h]
  split_ifs <;> exact ⟨_, rfl⟩

/-- Decoding reads back the value of any encoding, whatever bytes follow it. -/
theorem decode_encode {n : Nat} {v : Bytes} (h : encode n = .ok v) (rest : Bytes) :
    decode (v ++ rest) = .ok n := by
  obtain ⟨hs, ⟨hn, rfl⟩ | ⟨hlo, hhi, rfl⟩ | ⟨hlo, hhi, rfl⟩ | ⟨hlo, rfl⟩⟩ := encode_cases h
  · have hb : (n.toUInt8).toNat = n := UInt8.toNat_ofNat_of_lt (by unfold UInt8.size; omega)
    have hlt : n.toUInt8 < 0xfd := by
      simp only [UInt8.lt_def, BitVec.lt_def]; exact (hb.trans_lt hn)
    simp [decode, hlt, hb]
  · simp [decode, readUIntLE_writeLE (show n < 256 ^ 2 by omega)]
  · simp [decode, readUIntLE_writeLE (show n < 256 ^ 4 by omega)]
  · have hhi : n / 0x100000000 < 256 ^ 4 := by unfold maxSafeInteger at hs; omega
    have hlow : n % 0x100000000 < 256 ^ 4 := by omega
    simp only [decode, List.cons_append, List.append_assoc]
    rw [if_neg (by decide), if_neg (by decide), if_neg (by decide), readUIntLE_writeLE hlow,
      List.drop_left' (length_writeLE 4 _), readUIntLE_writeLE hhi]
    simp [Nat.div_add_mod' n, hs]

/-- `encodingLength` is the width `encode` chose. -/
theorem encodingLength_of_encode {n : Nat} {v : Bytes} (h : encode n = .ok v) :
    encodingLength n = .ok v.length := by
  obtain ⟨hs, ⟨hn, rfl⟩ | ⟨hlo, hhi, rfl⟩ | ⟨hlo, hhi, rfl⟩ | ⟨hlo, rfl⟩⟩ := encode_cases h <;>
    simp only [encodingLength, checkUInt53_of_le hs] <;> split_ifs <;> first | rfl | omega

end FunaiSdk.Varuint
