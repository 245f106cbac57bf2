import Mathlib.Data.String.Basic

/-!
# Bytes and hex strings

Keys reach the builders as `Uint8Array`s or as hex strings spelled by the caller;
`publicKeyToHex` turns byte keys into lowercase hex and leaves strings as they are.
`bytesToHex` and `hexToBytes` belong to the common package, which is not among the sources:
`hexToBytes` is modelled on strings of hex digits of either case, two a byte after padding,
and rejects any other pair.
-/

namespace FunaiSdk

abbrev Bytes := List UInt8

@[simp] theorem except_pure {ε α : Type} (a : α) : (pure a : Except ε α) = .ok a := rfl

@[simp] theorem except_ok_bind {ε α β : Type} (a : α) (f : α → Except ε β) :
    (Except.ok a >>= f) = f a := rfl

@[simp] theorem except_error_bind {ε α β : Type} (e : ε) (f : α → Except ε β) :
    (Except.error e >>= f) = Except.error e := rfl

theorem except_bind_eq_ok {ε α β : Type} {x : Except ε α} {f : α → Except ε β} {b : β} :
    x >>= f = .ok b ↔ ∃ a, x = .ok a ∧ f a = .ok b := by
  cases x <;> simp

/-- The lowercase hex digit of a nibble. -/
def hexDigit (n : Nat) : Char :=
  if n < 10 then Char.ofNat (48 + n) else Char.ofNat (87 + n)

def byteToHex (b : UInt8) : List Char :=
  [hexDigit (b.toNat / 16), hexDigit (b.toNat % 16)]

def bytesToHex (bytes : Bytes) : String :=
  ⟨bytes.flatMap byteToHex⟩

/-- The same key bytes in uppercase hex, as a caller may spell them. -/
def upperHex (bytes : Bytes) : String :=
  ⟨bytes.flatMap fun b => (byteToHex b).map Char.toUpper⟩

/-- The value of a hex digit of either letter case. -/
def hexDigitValue (c : Char) : Option Nat :=
  if '0' ≤ c ∧ c ≤ '9' then some (c.toNat - 48)
  else if 'a' ≤ c ∧ c ≤ 'f' then some (c.toNat - 87)
  else if 'A' ≤ c ∧ c ≤ 'F' then some (c.toNat - 55)
  else none

def hexPairsToBytes : List Char → Except String Bytes
  | [] => .ok []
  | [_] => .error "Invalid byte sequence"
  | hi :: lo :: rest =>
    match hexDigitValue hi, hexDigitValue lo with
    | some h, some l => ((16 * h + l).toUInt8 :: ·) <$> hexPairsToBytes rest
    | _, _ => .error "Invalid byte sequence"

/-- Odd-length input is read with a leading `0`, as the library pads it. -/
def hexToBytes (hex : String) : Except String Bytes :=
  hexPairsToBytes (if hex.length % 2 = 1 then '0' :: hex.data else hex.data)

theorem hexDigitValue_hexDigit : ∀ n : Fin 16, hexDigitValue (hexDigit n) = some n.val := by
  decide

theorem hexDigitValue_toUpper_hexDigit :
    ∀ n : Fin 16, hexDigitValue (hexDigit n).toUpper = some n.val := by
  decide

theorem toNat_lt_256 (b : UInt8) : b.toNat < 256 := b.toNat_lt_size

theorem toUInt8_toNat (b : UInt8) : b.toNat.toUInt8 = b :=
  UInt8.toNat.inj (UInt8.toNat_ofNat_of_lt b.toNat_lt_size)

theorem hexPairs_byte (b : UInt8) (hi lo : Char) (h : hexDigitValue hi = some (b.toNat / 16))
    (l : hexDigitValue lo = some (b.toNat % 16)) (rest : List Char) :
    hexPairsToBytes (hi :: lo :: rest) = (b :: ·) <$> hexPairsToBytes rest := by
  have hb : (16 * (b.toNat / 16) + b.toNat % 16).toUInt8 = b := by
    rw [Nat.div_add_mod, toUInt8_toNat]
  simp only [hexPairsToBytes, h, l, hb]

theorem hexPairsToBytes_bytesToHex (bytes : Bytes) :
    hexPairsToBytes (bytes.flatMap byteToHex) = .ok bytes := by
  induction bytes with
  | nil => rfl
  | cons b bs ih =>
    have hi := hexDigitValue_hexDigit ⟨b.toNat / 16, by have := toNat_lt_256 b; omega⟩
    have lo := hexDigitValue_hexDigit ⟨b.toNat % 16, by omega⟩
    rw [List.flatMap_cons, byteToHex, List.cons_append, List.cons_append,
      hexPairs_byte b _ _ hi lo, List.nil_append, ih]
    rfl

theorem hexPairsToBytes_upperHex (bytes : Bytes) :
    hexPairsToBytes (bytes.flatMap fun b => (byteToHex b).map Char.toUpper) = .ok bytes := by
  induction bytes with
  | nil => rfl
  | cons b bs ih =>
    have hi := hexDigitValue_toUpper_hexDigit ⟨b.toNat / 16, by have := toNat_lt_256 b; omega⟩
    have lo := hexDigitValue_toUpper_hexDigit ⟨b.toNat % 16, by omega⟩
    rw [List.flatMap_cons, byteToHex, List.map_cons, List.map_cons, List.map_nil,
      List.cons_append, List.cons_append, hexPairs_byte b _ _ hi lo, List.nil_append, ih]
    rfl

theorem length_bytesToHex (bytes : Bytes) : (bytesToHex bytes).length = 2 * bytes.length := by
  induction bytes with
  | nil => rfl
  | cons b bs ih =>
    simp only [bytesToHex, String.length, List.flatMap_cons, List.length_append] at ih ⊢
    rw [ih]; simp [byteToHex]; omega

theorem length_upperHex (bytes : Bytes) : (upperHex bytes).length = 2 * bytes.length := by
  induction bytes with
  | nil => rfl
  | cons b bs ih =>
    simp only [upperHex, String.length, List.flatMap_cons, List.length_append] at ih ⊢
    rw [ih]; simp [byteToHex]; omega

@[simp] theorem hexToBytes_upperHex (bytes : Bytes) : hexToBytes (upperHex bytes) = .ok bytes := by
  have heven : (upperHex bytes).length % 2 = 0 := by rw [length_upperHex]; omega
  simp only [hexToBytes, heven]
  exact hexPairsToBytes_upperHex bytes

/-- Every byte key spelled by `bytesToHex` reads back as the same bytes. -/
@[simp] theorem hexToBytes_bytesToHex (bytes : Bytes) : hexToBytes (bytesToHex bytes) = .ok bytes := by
  have heven : (bytesToHex bytes).length % 2 = 0 := by rw [length_bytesToHex]; omega
  simp only [hexToBytes, heven]
  exact hexPairsToBytes_bytesToHex bytes

end FunaiSdk
