import RtmpMessages.Messages
import Mathlib.Data.List.Infix
import Mathlib.Algebra.Group.Nat.Basic

/-!
# Big-endian u32 on a byte cursor

The two `byteorder` calls the message codecs make: `write_u32::<BigEndian>` on a
`Cursor<Vec<u8>>` standing at the end of its buffer appends `u32::to_be_bytes`,
and `read_u32::<BigEndian>` on a `Cursor<&[u8]>` reads `u32::from_be_bytes` of
the next four bytes or fails with `UnexpectedEof`. Values are stated through
`toNat` as base-256 numbers, so `omega` carries the digit arithmetic and no
bit-blasting is needed. Reading and writing are exact inverses: every four
bytes are the encoding of exactly one value.
-/

namespace RtmpMessages.ByteOrder

set_option autoImplicit false

/-- `u32::to_be_bytes`: the most significant byte first. -/
def u32ToBeBytes (value : UInt32) : List UInt8 :=
  [.ofNat (value.toNat / 2 ^ 24), .ofNat (value.toNat / 2 ^ 16),
    .ofNat (value.toNat / 2 ^ 8), .ofNat value.toNat]

/-- `u32::from_be_bytes`. -/
def u32FromBeBytes (b0 b1 b2 b3 : UInt8) : UInt32 :=
  .ofNat (b0.toNat * 2 ^ 24 + b1.toNat * 2 ^ 16 + b2.toNat * 2 ^ 8 + b3.toNat)

/-- `write_u32::<BigEndian>` on a cursor at the end of `output`. -/
def writeU32 (output : List UInt8) (value : UInt32) : List UInt8 :=
  output ++ u32ToBeBytes value

/-- `read_u32::<BigEndian>` on a cursor over `input`: the value and the bytes
after it. The `UnexpectedEof` of a short read is the `ioShort` kind once the
codec's `?` has converted it. -/
def readU32 : List UInt8 → Except MessageDeserializationError (UInt32 × List UInt8)
  | b0 :: b1 :: b2 :: b3 :: rest => .ok (u32FromBeBytes b0 b1 b2 b3, rest)
  | _ => .error .ioShort

private theorem uint8_to_nat_of_nat (n : Nat) : (UInt8.ofNat n).toNat = n % 256 := rfl

private theorem uint32_to_nat_of_nat (n : Nat) : (UInt32.ofNat n).toNat = n % 2 ^ 32 := rfl

private theorem uint8_to_nat_lt (byte : UInt8) : byte.toNat < 256 := byte.toNat_lt_size

private theorem uint32_to_nat_lt (value : UInt32) : value.toNat < 2 ^ 32 := value.toNat_lt_size

@[simp] theorem length_u32_to_be_bytes (value : UInt32) : (u32ToBeBytes value).length = 4 := rfl

@[simp] theorem read_u32_cons (b0 b1 b2 b3 : UInt8) (rest : List UInt8) :
    readU32 (b0 :: b1 :: b2 :: b3 :: rest) = .ok (u32FromBeBytes b0 b1 b2 b3, rest) := rfl

/-- The value read is the base-256 number whose digits are the four bytes, most
significant first; it always fits, so nothing is reduced modulo `2^32`. -/
theorem to_nat_u32_from_be_bytes (b0 b1 b2 b3 : UInt8) :
    (u32FromBeBytes b0 b1 b2 b3).toNat =
      b0.toNat * 2 ^ 24 + b1.toNat * 2 ^ 16 + b2.toNat * 2 ^ 8 + b3.toNat := by
  have := uint8_to_nat_lt b0
  have := uint8_to_nat_lt b1
  have := uint8_to_nat_lt b2
  have := uint8_to_nat_lt b3
  rw [u32FromBeBytes, uint32_to_nat_of_nat]
  omega

theorem u32_from_be_bytes_u32_to_be_bytes (value : UInt32) :
    u32FromBeBytes (.ofNat (value.toNat / 2 ^ 24)) (.ofNat (value.toNat / 2 ^ 16))
      (.ofNat (value.toNat / 2 ^ 8)) (.ofNat value.toNat) = value := by
  have := uint32_to_nat_lt value
  apply UInt32.toNat.inj
  simp only [to_nat_u32_from_be_bytes, uint8_to_nat_of_nat, Nat.reducePow]
  omega

theorem u32_to_be_bytes_u32_from_be_bytes (b0 b1 b2 b3 : UInt8) :
    u32ToBeBytes (u32FromBeBytes b0 b1 b2 b3) = [b0, b1, b2, b3] := by
  have := uint8_to_nat_lt b0
  have := uint8_to_nat_lt b1
  have := uint8_to_nat_lt b2
  have := uint8_to_nat_lt b3
  simp only [u32ToBeBytes, to_nat_u32_from_be_bytes, List.cons.injEq, and_true]
  refine ⟨UInt8.toNat.inj ?_, UInt8.toNat.inj ?_, UInt8.toNat.inj ?_, UInt8.toNat.inj ?_⟩ <;>
    · rw [uint8_to_nat_of_nat]
      omega

/-- Reading back what was written gives the value and leaves what followed. -/
theorem read_u32_u32_to_be_bytes (value : UInt32) (rest : List UInt8) :
    readU32 (u32ToBeBytes value ++ rest) = .ok (value, rest) := by
  simp only [u32ToBeBytes, List.cons_append, List.nil_append, read_u32_cons,
    u32_from_be_bytes_u32_to_be_bytes]

example : u32ToBeBytes 523 = [0, 0, 2, 11] := by decide

/-- A read succeeds exactly on the encoding of its value followed by the rest:
the big-endian encoding is canonical. -/
theorem read_u32_eq_ok_iff {input rest : List UInt8} {value : UInt32} :
    readU32 input = .ok (value, rest) ↔ input = u32ToBeBytes value ++ rest := by
  constructor
  · intro decoded
    rcases input with _ | ⟨b0, _ | ⟨b1, _ | ⟨b2, _ | ⟨b3, rest⟩⟩⟩⟩ <;> cases decoded
    rw [u32_to_be_bytes_u32_from_be_bytes]
    rfl
  · rintro rfl
    exact read_u32_u32_to_be_bytes value rest

/-- A read fails exactly when fewer than four bytes remain. -/
theorem read_u32_error_iff (input : List UInt8) :
    (∃ error, readU32 input = .error error) ↔ input.length < 4 := by
  rcases input with _ | ⟨b0, _ | ⟨b1, _ | ⟨b2, _ | ⟨b3, rest⟩⟩⟩⟩ <;> simp [readU32]

end RtmpMessages.ByteOrder
