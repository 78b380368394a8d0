import RtmpMessages.ByteOrder

/-!
# `types::abort`

The body of an Abort message is the aborted chunk stream id as one big-endian
u32. `serialize` writes it on a fresh cursor and `deserialize` reads it back,
ignoring whatever follows the fourth byte. The codec is exact: a body decodes
if and only if it has at least four bytes, the id is the base-256 value of
those four, and re-encoding the id gives them back.
-/

namespace RtmpMessages.Types.Abort

open ByteOrder

set_option autoImplicit false

/-- `abort::serialize`. The write goes to a `Vec`, which cannot fail, so the
`?` after it never returns an error. -/
def serialize (streamId : UInt32) : Except MessageSerializationError (List UInt8) :=
  .ok (writeU32 [] streamId)

/-- `abort::deserialize`. -/
def deserialize {Amf0Value : Type} (data : List UInt8) :
    Except MessageDeserializationError (RtmpMessage Amf0Value) := do
  let (streamId, _) ← readU32 data
  return .abort streamId

variable {Amf0Value : Type}

theorem serialize_eq (streamId : UInt32) : serialize streamId = .ok (u32ToBeBytes streamId) := rfl

@[simp] theorem deserialize_cons (b0 b1 b2 b3 : UInt8) (rest : List UInt8) :
    @deserialize Amf0Value (b0 :: b1 :: b2 :: b3 :: rest) =
      .ok (.abort (u32FromBeBytes b0 b1 b2 b3)) := rfl

/-- `deserialize` is one big-endian read, its value wrapped as an Abort. -/
theorem deserialize_eq (data : List UInt8) :
    @deserialize Amf0Value data = (readU32 data).map fun read => .abort read.1 := by
  unfold deserialize
  cases readU32 data <;> rfl

/-- The id written is the id read, whatever bytes follow it. -/
theorem deserialize_u32_to_be_bytes (streamId : UInt32) (rest : List UInt8) :
    @deserialize Amf0Value (u32ToBeBytes streamId ++ rest) = .ok (.abort streamId) := by
  rw [deserialize_eq, read_u32_u32_to_be_bytes]
  rfl

/-- A body decodes exactly when it starts with the encoding of an id, and then
to that id. -/
theorem deserialize_eq_ok_iff {data : List UInt8} {message : RtmpMessage Amf0Value} :
    deserialize data = .ok message ↔
      ∃ streamId rest, message = .abort streamId ∧ data = u32ToBeBytes streamId ++ rest := by
  simp only [deserialize_eq, ← read_u32_eq_ok_iff]
  cases readU32 data with
  | error => simp [Except.map]
  | ok read =>
      obtain ⟨streamId, rest⟩ := read
      simp [Except.map, eq_comm]

theorem deserialize_error_iff (data : List UInt8) :
    (∃ error, @deserialize Amf0Value data = .error error) ↔ data.length < 4 := by
  rw [deserialize_eq, ← read_u32_error_iff]
  cases readU32 data <;> simp [Except.map]

/-- The Abort body is exactly one big-endian u32: a body decodes if and only if
it has four bytes, the id is their base-256 value, serializing never fails and
gives four such bytes, and re-serializing a decoded id gives back the first
four bytes of the body. -/
theorem abort_body_is_big_endian_u32 :
    (∀ data : List UInt8,
      (∃ error, @deserialize Amf0Value data = .error error) ↔ data.length < 4) ∧
    (∀ (b0 b1 b2 b3 : UInt8) (rest : List UInt8), ∃ streamId : UInt32,
      @deserialize Amf0Value (b0 :: b1 :: b2 :: b3 :: rest) = .ok (.abort streamId) ∧
      streamId.toNat = b0.toNat * 2 ^ 24 + b1.toNat * 2 ^ 16 + b2.toNat * 2 ^ 8 + b3.toNat) ∧
    (∀ streamId : UInt32, ∃ b0 b1 b2 b3 : UInt8,
      serialize streamId = .ok [b0, b1, b2, b3] ∧
      streamId.toNat = b0.toNat * 2 ^ 24 + b1.toNat * 2 ^ 16 + b2.toNat * 2 ^ 8 + b3.toNat ∧
      @deserialize Amf0Value [b0, b1, b2, b3] = .ok (.abort streamId)) ∧
    (∀ (data : List UInt8) (streamId : UInt32),
      @deserialize Amf0Value data = .ok (.abort streamId) →
        serialize streamId = .ok (data.take 4)) := by
  refine ⟨deserialize_error_iff, fun b0 b1 b2 b3 rest =>
    ⟨_, deserialize_cons b0 b1 b2 b3 rest, to_nat_u32_from_be_bytes b0 b1 b2 b3⟩,
    fun streamId => ⟨_, _, _, _, serialize_eq streamId,
      by rw [← to_nat_u32_from_be_bytes, u32_from_be_bytes_u32_to_be_bytes],
      deserialize_u32_to_be_bytes streamId []⟩, fun data streamId decoded => ?_⟩
  obtain ⟨other, rest, same, rfl⟩ := deserialize_eq_ok_iff.mp decoded
  cases same
  rw [serialize_eq, List.take_left' (length_u32_to_be_bytes _)]

/-- A six-byte body decodes to the id of its first four bytes, and the id
serializes back to those four. -/
theorem abort_body_with_trailing_bytes_reserializes :
    @deserialize Unit [0, 0, 0, 7, 9, 9] = .ok (.abort 7) ∧ serialize 7 = .ok [0, 0, 0, 7] :=
  ⟨rfl, (@abort_body_is_big_endian_u32 Unit).2.2.2 [0, 0, 0, 7, 9, 9] 7 rfl⟩

end RtmpMessages.Types.Abort
