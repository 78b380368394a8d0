import RtmpMessages.Types.Abort
import RtmpMessages.Types.Codecs

/-!
# `MessagePayload`: raw bodies to message variants and back

`to_rtmp_message` dispatches on the type id: twelve ids go to a body
deserializer (15 and 17 are the AMF3 quirks, read as AMF0), every other id comes
back as `Unknown` with its bytes. `from_rtmp_message` serializes the variant's
fields with the matching codec and stamps the variant's type id.

Of the `types::*` codecs only `abort` is in this source tree. The other nine are
the fields of `TypeCodecs`, a parameter of both functions, so every result here
holds for any implementation of them.
-/

namespace RtmpMessages

set_option autoImplicit false

/-- A raw RTMP message: the header fields the chunk layer carries, and the body. -/
structure MessagePayload where
  timestamp : RtmpTimestamp
  typeId : UInt8
  messageStreamId : UInt32
  data : List UInt8
  deriving DecidableEq, Repr

namespace MessagePayload

/-- `MessagePayload::new`. -/
def new : MessagePayload where
  timestamp := ⟨0⟩
  messageStreamId := 0
  typeId := 0
  data := []

variable {Amf0Value : Type} (codecs : TypeCodecs Amf0Value)

/-- `MessagePayload::to_rtmp_message`. -/
def toRtmpMessage (self : MessagePayload) :
    Except MessageDeserializationError (RtmpMessage Amf0Value) :=
  match self.typeId with
  | 1 => codecs.setChunkSize.deserialize self.data
  | 2 => Types.Abort.deserialize self.data
  | 3 => codecs.acknowledgement.deserialize self.data
  | 4 => codecs.userControl.deserialize self.data
  | 5 => codecs.windowAcknowledgementSize.deserialize self.data
  | 6 => codecs.setPeerBandwidth.deserialize self.data
  | 8 => codecs.audioData.deserialize self.data
  | 9 => codecs.videoData.deserialize self.data
  | 18 => codecs.amf0Data.deserialize self.data
  | 20 => codecs.amf0Command.deserialize self.data
  -- Flash players flag amf0 data as amf3 encoded.
  | 15 => codecs.amf0Data.deserialize self.data
  | 17 =>
      -- Fake amf3 commands usually have a 0 in front of the amf0 data.
      if self.data.head? = some 0x00 then codecs.amf0Command.deserialize (self.data.drop 1)
      else codecs.amf0Command.deserialize self.data
  | _ => .ok (.unknown self.typeId self.data)

/-- The body `from_rtmp_message` builds: its `let bytes = match message { .. }`. -/
def messageBytes : RtmpMessage Amf0Value → Except MessageSerializationError (List UInt8)
  | .unknown _ data => .ok data
  | .abort streamId => Types.Abort.serialize streamId
  | .acknowledgement sequenceNumber => codecs.acknowledgement.serialize sequenceNumber
  | .amf0Command commandName transactionId commandObject additionalArguments =>
      codecs.amf0Command.serialize (commandName, transactionId, commandObject, additionalArguments)
  | .amf0Data values => codecs.amf0Data.serialize values
  | .audioData data => codecs.audioData.serialize data
  | .setChunkSize size => codecs.setChunkSize.serialize size
  | .setPeerBandwidth size limitType => codecs.setPeerBandwidth.serialize (limitType, size)
  | .userControl eventType streamId bufferLength timestamp =>
      codecs.userControl.serialize (eventType, streamId, bufferLength, timestamp)
  | .videoData data => codecs.videoData.serialize data
  | .windowAcknowledgement size => codecs.windowAcknowledgementSize.serialize size

/-- `MessagePayload::from_rtmp_message`. -/
def fromRtmpMessage (message : RtmpMessage Amf0Value) (timestamp : RtmpTimestamp)
    (messageStreamId : UInt32) : Except MessageSerializationError MessagePayload := do
  let typeId := message.getMessageTypeId
  let bytes ← messageBytes codecs message
  return { data := bytes, typeId, messageStreamId, timestamp }

/-- The type ids `to_rtmp_message` hands to a body deserializer. -/
def dispatchedTypeIds : List UInt8 := [1, 2, 3, 4, 5, 6, 8, 9, 18, 20, 15, 17]

/-- A payload is serialized from a message exactly when its body is, and then it
carries the message's type id and the given header fields. -/
theorem from_rtmp_message_eq_ok_iff {message : RtmpMessage Amf0Value} {timestamp : RtmpTimestamp}
    {messageStreamId : UInt32} {payload : MessagePayload} :
    fromRtmpMessage codecs message timestamp messageStreamId = .ok payload ↔
      ∃ bytes, messageBytes codecs message = .ok bytes ∧
        payload = ⟨timestamp, message.getMessageTypeId, messageStreamId, bytes⟩ := by
  simp only [fromRtmpMessage, bind, Except.bind, pure, Except.pure]
  cases messageBytes codecs message <;> simp [eq_comm]

theorem to_rtmp_message_of_type_id_eq_two {payload : MessagePayload} (abortType : payload.typeId = 2) :
    payload.toRtmpMessage codecs = Types.Abort.deserialize payload.data := by
  rw [toRtmpMessage, abortType]
  rfl

/-- The AMF3 command quirk: a type-17 payload is read as an AMF0 command, less
its first byte when that byte is zero. -/
theorem to_rtmp_message_of_type_id_eq_seventeen {payload : MessagePayload}
    (flagged : payload.typeId = 17) :
    payload.toRtmpMessage codecs = codecs.amf0Command.deserialize
      (if payload.data.head? = some 0x00 then payload.data.drop 1 else payload.data) := by
  rw [toRtmpMessage, flagged]
  exact (apply_ite codecs.amf0Command.deserialize _ _ _).symm

theorem to_rtmp_message_of_not_mem {payload : MessagePayload}
    (outside : payload.typeId ∉ dispatchedTypeIds) :
    payload.toRtmpMessage codecs = .ok (.unknown payload.typeId payload.data) := by
  unfold toRtmpMessage
  split <;> first
    | rfl
    | rename_i dispatched; exact absurd (dispatched ▸ by decide) outside

example (codecs : TypeCodecs Unit) : new.toRtmpMessage codecs = .ok (.unknown 0 []) :=
  to_rtmp_message_of_not_mem codecs (by decide)

@[simp] theorem from_rtmp_message_abort (streamId : UInt32) (timestamp : RtmpTimestamp)
    (messageStreamId : UInt32) :
    fromRtmpMessage codecs (.abort streamId) timestamp messageStreamId =
      .ok ⟨timestamp, 2, messageStreamId, ByteOrder.u32ToBeBytes streamId⟩ := rfl

@[simp] theorem from_rtmp_message_unknown (typeId : UInt8) (data : List UInt8)
    (timestamp : RtmpTimestamp) (messageStreamId : UInt32) :
    fromRtmpMessage codecs (.unknown typeId data) timestamp messageStreamId =
      .ok ⟨timestamp, typeId, messageStreamId, data⟩ := rfl

/-- An Abort payload built by `from_rtmp_message` decodes to its message. -/
theorem to_rtmp_message_from_rtmp_message_abort (streamId : UInt32) (timestamp : RtmpTimestamp)
    (messageStreamId : UInt32) :
    (⟨timestamp, 2, messageStreamId, ByteOrder.u32ToBeBytes streamId⟩ : MessagePayload).toRtmpMessage
      codecs = .ok (.abort streamId) := by
  rw [to_rtmp_message_of_type_id_eq_two codecs rfl]
  exact Types.Abort.deserialize_u32_to_be_bytes streamId []

/-- Round trip of the bridge over the variants whose codecs are in this tree:
an Abort message survives `from_rtmp_message` then `to_rtmp_message`, and a
payload of type 2 or of a pass-through type id, once decoded, re-encodes to the
same header and a prefix of its body that decodes to the same message. -/
theorem abort_and_pass_through_payloads_round_trip :
    (∀ (streamId : UInt32) (timestamp : RtmpTimestamp) (messageStreamId : UInt32),
      ∃ payload, fromRtmpMessage codecs (.abort streamId) timestamp messageStreamId = .ok payload ∧
        payload.typeId = 2 ∧ payload.timestamp = timestamp ∧
        payload.messageStreamId = messageStreamId ∧
        payload.toRtmpMessage codecs = .ok (.abort streamId)) ∧
    (∀ (payload : MessagePayload) (message : RtmpMessage Amf0Value),
      (payload.typeId = 2 ∨ payload.typeId ∉ dispatchedTypeIds) →
      payload.toRtmpMessage codecs = .ok message →
      ∃ payload', fromRtmpMessage codecs message payload.timestamp payload.messageStreamId =
          .ok payload' ∧
        payload'.typeId = payload.typeId ∧ payload'.timestamp = payload.timestamp ∧
        payload'.messageStreamId = payload.messageStreamId ∧
        payload'.data <+: payload.data ∧
        payload'.data = (if payload.typeId = 2 then payload.data.take 4 else payload.data) ∧
        payload'.toRtmpMessage codecs = .ok message) := by
  refine ⟨fun streamId timestamp messageStreamId => ⟨_, from_rtmp_message_abort .., rfl, rfl, rfl,
    to_rtmp_message_from_rtmp_message_abort codecs ..⟩, fun payload message selected decoded => ?_⟩
  rcases selected with abortType | outside
  · rw [to_rtmp_message_of_type_id_eq_two codecs abortType, Types.Abort.deserialize_eq_ok_iff] at decoded
    obtain ⟨streamId, rest, rfl, body⟩ := decoded
    refine ⟨_, from_rtmp_message_abort .., abortType.symm, rfl, rfl, body ▸ List.prefix_append _ _,
      ?_, to_rtmp_message_from_rtmp_message_abort codecs ..⟩
    rw [if_pos abortType, body, List.take_left' (ByteOrder.length_u32_to_be_bytes _)]
  · rw [to_rtmp_message_of_not_mem codecs outside] at decoded
    cases decoded
    have notAbort : payload.typeId ≠ 2 := fun abortType => outside (abortType ▸ by decide)
    exact ⟨_, from_rtmp_message_unknown .., rfl, rfl, rfl, List.prefix_refl _, (if_neg notAbort).symm,
      to_rtmp_message_of_not_mem codecs outside⟩

/-- A type-2 payload with two bytes after the id decodes to that id, and is
written back as the id's four bytes alone. -/
theorem abort_payload_with_trailing_bytes_reencodes :
    (⟨⟨5⟩, 2, 1, [0, 0, 0, 7, 9, 9]⟩ : MessagePayload).toRtmpMessage TypeCodecs.sample =
        .ok (.abort 7) ∧
      ∃ payload', fromRtmpMessage TypeCodecs.sample (.abort 7) ⟨5⟩ 1 = .ok payload' ∧
        payload'.typeId = 2 ∧ payload'.timestamp = ⟨5⟩ ∧ payload'.messageStreamId = 1 ∧
        payload'.data <+: [0, 0, 0, 7, 9, 9] ∧ payload'.data = [0, 0, 0, 7] ∧
        payload'.toRtmpMessage TypeCodecs.sample = .ok (.abort 7) :=
  ⟨rfl, (abort_and_pass_through_payloads_round_trip TypeCodecs.sample).2
    ⟨⟨5⟩, 2, 1, [0, 0, 0, 7, 9, 9]⟩ (.abort 7) (.inl rfl) rfl⟩

/-- An `Unknown` message keeps its type id and bytes in the payload, and comes
back as itself when its type id is one `to_rtmp_message` does not dispatch on. -/
theorem unknown_payload_passes_through (typeId : UInt8) (data : List UInt8)
    (timestamp : RtmpTimestamp) (messageStreamId : UInt32) :
    ∃ payload, fromRtmpMessage codecs (.unknown typeId data) timestamp messageStreamId =
        .ok payload ∧
      payload.typeId = typeId ∧ payload.data = data ∧
      (typeId ∉ dispatchedTypeIds → payload.toRtmpMessage codecs = .ok (.unknown typeId data)) :=
  ⟨_, from_rtmp_message_unknown .., rfl, rfl, fun outside => to_rtmp_message_of_not_mem codecs outside⟩

/-- An `Unknown` message of type id 33, which the table leaves out, comes back as itself. -/
theorem unknown_thirty_three_passes_through :
    ∃ payload, fromRtmpMessage TypeCodecs.sample (.unknown 33 [23]) ⟨0⟩ 0 = .ok payload ∧
      payload.typeId = 33 ∧ payload.data = [23] ∧
      payload.toRtmpMessage TypeCodecs.sample = .ok (.unknown 33 [23]) :=
  let ⟨payload, encoded, typeIdEq, dataEq, decodes⟩ :=
    unknown_payload_passes_through TypeCodecs.sample 33 [23] ⟨0⟩ 0
  ⟨payload, encoded, typeIdEq, dataEq, decodes (by decide)⟩

/-- An `Unknown` message that carries type id 2 is read back by the Abort codec,
whatever the other codecs are. -/
theorem unknown_with_abort_type_id_is_not_passed_through :
    ¬ ∃ (Amf0Value : Type) (codecs : TypeCodecs Amf0Value) (payload : MessagePayload),
      fromRtmpMessage codecs (.unknown 2 [0, 0, 0, 0]) ⟨0⟩ 0 = .ok payload ∧
      payload.typeId = 2 ∧ payload.data = [0, 0, 0, 0] ∧
      payload.toRtmpMessage codecs = .ok (.unknown 2 [0, 0, 0, 0]) := by
  rintro ⟨Amf0Value, codecs, payload, encoded, -, -, decoded⟩
  cases encoded
  rw [to_rtmp_message_of_type_id_eq_two codecs rfl] at decoded
  cases decoded

end MessagePayload

end RtmpMessages
