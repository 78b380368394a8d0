import RtmpMessages.MessagePayload

/-!
# Round trips of the payload bridge

The bridge adds nothing a body codec has to undo: `from_rtmp_message` writes the
type id of the message's variant, and `to_rtmp_message` reads it back to pick
the codec of the same variant. So what the codecs do carries over to whole
payloads, message by message:

* a message comes back from its payload whenever the codec of its variant reads
  it back (`RtmpMessage.ReadsBack`): Abort always, and `Unknown` when its type
  id is outside the table;
* when every codec answers only with its own variant, `to_rtmp_message_eq_ok_cases`
  says once everything `to_rtmp_message` can return. Re-encoding a decoded
  payload then keeps its header, writing the AMF3-flagged ids 15 and 17 as the
  AMF0 ids 18 and 20, and `Unknown` comes back exactly for the ids outside the
  table;
* when moreover every codec reads back what it answers, decoding and
  re-encoding reach a fixed point in one step.

The body written again need not be a prefix of the one decoded: a codec may
mask bits on read, as SetChunkSize does with its high bit.
-/

namespace RtmpMessages

set_option autoImplicit false

variable {Amf0Value : Type}

/-- What reading a message back from its own payload asks of the codecs: that
the codec of its variant reads it back from what it writes for its fields.
Abort asks nothing, its codec being in this tree; `Unknown` asks that
`to_rtmp_message` hand its type id to no codec. -/
def RtmpMessage.ReadsBack (codecs : TypeCodecs Amf0Value) : RtmpMessage Amf0Value → Prop
  | .unknown typeId _ => typeId ∉ MessagePayload.dispatchedTypeIds
  | .abort _ => True
  | .acknowledgement sequenceNumber =>
      codecs.acknowledgement.ReadsBack sequenceNumber (.acknowledgement sequenceNumber)
  | .amf0Command commandName transactionId commandObject additionalArguments =>
      codecs.amf0Command.ReadsBack (commandName, transactionId, commandObject, additionalArguments)
        (.amf0Command commandName transactionId commandObject additionalArguments)
  | .amf0Data values => codecs.amf0Data.ReadsBack values (.amf0Data values)
  | .audioData data => codecs.audioData.ReadsBack data (.audioData data)
  | .setChunkSize size => codecs.setChunkSize.ReadsBack size (.setChunkSize size)
  | .setPeerBandwidth size limitType =>
      codecs.setPeerBandwidth.ReadsBack (limitType, size) (.setPeerBandwidth size limitType)
  | .userControl eventType streamId bufferLength timestamp =>
      codecs.userControl.ReadsBack (eventType, streamId, bufferLength, timestamp)
        (.userControl eventType streamId bufferLength timestamp)
  | .videoData data => codecs.videoData.ReadsBack data (.videoData data)
  | .windowAcknowledgement size =>
      codecs.windowAcknowledgementSize.ReadsBack size (.windowAcknowledgement size)

/-- `body` decodes to the message under the deserializer of the message's own
variant; `Unknown` is no deserializer's answer. -/
def RtmpMessage.DecodedFrom (codecs : TypeCodecs Amf0Value) (body : List UInt8) :
    RtmpMessage Amf0Value → Prop
  | .unknown .. => False
  | .abort streamId => @Types.Abort.deserialize Amf0Value body = .ok (.abort streamId)
  | .acknowledgement sequenceNumber =>
      codecs.acknowledgement.deserialize body = .ok (.acknowledgement sequenceNumber)
  | .amf0Command commandName transactionId commandObject additionalArguments =>
      codecs.amf0Command.deserialize body =
        .ok (.amf0Command commandName transactionId commandObject additionalArguments)
  | .amf0Data values => codecs.amf0Data.deserialize body = .ok (.amf0Data values)
  | .audioData data => codecs.audioData.deserialize body = .ok (.audioData data)
  | .setChunkSize size => codecs.setChunkSize.deserialize body = .ok (.setChunkSize size)
  | .setPeerBandwidth size limitType =>
      codecs.setPeerBandwidth.deserialize body = .ok (.setPeerBandwidth size limitType)
  | .userControl eventType streamId bufferLength timestamp =>
      codecs.userControl.deserialize body =
        .ok (.userControl eventType streamId bufferLength timestamp)
  | .videoData data => codecs.videoData.deserialize body = .ok (.videoData data)
  | .windowAcknowledgement size =>
      codecs.windowAcknowledgementSize.deserialize body = .ok (.windowAcknowledgement size)

/-- A message its own codec decoded is read back by it, once every codec reads
back what it answers. -/
theorem RtmpMessage.reads_back_of_decoded_from {codecs : TypeCodecs Amf0Value}
    (readsBackAnswers : codecs.ReadsBackAnswers) {body : List UInt8}
    {message : RtmpMessage Amf0Value} (decodedFrom : message.DecodedFrom codecs body) :
    message.ReadsBack codecs := by
  cases message with
  | unknown => exact False.elim decodedFrom
  | abort => trivial
  | acknowledgement => exact readsBackAnswers.acknowledgement _ _ decodedFrom
  | amf0Command commandName transactionId commandObject additionalArguments =>
      exact readsBackAnswers.amf0Command _
        (commandName, transactionId, commandObject, additionalArguments) decodedFrom
  | amf0Data => exact readsBackAnswers.amf0Data _ _ decodedFrom
  | audioData => exact readsBackAnswers.audioData _ _ decodedFrom
  | setChunkSize => exact readsBackAnswers.setChunkSize _ _ decodedFrom
  | setPeerBandwidth size limitType =>
      exact readsBackAnswers.setPeerBandwidth _ (limitType, size) decodedFrom
  | userControl eventType streamId bufferLength timestamp =>
      exact readsBackAnswers.userControl _ (eventType, streamId, bufferLength, timestamp) decodedFrom
  | videoData => exact readsBackAnswers.videoData _ _ decodedFrom
  | windowAcknowledgement => exact readsBackAnswers.windowAcknowledgementSize _ _ decodedFrom

namespace MessagePayload

variable (codecs : TypeCodecs Amf0Value)

/-- A message comes back from the payload `from_rtmp_message` builds for it
once the codec of its variant reads it back. -/
private theorem decodes_of_reads_back {message : RtmpMessage Amf0Value}
    (readsBack : message.ReadsBack codecs) {timestamp : RtmpTimestamp}
    {messageStreamId : UInt32} {payload : MessagePayload}
    (encoded : fromRtmpMessage codecs message timestamp messageStreamId = .ok payload) :
    payload.toRtmpMessage codecs = .ok message := by
  obtain ⟨bytes, written, rfl⟩ := (from_rtmp_message_eq_ok_iff codecs).mp encoded
  cases message with
  | unknown =>
      cases written
      exact to_rtmp_message_of_not_mem codecs readsBack
  | abort streamId =>
      cases written
      exact Types.Abort.deserialize_u32_to_be_bytes streamId []
  | _ => exact readsBack _ written

/-- `to_rtmp_message` undoes `from_rtmp_message` on every message the codec of
its variant reads back. -/
theorem to_rtmp_message_from_rtmp_message {message : RtmpMessage Amf0Value}
    (readsBack : message.ReadsBack codecs) {timestamp : RtmpTimestamp}
    {messageStreamId : UInt32} {payload : MessagePayload}
    (encoded : fromRtmpMessage codecs message timestamp messageStreamId = .ok payload) :
    payload.toRtmpMessage codecs = .ok message :=
  decodes_of_reads_back codecs readsBack encoded

/-- A size that fits in 31 bits comes back from its SetChunkSize payload. -/
theorem chunk_size_payload_round_trips :
    (RtmpMessage.setChunkSize 128 : RtmpMessage UInt8).ReadsBack TypeCodecs.sample ∧
      fromRtmpMessage TypeCodecs.sample (.setChunkSize 128) ⟨5⟩ 1 =
        .ok ⟨⟨5⟩, 1, 1, [0, 0, 0, 128]⟩ ∧
      (⟨⟨5⟩, 1, 1, [0, 0, 0, 128]⟩ : MessagePayload).toRtmpMessage TypeCodecs.sample =
        .ok (.setChunkSize 128) := by
  have readsBack : (RtmpMessage.setChunkSize 128 : RtmpMessage UInt8).ReadsBack TypeCodecs.sample :=
    BodyCodec.chunk_size_reads_back (by decide)
  have encoded : fromRtmpMessage TypeCodecs.sample (.setChunkSize 128) ⟨5⟩ 1 =
      .ok ⟨⟨5⟩, 1, 1, [0, 0, 0, 128]⟩ := rfl
  exact ⟨readsBack, encoded, to_rtmp_message_from_rtmp_message _ readsBack encoded⟩

/-- The type id `from_rtmp_message` writes for what `to_rtmp_message` read under
`typeId`: the two AMF3-flagged ids become their AMF0 ones. -/
def canonicalTypeId (typeId : UInt8) : UInt8 :=
  if typeId = 15 then 18 else if typeId = 17 then 20 else typeId

/-- One dispatched type id, read with `codec`: its answer is the codec's own
variant, which `from_rtmp_message` writes under `typeId`. -/
private theorem answered_through {Fields : Type} {codec : BodyCodec Fields Amf0Value}
    {variant : Fields → RtmpMessage Amf0Value} (answers : codec.AnswersOwnVariant variant)
    {typeId : UInt8}
    (own : ∀ fields body, codec.deserialize body = .ok (variant fields) →
      (variant fields).getMessageTypeId = typeId ∧ (variant fields).DecodedFrom codecs body)
    {body : List UInt8} {message : RtmpMessage Amf0Value}
    (decoded : codec.deserialize body = .ok message) :
    message.getMessageTypeId = typeId ∧ ∃ body, message.DecodedFrom codecs body := by
  obtain ⟨fields, rfl⟩ := answers _ _ decoded
  obtain ⟨sameTypeId, decodedFrom⟩ := own fields body decoded
  exact ⟨sameTypeId, body, decodedFrom⟩

/-- Everything `to_rtmp_message` can return, once every absent codec answers
only with its own variant: a payload of a type id outside the table comes back
as `Unknown` with its own id and body; one inside it is decoded by the codec of
the message's variant, which `from_rtmp_message` writes under the AMF0 form of
the type id. -/
theorem to_rtmp_message_eq_ok_cases (typed : codecs.AnswersOwnVariants)
    {payload : MessagePayload} {message : RtmpMessage Amf0Value}
    (decoded : payload.toRtmpMessage codecs = .ok message) :
    (payload.typeId ∉ dispatchedTypeIds ∧ message = .unknown payload.typeId payload.data) ∨
    (payload.typeId ∈ dispatchedTypeIds ∧
      message.getMessageTypeId = canonicalTypeId payload.typeId ∧
      ∃ body, message.DecodedFrom codecs body) := by
  by_cases dispatched : payload.typeId ∈ dispatchedTypeIds
  · refine .inr ⟨dispatched, ?_⟩
    obtain ⟨timestamp, typeId, messageStreamId, data⟩ := payload
    simp only [dispatchedTypeIds, List.mem_cons, List.mem_singleton, List.not_mem_nil,
      or_false] at dispatched
    rcases dispatched with rfl | rfl | rfl | rfl | rfl | rfl | rfl | rfl | rfl | rfl | rfl | rfl
    · exact answered_through codecs typed.setChunkSize (fun _ _ read => ⟨rfl, read⟩) decoded
    · obtain ⟨streamId, -, rfl, -⟩ := Types.Abort.deserialize_eq_ok_iff.mp decoded
      exact ⟨rfl, data, decoded⟩
    · exact answered_through codecs typed.acknowledgement (fun _ _ read => ⟨rfl, read⟩) decoded
    · exact answered_through codecs typed.userControl (fun _ _ read => ⟨rfl, read⟩) decoded
    · exact answered_through codecs typed.windowAcknowledgementSize
        (fun _ _ read => ⟨rfl, read⟩) decoded
    · exact answered_through codecs typed.setPeerBandwidth (fun _ _ read => ⟨rfl, read⟩) decoded
    · exact answered_through codecs typed.audioData (fun _ _ read => ⟨rfl, read⟩) decoded
    · exact answered_through codecs typed.videoData (fun _ _ read => ⟨rfl, read⟩) decoded
    · exact answered_through codecs typed.amf0Data (fun _ _ read => ⟨rfl, read⟩) decoded
    · exact answered_through codecs typed.amf0Command (fun _ _ read => ⟨rfl, read⟩) decoded
    · exact answered_through codecs typed.amf0Data (fun _ _ read => ⟨rfl, read⟩) decoded
    · rw [to_rtmp_message_of_type_id_eq_seventeen codecs rfl] at decoded
      exact answered_through codecs typed.amf0Command (fun _ _ read => ⟨rfl, read⟩) decoded
  · rw [to_rtmp_message_of_not_mem codecs dispatched] at decoded
    exact .inl ⟨dispatched, (Except.ok.inj decoded).symm⟩

/-- Decoding a payload and encoding the message again reaches a fixed point in
one step, once every codec answers only with its own variant and reads back
what it answers: the payload written decodes to the same message and is
written again unchanged. -/
theorem reencoding_decoded_payload_is_idempotent (typed : codecs.AnswersOwnVariants)
    (readsBackAnswers : codecs.ReadsBackAnswers) {payload : MessagePayload}
    {message : RtmpMessage Amf0Value} (decoded : payload.toRtmpMessage codecs = .ok message)
    {payload' : MessagePayload}
    (reencoded : fromRtmpMessage codecs message payload.timestamp payload.messageStreamId =
      .ok payload') :
    payload'.toRtmpMessage codecs = .ok message ∧
      fromRtmpMessage codecs message payload'.timestamp payload'.messageStreamId = .ok payload' := by
  have readsBack : message.ReadsBack codecs := by
    rcases to_rtmp_message_eq_ok_cases codecs typed decoded with
      ⟨outside, rfl⟩ | ⟨-, -, body, decodedFrom⟩
    · exact outside
    · exact RtmpMessage.reads_back_of_decoded_from readsBackAnswers decodedFrom
  obtain ⟨bytes, -, rfl⟩ := (from_rtmp_message_eq_ok_iff codecs).mp reencoded
  exact ⟨decodes_of_reads_back codecs readsBack reencoded, reencoded⟩

/-- A SetChunkSize body with its high bit set decodes to the size less that
bit; the payload written back without it decodes to the same size and is
written again unchanged. -/
theorem masked_chunk_size_payload_reaches_fixed_point :
    (⟨⟨5⟩, 1, 1, [0x80, 0, 0, 0x80]⟩ : MessagePayload).toRtmpMessage TypeCodecs.sample =
        .ok (.setChunkSize 128) ∧
      (⟨⟨5⟩, 1, 1, [0, 0, 0, 0x80]⟩ : MessagePayload).toRtmpMessage TypeCodecs.sample =
        .ok (.setChunkSize 128) ∧
      fromRtmpMessage TypeCodecs.sample (.setChunkSize 128) ⟨5⟩ 1 =
        .ok ⟨⟨5⟩, 1, 1, [0, 0, 0, 0x80]⟩ := by
  have decoded : (⟨⟨5⟩, 1, 1, [0x80, 0, 0, 0x80]⟩ : MessagePayload).toRtmpMessage
      TypeCodecs.sample = .ok (.setChunkSize 128) := rfl
  have reencoded : fromRtmpMessage TypeCodecs.sample (.setChunkSize 128) ⟨5⟩ 1 =
      .ok ⟨⟨5⟩, 1, 1, [0, 0, 0, 0x80]⟩ := rfl
  exact ⟨decoded, reencoding_decoded_payload_is_idempotent _ TypeCodecs.sample_answers_own_variants
    TypeCodecs.sample_reads_back_answers decoded reencoded⟩

/-- `to_rtmp_message` gives back `Unknown` exactly for the payloads whose type id
is outside its table, with their own type id and body, once every absent codec
answers only with its own variant. -/
theorem to_rtmp_message_eq_unknown_iff (typed : codecs.AnswersOwnVariants)
    (payload : MessagePayload) (typeId : UInt8) (data : List UInt8) :
    payload.toRtmpMessage codecs = .ok (.unknown typeId data) ↔
      payload.typeId ∉ dispatchedTypeIds ∧ typeId = payload.typeId ∧ data = payload.data := by
  constructor
  · intro decoded
    rcases to_rtmp_message_eq_ok_cases codecs typed decoded with
      ⟨outside, same⟩ | ⟨-, -, body, decodedFrom⟩
    · exact ⟨outside, RtmpMessage.unknown.inj same⟩
    · exact False.elim decodedFrom
  · rintro ⟨outside, rfl, rfl⟩
    exact to_rtmp_message_of_not_mem codecs outside

/-- A payload of type id 33 comes back as `Unknown`, and a type-1 payload does not. -/
theorem only_undispatched_payloads_decode_to_unknown :
    TypeCodecs.sample.AnswersOwnVariants ∧
      (⟨⟨0⟩, 33, 0, [23]⟩ : MessagePayload).toRtmpMessage TypeCodecs.sample =
        .ok (.unknown 33 [23]) ∧
      (⟨⟨0⟩, 1, 0, [0, 0, 0, 0]⟩ : MessagePayload).toRtmpMessage TypeCodecs.sample ≠
        .ok (.unknown 1 [0, 0, 0, 0]) :=
  ⟨TypeCodecs.sample_answers_own_variants,
    (to_rtmp_message_eq_unknown_iff _ TypeCodecs.sample_answers_own_variants _ _ _).mpr
      ⟨by decide, rfl, rfl⟩,
    fun decoded =>
      ((to_rtmp_message_eq_unknown_iff _ TypeCodecs.sample_answers_own_variants _ _ _).mp
        decoded).1 (by decide)⟩

end MessagePayload

end RtmpMessages
