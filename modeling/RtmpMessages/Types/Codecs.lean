import RtmpMessages.ByteOrder

/-!
# The `types::*` codecs absent from this tree

`from_rtmp_message` and `to_rtmp_message` call one body codec per message type.
Of these only `types::abort` is in this source tree; the other nine are the
fields of `TypeCodecs`, a parameter of the bridge, and nothing is assumed of
them once and for all. Each result about the bridge states which of three laws
it needs of them:

* `BodyCodec.ReadsBack`: for one message, the codec reads it back from what it
  writes for its fields;
* `BodyCodec.AnswersOwnVariant`: the codec answers only with its own variant;
* `BodyCodec.ReadsBackAnswers`: the codec reads back every message it answers.

The codecs the specification describes meet the last two on every input. They
meet the first for every message whose fields their format carries, but not
for all: a UserControl `StreamBegin` with a buffer length is written without it.
A codec that masks a bit on read keeps the last two and still need not give
back a prefix of a body it decoded, as the SetChunkSize codec of
`TypeCodecs.sample` shows.
-/

namespace RtmpMessages

set_option autoImplicit false

/-- One `types::*` module: the body serializer `from_rtmp_message` calls with a
variant's fields, in the order it passes them, and the body deserializer. -/
structure BodyCodec (Fields Amf0Value : Type) where
  serialize : Fields → Except MessageSerializationError (List UInt8)
  deserialize : List UInt8 → Except MessageDeserializationError (RtmpMessage Amf0Value)

/-- The `types::*` codecs other than `abort`, which this source tree does not hold. -/
structure TypeCodecs (Amf0Value : Type) where
  setChunkSize : BodyCodec UInt32 Amf0Value
  acknowledgement : BodyCodec UInt32 Amf0Value
  userControl : BodyCodec
    (UserControlEventType × Option UInt32 × Option UInt32 × Option RtmpTimestamp) Amf0Value
  windowAcknowledgementSize : BodyCodec UInt32 Amf0Value
  setPeerBandwidth : BodyCodec (PeerBandwidthLimitType × UInt32) Amf0Value
  audioData : BodyCodec (List UInt8) Amf0Value
  videoData : BodyCodec (List UInt8) Amf0Value
  amf0Data : BodyCodec (List Amf0Value) Amf0Value
  amf0Command : BodyCodec (String × Float × Amf0Value × List Amf0Value) Amf0Value

namespace BodyCodec

variable {Fields Amf0Value : Type}

/-- `deserialize` gives `message` back from whatever `serialize` writes for `fields`. -/
def ReadsBack (codec : BodyCodec Fields Amf0Value) (fields : Fields)
    (message : RtmpMessage Amf0Value) : Prop :=
  ∀ body, codec.serialize fields = .ok body → codec.deserialize body = .ok message

/-- `deserialize` answers only with `variant`, the message type of its module. -/
def AnswersOwnVariant (codec : BodyCodec Fields Amf0Value)
    (variant : Fields → RtmpMessage Amf0Value) : Prop :=
  ∀ body message, codec.deserialize body = .ok message → ∃ fields, message = variant fields

/-- Every message `deserialize` answers is read back from what `serialize`
writes for its fields. -/
def ReadsBackAnswers (codec : BodyCodec Fields Amf0Value)
    (variant : Fields → RtmpMessage Amf0Value) : Prop :=
  ∀ body fields, codec.deserialize body = .ok (variant fields) →
    codec.ReadsBack fields (variant fields)

/-- A body that is the message's own bytes, as the spec describes audio and video. -/
def rawBytes (variant : List UInt8 → RtmpMessage Amf0Value) : BodyCodec (List UInt8) Amf0Value where
  serialize data := .ok data
  deserialize data := .ok (variant data)

/-- A codec that refuses every message and every body. -/
def refusing (serializeError : MessageSerializationError)
    (deserializeError : MessageDeserializationError) : BodyCodec Fields Amf0Value where
  serialize _ := .error serializeError
  deserialize _ := .error deserializeError

/-- A SetChunkSize body as the specification describes it: one big-endian u32,
refused on write when its high bit is set and with the high bit masked off on
read. -/
def chunkSize : BodyCodec UInt32 Amf0Value where
  serialize size :=
    if size.toNat < 2 ^ 31 then .ok (ByteOrder.u32ToBeBytes size) else .error .invalidChunkSize
  deserialize data :=
    (ByteOrder.readU32 data).map fun read => .setChunkSize (.ofNat (read.1.toNat % 2 ^ 31))

theorem raw_bytes_answers_own_variant (variant : List UInt8 → RtmpMessage Amf0Value) :
    (rawBytes variant).AnswersOwnVariant variant := by
  rintro data _ ⟨⟩
  exact ⟨data, rfl⟩

theorem raw_bytes_reads_back_answers (variant : List UInt8 → RtmpMessage Amf0Value) :
    (rawBytes variant).ReadsBackAnswers variant := by
  rintro - fields - _ ⟨⟩
  rfl

theorem refusing_answers_own_variant (serializeError : MessageSerializationError)
    (deserializeError : MessageDeserializationError) (variant : Fields → RtmpMessage Amf0Value) :
    (refusing serializeError deserializeError).AnswersOwnVariant variant := by
  rintro _ _ ⟨⟩

theorem refusing_reads_back_answers (serializeError : MessageSerializationError)
    (deserializeError : MessageDeserializationError) (variant : Fields → RtmpMessage Amf0Value) :
    (refusing serializeError deserializeError).ReadsBackAnswers variant := by
  rintro _ _ ⟨⟩

/-- What the SetChunkSize codec answers: the size read, less its high bit. -/
theorem chunk_size_deserialize_eq_ok {data : List UInt8} {message : RtmpMessage Amf0Value}
    (decoded : chunkSize.deserialize data = .ok message) :
    ∃ size : UInt32, message = .setChunkSize size ∧ size.toNat < 2 ^ 31 := by
  revert decoded
  dsimp only [chunkSize]
  cases ByteOrder.readU32 data with
  | error => rintro ⟨⟩
  | ok read =>
      rintro ⟨⟩
      have masked : read.1.toNat % 2 ^ 31 < 2 ^ 31 := Nat.mod_lt _ (by decide)
      exact ⟨_, rfl, by rwa [UInt32.toNat_ofNat_of_lt (Nat.lt_trans masked (by decide))]⟩

theorem chunk_size_answers_own_variant : (@chunkSize Amf0Value).AnswersOwnVariant .setChunkSize :=
  fun _ _ decoded =>
    let ⟨size, answered, _⟩ := chunk_size_deserialize_eq_ok decoded
    ⟨size, answered⟩

/-- A size below `2^31` is written as its four bytes and read back unmasked. -/
theorem chunk_size_reads_back {size : UInt32} (fits : size.toNat < 2 ^ 31) :
    (@chunkSize Amf0Value).ReadsBack size (.setChunkSize size) := by
  intro body written
  dsimp only [chunkSize] at written ⊢
  rw [if_pos fits] at written
  cases written
  rw [← List.append_nil (ByteOrder.u32ToBeBytes size), ByteOrder.read_u32_u32_to_be_bytes]
  have unmasked : UInt32.ofNat (size.toNat % 2 ^ 31) = size := by
    rw [Nat.mod_eq_of_lt fits]
    exact UInt32.toNat.inj (UInt32.toNat_ofNat_of_lt size.toNat_lt_size)
  simp only [Except.map, unmasked]

theorem chunk_size_reads_back_answers : (@chunkSize Amf0Value).ReadsBackAnswers .setChunkSize := by
  intro data size decoded
  obtain ⟨size', answered, fits⟩ := chunk_size_deserialize_eq_ok decoded
  cases answered
  exact chunk_size_reads_back fits

end BodyCodec

variable {Amf0Value : Type}

/-- Every absent codec answers only with the variant `from_rtmp_message`
serializes with it. -/
structure TypeCodecs.AnswersOwnVariants (codecs : TypeCodecs Amf0Value) : Prop where
  setChunkSize : codecs.setChunkSize.AnswersOwnVariant .setChunkSize
  acknowledgement : codecs.acknowledgement.AnswersOwnVariant .acknowledgement
  userControl : codecs.userControl.AnswersOwnVariant
    fun (eventType, streamId, bufferLength, timestamp) =>
      .userControl eventType streamId bufferLength timestamp
  windowAcknowledgementSize :
    codecs.windowAcknowledgementSize.AnswersOwnVariant .windowAcknowledgement
  setPeerBandwidth : codecs.setPeerBandwidth.AnswersOwnVariant fun (limitType, size) =>
    .setPeerBandwidth size limitType
  audioData : codecs.audioData.AnswersOwnVariant .audioData
  videoData : codecs.videoData.AnswersOwnVariant .videoData
  amf0Data : codecs.amf0Data.AnswersOwnVariant .amf0Data
  amf0Command : codecs.amf0Command.AnswersOwnVariant
    fun (commandName, transactionId, commandObject, additionalArguments) =>
      .amf0Command commandName transactionId commandObject additionalArguments

/-- Every absent codec reads back each message it answers. -/
structure TypeCodecs.ReadsBackAnswers (codecs : TypeCodecs Amf0Value) : Prop where
  setChunkSize : codecs.setChunkSize.ReadsBackAnswers .setChunkSize
  acknowledgement : codecs.acknowledgement.ReadsBackAnswers .acknowledgement
  userControl : codecs.userControl.ReadsBackAnswers
    fun (eventType, streamId, bufferLength, timestamp) =>
      .userControl eventType streamId bufferLength timestamp
  windowAcknowledgementSize :
    codecs.windowAcknowledgementSize.ReadsBackAnswers .windowAcknowledgement
  setPeerBandwidth : codecs.setPeerBandwidth.ReadsBackAnswers fun (limitType, size) =>
    .setPeerBandwidth size limitType
  audioData : codecs.audioData.ReadsBackAnswers .audioData
  videoData : codecs.videoData.ReadsBackAnswers .videoData
  amf0Data : codecs.amf0Data.ReadsBackAnswers .amf0Data
  amf0Command : codecs.amf0Command.ReadsBackAnswers
    fun (commandName, transactionId, commandObject, additionalArguments) =>
      .amf0Command commandName transactionId commandObject additionalArguments

/-- Codecs for the closed instances of this development, over one-byte AMF0
values: SetChunkSize masks its high bit on read; audio, video and AMF0 data
bodies are their bytes; every other codec refuses. -/
def TypeCodecs.sample : TypeCodecs UInt8 where
  setChunkSize := .chunkSize
  acknowledgement := .refusing .messageTooLarge .ioShort
  userControl := .refusing .messageTooLarge .invalidUserControlEventType
  windowAcknowledgementSize := .refusing .messageTooLarge .ioShort
  setPeerBandwidth := .refusing .messageTooLarge .invalidPeerBandwidthLimitType
  audioData := .rawBytes .audioData
  videoData := .rawBytes .videoData
  amf0Data := .rawBytes .amf0Data
  amf0Command := .refusing .amf0EncodeFailed .amf0DecodeFailed

theorem TypeCodecs.sample_answers_own_variants : TypeCodecs.sample.AnswersOwnVariants :=
  ⟨BodyCodec.chunk_size_answers_own_variant, BodyCodec.refusing_answers_own_variant _ _ _,
    BodyCodec.refusing_answers_own_variant _ _ _, BodyCodec.refusing_answers_own_variant _ _ _,
    BodyCodec.refusing_answers_own_variant _ _ _, BodyCodec.raw_bytes_answers_own_variant _,
    BodyCodec.raw_bytes_answers_own_variant _, BodyCodec.raw_bytes_answers_own_variant _,
    BodyCodec.refusing_answers_own_variant _ _ _⟩

theorem TypeCodecs.sample_reads_back_answers : TypeCodecs.sample.ReadsBackAnswers :=
  ⟨BodyCodec.chunk_size_reads_back_answers, BodyCodec.refusing_reads_back_answers _ _ _,
    BodyCodec.refusing_reads_back_answers _ _ _, BodyCodec.refusing_reads_back_answers _ _ _,
    BodyCodec.refusing_reads_back_answers _ _ _, BodyCodec.raw_bytes_reads_back_answers _,
    BodyCodec.raw_bytes_reads_back_answers _, BodyCodec.raw_bytes_reads_back_answers _,
    BodyCodec.refusing_reads_back_answers _ _ _⟩

end RtmpMessages
