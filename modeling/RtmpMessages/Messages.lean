/-!
# RTMP message variants

The message sum type, its type ids and the error kinds of the body codecs. The
`messages` module that declares them (`RtmpMessage`, `get_message_type_id`,
`MessageDeserializationError`, `MessageSerializationError`) and the `time`
module (`RtmpTimestamp`) are not in this source tree, so the declarations here
follow the data model and the error taxonomy of the specification. The AMF0
value tree belongs to the `rml_amf0` crate; no function modelled here looks
inside it, so it stays a type parameter `Amf0Value`.
-/

namespace RtmpMessages

set_option autoImplicit false

/-- Modelled from the spec: `time::RtmpTimestamp`, milliseconds modulo `2^32`. -/
structure RtmpTimestamp where
  value : UInt32
  deriving DecidableEq, Repr

/-- Modelled from the spec: `messages::UserControlEventType`. -/
inductive UserControlEventType where
  | streamBegin
  | streamEof
  | streamDry
  | setBufferLength
  | streamIsRecorded
  | pingRequest
  | pingResponse
  deriving DecidableEq, Repr

/-- Modelled from the spec: `messages::PeerBandwidthLimitType`. -/
inductive PeerBandwidthLimitType where
  | hard
  | soft
  | dynamic
  deriving DecidableEq, Repr

/-- Modelled from the spec: `messages::RtmpMessage`, with the variants in the
order `from_rtmp_message` matches them. -/
inductive RtmpMessage (Amf0Value : Type) where
  | unknown (typeId : UInt8) (data : List UInt8)
  | abort (streamId : UInt32)
  | acknowledgement (sequenceNumber : UInt32)
  | amf0Command (commandName : String) (transactionId : Float) (commandObject : Amf0Value)
      (additionalArguments : List Amf0Value)
  | amf0Data (values : List Amf0Value)
  | audioData (data : List UInt8)
  | setChunkSize (size : UInt32)
  | setPeerBandwidth (size : UInt32) (limitType : PeerBandwidthLimitType)
  | userControl (eventType : UserControlEventType) (streamId : Option UInt32)
      (bufferLength : Option UInt32) (timestamp : Option RtmpTimestamp)
  | videoData (data : List UInt8)
  | windowAcknowledgement (size : UInt32)

/-- Modelled from the spec: `RtmpMessage::get_message_type_id`, the type id
column of the data model's variant table; `Unknown` keeps its own. -/
def RtmpMessage.getMessageTypeId {Amf0Value : Type} : RtmpMessage Amf0Value → UInt8
  | .unknown typeId _ => typeId
  | .abort _ => 2
  | .acknowledgement _ => 3
  | .amf0Command .. => 20
  | .amf0Data _ => 18
  | .audioData _ => 8
  | .setChunkSize _ => 1
  | .setPeerBandwidth .. => 6
  | .userControl .. => 4
  | .videoData _ => 9
  | .windowAcknowledgement _ => 5

/-- Modelled from the spec: the message-level kinds of `MessageDeserializationError`.
`ioShort` is what `?` makes of the `UnexpectedEof` of a read past the body. -/
inductive MessageDeserializationError where
  | invalidUserControlEventType
  | invalidPeerBandwidthLimitType
  | amf0DecodeFailed
  | ioShort
  deriving DecidableEq, Repr

/-- Modelled from the spec: the kinds of `MessageSerializationError`. -/
inductive MessageSerializationError where
  | messageTooLarge
  | invalidChunkSize
  | amf0EncodeFailed
  deriving DecidableEq, Repr

end RtmpMessages
