import VehicleBridge.Lib.ByteText

/-!
# Message envelopes

What a publisher hands to the bridge and a handler gets from it.
-/

namespace VehicleBridge

open ByteText

inductive ChannelType
  | control
  | telemetry
  | event
  deriving DecidableEq, Repr

/-- The `std::uint8_t` behind a channel. -/
def ChannelType.value : ChannelType → UInt8
  | .control => 0
  | .telemetry => 1
  | .event => 2

inductive DeliveryQoS
  | bestEffort
  | atLeastOnce
  deriving DecidableEq, Repr

/-- The `std::uint8_t` behind a QoS level. -/
def DeliveryQoS.value : DeliveryQoS → UInt8
  | .bestEffort => 0
  | .atLeastOnce => 1

structure MessageEnvelope where
  schemaVersion : UInt32 := 1
  channel : ChannelType := .event
  qos : DeliveryQoS := .bestEffort
  sequence : UInt64 := 0
  timestampMs : UInt64 := 0
  ttlMs : UInt32 := 1000
  source : Bytes := []
  target : Bytes := []
  topic : Bytes := []
  traceId : Bytes := []
  idempotencyKey : Bytes := []
  payload : Bytes := []
  deriving DecidableEq, Repr

end VehicleBridge
