import VehicleBridge.Interconnect.Backpressure
import VehicleBridge.Interconnect.BridgeConfig
import VehicleBridge.Ipc.PosixMessageQueue

/-!
# The transport over a POSIX message queue

`PosixMqTransport` hands everything on to its queue.  `DiscardOldest` receives a message without waiting and throws it
away, and takes an empty queue for a success.
-/

namespace VehicleBridge

open ByteText

structure PosixMqTransport where
  queue : PosixMessageQueue := {}
  deriving DecidableEq, Repr

namespace PosixMqTransport

def caps : TransportCapabilities :=
  { supportsPriority := true, supportsDiscardOldest := true, supportsUnlink := true }

def create (config : TransportEndpointConfig) (reply : Int32) (transport : PosixMqTransport) :
    ErrorCode × PosixMqTransport :=
  let created := transport.queue.create
    { name := config.name, maxMessages := config.maxMessages, messageSize := config.messageSize } reply
  (created.1, { queue := created.2 })

def sendWithTimeout (message : Bytes) (priority : UInt32) (timeoutMs : Int64) (interrupted : Bool)
    (transport : PosixMqTransport) (d : MqDescriptor) : QueueReply Unit × MqDescriptor :=
  transport.queue.sendWithTimeout message priority timeoutMs interrupted d

def receiveWithTimeout (timeoutMs : Int64) (interrupted : Bool) (out : Bytes × UInt32) (transport : PosixMqTransport)
    (d : MqDescriptor) : QueueReply (Bytes × UInt32) × MqDescriptor :=
  transport.queue.receiveWithTimeout timeoutMs interrupted out d

/-- The code that `DiscardOldest` makes of that of `ReceiveNonBlocking`. -/
def discardReply : QueueReply (Bytes × UInt32) → QueueReply Unit
  | .returned ec _ => .returned (if ec = .wouldBlock then .ok else ec) ()
  | .waits => .waits
  | .terminates => .terminates
  | .overreads => .overreads

def discardOldest (transport : PosixMqTransport) (d : MqDescriptor) : QueueReply Unit × MqDescriptor :=
  let received := transport.queue.receiveNonBlocking ([], 0) d
  (discardReply received.1, received.2)

def close (transport : PosixMqTransport) : PosixMqTransport :=
  { queue := transport.queue.close }

end PosixMqTransport

end VehicleBridge
