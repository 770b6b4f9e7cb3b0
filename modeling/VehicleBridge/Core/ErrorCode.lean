/-!
# Error codes

The error codes shared by the whole program, with the domain and the detail each of them is packed from.
-/

namespace VehicleBridge

inductive ErrorDomain
  | common
  | core
  | ipc
  | log
  | demo
  | interconnect
  deriving DecidableEq, Repr

def ErrorDomain.value : ErrorDomain → UInt32
  | .common => 0x00
  | .core => 0x01
  | .ipc => 0x02
  | .log => 0x03
  | .demo => 0x04
  | .interconnect => 0x05

inductive ErrorCode
  | ok
  | invalidParam
  | timeout
  | wouldBlock
  | threadStartFailed
  | threadPrioritySetFailed
  | threadQueueFull
  | threadTaskRejected
  | processForkFailed
  | processWaitFailed
  | queueCreateFailed
  | queueSendFailed
  | queueReceiveFailed
  | logWriteFailed
  | demoServiceFailed
  | interconnectInvalidEnvelope
  | interconnectRouteMiss
  | interconnectRouteHandlerError
  | unknown
  deriving DecidableEq, Repr

def makeErrorCode (domain : ErrorDomain) (detail : UInt16) : Int32 :=
  ((domain.value <<< 16) ||| detail.toUInt32).toInt32

/-- The `std::int32_t` behind an error code. -/
def ErrorCode.value : ErrorCode → Int32
  | .ok => 0
  | .invalidParam => makeErrorCode .common 0x0001
  | .timeout => makeErrorCode .common 0x0002
  | .wouldBlock => makeErrorCode .common 0x0003
  | .threadStartFailed => makeErrorCode .core 0x0001
  | .threadPrioritySetFailed => makeErrorCode .core 0x0002
  | .threadQueueFull => makeErrorCode .core 0x0003
  | .threadTaskRejected => makeErrorCode .core 0x0004
  | .processForkFailed => makeErrorCode .core 0x0005
  | .processWaitFailed => makeErrorCode .core 0x0006
  | .queueCreateFailed => makeErrorCode .ipc 0x0001
  | .queueSendFailed => makeErrorCode .ipc 0x0002
  | .queueReceiveFailed => makeErrorCode .ipc 0x0003
  | .logWriteFailed => makeErrorCode .log 0x0001
  | .demoServiceFailed => makeErrorCode .demo 0x0001
  | .interconnectInvalidEnvelope => makeErrorCode .interconnect 0x0001
  | .interconnectRouteMiss => makeErrorCode .interconnect 0x0002
  | .interconnectRouteHandlerError => makeErrorCode .interconnect 0x0003
  | .unknown => makeErrorCode .common 0xFFFF

end VehicleBridge
