import VehicleBridge.Core.ErrorCode
import VehicleBridge.Lib.Attempts
import VehicleBridge.Lib.ByteText

/-!
# Transports and failover

A bridge owns two transports, one for each direction.  Here they are operations on a state of their own that may
answer anything (`Transports`), and a `Wire` keeps the calls made so far with their results.
`TransportOrchestrator` chooses the transport a failed send is tried on next.
-/

namespace VehicleBridge

open ByteText

/-- The two transports a bridge owns. -/
inductive TransportId
  | vehicleToRobot
  | robotToVehicle
  deriving DecidableEq, Repr

def TransportId.opposite : TransportId → TransportId
  | .vehicleToRobot => .robotToVehicle
  | .robotToVehicle => .vehicleToRobot

structure TransportCapabilities where
  supportsPriority : Bool := true
  supportsDiscardOldest : Bool := false
  supportsUnlink : Bool := false
  deriving DecidableEq, Repr

/-- What the sending side of a bridge calls on the `ITransport`s it owns, and the sleep between two retries. -/
structure Transports (σ : Type*) where
  caps : TransportId → TransportCapabilities
  sendWithTimeout : TransportId → Bytes → UInt32 → Int64 → σ → ErrorCode × σ
  discardOldest : TransportId → σ → ErrorCode × σ
  sleepFor : Int64 → σ → σ

/-- A call on a transport, with its arguments and its result. -/
inductive TransportCall
  | sendWithTimeout (transport : TransportId) (message : Bytes) (priority : UInt32) (timeoutMs : Int64)
      (result : ErrorCode)
  | discardOldest (transport : TransportId) (result : ErrorCode)
  deriving DecidableEq, Repr

def TransportCall.transport : TransportCall → TransportId
  | .sendWithTimeout transport _ _ _ _ => transport
  | .discardOldest transport _ => transport

def TransportCall.isSend : TransportCall → Bool
  | .sendWithTimeout .. => true
  | .discardOldest .. => false

/-- The call handed a message to a transport that took it. -/
def TransportCall.isAcceptedSend : TransportCall → Bool
  | .sendWithTimeout _ _ _ _ result => result = .ok
  | .discardOldest .. => false

/-- The state of the transports and the calls made on them, oldest first. -/
structure Wire (σ : Type*) where
  state : σ
  calls : List TransportCall := []

section
variable {σ : Type*} (net : Transports σ)

def Wire.sendWithTimeout (t : TransportId) (message : Bytes) (priority : UInt32) (timeoutMs : Int64) (w : Wire σ) :
    ErrorCode × Wire σ :=
  let r := net.sendWithTimeout t message priority timeoutMs w.state
  (r.1, { state := r.2, calls := w.calls ++ [.sendWithTimeout t message priority timeoutMs r.1] })

def Wire.discardOldest (t : TransportId) (w : Wire σ) : ErrorCode × Wire σ :=
  let r := net.discardOldest t w.state
  (r.1, { state := r.2, calls := w.calls ++ [.discardOldest t r.1] })

def Wire.sleepFor (ms : Int64) (w : Wire σ) : Wire σ :=
  { w with state := net.sleepFor ms w.state }

@[simp] theorem Wire.sendWithTimeout_calls (t : TransportId) (message : Bytes) (priority : UInt32)
    (timeoutMs : Int64) (w : Wire σ) :
    (w.sendWithTimeout net t message priority timeoutMs).2.calls =
      w.calls ++ [.sendWithTimeout t message priority timeoutMs
        (w.sendWithTimeout net t message priority timeoutMs).1] :=
  rfl

@[simp] theorem Wire.discardOldest_calls (t : TransportId) (w : Wire σ) :
    (w.discardOldest net t).2.calls = w.calls ++ [.discardOldest t (w.discardOldest net t).1] :=
  rfl

@[simp] theorem Wire.sleepFor_calls (ms : Int64) (w : Wire σ) : (w.sleepFor net ms).calls = w.calls :=
  rfl

end

/-! ### The orchestrator -/

/-- `TransportOrchestrator::Policy`. -/
structure OrchestratorPolicy where
  primaryWeight : UInt32 := 100
  secondaryWeight : UInt32 := 0
  circuitBreakThreshold : UInt32 := 3
  circuitRecoverThreshold : UInt32 := 2
  deriving DecidableEq, Repr

structure TransportOrchestrator where
  policy : OrchestratorPolicy := {}
  primaryFailStreak : UInt32 := 0
  primarySuccessStreak : UInt32 := 0
  circuitOpen : Bool := false
  deriving DecidableEq, Repr

namespace TransportOrchestrator

/-- The test that each of the three branches of `ResolveFailover` makes. -/
def otherTransport (primary : TransportId) (enableV2rFailover enableR2vFailover : Bool) : Option TransportId :=
  if primary = .vehicleToRobot ∧ enableV2rFailover then some .robotToVehicle
  else if primary = .robotToVehicle ∧ enableR2vFailover then some .vehicleToRobot
  else none

def resolveFailover (o : TransportOrchestrator) (primary : TransportId)
    (enableV2rFailover enableR2vFailover : Bool) : Option TransportId :=
  if o.circuitOpen ∧ (otherTransport primary enableV2rFailover enableR2vFailover).isSome then
    otherTransport primary enableV2rFailover enableR2vFailover
  else if o.policy.secondaryWeight > 0 ∧ (otherTransport primary enableV2rFailover enableR2vFailover).isSome then
    otherTransport primary enableV2rFailover enableR2vFailover
  else otherTransport primary enableV2rFailover enableR2vFailover

def onPrimarySendFailure (o : TransportOrchestrator) : TransportOrchestrator :=
  let o := { o with primaryFailStreak := o.primaryFailStreak + 1, primarySuccessStreak := 0 }
  if o.primaryFailStreak ≥ o.policy.circuitBreakThreshold then { o with circuitOpen := true } else o

def onPrimarySendSuccess (o : TransportOrchestrator) : TransportOrchestrator :=
  let o := { o with primaryFailStreak := 0, primarySuccessStreak := o.primarySuccessStreak + 1 }
  if o.circuitOpen ∧ o.primarySuccessStreak ≥ o.policy.circuitRecoverThreshold then
    { o with circuitOpen := false, primarySuccessStreak := 0 }
  else o

/-- Whatever the circuit and the weights, the choice is the opposite transport where failover from the primary
one is enabled, and nothing elsewhere. -/
theorem resolveFailover_eq (o : TransportOrchestrator) (primary : TransportId)
    (enableV2rFailover enableR2vFailover : Bool) :
    o.resolveFailover primary enableV2rFailover enableR2vFailover =
      if (match primary with
        | .vehicleToRobot => enableV2rFailover
        | .robotToVehicle => enableR2vFailover) then some primary.opposite else none := by
  unfold resolveFailover
  rw [ite_self, ite_self]
  cases primary <;> simp [otherTransport, TransportId.opposite]

end TransportOrchestrator

end VehicleBridge
