import VehicleBridge.Interconnect.MessageEnvelope

/-!
# Routing by topic

A router holds a handler for each registered topic.  A handler is given by whether it returns normally on an
envelope; what else it does is its own business.
-/

namespace VehicleBridge

open ByteText

inductive RouteResult
  | ok
  | noHandler
  | handlerError
  deriving DecidableEq, Repr

/-- `false` is an exception. -/
abbrev MessageHandler := MessageEnvelope → Bool

structure MessageRouter where
  handlers : Bytes → Option MessageHandler := fun _ => none

/-- `Register`; an empty `std::function` is `none`. -/
def MessageRouter.register (topic : Bytes) (handler : Option MessageHandler) (router : MessageRouter) :
    Bool × MessageRouter :=
  match handler with
  | none => (false, router)
  | some handler =>
    if topic = [] then (false, router)
    else (true, { handlers := fun t => if t = topic then some handler else router.handlers t })

/-- `Route`: the handler of the topic is invoked unless the result is `noHandler`. -/
def MessageRouter.route (envelope : MessageEnvelope) (router : MessageRouter) : RouteResult :=
  match router.handlers envelope.topic with
  | none => .noHandler
  | some handler => if handler envelope then .ok else .handlerError

theorem MessageRouter.route_eq_noHandler_iff (envelope : MessageEnvelope) (router : MessageRouter) :
    router.route envelope = .noHandler ↔ router.handlers envelope.topic = none := by
  unfold MessageRouter.route
  split
  · next h => simp [h]
  · next handler h =>
    rw [h]
    split <;> simp

end VehicleBridge
