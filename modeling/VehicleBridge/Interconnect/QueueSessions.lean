import VehicleBridge.Interconnect.QueueDelivery
import VehicleBridge.Ipc.QueueKernel

/-!
# The queues of a bridge from start to stop

A bridge over two POSIX message queues, started and stopped any number of times on a system with other queues.  `Start`
creates both queues or neither, `Stop` closes and unlinks them, and so between any two calls the bridge holds two
descriptors or none (`Holds`), and leaves no name behind that was not there before.

The queues of a bridge are new ones each time it starts, if nobody else uses their names: what it receives it has been
sent since its last start (`queue_sessions`).
-/

namespace VehicleBridge

open ByteText Transition

/-- A bridge with its transports on the queues of a system, the strings that the queues have accepted since it was
started, and those that it has received. -/
structure QueueProcess where
  bridge : BridgeState := {}
  transport : TransportId → PosixMqTransport := fun _ => {}
  kernel : MqKernel
  accepted : List (Bytes × UInt32) := []
  received : List (Bytes × UInt32) := []

/-- The endpoint that a transport is created with. -/
def endpoint (config : BridgeConfig) : TransportId → TransportEndpointConfig
  | .vehicleToRobot => config.vehicleToRobotEndpoint
  | .robotToVehicle => config.robotToVehicleEndpoint

def queueConfig (config : TransportEndpointConfig) : QueueConfig :=
  { name := config.name, maxMessages := config.maxMessages, messageSize := config.messageSize }

namespace QueueProcess

def mqd (p : QueueProcess) (t : TransportId) : Int32 :=
  (p.transport t).queue.mqd

def queueName (p : QueueProcess) (t : TransportId) : Bytes :=
  (p.transport t).queue.queueName

/-- The queue of one transport is changed. -/
def withQueue (t : TransportId) (queue : PosixMessageQueue) (kernel : MqKernel) (p : QueueProcess) : QueueProcess :=
  { p with transport := Function.update p.transport t { queue }, kernel }

/-- `Create` of a transport, with the descriptor that is free for it. -/
def createTransport (t : TransportId) (free : Int32) (p : QueueProcess) : ErrorCode × QueueProcess :=
  let result := (p.transport t).queue.openIn true (queueConfig (endpoint p.bridge.config t)) free p.kernel
  (result.1, p.withQueue t result.2.1 result.2.2)

/-- `Close` and `Unlink` of a transport. -/
def closeAndUnlink (t : TransportId) (p : QueueProcess) : QueueProcess :=
  let closed := (p.transport t).queue.closeIn p.kernel
  p.withQueue t closed.1 (closed.1.unlinkIn closed.2)

def closeAndUnlinkBoth (p : QueueProcess) : QueueProcess :=
  (p.closeAndUnlink .vehicleToRobot).closeAndUnlink .robotToVehicle

/-- `Stop`. -/
def stop (p : QueueProcess) : QueueProcess :=
  if p.bridge.running then { p with bridge := VehicleBridge.stop p.bridge }.closeAndUnlinkBoth else p

/-- `running_.store(true)` -/
def setRunning (p : QueueProcess) : QueueProcess :=
  { p with bridge := { p.bridge with running := true } }

/-- The two calls of `Create`; `free` are the descriptors that the system has for the transports. -/
def createVehicleToRobot (free : TransportId → Int32) (p : QueueProcess) : ErrorCode × QueueProcess :=
  p.createTransport .vehicleToRobot (free .vehicleToRobot)

def createRobotToVehicle (free : TransportId → Int32) (p : QueueProcess) : ErrorCode × QueueProcess :=
  (p.createVehicleToRobot free).2.createTransport .robotToVehicle (free .robotToVehicle)

/-- The second half of `Start`. -/
def launch (env : StartEnv) (free : TransportId → Int32) (p : QueueProcess) : ErrorCode × QueueProcess :=
  let vehicleToRobot := p.createVehicleToRobot free
  let robotToVehicle := p.createRobotToVehicle free
  let created := robotToVehicle.2
  if vehicleToRobot.1 ≠ .ok then vehicleToRobot
  else if robotToVehicle.1 ≠ .ok then (robotToVehicle.1, created.closeAndUnlink .vehicleToRobot)
  else if startWorkerPool env created.bridge.config.threadPool ≠ .ok then
    (startWorkerPool env created.bridge.config.threadPool, created.closeAndUnlinkBoth)
  else if loopEnqueued env.enqueueVehicleLoop = false then (env.enqueueVehicleLoop, created.setRunning.stop)
  else if loopEnqueued env.enqueueRobotLoop = false then (env.enqueueRobotLoop, created.setRunning.stop)
  else (.ok, { created.setRunning with accepted := [], received := [] })

/-- A call on a transport sees its descriptor. -/
def descriptor (p : QueueProcess) (t : TransportId) : MqDescriptor :=
  p.kernel.descriptor (p.mqd t)

def setDescriptor (t : TransportId) (d : MqDescriptor) (p : QueueProcess) : QueueProcess :=
  { p with kernel := p.kernel.setDescriptor (p.mqd t) d }

def send (t : TransportId) (message : Bytes) (priority : UInt32) (timeoutMs : Int64) (interrupted : Bool)
    (p : QueueProcess) : QueueProcess :=
  let result := (p.transport t).sendWithTimeout message priority timeoutMs interrupted (p.descriptor t)
  { p.setDescriptor t result.2 with
    accepted := p.accepted ++ if result.1 = .returned .ok () then [(message, priority)] else [] }

def receive (t : TransportId) (timeoutMs : Int64) (interrupted : Bool) (p : QueueProcess) : QueueProcess :=
  let result := (p.transport t).receiveWithTimeout timeoutMs interrupted ([], 0) (p.descriptor t)
  { p.setDescriptor t result.2 with received := p.received ++ receivedFrom result.1 }

def discardOldest (t : TransportId) (p : QueueProcess) : QueueProcess :=
  p.setDescriptor t ((p.transport t).discardOldest (p.descriptor t)).2

end QueueProcess

section
variable (hashString : Bytes → UInt64)

/-- The first half of `Start`. -/
def QueueProcess.prepared (config : BridgeConfig) (p : QueueProcess) : QueueProcess :=
  { p with
    bridge := applyTransportTuning (prepareStart hashString config p.bridge).config
      (prepareStart hashString config p.bridge) }

/-- `Start(const BridgeConfig&)`. -/
def QueueProcess.start (env : StartEnv) (free : TransportId → Int32) (config : BridgeConfig) (p : QueueProcess) :
    ErrorCode × QueueProcess :=
  if p.bridge.running then (.ok, p)
  else if refusedByConfigCanary env.nowMs (prepareStart hashString config p.bridge).config then
    (.wouldBlock, { p with bridge := canaryRollback (prepareStart hashString config p.bridge) })
  else (p.prepared hashString config).launch env free

def QueueProcess.noteProvider (replies : ProviderReplies) (p : QueueProcess) : QueueProcess :=
  { p with bridge := VehicleBridge.noteProvider hashString replies p.bridge }

/-- `Start(IConfigProvider*)`. -/
def QueueProcess.startFromProvider (env : StartEnv) (free : TransportId → Int32) (provider : Option ProviderReplies)
    (p : QueueProcess) : ErrorCode × QueueProcess :=
  match provider with
  | none => (.invalidParam, p)
  | some replies =>
    if replies.load ≠ .ok then (replies.load, p)
    else (p.noteProvider hashString replies).start hashString env free replies.config

/-- The calls that have to do with the queues: those of a publish and of the inbound loops one by one, in any order. -/
inductive SessionOp
  | start (env : StartEnv) (free : TransportId → Int32) (config : BridgeConfig)
  | startFromProvider (env : StartEnv) (free : TransportId → Int32) (provider : Option ProviderReplies)
  | stop
  | reload (nowMs : UInt64) (provider : Option ProviderReplies)
  | send (t : TransportId) (message : Bytes) (priority : UInt32) (timeoutMs : Int64) (interrupted : Bool)
  | receive (t : TransportId) (timeoutMs : Int64) (interrupted : Bool)
  | discardOldest (t : TransportId)

def QueueProcess.exec (p : QueueProcess) : SessionOp → QueueProcess
  | .start env free config => (p.start hashString env free config).2
  | .startFromProvider env free provider => (p.startFromProvider hashString env free provider).2
  | .stop => p.stop
  | .reload nowMs provider => { p with bridge := (reloadConfigIfChanged hashString nowMs provider p.bridge).2 }
  | .send t message priority timeoutMs interrupted => p.send t message priority timeoutMs interrupted
  | .receive t timeoutMs interrupted => p.receive t timeoutMs interrupted
  | .discardOldest t => p.discardOldest t

end

/-! ### What is held -/

/-- The name is that of an open transport, and stands for its queue. -/
def IsNamed (isOpen : TransportId → Bool) (p : QueueProcess) (name : Bytes) (queue : Nat) : Prop :=
  ∃ t, isOpen t = true ∧ name = cString (p.queueName t) ∧
    (p.kernel.descriptors (p.mqd t)).map MqHandle.queue = some queue

/-- The transports that are open hold a descriptor each, one that was free, and the others none; all other descriptors
are as they were, and so are all names but those of the open transports, unless they are gone. -/
structure Holds (k₀ : MqKernel) (isOpen : TransportId → Bool) (p : QueueProcess) : Prop where
  closed : ∀ t, isOpen t = false → p.mqd t < 0
  held : ∀ t, isOpen t = true → 0 ≤ p.mqd t ∧ (p.kernel.descriptors (p.mqd t)).isSome ∧
    k₀.descriptors (p.mqd t) = none ∧ p.queueName t ≠ []
  distinct : ∀ t t', isOpen t = true → isOpen t' = true → p.mqd t = p.mqd t' → t = t'
  others : ∀ fd, (∀ t, isOpen t = true → fd ≠ p.mqd t) → p.kernel.descriptors fd = k₀.descriptors fd
  names : ∀ name queue, p.kernel.names name = some queue →
    k₀.names name = some queue ∨ IsNamed isOpen p name queue

/-- The messages in the queues of the open transports. -/
def Contents (P : MqMessage → Prop) (isOpen : TransportId → Bool) (p : QueueProcess) : Prop :=
  ∀ t handle, isOpen t = true → p.kernel.descriptors (p.mqd t) = some handle →
    handle.queue < p.kernel.created ∧ ∀ m ∈ (p.kernel.queues handle.queue).messages, P m

/-- The string, as a message of a queue. -/
def IsAccepted (accepted : List (Bytes × UInt32)) (m : MqMessage) : Prop :=
  ∃ content ∈ accepted, m = { bytes := cStr content.1, priority := content.2 }

/-- No queue of the system has the name of an endpoint. -/
def NamesNew (k₀ : MqKernel) (config : BridgeConfig) : Prop :=
  ∀ t, k₀.names (cString (endpoint config t).name) = none

def SessionOp.NamesNew (k₀ : MqKernel) : SessionOp → Prop
  | .start _ _ config => VehicleBridge.NamesNew k₀ config
  | .startFromProvider _ _ (some replies) => VehicleBridge.NamesNew k₀ replies.config
  | _ => True

/-! ### One transport -/

section
variable {k₀ : MqKernel} {isOpen : TransportId → Bool} {p : QueueProcess} {t : TransportId}

@[simp] theorem mqd_withQueue (t : TransportId) (q : PosixMessageQueue) (k : MqKernel) (p : QueueProcess) :
    (p.withQueue t q k).mqd t = q.mqd := by
  simp [QueueProcess.mqd, QueueProcess.withQueue]

@[simp] theorem queueName_withQueue (t : TransportId) (q : PosixMessageQueue) (k : MqKernel) (p : QueueProcess) :
    (p.withQueue t q k).queueName t = q.queueName := by
  simp [QueueProcess.queueName, QueueProcess.withQueue]

private theorem mqd_withQueue_of_ne {t' : TransportId} (hne : t' ≠ t) (q : PosixMessageQueue) (k : MqKernel)
    (p : QueueProcess) : (p.withQueue t q k).mqd t' = p.mqd t' := by
  simp [QueueProcess.mqd, QueueProcess.withQueue, hne]

private theorem queueName_withQueue_of_ne {t' : TransportId} (hne : t' ≠ t) (q : PosixMessageQueue) (k : MqKernel)
    (p : QueueProcess) : (p.withQueue t q k).queueName t' = p.queueName t' := by
  simp [QueueProcess.queueName, QueueProcess.withQueue, hne]

/-- A transport that holds nothing is given another queue that holds nothing. -/
private theorem Holds.withClosed (hp : Holds k₀ isOpen p) (hclosed : isOpen t = false) {q : PosixMessageQueue}
    (hq : q.mqd < 0) : Holds k₀ isOpen (p.withQueue t q p.kernel) := by
  have hne {t' : TransportId} (hopen : isOpen t' = true) : t' ≠ t := by
    rintro rfl
    exact Bool.false_ne_true (hclosed.symm.trans hopen)
  have hmqd {t' : TransportId} (hopen : isOpen t' = true) : (p.withQueue t q p.kernel).mqd t' = p.mqd t' :=
    mqd_withQueue_of_ne (hne hopen) q p.kernel p
  have hqueueName {t' : TransportId} (hopen : isOpen t' = true) :
      (p.withQueue t q p.kernel).queueName t' = p.queueName t' :=
    queueName_withQueue_of_ne (hne hopen) q p.kernel p
  constructor
  · intro t' hopen
    by_cases ht : t' = t
    · subst ht
      rw [mqd_withQueue]
      exact hq
    · rw [mqd_withQueue_of_ne ht]
      exact hp.closed t' hopen
  · intro t' hopen
    rw [hmqd hopen, hqueueName hopen]
    exact hp.held t' hopen
  · intro t' t'' hopen hopen'
    rw [hmqd hopen, hmqd hopen']
    exact hp.distinct t' t'' hopen hopen'
  · intro fd hfd
    exact hp.others fd fun t' hopen => hmqd hopen ▸ hfd t' hopen
  · intro name queue hname
    refine (hp.names name queue hname).imp_right ?_
    rintro ⟨t', hopen, heq, hqueue⟩
    refine ⟨t', hopen, ?_⟩
    rw [hmqd hopen, hqueueName hopen]
    exact ⟨heq, hqueue⟩

/-- With one more transport open. -/
private theorem update_isOpen {t t' : TransportId} (h : Function.update isOpen t true t' = true) :
    t' = t ∨ isOpen t' = true := by
  by_cases ht : t' = t
  · exact .inl ht
  · rw [Function.update_of_ne ht] at h
    exact .inr h

/-- A queue with a free descriptor that is open on what has been found. -/
def QueueProcess.withOpened (t : TransportId) (q : PosixMessageQueue) (queue : Nat) (k : MqKernel)
    (p : QueueProcess) : QueueProcess :=
  p.withQueue t q { k with descriptors := Function.update k.descriptors q.mqd (some { queue }) }

/-- A transport that holds nothing is given a queue with a free descriptor. -/
private theorem Holds.withOpened (hp : Holds k₀ isOpen p) (hclosed : isOpen t = false) {config : QueueConfig}
    {q : PosixMessageQueue} {queue : Nat} {k' : MqKernel} (hname : config.name ≠ [])
    (hqueueName : q.queueName = config.name) (hopen : 0 ≤ q.mqd) (hfree : p.kernel.descriptors q.mqd = none)
    (hfind : p.kernel.find true config = some (queue, k')) :
    Holds k₀ (Function.update isOpen t true) (p.withOpened t q queue k') := by
  have hne {t' : TransportId} (hopen : isOpen t' = true) : t' ≠ t := by
    rintro rfl
    exact Bool.false_ne_true (hclosed.symm.trans hopen)
  have hother {t' : TransportId} (hopen : isOpen t' = true) : p.mqd t' ≠ q.mqd := by
    intro heq
    have hsome := (hp.held t' hopen).2.1
    rw [heq, hfree] at hsome
    exact Bool.false_ne_true hsome
  have hinitial : k₀.descriptors q.mqd = none := by
    rw [← hp.others q.mqd fun t' hopen => (hother hopen).symm]
    exact hfree
  have hmqd {t' : TransportId} (hne : t' ≠ t) : (p.withOpened t q queue k').mqd t' = p.mqd t' :=
    mqd_withQueue_of_ne hne q _ p
  have hqueueName' {t' : TransportId} (hne : t' ≠ t) : (p.withOpened t q queue k').queueName t' = p.queueName t' :=
    queueName_withQueue_of_ne hne q _ p
  have hself : (p.withOpened t q queue k').kernel.descriptors q.mqd = some { queue } := Function.update_self ..
  have hdescriptors {fd : Int32} (hfd : fd ≠ q.mqd) :
      (p.withOpened t q queue k').kernel.descriptors fd = p.kernel.descriptors fd :=
    (Function.update_of_ne hfd ..).trans (congrFun (MqKernel.find_descriptors hfind) fd)
  constructor
  · intro t' ht'
    by_cases ht : t' = t
    · subst ht
      rw [Function.update_self] at ht'
      cases ht'
    · rw [hmqd ht]
      rw [Function.update_of_ne ht] at ht'
      exact hp.closed t' ht'
  · intro t' ht'
    rcases update_isOpen ht' with rfl | hopen'
    · have hmqd' : (p.withOpened t' q queue k').mqd t' = q.mqd := mqd_withQueue ..
      have hname' : (p.withOpened t' q queue k').queueName t' = config.name :=
        (queueName_withQueue ..).trans hqueueName
      rw [hmqd', hself, hname']
      exact ⟨hopen, rfl, hinitial, hname⟩
    · rw [hmqd (hne hopen'), hqueueName' (hne hopen'), hdescriptors (hother hopen')]
      exact hp.held t' hopen'
  · intro t' t'' ht' ht'' heq
    rcases update_isOpen ht' with rfl | hopen' <;> rcases update_isOpen ht'' with rfl | hopen''
    · rfl
    · rw [hmqd (hne hopen'')] at heq
      exact absurd (heq.symm.trans (mqd_withQueue ..)) (hother hopen'')
    · rw [hmqd (hne hopen')] at heq
      exact absurd (heq.trans (mqd_withQueue ..)) (hother hopen')
    · rw [hmqd (hne hopen'), hmqd (hne hopen'')] at heq
      exact hp.distinct t' t'' hopen' hopen'' heq
  · intro fd hfd
    have hnew : fd ≠ q.mqd := fun heq => hfd t (Function.update_self ..) (heq.trans (mqd_withQueue ..).symm)
    rw [hdescriptors hnew]
    refine hp.others fd fun t' hopen' => ?_
    rw [← hmqd (hne hopen')]
    exact hfd t' ((Function.update_of_ne (hne hopen') ..).trans hopen')
  · intro name found hfound
    have hkept (h : p.kernel.names name = some found) : k₀.names name = some found ∨
        IsNamed (Function.update isOpen t true) (p.withOpened t q queue k') name found := by
      refine (hp.names name found h).imp_right ?_
      rintro ⟨t', hopen', heq, hqueue⟩
      refine ⟨t', (Function.update_of_ne (hne hopen') ..).trans hopen', ?_, ?_⟩
      · rw [hqueueName' (hne hopen')]
        exact heq
      · rw [hmqd (hne hopen'), hdescriptors (hother hopen')]
        exact hqueue
    rcases MqKernel.find_cases hfind with ⟨-, rfl⟩ | ⟨-, rfl, rfl⟩
    · exact hkept hfound
    · by_cases heq : name = cString config.name
      · subst heq
        have hnames : (p.withOpened t q p.kernel.created (p.kernel.createQueue config)).kernel.names =
            Function.update p.kernel.names (cString config.name) (some p.kernel.created) := rfl
        rw [hnames, Function.update_self] at hfound
        cases hfound
        refine .inr ⟨t, Function.update_self .., ?_, ?_⟩
        · rw [← hqueueName]
          exact congrArg cString (queueName_withQueue ..).symm
        · have hmqd' : (p.withOpened t q p.kernel.created (p.kernel.createQueue config)).mqd t = q.mqd :=
            mqd_withQueue ..
          rw [hmqd', hself]
          rfl
      · exact hkept ((Function.update_of_ne heq ..).symm.trans hfound)

/-- **A transport is created** on a queue, or all that is held stays as it was. -/
theorem Holds.createTransport (hp : Holds k₀ isOpen p) (hclosed : isOpen t = false) (free : Int32) :
    ((p.createTransport t free).1 ≠ .ok ∧ Holds k₀ isOpen (p.createTransport t free).2) ∨
      ((p.createTransport t free).1 = .ok ∧
        Holds k₀ (Function.update isOpen t true) (p.createTransport t free).2) := by
  unfold QueueProcess.createTransport
  rcases PosixMessageQueue.openIn_cases true (queueConfig (endpoint p.bridge.config t)) free (p.transport t).queue
    p.kernel with ⟨hname, heq⟩ | ⟨hname, heq⟩ | ⟨hname, hfree, hnone, queue, k', hfind, heq⟩ <;> simp only [heq]
  · exact .inl ⟨nofun, hp.withClosed hclosed (hp.closed t hclosed)⟩
  · exact .inl ⟨nofun, hp.withClosed hclosed (show (-1 : Int32) < 0 by decide)⟩
  · refine .inr ⟨trivial, ?_⟩
    have hne : (queueConfig (endpoint p.bridge.config t)).name ≠ [] := by
      intro hnil
      rw [hnil] at hname
      cases hname
    exact hp.withOpened hclosed hne rfl hfree hnone hfind

/-- What is left of the system when the descriptor of a transport and the name of its queue are gone. -/
def MqKernel.without (mqd : Int32) (name : Bytes) (k : MqKernel) : MqKernel :=
  { k with
    names := Function.update k.names (cString name) none
    descriptors := Function.update k.descriptors mqd none }

private theorem Holds.closeAndUnlink_eq (hp : Holds k₀ isOpen p) (hopen : isOpen t = true) :
    p.closeAndUnlink t = p.withQueue t
      { queueName := p.queueName t, mqd := -1, messageSize := (p.transport t).queue.messageSize }
      (p.kernel.without (p.mqd t) (p.queueName t)) := by
  obtain ⟨hle, hsome, -, hname⟩ := hp.held t hopen
  unfold QueueProcess.closeAndUnlink
  rw [PosixMessageQueue.closeIn_of_open hle hsome]
  exact congrArg (p.withQueue t _) (PosixMessageQueue.unlinkIn_eq hname _)

/-- **A transport is closed** and its queue unlinked. -/
theorem Holds.closeAndUnlink (hp : Holds k₀ isOpen p) (hopen : isOpen t = true) :
    Holds k₀ (Function.update isOpen t false) (p.closeAndUnlink t) := by
  have hstill {t' : TransportId} (h : Function.update isOpen t false t' = true) : t' ≠ t ∧ isOpen t' = true := by
    have hne : t' ≠ t := by
      rintro rfl
      rw [Function.update_self] at h
      cases h
    rw [Function.update_of_ne hne] at h
    exact ⟨hne, h⟩
  have heq := hp.closeAndUnlink_eq hopen
  have hmqd {t' : TransportId} (hne : t' ≠ t) : (p.closeAndUnlink t).mqd t' = p.mqd t' :=
    heq ▸ mqd_withQueue_of_ne hne _ _ p
  have hqueueName {t' : TransportId} (hne : t' ≠ t) : (p.closeAndUnlink t).queueName t' = p.queueName t' :=
    heq ▸ queueName_withQueue_of_ne hne _ _ p
  have hdescriptors {fd : Int32} (hfd : fd ≠ p.mqd t) :
      (p.closeAndUnlink t).kernel.descriptors fd = p.kernel.descriptors fd :=
    heq ▸ Function.update_of_ne hfd ..
  have hother {t' : TransportId} (hne : t' ≠ t) (hopen' : isOpen t' = true) : p.mqd t' ≠ p.mqd t :=
    fun h => hne (hp.distinct t' t hopen' hopen h)
  constructor
  · intro t' ht'
    by_cases ht : t' = t
    · subst ht
      rw [heq, mqd_withQueue]
      exact show (-1 : Int32) < 0 by decide
    · rw [hmqd ht]
      rw [Function.update_of_ne ht] at ht'
      exact hp.closed t' ht'
  · intro t' ht'
    obtain ⟨hne, hopen'⟩ := hstill ht'
    rw [hmqd hne, hqueueName hne, hdescriptors (hother hne hopen')]
    exact hp.held t' hopen'
  · intro t' t'' ht' ht'' heq'
    obtain ⟨hne, hopen'⟩ := hstill ht'
    obtain ⟨hne', hopen''⟩ := hstill ht''
    rw [hmqd hne, hmqd hne'] at heq'
    exact hp.distinct t' t'' hopen' hopen'' heq'
  · intro fd hfd
    by_cases hself : fd = p.mqd t
    · subst hself
      rw [(hp.held t hopen).2.2.1, heq]
      exact Function.update_self ..
    · rw [hdescriptors hself]
      refine hp.others fd fun t' hopen' => ?_
      by_cases ht : t' = t
      · exact ht ▸ hself
      · rw [← hmqd ht]
        exact hfd t' ((Function.update_of_ne ht ..).trans hopen')
  · intro name found hfound
    have hnames : (p.closeAndUnlink t).kernel.names =
        Function.update p.kernel.names (cString (p.queueName t)) none := by
      rw [heq]
      rfl
    rw [hnames] at hfound
    have hne : name ≠ cString (p.queueName t) := by
      rintro rfl
      rw [Function.update_self] at hfound
      cases hfound
    rw [Function.update_of_ne hne] at hfound
    refine (hp.names name found hfound).imp_right ?_
    rintro ⟨t', hopen', hname, hqueue⟩
    have hne' : t' ≠ t := fun ht => hne (ht ▸ hname)
    refine ⟨t', (Function.update_of_ne hne' ..).trans hopen', ?_, ?_⟩
    · rw [hqueueName hne']
      exact hname
    · rw [hmqd hne', hdescriptors (hother hne' hopen')]
      exact hqueue

/-- What is held depends on the transports and the system only. -/
theorem Holds.congr {p' : QueueProcess} (hp : Holds k₀ isOpen p) (htransport : p'.transport = p.transport)
    (hkernel : p'.kernel = p.kernel) : Holds k₀ isOpen p' := by
  have hmqd : p'.mqd = p.mqd := by
    unfold QueueProcess.mqd
    rw [htransport]
  have hqueueName : p'.queueName = p.queueName := by
    unfold QueueProcess.queueName
    rw [htransport]
  obtain ⟨hclosed, hheld, hdistinct, hothers, hnames⟩ := hp
  constructor <;> simp only [IsNamed, hmqd, hqueueName, hkernel]
  · exact hclosed
  · exact hheld
  · exact hdistinct
  · exact hothers
  · exact hnames

/-! ### Both transports -/

private theorem Holds.closeAndUnlinkBoth (hp : Holds k₀ (fun _ => true) p) :
    Holds k₀ (fun _ => false) p.closeAndUnlinkBoth := by
  have hboth := (hp.closeAndUnlink (t := .vehicleToRobot) rfl).closeAndUnlink (t := .robotToVehicle) rfl
  have heq : Function.update (Function.update (fun _ => true) TransportId.vehicleToRobot false) .robotToVehicle false =
      fun _ => false := by
    funext t
    cases t <;> rfl
  exact heq ▸ hboth

theorem Holds.stop (hp : Holds k₀ (fun _ => p.bridge.running) p) :
    Holds k₀ (fun _ => p.stop.bridge.running) p.stop := by
  unfold QueueProcess.stop
  split
  · next hrunning =>
    rw [hrunning] at hp
    have hstopped : Holds k₀ (fun _ => true) { p with bridge := VehicleBridge.stop p.bridge } := hp.congr rfl rfl
    exact hstopped.closeAndUnlinkBoth
  · exact hp

/-- A launch fails with the queues that have been created closed again, or goes through. -/
theorem QueueProcess.launch_cases (env : StartEnv) (free : TransportId → Int32) (p : QueueProcess) :
    ((p.createVehicleToRobot free).1 ≠ .ok ∧ p.launch env free = p.createVehicleToRobot free) ∨
      ((p.createVehicleToRobot free).1 = .ok ∧ (p.createRobotToVehicle free).1 ≠ .ok ∧
        ∃ ec, p.launch env free = (ec, (p.createRobotToVehicle free).2.closeAndUnlink .vehicleToRobot)) ∨
      ((p.createVehicleToRobot free).1 = .ok ∧ (p.createRobotToVehicle free).1 = .ok ∧
        ((∃ ec, p.launch env free = (ec, (p.createRobotToVehicle free).2.closeAndUnlinkBoth)) ∨
          (∃ ec, p.launch env free = (ec, (p.createRobotToVehicle free).2.setRunning.stop)) ∨
          p.launch env free =
            (.ok, { (p.createRobotToVehicle free).2.setRunning with accepted := [], received := [] }))) := by
  simp only [QueueProcess.launch]
  split
  · next hv => exact .inl ⟨hv, rfl⟩
  next hv =>
  rw [not_not] at hv
  split
  · next hr => exact .inr (.inl ⟨hv, hr, _, rfl⟩)
  next hr =>
  rw [not_not] at hr
  refine .inr (.inr ⟨hv, hr, ?_⟩)
  split
  · exact .inl ⟨_, rfl⟩
  split
  · exact .inr (.inl ⟨_, rfl⟩)
  split
  · exact .inr (.inl ⟨_, rfl⟩)
  · exact .inr (.inr rfl)

private theorem update_robotToVehicle :
    Function.update (Function.update (fun _ => false) TransportId.vehicleToRobot true) .robotToVehicle true =
      fun _ => true := by
  funext t
  cases t <;> rfl

/-- The first transport is created, then the second, or one of them is not. -/
private theorem Holds.createBoth (hp : Holds k₀ (fun _ => false) p) (free : TransportId → Int32) :
    ((p.createVehicleToRobot free).1 ≠ .ok → Holds k₀ (fun _ => false) (p.createVehicleToRobot free).2) ∧
      ((p.createVehicleToRobot free).1 = .ok → (p.createRobotToVehicle free).1 ≠ .ok →
        Holds k₀ (fun _ => false) ((p.createRobotToVehicle free).2.closeAndUnlink .vehicleToRobot)) ∧
      ((p.createVehicleToRobot free).1 = .ok → (p.createRobotToVehicle free).1 = .ok →
        Holds k₀ (fun _ => true) (p.createRobotToVehicle free).2) := by
  rcases hp.createTransport (t := .vehicleToRobot) rfl (free .vehicleToRobot) with ⟨hfailed, hv⟩ | ⟨hok, hv⟩
  · exact ⟨fun _ => hv, fun hok => absurd hok hfailed, fun hok => absurd hok hfailed⟩
  have hclosed : Function.update (fun _ => false) TransportId.vehicleToRobot true .robotToVehicle = false := rfl
  rcases hv.createTransport hclosed (free .robotToVehicle) with ⟨hfailed, hr⟩ | ⟨hok', hr⟩
  · have hnone : Function.update (Function.update (fun _ => false) TransportId.vehicleToRobot true) .vehicleToRobot
        false = fun _ => false := by
      funext t
      cases t <;> rfl
    exact ⟨fun hne => absurd hok hne, fun _ _ => hnone ▸ hr.closeAndUnlink rfl, fun _ hok => absurd hok hfailed⟩
  · exact ⟨fun hne => absurd hok hne, fun _ hne => absurd hok' hne, fun _ _ => update_robotToVehicle ▸ hr⟩

/-- **What a launch holds**: both queues or none. -/
theorem Holds.launch (hp : Holds k₀ (fun _ => false) p) (hstopped : p.bridge.running = false) (env : StartEnv)
    (free : TransportId → Int32) :
    Holds k₀ (fun _ => (p.launch env free).2.bridge.running) (p.launch env free).2 := by
  obtain ⟨hnone, hback, hboth⟩ := hp.createBoth free
  rcases QueueProcess.launch_cases env free p with
    ⟨hv, heq⟩ | ⟨hv, hr, ec, heq⟩ | ⟨hv, hr, ⟨ec, heq⟩ | ⟨ec, heq⟩ | heq⟩ <;> rw [heq]
  · exact hstopped ▸ hnone hv
  · exact hstopped ▸ hback hv hr
  · exact hstopped ▸ (hboth hv hr).closeAndUnlinkBoth
  · have hrunning : Holds k₀ (fun _ => (p.createRobotToVehicle free).2.setRunning.bridge.running)
        (p.createRobotToVehicle free).2.setRunning := (hboth hv hr).congr rfl rfl
    exact hrunning.stop
  · exact (hboth hv hr).congr rfl rfl

end

/-! ### The bridge of the model -/

section
variable {hashString : Bytes → UInt64}

/-- What the two transports answer to a launch. -/
def launchEnv (env : StartEnv) (free : TransportId → Int32) (p : QueueProcess) : StartEnv :=
  { env with
    createVehicleToRobot := (p.createVehicleToRobot free).1
    createRobotToVehicle := (p.createRobotToVehicle free).1 }

/-- **The launch** does to the bridge what the model's launch does, with what the transports answer. -/
theorem launch_bridge (env : StartEnv) (free : TransportId → Int32) (p : QueueProcess) :
    ((p.launch env free).1, (p.launch env free).2.bridge) = launch (launchEnv env free p) p.bridge := by
  have hbridge : (p.createRobotToVehicle free).2.bridge = p.bridge := rfl
  have hworkers : startWorkerPool (launchEnv env free p) p.bridge.config.threadPool =
      startWorkerPool env p.bridge.config.threadPool := rfl
  have hvehicle : (launchEnv env free p).enqueueVehicleLoop = env.enqueueVehicleLoop := rfl
  have hrobot : (launchEnv env free p).enqueueRobotLoop = env.enqueueRobotLoop := rfl
  have hcreateV : (launchEnv env free p).createVehicleToRobot = (p.createVehicleToRobot free).1 := rfl
  have hcreateR : (launchEnv env free p).createRobotToVehicle = (p.createRobotToVehicle free).1 := rfl
  unfold QueueProcess.launch launch
  rw [hworkers, hvehicle, hrobot, hcreateV, hcreateR]
  simp only [hbridge]
  repeat' split
  all_goals rfl

/-- A start does to the bridge what a start of the model does for some answers of the transports. -/
theorem start_bridge (env : StartEnv) (free : TransportId → Int32) (config : BridgeConfig) (p : QueueProcess) :
    ∃ v r, ((p.start hashString env free config).1, (p.start hashString env free config).2.bridge) =
      start hashString { env with createVehicleToRobot := v, createRobotToVehicle := r } config p.bridge := by
  unfold QueueProcess.start start
  by_cases hrunning : p.bridge.running = true
  · simp only [hrunning, if_true]
    exact ⟨.ok, .ok, trivial⟩
  by_cases hcanary : refusedByConfigCanary env.nowMs (prepareStart hashString config p.bridge).config = true
  · simp only [hrunning, hcanary, Bool.false_eq_true, if_true, if_false]
    exact ⟨.ok, .ok, trivial⟩
  · simp only [hrunning, hcanary, Bool.false_eq_true, if_false]
    exact ⟨_, _, launch_bridge env free _⟩

/-! ### What is in the queues -/

end

section
variable {k₀ : MqKernel} {isOpen : TransportId → Bool} {p : QueueProcess} {t : TransportId} {P : MqMessage → Prop}

/-- What is found behind a name that the system did not know at first is the queue of an open transport, or a new
one. -/
theorem Contents.find (hc : Contents P isOpen p) (hp : Holds k₀ isOpen p) {config : QueueConfig} {queue : Nat}
    {k' : MqKernel} (hnew : k₀.names (cString config.name) = none)
    (hfind : p.kernel.find true config = some (queue, k')) :
    (queue < k'.created ∧ ∀ m ∈ (k'.queues queue).messages, P m) ∧
      ∀ other, other < p.kernel.created ∧ (∀ m ∈ (p.kernel.queues other).messages, P m) →
        other < k'.created ∧ ∀ m ∈ (k'.queues other).messages, P m := by
  rcases MqKernel.find_cases hfind with ⟨hname, rfl⟩ | ⟨-, rfl, rfl⟩
  · refine ⟨?_, fun _ h => h⟩
    rcases hp.names _ _ hname with hold | ⟨t', hopen, -, hqueue⟩
    · rw [hnew] at hold
      cases hold
    · obtain ⟨handle, hhandle, rfl⟩ := Option.map_eq_some_iff.1 hqueue
      exact hc t' handle hopen hhandle
  · have hqueues (other : Nat) (hne : other ≠ p.kernel.created) :
        (p.kernel.createQueue config).queues other = p.kernel.queues other := Function.update_of_ne hne ..
    have hself : (p.kernel.createQueue config).queues p.kernel.created =
        { maxMsg := config.maxMessages.toNatClampNeg, msgSize := config.messageSize.toNatClampNeg } :=
      Function.update_self ..
    refine ⟨⟨Nat.lt_succ_self _, ?_⟩, fun other h => ⟨Nat.lt_succ_of_lt h.1, ?_⟩⟩
    · rw [hself]
      exact fun _ hmem => absurd hmem List.not_mem_nil
    · rw [hqueues other (Nat.ne_of_lt h.1)]
      exact h.2

theorem Contents.create (hc : Contents P isOpen p) (hp : Holds k₀ isOpen p) (hclosed : isOpen t = false) (free : Int32)
    (hnew : k₀.names (cString (endpoint p.bridge.config t).name) = none)
    (hok : (p.createTransport t free).1 = .ok) :
    Contents P (Function.update isOpen t true) (p.createTransport t free).2 := by
  have hne {t' : TransportId} (hopen : isOpen t' = true) : t' ≠ t := by
    rintro rfl
    exact Bool.false_ne_true (hclosed.symm.trans hopen)
  unfold QueueProcess.createTransport at hok ⊢
  rcases PosixMessageQueue.openIn_cases true (queueConfig (endpoint p.bridge.config t)) free (p.transport t).queue
    p.kernel with ⟨-, heq⟩ | ⟨-, heq⟩ | ⟨-, -, hnone, queue, k', hfind, heq⟩ <;> rw [heq] at hok ⊢
  · cases hok
  · cases hok
  obtain ⟨hfound, hothers⟩ := hc.find hp hnew hfind
  intro t' handle ht' hhandle
  rcases update_isOpen ht' with rfl | hopen
  · rw [mqd_withQueue] at hhandle
    cases (Function.update_self ..).symm.trans hhandle
    exact hfound
  · rw [mqd_withQueue_of_ne (hne hopen)] at hhandle
    have hfree : p.mqd t' ≠ free := by
      intro hmqd
      have hsome := (hp.held t' hopen).2.1
      rw [hmqd, hnone] at hsome
      exact Bool.false_ne_true hsome
    have hkept := (Function.update_of_ne hfree ..).symm.trans hhandle
    rw [MqKernel.find_descriptors hfind] at hkept
    exact hothers handle.queue (hc t' handle hopen hkept)

/-- A launch that goes through finds both queues empty, and one that fails is not the start of a session. -/
private theorem contents_launch (hp : Holds k₀ (fun _ => false) p) (hstopped : p.bridge.running = false)
    (hnew : NamesNew k₀ p.bridge.config) (env : StartEnv) (free : TransportId → Int32) :
    ((p.launch env free).2.bridge.running = false ∧ (p.launch env free).2.accepted = p.accepted ∧
        (p.launch env free).2.received = p.received) ∨
      ((p.launch env free).2.accepted = [] ∧ (p.launch env free).2.received = [] ∧
        Contents (fun _ => False) (fun _ => true) (p.launch env free).2) := by
  have hnothing : Contents (fun _ => False) (fun _ => false) p := fun _ _ hopen => absurd hopen Bool.false_ne_true
  rcases QueueProcess.launch_cases env free p with
    ⟨hv, heq⟩ | ⟨hv, hr, ec, heq⟩ | ⟨hv, hr, ⟨ec, heq⟩ | ⟨ec, heq⟩ | heq⟩ <;> rw [heq]
  · exact .inl ⟨hstopped, rfl, rfl⟩
  · exact .inl ⟨hstopped, rfl, rfl⟩
  · exact .inl ⟨hstopped, rfl, rfl⟩
  · exact .inl ⟨rfl, rfl, rfl⟩
  · refine .inr ⟨rfl, rfl, ?_⟩
    have hcv := hnothing.create hp (t := .vehicleToRobot) rfl _ (hnew .vehicleToRobot) hv
    rcases hp.createTransport (t := .vehicleToRobot) rfl (free .vehicleToRobot) with ⟨hfailed, -⟩ | ⟨-, hheld⟩
    · exact absurd hv hfailed
    · exact update_robotToVehicle ▸ hcv.create hheld (t := .robotToVehicle) rfl _ (hnew .robotToVehicle) hr

/-! ### Calls on the transports -/

private theorem MqKernel.setDescriptor_of_some {k : MqKernel} {mqd : Int32} {handle : MqHandle}
    (h : k.descriptors mqd = some handle) (d : MqDescriptor) :
    k.setDescriptor mqd d = { k with
      queues := Function.update k.queues handle.queue d.queue
      descriptors := Function.update k.descriptors mqd (some { handle with nonBlocking := d.nonBlocking }) } := by
  unfold MqKernel.setDescriptor
  rw [h]

/-- A call that changes nothing. -/
private theorem MqKernel.setDescriptor_descriptor (mqd : Int32) (k : MqKernel) :
    k.setDescriptor mqd (k.descriptor mqd) = k := by
  cases h : k.descriptors mqd with
  | none =>
    unfold MqKernel.setDescriptor
    rw [h]
  | some handle =>
    have hdescriptor : k.descriptor mqd = { nonBlocking := handle.nonBlocking, queue := k.queues handle.queue } := by
      unfold MqKernel.descriptor
      rw [h]
    rw [MqKernel.setDescriptor_of_some h, hdescriptor, Function.update_eq_self, ← h, Function.update_eq_self]

/-- The queues of the descriptors are those that they were before a call. -/
private theorem MqKernel.setDescriptor_handles (k : MqKernel) (mqd fd : Int32) (d : MqDescriptor) :
    ((k.setDescriptor mqd d).descriptors fd).map MqHandle.queue = (k.descriptors fd).map MqHandle.queue := by
  cases h : k.descriptors mqd with
  | none =>
    unfold MqKernel.setDescriptor
    rw [h]
  | some handle =>
    rw [MqKernel.setDescriptor_of_some h]
    by_cases hfd : fd = mqd
    · subst hfd
      simp [h]
    · simp only [Function.update_of_ne hfd]

theorem Holds.setDescriptor (hp : Holds k₀ isOpen p) (hopen : isOpen t = true) (d : MqDescriptor) :
    Holds k₀ isOpen (p.setDescriptor t d) := by
  have hhandles (fd : Int32) : ((p.setDescriptor t d).kernel.descriptors fd).map MqHandle.queue =
      (p.kernel.descriptors fd).map MqHandle.queue := MqKernel.setDescriptor_handles ..
  obtain ⟨handle, hhandle⟩ := Option.isSome_iff_exists.1 (hp.held t hopen).2.1
  constructor
  · exact hp.closed
  · intro t' hopen'
    obtain ⟨hle, hsome, hrest⟩ := hp.held t' hopen'
    refine ⟨hle, ?_, hrest⟩
    rw [← Option.isSome_map (f := MqHandle.queue), hhandles, Option.isSome_map]
    exact hsome
  · exact hp.distinct
  · intro fd hfd
    rw [← hp.others fd hfd]
    unfold QueueProcess.setDescriptor
    rw [MqKernel.setDescriptor_of_some hhandle]
    exact Function.update_of_ne (hfd t hopen) ..
  · intro name queue hname
    have hnames : (p.setDescriptor t d).kernel.names = p.kernel.names := by
      unfold QueueProcess.setDescriptor
      rw [MqKernel.setDescriptor_of_some hhandle]
    rw [hnames] at hname
    refine (hp.names name queue hname).imp_right ?_
    rintro ⟨t', hopen', heq, hqueue⟩
    exact ⟨t', hopen', heq, (hhandles _).trans hqueue⟩

/-- What an open transport sees of its queue. -/
theorem Contents.descriptor (hc : Contents P isOpen p) (hp : Holds k₀ isOpen p) (hopen : isOpen t = true) :
    ∀ m ∈ (p.descriptor t).queue.messages, P m := by
  obtain ⟨handle, hhandle⟩ := Option.isSome_iff_exists.1 (hp.held t hopen).2.1
  unfold QueueProcess.descriptor MqKernel.descriptor
  rw [hhandle]
  exact (hc t handle hopen hhandle).2

/-- A call leaves messages in the queue of its transport, and all others as they were. -/
theorem Contents.setDescriptor {Q : MqMessage → Prop} (hc : Contents P isOpen p) (hPQ : ∀ m, P m → Q m)
    {d : MqDescriptor} (hd : ∀ m ∈ d.queue.messages, Q m) : Contents Q isOpen (p.setDescriptor t d) := by
  intro t' handle' hopen' hhandle'
  have hqueue : (p.kernel.descriptors (p.mqd t')).map MqHandle.queue = some handle'.queue := by
    rw [← MqKernel.setDescriptor_handles p.kernel (p.mqd t) (p.mqd t') d]
    exact congrArg (Option.map MqHandle.queue) hhandle'
  obtain ⟨before, hbefore, heq⟩ := Option.map_eq_some_iff.1 hqueue
  obtain ⟨hcreated, hmessages⟩ := hc t' before hopen' hbefore
  rw [heq] at hcreated hmessages
  unfold QueueProcess.setDescriptor
  cases hown : p.kernel.descriptors (p.mqd t) with
  | none =>
    unfold MqKernel.setDescriptor
    rw [hown]
    exact ⟨hcreated, fun m hm => hPQ m (hmessages m hm)⟩
  | some handle =>
    rw [MqKernel.setDescriptor_of_some hown]
    refine ⟨hcreated, ?_⟩
    by_cases hsame : handle'.queue = handle.queue
    · simp only [hsame, Function.update_self]
      exact hd
    · simp only [Function.update_of_ne hsame]
      exact fun m hm => hPQ m (hmessages m hm)

private theorem QueueProcess.setDescriptor_descriptor (t : TransportId) (p : QueueProcess) :
    p.setDescriptor t (p.descriptor t) = p := by
  unfold QueueProcess.setDescriptor QueueProcess.descriptor
  rw [MqKernel.setDescriptor_descriptor]

/-- A transport that holds nothing refuses every call. -/
private theorem QueueProcess.send_of_closed (hclosed : p.mqd t < 0) (message : Bytes) (priority : UInt32)
    (timeoutMs : Int64) (interrupted : Bool) : p.send t message priority timeoutMs interrupted = p := by
  have hrefused : (p.transport t).sendWithTimeout message priority timeoutMs interrupted (p.descriptor t) =
      (.returned .invalidParam (), p.descriptor t) := if_pos (.inl hclosed)
  unfold QueueProcess.send
  simp only [hrefused, QueueProcess.setDescriptor_descriptor, QueueReply.returned.injEq, reduceCtorEq, false_and,
    if_false, List.append_nil]

private theorem QueueProcess.receive_of_closed (hclosed : p.mqd t < 0) (timeoutMs : Int64) (interrupted : Bool) :
    p.receive t timeoutMs interrupted = p := by
  have hrefused : (p.transport t).receiveWithTimeout timeoutMs interrupted ([], 0) (p.descriptor t) =
      (.returned .invalidParam ([], 0), p.descriptor t) := if_pos hclosed
  unfold QueueProcess.receive
  simp only [hrefused, QueueProcess.setDescriptor_descriptor, receivedFrom, List.append_nil]

private theorem QueueProcess.discardOldest_of_closed (hclosed : p.mqd t < 0) : p.discardOldest t = p := by
  have hrefused : (p.transport t).queue.receiveNonBlocking ([], 0) (p.descriptor t) =
      (.returned .invalidParam ([], 0), p.descriptor t) := if_pos hclosed
  unfold QueueProcess.discardOldest PosixMqTransport.discardOldest
  rw [hrefused]
  exact QueueProcess.setDescriptor_descriptor t p

end

/-! ### Sessions -/

/-- Everything in the queues of a running bridge has been accepted since its start, and so has everything received. -/
structure InSession (p : QueueProcess) : Prop where
  contents : Contents (IsAccepted p.accepted) (fun _ => p.bridge.running) p
  received : ∀ content ∈ p.received, ∃ sent ∈ p.accepted, content = cut sent

section
variable {k₀ : MqKernel} {p : QueueProcess}

theorem IsAccepted.append {accepted : List (Bytes × UInt32)} {m : MqMessage} (h : IsAccepted accepted m)
    (more : List (Bytes × UInt32)) : IsAccepted (accepted ++ more) m := by
  obtain ⟨content, hmem, heq⟩ := h
  exact ⟨content, List.mem_append_left _ hmem, heq⟩

private theorem SendEffect.isAccepted {accepted : List (Bytes × UInt32)} {message : Bytes} {priority : UInt32}
    {reply : QueueReply Unit} {before after : List MqMessage} (h : SendEffect message priority before reply after)
    (hbefore : ∀ m ∈ before, IsAccepted accepted m) :
    ∀ m ∈ after, IsAccepted (accepted ++ if reply = .returned .ok () then [(message, priority)] else []) m := by
  cases h with
  | kept => exact fun m hm => (hbefore m hm).append _
  | sent =>
    rw [if_pos rfl]
    intro m hm
    rcases List.mem_append.1 hm with hm | hm
    · exact (hbefore m hm).append _
    · exact ⟨(message, priority), List.mem_append_right _ List.mem_cons_self, List.mem_singleton.1 hm⟩

theorem ReceiveEffect.subset {size : Nat} {reply : QueueReply (Bytes × UInt32)} {before after : List MqMessage}
    (h : ReceiveEffect size before reply after) : ∀ m ∈ after, m ∈ before := by
  cases h with
  | kept => exact fun _ hm => hm
  | taken error out d htake => exact fun m hm => PriorityFifo.mem_of_take htake (List.mem_cons_of_mem _ hm)

/-- A receive gives out what was accepted, cut at its first zero byte, and leaves the rest. -/
private theorem TimedReceive.isAccepted {accepted : List (Bytes × UInt32)} {size : Nat}
    {reply : QueueReply (Bytes × UInt32)} {before after : List MqMessage} (h : TimedReceive size before reply after)
    (hbefore : ∀ m ∈ before, IsAccepted accepted m) :
    (∀ m ∈ after, IsAccepted accepted m) ∧ ∀ content ∈ receivedFrom reply, ∃ sent ∈ accepted, content = cut sent := by
  cases h with
  | kept hne =>
    refine ⟨hbefore, fun content hcontent => ?_⟩
    unfold receivedFrom at hcontent
    split at hcontent
    · next given => exact absurd rfl (hne given)
    · exact absurd hcontent List.not_mem_nil
  | @taken m rest error out d htake =>
    refine ⟨fun m' hm' => hbefore m' (PriorityFifo.mem_of_take htake (List.mem_cons_of_mem _ hm')),
      fun content hcontent => ?_⟩
    obtain ⟨sent, hsent, rfl⟩ := hbefore m (PriorityFifo.mem_of_take htake List.mem_cons_self)
    simp only [receiveReply, assignCStr_received, receivedFrom, List.mem_singleton] at hcontent
    exact ⟨sent, hsent, hcontent⟩

theorem InSession.send (h : InSession p) (hp : Holds k₀ (fun _ => p.bridge.running) p) (t : TransportId)
    (message : Bytes) (priority : UInt32) (timeoutMs : Int64) (interrupted : Bool) :
    InSession (p.send t message priority timeoutMs interrupted) := by
  cases hrunning : p.bridge.running with
  | false =>
    rw [QueueProcess.send_of_closed (hp.closed t hrunning)]
    exact h
  | true =>
    have hbefore := h.contents.descriptor hp (t := t) hrunning
    have heffect := PosixMessageQueue.sendWithTimeout_effect message priority timeoutMs interrupted
      (p.transport t).queue (p.descriptor t)
    refine ⟨h.contents.setDescriptor (fun m hm => hm.append _) (heffect.isAccepted hbefore), fun content hcontent => ?_⟩
    obtain ⟨sent, hmem, heq⟩ := h.received content hcontent
    exact ⟨sent, List.mem_append_left _ hmem, heq⟩

theorem InSession.receive (h : InSession p) (hp : Holds k₀ (fun _ => p.bridge.running) p) (t : TransportId)
    (timeoutMs : Int64) (interrupted : Bool) : InSession (p.receive t timeoutMs interrupted) := by
  cases hrunning : p.bridge.running with
  | false =>
    rw [QueueProcess.receive_of_closed (hp.closed t hrunning)]
    exact h
  | true =>
    have hbefore := h.contents.descriptor hp (t := t) hrunning
    obtain ⟨hafter, hgiven⟩ := (PosixMessageQueue.receiveWithTimeout_timed timeoutMs interrupted ([], 0)
      (p.transport t).queue (p.descriptor t)).isAccepted hbefore
    refine ⟨h.contents.setDescriptor (fun _ hm => hm) hafter, fun content hcontent => ?_⟩
    rcases List.mem_append.1 hcontent with hold | hnew
    · exact h.received content hold
    · exact hgiven content hnew

theorem InSession.discardOldest (h : InSession p) (hp : Holds k₀ (fun _ => p.bridge.running) p) (t : TransportId) :
    InSession (p.discardOldest t) := by
  cases hrunning : p.bridge.running with
  | false =>
    rw [QueueProcess.discardOldest_of_closed (hp.closed t hrunning)]
    exact h
  | true =>
    have hbefore := h.contents.descriptor hp (t := t) hrunning
    have heffect := PosixMessageQueue.receiveNonBlocking_effect ([], 0) (p.transport t).queue (p.descriptor t)
    exact ⟨h.contents.setDescriptor (fun _ hm => hm) fun m hm => hbefore m (heffect.subset m hm), h.received⟩

/-- What is not running has nothing in its queues. -/
private theorem contents_of_stopped {P : MqMessage → Prop} (hstopped : p.bridge.running = false) :
    Contents P (fun _ => p.bridge.running) p :=
  fun _ _ hopen => absurd (hstopped.symm.trans hopen) Bool.false_ne_true

/-! ### Steps -/

private theorem prepareStart_running (hashString : Bytes → UInt64) (config : BridgeConfig) (s : BridgeState) :
    (prepareStart hashString config s).running = s.running :=
  congrArg BridgeSetup.running (prepareStart_setup hashString config s)

private theorem prepareStart_endpoint (hashString : Bytes → UInt64) (config : BridgeConfig) (s : BridgeState)
    (t : TransportId) : endpoint (prepareStart hashString config s).config t = endpoint config t := by
  have hconfig : (prepareStart hashString config s).config = effectiveConfig config :=
    congrArg BridgeSetup.config (prepareStart_setup hashString config s)
  rw [hconfig, effectiveConfig_eq]
  cases t <;> rfl

variable {hashString : Bytes → UInt64}

theorem Holds.start (hp : Holds k₀ (fun _ => p.bridge.running) p) (env : StartEnv) (free : TransportId → Int32)
    (config : BridgeConfig) : Holds k₀ (fun _ => (p.start hashString env free config).2.bridge.running)
      (p.start hashString env free config).2 := by
  have hprepared := prepareStart_running hashString config p.bridge
  unfold QueueProcess.start
  split
  · exact hp
  next hrunning =>
  rw [Bool.not_eq_true] at hrunning
  rw [hrunning] at hp hprepared
  split
  · exact hprepared ▸ hp.congr rfl rfl
  · have hnone : Holds k₀ (fun _ => false) (p.prepared hashString config) := hp.congr rfl rfl
    exact hnone.launch hprepared env free

theorem InSession.start (h : InSession p) (hp : Holds k₀ (fun _ => p.bridge.running) p) (env : StartEnv)
    (free : TransportId → Int32) {config : BridgeConfig} (hnew : NamesNew k₀ config) :
    InSession (p.start hashString env free config).2 := by
  have hprepared := prepareStart_running hashString config p.bridge
  unfold QueueProcess.start
  split
  · exact h
  next hrunning =>
  rw [Bool.not_eq_true] at hrunning
  rw [hrunning] at hp hprepared
  split
  · exact ⟨contents_of_stopped hprepared, h.received⟩
  · have hnone : Holds k₀ (fun _ => false) (p.prepared hashString config) := hp.congr rfl rfl
    have hnew' : NamesNew k₀ (p.prepared hashString config).bridge.config := fun t => by
      have hendpoint : endpoint (p.prepared hashString config).bridge.config t = endpoint config t :=
        prepareStart_endpoint hashString config p.bridge t
      rw [hendpoint]
      exact hnew t
    rcases contents_launch hnone hprepared hnew' env free with
      ⟨hstopped, haccepted, hreceived⟩ | ⟨haccepted, hreceived, hcontents⟩
    · refine ⟨contents_of_stopped hstopped, ?_⟩
      rw [haccepted, hreceived]
      exact h.received
    · refine ⟨fun t handle _ hhandle => ?_, ?_⟩
      · obtain ⟨hcreated, hmessages⟩ := hcontents t handle rfl hhandle
        exact ⟨hcreated, fun m hm => (hmessages m hm).elim⟩
      · rw [hreceived]
        exact fun _ hmem => absurd hmem List.not_mem_nil

theorem Holds.startFromProvider (hp : Holds k₀ (fun _ => p.bridge.running) p) (env : StartEnv)
    (free : TransportId → Int32) (provider : Option ProviderReplies) :
    Holds k₀ (fun _ => (p.startFromProvider hashString env free provider).2.bridge.running)
      (p.startFromProvider hashString env free provider).2 := by
  unfold QueueProcess.startFromProvider
  split
  · exact hp
  next replies =>
  split
  · exact hp
  · have hnoted : Holds k₀ (fun _ => (p.noteProvider hashString replies).bridge.running)
        (p.noteProvider hashString replies) := hp.congr rfl rfl
    exact hnoted.start env free replies.config

theorem InSession.startFromProvider (h : InSession p) (hp : Holds k₀ (fun _ => p.bridge.running) p) (env : StartEnv)
    (free : TransportId → Int32) {provider : Option ProviderReplies}
    (hnew : (SessionOp.startFromProvider env free provider).NamesNew k₀) :
    InSession (p.startFromProvider hashString env free provider).2 := by
  unfold QueueProcess.startFromProvider
  split
  · exact h
  next replies =>
  split
  · exact h
  · have hheld : Holds k₀ (fun _ => (p.noteProvider hashString replies).bridge.running)
        (p.noteProvider hashString replies) := hp.congr rfl rfl
    have hnoted : InSession (p.noteProvider hashString replies) := ⟨h.contents, h.received⟩
    exact hnoted.start hheld env free hnew

theorem InSession.stop (h : InSession p) : InSession p.stop := by
  unfold QueueProcess.stop
  split
  · exact ⟨contents_of_stopped rfl, h.received⟩
  · exact h

private theorem reload_running (hashString : Bytes → UInt64) (nowMs : UInt64) (provider : Option ProviderReplies)
    (s : BridgeState) :
    (reloadConfigIfChanged hashString nowMs provider s).2.running = s.running := by
  rcases reloadConfigIfChanged_cases hashString nowMs provider s with
    ⟨-, ec, audit, writes, heq⟩ | ⟨p, -, -, -, heq⟩ | ⟨p, -, -, -, heq⟩ <;> rw [heq] <;> rfl

/-- **The step lemma**: any call keeps what is held in order. -/
theorem Holds.exec (hp : Holds k₀ (fun _ => p.bridge.running) p) (op : SessionOp) :
    Holds k₀ (fun _ => (p.exec hashString op).bridge.running) (p.exec hashString op) := by
  have hcall (t : TransportId) {d : MqDescriptor} (hrunning : p.bridge.running = true) :
      Holds k₀ (fun _ => p.bridge.running) (p.setDescriptor t d) := hp.setDescriptor hrunning d
  cases op with
  | start env free config => exact hp.start env free config
  | startFromProvider env free provider => exact hp.startFromProvider env free provider
  | stop => exact hp.stop
  | reload nowMs provider =>
    have hreloaded := reload_running hashString nowMs provider p.bridge
    unfold QueueProcess.exec
    rw [hreloaded]
    exact hp.congr rfl rfl
  | send t message priority timeoutMs interrupted =>
    cases hrunning : p.bridge.running with
    | false =>
      rw [QueueProcess.exec, QueueProcess.send_of_closed (hp.closed t hrunning)]
      exact hp
    | true => exact (hcall t hrunning).congr rfl rfl
  | receive t timeoutMs interrupted =>
    cases hrunning : p.bridge.running with
    | false =>
      rw [QueueProcess.exec, QueueProcess.receive_of_closed (hp.closed t hrunning)]
      exact hp
    | true => exact (hcall t hrunning).congr rfl rfl
  | discardOldest t =>
    cases hrunning : p.bridge.running with
    | false =>
      rw [QueueProcess.exec, QueueProcess.discardOldest_of_closed (hp.closed t hrunning)]
      exact hp
    | true => exact hcall t hrunning

/-- **The step lemma** of a session, for starts on names that the system did not know at first. -/
theorem InSession.exec (h : InSession p) (hp : Holds k₀ (fun _ => p.bridge.running) p) {op : SessionOp}
    (hop : op.NamesNew k₀) : InSession (p.exec hashString op) := by
  cases op with
  | start env free config => exact h.start hp env free hop
  | startFromProvider env free provider => exact h.startFromProvider hp env free hop
  | stop => exact h.stop
  | reload nowMs provider =>
    have hreloaded := reload_running hashString nowMs provider p.bridge
    refine ⟨?_, h.received⟩
    unfold QueueProcess.exec
    rw [hreloaded]
    exact h.contents
  | send t message priority timeoutMs interrupted => exact h.send hp t message priority timeoutMs interrupted
  | receive t timeoutMs interrupted => exact h.receive hp t timeoutMs interrupted
  | discardOldest t => exact h.discardOldest hp t

private theorem holds_new (k₀ : MqKernel) : Holds k₀ (fun _ => false) { kernel := k₀ } where
  closed _ _ := show (-1 : Int32) < 0 by decide
  held _ hopen := absurd hopen Bool.false_ne_true
  distinct _ _ hopen := absurd hopen Bool.false_ne_true
  others _ _ := rfl
  names _ _ hname := .inl hname

theorem Holds.run (hp : Holds k₀ (fun _ => p.bridge.running) p) (ops : List SessionOp) :
    Holds k₀ (fun _ => (ops.foldl (QueueProcess.exec hashString) p).bridge.running)
      (ops.foldl (QueueProcess.exec hashString) p) := by
  induction ops generalizing p with
  | nil => exact hp
  | cons op ops ih => exact ih (hp.exec op)

theorem InSession.run (h : InSession p) (hp : Holds k₀ (fun _ => p.bridge.running) p) {ops : List SessionOp}
    (hops : ∀ op ∈ ops, op.NamesNew k₀) : InSession (ops.foldl (QueueProcess.exec hashString) p) := by
  induction ops generalizing p with
  | nil => exact h
  | cons op ops ih =>
    rw [List.forall_mem_cons] at hops
    exact ih (h.exec hp hops.1) (hp.exec op) hops.2

end

/-- **The sessions of a bridge.**  Between any two calls a running bridge holds two descriptors and a stopped one none;
a stopped bridge has left the other descriptors as they were and no name that the system did not know at first.  Where
its starts use names that the system did not know, everything a bridge has received since its last start has been
accepted since then, cut at its first zero byte. -/
theorem queue_sessions (hashString : Bytes → UInt64) (k₀ : MqKernel) (ops : List SessionOp) :
    let p := ops.foldl (QueueProcess.exec hashString) { kernel := k₀ }
    Holds k₀ (fun _ => p.bridge.running) p ∧
      (p.bridge.running = false → p.kernel.descriptors = k₀.descriptors ∧
        ∀ name queue, p.kernel.names name = some queue → k₀.names name = some queue) ∧
      ((∀ op ∈ ops, op.NamesNew k₀) → ∀ content ∈ p.received, ∃ sent ∈ p.accepted, content = cut sent) := by
  intro p
  have hheld : Holds k₀ (fun _ => p.bridge.running) p := (holds_new k₀).run ops
  refine ⟨hheld, fun hstopped => ⟨funext fun fd => ?_, fun name queue hname => ?_⟩, fun hops => ?_⟩
  · exact hheld.others fd fun t hopen => absurd (hstopped.symm.trans hopen) Bool.false_ne_true
  · rcases hheld.names name queue hname with hold | ⟨t, hopen, -⟩
    · exact hold
    · exact absurd (hstopped.symm.trans hopen) Bool.false_ne_true
  · have hnew : InSession { kernel := k₀ } :=
      ⟨contents_of_stopped rfl, fun _ hmem => absurd hmem List.not_mem_nil⟩
    exact (hnew.run (holds_new k₀) hops).received

def queueNamesConfig : BridgeConfig :=
  { vehicleToRobotEndpoint := { name := text "/v2r" }
    robotToVehicleEndpoint := { name := text "/r2v" } }

/-- Two sessions of a bridge; what the first leaves in a queue is gone with it. -/
def twoSessions : List SessionOp :=
  [.start {} (fun | .vehicleToRobot => 3 | .robotToVehicle => 4) queueNamesConfig,
    .send .vehicleToRobot (text "left behind") 1 50 false, .stop,
    .start {} (fun | .vehicleToRobot => 4 | .robotToVehicle => 3) queueNamesConfig,
    .send .vehicleToRobot (text "step") 2 50 false, .receive .vehicleToRobot 50 false,
    .receive .vehicleToRobot 50 false]

set_option maxRecDepth 4000 in
theorem queue_sessions_twice :
    let p := twoSessions.foldl (QueueProcess.exec fun _ => 0) { kernel := {} }
    p.bridge.running = true ∧ p.received = [(text "step", 2)] ∧
      ∀ content ∈ p.received, ∃ sent ∈ p.accepted, content = cut sent := by
  intro p
  have hnew : ∀ op ∈ twoSessions, op.NamesNew {} := by
    unfold twoSessions
    simp only [List.forall_mem_cons, List.not_mem_nil, SessionOp.NamesNew, NamesNew, false_implies, implies_true,
      and_self]
  exact ⟨by decide +kernel, by decide +kernel, (queue_sessions (fun _ => 0) {} twoSessions).2.2 hnew⟩

end VehicleBridge
