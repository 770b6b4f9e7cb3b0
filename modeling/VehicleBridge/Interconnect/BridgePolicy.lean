import VehicleBridge.Interconnect.MessageEnvelope

/-!
# Policies and policy rules

The policy a message is sent and received under, the rules that select it, and the table of rules in three layers
with the topic index of each layer.
-/

namespace VehicleBridge

open ByteText

inductive BackpressurePolicy
  | reject
  | dropOldest
  deriving DecidableEq, Repr

def BackpressurePolicy.value : BackpressurePolicy → UInt8
  | .reject => 0
  | .dropOldest => 1

inductive DropPolicy
  | dropNone
  | dropNew
  | dropOldest
  deriving DecidableEq, Repr

def DropPolicy.value : DropPolicy → UInt8
  | .dropNone => 0
  | .dropNew => 1
  | .dropOldest => 2

structure RetryBudget where
  maxRetries : Int32 := 0
  initialBackoffMs : Int64 := 10
  maxBackoffMs : Int64 := 200
  deriving DecidableEq, Repr

structure BridgeSlaPolicy where
  maxEndToEndLatencyMs : UInt32 := 100
  transportReceiveTimeoutMs : Int64 := 50
  transportSendTimeoutMs : Int64 := 50
  backpressurePolicy : BackpressurePolicy := .reject
  dropPolicy : DropPolicy := .dropNone
  retryBudget : RetryBudget := {}
  enableTimeoutSleep : Bool := true
  receiveTimeoutSleepMs : UInt32 := 10
  lockPolicy : Bool := false
  deriving DecidableEq, Repr

structure PolicyRule where
  priority : UInt32 := 0
  matchAnyChannel : Bool := true
  channel : ChannelType := .event
  matchAnySource : Bool := true
  source : Bytes := []
  matchAnyTarget : Bool := true
  target : Bytes := []
  matchAnyQos : Bool := true
  qos : DeliveryQoS := .bestEffort
  topic : Bytes := []
  policy : BridgeSlaPolicy := {}
  deriving DecidableEq, Repr

/-- `std::unordered_map<std::string, std::vector<std::size_t>>`: the positions listed under a topic, if any. -/
abbrev TopicIndex := Bytes → Option (List Nat)

structure BridgePolicyTable where
  defaultPolicy : BridgeSlaPolicy := {}
  templateRules : List PolicyRule := []
  rules : List PolicyRule := []
  runtimeOverrides : List PolicyRule := []
  templateTopicRuleIndex : TopicIndex := fun _ => none
  topicRuleIndex : TopicIndex := fun _ => none
  overrideTopicRuleIndex : TopicIndex := fun _ => none

/-- The rules of all three layers. -/
def BridgePolicyTable.allRules (table : BridgePolicyTable) : List PolicyRule :=
  table.templateRules ++ table.rules ++ table.runtimeOverrides

/-! ### The signature of a policy table -/

def hashCombine (seed value : UInt64) : UInt64 :=
  seed ^^^ (value + 0x9e3779b97f4a7c15 + (seed <<< (6 : UInt64)) + (seed >>> (2 : UInt64)))

section
-- `std::hash<std::string>`
variable (hashString : Bytes → UInt64)

/-- The fields of a policy that enter the signature, in order. -/
def policyWords (policy : BridgeSlaPolicy) : List UInt64 :=
  [policy.maxEndToEndLatencyMs.toUInt64, policy.transportReceiveTimeoutMs.toUInt64,
    policy.transportSendTimeoutMs.toUInt64, policy.backpressurePolicy.value.toUInt64,
    policy.dropPolicy.value.toUInt64, policy.retryBudget.maxRetries.toInt64.toUInt64,
    policy.retryBudget.initialBackoffMs.toUInt64, policy.retryBudget.maxBackoffMs.toUInt64]

/-- What `hash_rule` feeds to `HashCombine`. -/
def ruleWords (rule : PolicyRule) : List UInt64 :=
  [rule.priority.toUInt64, rule.matchAnyChannel.toUInt64, rule.channel.value.toUInt64,
    rule.matchAnySource.toUInt64, hashString rule.source, rule.matchAnyTarget.toUInt64, hashString rule.target,
    rule.matchAnyQos.toUInt64, rule.qos.value.toUInt64, hashString rule.topic] ++ policyWords rule.policy

def signatureWords (table : BridgePolicyTable) : List UInt64 :=
  policyWords table.defaultPolicy ++ table.allRules.flatMap (ruleWords hashString)

def computePolicySignature (table : BridgePolicyTable) : UInt64 :=
  (signatureWords hashString table).foldl hashCombine 0

end

end VehicleBridge
