import Mathlib.Logic.Function.Basic

/-!
# `py_domain_relay.py`

For each topic of its configuration the relay subscribes in domain 0 and publishes in domain 42.
A subscription has a history of what has arrived, which is a part of the middleware and a
parameter here. The executor of domain 0 runs one callback at a time, with the oldest message of
its history; in what order it takes the topics is up to it.
-/

namespace Scripts

/-- The `qos` of a topic: its `reliability`, if there is one. -/
structure QosCfg where
  reliability : Option String

/-- A topic of the configuration. `from_domain` and `to_domain` are ignored. -/
structure TopicCfg where
  type : String
  qos : Option QosCfg

/-- `ReliabilityPolicy`. -/
inductive ReliabilityPolicy where
  | bestEffort
  | reliable

/-- `QoSProfile` with `KEEP_LAST` and `VOLATILE`. -/
structure QoSProfile where
  reliability : ReliabilityPolicy
  depth : Nat

/-- `make_qos`. -/
def makeQos (topicCfg : TopicCfg) : QoSProfile :=
  let reliabilityStr := (topicCfg.qos.bind QosCfg.reliability).getD "reliable"
  { reliability := if reliabilityStr = "best_effort" then .bestEffort else .reliable
    depth := 5 }

variable {M : Type}

/-- The relay between two callbacks. -/
structure RelayState (M : Type) where
  counts : String → Nat
  /-- what waits at the subscription of a topic -/
  queues : String → List M
  /-- what came in, and what was published, each with its topic -/
  arrived : List (String × M)
  published : List (String × M)

/-- No message has come in. -/
def RelayState.init : RelayState M := ⟨fun _ => 0, fun _ => [], [], []⟩

/-- `make_cb`: the callback has the topic and the publisher of its own iteration. -/
def makeCb (topicName publisher : String) (msg : M) (s : RelayState M) : RelayState M :=
  { s with
    counts := Function.update s.counts topicName (s.counts topicName + 1)
    published := s.published ++ [(publisher, msg)] }

/-- A subscription in domain 0. -/
structure Subscription (M : Type) where
  name : String
  callback : M → RelayState M → RelayState M
  qos : QoSProfile

/-- The loop over the topics. A publisher is known by the name of its topic. -/
def subscriptions (topics : List (String × TopicCfg)) : List (Subscription M) :=
  topics.map fun (name, topicCfg) =>
    let qos := makeQos topicCfg
    let pub := name
    ⟨name, makeCb name pub, qos⟩

/-- A message reaches domain 0, or the executor runs the callback of a topic. -/
inductive RelayOp (M : Type) where
  | arrive (topic : String) (msg : M)
  | spin (topic : String)

/-- A step of the relay. `put` is what the history of a subscription does with a message, given
    the depth of its profile. -/
def relayStep (put : Nat → List M → M → List M) (subs : List (Subscription M))
    (s : RelayState M) : RelayOp M → RelayState M
  | .arrive topic msg =>
    let s := { s with arrived := s.arrived ++ [(topic, msg)] }
    match subs.find? (·.name = topic) with
    | none => s
    | some sub =>
      { s with
        queues := Function.update s.queues topic (put sub.qos.depth (s.queues topic) msg) }
  | .spin topic =>
    match subs.find? (·.name = topic), s.queues topic with
    | some sub, msg :: queue =>
      sub.callback msg { s with queues := Function.update s.queues topic queue }
    -- no callback is ready
    | _, _ => s

end Scripts
