import Go2Sensors.ForStd.KeepLast
import Go2Sensors.ForStd.Run
import Go2Sensors.Native.Relay

/-!
# What the relay forwards

Seen from one topic of the configuration, the relay is a queue that keeps the last five
messages: the other topics, and the order in which the executor takes the topics, do not
matter for it.

## Key results

- `relay_refines`: the relay, seen from a topic
- `relay_forwards`: what is published, what is lost, and what is counted
-/

namespace Scripts

open KeepLast

variable {M : Type} {put : Nat → List M → M → List M} {topics : List (String × TopicCfg)}
  {topic : String}

/-! ## The relay, seen from a topic -/

/-- The messages of a topic. -/
def onTopic (topic : String) (messages : List (String × M)) : List M :=
  (messages.filter (·.1 = topic)).map (·.2)

/-- The subscription of a topic with its two ends. -/
def RelayState.channel (s : RelayState M) (topic : String) : Channel M :=
  { queue := s.queues topic
    taken := onTopic topic s.published
    pushed := onTopic topic s.arrived }

/-- What an operation of the relay is for a topic. -/
def RelayOp.on (topic : String) : RelayOp M → List (Op M)
  | .arrive other msg => if other = topic then [.push msg] else []
  | .spin other => if other = topic then [.take] else []

theorem onTopic_append_self (messages : List (String × M)) (msg : M) :
    onTopic topic (messages ++ [(topic, msg)]) = onTopic topic messages ++ [msg] := by
  simp [onTopic]

theorem onTopic_append_ne {other : String} (h : other ≠ topic) (messages : List (String × M))
    (msg : M) : onTopic topic (messages ++ [(other, msg)]) = onTopic topic messages := by
  simp [onTopic, h]

/-- The subscription of a topic has the topic's callback, and keeps five messages. -/
theorem find_subscription (topics : List (String × TopicCfg)) (topic : String) :
    (∃ sub, (subscriptions (M := M) topics).find? (·.name = topic) = some sub ∧
      sub.callback = makeCb topic topic ∧ sub.qos.depth = 5 ∧ topic ∈ topics.map (·.1)) ∨
    (subscriptions (M := M) topics).find? (·.name = topic) = none ∧
      topic ∉ topics.map (·.1) := by
  cases hfind : (subscriptions (M := M) topics).find? (·.name = topic) with
  | none =>
    -- an entry of the configuration would have been found
    refine Or.inr ⟨rfl, fun hmem => ?_⟩
    obtain ⟨⟨name, topicCfg⟩, hcfg, rfl⟩ := List.mem_map.mp hmem
    have hno := List.find?_eq_none.mp hfind _ (List.mem_map.mpr ⟨_, hcfg, rfl⟩)
    simp at hno
  | some sub =>
    -- the entry that it was made from has the name of the topic
    obtain ⟨⟨name, topicCfg⟩, hcfg, rfl⟩ := List.mem_map.mp (List.mem_of_find?_eq_some hfind)
    have hname : name = topic := by simpa using List.find?_some hfind
    subst hname
    exact Or.inl ⟨_, rfl, rfl, rfl, List.mem_map.mpr ⟨_, hcfg, rfl⟩⟩

/-- What a step does, for a topic of the configuration and for the others. -/
theorem relayStep_spec (put : Nat → List M → M → List M) (topics : List (String × TopicCfg))
    (s : RelayState M) (op : RelayOp M) :
    (∃ topic msg, op = .arrive topic msg ∧ topic ∈ topics.map (·.1) ∧
      relayStep put (subscriptions topics) s op =
        { s with
          arrived := s.arrived ++ [(topic, msg)]
          queues := Function.update s.queues topic (put 5 (s.queues topic) msg) }) ∨
    (∃ topic msg, op = .arrive topic msg ∧ topic ∉ topics.map (·.1) ∧
      relayStep put (subscriptions topics) s op =
        { s with arrived := s.arrived ++ [(topic, msg)] }) ∨
    (∃ topic msg queue, op = .spin topic ∧ topic ∈ topics.map (·.1) ∧
      s.queues topic = msg :: queue ∧
      relayStep put (subscriptions topics) s op =
        { s with
          queues := Function.update s.queues topic queue
          counts := Function.update s.counts topic (s.counts topic + 1)
          published := s.published ++ [(topic, msg)] }) ∨
    (∃ topic, op = .spin topic ∧ (topic ∈ topics.map (·.1) → s.queues topic = []) ∧
      relayStep put (subscriptions topics) s op = s) := by
  cases op with
  | arrive topic msg =>
    rcases find_subscription (M := M) topics topic with
      ⟨sub, hfind, -, hdepth, hmem⟩ | ⟨hfind, hmem⟩
    · -- subscribed: the message goes into the queue
      exact Or.inl ⟨topic, msg, rfl, hmem, by simp only [relayStep, hfind, hdepth]⟩
    · -- no subscription
      exact Or.inr (Or.inl ⟨topic, msg, rfl, hmem, by simp only [relayStep, hfind]⟩)
  | spin topic =>
    rcases find_subscription (M := M) topics topic with
      ⟨sub, hfind, hcallback, -, hmem⟩ | ⟨hfind, hmem⟩
    · cases hqueue : s.queues topic with
      | nil =>
        -- nothing waits: the executor passes the topic over
        refine Or.inr (Or.inr (Or.inr ⟨topic, rfl, fun _ => hqueue, ?_⟩))
        simp only [relayStep, hfind, hqueue]
      | cons msg queue =>
        -- the callback gets the oldest message
        refine Or.inr (Or.inr (Or.inl ⟨topic, msg, queue, rfl, hmem, hqueue, ?_⟩))
        simp only [relayStep, hfind, hqueue, hcallback, makeCb]
    · refine Or.inr (Or.inr (Or.inr ⟨topic, rfl, fun h => absurd h hmem, ?_⟩))
      simp only [relayStep, hfind]

/-- A step of the relay is a step of the queue of its topic, and none of the others. -/
theorem channel_relayStep (hput : KeepsLast put) (hmem : topic ∈ topics.map (·.1))
    (s : RelayState M) (op : RelayOp M) :
    (relayStep put (subscriptions topics) s op).channel topic =
      (op.on topic).foldl (Channel.step 5) (s.channel topic) := by
  obtain rfl := hput.eq_push
  rcases relayStep_spec push topics s op with
    ⟨other, msg, rfl, -, hstep⟩ | ⟨other, msg, rfl, hno, hstep⟩
    | ⟨other, msg, queue, rfl, -, hqueue, hstep⟩ | ⟨other, rfl, hqueue, hstep⟩
  · -- a message arrives on a topic of the configuration
    rw [hstep]
    by_cases hother : other = topic
    · subst hother
      simp [RelayState.channel, RelayOp.on, Channel.step, onTopic_append_self]
    · simp [RelayState.channel, RelayOp.on, hother, Ne.symm hother, onTopic_append_ne hother]
  · -- a message arrives on another topic
    have hother : other ≠ topic := fun h => hno (h ▸ hmem)
    rw [hstep]
    simp [RelayState.channel, RelayOp.on, hother, onTopic_append_ne hother]
  · -- a callback runs
    rw [hstep]
    by_cases hother : other = topic
    · subst hother
      simp [RelayState.channel, RelayOp.on, Channel.step, hqueue, onTopic_append_self]
    · simp [RelayState.channel, RelayOp.on, hother, Ne.symm hother, onTopic_append_ne hother]
  · -- the executor finds an empty queue
    rw [hstep]
    by_cases hother : other = topic
    · subst hother
      simp [RelayState.channel, RelayOp.on, Channel.step, hqueue hmem]
    · simp [RelayOp.on, hother]

/-- The relay, seen from a topic of its configuration, is a queue that keeps the last five
    messages. -/
theorem relay_refines (hput : KeepsLast put) (hmem : topic ∈ topics.map (·.1))
    (s : RelayState M) (ops : List (RelayOp M)) :
    (ops.foldl (relayStep put (subscriptions topics)) s).channel topic =
      (ops.flatMap (RelayOp.on topic)).foldl (Channel.step 5) (s.channel topic) := by
  induction ops generalizing s with
  | nil => rfl
  | cons op ops ih =>
    -- one step of the relay, and then the queue takes over
    rw [List.foldl_cons, ih, channel_relayStep hput hmem, List.flatMap_cons, List.foldl_append]

/-! ## Counting -/

/-- Each message that is published is counted, and belongs to a topic of the configuration. -/
structure RelayInv (topics : List (String × TopicCfg)) (s : RelayState M) : Prop where
  counted : ∀ topic, s.counts topic = (onTopic topic s.published).length
  configured : ∀ p ∈ s.published, p.1 ∈ topics.map (·.1)

theorem relayInv_init (topics : List (String × TopicCfg)) :
    RelayInv topics (RelayState.init : RelayState M) where
  counted _ := rfl
  configured _ hp := absurd hp List.not_mem_nil

theorem RelayInv.step {s : RelayState M} (h : RelayInv topics s) (op : RelayOp M) :
    RelayInv topics (relayStep put (subscriptions topics) s op) := by
  rcases relayStep_spec put topics s op with
    ⟨other, msg, rfl, -, hstep⟩ | ⟨other, msg, rfl, -, hstep⟩
    | ⟨other, msg, queue, rfl, hmem, -, hstep⟩ | ⟨other, rfl, -, hstep⟩
  · -- arrivals publish nothing
    rw [hstep]
    exact ⟨h.counted, h.configured⟩
  · rw [hstep]
    exact ⟨h.counted, h.configured⟩
  · rw [hstep]
    constructor
    · intro topic
      by_cases hother : other = topic
      · -- the topic of the callback: one more on both sides
        subst hother
        simp [onTopic_append_self, h.counted]
      · simp [Ne.symm hother, onTopic_append_ne hother, h.counted]
    · intro p hp
      rcases List.mem_append.mp hp with hold | hnew
      · exact h.configured p hold
      · -- the new one has a subscription
        obtain rfl := List.mem_singleton.mp hnew
        exact hmem
  · rw [hstep]
    exact h

/-! ## What is forwarded -/

/-- The number of messages of a topic that arrive. -/
def arrivals (topic : String) (ops : List (RelayOp M)) : Nat :=
  ops.countP fun
    | .arrive other _ => other = topic
    | .spin _ => false

/-- The number of times that the callback of a topic has its turn. -/
def turns (topic : String) (ops : List (RelayOp M)) : Nat :=
  ops.countP fun
    | .arrive _ _ => false
    | .spin other => other = topic

theorem pushes_on (topic : String) (ops : List (RelayOp M)) :
    Channel.pushes (ops.flatMap (RelayOp.on topic)) = arrivals topic ops := by
  induction ops with
  | nil => rfl
  | cons op ops ih =>
    rw [List.flatMap_cons, arrivals, List.countP_cons]
    cases op with
    | arrive other msg =>
      by_cases h : other = topic
      · simp [RelayOp.on, h, Channel.pushes, ih, arrivals]
      · simp [RelayOp.on, h, ih, arrivals]
    | spin other =>
      by_cases h : other = topic
      · simp [RelayOp.on, h, Channel.pushes, ih, arrivals]
      · simp [RelayOp.on, h, ih, arrivals]

theorem takes_on (topic : String) (ops : List (RelayOp M)) :
    Channel.takes (ops.flatMap (RelayOp.on topic)) = turns topic ops := by
  induction ops with
  | nil => rfl
  | cons op ops ih =>
    rw [List.flatMap_cons, turns, List.countP_cons]
    cases op with
    | arrive other msg =>
      by_cases h : other = topic
      · simp [RelayOp.on, h, Channel.takes, ih, turns]
      · simp [RelayOp.on, h, ih, turns]
    | spin other =>
      by_cases h : other = topic
      · simp [RelayOp.on, h, Channel.takes, ih, turns]
      · simp [RelayOp.on, h, ih, turns]

/-- Whatever arrives and however the executor takes the topics: on each topic of the configuration
    the relay publishes, in order, a part of what has arrived on it before the last messages, of
    which at most five wait. A message is lost only if five newer ones of its topic arrive before
    it is published, and it is published when its callback has had five turns. What is published
    is counted, and nothing is published on other topics. -/
theorem relay_forwards (put : Nat → List M → M → List M) (hput : KeepsLast put)
    (topics : List (String × TopicCfg)) (ops : List (RelayOp M)) :
    let run := List.foldl (relayStep put (subscriptions topics)) RelayState.init
    (∀ topic ∈ topics.map (·.1),
      (∃ older, onTopic topic (run ops).arrived = older ++ (run ops).queues topic ∧
        (onTopic topic (run ops).published).Sublist older) ∧
      ((run ops).queues topic).length ≤ 5 ∧
      ∀ before msg later, ops = before ++ .arrive topic msg :: later → arrivals topic later < 5 →
        msg ∈ (onTopic topic (run ops).published).drop
            (onTopic topic (run before).published).length ∨
          msg ∈ (run ops).queues topic ∧ turns topic later < 5) ∧
    (∀ topic, (run ops).counts topic = (onTopic topic (run ops).published).length) ∧
    ∀ p ∈ (run ops).published, p.1 ∈ topics.map (·.1) := by
  intro run
  have hinv : RelayInv topics (run ops) :=
    Run.inv ops (relayInv_init topics) fun s op h => h.step op
  refine ⟨fun topic hmem => ?_, hinv.counted, hinv.configured⟩
  -- every topic on its own, for the whole run and for its first part
  have hrun (ops : List (RelayOp M)) := relay_refines hput hmem RelayState.init ops
  have hpasses : Channel.Passes 5 ((run ops).channel topic) := by
    rw [hrun ops]
    exact Run.inv _ (Channel.passes_init 5) fun c op h => h.step op
  refine ⟨hpasses.order, hpasses.bounded, fun before msg later hsplit hfew => ?_⟩
  subst hsplit
  rw [← pushes_on] at hfew
  -- fewer than five newer ones arrive, so it is published or still waits
  have hkept := Channel.taken_or_waits ((run before).channel topic) msg hfew
  -- the run goes on from the queue at the time of its arrival
  have hafter : (run (before ++ .arrive topic msg :: later)).channel topic =
      (.push msg :: later.flatMap (RelayOp.on topic)).foldl (Channel.step 5)
        ((run before).channel topic) := by
    rw [hrun, hrun, ← List.foldl_append, List.flatMap_append, List.flatMap_cons]
    simp [RelayOp.on]
  rw [← hafter, takes_on] at hkept
  exact hkept

/-- Six messages arrive, four callbacks run, and the other topic keeps its own message. -/
theorem relay_forwards_sixArrive :
    let topics := [("/lidar", ⟨"sensor_msgs/msg/PointCloud2", some ⟨some "best_effort"⟩⟩),
      ("/imu", ⟨"sensor_msgs/msg/Imu", none⟩)]
    let ops := ([1, 2, 3, 4, 5, 6].map (RelayOp.arrive "/lidar")) ++
      [.arrive "/imu" 9, .spin "/lidar", .spin "/imu", .spin "/lidar"]
    let s := ops.foldl (relayStep push (subscriptions topics)) (RelayState.init : RelayState Nat)
    s.published = [("/lidar", 2), ("/imu", 9), ("/lidar", 3)] ∧
      s.queues "/lidar" = [4, 5, 6] ∧
      s.counts "/lidar" = (onTopic "/lidar" s.published).length := by
  refine ⟨by decide +kernel, by decide +kernel, ?_⟩
  exact (relay_forwards push keepsLast_push _ _).2.1 "/lidar"

end Scripts
