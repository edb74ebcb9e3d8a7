import H3ntun.ConfigUsable
import H3ntun.Health
import H3ntun.ReceptionLedger

namespace H3ntun

/-!
# Checks on a running agent

The health server answers from a snapshot of the metrics, and the commands
`status` and `verify` judge an agent by that answer.  `verify` accepts an
agent exactly if it is healthy and nothing went wrong since it was started.
-/

/-- `role`, as it is printed. -/
def Side.name : Side → String
  | .iran => "iran"
  | .foreign => "foreign"

/-- The prefix of the two keys of a direction. -/
def Traffic.name : Traffic → String
  | .uplinkTx => "uplink_tx"
  | .uplinkRx => "uplink_rx"
  | .downlinkTx => "downlink_tx"
  | .downlinkRx => "downlink_rx"
  | .innerTx => "inner_tx"
  | .innerRx => "inner_rx"

namespace Counter

/-- Key of a counter in the metrics. -/
def key : Counter → String
  | .packets traffic => traffic.name ++ "_packets"
  | .bytes traffic => traffic.name ++ "_bytes"
  | .authFailures => "auth_failures"
  | .replayDrops => "replay_drops"
  | .sourceMismatchDrops => "source_mismatch_drops"
  | .innerSourceMismatchDrops => "inner_source_mismatch_drops"
  | .oversizeDrops => "oversize_drops"
  | .encryptedFramesTx => "encrypted_frames_tx"
  | .encryptedFramesRx => "encrypted_frames_rx"
  | .fragmentMessages => "fragment_messages"
  | .fragmentsCreated => "fragments_created"
  | .fragmentsReceived => "fragments_received"
  | .fecRecoveries => "fec_recoveries"
  | .acksTx => "acks_tx"
  | .acksRx => "acks_rx"
  | .ackedMessages => "acked_messages"
  | .retransmittedFrames => "retransmitted_frames"
  | .retryExhausted => "retry_exhausted"
  | .queueDrops => "queue_drops"
  | .reassemblyTimeouts => "reassembly_timeouts"
  | .duplicateMessages => "duplicate_messages"
  | .staleAckDrops => "stale_ack_drops"
  | .unknownAckDrops => "unknown_ack_drops"

/-- All counters, in the order of the metrics. -/
def all : List Counter := [
  .packets .uplinkTx, .bytes .uplinkTx,
  .packets .uplinkRx, .bytes .uplinkRx,
  .packets .downlinkTx, .bytes .downlinkTx,
  .packets .downlinkRx, .bytes .downlinkRx,
  .packets .innerTx, .bytes .innerTx,
  .packets .innerRx, .bytes .innerRx,
  .authFailures, .replayDrops, .sourceMismatchDrops,
  .innerSourceMismatchDrops, .oversizeDrops, .encryptedFramesTx,
  .encryptedFramesRx, .fragmentMessages, .fragmentsCreated,
  .fragmentsReceived, .fecRecoveries, .acksTx, .acksRx, .ackedMessages,
  .retransmittedFrames, .retryExhausted, .queueDrops, .reassemblyTimeouts,
  .duplicateMessages, .staleAckDrops, .unknownAckDrops]

end Counter

namespace JsonValue

/-- A number, or `null`. -/
def ofTime (time : Option Rat) : JsonValue :=
  time.elim .null .float

/-- A text, or `null`. -/
def ofText (text : Option String) : JsonValue :=
  text.elim .null .string

end JsonValue

namespace Metrics

/-- `Metrics.snapshot` -/
def snapshot (metrics : Metrics) : List (String × JsonValue) :=
  ("role", .string metrics.role.name) ::
    Counter.all.map (fun counter =>
      (counter.key, .int (metrics.counts counter))) ++ [
    ("queued_messages", .int metrics.gauges.queuedMessages),
    ("inflight_messages", .int metrics.gauges.inflightMessages),
    ("congestion_window", .float metrics.gauges.congestionWindow),
    ("last_ack_rtt_ms", .ofTime metrics.gauges.lastAckRttMs),
    ("last_uplink_peer", .ofText metrics.gauges.lastUplinkPeer),
    ("last_downlink_source", .ofText metrics.gauges.lastDownlinkSource),
    ("last_uplink_at", .ofTime metrics.gauges.lastUplinkAt),
    ("last_downlink_at", .ofTime metrics.gauges.lastDownlinkAt),
    ("last_inner_at", .ofTime metrics.gauges.lastInnerAt),
    ("last_pong_at", .ofTime metrics.gauges.lastPongAt),
    ("last_rtt_ms", metrics.gauges.lastRttMs.elim .null .int)]

end Metrics

/-- An answer of the health server. -/
structure HealthAnswer where
  status : Nat
  body : JsonValue

namespace Metrics

variable (metrics : Metrics) (now timeoutSeconds : Rat)

/-- What `/status` answers. -/
def statusBody : JsonValue :=
  .object (metrics.snapshot ++
    [("healthy", .bool (metrics.isHealthy now timeoutSeconds))])

/-- `do_GET` of the health server. -/
def doGet (path : String) : HealthAnswer :=
  let healthy := metrics.isHealthy now timeoutSeconds
  if path = "/healthz" then
    { status := if healthy then 200 else 503
      body := .object [
        ("ok", .bool healthy), ("role", .string metrics.role.name)] }
  else if path = "/status" then
    { status := 200, body := metrics.statusBody now timeoutSeconds }
  else
    { status := 404, body := .object [("error", .string "not found")] }

end Metrics

/--
`get_status`: only a successful answer is read, anything else is an error of
the command.
-/
def getStatus (answer : Except Failure HealthAnswer) :
    Except Failure JsonValue :=
  match answer with
  | .ok { status, body } =>
      if 200 ≤ status ∧ status < 300 then
        .ok body
      else
        .error (.runtimeError "cannot read status endpoint")
  | .error failure =>
      if failure.isOsError then
        .error (.runtimeError "cannot read status endpoint")
      else
        .error failure

/-- `read_status`, up to the text it prints: the exit code. -/
def readStatus (answer : Except Failure HealthAnswer) :
    Except Failure Nat := do
  let data ← getStatus answer
  let healthy ← data.get "healthy" .null
  return if healthy.isTrue then 0 else 2

namespace LoadedConfig

/-- The source the downlink must come from, if one is configured. -/
def expectedSource : LoadedConfig → Option String
  | .iran config =>
      match config.expectedDownlinkSource with
      | .given source => if source = "" then none else some source
      | .absent _ => none
  | .foreign _ => none

/-- `int(data.get(key, 0))` -/
def countOf (data : JsonValue) (counter : Counter) :
    Except Failure Int := do
  (← data.get counter.key (.int 0)).toInt

/-- The checks of `verify`, in its order. -/
def checks (config : LoadedConfig) (data : JsonValue) :
    Except Failure (List (String × Bool)) := do
  let role ← data.get "role" .null
  let healthy ← data.get "healthy" .null
  let received ← countOf data (.packets config.common.role.receives)
  let frames ← countOf data .encryptedFramesRx
  let authFailures ← countOf data .authFailures
  let mismatches ← countOf data .sourceMismatchDrops
  let innerMismatches ← countOf data .innerSourceMismatchDrops
  let queueDrops ← countOf data .queueDrops
  let exhausted ← countOf data .retryExhausted
  let checks := [
    ("role_matches", role.equalsText config.common.role.name),
    ("healthy", healthy.isTrue),
    ("authenticated_traffic_seen", decide (0 < received)),
    ("encrypted_frames_seen", decide (0 < frames)),
    ("no_auth_failures", decide (authFailures = 0)),
    ("no_source_mismatches", decide (mismatches = 0)),
    ("no_inner_source_mismatches", decide (innerMismatches = 0)),
    ("no_queue_drops", decide (queueDrops = 0)),
    ("no_retry_exhaustion", decide (exhausted = 0))]
  match config.expectedSource with
  | none => return checks
  | some expected => do
      let source ← data.get "last_downlink_source" .null
      return checks ++ [("expected_source_seen", source.equalsText expected)]

/-- `verify`, up to the text it prints: the exit code. -/
def verify
    (config : LoadedConfig)
    (answer : Except Failure HealthAnswer) : Except Failure Nat := do
  let data ← getStatus answer
  let checks ← config.checks data
  return if checks.all Prod.snd then 0 else 2

end LoadedConfig

namespace Metrics

/-- A counter is found in the answer under its key. -/
theorem countOf_statusBody
    (metrics : Metrics)
    (now timeoutSeconds : Rat)
    (counter : Counter) :
    LoadedConfig.countOf (metrics.statusBody now timeoutSeconds) counter =
      .ok (metrics.counts counter) := by
  cases counter with
  | packets traffic | bytes traffic =>
      cases traffic <;> rfl
  | _ =>
      rfl

/-- What `verify` finds in the answer of a running agent. -/
theorem checks_statusBody
    (metrics : Metrics)
    (now timeoutSeconds : Rat)
    (config : LoadedConfig) :
    config.checks (metrics.statusBody now timeoutSeconds) = .ok ([
      ("role_matches",
        decide (metrics.role.name = config.common.role.name)),
      ("healthy", metrics.isHealthy now timeoutSeconds),
      ("authenticated_traffic_seen",
        decide (0 < (metrics.counts
          (.packets config.common.role.receives) : Int))),
      ("encrypted_frames_seen",
        decide (0 < (metrics.counts .encryptedFramesRx : Int))),
      ("no_auth_failures",
        decide ((metrics.counts .authFailures : Int) = 0)),
      ("no_source_mismatches",
        decide ((metrics.counts .sourceMismatchDrops : Int) = 0)),
      ("no_inner_source_mismatches",
        decide ((metrics.counts .innerSourceMismatchDrops : Int) = 0)),
      ("no_queue_drops",
        decide ((metrics.counts .queueDrops : Int) = 0)),
      ("no_retry_exhaustion",
        decide ((metrics.counts .retryExhausted : Int) = 0))] ++
      (config.expectedSource.map fun expected =>
        ("expected_source_seen",
          (JsonValue.ofText metrics.gauges.lastDownlinkSource).equalsText
            expected)).toList) := by
  have role :
      (metrics.statusBody now timeoutSeconds).get "role" .null =
        .ok (.string metrics.role.name) :=
    rfl
  have healthy :
      (metrics.statusBody now timeoutSeconds).get "healthy" .null =
        .ok (.bool (metrics.isHealthy now timeoutSeconds)) :=
    rfl
  have source :
      (metrics.statusBody now timeoutSeconds).get "last_downlink_source"
          .null =
        .ok (.ofText metrics.gauges.lastDownlinkSource) :=
    rfl
  unfold LoadedConfig.checks
  simp only [role, healthy, source, countOf_statusBody, ok_bind]
  cases config.expectedSource <;> rfl

end Metrics

/-- Counters `verify` wants to be zero. -/
def alarmCounters : List Counter := [
  .authFailures,
  .sourceMismatchDrops,
  .innerSourceMismatchDrops,
  .queueDrops,
  .retryExhausted]

/-- When `verify` accepts what a running agent answers. -/
theorem LoadedConfig.verify_doGet_iff
    (config : LoadedConfig)
    (metrics : Metrics)
    (now timeoutSeconds : Rat) :
    config.verify (.ok (metrics.doGet now timeoutSeconds "/status")) =
        .ok 0 ↔
      metrics.role.name = config.common.role.name ∧
        metrics.isHealthy now timeoutSeconds = true ∧
        metrics.counts (.packets config.common.role.receives) ≠ 0 ∧
        metrics.counts .encryptedFramesRx ≠ 0 ∧
        (∀ counter ∈ alarmCounters, metrics.counts counter = 0) ∧
        ∀ expected, config.expectedSource = some expected →
          metrics.gauges.lastDownlinkSource = some expected := by
  have answered :
      getStatus (.ok (metrics.doGet now timeoutSeconds "/status")) =
        .ok (metrics.statusBody now timeoutSeconds) :=
    rfl
  unfold verify
  rw [answered]
  simp only [ok_bind, metrics.checks_statusBody]
  have sourceSeen (expected : String) :
      (JsonValue.ofText metrics.gauges.lastDownlinkSource).equalsText
          expected = true ↔
        metrics.gauges.lastDownlinkSource = some expected := by
    cases metrics.gauges.lastDownlinkSource <;>
      simp [JsonValue.ofText, JsonValue.equalsText]
  have accepted (isAccepted : Bool) :
      (pure (if isAccepted then 0 else 2) : Except Failure Nat) = .ok 0 ↔
        isAccepted = true := by
    cases isAccepted <;> decide
  rw [accepted]
  cases config.expectedSource with
  | none =>
      simp [alarmCounters, Nat.pos_iff_ne_zero]
  | some expected =>
      simp [alarmCounters, Nat.pos_iff_ne_zero, and_assoc, sourceSeen]

/-- `status` accepts an agent exactly if it is healthy. -/
theorem readStatus_doGet
    (metrics : Metrics)
    (now timeoutSeconds : Rat) :
    readStatus (.ok (metrics.doGet now timeoutSeconds "/status")) =
      .ok (if metrics.isHealthy now timeoutSeconds then 0 else 2) :=
  rfl

/-- Counters of lost messages. -/
def Counter.isLoss : Counter → Bool
  | .queueDrops => true
  | .retryExhausted => true
  | _ => false

/-- Steps that can lose a message. -/
def Action.canLose : Action → Bool
  | .finishSend .. => true
  | .pump _ => true
  | _ => false

namespace Agent

/-- What goes wrong in a step, as the counter that shows it. -/
def alarm (agent : Agent) (action : Action) : Option Counter :=
  match action with
  | .finishSend messageId now _ =>
      match agent.sending.get? messageId with
      | some { remaining := [], packets } =>
          if agent.reliable then
            match (agent.sender.enqueue messageId packets now).2 with
            | .ok false => some .queueDrops
            | _ => none
          else
            none
      | _ => none
  | .pump now =>
      if agent.reliable then
        if (agent.sender.pump now).2.exhaustedMessages = 0 then
          none
        else
          some .retryExhausted
      else
        none
  | _ =>
      (agent.sorts action).filter fun counter => counter ∈ alarmCounters

theorem alarm_mem
    {agent : Agent}
    {action : Action}
    {counter : Counter}
    (isAlarm : agent.alarm action = some counter) :
    counter ∈ alarmCounters := by
  unfold alarm at isAlarm
  split at isAlarm
  · split at isAlarm
    · split at isAlarm
      · split at isAlarm <;> cases isAlarm
        decide
      · cases isAlarm
    · cases isAlarm
  · split at isAlarm
    · split at isAlarm <;> cases isAlarm
      decide
    · cases isAlarm
  · exact of_decide_eq_true (Option.filter_eq_some_iff.mp isAlarm).2

/-- Steps that lose nothing raise no alarm of a loss. -/
theorem alarm_ne_of_lossless
    (agent : Agent)
    {action : Action}
    (lossless : action.canLose = false)
    {counter : Counter}
    (isLoss : counter.isLoss = true) :
    agent.alarm action ≠ some counter := by
  intro isAlarm
  have sorted : agent.sorts action = some counter := by
    cases action with
    | finishSend | pump =>
        cases lossless
    | innerDatagram | receive =>
        exact (Option.filter_eq_some_iff.mp isAlarm).1
    | buildPacket | keepalive | cleanup =>
        cases isAlarm
  have sorting := sorts_mem sorted
  revert sorting
  cases counter <;> first | decide | cases isLoss

/-- The counters of alarms about what was read. -/
theorem alarm_eq_iff_sorts
    (agent : Agent)
    (action : Action)
    {counter : Counter}
    (isAlarm : counter ∈ alarmCounters)
    (sorting : counter ∈ sortingCounters) :
    agent.alarm action = some counter ↔
      agent.sorts action = some counter := by
  have notLoss :
      counter ≠ .queueDrops ∧ counter ≠ .retryExhausted := by
    constructor <;> rintro rfl <;> revert sorting <;> decide
  unfold alarm
  split
  · refine iff_of_false ?_ (by simp [sorts])
    split
    · split
      · split <;> simp [notLoss.1.symm]
      · simp
    · simp
  · refine iff_of_false ?_ (by simp [sorts])
    split
    · split <;> simp [notLoss.2.symm]
    · simp
  · rw [Option.filter_eq_some_iff]
    simp [isAlarm]

/-- Only finishing a message and `pump` can lose one. -/
theorem writesOnly_lossless
    (agent : Agent)
    (readings : Readings)
    {action : Action}
    (lossless : action.canLose = false) :
    WritesOnly (fun counter => !counter.isLoss)
      (agent.countedAct readings action).calls := by
  cases action with
  | innerDatagram payload source =>
      have takes := agent.countedInnerLoop_cases readings payload source
      simp only [countedAct]
      generalize agent.countedInnerLoop payload source readings = counted
        at takes
      cases takes with
      | ignored =>
          exact .increment rfl .nil
      | taken role sameSide refusal isRefusal =>
          refine .add rfl rfl (.set ?_)
          rcases isRefusal with rfl | rfl
          · exact .nil
          · exact .increment rfl .nil
  | buildPacket messageId clockMs =>
      simp only [countedAct, countedBuildPacket]
      split
      · exact .increment rfl .nil
      · exact .nil
  | keepalive surroundings =>
      simp only [countedAct, countedKeepalive]
      split
      · exact (agent.transmitCalls_sendControl surroundings readings
          none).writesOnly_of_nil.mono fun counter isTransport => by
            cases counter <;> first | rfl | cases isTransport
      · exact .nil
  | cleanup now =>
      simp only [countedAct, countedCleanup]
      split
      · refine .append ?_ (.set .nil)
        split
        · exact .nil
        · exact .increment rfl .nil
      · exact .nil
  | receive packet source surroundings =>
      have arrives :=
        agent.countedReceiveLoop_cases surroundings readings packet source
      exact arrives.writesOnly.mono fun counter isReception => by
        cases counter <;> first | rfl | cases isReception
  | finishSend | pump =>
      cases lossless

/-- A message lost raises the counter of its loss. -/
theorem total_loss
    (agent : Agent)
    (readings : Readings)
    (action : Action)
    {counter : Counter}
    (isLoss : counter = .queueDrops ∨ counter = .retryExhausted) :
    MetricCall.total counter (agent.countedAct readings action).calls = 0 ↔
      agent.alarm action ≠ some counter := by
  have transports
      {Sent : Type}
      (packet : Sent → Bytes)
      (retransmission : Sent → Bool)
      (items : List Sent) :
      MetricCall.total counter (items.flatMap fun item =>
        agent.role.side.transportCalls (packet item)
          (retransmission item) readings.sentAt) = 0 := by
    rcases isLoss with rfl | rfl <;>
      exact (WritesOnly.transports ..).total_eq_zero rfl
  cases lossless : action.canLose with
  | false =>
      have writes := agent.writesOnly_lossless readings lossless
      rcases isLoss with rfl | rfl <;>
        exact iff_of_true (writes.total_eq_zero rfl)
          (agent.alarm_ne_of_lossless lossless rfl)
  | true =>
      cases action with
      | innerDatagram | buildPacket | keepalive | cleanup | receive =>
          cases lossless
      | pump now =>
          simp only [countedAct, countedPump, alarm]
          by_cases reliable : agent.reliable = true
          · rw [if_pos reliable, if_pos reliable]
            by_cases noneLost :
                (agent.sender.pump now).2.exhaustedMessages = 0
            · simp [transports, noneLost]
            · rcases isLoss with rfl | rfl <;> simp [transports, noneLost]
          · rw [if_neg reliable, if_neg reliable]
            simp
      | finishSend messageId now failing =>
          simp only [countedAct, countedFinishSend, alarm]
          cases agent.sending.get? messageId with
          | none =>
              simp
          | some job =>
              obtain ⟨_ | ⟨fragment, rest⟩, packets⟩ := job
              · dsimp only
                by_cases reliable : agent.reliable = true
                · rw [if_pos reliable, if_pos reliable]
                  rcases isLoss with rfl | rfl <;>
                    rcases (agent.sender.enqueue messageId packets now).2
                      with _ | _ | _ <;> simp
                · rw [if_neg reliable, if_neg reliable]
                  rcases isLoss with rfl | rfl <;> simp [transports]
              · simp

/-- A counter of an alarm is raised by its alarm and by nothing else. -/
theorem total_alarm
    (agent : Agent)
    (readings : Readings)
    (action : Action)
    {counter : Counter}
    (isAlarm : counter ∈ alarmCounters) :
    MetricCall.total counter (agent.countedAct readings action).calls = 0 ↔
      agent.alarm action ≠ some counter := by
  have sorts
      (sorting : counter ∈ sortingCounters) :
      MetricCall.total counter
          (agent.countedAct readings action).calls = 0 ↔
        agent.alarm action ≠ some counter := by
    rw [agent.total_sorts readings action sorting, ne_eq,
      agent.alarm_eq_iff_sorts action isAlarm sorting]
    simp
  have isOne :
      counter = .authFailures ∨ counter = .sourceMismatchDrops ∨
        counter = .innerSourceMismatchDrops ∨ counter = .queueDrops ∨
        counter = .retryExhausted := by
    simpa [alarmCounters] using isAlarm
  rcases isOne with rfl | rfl | rfl | rfl | rfl
  · exact sorts (by decide)
  · exact sorts (by decide)
  · exact sorts (by decide)
  · exact agent.total_loss readings action (.inl rfl)
  · exact agent.total_loss readings action (.inr rfl)

end Agent

namespace Role

/-- The source packets must come from, if one was set. -/
def expectedSource : Role → Option String
  | .iran _ _ expectedDownlinkSource =>
      expectedDownlinkSource.filter fun expected => expected ≠ ""
  | .foreign _ => none

theorem host_of_listens
    {role : Role}
    {source : Address}
    (listens : role.listens source = true)
    {expected : String}
    (isExpected : role.expectedSource = some expected) :
    source.host = expected := by
  cases role with
  | iran innerPeer expectedPeer expectedDownlinkSource =>
      obtain ⟨rfl, notEmpty⟩ := Option.filter_eq_some_iff.mp isExpected
      simpa [Role.listens, sourceMismatch, of_decide_eq_true notEmpty]
        using listens
  | foreign innerPeerAddress =>
      cases isExpected

end Role

namespace Agent

theorem role_beginSend
    (agent : Agent)
    (payload : Bytes) :
    (agent.beginSend payload).agent.role = agent.role := by
  unfold beginSend
  dsimp only
  split <;> rfl

/-- No step changes where packets must come from. -/
theorem expectedSource_act
    (agent : Agent)
    (action : Action) :
    (agent.act action).agent.role.expectedSource =
      agent.role.expectedSource := by
  cases action with
  | innerDatagram payload source =>
      rw [act, innerLoop]
      split
      · rename_i roleShape
        split
        · rfl
        · rw [(catching_fields _ _).1, role_beginSend, roleShape]
          rfl
      · split
        · rfl
        · rw [(catching_fields _ _).1, role_beginSend]
  | buildPacket messageId clockMs =>
      rcases agent.buildPacket_cases messageId clockMs with
        shape | ⟨_, ⟨failure, shape⟩ | ⟨job, packet, _, shape⟩⟩ <;>
          rw [act, shape]
  | finishSend messageId now failing =>
      rw [act, finishSend]
      split
      · dsimp only
        split
        · rfl
        · split
          · rfl
          · split <;> rfl
      · rfl
  | keepalive surroundings =>
      rw [act, keepalive]
      split
      · rw [(catching_fields _ _).1, sendControl, role_transmit]
      · rfl
  | pump now =>
      rw [act, pump]
      split <;> rfl
  | cleanup now =>
      rw [act, cleanup]
      split <;> rfl
  | receive packet source surroundings =>
      simp only [act, receiveLoop, iranDownlinkLoop, foreignUplinkLoop]
      split
      · split
        · rfl
        · rw [role_receive]
      · rw [role_receive]

end Agent

namespace Station

/-- What went wrong in a run. -/
def alarms
    (station : Station)
    (inputs : List (Action × Readings)) : List Counter :=
  machine.labels (fun before input => before.party.agent.alarm input.1)
    station inputs

theorem counts_alarm_eq_zero_iff
    {station : Station}
    (fresh : station.metrics = { role := station.party.agent.role.side })
    (inputs : List (Action × Readings))
    {counter : Counter}
    (isAlarm : counter ∈ alarmCounters) :
    (machine.run station inputs).metrics.counts counter = 0 ↔
      counter ∉ station.alarms inputs := by
  have zero : station.metrics.counts counter = 0 := by
    rw [fresh]
    rfl
  rw [Machine.run_eq_zero_iff machine
    (fun before input => before.party.agent.alarm input.1) counter
    (fun before => before.metrics.counts counter)]
  · exact and_iff_right zero
  · exact fun before input =>
      ⟨_, counts_act before input.1 input.2 counter,
        before.party.agent.total_alarm input.2 input.1 isAlarm⟩

theorem alarms_eq_nil_iff
    (station : Station)
    (inputs : List (Action × Readings)) :
    station.alarms inputs = [] ↔
      ∀ counter ∈ alarmCounters, counter ∉ station.alarms inputs := by
  constructor
  · intro none counter _
    rw [none]
    exact List.not_mem_nil
  · intro noneOf
    refine List.eq_nil_iff_forall_not_mem.mpr fun counter member => ?_
    obtain ⟨_, input, _, _, isAlarm⟩ := Machine.exists_of_mem_labels member
    exact noneOf counter (Agent.alarm_mem isAlarm) member

end Station

/-- A configuration says what an agent of this role was started with. -/
structure LoadedConfig.Describes
    (config : LoadedConfig)
    (role : Role) : Prop where
  side : config.common.role = role.side
  source : config.expectedSource = role.expectedSource

/-- A frame is accepted from a source the loop listens to only. -/
theorem Agent.listens_of_accepted
    {agent : Agent}
    {packet : Bytes}
    {source : Address}
    {surroundings : Surroundings}
    {frame : Frame}
    (accepted :
      (agent.act (.receive packet source surroundings)).accepted =
        some frame) :
    agent.role.listens source = true := by
  simp only [act, receiveLoop, iranDownlinkLoop, foreignUplinkLoop]
    at accepted
  split at accepted
  · rename_i roleShape
    split at accepted
    · cases accepted
    · rename_i matching
      rw [roleShape, Role.listens, Bool.eq_false_iff.mpr matching]
      rfl
  · rename_i roleShape
    rw [roleShape]
    rfl

namespace Station

/-- Where packets must come from stays as it was set. -/
theorem expectedSource_run
    (station : Station)
    (inputs : List (Action × Readings)) :
    (machine.run station inputs).party.agent.role.expectedSource =
      station.party.agent.role.expectedSource := by
  induction inputs generalizing station with
  | nil =>
      rfl
  | cons input rest inductionHypothesis =>
      refine (inductionHypothesis _).trans ?_
      exact (congrArg
        (fun party : Party => party.agent.role.expectedSource)
        (party_act station input.1 input.2)).trans
          (station.party.agent.expectedSource_act input.1)

/-- Frames come from the source that was set, if one was. -/
theorem heardFrom_expected
    {station : Station}
    {inputs : List (Action × Readings)}
    {host : String}
    (heard : host ∈ station.heardFrom inputs)
    {expected : String}
    (isExpected : station.party.agent.role.expectedSource = some expected) :
    host = expected := by
  obtain ⟨earlier, input, _, _, isHeard⟩ :=
    Machine.exists_of_mem_labels heard
  obtain ⟨frame, accepted, rfl⟩ := Option.map_eq_some_iff.mp isHeard
  rw [← station.expectedSource_run earlier] at isExpected
  obtain ⟨action, _⟩ := input
  cases action with
  | receive packet source surroundings =>
      exact Role.host_of_listens (Agent.listens_of_accepted accepted)
        isExpected
  | innerDatagram | buildPacket | finishSend | keepalive | pump
    | cleanup =>
      rw [Agent.accepted_act _ rfl] at accepted
      cases accepted

/-- The counters of frames received say how many were heard. -/
theorem counts_heard
    (station : Station)
    (inputs : List (Action × Readings)) :
    (machine.run station inputs).metrics.counts .encryptedFramesRx =
        station.metrics.counts .encryptedFramesRx +
          (station.heard inputs).length ∧
      (machine.run station inputs).metrics.counts
          (.packets station.party.agent.role.side.receives) =
        station.metrics.counts
            (.packets station.party.agent.role.side.receives) +
          (station.heard inputs).length := by
  induction inputs generalizing station with
  | nil =>
      exact ⟨rfl, rfl⟩
  | cons input rest inductionHypothesis =>
      have later := inductionHypothesis (station.act input.1 input.2)
      have booked :=
        station.party.agent.isBooked_countedAct input.2 input.1
      have frames := booked.framesReceived
      have packets := booked.packetsReceived
      have sameLength :
          ((station.party.agent.act input.1).accepted.map
              fun _ => input.2.wall).toList.length =
            (station.party.agent.act input.1).accepted.toList.length := by
        cases (station.party.agent.act input.1).accepted <;> rfl
      rw [Effect.accepted_doings, Agent.effect_countedAct] at frames packets
      rw [side_act, counts_act, counts_act, frames, packets] at later
      have split :
          (station.heard (input :: rest)).length =
            (station.party.agent.act input.1).accepted.toList.length +
              ((station.act input.1 input.2).heard rest).length := by
        rw [heard, Machine.labels, List.length_append, sameLength]
        rfl
      rw [split, ← Nat.add_assoc, ← Nat.add_assoc]
      exact later

/-- Every `PONG` is a frame. -/
theorem ponged_subset_heard
    (station : Station)
    (inputs : List (Action × Readings)) :
    station.ponged inputs ⊆ station.heard inputs := by
  intro time member
  obtain ⟨earlier, input, later, rfl, isPonged⟩ :=
    Machine.exists_of_mem_labels member
  obtain ⟨frame, isPong, rfl⟩ := Option.map_eq_some_iff.mp isPonged
  exact Machine.mem_labels (Option.map_eq_some_iff.mpr
    ⟨frame, (Option.filter_eq_some_iff.mp isPong).1, rfl⟩)

/-- Every frame comes from a host. -/
theorem heardFrom_ne_nil
    {station : Station}
    {inputs : List (Action × Readings)}
    (heard : station.heard inputs ≠ []) :
    station.heardFrom inputs ≠ [] := by
  obtain ⟨time, member⟩ := List.exists_mem_of_ne_nil _ heard
  obtain ⟨earlier, input, later, rfl, isHeard⟩ :=
    Machine.exists_of_mem_labels member
  obtain ⟨frame, accepted, _⟩ := Option.map_eq_some_iff.mp isHeard
  exact List.ne_nil_of_mem (Machine.mem_labels
    (Option.map_eq_some_iff.mpr ⟨frame, accepted, rfl⟩))

/-- An agent that is healthy has heard from its peer. -/
theorem heard_of_isHealthy
    {station : Station}
    (fresh : station.metrics = { role := station.party.agent.role.side })
    {inputs : List (Action × Readings)}
    {now timeoutSeconds : Rat}
    (healthy :
      (machine.run station inputs).metrics.isHealthy now timeoutSeconds =
        true) :
    station.heard inputs ≠ [] := by
  obtain ⟨_, sameRole, hearing⟩ := hearing_run fresh inputs
  intro none
  have nonePonged : station.ponged inputs = [] := by
    have subset := station.ponged_subset_heard inputs
    rwa [none, List.subset_nil] at subset
  unfold Metrics.isHealthy at healthy
  rw [sameRole] at healthy
  rw [none, nonePonged] at hearing
  cases sideShape : station.party.agent.role.side with
  | iran =>
      rw [sideShape] at hearing healthy
      obtain ⟨frame, pong, _, _⟩ := Hearing.mk.inj hearing
      simp [frame, pong] at healthy
  | foreign =>
      rw [sideShape] at hearing healthy
      obtain ⟨frame, _, _, _⟩ := Hearing.mk.inj hearing
      simp [frame] at healthy

/--
After every run of a process just started, `verify` accepts the answer of its
`/status` exactly if the agent is healthy and nothing went wrong in the run:
no packet was forged or from a wrong source, and no message was lost.
-/
theorem verify_accepts_iff
    {station : Station}
    (fresh : station.metrics = { role := station.party.agent.role.side })
    {config : LoadedConfig}
    (describes : config.Describes station.party.agent.role)
    (inputs : List (Action × Readings))
    (now timeoutSeconds : Rat) :
    config.verify (.ok ((machine.run station inputs).metrics.doGet now
        timeoutSeconds "/status")) = .ok 0 ↔
      (machine.run station inputs).metrics.isHealthy now timeoutSeconds =
          true ∧
        station.alarms inputs = [] := by
  have noAlarm
      (counter : Counter)
      (isAlarm : counter ∈ alarmCounters) :=
    counts_alarm_eq_zero_iff fresh inputs isAlarm
  rw [config.verify_doGet_iff, alarms_eq_nil_iff]
  constructor
  · rintro ⟨_, healthy, _, _, zero, _⟩
    exact ⟨healthy, fun counter isAlarm =>
      (noAlarm counter isAlarm).mp (zero counter isAlarm)⟩
  · rintro ⟨healthy, noneOf⟩
    obtain ⟨_, sameRole, hearing⟩ := hearing_run fresh inputs
    obtain ⟨frames, packets⟩ := station.counts_heard inputs
    have someHeard := heard_of_isHealthy fresh healthy
    have heard := List.length_pos_iff.mpr someHeard
    refine ⟨?_, healthy, ?_, ?_, ?_, ?_⟩
    · rw [sameRole, describes.side]
    · rw [describes.side, packets]
      omega
    · rw [frames]
      omega
    · exact fun counter isAlarm =>
        (noAlarm counter isAlarm).mpr (noneOf counter isAlarm)
    · intro expected isExpected
      rw [describes.source] at isExpected
      have isLast :=
        List.getLast?_eq_some_getLast (heardFrom_ne_nil someHeard)
      have fromExpected :=
        heardFrom_expected (List.mem_of_getLast? isLast) isExpected
      cases roleShape : station.party.agent.role with
      | iran innerPeer expectedPeer expectedDownlinkSource =>
          rw [roleShape] at hearing
          obtain ⟨_, _, _, source⟩ := Hearing.mk.inj hearing
          rw [source, ← fromExpected, ← isLast]
          rfl
      | foreign innerPeerAddress =>
          rw [roleShape] at isExpected
          cases isExpected

/-- A configuration of the Iran agent that expects no source. -/
def anySource : LoadedConfig := .iran {
  role := .iran
  tunnelId := List.replicate 16 1
  sharedSecret := List.replicate 32 2
  healthListen := ("127.0.0.1", 9080)
  metricsFile := "/var/lib/h3ntun/metrics.json"
  fecEnabled := false
  reliable := true
  innerListen := ("127.0.0.1", 5000)
  uplinkBind := ("0.0.0.0", 0)
  foreignUplink := ("192.0.2.1", 443)
  downlinkListen := ("0.0.0.0", 8443)
  expectedDownlinkSource := .absent .null
  expectedInnerPeer := .absent .null
  replayStateFile := none
}

theorem verify_accepts_iff_one_frame :
    anySource.verify (.ok ((machine.run (plain .iran) hearOne).metrics.doGet
      5 20 "/status")) = .ok 0 :=
  (verify_accepts_iff rfl ⟨rfl, rfl⟩ hearOne 5 20).mpr
    (by decide +kernel)

end Station

end H3ntun
