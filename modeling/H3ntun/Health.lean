import H3ntun.Delivery
import H3ntun.MetricsLedger
import Mathlib.Data.List.Induction
import Mathlib.Tactic.Linarith

namespace H3ntun

/-!
# The health of an agent

An agent is healthy while the latest frame it accepted is not older than the
timeout.  Nothing else makes it healthy: not what it sends itself, and not a
packet that is forged, replayed or from a wrong source.
-/

namespace Metrics

/-- `is_healthy`; a time of zero counts as none. -/
def isHealthy (metrics : Metrics) (now timeoutSeconds : Rat) : Bool :=
  let last :=
    match metrics.role with
    | .iran =>
        (metrics.gauges.lastPongAt.toList ++
          metrics.gauges.lastDownlinkAt.toList).max?
    | .foreign => metrics.gauges.lastUplinkAt
  last.any fun last => last ≠ 0 ∧ now - last ≤ timeoutSeconds

end Metrics

/--
When a frame, and when a `PONG`, was received for the last time, how long the
round trip took, and where the frame came from, of which the foreign agent
only keeps a text.
-/
structure Hearing where
  frame : Option Time := none
  pong : Option Time := none
  rttMs : Option Int := none
  source : Option String := none
  deriving Repr, DecidableEq

/-- The values of the metrics that tell what an agent has heard. -/
def Gauges.hearing (side : Side) (gauges : Gauges) : Hearing :=
  match side with
  | .iran => {
      frame := gauges.lastDownlinkAt
      pong := gauges.lastPongAt
      rttMs := gauges.lastRttMs
      source := gauges.lastDownlinkSource
    }
  | .foreign => { frame := gauges.lastUplinkAt }

/-- Host a packet comes from. -/
def Action.host : Action → String
  | .receive _ source _ => source.host
  | _ => ""

/-- Round trip time shown for a `PONG`, in milliseconds. -/
def Frame.roundTrip (frame : Frame) (wall : Time) : Int :=
  max 0 (⌊wall * 1000⌋ - frame.timestampMs)

/-- What a step that may have accepted a frame changes about them. -/
def Hearing.after
    (side : Side)
    (hearing : Hearing)
    (wall : Time)
    (host : String)
    (accepted : Option Frame) : Hearing :=
  match accepted with
  | none => hearing
  | some frame => {
      frame := some wall
      pong :=
        if side = .iran ∧ frame.kind = .pong then
          some wall
        else
          hearing.pong
      rttMs :=
        if side = .iran ∧ frame.kind = .pong then
          some (frame.roundTrip wall)
        else
          hearing.rttMs
      source := if side = .iran then some host else none
    }

/-- Settings that change these values. -/
def Setting.isHearing : Side → Setting → Bool
  | .iran, .lastDownlinkAt _ => true
  | .iran, .lastPongAt _ => true
  | .iran, .lastRttMs _ => true
  | .iran, .lastDownlinkSource _ => true
  | .foreign, .lastUplinkAt _ => true
  | _, _ => false

namespace MetricCall

/-- Metric calls that do not change these values. -/
def silent (side : Side) (calls : List MetricCall) : Bool :=
  calls.all fun call =>
    call.settings.all fun setting => !setting.isHearing side

variable {side : Side}

@[simp] theorem silent_nil : silent side [] = true :=
  rfl

@[simp] theorem silent_append
    (first later : List MetricCall) :
    silent side (first ++ later) =
      (silent side first && silent side later) :=
  List.all_append

@[simp] theorem silent_add
    (traffic : Traffic)
    (byteCount : Nat)
    (rest : List MetricCall) :
    silent side (.add traffic byteCount :: rest) = silent side rest :=
  rfl

@[simp] theorem silent_increment
    (counter : Counter)
    (amount : Nat)
    (rest : List MetricCall) :
    silent side (.increment counter amount :: rest) = silent side rest :=
  rfl

@[simp] theorem silent_transportCalls
    (packet : Bytes)
    (retransmission : Bool)
    (sentAt : Time) :
    silent side (side.transportCalls packet retransmission sentAt) =
      true := by
  cases side <;> cases retransmission <;> rfl

theorem silent_transports
    {Sent : Type}
    (packet : Sent → Bytes)
    (retransmission : Sent → Bool)
    (sentAt : Time)
    (items : List Sent) :
    silent side (items.flatMap fun item =>
      side.transportCalls (packet item) (retransmission item) sentAt) =
      true := by
  induction items with
  | nil =>
      rfl
  | cons item rest inductionHypothesis =>
      rw [List.flatMap_cons, silent_append, silent_transportCalls,
        inductionHypothesis]
      rfl

end MetricCall

theorem TransmitCalls.silent
    {side : Side}
    {sentAt : Time}
    {last calls : List MetricCall}
    (transmits : TransmitCalls side sentAt last calls)
    (isLast : last = [] ∨ last = [.increment .acksTx 1]) :
    MetricCall.silent side calls = true := by
  cases transmits with
  | failed =>
      rfl
  | sent packet retransmission =>
      rcases isLast with rfl | rfl <;> simp

theorem Gauges.hearing_update
    {side : Side}
    {setting : Setting}
    (notHearing : setting.isHearing side = false)
    (gauges : Gauges) :
    (gauges.update setting).hearing side = gauges.hearing side := by
  cases side <;> cases setting <;> first | rfl | cases notHearing

/-- Silent calls keep the values. -/
theorem Metrics.hearing_performAll
    {side : Side}
    {calls : List MetricCall}
    (silent : MetricCall.silent side calls = true)
    (metrics : Metrics) :
    (metrics.performAll calls).gauges.hearing side =
      metrics.gauges.hearing side := by
  have quiet :
      ∀ setting ∈ calls.flatMap MetricCall.settings,
        setting.isHearing side = false := by
    intro setting member
    obtain ⟨call, inCalls, inSettings⟩ := List.mem_flatMap.mp member
    have callSilent := List.all_eq_true.mp silent call inCalls
    have settingSilent := List.all_eq_true.mp callSilent setting inSettings
    simpa using settingSilent
  rw [Metrics.gauges_performAll]
  generalize calls.flatMap MetricCall.settings = settings at quiet
  generalize metrics.gauges = gauges
  induction settings generalizing gauges with
  | nil =>
      rfl
  | cons setting rest inductionHypothesis =>
      obtain ⟨notHearing, restQuiet⟩ := List.forall_mem_cons.mp quiet
      rw [List.foldl_cons, inductionHypothesis restQuiet,
        Gauges.hearing_update notHearing]

namespace Agent

variable {agent : Agent}

/-- A frame that is no `PONG` of interest changes no time once accepted. -/
theorem Dispatches.silent
    {frame : Frame}
    {surroundings : Surroundings}
    {readings : Readings}
    {counted : Counted}
    (dispatched :
      agent.Dispatches frame surroundings readings counted)
    (notPong : ¬ (agent.role.side = .iran ∧ frame.kind = .pong)) :
    MetricCall.silent agent.role.side counted.calls = true := by
  have fragments
      (side : Side)
      (result : ReassemblyResult) :
      MetricCall.silent side (fragmentCalls result) = true := by
    unfold fragmentCalls
    cases result.duplicate <;> cases result.recoveredByFec <;> rfl
  cases dispatched with
  | ignored | staleAck | unknownAck | rejected =>
      rfl
  | acknowledged messageId inFlight latency =>
      cases latency with
      | none =>
          rfl
      | some milliseconds =>
          cases agent.role.side <;> rfl
  | pong isIran isPong =>
      exact absurd ⟨isIran, isPong⟩ notPong
  | answered isForeign isPing calls transmits =>
      exact transmits.silent (.inl rfl)
  | stored isData result | kept isData result =>
      exact fragments _ result
  | delivered isData result answer payload hasPayload acked isAck calls
      transmits =>
      have settings :
          MetricCall.silent agent.role.side
            (agent.role.side.handedOverSettings readings.wall) =
              true := by
        cases agent.role.side <;> rfl
      simp [fragments, settings, transmits.silent (.inr rfl)]

/-- A `PONG` the Iran agent accepts sets the time of the last one. -/
theorem countedDispatch_pong
    (agent : Agent)
    {frame : Frame}
    (isIran : agent.role.side = .iran)
    (isPong : frame.kind = .pong)
    (surroundings : Surroundings)
    (readings : Readings) :
    (agent.countedDispatch frame surroundings readings).calls = [
      .set [
        .lastPongAt readings.wall,
        .lastRttMs (max 0
          (⌊readings.wall * 1000⌋ - frame.timestampMs))]] := by
  unfold countedDispatch countedHandleAck countedHandleControl
  cases roleShape : agent.role with
  | iran innerPeer expectedPeer expectedSource =>
      simp [Role.side, Side.kinds, isPong]
  | foreign innerPeerAddress =>
      rw [roleShape] at isIran
      cases isIran

/-- Steps that accept no frame are silent. -/
theorem silent_calls
    (agent : Agent)
    (readings : Readings)
    {action : Action}
    (notReceive : action.isReceive = false) :
    MetricCall.silent agent.role.side
      (agent.countedAct readings action).calls = true := by
  cases action with
  | receive packet source surroundings =>
      cases notReceive
  | innerDatagram payload source =>
      have takes := agent.countedInnerLoop_cases readings payload source
      simp only [countedAct]
      generalize agent.countedInnerLoop payload source readings = counted
        at takes
      cases takes with
      | ignored =>
          rfl
      | taken role sameSide refusal isRefusal =>
          rcases isRefusal with rfl | rfl <;>
            cases agent.role.side <;> rfl
  | buildPacket messageId clockMs =>
      simp only [countedAct, countedBuildPacket]
      split <;> rfl
  | finishSend messageId now failing =>
      simp only [countedAct, countedFinishSend]
      split
      · rw [MetricCall.silent_append]
        split
        · split <;> rfl
        · exact (Bool.true_and _).trans
            (MetricCall.silent_transports ..)
      · rfl
  | keepalive surroundings =>
      simp only [countedAct, countedKeepalive]
      split
      · exact (agent.transmitCalls_sendControl surroundings readings
          none).silent (.inl rfl)
      · rfl
  | pump now =>
      simp only [countedAct, countedPump]
      split
      · rw [MetricCall.silent_append, MetricCall.silent_transports]
        split <;> rfl
      · rfl
  | cleanup now =>
      simp only [countedAct, countedCleanup]
      split
      · rw [MetricCall.silent_append]
        split <;> cases agent.role.side <;> rfl
      · rfl

end Agent

namespace Metrics

theorem performAll_append
    (metrics : Metrics)
    (first later : List MetricCall) :
    metrics.performAll (first ++ later) =
      (metrics.performAll first).performAll later :=
  List.foldl_append

/-- One of several positive times is recent if their maximum is. -/
theorem recent_iff
    {times : List Time}
    (positive : ∀ time ∈ times, 0 < time)
    {now timeoutSeconds : Rat} :
    (times.max?.any fun last =>
        last ≠ 0 ∧ now - last ≤ timeoutSeconds) = true ↔
      ∃ time ∈ times, now - time ≤ timeoutSeconds := by
  cases largest : times.max? with
  | none =>
      simp [List.max?_eq_none_iff.mp largest]
  | some last =>
      obtain ⟨member, above⟩ := List.max?_eq_some_iff.mp largest
      have notZero := (positive last member).ne'
      simp only [Option.any_some, decide_eq_true_eq]
      constructor
      · exact fun recent => ⟨last, member, recent.2⟩
      · rintro ⟨time, inTimes, recent⟩
        exact ⟨notZero, by linarith [above time inTimes]⟩

end Metrics

/-- What a receive loop accepts is what sets the times. -/
theorem Agent.Arrives.hearing
    {agent : Agent}
    {packet : Bytes}
    {source : Address}
    {surroundings : Surroundings}
    {readings : Readings}
    {counted : Counted}
    (arrives :
      agent.Arrives packet source surroundings readings counted)
    (metrics : Metrics) :
    (metrics.performAll counted.calls).gauges.hearing agent.role.side =
      (metrics.gauges.hearing agent.role.side).after agent.role.side
        readings.wall source.host counted.effect.accepted := by
  cases arrives with
  | mismatched | undecoded | replayed =>
      exact Metrics.hearing_performAll rfl metrics
  | repeated listens frame decoded refuses calls transmits =>
      have idle :
          ((sendAck { agent with
            replay :=
              (agent.replay.accept frame.sequence frame.sessionId).1
            reassembler :=
              (agent.reassembler.isCompleted frame.sessionId
                frame.messageId surroundings.now).1 }
            frame surroundings).catching Failure.isOsError).Idle :=
        (idle_transmit _ _ surroundings).catching _
      rw [idle.accepted]
      refine Metrics.hearing_performAll ?_ metrics
      rw [MetricCall.silent_increment]
      exact transmits.silent (.inr rfl)
  | accepted listens frame decoded accepts inner dispatched isDispatch =>
      rw [Metrics.performAll_append]
      have received :
          (metrics.performAll [
              .add agent.role.side.receives packet.length,
              .increment .encryptedFramesRx 1,
              .set (agent.role.side.receivedSettings source
                readings.wall)]).gauges.hearing agent.role.side =
            { metrics.gauges.hearing agent.role.side with
              frame := some readings.wall
              source :=
                if agent.role.side = .iran then
                  some source.host
                else
                  none } := by
        cases agent.role.side <;> rfl
      by_cases isPong : agent.role.side = .iran ∧ frame.kind = .pong
      · have calls :=
          countedDispatch_pong { agent with
            replay :=
              (agent.replay.accept frame.sequence frame.sessionId).1 }
            isPong.1 isPong.2 surroundings readings
        rw [isDispatch, calls]
        simp only [Hearing.after, if_pos isPong]
        rw [isPong.1] at received ⊢
        exact congrArg
          (fun hearing : Hearing =>
            { hearing with
              pong := some readings.wall
              rttMs := some (frame.roundTrip readings.wall) }) received
      · have silent := dispatched.silent isPong
        rw [Metrics.hearing_performAll silent, received, Hearing.after,
          if_neg isPong, if_neg isPong]

/-- Only a receive loop accepts frames. -/
theorem Agent.accepted_act
    (agent : Agent)
    {action : Action}
    (notReceive : action.isReceive = false) :
    (agent.act action).accepted = none := by
  cases action with
  | receive packet source surroundings =>
      cases notReceive
  | innerDatagram payload source =>
      rw [act]
      obtain ignored | ⟨role, _, begun⟩ :=
        agent.innerLoop_cases payload source
      · rw [ignored]
      · rw [begun, (catching_fields _ _).2.2.2.2.1]
        exact (beginSend_doings _ payload).2.1
  | buildPacket | finishSend | keepalive | pump | cleanup =>
      exact (agent.idle_act rfl rfl).accepted

/-- One step changes the times as what it accepts says. -/
theorem Station.hearing_act
    (station : Station)
    (action : Action)
    (readings : Readings) :
    (station.act action readings).metrics.gauges.hearing
        station.party.agent.role.side =
      (station.metrics.gauges.hearing station.party.agent.role.side).after
        station.party.agent.role.side readings.wall action.host
        (station.party.agent.act action).accepted := by
  rw [metrics_act]
  by_cases isReceive : action.isReceive = true
  · cases action with
    | receive packet source surroundings =>
        have arrives :=
          station.party.agent.countedReceiveLoop_cases surroundings
            readings packet source
        rw [← station.party.agent.effect_countedAct readings]
        exact arrives.hearing station.metrics
    | innerDatagram | buildPacket | finishSend | keepalive | pump
      | cleanup =>
        cases isReceive
  · rw [Bool.not_eq_true] at isReceive
    have silent :=
      station.party.agent.silent_calls readings isReceive
    rw [Metrics.hearing_performAll silent,
      station.party.agent.accepted_act isReceive]
    rfl

namespace Station

/-- When the frames of a run were accepted. -/
def heard
    (station : Station)
    (inputs : List (Action × Readings)) : List Time :=
  machine.labels
    (fun before input =>
      (before.party.agent.act input.1).accepted.map fun _ => input.2.wall)
    station inputs

/-- When the `PONG`s of a run were accepted. -/
def ponged
    (station : Station)
    (inputs : List (Action × Readings)) : List Time :=
  machine.labels
    (fun before input =>
      ((before.party.agent.act input.1).accepted.filter fun frame =>
        frame.kind = .pong).map fun _ => input.2.wall)
    station inputs

/-- Round trip times of the `PONG`s of a run. -/
def roundTrips
    (station : Station)
    (inputs : List (Action × Readings)) : List Int :=
  machine.labels
    (fun before input =>
      ((before.party.agent.act input.1).accepted.filter fun frame =>
        frame.kind = .pong).map fun frame =>
          frame.roundTrip input.2.wall)
    station inputs

/-- Hosts the frames of a run came from. -/
def heardFrom
    (station : Station)
    (inputs : List (Action × Readings)) : List String :=
  machine.labels
    (fun before input =>
      (before.party.agent.act input.1).accepted.map fun _ => input.1.host)
    station inputs

/-- The times that decide about the health of an agent. -/
def latest
    (station : Station)
    (inputs : List (Action × Readings)) : List Time :=
  match station.party.agent.role.side with
  | .iran =>
      (station.ponged inputs).getLast?.toList ++
        (station.heard inputs).getLast?.toList
  | .foreign => (station.heard inputs).getLast?.toList

/-- The metrics hold what the latest frame and the latest `PONG` set. -/
theorem hearing_run
    {station : Station}
    (fresh : station.metrics = { role := station.party.agent.role.side })
    (inputs : List (Action × Readings)) :
    (machine.run station inputs).party.agent.role.side =
        station.party.agent.role.side ∧
      (machine.run station inputs).metrics.role =
        station.party.agent.role.side ∧
      (machine.run station inputs).metrics.gauges.hearing
          station.party.agent.role.side = {
        frame := (station.heard inputs).getLast?
        pong :=
          if station.party.agent.role.side = .iran then
            (station.ponged inputs).getLast?
          else
            none
        rttMs :=
          if station.party.agent.role.side = .iran then
            (station.roundTrips inputs).getLast?
          else
            none
        source :=
          if station.party.agent.role.side = .iran then
            (station.heardFrom inputs).getLast?
          else
            none } := by
  induction inputs using List.reverseRecOn with
  | nil =>
      refine ⟨rfl, ?_, ?_⟩ <;> simp only [Machine.run, fresh]
      cases station.party.agent.role.side <;> rfl
  | append_singleton earlier input inductionHypothesis =>
      obtain ⟨sameSide, sameRole, hearing⟩ := inductionHypothesis
      rw [Machine.run_concat]
      have step :=
        hearing_act (machine.run station earlier) input.1 input.2
      rw [sameSide, hearing] at step
      refine ⟨?_, ?_, step.trans ?_⟩
      · exact (side_act _ input.1 input.2).trans sameSide
      · exact (Metrics.role_performAll _ _).trans sameRole
      · unfold heard ponged roundTrips heardFrom at *
        rw [Machine.labels_concat, Machine.labels_concat,
          Machine.labels_concat, Machine.labels_concat]
        cases ((machine.run station earlier).party.agent.act
            input.1).accepted with
        | none =>
            simp [Hearing.after]
        | some frame =>
            by_cases isIran : station.party.agent.role.side = .iran <;>
              by_cases isPong : frame.kind = .pong <;>
                simp [Hearing.after, isIran, isPong, Option.filter]

/--
After every run of a process just started, whose clock reads positive times,
the agent is healthy exactly if the latest frame it accepted, or in Iran the
latest `PONG`, is not older than the timeout.
-/
theorem healthy_iff_heard
    {station : Station}
    (fresh : station.metrics = { role := station.party.agent.role.side })
    (inputs : List (Action × Readings))
    (positive : ∀ input ∈ inputs, 0 < input.2.wall)
    (now timeoutSeconds : Rat) :
    (machine.run station inputs).metrics.isHealthy now timeoutSeconds =
        true ↔
      ∃ time ∈ station.latest inputs, now - time ≤ timeoutSeconds := by
  obtain ⟨_, sameRole, hearing⟩ := hearing_run fresh inputs
  have heardPositive : ∀ time ∈ station.heard inputs, 0 < time := by
    intro time member
    obtain ⟨_, input, _, rfl, isHeard⟩ :=
      Machine.exists_of_mem_labels member
    obtain ⟨_, _, rfl⟩ := Option.map_eq_some_iff.mp isHeard
    exact positive input (by simp)
  have pongedPositive : ∀ time ∈ station.ponged inputs, 0 < time := by
    intro time member
    obtain ⟨_, input, _, rfl, isPonged⟩ :=
      Machine.exists_of_mem_labels member
    obtain ⟨_, _, rfl⟩ := Option.map_eq_some_iff.mp isPonged
    exact positive input (by simp)
  have latestPositive : ∀ time ∈ station.latest inputs, 0 < time := by
    intro time member
    have among :
        time ∈ station.ponged inputs ∨ time ∈ station.heard inputs := by
      unfold latest at member
      split at member
      · rcases List.mem_append.mp member with isPonged | isHeard
        · exact .inl
            (List.mem_of_getLast? (Option.mem_toList.mp isPonged))
        · exact .inr (List.mem_of_getLast? (Option.mem_toList.mp isHeard))
      · exact .inr (List.mem_of_getLast? (Option.mem_toList.mp member))
    exact among.elim (pongedPositive time) (heardPositive time)
  rw [← Metrics.recent_iff latestPositive]
  unfold Metrics.isHealthy latest
  rw [sameRole]
  cases sideShape : station.party.agent.role.side with
  | iran =>
      rw [sideShape] at hearing
      obtain ⟨frame, pong, _, _⟩ := Hearing.mk.inj hearing
      simp only [↓reduceIte] at pong
      dsimp only
      rw [frame, pong]
  | foreign =>
      rw [sideShape] at hearing
      obtain ⟨frame, _, _, _⟩ := Hearing.mk.inj hearing
      dsimp only
      rw [frame]
      cases (station.heard inputs).getLast? <;> rfl

/-- The Iran agent receives a packet of its peer. -/
def hearOne : List (Action × Readings) := [
  (.receive World.onePacket { host := "192.0.2.1", port := 443 }
    { nowMs := 1200, clockMs := 1200, now := 0 },
    { wall := 1, sentAt := 1 })]

theorem healthy_iff_heard_one_frame :
    (machine.run (plain .iran) hearOne).metrics.isHealthy 5 20 = true :=
  (healthy_iff_heard rfl hearOne (by decide +kernel) 5 20).mpr
    (by decide +kernel)

end Station

end H3ntun
