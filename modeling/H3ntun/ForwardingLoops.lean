import H3ntun.Configuration
import H3ntun.SenderBounds
import H3ntun.SenderQueues
import H3ntun.SendPath

namespace H3ntun

/-!
# The forwarding loops

`inner_loop` of both agents as whole iterations, between and during which
other threads act.  An iteration catches `ProtocolError` only; any other
exception ends the loop.
-/

/-- Steps of threads other than the one that forwards datagrams. -/
def Action.IsElsewhere : Action → Prop
  | .innerDatagram .. => False
  | .buildPacket .. => False
  | .finishSend .. => False
  | _ => True

/-- The counters of the metrics that `inner_loop` increments. -/
structure InnerMetrics where
  sending : SendMetrics := {}
  innerSourceMismatchDrops : Nat := 0
  oversizeDrops : Nat := 0
  deriving Repr, DecidableEq

/-- Whether and why the loop has ended. -/
inductive LoopStatus where
  | running
  /-- `stop` was set. -/
  | stopped
  /-- The inner socket failed. -/
  | closed
  | crashed (failure : Failure)
  deriving Repr, DecidableEq

/-- What the loop meets. -/
inductive LoopInput where
  /-- A step of another thread, between two iterations. -/
  | elsewhere (action : Action)
  | stopSet
  | timeout
  | socketError
  | datagram (payload : Bytes) (source : Address) (passage : Passage)

/-- An agent whose inner loop has been started. -/
structure InnerLoop where
  agent : Agent
  metrics : InnerMetrics := {}
  status : LoopStatus := .running

namespace InnerLoop

/-- The end of an iteration, from `send_data` on. -/
def forward
    (loop : InnerLoop)
    (payload : Bytes)
    (passage : Passage) : InnerLoop :=
  let result :=
    loop.agent.sendData loop.metrics.sending
      loop.agent.role.side.sentData payload passage
  let sending := { loop.metrics with sending := result.metrics }
  match result.answer with
  | .ok _ => { loop with agent := result.agent, metrics := sending }
  | .error (.protocolError _) =>
      { loop with
        agent := result.agent
        metrics := { sending with
          oversizeDrops := sending.oversizeDrops + 1 } }
  | .error failure =>
      { agent := result.agent
        metrics := sending
        status := .crashed failure }

/-- An iteration that drops its datagram. -/
def drop (loop : InnerLoop) : InnerLoop :=
  { loop with
    metrics := { loop.metrics with
      innerSourceMismatchDrops :=
        loop.metrics.innerSourceMismatchDrops + 1 } }

/-- One iteration of `IranAgent.inner_loop`. -/
def iranInnerLoop
    (loop : InnerLoop)
    (expectedInnerPeer : Option Address)
    (expectedDownlinkSource : Option String)
    (payload : Bytes)
    (source : Address)
    (passage : Passage) : InnerLoop :=
  if expectedInnerPeer.any (· ≠ source) then
    loop.drop
  else
    { loop with
      agent := { loop.agent with
        role :=
          .iran (some source) expectedInnerPeer
            expectedDownlinkSource } }.forward payload passage

/-- One iteration of `ForeignAgent.inner_loop`. -/
def foreignInnerLoop
    (loop : InnerLoop)
    (innerPeerAddress : Address)
    (payload : Bytes)
    (source : Address)
    (passage : Passage) : InnerLoop :=
  if source ≠ innerPeerAddress then
    loop.drop
  else
    loop.forward payload passage

/-- One iteration of the inner loop of an agent. -/
def iterate
    (loop : InnerLoop)
    (payload : Bytes)
    (source : Address)
    (passage : Passage) : InnerLoop :=
  match loop.agent.role with
  | .iran _ expectedInnerPeer expectedDownlinkSource =>
      loop.iranInnerLoop expectedInnerPeer expectedDownlinkSource payload
        source passage
  | .foreign innerPeerAddress =>
      loop.foreignInnerLoop innerPeerAddress payload source passage

/-- A loop that has ended meets nothing more. -/
def whileRunning (loop after : InnerLoop) : InnerLoop :=
  if loop.status = .running then after else loop

/-- One turn of the loop, or what happens between its turns. -/
def step (loop : InnerLoop) : LoopInput → InnerLoop
  | .elsewhere action =>
      { loop with agent := (loop.agent.act action).agent }
  | .stopSet => loop.whileRunning { loop with status := .stopped }
  | .timeout => loop
  | .socketError => loop.whileRunning { loop with status := .closed }
  | .datagram payload source passage =>
      loop.whileRunning (loop.iterate payload source passage)

/-- The loop meeting one thing after the other. -/
def machine : Machine InnerLoop LoopInput LoopStatus where
  step loop input := (loop.step input, (loop.step input).status)

/-- An exception has left the loop. -/
def Crashed (loop : InnerLoop) : Prop :=
  ∃ failure, loop.status = .crashed failure

end InnerLoop

/-- Whether the inner loop drops datagrams from a source. -/
def Role.ignores (role : Role) (source : Address) : Bool :=
  match role with
  | .iran _ expectedInnerPeer _ => expectedInnerPeer.any (· ≠ source)
  | .foreign innerPeerAddress => source ≠ innerPeerAddress

/--
The payload is too long, the message identifiers have run out, or the
counters fit and the packets are enqueued or all sent.
-/
def Agent.SendsCleanly
    (agent : Agent)
    (payload : Bytes)
    (passage : Passage) : Prop :=
  maxMessageSize < payload.length ∨
    2 ^ 64 ≤ agent.messageId + 1 ∨
    (TurnsFit agent.sequence passage.turns
        (fragmentTotal payload.length agent.fragmentPayloadBytes
          agent.fecEnabled) ∧
      (agent.reliable = true ∨
        ∀ position ∈ passage.failing,
          fragmentTotal payload.length agent.fragmentPayloadBytes
            agent.fecEnabled ≤ position))

/-- A datagram met in the loop is dropped or sent cleanly. -/
def InnerLoop.Survives (loop : InnerLoop) : LoopInput → Prop
  | .datagram payload source passage =>
      loop.status = .running →
        loop.agent.role.ignores source = true ∨
          loop.agent.SendsCleanly payload passage
  | _ => True

/-- Steps of other threads are steps of other threads. -/
def LoopInput.RespectsThreads : LoopInput → Prop
  | .elsewhere action => action.IsElsewhere
  | .datagram _ _ passage =>
      ∀ action ∈ passage.meanwhile, action.IsElsewhere
  | _ => True

namespace ReliableSender

/-- The messages a sender knows are distinct and not beyond a bound. -/
structure KnowsAtMost (sender : ReliableSender) (bound : Nat) : Prop where
  distinct :
    sender.Distinct
  ids :
    ∀ messageId ∈ sender.queuedIds ++ sender.inFlightIds,
      messageId ≤ bound

namespace KnowsAtMost

variable {sender : ReliableSender} {bound : Nat}

theorem of_empty
    (queue : sender.queue = [])
    (pending : sender.pending = .empty) :
    sender.KnowsAtMost bound where
  distinct := .of_empty queue pending
  ids messageId member := by
    rw [queuedIds, inFlightIds, queue, pending] at member
    cases member

theorem mono
    (knows : sender.KnowsAtMost bound)
    {larger : Nat}
    (atMost : bound ≤ larger) :
    sender.KnowsAtMost larger :=
  ⟨knows.distinct, fun messageId member =>
    (knows.ids messageId member).trans atMost⟩

theorem acknowledge
    (knows : sender.KnowsAtMost bound)
    (messageId : Nat)
    (now : Time) :
    (sender.acknowledge messageId now).1.KnowsAtMost bound := by
  refine ⟨knows.distinct.acknowledge messageId now, ?_⟩
  rcases sender.acknowledge_cases messageId now with
    ⟨_, shape⟩ | ⟨_, _, shape⟩
  · rw [shape]
    exact knows.ids
  · rw [shape]
    intro other member
    refine knows.ids other ?_
    rcases List.mem_append.mp member with queued | inFlight
    · exact List.mem_append_left _ queued
    · exact List.mem_append_right _
        (OrderedDict.mem_keys_of_erase inFlight).1

theorem pump
    (knows : sender.KnowsAtMost bound)
    (now : Time) :
    (sender.pump now).1.KnowsAtMost bound := by
  have pumps := sender.pumps knows.distinct now
  refine ⟨knows.distinct.pump now, ?_⟩
  have ids :
      sender.queuedIds =
        (sender.started now).map Transmission.messageId ++
          (sender.pump now).1.queuedIds := by
    rw [queuedIds, pumps.queue]
    exact List.map_append
  intro messageId member
  refine knows.ids messageId ?_
  rw [pumps.inFlightIds] at member
  rw [ids]
  rcases List.mem_append.mp member with queued | inFlight
  · exact List.mem_append_left _ (List.mem_append_right _ queued)
  · rcases List.mem_append.mp inFlight with left | isStarted
    · exact List.mem_append_right _
        ((keys_leftInFlight sender now).subset left)
    · exact List.mem_append_left _ (List.mem_append_left _ isStarted)

/-- A message beyond the bound is enqueued without an exception. -/
theorem enqueue
    (knows : sender.KnowsAtMost bound)
    {messageId : Nat}
    (isNew : bound < messageId)
    {packets : List Bytes}
    (notEmpty : packets ≠ [])
    (now : Time) :
    (sender.enqueue messageId packets now).1.KnowsAtMost messageId ∧
      ∃ queued, (sender.enqueue messageId packets now).2 = .ok queued := by
  have unknown :
      messageId ∉ sender.queuedIds ++ sender.inFlightIds :=
    fun member => absurd (knows.ids messageId member) (Nat.not_le.mpr isNew)
  have notDuplicate :
      ¬ (sender.pending.contains messageId = true ∨
        sender.queue.any (·.messageId = messageId) = true) := by
    rintro (inFlight | queued)
    · exact unknown
        (List.mem_append_right _ (OrderedDict.contains_iff.mp inFlight))
    · obtain ⟨transmission, member, same⟩ := List.any_eq_true.mp queued
      refine unknown (List.mem_append_left _ ?_)
      rw [← of_decide_eq_true same]
      exact List.mem_map_of_mem member
  refine ⟨⟨knows.distinct.enqueue messageId packets now, ?_⟩, ?_⟩
  · intro other member
    rcases sender.enqueue_cases messageId packets now with
      ⟨same, _⟩ | ⟨_, _, shape⟩
    · rw [same] at member
      exact (knows.ids other member).trans isNew.le
    · rw [shape, queuedIds, List.map_append, List.append_assoc] at member
      rcases List.mem_append.mp member with queued | rest
      · exact (knows.ids other (List.mem_append_left _ queued)).trans
          isNew.le
      · rcases List.mem_append.mp rest with isAdded | inFlight
        · exact (List.mem_singleton.mp isAdded).le
        · exact (knows.ids other (List.mem_append_right _ inFlight)).trans
            isNew.le
  · rw [ReliableSender.enqueue, if_neg notEmpty]
    by_cases full :
        sender.queue.length + sender.pending.length ≥
          sender.maxPendingMessages
    · rw [if_pos full]
      exact ⟨false, rfl⟩
    · rw [if_neg full, if_neg notDuplicate]
      exact ⟨true, rfl⟩

end KnowsAtMost

end ReliableSender

theorem SendState.Step.messageId_le
    {before after : SendState}
    {sealed : Option Bytes}
    {begun : Option (Nat × Bytes)}
    (taken : before.Step after sealed begun) :
    before.messageId ≤ after.messageId := by
  cases taken with
  | refuse payload =>
      exact Nat.le_succ _
  | begin payload fragments fragmented =>
      exact Nat.le_succ _
  | nothing => exact le_rfl
  | control origin => exact le_rfl
  | abort messageId => exact le_rfl
  | build messageId spec remaining packets clockMs packet unfinished encoded =>
      exact le_rfl
  | finish messageId => exact le_rfl

namespace Agent

/-- What steps of other threads leave as the forwarding thread knows it. -/
structure LeavesSending (after before : Agent) : Prop where
  reliable :
    after.reliable = before.reliable
  fragmentPayloadBytes :
    after.fragmentPayloadBytes = before.fragmentPayloadBytes
  messageId :
    before.messageId ≤ after.messageId
  sender :
    ∀ bound,
      before.sender.KnowsAtMost bound → after.sender.KnowsAtMost bound

theorem LeavesSending.trans
    {first second third : Agent}
    (later : third.LeavesSending second)
    (earlier : second.LeavesSending first) :
    third.LeavesSending first where
  reliable := later.reliable.trans earlier.reliable
  fragmentPayloadBytes :=
    later.fragmentPayloadBytes.trans earlier.fragmentPayloadBytes
  messageId := earlier.messageId.trans later.messageId
  sender bound knows := later.sender bound (earlier.sender bound knows)

/-- A reply frees at most a message. -/
theorem LeavesSending.of_replies
    {agent : Agent}
    {action : Action}
    (replies : (agent.act action).Replies agent) :
    (agent.act action).agent.LeavesSending agent := by
  have sends := agent.sends_act action
  obtain ⟨reply, _, sameMode⟩ := replies
  refine ⟨sameMode, sends.sameSettings.1, sends.messageId_le, ?_⟩
  intro bound knows
  generalize shape : (agent.act action).agent.outbox = after at reply
  have sameSender := congrArg Outbox.sender shape
  simp only [outbox] at sameSender
  rw [sameSender]
  cases reply with
  | nothing =>
      exact knows
  | acknowledge messageId now =>
      exact knows.acknowledge messageId now

theorem leavesSending_act
    {action : Action}
    (isElsewhere : action.IsElsewhere)
    (agent : Agent) :
    (agent.act action).agent.LeavesSending agent := by
  cases action with
  | innerDatagram payload source => exact isElsewhere.elim
  | buildPacket messageId clockMs => exact isElsewhere.elim
  | finishSend messageId now failing => exact isElsewhere.elim
  | keepalive surroundings =>
      exact .of_replies (replies_keepalive agent surroundings)
  | pump now =>
      have sends := agent.sends_act (.pump now)
      refine ⟨?_, sends.sameSettings.1, sends.messageId_le, ?_⟩
      · simp only [act, Agent.pump]
        split <;> rfl
      · intro bound knows
        simp only [act, Agent.pump]
        split
        · exact knows.pump now
        · exact knows
  | cleanup now =>
      exact .of_replies (replies_cleanup agent now)
  | receive packet source surroundings =>
      exact .of_replies
        (replies_receiveLoop agent surroundings packet source)

theorem leavesSending_afterActions
    {actions : List Action}
    (elsewhere : ∀ action ∈ actions, action.IsElsewhere)
    (agent : Agent) :
    (agent.afterActions actions).LeavesSending agent := by
  induction actions generalizing agent with
  | nil =>
      exact ⟨rfl, rfl, le_rfl, fun _ knows => knows⟩
  | cons action rest inductionHypothesis =>
      obtain ⟨isElsewhere, restElsewhere⟩ :=
        List.forall_mem_cons.mp elsewhere
      exact (inductionHypothesis restElsewhere
        (agent.act action).agent).trans
          (leavesSending_act isElsewhere agent)

/-- What one call of `send_data` leaves to the next ones, and raises. -/
structure Sends
    (agent : Agent)
    (payload : Bytes)
    (passage : Passage)
    (result : SendResult) : Prop where
  fragmentPayloadBytes :
    result.agent.fragmentPayloadBytes = agent.fragmentPayloadBytes
  sender :
    result.agent.sender.KnowsAtMost result.agent.messageId
  cleanly :
    (∀ failure, result.answer = .error failure →
        failure.isProtocolError = true) ↔
      agent.SendsCleanly payload passage

theorem fragmentTotal_pos
    (length fragmentPayloadBytes : Nat)
    (fecEnabled : Bool) :
    0 < fragmentTotal length fragmentPayloadBytes fecEnabled := by
  have positive : 0 < pieceCount length fragmentPayloadBytes := by
    simp [pieceCount]
  unfold fragmentTotal
  dsimp only
  split <;> omega

/-- Without message identifiers left, the first fragment is refused. -/
theorem encodeFragments_of_large_id
    (codec : FrameCodec)
    (kind : FrameKind)
    (sequence : Nat)
    (turns : Nat → Turn)
    {messageId : Nat}
    {specs : List FragmentSpec}
    (notEmpty : specs ≠ [])
    (large : 2 ^ 64 ≤ messageId) :
    ∃ message,
      (codec.encodeFragments kind messageId sequence turns specs).2 =
        .error (.protocolError message) := by
  cases specs with
  | nil =>
      exact absurd rfl notEmpty
  | cons spec rest =>
      have broken :
          ¬ (codec.requestHeader (turns 0).clockMs
            (spec.request kind messageId
              (sequence + (turns 0).elsewhere + 1))).EncodeRules := by
        intro rules
        have small := rules.messageId.2
        simp only [FrameCodec.requestHeader, FragmentSpec.request] at small
        omega
      obtain ⟨message, refused⟩ := FrameCodec.encode_of_not_rules broken
      refine ⟨message, ?_⟩
      simp only [FrameCodec.encodeFragments, refused]

/-- The packets of a message are enqueued, all sent, or one raises. -/
theorem sendPackets_spec
    {agent : Agent}
    {bound messageId : Nat}
    {packets : List Bytes}
    (knows : agent.sender.KnowsAtMost bound)
    (isNew : bound < messageId)
    (notBeyond : messageId ≤ agent.messageId)
    (notEmpty : packets ≠ [])
    (metrics : SendMetrics)
    (now : Time)
    (failing : Option Nat) :
    (agent.sendPackets metrics messageId packets now
        failing).agent.fragmentPayloadBytes = agent.fragmentPayloadBytes ∧
      (agent.sendPackets metrics messageId packets now
        failing).agent.sender.KnowsAtMost
          (agent.sendPackets metrics messageId packets now
            failing).agent.messageId ∧
      ((∀ failure,
          (agent.sendPackets metrics messageId packets now
            failing).answer = .error failure →
          failure.isProtocolError = true) ↔
        agent.reliable = true ∨
          ∀ position ∈ failing, packets.length ≤ position) := by
  have sameKnows : agent.sender.KnowsAtMost agent.messageId :=
    knows.mono (isNew.le.trans notBeyond)
  by_cases reliable : agent.reliable = true
  · obtain ⟨added, queued, enqueued⟩ :=
      knows.enqueue isNew notEmpty now
    generalize outcome :
      agent.sender.enqueue messageId packets now = pair
        at added enqueued
    obtain ⟨sender, answer⟩ := pair
    simp only at added enqueued
    subst enqueued
    simp only [sendPackets, reliable, ↓reduceIte, outcome]
    exact ⟨trivial, added.mono notBeyond, by simp⟩
  · cases failing with
    | none =>
        simp only [sendPackets, reliable, Bool.false_eq_true, ↓reduceIte]
        exact ⟨trivial, sameKnows, by simp⟩
    | some position =>
        simp only [sendPackets, reliable, Bool.false_eq_true, ↓reduceIte]
        by_cases inside : position < packets.length
        · rw [if_pos inside]
          refine ⟨rfl, sameKnows, ?_⟩
          simp [Failure.isProtocolError, inside]
        · rw [if_neg inside]
          refine ⟨rfl, sameKnows, ?_⟩
          simp only [reduceCtorEq, false_implies, implies_true, false_or,
            Option.mem_def, Option.some.injEq, true_iff]
          rintro other rfl
          exact Nat.le_of_not_lt inside

/-- A message that cannot be encoded leaves the sender alone. -/
theorem sends_of_refused
    {agent : Agent}
    {kind : FrameKind}
    {payload : Bytes}
    {passage : Passage}
    {fragments : List FragmentSpec}
    {failure : Failure}
    (knows : agent.sender.KnowsAtMost agent.messageId)
    (fragmented :
      fragmentMessage payload agent.fragmentPayloadBytes
        agent.fecEnabled = .ok fragments)
    (refused :
      (agent.codec.encodeFragments kind (agent.messageId + 1)
        agent.sequence passage.turns fragments).2 = .error failure)
    (cleanly :
      failure.isProtocolError = true ↔ agent.SendsCleanly payload passage)
    (metrics : SendMetrics) :
    agent.Sends payload passage
      (agent.sendData metrics kind payload passage) := by
  have shape :
      agent.sendData metrics kind payload passage =
        { agent := { agent with
            messageId := agent.messageId + 1
            sequence :=
              (agent.codec.encodeFragments kind (agent.messageId + 1)
                agent.sequence passage.turns fragments).1 }
          metrics := metrics
          answer := .error failure } := by
    simp only [sendData, buildDataPackets, fragmented, refused, Except.map]
  rw [shape]
  refine ⟨rfl, knows.mono (Nat.le_succ _), ?_⟩
  rw [← cleanly]
  simp

/-- The packets of an encoded message are what remains to be sent. -/
theorem sends_of_encoded
    {agent : Agent}
    {kind : FrameKind}
    {payload : Bytes}
    {passage : Passage}
    {fragments : List FragmentSpec}
    {packets : List Bytes}
    (knows : agent.sender.KnowsAtMost agent.messageId)
    (elsewhere : ∀ action ∈ passage.meanwhile, action.IsElsewhere)
    (fragmented :
      fragmentMessage payload agent.fragmentPayloadBytes
        agent.fecEnabled = .ok fragments)
    (encoded :
      (agent.codec.encodeFragments kind (agent.messageId + 1)
        agent.sequence passage.turns fragments).2 = .ok packets)
    (notEmpty : packets ≠ [])
    (cleanly :
      (agent.reliable = true ∨
          ∀ position ∈ passage.failing, packets.length ≤ position) ↔
        agent.SendsCleanly payload passage)
    (metrics : SendMetrics) :
    agent.Sends payload passage
      (agent.sendData metrics kind payload passage) := by
  generalize builtShape :
    { agent with
      messageId := agent.messageId + 1
      sequence :=
        (agent.codec.encodeFragments kind (agent.messageId + 1)
          agent.sequence passage.turns fragments).1 } = built
  have shape :
      agent.sendData metrics kind payload passage =
        (built.afterActions passage.meanwhile).sendPackets metrics
          (agent.messageId + 1) packets passage.now passage.failing := by
    rw [← builtShape]
    simp only [sendData, buildDataPackets, fragmented, encoded, Except.map]
  have leaves := leavesSending_afterActions elsewhere built
  have builtKnows : built.sender.KnowsAtMost agent.messageId := by
    rw [← builtShape]
    exact knows
  have notBeyond :
      agent.messageId + 1 ≤
        (built.afterActions passage.meanwhile).messageId := by
    refine le_trans (le_of_eq ?_) leaves.messageId
    rw [← builtShape]
  have sameMode :
      (built.afterActions passage.meanwhile).reliable = agent.reliable := by
    rw [leaves.reliable, ← builtShape]
  obtain ⟨sameSize, sender, raises⟩ :=
    sendPackets_spec (leaves.sender _ builtKnows) (Nat.lt_succ_self _)
      notBeyond notEmpty metrics passage.now passage.failing
  rw [sameMode] at raises
  rw [shape]
  refine ⟨?_, sender, raises.trans cleanly⟩
  rw [sameSize, leaves.fragmentPayloadBytes, ← builtShape]

/-- Every call of `send_data` in range raises as its condition says. -/
theorem sends_sendData
    {agent : Agent}
    {kind : FrameKind}
    (sizeInRange :
      256 ≤ agent.fragmentPayloadBytes ∧
        agent.fragmentPayloadBytes ≤ maxFragmentPayload)
    (knows : agent.sender.KnowsAtMost agent.messageId)
    (isData : kind.isData = true)
    (metrics : SendMetrics)
    (payload : Bytes)
    {passage : Passage}
    (elsewhere : ∀ action ∈ passage.meanwhile, action.IsElsewhere) :
    agent.Sends payload passage
      (agent.sendData metrics kind payload passage) := by
  by_cases long : maxMessageSize < payload.length
  · rw [sendData_of_long sizeInRange long]
    refine ⟨rfl, knows.mono (Nat.le_succ _), ?_⟩
    simp only [Except.error.injEq, forall_eq', SendsCleanly, long,
      true_or, iff_true]
    rfl
  · let message : Message := {
      payload := payload
      fragmentPayloadBytes := agent.fragmentPayloadBytes
      fecEnabled := agent.fecEnabled
      sizeInRange := sizeInRange
      payloadFits := Nat.le_of_not_lt long
    }
    have total :
        message.fragments.length =
          fragmentTotal payload.length agent.fragmentPayloadBytes
            agent.fecEnabled :=
      message.length_fragments
    have notEmpty : message.fragments ≠ [] := by
      rw [← List.length_pos_iff, total]
      exact fragmentTotal_pos _ _ _
    have fragmented :
        fragmentMessage payload agent.fragmentPayloadBytes
          agent.fecEnabled = .ok message.fragments :=
      message.fragmentMessage_eq
    by_cases large : 2 ^ 64 ≤ agent.messageId + 1
    · obtain ⟨text, refused⟩ :=
        encodeFragments_of_large_id agent.codec kind agent.sequence
          passage.turns notEmpty large
      exact sends_of_refused knows fragmented refused
        ⟨fun _ => .inr (.inl large), fun _ => rfl⟩ metrics
    · have fits : agent.messageId + 1 < 2 ^ 64 := Nat.lt_of_not_le large
      by_cases turnsFit :
          TurnsFit agent.sequence passage.turns message.fragments.length
      · obtain ⟨frames, encoded, specs, _⟩ :
            ∃ frames : List Frame,
              (agent.codec.encodeFragments kind (agent.messageId + 1)
                  agent.sequence passage.turns message.fragments).2 =
                  .ok (frames.map
                    (Frame.wire agent.codec.primitives
                      agent.codec.aead)) ∧
                frames.map Frame.spec = message.fragments ∧
                ∀ frame ∈ frames,
                  agent.codec.SendsFrame kind (agent.messageId + 1)
                    frame :=
          FrameCodec.encodeFragments_of_fit (fun _ member => member)
            isData fits turnsFit
        have count :
            (frames.map (Frame.wire agent.codec.primitives
              agent.codec.aead)).length = message.fragments.length := by
          rw [← specs, List.length_map, List.length_map]
        refine sends_of_encoded knows elsewhere fragmented encoded ?_ ?_
          metrics
        · rw [← List.length_pos_iff, count, List.length_pos_iff]
          exact notEmpty
        · rw [count, SendsCleanly, ← total]
          constructor
          · intro sends
            exact .inr (.inr ⟨turnsFit, sends⟩)
          · rintro (isLong | isLarge | ⟨_, sends⟩)
            · exact absurd isLong long
            · exact absurd isLarge large
            · exact sends
      · have raises :
            (agent.codec.encodeFragments kind (agent.messageId + 1)
              agent.sequence passage.turns message.fragments).2 =
              .error .structError :=
          FrameCodec.encodeFragments_of_not_fit (fun _ member => member)
            isData fits turnsFit
        refine sends_of_refused knows fragmented raises ⟨?_, ?_⟩ metrics
        · intro impossible
          cases impossible
        · rintro (isLong | isLarge | ⟨fit, _⟩)
          · exact absurd isLong long
          · exact absurd isLarge large
          · rw [← total] at fit
            exact absurd fit turnsFit

end Agent

namespace InnerLoop

/-- What every iteration finds and leaves, unless an exception ends it. -/
structure Sound (loop : InnerLoop) : Prop where
  intact :
    ¬ loop.Crashed
  size :
    256 ≤ loop.agent.fragmentPayloadBytes ∧
      loop.agent.fragmentPayloadBytes ≤ maxFragmentPayload
  sender :
    loop.agent.sender.KnowsAtMost loop.agent.messageId

variable {loop : InnerLoop} {payload : Bytes} {passage : Passage}

theorem sentData_isData
    (side : Side) :
    side.sentData.isData = true := by
  cases side <;> rfl

/-- Any exception but `ProtocolError` leaves an iteration. -/
theorem crashed_forward_iff
    (isRunning : loop.status = .running) :
    (loop.forward payload passage).Crashed ↔
      ¬ ∀ failure,
        (loop.agent.sendData loop.metrics.sending
          loop.agent.role.side.sentData payload
            passage).answer = .error failure →
          failure.isProtocolError = true := by
  unfold Crashed InnerLoop.forward
  generalize
    loop.agent.sendData loop.metrics.sending
      loop.agent.role.side.sentData payload passage = result
  obtain ⟨agent, metrics, sent, answer⟩ := result
  cases answer with
  | ok queued =>
      simp [isRunning]
  | error failure =>
      cases failure <;> simp [isRunning, Failure.isProtocolError]

theorem agent_forward
    (loop : InnerLoop)
    (payload : Bytes)
    (passage : Passage) :
    (loop.forward payload passage).agent =
      (loop.agent.sendData loop.metrics.sending
        loop.agent.role.side.sentData payload passage).agent := by
  unfold InnerLoop.forward
  dsimp only
  split <;> rfl

/-- The end of an iteration that found the loop running. -/
theorem Sound.forward
    (sound : loop.Sound)
    (isRunning : loop.status = .running)
    (elsewhere : ∀ action ∈ passage.meanwhile, action.IsElsewhere) :
    (¬ (loop.forward payload passage).Crashed ↔
        loop.agent.SendsCleanly payload passage) ∧
      (loop.agent.SendsCleanly payload passage →
        (loop.forward payload passage).Sound) := by
  have sends :=
    Agent.sends_sendData sound.size sound.sender
      (sentData_isData loop.agent.role.side) loop.metrics.sending payload
      elsewhere
  have survives_iff :
      ¬ (loop.forward payload passage).Crashed ↔
        loop.agent.SendsCleanly payload passage := by
    rw [crashed_forward_iff isRunning, not_not]
    exact sends.cleanly
  refine ⟨survives_iff, fun cleanly => ?_⟩
  refine ⟨survives_iff.mpr cleanly, ?_, ?_⟩
  · rw [agent_forward, sends.fragmentPayloadBytes]
    exact sound.size
  · rw [agent_forward]
    exact sends.sender

/-- A whole iteration: the datagram is dropped, or sent. -/
theorem Sound.iterate
    (sound : loop.Sound)
    (isRunning : loop.status = .running)
    (payload : Bytes)
    (source : Address)
    (elsewhere : ∀ action ∈ passage.meanwhile, action.IsElsewhere) :
    (¬ (loop.iterate payload source passage).Crashed ↔
        loop.agent.role.ignores source = true ∨
          loop.agent.SendsCleanly payload passage) ∧
      (loop.agent.role.ignores source = true ∨
          loop.agent.SendsCleanly payload passage →
        (loop.iterate payload source passage).Sound) := by
  have dropped : loop.drop.Sound :=
    ⟨sound.intact, sound.size, sound.sender⟩
  cases roleShape : loop.agent.role with
  | iran innerPeer expectedInnerPeer expectedDownlinkSource =>
      simp only [InnerLoop.iterate, roleShape, iranInnerLoop,
        Role.ignores]
      by_cases other : expectedInnerPeer.any (· ≠ source) = true
      · simp only [other, ↓reduceIte, true_or, iff_true, forall_const]
        exact ⟨dropped.intact, dropped⟩
      · simp only [other, ↓reduceIte, Bool.false_eq_true, false_or]
        have learns :
            { loop with
              agent := { loop.agent with
                role :=
                  .iran (some source) expectedInnerPeer
                    expectedDownlinkSource } }.Sound :=
          ⟨sound.intact, sound.size, sound.sender⟩
        exact learns.forward isRunning elsewhere
  | foreign innerPeerAddress =>
      simp only [InnerLoop.iterate, roleShape, foreignInnerLoop,
        Role.ignores, decide_eq_true_eq]
      by_cases same : source = innerPeerAddress
      · simp only [same, ne_eq, not_true_eq_false, ↓reduceIte, false_or]
        exact sound.forward isRunning elsewhere
      · simp only [same, ne_eq, not_false_eq_true, ↓reduceIte, true_or,
          iff_true, forall_const]
        exact ⟨dropped.intact, dropped⟩

/-- A loop may end for a reason of its own. -/
theorem Sound.ends
    (sound : loop.Sound)
    {status : LoopStatus}
    (reason : ∀ failure, status ≠ .crashed failure) :
    (loop.whileRunning { loop with status := status }).Sound := by
  unfold whileRunning
  split
  · refine ⟨?_, sound.size, sound.sender⟩
    rintro ⟨failure, crashed⟩
    exact reason failure crashed
  · exact sound

/-- Steps that cannot crash the loop keep it sound. -/
theorem step_of_survives
    {input : LoopInput}
    (always : loop.Survives input)
    (after : (loop.step input).Sound) :
    (¬ (loop.step input).Crashed ↔ loop.Survives input) ∧
      (loop.Survives input → (loop.step input).Sound) :=
  ⟨iff_of_true after.intact always, fun _ => after⟩

/-- One step of the loop crashes exactly if it does not survive. -/
theorem Sound.step
    (sound : loop.Sound)
    {input : LoopInput}
    (respects : input.RespectsThreads) :
    (¬ (loop.step input).Crashed ↔ loop.Survives input) ∧
      (loop.Survives input → (loop.step input).Sound) := by
  cases input with
  | elsewhere action =>
      have leaves := Agent.leavesSending_act respects loop.agent
      refine step_of_survives trivial ⟨sound.intact, ?_, ?_⟩
      · exact leaves.fragmentPayloadBytes.symm ▸ sound.size
      · exact (leaves.sender _ sound.sender).mono leaves.messageId
  | stopSet =>
      exact step_of_survives trivial
        (sound.ends fun _ impossible => by cases impossible)
  | timeout =>
      exact step_of_survives trivial sound
  | socketError =>
      exact step_of_survives trivial
        (sound.ends fun _ impossible => by cases impossible)
  | datagram payload source passage =>
      by_cases isRunning : loop.status = .running
      · have iterates := sound.iterate isRunning payload source respects
        simp only [InnerLoop.step, whileRunning, isRunning, ↓reduceIte,
          Survives, forall_const]
        exact iterates
      · refine step_of_survives (fun running => absurd running isRunning)
          ?_
        simp only [InnerLoop.step, whileRunning, isRunning, ↓reduceIte]
        exact sound

/-- A loop that has crashed does not come back. -/
theorem Crashed.step
    (crashed : loop.Crashed)
    (input : LoopInput) :
    (loop.step input).Crashed := by
  obtain ⟨failure, status⟩ := crashed
  have notRunning : loop.status ≠ .running := by
    rw [status]
    exact fun impossible => by cases impossible
  cases input <;>
    simp only [InnerLoop.step, whileRunning, notRunning, ↓reduceIte] <;>
    exact ⟨failure, status⟩

/-- An iteration leaves the loop running or crashes it. -/
theorem running_or_crashed_iterate
    (isRunning : loop.status = .running)
    (payload : Bytes)
    (source : Address)
    (passage : Passage) :
    (loop.iterate payload source passage).status = .running ∨
      (loop.iterate payload source passage).Crashed := by
  have forwarded :
      ∀ other : InnerLoop,
        other.status = .running →
        (other.forward payload passage).status = .running ∨
          (other.forward payload passage).Crashed := by
    intro other running
    unfold InnerLoop.forward
    dsimp only
    split
    · exact .inl running
    · exact .inl running
    · exact .inr ⟨_, rfl⟩
  unfold InnerLoop.iterate iranInnerLoop foreignInnerLoop
  split <;> split
  · exact .inl isRunning
  · exact forwarded _ isRunning
  · exact .inl isRunning
  · exact forwarded loop isRunning

/-- A loop that has ended was stopped, lost its socket or crashed. -/
theorem ended_for_a_reason
    (isRunning : loop.status = .running)
    {inputs : List LoopInput}
    (ended : (machine.run loop inputs).status ≠ .running) :
    .stopSet ∈ inputs ∨ .socketError ∈ inputs ∨
      (machine.run loop inputs).Crashed := by
  induction inputs generalizing loop with
  | nil =>
      exact absurd isRunning ended
  | cons input rest inductionHypothesis =>
      have later :
          (loop.step input).status = .running →
          .stopSet ∈ input :: rest ∨ .socketError ∈ input :: rest ∨
            (machine.run loop (input :: rest)).Crashed := by
        intro stillRunning
        rcases inductionHypothesis stillRunning ended with
          stopped | closed | crashed
        · exact .inl (List.mem_cons_of_mem _ stopped)
        · exact .inr (.inl (List.mem_cons_of_mem _ closed))
        · exact .inr (.inr crashed)
      cases input with
      | elsewhere action =>
          exact later isRunning
      | stopSet =>
          exact .inl List.mem_cons_self
      | timeout =>
          exact later isRunning
      | socketError =>
          exact .inr (.inl List.mem_cons_self)
      | datagram payload source passage =>
          have after :
              loop.step (.datagram payload source passage) =
                loop.iterate payload source passage :=
            if_pos isRunning
          rcases running_or_crashed_iterate isRunning payload source
              passage with stillRunning | crashed
          · exact later (after ▸ stillRunning)
          · have stepCrashed :
                (loop.step (.datagram payload source passage)).Crashed :=
              after ▸ crashed
            exact .inr (.inr (machine.run_invariant Crashed
              (fun _ input before => before.step input) stepCrashed
              rest))

/--
For every configuration that is accepted, every agent built from it and every
run of its inner loop, with other threads acting in between: no exception
leaves the loop if and only if every datagram it meets is dropped for its
source, or is too long, or finds its counters in range and is enqueued or sent
without an error.  Without an exception the loop ends only when it is stopped
or its socket fails.
-/
theorem inner_loop_survives_iff
    {common : CommonSettings}
    {agent : Agent}
    (accepted : common.checkLimits = .ok ())
    (size :
      (agent.fragmentPayloadBytes : Int) = common.fragmentPayloadBytes)
    (sender : common.sender = .ok agent.sender)
    (inputs : List LoopInput)
    (respects : ∀ input ∈ inputs, input.RespectsThreads) :
    (machine.EveryStep
        (fun before input => ¬ (before.step input).Crashed)
        { agent := agent } inputs ↔
      machine.EveryStep Survives { agent := agent } inputs) ∧
      ((machine.run { agent := agent } inputs).status ≠ .running →
        .stopSet ∈ inputs ∨ .socketError ∈ inputs ∨
          (machine.run { agent := agent } inputs).Crashed) := by
  have sizeInRange :
      256 ≤ common.fragmentPayloadBytes ∧
        common.fragmentPayloadBytes ≤ 1391 := by
    simp only [CommonSettings.checkLimits, guard_eq_ok_iff, not_not]
      at accepted
    exact accepted.2.2.1
  obtain ⟨queue, pending⟩ := ReliableSender.empty_of_init sender
  have start : ({ agent := agent } : InnerLoop).Sound := by
    refine ⟨?_, ?_, .of_empty queue pending⟩
    · rintro ⟨failure, impossible⟩
      cases impossible
    · simp only [maxFragmentPayload]
      omega
  refine ⟨?_, fun ended => ended_for_a_reason rfl ended⟩
  exact Machine.everyStep_iff Sound
    (fun before input sound respects => (sound.step respects).1)
    (fun before input sound respects survives =>
      (sound.step respects).2 survives)
    start
    (.of_forall (fun _ input member => respects input member) _)

/-- The address of the local peer of the foreign agent. -/
def localPeer : Address where
  host := "127.0.0.1"
  port := 51820

/-- A foreign agent with the default limits. -/
def defaultAgent (reliable : Bool) : Agent :=
  { Agent.plain .foreign with
    reliable := reliable
    fragmentPayloadBytes := 1200 }

theorem sender_defaultAgent
    (reliable : Bool) :
    ({} : CommonSettings).sender = .ok (defaultAgent reliable).sender :=
  ReliableSender.init_fresh

/-- A datagram of the local peer whose packet `sendto` refuses. -/
def refusedDatagram : LoopInput :=
  .datagram [1, 2, 3] localPeer
    { turns := Agent.steadyTurns, now := 0, failing := some 0 }

/-- In reliable mode the refusal is met by another thread. -/
theorem inner_loop_survives_iff_reliable :
    machine.EveryStep
      (fun before input => ¬ (before.step input).Crashed)
      { agent := defaultAgent true } [refusedDatagram] := by
  have turnsFit :
      TurnsFit (defaultAgent true).sequence Agent.steadyTurns
        (fragmentTotal 3 1200 true) := by
    unfold TurnsFit
    decide +kernel
  have survives :
      machine.EveryStep Survives { agent := defaultAgent true }
        [refusedDatagram] :=
    ⟨fun _ => .inr (.inr (.inr ⟨turnsFit, .inl rfl⟩)), trivial⟩
  refine (inner_loop_survives_iff (by decide +kernel) rfl
    (sender_defaultAgent true) [refusedDatagram] ?_).1.mpr survives
  exact List.forall_mem_singleton.mpr fun _ member => by cases member

/-- Without reliable mode an error of `sendto` ends the loop. -/
theorem send_error_ends_loop :
    ({} : CommonSettings).checkLimits = .ok () ∧
      ({} : CommonSettings).sender = .ok (defaultAgent false).sender ∧
      (machine.run { agent := defaultAgent false }
        [refusedDatagram]).status = .crashed .osError := by
  exact ⟨by decide +kernel, sender_defaultAgent false, by decide +kernel⟩

end InnerLoop

end H3ntun
