import H3ntun.ForwardingLoops
import H3ntun.SenderSteps

namespace H3ntun

/-!
# Messages on their way through an agent

A message identifier is drawn once.  The call it was drawn for builds its
packets, the sender queues the message and holds it until it is acknowledged
or given up, and it is never acknowledged twice.
-/

namespace ReliableSender

/-- Messages a sender still has. -/
def held (sender : ReliableSender) : Nat :=
  sender.queue.length + sender.pending.length

/-- Identifiers of these messages. -/
def heldIds (sender : ReliableSender) : List Nat :=
  sender.queuedIds ++ sender.inFlightIds

/-- The first loop of `pump` keeps a message or exhausts it. -/
theorem length_leftInFlight
    (sender : ReliableSender)
    (now : Time) :
    (sender.leftInFlight now).length +
        (Lifecycle.exhausted
          (sender.pending.entries.filterMap
            (sender.timeoutHappening now))).length =
      sender.pending.length := by
  unfold leftInFlight OrderedDict.length
  induction sender.pending.entries with
  | nil =>
      rfl
  | cons entry rest inductionHypothesis =>
      rw [List.filterMap_cons, List.filterMap_cons, List.length_cons,
        ← inductionHypothesis]
      unfold afterTimeout timeoutHappening
      by_cases isDue : sender.isDue now entry.2 = true
      · by_cases isSpent : sender.isSpent entry.2 = true
        · simp only [if_pos isDue, if_pos isSpent, Lifecycle.exhausted,
            List.filterMap_cons, List.length_cons]
          omega
        · simp only [if_pos isDue, if_neg isSpent, Lifecycle.exhausted,
            List.filterMap_cons, List.length_cons]
          omega
      · simp only [if_neg isDue, List.length_cons]
        omega

/-- `pump` starts messages or gives them up. -/
theorem held_pump
    (sender : ReliableSender)
    (distinct : sender.Distinct)
    (now : Time) :
    (sender.pump now).1.held + (sender.pump now).2.exhaustedMessages =
      sender.held := by
  have pumps := sender.pumps distinct now
  have kept := sender.length_leftInFlight now
  have queued := congrArg List.length pumps.queue
  have inFlight := congrArg List.length pumps.pending
  have noneStarted :
      Lifecycle.exhausted ((sender.started now).map fun transmission =>
        (.attempted transmission.messageId transmission.packets false :
          Happening)) = [] := by
    simp [Lifecycle.exhausted]
  have exhaustions := pumps.exhaustions
  rw [pumpHappenings, Lifecycle.exhausted_append, noneStarted,
    List.append_nil] at exhaustions
  rw [List.length_append] at queued
  rw [List.length_append, List.length_map] at inFlight
  unfold held
  unfold OrderedDict.length at kept ⊢
  omega

/-- An acknowledgement that is accepted frees one message. -/
theorem held_acknowledge
    (sender : ReliableSender)
    {messageId : Nat}
    (inFlight : messageId ∈ sender.inFlightIds)
    (now : Time) :
    (sender.acknowledge messageId now).1.held + 1 = sender.held := by
  obtain ⟨absent, _⟩ | ⟨_, _, shape⟩ :=
    sender.acknowledge_cases messageId now
  · exact absurd inFlight absent
  · have fewer := OrderedDict.length_erase_of_mem inFlight
    rw [shape]
    unfold held
    dsimp only
    omega

theorem heldIds_acknowledge
    (sender : ReliableSender)
    (messageId : Nat)
    (now : Time) :
    (sender.acknowledge messageId now).1.heldIds ⊆ sender.heldIds := by
  rcases sender.acknowledge_cases messageId now with
    ⟨_, shape⟩ | ⟨_, _, shape⟩
  · rw [shape]
    exact List.Subset.refl _
  · rw [shape]
    exact List.append_subset.mpr
      ⟨List.subset_append_left _ _, fun other member =>
        List.mem_append_right _ (OrderedDict.mem_keys_of_erase member).1⟩

/-- An acknowledged message is held no longer. -/
theorem not_mem_heldIds_acknowledge
    (sender : ReliableSender)
    (distinct : sender.Distinct)
    {messageId : Nat}
    (inFlight : messageId ∈ sender.inFlightIds)
    (now : Time) :
    messageId ∉ (sender.acknowledge messageId now).1.heldIds := by
  obtain ⟨absent, _⟩ | ⟨_, _, shape⟩ :=
    sender.acknowledge_cases messageId now
  · exact absurd inFlight absent
  · rw [shape]
    intro held
    rcases List.mem_append.mp held with queued | left
    · exact (List.nodup_append.mp distinct.nodup).2.2 messageId queued
        messageId inFlight rfl
    · exact (OrderedDict.mem_keys_of_erase left).2 rfl

theorem heldIds_pump
    (sender : ReliableSender)
    (distinct : sender.Distinct)
    (now : Time) :
    (sender.pump now).1.heldIds ⊆ sender.heldIds := by
  have pumps := sender.pumps distinct now
  have ids :
      sender.queuedIds =
        (sender.started now).map Transmission.messageId ++
          (sender.pump now).1.queuedIds := by
    rw [queuedIds, pumps.queue]
    exact List.map_append
  intro messageId member
  rw [heldIds, pumps.inFlightIds] at member
  rw [heldIds, ids]
  rcases List.mem_append.mp member with queued | inFlight
  · exact List.mem_append_left _ (List.mem_append_right _ queued)
  · rcases List.mem_append.mp inFlight with left | isStarted
    · exact List.mem_append_right _
        ((keys_leftInFlight sender now).subset left)
    · exact List.mem_append_left _ (List.mem_append_left _ isStarted)

/-- A queued message has been added to those held, and nothing else. -/
theorem mem_heldIds_enqueue
    {sender : ReliableSender}
    {messageId : Nat}
    {packets : List Bytes}
    {now : Time}
    {other : Nat}
    (member : other ∈ (sender.enqueue messageId packets now).1.heldIds) :
    other = messageId ∨ other ∈ sender.heldIds := by
  rcases sender.enqueue_cases messageId packets now with
    ⟨same, _⟩ | ⟨_, _, shape⟩
  · rw [same] at member
    exact .inr member
  · rw [shape, heldIds, queuedIds, List.map_append,
      List.append_assoc] at member
    rcases List.mem_append.mp member with queued | rest
    · exact .inr (List.mem_append_left _ queued)
    · rcases List.mem_append.mp rest with isAdded | inFlight
      · exact .inl (List.mem_singleton.mp isAdded)
      · exact .inr (List.mem_append_right _ inFlight)

/-- A message that is new and not empty is queued or dropped. -/
theorem enqueue_of_new
    (sender : ReliableSender)
    {messageId : Nat}
    {packets : List Bytes}
    (notEmpty : packets ≠ [])
    (isNew : messageId ∉ sender.heldIds)
    (now : Time) :
    ((sender.enqueue messageId packets now).2 = .ok false ∧
        (sender.enqueue messageId packets now).1 = sender) ∨
      ((sender.enqueue messageId packets now).2 = .ok true ∧
        (sender.enqueue messageId packets now).1.held =
          sender.held + 1) := by
  have notDuplicate :
      ¬ (sender.pending.contains messageId = true ∨
        sender.queue.any (·.messageId = messageId) = true) := by
    rintro (inFlight | queued)
    · exact isNew
        (List.mem_append_right _ (OrderedDict.contains_iff.mp inFlight))
    · obtain ⟨transmission, member, same⟩ := List.any_eq_true.mp queued
      refine isNew (List.mem_append_left _ ?_)
      rw [← of_decide_eq_true same]
      exact List.mem_map_of_mem member
  unfold enqueue
  rw [if_neg notEmpty]
  by_cases full :
      sender.queue.length + sender.pending.length ≥
        sender.maxPendingMessages
  · rw [if_pos full]
    exact .inl ⟨rfl, rfl⟩
  · rw [if_neg full, if_neg notDuplicate]
    refine .inr ⟨rfl, ?_⟩
    simp only [held, List.length_append, List.length_singleton]
    omega

end ReliableSender

/-- Actions that send no message on. -/
def Action.isReply : Action → Bool
  | .keepalive _ => true
  | .cleanup _ => true
  | .receive .. => true
  | _ => false

/-- A step that sends no message on, and frees at most one. -/
structure Effect.Frees (effect : Effect) (before : Agent) : Prop where
  begun :
    effect.begun = none
  sending :
    effect.agent.sending = before.sending
  mode :
    effect.agent.reliable = before.reliable
  messageId :
    effect.agent.messageId = before.messageId
  sender :
    (effect.acknowledged = none ∧ effect.agent.sender = before.sender) ∨
      ∃ messageId ∈ before.sender.inFlightIds, ∃ now,
        effect.acknowledged = some messageId ∧
          effect.agent.sender =
            (before.sender.acknowledge messageId now).1

theorem Effect.Frees.catching
    {effect : Effect}
    {before : Agent}
    (frees : effect.Frees before)
    (caught : Failure → Bool) :
    (effect.catching caught).Frees before := by
  obtain ⟨sameAgent, sameBegun, _, _, _, _, _, sameAcknowledged⟩ :=
    Agent.catching_fields effect caught
  constructor
  · rw [sameBegun]
    exact frees.begun
  · rw [sameAgent]
    exact frees.sending
  · rw [sameAgent]
    exact frees.mode
  · rw [sameAgent]
    exact frees.messageId
  · rw [sameAgent, sameAcknowledged]
    exact frees.sender

namespace Agent

theorem frees_transmit
    (agent : Agent)
    (encode : Nat → Except Failure Bytes)
    (surroundings : Surroundings) :
    (agent.transmit encode surroundings).Frees agent := by
  obtain ⟨shape, begun, _, _, _, _, _, acknowledged⟩ :=
    agent.transmit_fields encode surroundings
  refine ⟨begun, ?_, ?_, ?_, .inl ⟨acknowledged, ?_⟩⟩
  all_goals rw [shape]

theorem Handles.frees
    {agent : Agent}
    {frame : Frame}
    {surroundings : Surroundings}
    {effect : Effect}
    (handles : agent.Handles frame surroundings effect) :
    effect.Frees agent := by
  cases handles with
  | ignored | stored | completed =>
      exact ⟨rfl, rfl, rfl, rfl, .inl ⟨rfl, rfl⟩⟩
  | acknowledged messageId isAck decoded =>
      refine ⟨rfl, rfl, rfl, rfl, ?_⟩
      rcases agent.sender.acknowledge_cases messageId surroundings.now with
        ⟨_, shape⟩ | ⟨inFlight, latency, shape⟩
      · exact .inl ⟨by rw [shape]; rfl, by rw [shape]⟩
      · exact .inr ⟨messageId, inFlight, surroundings.now,
          by rw [shape]; rfl, rfl⟩
  | answered timestampMs =>
      exact agent.frees_transmit _ surroundings
  | delivered isData payload =>
      obtain ⟨begun, sending, mode, messageId, sender⟩ :=
        frees_transmit { agent with
          reassembler :=
            (agent.reassembler.add frame surroundings.now).1 }
          (fun sequence =>
            agent.codec.encodeAck surroundings.clockMs
              agent.role.side.kinds.sentAck sequence frame.sessionId
              frame.messageId) surroundings
      exact ⟨begun, sending, mode, messageId, sender⟩

theorem frees_receive
    (agent : Agent)
    (packet : Bytes)
    (surroundings : Surroundings) :
    (agent.receive packet surroundings).Frees agent := by
  have reacts := agent.receive_cases surroundings packet
  generalize agent.receive packet surroundings = effect at reacts
  cases reacts with
  | undecoded | refused =>
      exact ⟨rfl, rfl, rfl, rfl, .inl ⟨rfl, rfl⟩⟩
  | accepted frame decoded inner handles caught =>
      obtain ⟨begun, sending, mode, messageId, sender⟩ :=
        handles.frees.catching caught
      exact ⟨begun, sending, mode, messageId, sender⟩
  | repeated frame decoded refuses isData isCompleted caught =>
      obtain ⟨begun, sending, mode, messageId, sender⟩ :=
        (frees_transmit { agent with
          replay :=
            (agent.replay.accept frame.sequence frame.sessionId).1
          reassembler :=
            (agent.reassembler.isCompleted frame.sessionId
              frame.messageId surroundings.now).1 }
          (fun sequence =>
            agent.codec.encodeAck surroundings.clockMs
              agent.role.side.kinds.sentAck sequence frame.sessionId
              frame.messageId) surroundings).catching caught
      exact ⟨begun, sending, mode, messageId, sender⟩

/-- Steps that send no message on. -/
theorem frees_act
    (agent : Agent)
    {action : Action}
    (isReply : action.isReply = true) :
    (agent.act action).Frees agent := by
  have nothing : Effect.Frees { agent := agent } agent :=
    ⟨rfl, rfl, rfl, rfl, .inl ⟨rfl, rfl⟩⟩
  cases action with
  | innerDatagram | buildPacket | finishSend | pump =>
      cases isReply
  | keepalive surroundings =>
      simp only [act, keepalive]
      split
      · exact (agent.frees_transmit _ surroundings).catching _
      · exact nothing
  | cleanup now =>
      simp only [act, Agent.cleanup]
      split
      · exact ⟨rfl, rfl, rfl, rfl, .inl ⟨rfl, rfl⟩⟩
      · exact nothing
  | receive packet source surroundings =>
      simp only [act, receiveLoop, iranDownlinkLoop, foreignUplinkLoop]
      split
      · split
        · exact nothing
        · exact agent.frees_receive packet surroundings
      · exact agent.frees_receive packet surroundings

/-- A turn of the list comprehension ends a call or builds one packet. -/
theorem buildPacket_cases
    (agent : Agent)
    (messageId : Nat)
    (clockMs : Int) :
    agent.buildPacket messageId clockMs = { agent := agent } ∨
      messageId ∈ agent.sending.keys ∧
        ((∃ failure,
            agent.buildPacket messageId clockMs = {
              agent := { agent with
                sequence := agent.sequence + 1
                sending := agent.sending.erase messageId }
              raised := some failure }) ∨
          ∃ job packet,
            job.packets ≠ [] ∧
            agent.buildPacket messageId clockMs = {
              agent := { agent with
                sequence := agent.sequence + 1
                sending := agent.sending.set messageId job }
              sealed := some packet }) := by
  unfold buildPacket
  split
  · rename_i spec remaining packets unfinished
    refine .inr ⟨OrderedDict.mem_keys_iff.mpr ⟨_, unfinished⟩, ?_⟩
    dsimp only
    split
    · exact .inl ⟨_, rfl⟩
    · exact .inr ⟨_, _, by simp, rfl⟩
  · exact .inl rfl

end Agent

/--
Each identifier drawn is in one place: its call is unfinished, the sender
holds its message, or the message is settled.
-/
structure Agent.Orderly (agent : Agent) (settled : List Nat) : Prop where
  distinct :
    agent.sender.Distinct
  drawn :
    ∀ messageId,
      messageId ∈ agent.sender.heldIds ∨
          messageId ∈ agent.sending.keys ∨ messageId ∈ settled →
        messageId ≤ agent.messageId
  apart :
    ∀ messageId ∈ agent.sending.keys,
      messageId ∉ agent.sender.heldIds ∧ messageId ∉ settled
  gone :
    ∀ messageId ∈ settled, messageId ∉ agent.sender.heldIds
  once :
    settled.Nodup
  unfinished :
    ∀ messageId job,
      agent.sending.get? messageId = some job →
      job.remaining = [] →
      job.packets ≠ []

/-- A message has at least one fragment. -/
theorem fragments_ne_nil
    {payload : Bytes}
    {fragmentPayloadBytes : Nat}
    {fecEnabled : Bool}
    {fragments : List FragmentSpec}
    (fragmented :
      fragmentMessage payload fragmentPayloadBytes fecEnabled =
        .ok fragments) :
    fragments ≠ [] := by
  obtain ⟨message, _, _, _, rfl⟩ :=
    fragmentMessage_eq_ok_iff.mp fragmented
  have positive := message.count_pos
  intro noFragments
  have lengths := congrArg List.length noFragments
  simp only [Message.fragments, List.length_append, List.length_map,
    List.length_range, List.length_nil] at lengths
  omega

namespace Agent.Orderly

variable {agent later : Agent} {settled : List Nat}

/-- Only what the agent holds and has drawn matters. -/
theorem of_fewer
    (orderly : agent.Orderly settled)
    (distinct : later.sender.Distinct)
    (fewerHeld : later.sender.heldIds ⊆ agent.sender.heldIds)
    (fewerSending :
      ∀ messageId job,
        later.sending.get? messageId = some job →
        agent.sending.get? messageId = some job)
    (drawn : agent.messageId ≤ later.messageId) :
    later.Orderly settled := by
  have fewerKeys : later.sending.keys ⊆ agent.sending.keys := by
    intro messageId member
    obtain ⟨job, found⟩ := OrderedDict.mem_keys_iff.mp member
    exact OrderedDict.mem_keys_iff.mpr
      ⟨job, fewerSending messageId job found⟩
  refine ⟨distinct, ?_, ?_, ?_, orderly.once, ?_⟩
  · rintro messageId (held | sending | isSettled)
    · exact (orderly.drawn _ (.inl (fewerHeld held))).trans drawn
    · exact (orderly.drawn _ (.inr (.inl (fewerKeys sending)))).trans drawn
    · exact (orderly.drawn _ (.inr (.inr isSettled))).trans drawn
  · intro messageId member
    obtain ⟨notHeld, notSettled⟩ :=
      orderly.apart messageId (fewerKeys member)
    exact ⟨fun held => notHeld (fewerHeld held), notSettled⟩
  · exact fun messageId member held =>
      orderly.gone messageId member (fewerHeld held)
  · exact fun messageId job found =>
      orderly.unfinished messageId job (fewerSending messageId job found)

/-- A step that sends no message on. -/
theorem of_frees
    (orderly : agent.Orderly settled)
    {effect : Effect}
    (frees : effect.Frees agent) :
    effect.agent.Orderly (effect.acknowledged.toList ++ settled) := by
  obtain ⟨_, sameSending, _, sameMessageId, sender⟩ := frees
  rcases sender with
    ⟨noneFreed, sameSender⟩ | ⟨messageId, inFlight, now, freed, sender⟩
  · rw [noneFreed]
    refine orderly.of_fewer ?_ ?_ ?_ sameMessageId.ge
    · rw [sameSender]
      exact orderly.distinct
    · rw [sameSender]
      exact List.Subset.refl _
    · rw [sameSending]
      exact fun _ _ found => found
  · have wasHeld : messageId ∈ agent.sender.heldIds :=
      List.mem_append_right _ inFlight
    have kept : effect.agent.Orderly settled := by
      refine orderly.of_fewer ?_ ?_ ?_ sameMessageId.ge
      · rw [sender]
        exact orderly.distinct.acknowledge messageId now
      · rw [sender]
        exact agent.sender.heldIds_acknowledge messageId now
      · rw [sameSending]
        exact fun _ _ found => found
    have notHeld : messageId ∉ effect.agent.sender.heldIds := by
      rw [sender]
      exact agent.sender.not_mem_heldIds_acknowledge orderly.distinct
        inFlight now
    have notSending : messageId ∉ effect.agent.sending.keys := by
      rw [sameSending]
      exact fun member => (orderly.apart messageId member).1 wasHeld
    have notSettled : messageId ∉ settled :=
      fun member => orderly.gone messageId member wasHeld
    rw [freed]
    refine ⟨kept.distinct, ?_, ?_, ?_, ?_, kept.unfinished⟩
    · rintro other (held | sending | isSettled)
      · exact kept.drawn other (.inl held)
      · exact kept.drawn other (.inr (.inl sending))
      · rcases List.mem_cons.mp isSettled with rfl | earlier
        · rw [sameMessageId]
          exact orderly.drawn _ (.inl wasHeld)
        · exact kept.drawn other (.inr (.inr earlier))
    · intro other member
      obtain ⟨otherNotHeld, otherNotSettled⟩ := kept.apart other member
      refine ⟨otherNotHeld, fun isSettled => ?_⟩
      rcases List.mem_cons.mp isSettled with rfl | earlier
      · exact notSending member
      · exact otherNotSettled earlier
    · intro other isSettled
      rcases List.mem_cons.mp isSettled with rfl | earlier
      · exact notHeld
      · exact kept.gone other earlier
    · exact List.nodup_cons.mpr ⟨notSettled, orderly.once⟩

theorem beginSend
    (orderly : agent.Orderly settled)
    (payload : Bytes) :
    (agent.beginSend payload).agent.Orderly settled := by
  unfold Agent.beginSend
  dsimp only
  split
  · exact orderly.of_fewer orderly.distinct (List.Subset.refl _)
      (fun _ _ found => found) (Nat.le_succ _)
  · rename_i fragments fragmented
    have isNew :
        ¬ (agent.messageId + 1 ∈ agent.sender.heldIds ∨
          agent.messageId + 1 ∈ agent.sending.keys ∨
          agent.messageId + 1 ∈ settled) := by
      intro known
      have atMost := orderly.drawn _ known
      omega
    simp only [not_or] at isNew
    refine ⟨orderly.distinct, ?_, ?_, orderly.gone, orderly.once, ?_⟩
    · rintro messageId (held | sending | isSettled)
      · exact (orderly.drawn _ (.inl held)).trans (Nat.le_succ _)
      · rcases OrderedDict.mem_keys_set.mp sending with rfl | old
        · exact le_refl _
        · exact (orderly.drawn _ (.inr (.inl old))).trans (Nat.le_succ _)
      · exact (orderly.drawn _ (.inr (.inr isSettled))).trans
          (Nat.le_succ _)
    · intro messageId member
      rcases OrderedDict.mem_keys_set.mp member with rfl | old
      · exact ⟨isNew.1, isNew.2.2⟩
      · exact orderly.apart messageId old
    · intro messageId job found noneRemain
      by_cases same : messageId = agent.messageId + 1
      · subst same
        rw [OrderedDict.get?_set_same] at found
        cases found
        exact absurd noneRemain (fragments_ne_nil fragmented)
      · rw [OrderedDict.get?_set_other _ same] at found
        exact orderly.unfinished messageId job found noneRemain

theorem buildPacket
    (orderly : agent.Orderly settled)
    (messageId : Nat)
    (clockMs : Int) :
    (agent.buildPacket messageId clockMs).agent.Orderly settled := by
  rcases agent.buildPacket_cases messageId clockMs with
    shape | ⟨present, ⟨failure, shape⟩ | ⟨job, packet, notEmpty, shape⟩⟩
  · rw [shape]
    exact orderly
  · rw [shape]
    exact orderly.of_fewer orderly.distinct (List.Subset.refl _)
      (fun _ _ => OrderedDict.get?_of_erase) le_rfl
  · have sameKeys :
        ∀ other, other ∈ (agent.sending.set messageId job).keys →
          other ∈ agent.sending.keys := by
      intro other member
      rcases OrderedDict.mem_keys_set.mp member with rfl | old
      · exact present
      · exact old
    rw [shape]
    refine ⟨orderly.distinct, ?_, ?_, orderly.gone, orderly.once, ?_⟩
    · rintro other (held | sending | isSettled)
      · exact orderly.drawn _ (.inl held)
      · exact orderly.drawn _ (.inr (.inl (sameKeys other sending)))
      · exact orderly.drawn _ (.inr (.inr isSettled))
    · exact fun other member => orderly.apart other (sameKeys other member)
    · intro other otherJob found noneRemain
      by_cases same : other = messageId
      · subst same
        rw [OrderedDict.get?_set_same] at found
        cases found
        exact notEmpty
      · rw [OrderedDict.get?_set_other _ same] at found
        exact orderly.unfinished other otherJob found noneRemain

theorem finishSend
    (orderly : agent.Orderly settled)
    (messageId : Nat)
    (now : Time)
    (failing : Option Nat) :
    (agent.finishSend messageId now failing).agent.Orderly settled := by
  have erased :
      Agent.Orderly { agent with
        sending := agent.sending.erase messageId } settled :=
    orderly.of_fewer orderly.distinct (List.Subset.refl _)
      (fun _ _ => OrderedDict.get?_of_erase) le_rfl
  unfold Agent.finishSend
  split
  · rename_i packets built
    have present : messageId ∈ agent.sending.keys :=
      OrderedDict.mem_keys_iff.mpr ⟨_, built⟩
    obtain ⟨notHeld, notSettled⟩ := orderly.apart messageId present
    dsimp only
    split
    · refine ⟨orderly.distinct.enqueue messageId packets now, ?_, ?_, ?_,
        orderly.once, erased.unfinished⟩
      · rintro other (held | sending | isSettled)
        · rcases ReliableSender.mem_heldIds_enqueue held with rfl | old
          · exact orderly.drawn _ (.inr (.inl present))
          · exact orderly.drawn other (.inl old)
        · exact erased.drawn other (.inr (.inl sending))
        · exact orderly.drawn other (.inr (.inr isSettled))
      · intro other member
        obtain ⟨otherNotHeld, otherNotSettled⟩ := erased.apart other member
        refine ⟨fun held => ?_, otherNotSettled⟩
        rcases ReliableSender.mem_heldIds_enqueue held with same | old
        · exact (OrderedDict.mem_keys_of_erase member).2 same
        · exact otherNotHeld old
      · intro other isSettled held
        rcases ReliableSender.mem_heldIds_enqueue held with rfl | old
        · exact notSettled isSettled
        · exact orderly.gone other isSettled old
    · split
      · exact erased
      · split <;> exact erased
  · exact orderly

/-- Every step keeps this, and settles what it acknowledges. -/
theorem act
    (orderly : agent.Orderly settled)
    (action : Action) :
    (agent.act action).agent.Orderly
      ((agent.act action).acknowledged.toList ++ settled) := by
  have noneSettled
      {effect : Effect}
      (kept : effect.agent.Orderly settled)
      (noneAcknowledged : effect.acknowledged = none) :
      effect.agent.Orderly
        (effect.acknowledged.toList ++ settled) := by
    rw [noneAcknowledged]
    exact kept
  cases action with
  | keepalive | cleanup | receive =>
      exact orderly.of_frees (agent.frees_act rfl)
  | innerDatagram payload source =>
      rw [Agent.act]
      obtain ignored | ⟨role, _, begun⟩ :=
        agent.innerLoop_cases payload source
      · rw [ignored]
        exact orderly
      · have withRole :
            Agent.Orderly { agent with role := role } settled :=
          orderly.of_fewer orderly.distinct (List.Subset.refl _)
            (fun _ _ found => found) le_rfl
        obtain ⟨sameAgent, _, _, _, _, _, _, sameAcknowledged⟩ :=
          catching_fields
            (Agent.beginSend { agent with role := role } payload)
            Failure.isProtocolError
        rw [begun]
        refine noneSettled ?_ ?_
        · rw [sameAgent]
          exact withRole.beginSend payload
        · rw [sameAcknowledged]
          exact (beginSend_fields _ payload).2
  | buildPacket messageId clockMs =>
      refine noneSettled (orderly.buildPacket messageId clockMs) ?_
      rcases agent.buildPacket_cases messageId clockMs with
        shape | ⟨_, ⟨_, shape⟩ | ⟨_, _, _, shape⟩⟩ <;>
        exact congrArg Effect.acknowledged shape
  | finishSend messageId now failing =>
      refine noneSettled (orderly.finishSend messageId now failing) ?_
      simp only [Agent.act, Agent.finishSend]
      split
      · split
        · rfl
        · split
          · rfl
          · split <;> rfl
      · rfl
  | pump now =>
      simp only [Agent.act, Agent.pump]
      split
      · exact orderly.of_fewer (orderly.distinct.pump now)
          (agent.sender.heldIds_pump orderly.distinct now)
          (fun _ _ found => found) le_rfl
      · exact orderly

/-- A process just started. -/
theorem of_started
    (queue : agent.sender.queue = [])
    (pending : agent.sender.pending = .empty)
    (sending : agent.sending = .empty) :
    agent.Orderly [] := by
  have noneHeld : agent.sender.heldIds = [] := by
    rw [ReliableSender.heldIds, ReliableSender.queuedIds,
      ReliableSender.inFlightIds, queue, pending]
    rfl
  refine ⟨.of_empty queue pending, ?_, ?_, ?_, .nil, ?_⟩
  · rw [noneHeld, sending]
    rintro messageId (member | member | member) <;> cases member
  · rw [sending]
    intro messageId member
    cases member
  · intro messageId member
    cases member
  · rw [sending]
    intro messageId job found
    cases found

end Agent.Orderly

end H3ntun
