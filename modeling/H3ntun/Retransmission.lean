import H3ntun.Delivery
import H3ntun.ReassemblyExact
import Mathlib.Data.Finset.Max

namespace H3ntun

/-!
# What a full retransmission completes

A retransmission repeats the sequence numbers of the first transmission.  A
fragment the window has accepted and the reassembler has dropped since then
never reaches the reassembler again, so all packets of a message complete it
exactly when the fragments held and those not yet accepted are enough.
-/

/-- One packet of the peer arriving once more. -/
structure Arrival where
  frame : Frame
  source : Address
  surroundings : Surroundings

namespace World

/-- Packets arriving at one agent, and nothing else happening. -/
def redelivery (tunnel : Tunnel) (side : Side) :
    Machine World Arrival Effect where
  step world arrival :=
    machine.step world
      (side, .receive (tunnel.wire arrival.frame) arrival.source
        arrival.surroundings)

/-- The key under which a side assembles a message of its peer. -/
def keyOf (world : World) (side : Side) (messageId : Nat) : Nat × Nat :=
  ((world side.peer).agent.codec.sessionId, messageId)

/-- The frames the peer has encoded for one message, fragment by fragment. -/
structure FramesOf
    (tunnel : Tunnel)
    (world : World)
    (side : Side)
    (messageId : Nat)
    (message : Message)
    (frames : List Frame) : Prop where
  cuts :
    (world side.peer).agent.sendState.Cuts message
  begun :
    (messageId, message.payload) ∈ (world side.peer).journal.begun
  sealed :
    ∀ frame ∈ frames,
      tunnel.Sealed (world side.peer).journal.sealed frame ∧
        frame.kind = side.kinds.data ∧ frame.messageId = messageId
  fragments :
    frames.map Frame.spec = message.fragments

/--
An arrival that is decoded, and before which the assembly of the message does
not time out.
-/
structure Timely
    (side : Side)
    (messageId : Nat)
    (world : World)
    (arrival : Arrival) : Prop where
  listens :
    (world side).agent.role.listens arrival.source = true
  inTime :
    |arrival.surroundings.nowMs - arrival.frame.timestampMs| ≤
      (world side).agent.codec.maxClockSkewMs
  notTimedOut :
    ∀ assembly,
      (world side).agent.reassembler.assemblies.get?
          (world.keyOf side messageId) = some assembly →
      arrival.surroundings.now - assembly.updatedAt ≤
        (world side).agent.reassembler.timeoutSeconds

instance
    (side : Side)
    (messageId : Nat)
    (world : World)
    (arrival : Arrival) :
    Decidable (Timely side messageId world arrival) :=
  decidable_of_iff
    ((world side).agent.role.listens arrival.source = true ∧
      |arrival.surroundings.nowMs - arrival.frame.timestampMs| ≤
        (world side).agent.codec.maxClockSkewMs ∧
      ∀ assembly ∈
          (world side).agent.reassembler.assemblies.get?
            (world.keyOf side messageId),
        arrival.surroundings.now - assembly.updatedAt ≤
          (world side).agent.reassembler.timeoutSeconds)
    ⟨fun ⟨listens, inTime, notTimedOut⟩ =>
      ⟨listens, inTime, notTimedOut⟩,
    fun timely =>
      ⟨timely.listens, timely.inTime, timely.notTimedOut⟩⟩

/-- Fragments of a message held by a side. -/
def held (world : World) (side : Side) (messageId : Nat) : Finset Nat :=
  (world side).agent.reassembler.heldAt (world.keyOf side messageId)

/-- The message has not been completed. -/
def Undelivered (world : World) (side : Side) (messageId : Nat) : Prop :=
  ∀ entry ∈ (world side).journal.completed,
    entry.1 ≠ world.keyOf side messageId

instance (world : World) (side : Side) (messageId : Nat) :
    Decidable (world.Undelivered side messageId) := by
  unfold Undelivered
  infer_instance

/--
Frames the window still accepts, whichever frames of the message arrive
before them.
-/
def acceptable
    (world : World)
    (side : Side)
    (frames : List Frame) : List Frame :=
  frames.filter fun frame =>
    ¬ (world side).agent.replay.Covers frame.sequence frame.sessionId ∧
      ∀ other ∈ frames,
        (other.sequence : Int) - frame.sequence < ReplayWindow.defaultSize

/-- A receiver of one session, and a message of it to be retransmitted. -/
structure Retransmits
    (tunnel : Tunnel)
    (side : Side)
    (messageId : Nat)
    (message : Message)
    (frames : List Frame)
    (world : World) : Prop where
  reached :
    (system tunnel).Reachable world
  only :
    ∀ pair ∈ (world side).journal.admitted,
      pair.1 = (world side.peer).agent.codec.sessionId
  packets :
    world.FramesOf tunnel side messageId message frames

namespace Retransmits

variable
  {tunnel : Tunnel}
  {side : Side}
  {messageId : Nat}
  {message : Message}
  {frames : List Frame}
  {world : World}
  {arrival : Arrival}

theorem keys
    (ready : Retransmits tunnel side messageId message frames world)
    {frame : Frame}
    (member : frame ∈ frames) :
    frame.sessionId = (world side.peer).agent.codec.sessionId ∧
      frame.key = world.keyOf side messageId := by
  have sound := Sound.of_reachable ready.reached
  obtain ⟨isSealed, _, sameMessage⟩ := ready.packets.sealed frame member
  have ownSession :
      frame.sessionId = (world side.peer).agent.codec.sessionId :=
    ((sound.senders.sending side.peer).own frame isSealed).2.1
  exact ⟨ownSession, Prod.ext ownSession sameMessage⟩

theorem sent
    (ready : Retransmits tunnel side messageId message frames world) :
    world.Sent side.peer (world.keyOf side messageId) message :=
  ⟨rfl, ready.packets.cuts, ready.packets.begun⟩

/-- Different frames of a message have different sequence numbers. -/
theorem sequence_ne
    (ready : Retransmits tunnel side messageId message frames world)
    {first second : Frame}
    (firstMember : first ∈ frames)
    (secondMember : second ∈ frames)
    (different : first ≠ second) :
    (first.sequence : Int) ≠ second.sequence := by
  have sound := Sound.of_reachable ready.reached
  intro same
  exact different
    ((sound.senders.sending side.peer).sequences first second
      (ready.packets.sealed first firstMember).1
      (ready.packets.sealed second secondMember).1
      (Int.ofNat_inj.mp same))

/-- The window accepts what is new and not too old. -/
theorem accepts_iff
    (ready : Retransmits tunnel side messageId message frames world)
    {frame : Frame}
    (member : frame ∈ frames) :
    ((world side).agent.replay.accept frame.sequence
          frame.sessionId).2 = true ↔
      ((frame.sessionId : Int), (frame.sequence : Int)) ∉
          (world side).journal.admitted ∧
        (world side).agent.replay.highest - frame.sequence <
          ReplayWindow.defaultSize := by
  have sound := Sound.of_reachable ready.reached
  obtain ⟨reference, refines, remembered⟩ := (sound.receivers side).replay
  rw [← remembered]
  apply refines.accept_only_iff (by decide) _ (Int.natCast_nonneg _)
  rw [remembered, (ready.keys member).1]
  exact ready.only

theorem covers_iff
    (ready : Retransmits tunnel side messageId message frames world)
    (frame : Frame) :
    (world side).agent.replay.Covers frame.sequence frame.sessionId ↔
      ((world side).agent.replay.accept frame.sequence
        frame.sessionId).2 = false := by
  have sound := Sound.of_reachable ready.reached
  obtain ⟨reference, refines, _⟩ := (sound.receivers side).replay
  exact (refines.accept_eq_false_iff (by decide)
    (Int.natCast_nonneg _)).symm

/-- What has been accepted is not above the highest sequence. -/
theorem le_highest
    (ready : Retransmits tunnel side messageId message frames world)
    {frame : Frame}
    (admitted :
      ((frame.sessionId : Int), (frame.sequence : Int)) ∈
        (world side).journal.admitted) :
    (frame.sequence : Int) ≤ (world side).agent.replay.highest := by
  have sound := Sound.of_reachable ready.reached
  obtain ⟨reference, refines, remembered⟩ := (sound.receivers side).replay
  rw [← remembered] at admitted
  rcases refines.acceptedKnown _ admitted with isCurrent | wasLeft
  · obtain ⟨_, _, records⟩ := refines.opened _ isCurrent
    exact records.bounded _ admitted
  · cases current : reference.current with
    | none =>
        rw [(refines.unopened current).2.2] at wasLeft
        cases wasLeft
    | some known =>
        obtain ⟨_, highestSeen, _⟩ := refines.opened known current
        have only := ready.only
        rw [← remembered] at only
        have sameSession : (frame.sessionId : Int) = known :=
          (only _ admitted).trans (only _ highestSeen).symm
        rw [← sameSession] at current
        exact absurd wasLeft (refines.currentNotLeft _ current)

theorem decoded
    (ready : Retransmits tunnel side messageId message frames world)
    (member : arrival.frame ∈ frames)
    (timely : world.Timely side messageId arrival) :
    (world side).agent.codec.decode (tunnel.wire arrival.frame)
        arrival.surroundings.nowMs = .ok arrival.frame :=
  ((Sound.of_reachable ready.reached).decode_wire_iff side
    ⟨side.peer, (ready.packets.sealed arrival.frame member).1⟩ _ _).mpr
    ⟨rfl, timely.inTime⟩

theorem step_agent
    (tunnel : Tunnel)
    (world : World)
    (arrival : Arrival)
    (listens :
      (world side).agent.role.listens arrival.source = true) :
    (((redelivery tunnel side).step world arrival).1 side).agent =
      ((world side).agent.receive (tunnel.wire arrival.frame)
        arrival.surroundings).agent := by
  have received :=
    Agent.act_receive listens (tunnel.wire arrival.frame)
      arrival.surroundings
  simp only [redelivery, machine, after_same, Party.act, received]

theorem step_journal
    (tunnel : Tunnel)
    (world : World)
    (arrival : Arrival)
    (listens :
      (world side).agent.role.listens arrival.source = true) :
    (((redelivery tunnel side).step world arrival).1 side).journal =
      (world side).journal.record
        ((world side).agent.receive (tunnel.wire arrival.frame)
          arrival.surroundings) := by
  have received :=
    Agent.act_receive listens (tunnel.wire arrival.frame)
      arrival.surroundings
  simp only [redelivery, machine, after_same, Party.act, received]

theorem step_peer
    (world : World)
    (arrival : Arrival) :
    ((redelivery tunnel side).step world arrival).1 side.peer =
      world side.peer := by
  simp only [redelivery, machine, after_peer]

theorem keyOf_step
    (tunnel : Tunnel)
    (side : Side)
    (messageId : Nat)
    (world : World)
    (arrival : Arrival) :
    ((redelivery tunnel side).step world arrival).1.keyOf side
        messageId = world.keyOf side messageId := by
  simp only [keyOf, step_peer]

theorem keyOf_run
    (world : World)
    (arrivals : List Arrival) :
    ((redelivery tunnel side).run world arrivals).keyOf side messageId =
      world.keyOf side messageId := by
  induction arrivals generalizing world with
  | nil =>
      rfl
  | cons arrival rest inductionHypothesis =>
      exact (inductionHypothesis _).trans (keyOf_step _ _ _ world arrival)

/-- A retransmitted packet keeps the receiver within its session. -/
theorem step
    (ready : Retransmits tunnel side messageId message frames world)
    (member : arrival.frame ∈ frames)
    (timely : world.Timely side messageId arrival) :
    Retransmits tunnel side messageId message frames
      ((redelivery tunnel side).step world arrival).1 where
  reached := by
    refine .next (side, .receive _ arrival.source arrival.surroundings)
      ready.reached ⟨?_, rfl⟩
    intro frame _
    exact ⟨side.peer, (ready.packets.sealed arrival.frame member).1.2⟩
  only := by
    rw [step_peer, step_journal tunnel world arrival timely.listens]
    have decoded := ready.decoded member timely
    have isData :
        arrival.frame.kind = (world side).agent.role.side.kinds.data := by
      rw [(Sound.of_reachable ready.reached).senders.side side]
      exact (ready.packets.sealed arrival.frame member).2.1
    intro pair inAdmitted
    cases answer :
        ((world side).agent.replay.accept arrival.frame.sequence
          arrival.frame.sessionId).2 with
    | false =>
        obtain ⟨_, notAccepted, _⟩ :=
          Agent.receive_of_refused _ _ _ decoded answer
        rw [Journal.record, notAccepted] at inAdmitted
        exact ready.only pair inAdmitted
    | true =>
        obtain ⟨_, isAccepted, _⟩ :=
          Agent.receive_of_data _ _ _ decoded answer isData
        rw [Journal.record, isAccepted] at inAdmitted
        rcases List.mem_cons.mp inAdmitted with isNew | earlier
        · rw [isNew]
          exact congrArg Nat.cast (ready.keys member).1
        · exact ready.only pair earlier
  packets :=
    { cuts := by
        rw [step_peer]
        exact ready.packets.cuts
      begun := by
        rw [step_peer]
        exact ready.packets.begun
      sealed := by
        rw [step_peer]
        exact ready.packets.sealed
      fragments := ready.packets.fragments }

theorem isData
    (ready : Retransmits tunnel side messageId message frames world)
    {frame : Frame}
    (member : frame ∈ frames) :
    frame.kind = (world side).agent.role.side.kinds.data := by
  rw [(Sound.of_reachable ready.reached).senders.side side]
  exact (ready.packets.sealed frame member).2.1

/-- A packet the window refuses changes nothing of the message. -/
theorem refused
    (ready : Retransmits tunnel side messageId message frames world)
    (member : arrival.frame ∈ frames)
    (timely : world.Timely side messageId arrival)
    (refuses :
      ((world side).agent.replay.accept arrival.frame.sequence
        arrival.frame.sessionId).2 = false)
    (later : World)
    (taken : later = ((redelivery tunnel side).step world arrival).1) :
    (later side).agent.replay = (world side).agent.replay ∧
      (later side).journal.admitted = (world side).journal.admitted ∧
      (later side).journal.completed = (world side).journal.completed ∧
      (later side).agent.reassembler.assemblies.get?
          (world.keyOf side messageId) =
        (world side).agent.reassembler.assemblies.get?
          (world.keyOf side messageId) := by
  obtain ⟨⟨purged, atNow, receiverShape⟩, notAccepted, notCompleted, _⟩ :=
    Agent.receive_of_refused _ _ _ (ready.decoded member timely) refuses
  have sound := Sound.of_reachable ready.reached
  have unchanged := (sound.receivers side).replay_refuse refuses
  have sameReplay := congrArg Receiver.replay receiverShape
  have sameReassembler := congrArg Receiver.reassembler receiverShape
  rw [Agent.receiver_replay] at sameReplay unchanged
  rw [Agent.receiver_reassembler] at sameReassembler
  rw [taken, step_agent tunnel world arrival timely.listens,
    step_journal tunnel world arrival timely.listens]
  refine ⟨?_, ?_, ?_, ?_⟩
  · exact sameReplay.trans unchanged
  · rw [Journal.record, notAccepted]
    rfl
  · rw [Journal.record, notCompleted]
    rfl
  · rw [sameReassembler]
    cases purged with
    | none =>
        rfl
    | some now =>
        rw [atNow now rfl]
        exact Reassembler.get?_purge_of_recent timely.notTimedOut

/-- What an accepted packet leaves, part by part. -/
theorem accepted_fields
    (ready : Retransmits tunnel side messageId message frames world)
    (member : arrival.frame ∈ frames)
    (timely : world.Timely side messageId arrival)
    (accepts :
      ((world side).agent.replay.accept arrival.frame.sequence
        arrival.frame.sessionId).2 = true)
    (later : World)
    (taken : later = ((redelivery tunnel side).step world arrival).1) :
    (later side).agent.replay =
        ((world side).agent.replay.accept arrival.frame.sequence
          arrival.frame.sessionId).1 ∧
      (later side).agent.reassembler =
        ((world side).agent.reassembler.add arrival.frame
          arrival.surroundings.now).1 ∧
      (later side).journal.admitted =
        ((arrival.frame.sessionId : Int),
          (arrival.frame.sequence : Int)) ::
            (world side).journal.admitted ∧
      (later side).journal.completed =
        ((world side).agent.receive (tunnel.wire arrival.frame)
            arrival.surroundings).completed.toList ++
          (world side).journal.completed := by
  obtain ⟨receiverShape, isAccepted, _⟩ :=
    Agent.receive_of_data _ _ _ (ready.decoded member timely) accepts
      (ready.isData member)
  have sameReplay := congrArg Receiver.replay receiverShape
  have sameReassembler := congrArg Receiver.reassembler receiverShape
  rw [Agent.receiver_replay] at sameReplay
  rw [Agent.receiver_reassembler] at sameReassembler
  rw [taken, step_agent tunnel world arrival timely.listens,
    step_journal tunnel world arrival timely.listens]
  refine ⟨sameReplay, sameReassembler, ?_, rfl⟩
  rw [Journal.record, isAccepted]
  rfl

/-- An accepted packet is the newest, or older than the newest. -/
theorem highest_accepted
    (ready : Retransmits tunnel side messageId message frames world)
    (member : arrival.frame ∈ frames)
    (accepts :
      ((world side).agent.replay.accept arrival.frame.sequence
        arrival.frame.sessionId).2 = true) :
    ((world side).agent.replay.accept arrival.frame.sequence
        arrival.frame.sessionId).1.highest =
      max (world side).agent.replay.highest arrival.frame.sequence := by
  have receiver := (Sound.of_reachable ready.reached).receivers side
  obtain ⟨reference, refines, remembered⟩ := receiver.replay
  apply refines.highest_accept (by decide) _ accepts
  rw [remembered, (ready.keys member).1]
  exact ready.only

/-- What the reassembler holds of the message was built from it. -/
theorem genuineAt
    (ready : Retransmits tunnel side messageId message frames world)
    (member : arrival.frame ∈ frames) :
    message.GenuineAt (world side).agent.reassembler
      arrival.frame.key := by
  have sound := Sound.of_reachable ready.reached
  intro assembly found
  obtain ⟨other, otherSent, isGenuine⟩ :=
    (sound.receivers side).genuine arrival.frame.key assembly found
  have sent := ready.sent
  rw [← (ready.keys member).2] at sent
  exact (sound.senders.provenance side).unique _ _ _ otherSent sent ▸
    isGenuine

/-- No fragment of the message times out when its packet arrives. -/
theorem purged_held
    (ready : Retransmits tunnel side messageId message frames world)
    (member : arrival.frame ∈ frames)
    (timely : world.Timely side messageId arrival) :
    ((world side).agent.reassembler.purge
        arrival.surroundings.now).heldAt arrival.frame.key =
      world.held side messageId := by
  have sameKey := (ready.keys member).2
  have recent := timely.notTimedOut
  rw [← sameKey] at recent
  rw [held, ← sameKey, Reassembler.heldAt,
    Reassembler.get?_purge_of_recent recent, Reassembler.heldAt]

/-- The reassembler does not take an undelivered message for a duplicate. -/
theorem not_completed
    (ready : Retransmits tunnel side messageId message frames world)
    (member : arrival.frame ∈ frames)
    (undelivered : world.Undelivered side messageId) :
    (world side).agent.reassembler.completed.contains
      arrival.frame.key = false := by
  rw [Bool.eq_false_iff]
  intro contained
  have receiver := (Sound.of_reachable ready.reached).receivers side
  obtain ⟨entry, inCompleted, entryKey⟩ :=
    receiver.remembered arrival.frame.key contained
  exact undelivered entry inCompleted
    (entryKey.trans (ready.keys member).2)

/-- A fragment that completes nothing is held from then on. -/
theorem accepted_stores
    (ready : Retransmits tunnel side messageId message frames world)
    (member : arrival.frame ∈ frames)
    (timely : world.Timely side messageId arrival)
    (undelivered : world.Undelivered side messageId)
    (accepts :
      ((world side).agent.replay.accept arrival.frame.sequence
        arrival.frame.sessionId).2 = true)
    (completesNothing :
      ((world side).agent.receive (tunnel.wire arrival.frame)
        arrival.surroundings).completed = none)
    (stores :
      Reassembler.Stores message (world side).agent.reassembler
        ((world side).agent.reassembler.add arrival.frame
          arrival.surroundings.now).1
        arrival.frame arrival.surroundings.now)
    (later : World)
    (taken : later = ((redelivery tunnel side).step world arrival).1) :
    later.Undelivered side messageId ∧
      later.held side messageId =
        insert arrival.frame.fragmentIndex
          (world.held side messageId) ∧
      ∀ assembly,
        (later side).agent.reassembler.assemblies.get?
            (world.keyOf side messageId) = some assembly →
        assembly.updatedAt = arrival.surroundings.now ∨
          (world side).agent.reassembler.assemblies.get?
            (world.keyOf side messageId) = some assembly := by
  obtain ⟨_, reassemblerShape, _, completedShape⟩ :=
    ready.accepted_fields member timely accepts later taken
  have sameKey := (ready.keys member).2
  have sameKeyLater :
      later.keyOf side messageId = world.keyOf side messageId := by
    rw [taken, keyOf_step]
  have heldAfter :=
    stores.held.antisymm
      (stores.stored (ready.not_completed member undelivered))
  refine ⟨?_, ?_, ?_⟩
  · rw [Undelivered, sameKeyLater, completedShape, completesNothing]
    exact undelivered
  · rw [held, sameKeyLater, reassemblerShape, ← sameKey, heldAfter,
      ready.purged_held member timely]
  · rw [reassemblerShape, ← sameKey]
    exact stores.updatedAt

/-- A packet the window accepts is stored or completes the message. -/
theorem accepted
    (ready : Retransmits tunnel side messageId message frames world)
    (member : arrival.frame ∈ frames)
    (timely : world.Timely side messageId arrival)
    (undelivered : world.Undelivered side messageId)
    (accepts :
      ((world side).agent.replay.accept arrival.frame.sequence
        arrival.frame.sessionId).2 = true)
    (later : World)
    (taken : later = ((redelivery tunnel side).step world arrival).1) :
    (later side).agent.replay.highest =
        max (world side).agent.replay.highest arrival.frame.sequence ∧
      (later side).journal.admitted =
        ((arrival.frame.sessionId : Int),
          (arrival.frame.sequence : Int)) ::
            (world side).journal.admitted ∧
      (((world.keyOf side messageId, message.payload) ∈
            (later side).journal.completed ∧
          message.count ≤
            (insert arrival.frame.fragmentIndex
              (world.held side messageId)).card) ∨
        (later.Undelivered side messageId ∧
          later.held side messageId =
            insert arrival.frame.fragmentIndex
              (world.held side messageId) ∧
          ∀ assembly,
            (later side).agent.reassembler.assemblies.get?
                (world.keyOf side messageId) = some assembly →
            assembly.updatedAt = arrival.surroundings.now ∨
              (world side).agent.reassembler.assemblies.get?
                (world.keyOf side messageId) = some assembly)) := by
  obtain ⟨replayShape, _, admittedShape, completedShape⟩ :=
    ready.accepted_fields member timely accepts later taken
  obtain ⟨_, _, completes, _⟩ :=
    Agent.receive_of_data _ _ _ (ready.decoded member timely) accepts
      (ready.isData member)
  have spec : arrival.frame.spec ∈ message.fragments := by
    rw [← ready.packets.fragments]
    exact List.mem_map_of_mem member
  refine ⟨?_, admittedShape, ?_⟩
  · rw [replayShape]
    exact ready.highest_accepted member accepts
  · rcases Reassembler.add_own spec (ready.genuineAt member)
        arrival.surroundings.now with
      ⟨result, answer, noPayload, stores⟩ |
        ⟨result, answer, hasPayload, _, enough⟩
    · right
      have completesNothing :
          ((world side).agent.receive (tunnel.wire arrival.frame)
            arrival.surroundings).completed = none := by
        rw [Option.eq_none_iff_forall_ne_some]
        intro entry isEntry
        obtain ⟨_, other, otherAnswer, otherPayload⟩ :=
          (completes entry.1 entry.2).mp isEntry
        rw [answer] at otherAnswer
        rw [← Except.ok.inj otherAnswer, noPayload] at otherPayload
        cases otherPayload
      exact ready.accepted_stores member timely undelivered accepts
        completesNothing stores later taken
    · left
      have isCompleted :=
        (completes arrival.frame.key message.payload).mpr
          ⟨rfl, result, answer, hasPayload⟩
      rw [completedShape, isCompleted, ← (ready.keys member).2]
      rw [ready.purged_held member timely] at enough
      exact ⟨List.mem_cons_self, enough⟩

/-- A step raises the window if it accepts, and forgets no frame. -/
theorem window_step
    (ready : Retransmits tunnel side messageId message frames world)
    (member : arrival.frame ∈ frames)
    (timely : world.Timely side messageId arrival)
    (undelivered : world.Undelivered side messageId) :
    (((redelivery tunnel side).step world arrival).1
          side).agent.replay.highest =
        (if ((world side).agent.replay.accept arrival.frame.sequence
            arrival.frame.sessionId).2 = true then
          max (world side).agent.replay.highest arrival.frame.sequence
        else
          (world side).agent.replay.highest) ∧
      ∀ pair ∈ (world side).journal.admitted,
        pair ∈ (((redelivery tunnel side).step world arrival).1
          side).journal.admitted := by
  split
  · rename_i accepts
    obtain ⟨highest, admitted, _⟩ :=
      ready.accepted member timely undelivered accepts _ rfl
    rw [highest, admitted]
    exact ⟨rfl, fun _ inAdmitted => List.mem_cons_of_mem _ inAdmitted⟩
  · rename_i refuses
    obtain ⟨sameReplay, sameAdmitted, _⟩ :=
      ready.refused member timely (Bool.eq_false_iff.mpr refuses) _ rfl
    rw [sameReplay, sameAdmitted]
    exact ⟨rfl, fun _ inAdmitted => inAdmitted⟩

/-- A packet inside the window raises it, whether it is known or not. -/
theorem raises_window
    (ready : Retransmits tunnel side messageId message frames world)
    (member : arrival.frame ∈ frames)
    (timely : world.Timely side messageId arrival)
    (undelivered : world.Undelivered side messageId)
    (inside :
      (world side).agent.replay.highest - arrival.frame.sequence <
        ReplayWindow.defaultSize) :
    (((redelivery tunnel side).step world arrival).1
          side).agent.replay.highest =
        max (world side).agent.replay.highest arrival.frame.sequence ∧
      ∀ pair ∈ (world side).journal.admitted,
        pair ∈ (((redelivery tunnel side).step world arrival).1
          side).journal.admitted := by
  obtain ⟨highest, keeps⟩ :=
    ready.window_step member timely undelivered
  refine ⟨?_, keeps⟩
  rw [highest]
  split
  · rfl
  · rename_i refuses
    have known :
        ((arrival.frame.sessionId : Int),
            (arrival.frame.sequence : Int)) ∈
          (world side).journal.admitted := by
      by_contra unseen
      exact refuses ((ready.accepts_iff member).mpr ⟨unseen, inside⟩)
    exact (max_eq_left (ready.le_highest known)).symm

/-- What has been completed stays completed. -/
theorem completed_run
    {entry : (Nat × Nat) × Bytes}
    (completed : entry ∈ (world side).journal.completed)
    (arrivals : List Arrival) :
    entry ∈
      (((redelivery tunnel side).run world arrivals)
        side).journal.completed := by
  refine (redelivery tunnel side).run_invariant
    (fun world => entry ∈ (world side).journal.completed) ?_ completed
    arrivals
  intro world arrival earlier
  simp only [redelivery, machine, after_same]
  exact List.mem_append_right _ earlier

/--
In whatever order the packets arrive, the message is completed or every
fragment that cannot become too old is held in the end.
-/
theorem completed_or_held
    (ready : Retransmits tunnel side messageId message frames world)
    (undelivered : world.Undelivered side messageId)
    {top : Int}
    (below : (world side).agent.replay.highest ≤ top)
    (bounded : ∀ frame ∈ frames, (frame.sequence : Int) ≤ top)
    {arrivals : List Arrival}
    (drawn : ∀ arrival ∈ arrivals, arrival.frame ∈ frames)
    (distinct : (arrivals.map Arrival.frame).Nodup)
    (timely :
      (redelivery tunnel side).EveryStep (Timely side messageId) world
        arrivals)
    (later : World)
    (taken : later = (redelivery tunnel side).run world arrivals) :
    (world.keyOf side messageId, message.payload) ∈
        (later side).journal.completed ∨
      (Retransmits tunnel side messageId message frames later ∧
        world.held side messageId ⊆ later.held side messageId ∧
        ∀ arrival ∈ arrivals,
          ((arrival.frame.sessionId : Int),
              (arrival.frame.sequence : Int)) ∉
            (world side).journal.admitted →
          top - arrival.frame.sequence < ReplayWindow.defaultSize →
          arrival.frame.fragmentIndex ∈ later.held side messageId) := by
  induction arrivals generalizing world with
  | nil =>
      subst taken
      refine .inr ⟨ready, Finset.Subset.refl _, ?_⟩
      intro arrival member
      cases member
  | cons arrival rest inductionHypothesis =>
      have member := drawn arrival List.mem_cons_self
      have restDrawn :
          ∀ other ∈ rest, other.frame ∈ frames :=
        fun other inRest => drawn other (List.mem_cons_of_mem _ inRest)
      rw [List.map_cons, List.nodup_cons] at distinct
      have next := ready.step member timely.1
      have sameKey :=
        keyOf_step tunnel side messageId world arrival
      cases answer :
          ((world side).agent.replay.accept arrival.frame.sequence
            arrival.frame.sessionId).2 with
      | false =>
          obtain ⟨sameReplay, sameAdmitted, sameCompleted, sameAssembly⟩ :=
            ready.refused member timely.1 answer _ rfl
          have sameHeld :
              ((redelivery tunnel side).step world arrival).1.held side
                  messageId = world.held side messageId := by
            rw [held, sameKey, Reassembler.heldAt, sameAssembly, held,
              Reassembler.heldAt]
          have stillUndelivered :
              ((redelivery tunnel side).step world
                arrival).1.Undelivered side messageId := by
            rw [Undelivered, sameKey, sameCompleted]
            exact undelivered
          have outcome :=
            inductionHypothesis next stillUndelivered
              (by rw [sameReplay]; exact below) restDrawn distinct.2
              timely.2 taken
          rw [sameKey, sameHeld, sameAdmitted] at outcome
          rcases outcome with completed | ⟨ends, heldLater, restHeld⟩
          · exact .inl completed
          · refine .inr ⟨ends, heldLater, ?_⟩
            intro other inArrivals unseen inside
            rcases List.mem_cons.mp inArrivals with rfl | inRest
            · have accepts :=
                (ready.accepts_iff member).mpr ⟨unseen, by omega⟩
              rw [answer] at accepts
              cases accepts
            · exact restHeld other inRest unseen inside
      | true =>
          obtain ⟨highest, admitted, completes | stored⟩ :=
            ready.accepted member timely.1 undelivered answer _ rfl
          · left
            rw [taken]
            exact completed_run completes.1 rest
          · obtain ⟨stillUndelivered, heldNext, _⟩ := stored
            have outcome :=
              inductionHypothesis next stillUndelivered
                (by
                  rw [highest]
                  exact max_le below (bounded _ member))
                restDrawn distinct.2 timely.2 taken
            rw [sameKey, heldNext, admitted] at outcome
            rcases outcome with completed | ⟨ends, heldLater, restHeld⟩
            · exact .inl completed
            · refine .inr ⟨ends,
                (Finset.subset_insert _ _).trans heldLater, ?_⟩
              intro other inArrivals unseen inside
              rcases List.mem_cons.mp inArrivals with rfl | inRest
              · exact heldLater (Finset.mem_insert_self _ _)
              · refine restHeld other inRest ?_ inside
                intro nowSeen
                rcases List.mem_cons.mp nowSeen with same | earlier
                · have different : other.frame ≠ arrival.frame := by
                    intro sameFrame
                    exact distinct.1
                      (sameFrame ▸ List.mem_map_of_mem inRest)
                  exact ready.sequence_ne (restDrawn other inRest) member
                    different (congrArg Prod.snd same)
                · exact unseen earlier

/-- An arrival that is decoded at a given time. -/
structure Prompt
    (agent : Agent)
    (time : Time)
    (arrival : Arrival) : Prop where
  listens :
    agent.role.listens arrival.source = true
  inTime :
    |arrival.surroundings.nowMs - arrival.frame.timestampMs| ≤
      agent.codec.maxClockSkewMs
  now :
    arrival.surroundings.now = time

/-- A state in which too few fragments are held to complete the message. -/
structure Scarce
    (side : Side)
    (messageId : Nat)
    (allowed : Finset Nat)
    (time : Time)
    (world : World) : Prop where
  undelivered :
    world.Undelivered side messageId
  held :
    world.held side messageId ⊆ allowed
  updatedAt :
    ∀ assembly,
      (world side).agent.reassembler.assemblies.get?
          (world.keyOf side messageId) = some assembly →
      assembly.updatedAt = time

variable {allowed : Finset Nat} {time : Time}

theorem Scarce.timely
    (scarce : Scarce side messageId allowed time world)
    (prompt : Prompt (world side).agent time arrival) :
    world.Timely side messageId arrival where
  listens := prompt.listens
  inTime := prompt.inTime
  notTimedOut assembly found := by
    rw [prompt.now, scarce.updatedAt assembly found, sub_self]
    exact (world side).agent.reassembler.timeoutPositive.le

theorem prompt_step
    {other : Arrival}
    (listens :
      (world side).agent.role.listens arrival.source = true)
    (prompt : Prompt (world side).agent time other) :
    Prompt
      (((redelivery tunnel side).step world arrival).1 side).agent time
      other := by
  have sameRole :=
    (world side).agent.role_receive arrival.surroundings
      (tunnel.wire arrival.frame)
  have sameCodec :=
    ((world side).agent.sends_receive arrival.surroundings
      (tunnel.wire arrival.frame)).sameCodec
  rw [Agent.sendState_codec, Agent.sendState_codec] at sameCodec
  rw [step_agent tunnel world arrival listens]
  exact ⟨by rw [sameRole]; exact prompt.listens,
    by rw [sameCodec]; exact prompt.inTime, prompt.now⟩

/-- An arrival that adds no fragment outside a set keeps the state scarce. -/
theorem scarce_step
    (ready : Retransmits tunnel side messageId message frames world)
    (few : allowed.card < message.count)
    (scarce : Scarce side messageId allowed time world)
    (member : arrival.frame ∈ frames)
    (prompt : Prompt (world side).agent time arrival)
    (permitted :
      ((world side).agent.replay.accept arrival.frame.sequence
          arrival.frame.sessionId).2 = true →
        arrival.frame.fragmentIndex ∈ allowed) :
    Scarce side messageId allowed time
      ((redelivery tunnel side).step world arrival).1 := by
  have timely := scarce.timely prompt
  have sameKey := keyOf_step tunnel side messageId world arrival
  cases answer :
      ((world side).agent.replay.accept arrival.frame.sequence
        arrival.frame.sessionId).2 with
  | false =>
      obtain ⟨_, _, sameCompleted, sameAssembly⟩ :=
        ready.refused member timely answer _ rfl
      refine ⟨?_, ?_, ?_⟩
      · rw [Undelivered, sameKey, sameCompleted]
        exact scarce.undelivered
      · rw [World.held, sameKey, Reassembler.heldAt, sameAssembly]
        exact scarce.held
      · rw [sameKey, sameAssembly]
        exact scarce.updatedAt
  | true =>
      have included :
          insert arrival.frame.fragmentIndex
              (world.held side messageId) ⊆ allowed :=
        Finset.insert_subset (permitted answer) scarce.held
      obtain ⟨_, _, completes | stored⟩ :=
        ready.accepted member timely scarce.undelivered answer _ rfl
      · have bound := Finset.card_le_card included
        exact absurd (completes.2.trans bound) (Nat.not_le_of_lt few)
      · obtain ⟨stillUndelivered, heldNext, updatedAt⟩ := stored
        refine ⟨stillUndelivered, by rw [heldNext]; exact included, ?_⟩
        rw [sameKey]
        intro assembly found
        rcases updatedAt assembly found with isNow | earlier
        · exact isNow.trans prompt.now
        · exact scarce.updatedAt assembly earlier

/-- The same for several arrivals, none of them above the window. -/
theorem scarce_run
    (ready : Retransmits tunnel side messageId message frames world)
    (few : allowed.card < message.count)
    (scarce : Scarce side messageId allowed time world)
    {arrivals : List Arrival}
    (drawn : ∀ arrival ∈ arrivals, arrival.frame ∈ frames)
    (prompt :
      ∀ arrival ∈ arrivals, Prompt (world side).agent time arrival)
    (settled :
      ∀ arrival ∈ arrivals,
        (arrival.frame.sequence : Int) ≤
          (world side).agent.replay.highest)
    (permitted :
      ∀ arrival ∈ arrivals,
        ((world side).agent.replay.accept arrival.frame.sequence
            arrival.frame.sessionId).2 = true →
          arrival.frame.fragmentIndex ∈ allowed) :
    (redelivery tunnel side).EveryStep (Timely side messageId) world
        arrivals ∧
      Scarce side messageId allowed time
        ((redelivery tunnel side).run world arrivals) := by
  induction arrivals generalizing world with
  | nil =>
      exact ⟨trivial, scarce⟩
  | cons arrival rest inductionHypothesis =>
      have member := drawn arrival List.mem_cons_self
      have here := prompt arrival List.mem_cons_self
      have timely := scarce.timely here
      have next := ready.step member timely
      have scarceNext :=
        ready.scarce_step few scarce member here
          (permitted arrival List.mem_cons_self)
      obtain ⟨highest, keeps⟩ :=
        ready.window_step member timely scarce.undelivered
      have sameHighest :
          (((redelivery tunnel side).step world arrival).1
            side).agent.replay.highest =
              (world side).agent.replay.highest := by
        rw [highest, max_eq_left (settled arrival List.mem_cons_self)]
        exact ite_self _
      obtain ⟨restTimely, ends⟩ :=
        inductionHypothesis next scarceNext
          (fun other inRest =>
            drawn other (List.mem_cons_of_mem _ inRest))
          (fun other inRest =>
            prompt_step here.listens
              (prompt other (List.mem_cons_of_mem _ inRest)))
          (fun other inRest => by
            rw [sameHighest]
            exact settled other (List.mem_cons_of_mem _ inRest))
          (fun other inRest accepts => by
            have inFrames := drawn other (List.mem_cons_of_mem _ inRest)
            obtain ⟨unseen, inside⟩ := (next.accepts_iff inFrames).mp accepts
            rw [sameHighest] at inside
            exact permitted other (List.mem_cons_of_mem _ inRest)
              ((ready.accepts_iff inFrames).mpr
                ⟨fun known => unseen (keeps _ known), inside⟩))
      exact ⟨⟨timely, restTimely⟩, ends⟩

theorem nodup_frames
    (ready : Retransmits tunnel side messageId message frames world) :
    frames.Nodup := by
  have distinct := message.nodup_fragmentIndex
  rw [← ready.packets.fragments] at distinct
  exact (distinct.of_map _).of_map _

/-- Some frame of the message has the largest sequence number. -/
theorem exists_last
    (ready : Retransmits tunnel side messageId message frames world) :
    ∃ last ∈ frames, ∀ frame ∈ frames,
      (frame.sequence : Int) ≤ last.sequence := by
  have nonempty : frames.toFinset.Nonempty := by
    have first :=
      Message.mem_fragments_iff.mpr (.inl ⟨0, message.count_pos, rfl⟩)
    rw [← ready.packets.fragments] at first
    obtain ⟨frame, member, _⟩ := List.mem_map.mp first
    exact ⟨frame, List.mem_toFinset.mpr member⟩
  obtain ⟨last, member, greatest⟩ :=
    frames.toFinset.exists_max_image Frame.sequence nonempty
  exact ⟨last, List.mem_toFinset.mp member, fun frame inFrames =>
    Int.ofNat_le.mpr (greatest frame (List.mem_toFinset.mpr inFrames))⟩

/-- The fragments that are held or will be in any order of arrival. -/
def certain
    (world : World)
    (side : Side)
    (messageId : Nat)
    (frames : List Frame) : Finset Nat :=
  world.held side messageId ∪
    ((world.acceptable side frames).map Frame.fragmentIndex).toFinset

theorem mem_certain_of_acceptable
    {frame : Frame}
    (ready : Retransmits tunnel side messageId message frames world)
    (member : frame ∈ frames)
    (accepts :
      ((world side).agent.replay.accept frame.sequence
        frame.sessionId).2 = true)
    (near :
      ∀ other ∈ frames,
        (other.sequence : Int) - frame.sequence <
          ReplayWindow.defaultSize) :
    frame.fragmentIndex ∈ certain world side messageId frames := by
  have notCovered :
      ¬ (world side).agent.replay.Covers frame.sequence
        frame.sessionId := by
    rw [ready.covers_iff, accepts]
    exact Bool.noConfusion
  apply Finset.mem_union_right
  rw [List.mem_toFinset]
  apply List.mem_map_of_mem
  rw [acceptable, List.mem_filter]
  exact ⟨member, decide_eq_true ⟨notCovered, near⟩⟩

/-- Enough certain fragments complete the message in every order. -/
theorem completes_of_enough
    (ready : Retransmits tunnel side messageId message frames world)
    (undelivered : world.Undelivered side messageId)
    (enough :
      message.count ≤ (certain world side messageId frames).card)
    {arrivals : List Arrival}
    (inSomeOrder : (arrivals.map Arrival.frame).Perm frames)
    (timely :
      (redelivery tunnel side).EveryStep (Timely side messageId) world
        arrivals) :
    (world.keyOf side messageId, message.payload) ∈
      (((redelivery tunnel side).run world arrivals)
        side).journal.completed := by
  obtain ⟨last, _, greatest⟩ := ready.exists_last
  have drawn : ∀ arrival ∈ arrivals, arrival.frame ∈ frames :=
    fun arrival member =>
      inSomeOrder.subset (List.mem_map_of_mem member)
  rcases ready.completed_or_held undelivered
      (le_max_left _ (last.sequence : Int))
      (fun frame member =>
        (greatest frame member).trans (le_max_right _ _))
      drawn (inSomeOrder.nodup_iff.mpr ready.nodup_frames) timely _ rfl with
    completed | ⟨ends, heldLater, arrived⟩
  · exact completed
  · have included :
        certain world side messageId frames ⊆
          ((redelivery tunnel side).run world arrivals).held side
            messageId := by
      intro index member
      rcases Finset.mem_union.mp member with isHeld | isAcceptable
      · exact heldLater isHeld
      · rw [List.mem_toFinset, List.mem_map] at isAcceptable
        obtain ⟨frame, inAcceptable, sameIndex⟩ := isAcceptable
        rw [acceptable, List.mem_filter] at inAcceptable
        obtain ⟨inFrames, notCovered, near⟩ :=
          And.imp_right of_decide_eq_true inAcceptable
        rw [ready.covers_iff, Bool.not_eq_false] at notCovered
        obtain ⟨unseen, inside⟩ :=
          (ready.accepts_iff inFrames).mp notCovered
        obtain ⟨arrival, inArrivals, sameFrame⟩ :=
          List.mem_map.mp (inSomeOrder.symm.subset inFrames)
        have nearLast := near last ‹last ∈ frames›
        rw [← sameIndex, ← sameFrame]
        rw [← sameFrame] at unseen inside nearLast
        exact arrived arrival inArrivals unseen (by omega)
    have sound := Sound.of_reachable ends.reached
    have tooFew :=
      (sound.receivers side).incomplete _ message ends.sent
    have bound := Finset.card_le_card included
    exact absurd (enough.trans bound) (Nat.not_le_of_lt tooFew)

/-- A packet that arrives at a chosen time, whatever its timestamp. -/
def arriving
    (source : Address)
    (time : Time)
    (frame : Frame) : Arrival where
  frame := frame
  source := source
  surroundings :=
    { nowMs := frame.timestampMs, clockMs := 0, now := time }

/-- With too few certain fragments some order leaves the message incomplete. -/
theorem exists_incomplete_order
    (ready : Retransmits tunnel side messageId message frames world)
    (undelivered : world.Undelivered side messageId)
    (inWindow :
      ∀ frame ∈ frames,
        (world side).agent.replay.highest - frame.sequence <
          ReplayWindow.defaultSize)
    (few :
      (certain world side messageId frames).card < message.count) :
    ∃ arrivals : List Arrival,
      (arrivals.map Arrival.frame).Perm frames ∧
        (redelivery tunnel side).EveryStep (Timely side messageId) world
          arrivals ∧
        ((redelivery tunnel side).run world arrivals).Undelivered side
          messageId := by
  obtain ⟨last, lastMember, greatest⟩ := ready.exists_last
  obtain ⟨source, listens⟩ := (world side).agent.role.exists_listens
  obtain ⟨time, updatedAt⟩ :
      ∃ time, ∀ assembly,
        (world side).agent.reassembler.assemblies.get?
            (world.keyOf side messageId) = some assembly →
        assembly.updatedAt = time := by
    cases found :
        (world side).agent.reassembler.assemblies.get?
          (world.keyOf side messageId) with
    | none =>
        exact ⟨0, fun assembly impossible => by cases impossible⟩
    | some assembly =>
        exact ⟨assembly.updatedAt, fun other same =>
          (Option.some.inj same) ▸ rfl⟩
  have scarce :
      Scarce side messageId (certain world side messageId frames) time
        world :=
    ⟨undelivered, Finset.subset_union_left, updatedAt⟩
  have prompt :
      ∀ frame, Prompt (world side).agent time
        (arriving source time frame) := by
    intro frame
    refine ⟨listens, ?_, rfl⟩
    simp only [arriving, sub_self, abs_zero]
    exact (world side).agent.codec.skewNonnegative
  -- The newest packet goes first, so that the window is as high as it gets.
  have lastPermitted :
      ((world side).agent.replay.accept last.sequence
          last.sessionId).2 = true →
        last.fragmentIndex ∈ certain world side messageId frames := by
    intro accepts
    refine ready.mem_certain_of_acceptable lastMember accepts ?_
    intro other inFrames
    have bound := greatest other inFrames
    have positive : (0 : Int) < ReplayWindow.defaultSize := by decide
    omega
  have lastTimely := scarce.timely (prompt last)
  have next := ready.step lastMember lastTimely
  have scarceNext :=
    ready.scarce_step few scarce lastMember (prompt last) lastPermitted
  obtain ⟨raised, keeps⟩ :=
    ready.raises_window lastMember lastTimely undelivered
      (inWindow last lastMember)
  rw [show (arriving source time last).frame = last from rfl] at raised
  have others :
      ∀ arrival ∈ (frames.erase last).map (arriving source time),
        arrival.frame ∈ frames ∧
          Prompt (world side).agent time arrival := by
    intro arrival member
    obtain ⟨frame, inOthers, rfl⟩ := List.mem_map.mp member
    exact ⟨List.mem_of_mem_erase inOthers, prompt frame⟩
  obtain ⟨restTimely, ends⟩ :=
    next.scarce_run few scarceNext
      (fun arrival member => (others arrival member).1)
      (fun arrival member =>
        prompt_step listens (others arrival member).2)
      (fun arrival member => by
        rw [raised]
        exact (greatest _ (others arrival member).1).trans
          (le_max_right _ _))
      (fun arrival member accepts => by
        have inFrames := (others arrival member).1
        obtain ⟨unseen, inside⟩ := (next.accepts_iff inFrames).mp accepts
        rw [raised] at inside
        refine ready.mem_certain_of_acceptable inFrames
          ((ready.accepts_iff inFrames).mpr
            ⟨fun known => unseen (keeps _ known), by omega⟩) ?_
        intro other otherMember
        have bound := greatest other otherMember
        omega)
  refine ⟨arriving source time last ::
    (frames.erase last).map (arriving source time), ?_,
    ⟨lastTimely, restTimely⟩, ends.undelivered⟩
  have sameFrames :
      ((frames.erase last).map (arriving source time)).map
          Arrival.frame = frames.erase last := by
    rw [List.map_map]
    exact List.map_id _
  rw [List.map_cons, sameFrames]
  exact (List.perm_cons_erase lastMember).symm

end Retransmits

/--
In every reachable state of a receiver of one session: presenting all packets
of a message once more, in any order and before a timeout, completes the
message if and only if the fragments held and those the window still accepts
are as many as the message has data fragments.
-/
theorem full_retransmission_completes_iff
    {tunnel : Tunnel}
    {world : World}
    (reached : (system tunnel).Reachable world)
    (side : Side)
    {messageId : Nat}
    {message : Message}
    {frames : List Frame}
    (only :
      ∀ pair ∈ (world side).journal.admitted,
        pair.1 = (world side.peer).agent.codec.sessionId)
    (packets : world.FramesOf tunnel side messageId message frames)
    (undelivered : world.Undelivered side messageId)
    (inWindow :
      ∀ frame ∈ frames,
        (world side).agent.replay.highest - frame.sequence <
          ReplayWindow.defaultSize) :
    (∀ arrivals : List Arrival,
      (arrivals.map Arrival.frame).Perm frames →
      (redelivery tunnel side).EveryStep (Timely side messageId) world
        arrivals →
      (world.keyOf side messageId, message.payload) ∈
        (((redelivery tunnel side).run world arrivals)
          side).journal.completed) ↔
      message.count ≤
        (world.held side messageId ∪
          ((world.acceptable side frames).map
            Frame.fragmentIndex).toFinset).card := by
  have ready :
      Retransmits tunnel side messageId message frames world :=
    ⟨reached, only, packets⟩
  constructor
  · intro completes
    by_contra notEnough
    obtain ⟨arrivals, inSomeOrder, timely, incomplete⟩ :=
      ready.exists_incomplete_order undelivered inWindow
        (Nat.lt_of_not_le notEnough)
    exact incomplete _ (completes arrivals inSomeOrder timely)
      (Retransmits.keyOf_run world arrivals).symm
  · intro enough arrivals inSomeOrder timely
    exact ready.completes_of_enough undelivered enough inSomeOrder timely

/-- The foreign agent sends a message of two fragments and a parity one. -/
def sendThree : List (Side × Action) := [
  (.foreign, .innerDatagram (List.replicate 256 5 ++ [8, 9])
    { host := "127.0.0.1", port := 51820 }),
  (.foreign, .buildPacket 1 1000),
  (.foreign, .buildPacket 1 1000),
  (.foreign, .buildPacket 1 1000)]

/-- The three packets, in the order of their sequence numbers. -/
def threePackets : List Bytes :=
  ((machine.run plain sendThree) .foreign).journal.sealed.reverse

/-- A packet reaches the Iran agent at a monotonic time. -/
def reachIran (now : Time) (packet : Bytes) : Side × Action :=
  (.iran, .receive packet { host := "192.0.2.1", port := 443 }
    { nowMs := 1200, clockMs := 1200, now := now })

/-- Two data fragments arrive, and each times out before the next packet. -/
def loseTwice : List (Side × Action) :=
  sendThree ++ [
    reachIran 0 (threePackets.getD 0 []),
    (.iran, .cleanup 31),
    reachIran 31 (threePackets.getD 1 []),
    (.iran, .cleanup 62)]

/--
The window holds all three sequence numbers and nothing times out any more,
but the retransmission of all three packets completes nothing.
-/
theorem retransmission_completes_nothing :
    (system .plain).Reachable (machine.run plain loseTwice) ∧
      threePackets.length = 3 ∧
      ((machine.run plain loseTwice) .iran).agent.replay.highest = 2 ∧
      ((machine.run plain loseTwice) .iran).journal.completed = [] ∧
      ((machine.run (machine.run plain loseTwice)
        (threePackets.map (reachIran 62))) .iran).journal.completed =
          [] := by
  have relays : machine.EveryStep Relays plain loseTwice := by
    decide +kernel
  exact ⟨TransitionSystem.Reachable.run
      (fun _ _ => step_of_relays .plain) (.start plain_started) relays,
    by decide +kernel, by decide +kernel, by decide +kernel,
    by decide +kernel⟩

/-- A frame of the sample message. -/
def longFrame (index flags : Nat) (payload : Bytes) : Frame where
  kind := .dataDown
  flags := flags
  tunnelId := List.replicate 16 7
  sessionId := 2
  sequence := index + 1
  timestampMs := 1000
  messageId := 1
  messageLen := 258
  fragmentIndex := index
  fragmentCount := 2
  payload := payload

/-- The frames of the three packets. -/
def threeFrames : List Frame := [
  longFrame 0 0 (List.replicate 256 5),
  longFrame 1 0 [8, 9],
  longFrame 2 1 ([13, 12] ++ List.replicate 254 5)]

/-- The first packet times out, and only the second is held. -/
def loseFirst : List (Side × Action) :=
  sendThree ++ [
    reachIran 0 (threePackets.getD 0 []),
    (.iran, .cleanup 31),
    reachIran 31 (threePackets.getD 1 [])]

/-- All three packets once more, the last one first. -/
def threeArrivals : List Arrival :=
  threeFrames.reverse.map
    (Retransmits.arriving { host := "192.0.2.1", port := 443 } 40)

/-- What the packets of the message are decoded to. -/
theorem decode_threePackets :
    threePackets.map
        (fun packet =>
          (FrameCodec.plain 1 (by decide)).decode packet 1200) =
      threeFrames.map .ok := by
  decide +kernel

theorem valid_threeFrames :
    ∀ frame ∈ threeFrames, frame.Valid := by
  intro frame member
  have decoded :
      Except.ok (ε := Failure) frame ∈ threeFrames.map .ok :=
    List.mem_map_of_mem member
  rw [← decode_threePackets] at decoded
  obtain ⟨packet, _, isFrame⟩ := List.mem_map.mp decoded
  have lawful : (FrameCodec.plain 1 (by decide)).aead.Lawful :=
    Tunnel.plain.lawful
  exact ((FrameCodec.decode_eq_ok_iff lawful).mp isFrame).1

/--
One fragment was dropped and another one is held; the window refuses both, and
the retransmission completes the message with its parity fragment.
-/
theorem full_retransmission_completes_iff_after_timeout :
    ((machine.run plain loseFirst).keyOf .iran 1, Message.sample.payload) ∈
      (((redelivery .plain .iran).run (machine.run plain loseFirst)
        threeArrivals) .iran).journal.completed := by
  have relays : machine.EveryStep Relays plain loseFirst := by
    decide +kernel
  have reached :=
    TransitionSystem.Reachable.run
      (fun _ _ => step_of_relays .plain) (.start plain_started) relays
  have packets :
      (machine.run plain loseFirst).FramesOf .plain .iran 1 Message.sample
        threeFrames := by
    have onWire :
        ∀ frame ∈ threeFrames,
          Tunnel.plain.wire frame ∈
              ((machine.run plain loseFirst) .foreign).journal.sealed ∧
            frame.kind = .dataDown ∧ frame.messageId = 1 := by
      decide +kernel
    exact
      { cuts := ⟨by decide +kernel, by decide +kernel⟩
        begun := by decide +kernel
        sealed := fun frame member =>
          ⟨⟨valid_threeFrames frame member, (onWire frame member).1⟩,
            (onWire frame member).2⟩
        fragments := by decide +kernel }
  have undelivered :
      (machine.run plain loseFirst).Undelivered .iran 1 := by
    decide +kernel
  have sameFrames :
      threeArrivals.map Arrival.frame = threeFrames.reverse := by
    decide +kernel
  have timely :
      (redelivery .plain .iran).EveryStep (Timely .iran 1)
        (machine.run plain loseFirst) threeArrivals := by
    decide +kernel
  have inSomeOrder :
      (threeArrivals.map Arrival.frame).Perm threeFrames := by
    rw [sameFrames]
    exact List.reverse_perm threeFrames
  exact (full_retransmission_completes_iff reached .iran
    (by decide +kernel) packets undelivered (by decide +kernel)).mpr
    (by decide +kernel) threeArrivals inSomeOrder timely

end World

end H3ntun
