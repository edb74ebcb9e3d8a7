import H3ntun.ReassemblerSteps
import H3ntun.ReplayReference
import H3ntun.AgentSteps

namespace H3ntun

/-!
# The receiving half never delivers twice

What the window has accepted bounds what the reassembler can complete: each
completion uses up as many accepted fragments of the message as it has data
fragments, and there is at most one fragment more.
-/

/--
Where data frames come from: `sent` holds of the messages sent under a key,
`authentic` of the frames the peers encoded.
-/
structure Provenance where
  sent : Nat × Nat → Message → Prop
  authentic : Frame → Prop
  data : FrameKind
  unique :
    ∀ key first second, sent key first → sent key second → first = second
  carried :
    ∀ frame, authentic frame → frame.kind = data →
      ∃ message, sent frame.key message ∧ frame.spec ∈ message.fragments
  distinct :
    ∀ first second,
      authentic first →
      authentic second →
      first.kind = data →
      second.kind = data →
      first.key = second.key →
      first.fragmentIndex = second.fragmentIndex →
      first = second

/-- Indices of the fragments of a message the window accepted. -/
def Journal.acceptedIndices
    (journal : Journal)
    (data : FrameKind)
    (key : Nat × Nat) : Finset Nat :=
  ((journal.accepted.filter fun frame =>
    frame.kind = data ∧ frame.key = key).map
      Frame.fragmentIndex).toFinset

/-- How often a message was completed. -/
def Journal.completions (journal : Journal) (key : Nat × Nat) : Nat :=
  journal.completed.countP fun entry => entry.1 = key

/-- What holds of the receiving half and its journal. -/
structure Receiver.Sound
    (provenance : Provenance)
    (receiver : Receiver)
    (journal : Journal) : Prop where
  replay :
    ∃ reference,
      receiver.replay.Refines ReplayWindow.defaultSize reference ∧
        reference.accepted = journal.admitted
  admitted :
    ∀ frame ∈ journal.accepted,
      ((frame.sessionId : Int), (frame.sequence : Int)) ∈
        journal.admitted
  authentic :
    ∀ frame ∈ journal.accepted, provenance.authentic frame
  genuine :
    ∀ key assembly,
      receiver.reassembler.assemblies.get? key = some assembly →
      ∃ message,
        provenance.sent key message ∧ message.Genuine assembly
  held :
    ∀ key,
      receiver.reassembler.heldAt key ⊆
        journal.acceptedIndices provenance.data key
  completed :
    ∀ entry ∈ journal.completed, ∃ message,
      provenance.sent entry.1 message ∧ entry.2 = message.payload
  counted :
    ∀ key message,
      provenance.sent key message →
      message.count * journal.completions key +
          (receiver.reassembler.heldAt key).card ≤
        (journal.acceptedIndices provenance.data key).card
  incomplete :
    ∀ key message,
      provenance.sent key message →
      (receiver.reassembler.heldAt key).card < message.count
  remembered :
    ∀ key,
      receiver.reassembler.completed.contains key = true →
      ∃ entry ∈ journal.completed, entry.1 = key
  handedOver :
    (journal.handedOver.map fun handover =>
      (handover.key, handover.payload)).Sublist journal.completed

namespace Receiver.Sound

variable
  {provenance : Provenance}
  {receiver : Receiver}
  {journal : Journal}

theorem mem_acceptedIndices_iff
    {key : Nat × Nat}
    {index : Nat} :
    index ∈ journal.acceptedIndices provenance.data key ↔
      ∃ frame ∈ journal.accepted,
        frame.kind = provenance.data ∧ frame.key = key ∧
          frame.fragmentIndex = index := by
  simp only [Journal.acceptedIndices, List.mem_toFinset, List.mem_map,
    List.mem_filter, decide_eq_true_eq]
  constructor
  · intro named
    obtain ⟨frame, ⟨member, isData, sameKey⟩, sameIndex⟩ := named
    exact ⟨frame, member, isData, sameKey, sameIndex⟩
  · intro named
    obtain ⟨frame, member, isData, sameKey, sameIndex⟩ := named
    exact ⟨frame, ⟨member, isData, sameKey⟩, sameIndex⟩

/-- Accepted fragments are fragments of the message. -/
theorem card_acceptedIndices_le
    (sound : receiver.Sound provenance journal)
    {key : Nat × Nat}
    {message : Message}
    (sent : provenance.sent key message) :
    (journal.acceptedIndices provenance.data key).card ≤
      message.fragments.length := by
  have included :
      journal.acceptedIndices provenance.data key ⊆
        (message.fragments.map FragmentSpec.fragmentIndex).toFinset := by
    intro index member
    obtain ⟨frame, accepted, isData, sameKey, sameIndex⟩ :=
      mem_acceptedIndices_iff.mp member
    obtain ⟨carried, carriedSent, carries⟩ :=
      provenance.carried frame (sound.authentic frame accepted) isData
    have sameMessage :=
      provenance.unique key carried message (sameKey ▸ carriedSent) sent
    rw [List.mem_toFinset, ← sameIndex]
    exact List.mem_map.mpr ⟨frame.spec, sameMessage ▸ carries, rfl⟩
  calc (journal.acceptedIndices provenance.data key).card
      ≤ (message.fragments.map
          FragmentSpec.fragmentIndex).toFinset.card :=
        Finset.card_le_card included
    _ ≤ (message.fragments.map FragmentSpec.fragmentIndex).length :=
        List.toFinset_card_le _
    _ = message.fragments.length := List.length_map _

/-- No message is completed twice. -/
theorem completions_le_one
    (sound : receiver.Sound provenance journal)
    (key : Nat × Nat) :
    journal.completions key ≤ 1 := by
  by_contra twice
  have positive : 0 < journal.completions key := by omega
  obtain ⟨entry, member, sameKey⟩ := List.countP_pos_iff.mp positive
  obtain ⟨message, sent, _⟩ := sound.completed entry member
  rw [of_decide_eq_true sameKey] at sent
  have counted := sound.counted key message sent
  have bound := sound.card_acceptedIndices_le sent
  have some := message.count_pos
  have doubled :
      message.count * 2 ≤ message.count * journal.completions key :=
    Nat.mul_le_mul_left _ (by omega)
  have few := message.length_fragments_le
  have single := message.length_fragments_of_single
  omega

/-- A journal to which one step of the receiving half has been added. -/
structure Extends
    (journal later : Journal)
    (accepted : Option Frame)
    (completed : Option ((Nat × Nat) × Bytes))
    (handedOver : Option Handover) : Prop where
  nextAccepted :
    later.accepted = accepted.toList ++ journal.accepted
  nextAdmitted :
    later.admitted =
      (accepted.toList.map fun frame =>
        ((frame.sessionId : Int), (frame.sequence : Int))) ++
          journal.admitted
  nextCompleted :
    later.completed = completed.toList ++ journal.completed
  nextHandedOver :
    later.handedOver = handedOver.toList ++ journal.handedOver

theorem acceptedIndices_congr
    {later : Journal}
    (same : later.accepted = journal.accepted)
    (data : FrameKind)
    (key : Nat × Nat) :
    later.acceptedIndices data key = journal.acceptedIndices data key := by
  rw [Journal.acceptedIndices, same, Journal.acceptedIndices]

/-- Losing entries and dropping frames keeps the invariant. -/
theorem lose
    (sound : receiver.Sound provenance journal)
    {replay : ReplayWindow}
    {reassembler : Reassembler}
    {later : Journal}
    (extended : Extends journal later none none none)
    (sameReplay : replay = receiver.replay)
    (kept :
      ∀ key assembly,
        reassembler.assemblies.get? key = some assembly →
        receiver.reassembler.assemblies.get? key = some assembly)
    (keptCompleted :
      ∀ key,
        reassembler.completed.contains key = true →
        receiver.reassembler.completed.contains key = true) :
    Receiver.Sound provenance
      { replay := replay, reassembler := reassembler } later := by
  have sameAccepted : later.accepted = journal.accepted :=
    extended.nextAccepted
  have sameAdmitted : later.admitted = journal.admitted :=
    extended.nextAdmitted
  have sameCompleted : later.completed = journal.completed :=
    extended.nextCompleted
  have sameHandedOver : later.handedOver = journal.handedOver :=
    extended.nextHandedOver
  have heldSubset :
      ∀ key,
        reassembler.heldAt key ⊆ receiver.reassembler.heldAt key :=
    fun key => Reassembler.heldAt_subset (kept key)
  refine {
    replay := ?_
    admitted := ?_
    authentic := ?_
    genuine := fun key assembly found =>
      sound.genuine key assembly (kept key assembly found)
    held := ?_
    completed := ?_
    counted := ?_
    incomplete := fun key message sent =>
      Nat.lt_of_le_of_lt (Finset.card_le_card (heldSubset key))
        (sound.incomplete key message sent)
    remembered := ?_
    handedOver := ?_
  }
  · rw [sameReplay, sameAdmitted]
    exact sound.replay
  · rw [sameAccepted, sameAdmitted]
    exact sound.admitted
  · rw [sameAccepted]
    exact sound.authentic
  · intro key
    rw [acceptedIndices_congr sameAccepted]
    exact (heldSubset key).trans (sound.held key)
  · rw [sameCompleted]
    exact sound.completed
  · intro key message sent
    have counted := sound.counted key message sent
    have fewer := Finset.card_le_card (heldSubset key)
    rw [acceptedIndices_congr sameAccepted, Journal.completions,
      sameCompleted]
    exact Nat.le_trans (Nat.add_le_add_left fewer _) counted
  · intro key contained
    rw [sameCompleted]
    exact sound.remembered key (keptCompleted key contained)
  · rw [sameHandedOver, sameCompleted]
    exact sound.handedOver

/-- The window never accepts a pair twice. -/
theorem not_admitted
    (sound : receiver.Sound provenance journal)
    {sequence sessionId : Int}
    (accepts : (receiver.replay.accept sequence sessionId).2 = true) :
    (sessionId, sequence) ∉ journal.admitted := by
  obtain ⟨reference, refines, remembered⟩ := sound.replay
  rcases refines.accept (by decide) sequence sessionId with
    ⟨admitted, _⟩ | ⟨_, unchanged⟩
  · exact remembered ▸ admitted.2.2.1
  · rw [unchanged] at accepts
    cases accepts

/-- An accepted pair is recorded on both sides. -/
theorem replay_accept
    (sound : receiver.Sound provenance journal)
    {sequence sessionId : Int}
    (accepts : (receiver.replay.accept sequence sessionId).2 = true) :
    ∃ reference,
      (receiver.replay.accept sequence sessionId).1.Refines
          ReplayWindow.defaultSize reference ∧
        reference.accepted =
          (sessionId, sequence) :: journal.admitted := by
  obtain ⟨reference, refines, remembered⟩ := sound.replay
  rcases refines.accept (by decide) sequence sessionId with
    ⟨_, _, recorded⟩ | ⟨_, unchanged⟩
  · exact ⟨_, recorded, by rw [ReplayReference.record, remembered]⟩
  · rw [unchanged] at accepts
    cases accepts

/-- A refused frame changes nothing in the window. -/
theorem replay_refuse
    (sound : receiver.Sound provenance journal)
    {sequence sessionId : Int}
    (refuses : (receiver.replay.accept sequence sessionId).2 = false) :
    (receiver.replay.accept sequence sessionId).1 = receiver.replay := by
  obtain ⟨reference, refines, _⟩ := sound.replay
  rcases refines.accept (by decide) sequence sessionId with
    ⟨_, accepts, _⟩ | ⟨_, unchanged⟩
  · rw [accepts] at refuses
    cases refuses
  · rw [unchanged]

/-- A data frame the window accepts is a new fragment of its message. -/
theorem newIndex
    (sound : receiver.Sound provenance journal)
    {frame : Frame}
    (authentic : provenance.authentic frame)
    (isData : frame.kind = provenance.data)
    (accepts :
      (receiver.replay.accept frame.sequence frame.sessionId).2 = true) :
    frame.fragmentIndex ∉
      journal.acceptedIndices provenance.data frame.key := by
  intro member
  obtain ⟨earlier, accepted, earlierData, sameKey, sameIndex⟩ :=
    mem_acceptedIndices_iff.mp member
  have same :=
    provenance.distinct earlier frame (sound.authentic earlier accepted)
      authentic earlierData isData sameKey sameIndex
  exact sound.not_admitted accepts
    (same ▸ sound.admitted earlier accepted)

/-- Indices accepted for a message, after one more data frame. -/
theorem acceptedIndices_cons
    (provenance : Provenance)
    {later : Journal}
    {frame : Frame}
    (nextAccepted : later.accepted = frame :: journal.accepted)
    (isData : frame.kind = provenance.data)
    (key : Nat × Nat) :
    later.acceptedIndices provenance.data key =
      if frame.key = key then
        insert frame.fragmentIndex
          (journal.acceptedIndices provenance.data key)
      else
        journal.acceptedIndices provenance.data key := by
  ext index
  rw [mem_acceptedIndices_iff, nextAccepted]
  by_cases own : frame.key = key
  · rw [if_pos own, Finset.mem_insert, mem_acceptedIndices_iff]
    simp [isData, own, eq_comm]
  · rw [if_neg own, mem_acceptedIndices_iff]
    simp [own]

/-- A frame without data touches no fragment of a message. -/
theorem acceptedIndices_cons_other
    (provenance : Provenance)
    {later : Journal}
    {frame : Frame}
    (nextAccepted : later.accepted = frame :: journal.accepted)
    (notData : frame.kind ≠ provenance.data)
    (key : Nat × Nat) :
    later.acceptedIndices provenance.data key =
      journal.acceptedIndices provenance.data key := by
  ext index
  rw [mem_acceptedIndices_iff, mem_acceptedIndices_iff, nextAccepted]
  simp [notData]

/--
Accepting a frame, whatever it does to the reassembler, as long as the
entries of messages and the completions still add up.
-/
theorem acceptFrame
    (sound : receiver.Sound provenance journal)
    {frame : Frame}
    {reassembler : Reassembler}
    {completed : Option ((Nat × Nat) × Bytes)}
    {handedOver : Option Handover}
    {later : Journal}
    (extended : Extends journal later (some frame) completed handedOver)
    (authentic : provenance.authentic frame)
    (accepts :
      (receiver.replay.accept frame.sequence frame.sessionId).2 = true)
    (genuine :
      ∀ key assembly,
        reassembler.assemblies.get? key = some assembly →
        ∃ message,
          provenance.sent key message ∧ message.Genuine assembly)
    (held :
      ∀ key,
        reassembler.heldAt key ⊆
          later.acceptedIndices provenance.data key)
    (sentCompleted :
      ∀ entry ∈ completed, ∃ message,
        provenance.sent entry.1 message ∧ entry.2 = message.payload)
    (counted :
      ∀ key message,
        provenance.sent key message →
        message.count * later.completions key +
            (reassembler.heldAt key).card ≤
          (later.acceptedIndices provenance.data key).card)
    (incomplete :
      ∀ key message,
        provenance.sent key message →
        (reassembler.heldAt key).card < message.count)
    (remembered :
      ∀ key,
        reassembler.completed.contains key = true →
        ∃ entry ∈ later.completed, entry.1 = key)
    (handsOver :
      ∀ handover ∈ handedOver,
        completed = some (handover.key, handover.payload)) :
    Receiver.Sound provenance
      { replay :=
          (receiver.replay.accept frame.sequence frame.sessionId).1
        reassembler := reassembler } later := by
  refine {
    replay := ?_
    admitted := ?_
    authentic := ?_
    genuine := genuine
    held := held
    completed := ?_
    counted := counted
    incomplete := incomplete
    remembered := remembered
    handedOver := ?_
  }
  · rw [extended.nextAdmitted]
    exact sound.replay_accept accepts
  · rw [extended.nextAccepted, extended.nextAdmitted]
    intro other member
    rcases List.mem_cons.mp member with rfl | earlier
    · exact List.mem_cons_self
    · exact List.mem_cons_of_mem _ (sound.admitted other earlier)
  · rw [extended.nextAccepted]
    intro other member
    rcases List.mem_cons.mp member with rfl | earlier
    · exact authentic
    · exact sound.authentic other earlier
  · rw [extended.nextCompleted]
    intro entry member
    rcases List.mem_append.mp member with isNew | earlier
    · exact sentCompleted entry (Option.mem_toList.mp isNew)
    · exact sound.completed entry earlier
  · rw [extended.nextHandedOver, extended.nextCompleted]
    cases handedOver with
    | none =>
        exact sound.handedOver.trans (List.sublist_append_right _ _)
    | some handover =>
        rw [handsOver handover rfl]
        exact sound.handedOver.cons_cons _

/-- Accepting a frame without data. -/
theorem acceptOther
    (sound : receiver.Sound provenance journal)
    {frame : Frame}
    {later : Journal}
    (extended : Extends journal later (some frame) none none)
    (authentic : provenance.authentic frame)
    (accepts :
      (receiver.replay.accept frame.sequence frame.sessionId).2 = true)
    (notData : frame.kind ≠ provenance.data) :
    Receiver.Sound provenance
      { receiver with
        replay :=
          (receiver.replay.accept frame.sequence frame.sessionId).1 }
      later := by
  have sameIndices :=
    acceptedIndices_cons_other provenance extended.nextAccepted notData
  apply sound.acceptFrame extended authentic accepts sound.genuine
  · intro key
    rw [sameIndices]
    exact sound.held key
  · intro entry member
    cases member
  · intro key message sent
    rw [sameIndices, Journal.completions, extended.nextCompleted]
    exact sound.counted key message sent
  · exact sound.incomplete
  · intro key contained
    rw [extended.nextCompleted]
    exact sound.remembered key contained
  · intro handover member
    cases member

/-- A data frame of a message is accepted and goes to the reassembler. -/
structure AcceptsData
    (provenance : Provenance)
    (receiver : Receiver)
    (journal : Journal)
    (frame : Frame)
    (message : Message)
    (completed : Option ((Nat × Nat) × Bytes))
    (handedOver : Option Handover)
    (later : Journal) : Prop where
  extended :
    Extends journal later (some frame) completed handedOver
  authentic :
    provenance.authentic frame
  accepts :
    (receiver.replay.accept frame.sequence frame.sessionId).2 = true
  isData :
    frame.kind = provenance.data
  sent :
    provenance.sent frame.key message
  handsOver :
    ∀ handover ∈ handedOver,
      completed = some (handover.key, handover.payload)

/-- What the reassembler then has of that message. -/
structure KeepsOwn
    (provenance : Provenance)
    (journal : Journal)
    (frame : Frame)
    (message : Message)
    (completed : Option ((Nat × Nat) × Bytes))
    (later : Journal)
    (reassembler : Reassembler) : Prop where
  genuine :
    message.GenuineAt reassembler frame.key
  held :
    reassembler.heldAt frame.key ⊆
      insert frame.fragmentIndex
        (journal.acceptedIndices provenance.data frame.key)
  completed :
    ∀ entry ∈ completed, entry = (frame.key, message.payload)
  counted :
    message.count * later.completions frame.key +
        (reassembler.heldAt frame.key).card ≤
      (journal.acceptedIndices provenance.data frame.key).card + 1
  incomplete :
    (reassembler.heldAt frame.key).card < message.count
  remembered :
    reassembler.completed.contains frame.key = true →
      ∃ entry ∈ later.completed, entry.1 = frame.key

/-- Other messages keep no fragment they did not have. -/
theorem heldAt_other
    {frame : Frame}
    {key : Nat × Nat}
    (different : frame.key ≠ key)
    (now : Time) :
    (receiver.reassembler.add frame now).1.heldAt key ⊆
      receiver.reassembler.heldAt key :=
  Reassembler.heldAt_subset
    (Reassembler.of_add_other receiver.reassembler different now).1

/-- Other messages are not completed. -/
theorem completions_other
    {frame : Frame}
    {message : Message}
    {completed : Option ((Nat × Nat) × Bytes)}
    {handedOver : Option Handover}
    {later : Journal}
    {reassembler : Reassembler}
    (taken :
      AcceptsData provenance receiver journal frame message completed
        handedOver later)
    (keeps :
      KeepsOwn provenance journal frame message completed later
        reassembler)
    {key : Nat × Nat}
    (different : frame.key ≠ key) :
    later.completions key = journal.completions key := by
  have notNew :
      completed.toList.countP (fun entry => entry.1 = key) = 0 := by
    rw [List.countP_eq_zero]
    intro entry isNew
    rw [keeps.completed entry (Option.mem_toList.mp isNew)]
    simp [different]
  rw [Journal.completions, taken.extended.nextCompleted,
    List.countP_append, notNew, Nat.zero_add, Journal.completions]

/-- The fragments of every message still pay for its completions. -/
theorem counted_after
    (sound : receiver.Sound provenance journal)
    {frame : Frame}
    {message : Message}
    {now : Time}
    {completed : Option ((Nat × Nat) × Bytes)}
    {handedOver : Option Handover}
    {later : Journal}
    (taken :
      AcceptsData provenance receiver journal frame message completed
        handedOver later)
    (keeps :
      KeepsOwn provenance journal frame message completed later
        (receiver.reassembler.add frame now).1)
    {key : Nat × Nat}
    {other : Message}
    (otherSent : provenance.sent key other) :
    other.count * later.completions key +
        ((receiver.reassembler.add frame now).1.heldAt key).card ≤
      (later.acceptedIndices provenance.data key).card := by
  rw [acceptedIndices_cons provenance taken.extended.nextAccepted
    taken.isData]
  by_cases own : frame.key = key
  · subst own
    obtain rfl := provenance.unique _ _ _ otherSent taken.sent
    rw [if_pos rfl, Finset.card_insert_of_notMem
      (sound.newIndex taken.authentic taken.isData taken.accepts)]
    exact keeps.counted
  · rw [if_neg own, completions_other taken keeps own]
    exact Nat.le_trans
      (Nat.add_le_add_left
        (Finset.card_le_card (heldAt_other own now)) _)
      (sound.counted key other otherSent)

/--
A data frame leaves the other messages as they are, so that accepting it is
sound if it is for the message it belongs to.
-/
theorem acceptOwn
    (sound : receiver.Sound provenance journal)
    {frame : Frame}
    {message : Message}
    {now : Time}
    {completed : Option ((Nat × Nat) × Bytes)}
    {handedOver : Option Handover}
    {later : Journal}
    (taken :
      AcceptsData provenance receiver journal frame message completed
        handedOver later)
    (keeps :
      KeepsOwn provenance journal frame message completed later
        (receiver.reassembler.add frame now).1) :
    Receiver.Sound provenance
      { replay :=
          (receiver.replay.accept frame.sequence frame.sessionId).1
        reassembler := (receiver.reassembler.add frame now).1 }
      later := by
  have others :=
    fun key (different : frame.key ≠ key) =>
      Reassembler.of_add_other receiver.reassembler different now
  apply sound.acceptFrame taken.extended taken.authentic taken.accepts
  · intro key assembly found
    by_cases own : frame.key = key
    · subst own
      exact ⟨message, taken.sent, keeps.genuine assembly found⟩
    · exact sound.genuine key assembly ((others key own).1 _ found)
  · intro key
    rw [acceptedIndices_cons provenance taken.extended.nextAccepted
      taken.isData]
    by_cases own : frame.key = key
    · subst own
      rw [if_pos rfl]
      exact keeps.held
    · rw [if_neg own]
      exact (heldAt_other own now).trans (sound.held key)
  · intro entry isNew
    rw [keeps.completed entry isNew]
    exact ⟨message, taken.sent, rfl⟩
  · intro key other otherSent
    exact sound.counted_after taken keeps otherSent
  · intro key other otherSent
    by_cases own : frame.key = key
    · subst own
      obtain rfl := provenance.unique _ _ _ otherSent taken.sent
      exact keeps.incomplete
    · exact Nat.lt_of_le_of_lt
        (Finset.card_le_card (heldAt_other own now))
        (sound.incomplete key other otherSent)
  · intro key contained
    by_cases own : frame.key = key
    · subst own
      exact keeps.remembered contained
    · obtain ⟨entry, member, sameKey⟩ :=
        sound.remembered key ((others key own).2 contained)
      rw [taken.extended.nextCompleted]
      exact ⟨entry, List.mem_append_right _ member, sameKey⟩
  · exact taken.handsOver

/-- A purge drops fragments only. -/
theorem heldAt_purge_subset
    (reassembler : Reassembler)
    (now : Time)
    (key : Nat × Nat) :
    (reassembler.purge now).heldAt key ⊆ reassembler.heldAt key :=
  Reassembler.heldAt_subset fun _ found =>
    (Reassembler.assembly_purge_iff.mp found).1

/-- The reassembler keeps the fragment, or drops it. -/
theorem keepsOwn_of_stores
    (sound : receiver.Sound provenance journal)
    {frame : Frame}
    {message : Message}
    {now : Time}
    {handedOver : Option Handover}
    {later : Journal}
    (taken :
      AcceptsData provenance receiver journal frame message none
        handedOver later)
    {after : Reassembler}
    (stores : Reassembler.Stores message receiver.reassembler after frame
      now) :
    KeepsOwn provenance journal frame message none later after := by
  have purgedHeld :=
    heldAt_purge_subset receiver.reassembler now frame.key
  have sameCompletions :
      later.completions frame.key = journal.completions frame.key := by
    rw [Journal.completions, taken.extended.nextCompleted]
    rfl
  refine {
    genuine := stores.genuine
    held := stores.held.trans
      (Finset.insert_subset_insert _
        (purgedHeld.trans (sound.held frame.key)))
    completed := fun _ isNew => by cases isNew
    counted := ?_
    incomplete := ?_
    remembered := ?_ }
  · have ownCounted := sound.counted frame.key message taken.sent
    have bound := Finset.card_le_card stores.held
    have inserted :=
      Finset.card_insert_le frame.fragmentIndex
        ((receiver.reassembler.purge now).heldAt frame.key)
    have fewer := Finset.card_le_card purgedHeld
    rw [sameCompletions]
    omega
  · rcases stores.fewer with noMore | few
    · exact Nat.lt_of_le_of_lt
        (Finset.card_le_card (noMore.trans purgedHeld))
        (sound.incomplete frame.key message taken.sent)
    · exact few
  · intro contained
    obtain ⟨entry, inCompleted, sameKey⟩ :=
      sound.remembered frame.key (stores.completed contained)
    rw [taken.extended.nextCompleted]
    exact ⟨entry, List.mem_append_right _ inCompleted, sameKey⟩

/-- The reassembler completes the message and holds nothing of it. -/
theorem keepsOwn_of_completes
    (sound : receiver.Sound provenance journal)
    {frame : Frame}
    {message : Message}
    {now : Time}
    {handedOver : Option Handover}
    {later : Journal}
    (taken :
      AcceptsData provenance receiver journal frame message
        (some (frame.key, message.payload)) handedOver later)
    {after : Reassembler}
    (noAssembly : after.assemblies.get? frame.key = none)
    (enough :
      message.count ≤
        (insert frame.fragmentIndex
          ((receiver.reassembler.purge now).heldAt frame.key)).card) :
    KeepsOwn provenance journal frame message
      (some (frame.key, message.payload)) later after := by
  have noneHeld : after.heldAt frame.key = ∅ := by
    rw [Reassembler.heldAt, noAssembly]
  have oneMore :
      later.completions frame.key =
        journal.completions frame.key + 1 := by
    rw [Journal.completions, taken.extended.nextCompleted,
      Option.toList_some, List.singleton_append,
      List.countP_cons_of_pos (by simp), Journal.completions]
  refine {
    genuine := ?_
    held := by rw [noneHeld]; exact Finset.empty_subset _
    completed := fun _ isNew => (Option.some.inj isNew).symm
    counted := ?_
    incomplete := by rw [noneHeld]; exact message.count_pos
    remembered := ?_ }
  · intro assembly found
    rw [noAssembly] at found
    cases found
  · have ownCounted := sound.counted frame.key message taken.sent
    have inserted :=
      Finset.card_insert_le frame.fragmentIndex
        ((receiver.reassembler.purge now).heldAt frame.key)
    have fewer := Finset.card_le_card
      (heldAt_purge_subset receiver.reassembler now frame.key)
    rw [oneMore, noneHeld, Finset.card_empty, Nat.mul_add, Nat.mul_one]
    omega
  · intro _
    rw [taken.extended.nextCompleted]
    exact ⟨_, List.mem_cons_self, rfl⟩

/-- Accepting a data frame, which goes to the reassembler. -/
theorem acceptData
    (sound : receiver.Sound provenance journal)
    {frame : Frame}
    {now : Time}
    {completed : Option ((Nat × Nat) × Bytes)}
    {handedOver : Option Handover}
    {later : Journal}
    (extended : Extends journal later (some frame) completed handedOver)
    (authentic : provenance.authentic frame)
    (accepts :
      (receiver.replay.accept frame.sequence frame.sessionId).2 = true)
    (isData : frame.kind = provenance.data)
    (completes :
      ∀ key payload,
        completed = some (key, payload) ↔
          key = frame.key ∧
            ∃ result,
              (receiver.reassembler.add frame now).2 = .ok result ∧
                result.payload = some payload)
    (handsOver :
      ∀ handover ∈ handedOver,
        completed = some (handover.key, handover.payload)) :
    Receiver.Sound provenance
      { replay :=
          (receiver.replay.accept frame.sequence frame.sessionId).1
        reassembler := (receiver.reassembler.add frame now).1 }
      later := by
  obtain ⟨message, sent, member⟩ :=
    provenance.carried frame authentic isData
  have genuineAt :
      message.GenuineAt receiver.reassembler frame.key := by
    intro assembly found
    obtain ⟨other, otherSent, isGenuine⟩ :=
      sound.genuine frame.key assembly found
    exact provenance.unique _ _ _ otherSent sent ▸ isGenuine
  have taken :
      AcceptsData provenance receiver journal frame message completed
        handedOver later :=
    ⟨extended, authentic, accepts, isData, sent, handsOver⟩
  -- The reassembler either keeps the fragment or completes the message.
  rcases Reassembler.add_own member genuineAt now with
    ⟨result, answer, noPayload, stores⟩ |
      ⟨result, answer, hasPayload, noAssembly, enough⟩
  · obtain rfl : completed = none := by
      rw [Option.eq_none_iff_forall_ne_some]
      intro entry isEntry
      obtain ⟨_, other, otherAnswer, otherPayload⟩ :=
        (completes entry.1 entry.2).mp isEntry
      rw [answer] at otherAnswer
      rw [← Except.ok.inj otherAnswer, noPayload] at otherPayload
      cases otherPayload
    exact sound.acceptOwn taken (sound.keepsOwn_of_stores taken stores)
  · obtain rfl : completed = some (frame.key, message.payload) :=
      (completes _ _).mpr ⟨rfl, result, answer, hasPayload⟩
    exact sound.acceptOwn taken
      (sound.keepsOwn_of_completes taken noAssembly enough)

/-- Every step of the receiving half keeps the invariant. -/
theorem step
    (sound : receiver.Sound provenance journal)
    {delivers : Frame → Prop}
    {after : Receiver}
    {accepted : Option Frame}
    {completed : Option ((Nat × Nat) × Bytes)}
    {handedOver : Option Handover}
    {later : Journal}
    (extended : Extends journal later accepted completed handedOver)
    (authentic : ∀ frame, delivers frame → provenance.authentic frame)
    (taken :
      receiver.Step delivers provenance.data after accepted completed
        handedOver) :
    after.Sound provenance later := by
  cases taken with
  | nothing =>
      exact sound.lose extended rfl (fun _ _ found => found)
        fun _ contained => contained
  | purge now =>
      exact sound.lose extended rfl
        (fun _ _ found => (Reassembler.assembly_purge_iff.mp found).1)
        fun _ => Reassembler.completed_of_purge
  | refused frame purged delivered refuses =>
      apply sound.lose extended (sound.replay_refuse refuses)
      · intro key assembly found
        cases purged with
        | none =>
            exact found
        | some now =>
            exact (Reassembler.assembly_purge_iff.mp found).1
      · intro key contained
        cases purged with
        | none =>
            exact contained
        | some now =>
            exact Reassembler.completed_of_purge contained
  | other frame delivered accepts notData =>
      exact sound.acceptOther extended (authentic frame delivered)
        accepts notData
  | data frame now delivered accepts isData completes handsOver =>
      exact sound.acceptData extended (authentic frame delivered) accepts
        isData completes handsOver

/-- More messages sent and more frames encoded change nothing here. -/
theorem mono
    (sound : receiver.Sound provenance journal)
    {more : Provenance}
    (sameData : more.data = provenance.data)
    (moreSent :
      ∀ key message, provenance.sent key message → more.sent key message)
    (moreAuthentic :
      ∀ frame, provenance.authentic frame → more.authentic frame) :
    receiver.Sound more journal where
  replay := sound.replay
  admitted := sound.admitted
  authentic frame member :=
    moreAuthentic frame (sound.authentic frame member)
  genuine key assembly found := by
    obtain ⟨message, sent, isGenuine⟩ := sound.genuine key assembly found
    exact ⟨message, moreSent key message sent, isGenuine⟩
  held key := sameData ▸ sound.held key
  completed entry member := by
    obtain ⟨message, sent, samePayload⟩ := sound.completed entry member
    exact ⟨message, moreSent _ message sent, samePayload⟩
  counted key message sent := by
    rw [sameData]
    by_cases never : journal.completions key = 0
    · cases found : receiver.reassembler.assemblies.get? key with
      | none =>
          rw [never, Reassembler.heldAt, found]
          exact Nat.zero_le _
      | some assembly =>
          rw [never, Nat.mul_zero, Nat.zero_add]
          exact Finset.card_le_card (sound.held key)
    · obtain ⟨entry, member, sameKey⟩ :=
        List.countP_pos_iff.mp (Nat.pos_of_ne_zero never)
      obtain ⟨earlier, earlierSent, _⟩ := sound.completed entry member
      rw [of_decide_eq_true sameKey] at earlierSent
      have same :=
        more.unique key earlier message (moreSent key earlier earlierSent)
          sent
      exact same ▸ sound.counted key earlier earlierSent
  incomplete key message sent := by
    cases found : receiver.reassembler.assemblies.get? key with
    | none =>
        rw [Reassembler.heldAt, found]
        exact message.count_pos
    | some assembly =>
        obtain ⟨earlier, earlierSent, _⟩ :=
          sound.genuine key assembly found
        have same :=
          more.unique key earlier message (moreSent key earlier earlierSent)
            sent
        exact same ▸ sound.incomplete key earlier earlierSent
  remembered := sound.remembered
  handedOver := sound.handedOver

end Receiver.Sound

end H3ntun
