import H3ntun.Acknowledgement
import H3ntun.MessageLedger
import Mathlib.Algebra.Order.BigOperators.Group.List
import Mathlib.Data.List.Perm.Subperm

namespace H3ntun

/-!
# Totals of the two ends

What one end of a tunnel hands over and sees acknowledged, compared with what
the other end took, in the counters of both.
-/

/-- Payloads handed over, under the identifiers of their messages. -/
def Journal.deliveries (journal : Journal) : List (Nat × Bytes) :=
  (journal.handedOver.filter Handover.delivered).map fun handover =>
    (handover.key.2, handover.payload)

namespace World

variable {tunnel : Tunnel} {world : World}

/-- Each payload handed over is that of a call of its own. -/
theorem Sound.deliveries_subperm
    (sound : world.Sound tunnel)
    (side : Side) :
    (world side).journal.deliveries.Subperm
      (world side.peer).journal.begun := by
  have keys :
      ((world side).journal.handedOver.map Handover.key).Nodup := by
    have sublist := (sound.receivers side).handedOver.map Prod.fst
    rw [List.map_map] at sublist
    exact sublist.nodup (sound.nodup_completed side)
  apply List.subperm_of_subset
  · refine List.Nodup.map_on ?_ (keys.of_map.filter _)
    intro first firstMember second secondMember same
    have firstSent :=
      sound.sent_of_handedOver (List.mem_of_mem_filter firstMember)
    have secondSent :=
      sound.sent_of_handedOver (List.mem_of_mem_filter secondMember)
    refine List.inj_on_of_nodup_map keys
      (List.mem_of_mem_filter firstMember)
      (List.mem_of_mem_filter secondMember) ?_
    exact Prod.ext (firstSent.1.trans secondSent.1.symm)
      (congrArg Prod.fst same)
  · intro delivery member
    obtain ⟨handover, inFilter, rfl⟩ := List.mem_map.mp member
    exact (sound.sent_of_handedOver (List.mem_of_mem_filter inFilter)).2

/-- Acknowledgements stay sound while none is repeated too early. -/
theorem AcksSound.of_reachable
    (reached :
      ((system tunnel).restrict RepeatsDelivered).Reachable world) :
    world.AcksSound tunnel := by
  refine reached.invariant (motive := AcksSound tunnel)
    (fun _ started => .of_started started) ?_
  intro before move later reachedBefore acksSound taken
  rw [taken.1.2]
  exact acksSound.after (Sound.of_reachable reachedBefore.of_restrict)
    taken.1.1 taken.2

/-- Messages acknowledged are among those the peer handed over. -/
theorem AcksSound.acknowledged_subset
    (acksSound : world.AcksSound tunnel)
    (side : Side) :
    (world side).journal.acknowledged ⊆
      (world side.peer).journal.deliveries.map Prod.fst := by
  intro messageId member
  obtain ⟨handover, handedOver, sameKey, delivered⟩ :=
    acksSound.acknowledged side messageId member
  refine List.mem_map.mpr ⟨(handover.key.2, handover.payload), ?_, ?_⟩
  · exact List.mem_map_of_mem
      (List.mem_filter.mpr ⟨handedOver, delivered⟩)
  · exact congrArg Prod.snd sameKey

end World

namespace MeteredWorld

variable {tunnel : Tunnel} {world : MeteredWorld}

theorem Started.station
    (started : world.Started tunnel)
    (side : Side) :
    (world side).Started := by
  have party := started.parties.party side
  obtain ⟨_, _, _, _, _, created⟩ := party.sender
  obtain ⟨_, _, _, _, _, _, queue, pending⟩ :=
    ReliableSender.init_eq_ok_iff.mp created
  refine ⟨party.journal, ?_, queue, pending, party.sending⟩
  rw [started.metrics side]

/-- What every step of a station keeps holds of both in every run. -/
theorem station_of_reachable
    {holds : Station → Prop}
    (side : Side)
    (initially :
      ∀ world : MeteredWorld, world.Started tunnel → holds (world side))
    (keeps :
      ∀ station action readings,
        holds station → holds (Station.act station action readings))
    (reached : (system tunnel).Reachable world) :
    holds (world side) := by
  refine reached.invariant (motive := fun world => holds (world side))
    initially ?_
  rintro before ⟨actor, action, readings⟩ _ _ holdsBefore ⟨_, rfl⟩
  by_cases own : side = actor
  · subst own
    rw [after_same]
    exact keeps _ action readings holdsBefore
  · rw [after_other before own]
    exact holdsBefore

/-- The metrics of both ends agree with what their agents have done. -/
theorem booked_of_reachable
    (reached : (system tunnel).Reachable world)
    (side : Side) :
    Booked side (world side).party.journal
      (world side).metrics.counts := by
  have balanced : (world side).Balanced :=
    station_of_reachable side
      (fun _ started => (started.station side).balanced)
      (fun _ action readings balanced => balanced.act action readings)
      reached
  have sound := World.Sound.of_reachable (reachable_parties reached)
  have sameSide : (world side).party.agent.role.side = side :=
    sound.senders.side side
  unfold Station.Balanced at balanced
  rwa [sameSide] at balanced

/-- Both stations just started over the stand-in libraries. -/
def plain : MeteredWorld :=
  Station.plain

theorem plain_started :
    plain.Started .plain where
  parties := World.plain_started
  metrics side := by cases side <;> rfl

/-- The moves of both stations, one after the other. -/
def machine : Machine MeteredWorld (Side × Action × Readings) Effect where
  step world move :=
    (world.after move.1 move.2.1 move.2.2,
      (world move.1).party.agent.act move.2.1)

/-- The moves of two agents, with the clocks of their loops at zero. -/
def metered (moves : List (Side × Action)) :
    List (Side × Action × Readings) :=
  moves.map fun move => (move.1, move.2, { wall := 0, sentAt := 0 })

/-- Relaying a packet is possible for the network. -/
theorem step_of_relays
    {tunnel : Tunnel}
    {world : MeteredWorld}
    {move : Side × Action × Readings}
    (relays : world.parties.Relays (move.1, move.2.1)) :
    (system tunnel).step world move (machine.step world move).1 :=
  ⟨(World.step_of_relays tunnel relays).1, rfl⟩

/--
In every run of two stations over an adversarial network, an end has handed
over at most as many datagrams, and at most as many bytes, as the other end
has taken.
-/
theorem handed_over_at_most_taken
    (reached : (system tunnel).Reachable world)
    (side : Side) :
    (world side).metrics.counts (.packets .innerTx) ≤
        (world side.peer).metrics.counts (.packets .innerRx) ∧
      (world side).metrics.counts (.bytes .innerTx) ≤
        (world side.peer).metrics.counts (.bytes .innerRx) := by
  have sound := World.Sound.of_reachable (reachable_parties reached)
  have booked := booked_of_reachable reached side
  have bookedPeer := booked_of_reachable reached side.peer
  have among :
      (world side).party.journal.deliveries.Subperm
        (world side.peer).party.journal.begun :=
    sound.deliveries_subperm side
  constructor
  · rw [booked.payloadsHandedOver, bookedPeer.datagramsTaken]
    have fewer := among.length_le
    rwa [Journal.deliveries, List.length_map] at fewer
  · have bytes :
        (world side).metrics.counts (.bytes .innerTx) =
          ((world side).party.journal.deliveries.map
            fun delivery => delivery.2.length).sum := by
      rw [booked.bytesHandedOver, Journal.deliveries, List.map_map]
      rfl
    rw [bytes, bookedPeer.bytesTaken]
    obtain ⟨arranged, permuted, sublist⟩ := among
    rw [← (permuted.map fun delivery => delivery.2.length).sum_eq]
    exact (sublist.map _).sum_le_sum fun _ _ => Nat.zero_le _

theorem handed_over_at_most_taken_delivered_once :
    (machine.run plain (metered World.deliverOnce) .iran).metrics.counts
        (.packets .innerTx) = 1 ∧
      (machine.run plain (metered World.deliverOnce) .iran).metrics.counts
          (.packets .innerTx) ≤
        (machine.run plain (metered World.deliverOnce)
          .foreign).metrics.counts (.packets .innerRx) := by
  have relays :
      machine.EveryStep
        (fun world move => world.parties.Relays (move.1, move.2.1)) plain
        (metered World.deliverOnce) := by
    decide +kernel
  have reached :=
    TransitionSystem.Reachable.run
      (fun _ _ => step_of_relays) (.start plain_started) relays
  exact ⟨by decide +kernel, (handed_over_at_most_taken reached .iran).1⟩

/--
In every run in which no acknowledgement of an undelivered message is
repeated, an end has seen at most as many messages acknowledged as the other
end has handed over.
-/
theorem acknowledged_at_most_handed_over
    (reached :
      (restricted tunnel World.RepeatsDelivered).Reachable world)
    (side : Side) :
    (world side).metrics.counts .ackedMessages ≤
      (world side.peer).metrics.counts (.packets .innerTx) := by
  have acksSound :=
    World.AcksSound.of_reachable (reachable_parties_of_restricted reached)
  have reachedAnyhow : (system tunnel).Reachable world :=
    TransitionSystem.Reachable.of_restrict reached
  have orderly : (world side).Orderly :=
    station_of_reachable side
      (fun _ started => (started.station side).orderly)
      (fun _ action readings orderly =>
        Station.orderly_act orderly action readings)
      reachedAnyhow
  rw [(booked_of_reachable reachedAnyhow side).acknowledged,
    (booked_of_reachable reachedAnyhow side.peer).payloadsHandedOver]
  have among :=
    List.subperm_of_subset orderly.once
      (acksSound.acknowledged_subset side)
  have fewer := among.length_le
  rw [Journal.deliveries, List.length_map, List.length_map] at fewer
  exact fewer

theorem acknowledged_at_most_handed_over_repeated :
    (machine.run plain
          (metered (World.returnNewest World.repeatDelivered))
        .foreign).metrics.counts .ackedMessages = 1 ∧
      (machine.run plain
            (metered (World.returnNewest World.repeatDelivered))
          .foreign).metrics.counts .ackedMessages ≤
        (machine.run plain
            (metered (World.returnNewest World.repeatDelivered))
          .iran).metrics.counts (.packets .innerTx) := by
  have everyStep :
      machine.EveryStep
        (fun world move =>
          world.parties.Relays (move.1, move.2.1) ∧
            world.parties.RepeatsDelivered (move.1, move.2.1))
        plain (metered (World.returnNewest World.repeatDelivered)) := by
    decide +kernel
  have follows :
      ∀ (world : MeteredWorld) move,
        (world.parties.Relays (move.1, move.2.1) ∧
          world.parties.RepeatsDelivered (move.1, move.2.1)) →
        (restricted .plain World.RepeatsDelivered).step world move
          (machine.step world move).1 :=
    fun _ _ admissible => ⟨step_of_relays admissible.1, admissible.2⟩
  have reached :=
    TransitionSystem.Reachable.run follows (.start plain_started) everyStep
  exact ⟨by decide +kernel,
    acknowledged_at_most_handed_over reached .foreign⟩

end MeteredWorld

end H3ntun
