import H3ntun.LinkEmulator
import Mathlib.Data.List.Flatten

namespace H3ntun

/-!
# Faults of an emulated link

What an emulator schedules depends on the index of each datagram, the clock
and the switch when it is received, and on nothing else.  Everything scheduled
is enqueued in that order, taken out when it is due, and forwarded once.
-/

theorem length_eq_copies
    (scheduled : List Scheduled) :
    scheduled.length =
      scheduled.countP (fun item => !item.isCopy) +
        scheduled.countP Scheduled.isCopy := by
  rw [Nat.add_comm, List.length_eq_countP_add_countP Scheduled.isCopy]
  congr 2
  funext item
  cases item.isCopy <;> rfl

namespace LinkProfile

/-- The arrival is lost. -/
def Lost (profile : LinkProfile) (arrival : LinkArrival × Nat) : Prop :=
  profile.Loses arrival.1.enabled arrival.2

instance (profile : LinkProfile) : DecidablePred profile.Lost :=
  fun arrival =>
    inferInstanceAs (Decidable (profile.Loses arrival.1.enabled arrival.2))

/-- What is scheduled for one arrival. -/
def scheduleOf (profile : LinkProfile) (arrival : LinkArrival × Nat) :
    List Scheduled :=
  if profile.Lost arrival then
    []
  else
    UdpLinkEmulator.schedule profile arrival.2 arrival.1.payload
      arrival.1.clock

/-- What is scheduled for all arrivals, the first of which has index one. -/
def plan (profile : LinkProfile) (arrivals : List LinkArrival) :
    List Scheduled :=
  (arrivals.zipIdx 1).flatMap profile.scheduleOf

/-- How many of the arrivals have a property. -/
def countOf
    (holds : LinkArrival × Nat → Prop)
    [DecidablePred holds]
    (arrivals : List LinkArrival) : Nat :=
  (arrivals.zipIdx 1).countP fun arrival => holds arrival

theorem plan_concat
    (profile : LinkProfile)
    (arrivals : List LinkArrival)
    (arrival : LinkArrival) :
    profile.plan (arrivals ++ [arrival]) =
      profile.plan arrivals ++
        profile.scheduleOf (arrival, arrivals.length + 1) := by
  simp [plan, List.zipIdx_append, Nat.add_comm]

theorem countOf_concat
    (holds : LinkArrival × Nat → Prop)
    [DecidablePred holds]
    (arrivals : List LinkArrival)
    (arrival : LinkArrival) :
    countOf holds (arrivals ++ [arrival]) =
      countOf holds arrivals +
        if holds (arrival, arrivals.length + 1) then 1 else 0 := by
  simp [countOf, List.zipIdx_append, List.countP_append, Nat.add_comm]

/-- The arrival is held back. -/
def Delayed (profile : LinkProfile) (arrival : LinkArrival × Nat) : Prop :=
  ¬ profile.Lost arrival ∧ profile.Reorders arrival.2

instance (profile : LinkProfile) : DecidablePred profile.Delayed :=
  fun arrival =>
    inferInstanceAs (Decidable (_ ∧ profile.Reorders arrival.2))

/-- The arrival is sent twice. -/
def Doubled (profile : LinkProfile) (arrival : LinkArrival × Nat) : Prop :=
  ¬ profile.Lost arrival ∧ profile.Duplicates arrival.2

instance (profile : LinkProfile) : DecidablePred profile.Doubled :=
  fun arrival =>
    inferInstanceAs (Decidable (_ ∧ profile.Duplicates arrival.2))

/-- A second copy is scheduled exactly for the arrivals sent twice. -/
theorem countP_isCopy_scheduleOf
    (profile : LinkProfile)
    (arrival : LinkArrival × Nat) :
    (profile.scheduleOf arrival).countP Scheduled.isCopy =
      if profile.Doubled arrival then 1 else 0 := by
  by_cases lost : profile.Lost arrival
  · rw [scheduleOf, if_pos lost, if_neg fun doubled => doubled.1 lost]
    rfl
  · rw [scheduleOf, if_neg lost, UdpLinkEmulator.schedule]
    by_cases duplicates : profile.Duplicates arrival.2
    · rw [if_pos duplicates, if_pos ⟨lost, duplicates⟩]
      rfl
    · rw [if_neg duplicates, if_neg fun doubled => duplicates doubled.2]
      rfl

/-- Every arrival that is not lost is scheduled once as itself. -/
theorem countP_original_scheduleOf
    (profile : LinkProfile)
    (arrival : LinkArrival × Nat) :
    (profile.scheduleOf arrival).countP (fun item => !item.isCopy) =
      if profile.Lost arrival then 0 else 1 := by
  by_cases lost : profile.Lost arrival
  · rw [scheduleOf, if_pos lost, if_pos lost]
    rfl
  · rw [scheduleOf, if_neg lost, if_neg lost, UdpLinkEmulator.schedule]
    by_cases duplicates : profile.Duplicates arrival.2
    · rw [if_pos duplicates]
      rfl
    · rw [if_neg duplicates]
      rfl

theorem length_scheduleOf
    (profile : LinkProfile)
    (arrival : LinkArrival × Nat) :
    (profile.scheduleOf arrival).length =
      (if profile.Lost arrival then 0 else 1) +
        if profile.Doubled arrival then 1 else 0 := by
  rw [length_eq_copies, countP_isCopy_scheduleOf,
    countP_original_scheduleOf]

/-- Losses and copies make up what is scheduled. -/
theorem length_plan
    (profile : LinkProfile)
    (arrivals : List LinkArrival) :
    (profile.plan arrivals).length + countOf profile.Lost arrivals =
      arrivals.length + countOf profile.Doubled arrivals := by
  induction arrivals using List.reverseRecOn with
  | nil =>
      rfl
  | append_singleton arrivals arrival inductionHypothesis =>
      rw [plan_concat, countOf_concat, countOf_concat, List.length_append,
        List.length_append, length_scheduleOf, List.length_singleton]
      split <;> omega

/-- Without a list or an outage, every so many arrivals are lost. -/
theorem countOf_lost
    {profile : LinkProfile}
    (noIndices : profile.dropIndices = [])
    (nonneg : 0 ≤ profile.dropEvery)
    {arrivals : List LinkArrival}
    (enabled : ∀ arrival ∈ arrivals, arrival.enabled = true) :
    countOf profile.Lost arrivals =
      arrivals.length / profile.dropEvery.toNat := by
  induction arrivals using List.reverseRecOn with
  | nil =>
      simp [countOf]
  | append_singleton arrivals arrival inductionHypothesis =>
      obtain ⟨before, now⟩ := List.forall_mem_append.mp enabled
      have isEnabled := now arrival (List.mem_singleton_self _)
      have lostIff :
          profile.Lost (arrival, arrivals.length + 1) ↔
            profile.dropEvery ≠ 0 ∧
              profile.dropEvery.toNat ∣ arrivals.length + 1 := by
        rw [Lost, Loses, isEnabled, noIndices]
        simp only [Bool.true_eq_false, List.not_mem_nil, false_or]
        refine and_congr_right fun _ => ?_
        rw [← Int.dvd_iff_emod_eq_zero, ← Int.toNat_of_nonneg nonneg,
          Int.natCast_dvd_natCast, Int.toNat_natCast]
      rw [countOf_concat, inductionHypothesis before,
        List.length_append, List.length_singleton, Nat.succ_div]
      by_cases isZero : profile.dropEvery = 0
      · simp [lostIff, isZero]
      · simp [lostIff, isZero]

/-- Payloads of the arrivals that are not lost. -/
def keptPayloads
    (profile : LinkProfile)
    (arrivals : List LinkArrival) :
    List Bytes :=
  ((arrivals.zipIdx 1).filter fun arrival => ¬ profile.Lost arrival).map
    fun arrival => arrival.1.payload

/-- What is scheduled for an arrival carries its payload. -/
theorem payload_mem_keptPayloads
    {profile : LinkProfile}
    {arrivals : List LinkArrival}
    {item : Scheduled}
    (member : item ∈ profile.plan arrivals) :
    item.payload ∈ profile.keptPayloads arrivals := by
  obtain ⟨arrival, isArrival, isScheduled⟩ := List.mem_flatMap.mp member
  by_cases lost : profile.Lost arrival
  · rw [scheduleOf, if_pos lost] at isScheduled
    cases isScheduled
  · rw [scheduleOf, if_neg lost, UdpLinkEmulator.schedule] at isScheduled
    have samePayload : item.payload = arrival.1.payload := by
      by_cases duplicates : profile.Duplicates arrival.2
      · rw [if_pos duplicates] at isScheduled
        simp only [List.mem_cons, List.not_mem_nil, or_false]
          at isScheduled
        rcases isScheduled with rfl | rfl <;> rfl
      · rw [if_neg duplicates] at isScheduled
        obtain rfl := List.mem_singleton.mp isScheduled
        rfl
    rw [samePayload]
    exact List.mem_map_of_mem
      (List.mem_filter.mpr ⟨isArrival, decide_eq_true lost⟩)

theorem length_keptPayloads
    (profile : LinkProfile)
    (arrivals : List LinkArrival) :
    (profile.keptPayloads arrivals).length +
        countOf profile.Lost arrivals =
      arrivals.length := by
  have lengths : (arrivals.zipIdx 1).length = arrivals.length :=
    List.length_zipIdx
  rw [keptPayloads, List.length_map, ← List.countP_eq_length_filter,
    countOf, ← lengths, Nat.add_comm,
    List.length_eq_countP_add_countP fun arrival =>
      decide (profile.Lost arrival)]
  simp

end LinkProfile

/-- Time and payload of a datagram in the queue. -/
def RankedEntry.timed (entry : RankedEntry Time Bytes) : Time × Bytes :=
  (entry.key, entry.value)

/-- Time and payload of a datagram to enqueue. -/
def Scheduled.timed (scheduled : Scheduled) : Time × Bytes :=
  (scheduled.due, scheduled.payload)

/-- Datagrams taken out of the queue, in order. -/
def LinkJournal.departed (journal : LinkJournal) :
    List (RankedEntry Time Bytes) :=
  journal.taken.map Prod.fst

namespace Link

/-- An emulator that has just been constructed. -/
def fresh (profile : LinkProfile) : Link where
  emulator := { profile := profile }
  journal := {}

/-- What is forwarded stays forwarded. -/
theorem forwarded_subset_act
    (link : Link)
    (action : LinkAction) :
    link.journal.forwarded ⊆ (link.act action).journal.forwarded := by
  cases action with
  | setEnabled | receive | enqueue | take =>
      exact List.Subset.refl _
  | forward failing =>
      cases failing with
      | true =>
          exact List.Subset.refl _
      | false =>
          exact List.subset_append_left _ _

/-- Only the step that receives a datagram adds an arrival. -/
theorem mem_arrivals_act
    {link : Link}
    {action : LinkAction}
    {arrival : LinkArrival}
    (member : arrival ∈ (link.act action).journal.arrivals) :
    arrival ∈ link.journal.arrivals ∨
      ∃ clock, action = .receive arrival.payload clock := by
  cases action with
  | setEnabled | enqueue | take =>
      exact .inl member
  | receive payload clock =>
      rcases List.mem_append.mp member with before | now
      · exact .inl before
      · obtain rfl := List.mem_singleton.mp now
        exact .inr ⟨clock, rfl⟩
  | forward failing =>
      cases failing <;> exact .inl member

/-- What an emulator has done with the datagrams received so far. -/
structure Follows (profile : LinkProfile) (link : Link) : Prop where
  valid :
    profile.Valid
  sameProfile :
    link.emulator.profile = profile
  index :
    link.emulator.packetIndex = link.journal.arrivals.length
  received :
    link.emulator.stats.received = link.journal.arrivals.length
  dropped :
    link.emulator.stats.dropped =
      LinkProfile.countOf profile.Lost link.journal.arrivals
  reordered :
    link.emulator.stats.reordered =
      LinkProfile.countOf profile.Delayed link.journal.arrivals
  duplicated :
    link.emulator.stats.duplicated +
        link.emulator.scheduled.countP Scheduled.isCopy =
      LinkProfile.countOf profile.Doubled link.journal.arrivals
  planned :
    link.journal.enqueued.map RankedEntry.timed ++
        link.emulator.scheduled.map Scheduled.timed =
      (profile.plan link.journal.arrivals).map Scheduled.timed
  serves :
    link.emulator.queue.Serves link.journal.enqueued
      link.journal.departed
  due :
    ∀ departure ∈ link.journal.taken, departure.1.key ≤ departure.2
  /-- Only the datagram in hand when `sendto` raises is not forwarded. -/
  forwarded :
    ∃ left,
      link.journal.departed.map RankedEntry.value =
          link.journal.forwarded ++ left ∧
        if link.emulator.sending then
          left = link.emulator.taken.toList.map RankedEntry.value
        else
          link.emulator.taken = none ∧ left.length = 1
  forwardedCount :
    link.emulator.stats.forwarded = link.journal.forwarded.length

namespace Follows

variable {profile : LinkProfile} {link : Link}

theorem of_started
    (started : link.Started profile) :
    link.Follows profile := by
  obtain ⟨emulator, journal⟩ := link
  obtain ⟨constructed, rfl⟩ := started
  obtain ⟨_, validated, isEmulator⟩ := bind_eq_ok_iff.mp constructed
  obtain rfl := Except.ok.inj isEmulator
  exact {
    valid := LinkProfile.validate_eq_ok_iff.mp validated
    sameProfile := rfl
    index := rfl
    received := rfl
    dropped := rfl
    reordered := rfl
    duplicated := rfl
    planned := rfl
    serves := .empty
    due := by simp
    forwarded := ⟨[], rfl, rfl⟩
    forwardedCount := rfl
  }

theorem setEnabled
    (follows : link.Follows profile)
    (enabled : Bool) :
    (link.act (.setEnabled enabled)).Follows profile :=
  { follows with }

theorem receive
    (follows : link.Follows profile)
    (ready : link.emulator.scheduled = [])
    (payload : Bytes)
    (clock : Time) :
    (link.act (.receive payload clock)).Follows profile := by
  let arrival : LinkArrival := {
    payload := payload
    clock := clock
    enabled := link.emulator.enabled }
  let index := link.journal.arrivals.length + 1
  have received := link.emulator.receive_eq payload clock
  rw [follows.sameProfile, follows.index, ready] at received
  have scheduled :
      (link.emulator.receive payload clock).scheduled =
        profile.scheduleOf (arrival, index) := by
    rw [received]
    rfl
  exact {
    valid := follows.valid
    sameProfile := by
      change (link.emulator.receive payload clock).profile = profile
      rw [received]
    index := by
      change (link.emulator.receive payload clock).packetIndex =
        (link.journal.arrivals ++ [arrival]).length
      rw [received, List.length_append]
      rfl
    received := by
      change (link.emulator.receive payload clock).stats.received =
        (link.journal.arrivals ++ [arrival]).length
      rw [received, List.length_append, ← follows.received]
      rfl
    dropped := by
      change (link.emulator.receive payload clock).stats.dropped =
        LinkProfile.countOf profile.Lost
          (link.journal.arrivals ++ [arrival])
      rw [received, LinkProfile.countOf_concat, ← follows.dropped]
      rfl
    reordered := by
      change (link.emulator.receive payload clock).stats.reordered =
        LinkProfile.countOf profile.Delayed
          (link.journal.arrivals ++ [arrival])
      rw [received, LinkProfile.countOf_concat, ← follows.reordered]
      rfl
    duplicated := by
      change (link.emulator.receive payload clock).stats.duplicated +
          (link.emulator.receive payload clock).scheduled.countP
            Scheduled.isCopy =
        LinkProfile.countOf profile.Doubled
          (link.journal.arrivals ++ [arrival])
      rw [scheduled, LinkProfile.countP_isCopy_scheduleOf,
        LinkProfile.countOf_concat, ← follows.duplicated, ready, received]
      rfl
    planned := by
      have planned := follows.planned
      rw [ready, List.map_nil, List.append_nil] at planned
      change link.journal.enqueued.map RankedEntry.timed ++
          (link.emulator.receive payload clock).scheduled.map
            Scheduled.timed =
        (profile.plan (link.journal.arrivals ++ [arrival])).map
          Scheduled.timed
      rw [scheduled, LinkProfile.plan_concat, List.map_append, planned]
    serves := by
      change (link.emulator.receive payload clock).queue.Serves _ _
      rw [received]
      exact follows.serves
    due := follows.due
    forwarded := by
      change ∃ left, _ = _ ∧
        if (link.emulator.receive payload clock).sending then
          left = (link.emulator.receive payload clock).taken.toList.map
            RankedEntry.value
        else
          (link.emulator.receive payload clock).taken = none ∧
            left.length = 1
      rw [received]
      exact follows.forwarded
    forwardedCount := by
      change (link.emulator.receive payload clock).stats.forwarded = _
      rw [received]
      exact follows.forwardedCount
  }

theorem enqueue
    (follows : link.Follows profile)
    (ready : link.emulator.scheduled ≠ []) :
    (link.act .enqueue).Follows profile := by
  obtain ⟨next, rest, shape⟩ := List.exists_cons_of_ne_nil ready
  have after :
      link.act .enqueue = {
        emulator := { link.emulator with
          queue := link.emulator.queue.push next.due next.payload
          scheduled := rest
          stats := { link.emulator.stats with
            duplicated :=
              if next.isCopy then
                link.emulator.stats.duplicated + 1
              else
                link.emulator.stats.duplicated } }
        journal := { link.journal with
          enqueued := link.journal.enqueued ++
            [link.emulator.queue.ticketed next.due next.payload] } } := by
    simp only [act, record, UdpLinkEmulator.enqueue, shape,
      List.take_succ_cons, List.take_zero, List.map_cons, List.map_nil]
  have duplicated := follows.duplicated
  have planned := follows.planned
  rw [shape, List.countP_cons] at duplicated
  rw [shape, List.map_cons] at planned
  rw [after]
  exact {
    follows with
    duplicated := by
      change (if next.isCopy then
          link.emulator.stats.duplicated + 1
        else
          link.emulator.stats.duplicated) +
            rest.countP Scheduled.isCopy = _
      rw [← duplicated]
      by_cases isCopy : next.isCopy = true
      · rw [if_pos isCopy, if_pos isCopy]
        omega
      · rw [if_neg isCopy, if_neg isCopy]
        rfl
    planned := by
      rw [← planned, List.map_append, List.append_assoc]
      rfl
    serves := follows.serves.push next.due next.payload
  }

theorem take
    (follows : link.Follows profile)
    (ready :
      link.emulator.sending = true ∧ link.emulator.taken = none)
    (clock : Time) :
    (link.act (.take clock)).Follows profile := by
  have waits
      (same : link.emulator.take clock = link.emulator) :
      (link.act (.take clock)).Follows profile := by
    have after : link.act (.take clock) = link := by
      simp only [act, record, same, ready.2, Option.toList_none,
        List.map_nil, List.append_nil]
    rwa [after]
  cases isFirst : link.emulator.queue.first? with
  | none =>
      exact waits (by simp only [UdpLinkEmulator.take, isFirst])
  | some entry =>
      by_cases early : entry.key - clock > 0
      · exact waits (by
          simp only [UdpLinkEmulator.take, isFirst, if_pos early])
      · have after :
            link.act (.take clock) = {
              emulator := { link.emulator with
                queue := link.emulator.queue.pop
                taken := some entry }
              journal := { link.journal with
                taken := link.journal.taken ++ [(entry, clock)] } } := by
          simp only [act, record, UdpLinkEmulator.take, isFirst,
            if_neg early, Option.toList_some, List.map_cons,
            List.map_nil]
        obtain ⟨left, departed, isLeft⟩ := follows.forwarded
        rw [if_pos ready.1, ready.2] at isLeft
        subst isLeft
        rw [after]
        exact {
          follows with
          serves := by
            have served := follows.serves.pop isFirst
            rwa [LinkJournal.departed, List.map_append]
          due := by
            intro departure member
            rcases List.mem_append.mp member with before | now
            · exact follows.due departure before
            · obtain rfl := List.mem_singleton.mp now
              exact sub_nonpos.mp (not_lt.mp early)
          forwarded := by
            refine ⟨[entry.value], ?_, ?_⟩
            · rw [LinkJournal.departed, List.map_append, List.map_append]
              rw [LinkJournal.departed] at departed
              rw [departed, Option.toList_none, List.map_nil,
                List.append_nil]
              rfl
            · rw [if_pos ready.1]
              rfl
        }

theorem forward
    (follows : link.Follows profile)
    (ready : link.emulator.taken ≠ none)
    (failing : Bool) :
    (link.act (.forward failing)).Follows profile := by
  obtain ⟨entry, inHand⟩ := Option.ne_none_iff_exists'.mp ready
  obtain ⟨left, departed, isLeft⟩ := follows.forwarded
  have sending : link.emulator.sending = true := by
    by_contra ended
    rw [if_neg ended] at isLeft
    exact ready isLeft.1
  rw [if_pos sending, inHand] at isLeft
  subst isLeft
  cases failing with
  | true =>
      exact {
        follows with
        forwarded := ⟨[entry.value], departed, rfl, rfl⟩
      }
  | false =>
      have after :
          link.act (.forward false) = {
            emulator := { link.emulator with
              taken := none
              stats := { link.emulator.stats with
                forwarded := link.emulator.stats.forwarded + 1 } }
            journal := { link.journal with
              forwarded := link.journal.forwarded ++ [entry.value] } } := by
        simp only [act, record, inHand]
        rfl
      rw [after]
      exact {
        follows with
        forwarded := by
          refine ⟨[], ?_, ?_⟩
          · rw [List.append_nil]
            exact departed
          · rw [if_pos sending]
            rfl
        forwardedCount := by
          rw [List.length_append, ← follows.forwardedCount]
          rfl
      }

theorem act
    (follows : link.Follows profile)
    (action : LinkAction)
    (ready : link.Ready action) :
    (link.act action).Follows profile := by
  cases action with
  | setEnabled enabled =>
      exact follows.setEnabled enabled
  | receive payload clock =>
      exact follows.receive ready payload clock
  | enqueue =>
      exact follows.enqueue ready
  | take clock =>
      exact follows.take ready clock
  | forward failing =>
      exact follows.forward ready failing

theorem of_reachable
    (reached : (system profile).Reachable link) :
    link.Follows profile := by
  refine reached.invariant (motive := fun link => link.Follows profile)
    (fun _ started => .of_started started) ?_
  rintro before action _ _ follows ⟨ready, rfl⟩
  exact follows.act action ready

end Follows

/-- What is scheduled has been forwarded or is still on its way. -/
theorem Follows.length_plan
    {profile : LinkProfile}
    {link : Link}
    (follows : link.Follows profile) :
    (profile.plan link.journal.arrivals).length =
      link.emulator.stats.forwarded +
        link.emulator.queue.waiting.length +
        link.emulator.taken.toList.length +
        (if link.emulator.sending then 0 else 1) +
        link.emulator.scheduled.length := by
  obtain ⟨left, departed, isLeft⟩ := follows.forwarded
  have planned := congrArg List.length follows.planned
  have kept := follows.serves.kept.length_eq
  have departures := congrArg List.length departed
  simp only [List.length_append, List.length_map]
    at planned kept departures
  have leftOver :
      left.length =
        link.emulator.taken.toList.length +
          if link.emulator.sending then 0 else 1 := by
    by_cases sending : link.emulator.sending = true
    · rw [if_pos sending] at isLeft
      rw [isLeft, List.length_map, if_pos sending]
      rfl
    · rw [if_neg sending] at isLeft
      rw [isLeft.2, if_neg sending, isLeft.1]
      rfl
  have forwarded := follows.forwardedCount
  omega

/-- Only what was received and not lost is forwarded. -/
theorem Follows.forwarded_subset
    {profile : LinkProfile}
    {link : Link}
    (follows : link.Follows profile) :
    link.journal.forwarded ⊆
      profile.keptPayloads link.journal.arrivals := by
  intro payload member
  obtain ⟨left, departed, _⟩ := follows.forwarded
  have hasLeft :
      payload ∈ link.journal.departed.map RankedEntry.value := by
    rw [departed]
    exact List.mem_append_left _ member
  obtain ⟨entry, entryMember, rfl⟩ := List.mem_map.mp hasLeft
  have enqueued : entry ∈ link.journal.enqueued :=
    follows.serves.kept.subset (List.mem_append_left _ entryMember)
  have planned :
      RankedEntry.timed entry ∈
        (profile.plan link.journal.arrivals).map Scheduled.timed := by
    rw [← follows.planned]
    exact List.mem_append_left _ (List.mem_map_of_mem enqueued)
  obtain ⟨item, inPlan, sameTimed⟩ := List.mem_map.mp planned
  have samePayload : item.payload = entry.value :=
    congrArg Prod.snd sameTimed
  rw [← samePayload]
  exact LinkProfile.payload_mem_keptPayloads inPlan

/-- Steps that a thread has come to lead to a reachable state. -/
theorem reachable_run
    (profile : LinkProfile)
    (actions : List LinkAction)
    (valid : profile.validate = .ok ())
    (ready : machine.EveryStep Ready (fresh profile) actions) :
    (system profile).Reachable (machine.run (fresh profile) actions) := by
  have started : (fresh profile).Started profile := by
    refine ⟨?_, rfl⟩
    rw [UdpLinkEmulator.init, valid]
    rfl
  have follows
      (link : Link)
      (action : LinkAction)
      (isReady : link.Ready action) :
      (system profile).step link action (machine.step link action).1 :=
    ⟨isReady, rfl⟩
  exact TransitionSystem.Reachable.run follows (.start started) ready

/--
The counters of an emulator, in every run.  They follow the profile arrival by
arrival, and every datagram and copy is counted as dropped or forwarded, or is
still on its way, but for the one in hand if `sendto` raised.
-/
theorem stats_follow_profile
    {profile : LinkProfile}
    {link : Link}
    (reached : (system profile).Reachable link) :
    link.emulator.stats.received = link.journal.arrivals.length ∧
      link.emulator.stats.dropped =
        LinkProfile.countOf profile.Lost link.journal.arrivals ∧
      link.emulator.stats.reordered =
        LinkProfile.countOf profile.Delayed link.journal.arrivals ∧
      link.emulator.stats.duplicated +
          link.emulator.scheduled.countP Scheduled.isCopy =
        LinkProfile.countOf profile.Doubled link.journal.arrivals ∧
      link.emulator.stats.received + link.emulator.stats.duplicated =
        link.emulator.stats.dropped + link.emulator.stats.forwarded +
          link.emulator.queue.waiting.length +
          link.emulator.taken.toList.length +
          link.emulator.scheduled.countP (fun item => !item.isCopy) +
          (if link.emulator.sending then 0 else 1) ∧
      (profile.dropIndices = [] →
        (∀ arrival ∈ link.journal.arrivals, arrival.enabled = true) →
        link.emulator.stats.dropped =
          link.emulator.stats.received / profile.dropEvery.toNat) := by
  have follows := Follows.of_reachable reached
  have onTheWay := follows.length_plan
  have balance := profile.length_plan link.journal.arrivals
  have copies := length_eq_copies link.emulator.scheduled
  have received := follows.received
  have dropped := follows.dropped
  have duplicated := follows.duplicated
  refine ⟨received, dropped, follows.reordered, duplicated, ?_, ?_⟩
  · omega
  · intro noIndices enabled
    rw [dropped, received,
      LinkProfile.countOf_lost noIndices follows.valid.dropEvery.1
        enabled]

/-- Of three datagrams every second is lost, and one has been forwarded. -/
def lossyProfile : LinkProfile where
  delayMs := 5
  dropEvery := 2

/-- Three datagrams, of which the second is lost. -/
def lossyActions : List LinkAction := [
  .receive [1] 0, .enqueue, .receive [2] (1 / 1000),
  .receive [3] (2 / 1000), .take (6 / 1000), .forward false, .enqueue]

theorem stats_follow_profile_every_second :
    (machine.run (fresh lossyProfile) lossyActions).emulator.stats =
        { received := 3, forwarded := 1, dropped := 1 } ∧
      (machine.run (fresh lossyProfile) lossyActions).emulator.stats.dropped
        = 3 / 2 := by
  have follows :=
    stats_follow_profile
      (reachable_run lossyProfile lossyActions (by decide)
        (by decide +kernel))
  have dropped := follows.2.2.2.2.2 rfl (by decide +kernel)
  exact ⟨by decide +kernel, dropped.trans (by decide +kernel)⟩

/--
The order of an emulated link, in every run.  Exactly what is scheduled is
enqueued, in that order.  Datagrams leave when they are due, and of two that
were enqueued the later one leaves first only if it is due earlier.
-/
theorem overtaken_only_by_earlier_due
    {profile : LinkProfile}
    {link : Link}
    (reached : (system profile).Reachable link) :
    link.journal.enqueued.map RankedEntry.timed ++
          link.emulator.scheduled.map Scheduled.timed =
        (profile.plan link.journal.arrivals).map Scheduled.timed ∧
      (link.journal.departed ++ link.emulator.queue.waiting).Perm
        link.journal.enqueued ∧
      (∀ departure ∈ link.journal.taken,
        departure.1.key ≤ departure.2) ∧
      (∀ first second : RankedEntry Time Bytes,
        [first, second].Sublist link.journal.enqueued →
        first.key ≤ second.key →
        ∀ before after,
          link.journal.departed = before ++ second :: after →
          first ∈ before) ∧
      link.journal.forwarded.IsPrefix
        (link.journal.departed.map RankedEntry.value) := by
  have follows := Follows.of_reachable reached
  obtain ⟨left, departed, _⟩ := follows.forwarded
  refine ⟨follows.planned, follows.serves.kept, follows.due, ?_,
    ⟨left, departed.symm⟩⟩
  intro first second inOrder keys before after split
  have earlier : first.ticket < second.ticket :=
    List.pairwise_iff_forall_sublist.mp follows.serves.pairwise_ticket
      inOrder
  exact follows.serves.before_of_key_le
    (inOrder.subset (List.mem_cons_self ..)) earlier keys split

/-- A profile that holds back every other datagram. -/
def reorderingProfile : LinkProfile where
  delayMs := 5
  reorderEvery := 2

/-- Two datagrams, of which the first is held back. -/
def reorderingActions : List LinkAction := [
  .receive [1] 0, .enqueue, .receive [2] (1 / 1000), .enqueue,
  .take (6 / 1000), .forward false, .take (10 / 1000), .forward false]

/-- The second datagram is due first and overtakes the first. -/
theorem overtaken_only_by_earlier_due_held_back :
    (machine.run (fresh reorderingProfile)
          reorderingActions).journal.forwarded =
        [[2], [1]] ∧
      ∀ departure ∈
          (machine.run (fresh reorderingProfile)
            reorderingActions).journal.taken,
        departure.1.key ≤ departure.2 := by
  have ordered :=
    overtaken_only_by_earlier_due
      (reachable_run reorderingProfile reorderingActions (by decide)
        (by decide +kernel))
  exact ⟨by decide +kernel, ordered.2.2.1⟩

end Link

namespace LinkProfile

/-- Neither jitter nor reordering nor duplication. -/
structure Steady (profile : LinkProfile) : Prop where
  jitterMs : profile.jitterMs = 0
  reorderEvery : profile.reorderEvery = 0
  duplicateEvery : profile.duplicateEvery = 0

/-- A steady link schedules what is not lost after one constant delay. -/
theorem Steady.plan_eq
    {profile : LinkProfile}
    (steady : profile.Steady)
    (arrivals : List LinkArrival) :
    profile.plan arrivals =
      ((arrivals.zipIdx 1).filter fun arrival =>
        ¬ profile.Lost arrival).map fun arrival => {
          due := arrival.1.clock + max 0 profile.delayMs / 1000
          payload := arrival.1.payload } := by
  have scheduled
      (arrival : LinkArrival × Nat) :
      profile.scheduleOf arrival =
        if profile.Lost arrival then
          []
        else
          [{ due := arrival.1.clock + max 0 profile.delayMs / 1000
             payload := arrival.1.payload }] := by
    have single : ¬ profile.Duplicates arrival.2 :=
      fun duplicates => duplicates.1 steady.duplicateEvery
    have inTurn : ¬ profile.Reorders arrival.2 :=
      fun reorders => reorders.1 steady.reorderEvery
    rw [scheduleOf, UdpLinkEmulator.schedule, if_neg single, totalDelayMs,
      if_neg inTurn, jitter, steady.jitterMs]
    simp
  rw [plan]
  induction arrivals.zipIdx 1 with
  | nil =>
      rfl
  | cons arrival rest inductionHypothesis =>
      rw [List.flatMap_cons, inductionHypothesis, scheduled]
      by_cases lost : profile.Lost arrival
      · simp [lost]
      · simp [lost]

end LinkProfile

namespace Link

/--
A steady link keeps the order, in every run in which the clock of the
receiving thread does not go back: what has left, what waits and what is
scheduled are the arrivals not lost, and what is forwarded comes first.
-/
theorem steady_link_keeps_order
    {profile : LinkProfile}
    {link : Link}
    (steady : profile.Steady)
    (reached : (system profile).Reachable link)
    (monotone :
      link.journal.arrivals.Pairwise fun first second =>
        first.clock ≤ second.clock) :
    link.journal.departed.map RankedEntry.value ++
          link.emulator.queue.waiting.map RankedEntry.value ++
          link.emulator.scheduled.map Scheduled.payload =
        profile.keptPayloads link.journal.arrivals ∧
      link.journal.forwarded.IsPrefix
        (profile.keptPayloads link.journal.arrivals) := by
  have follows := Follows.of_reachable reached
  have planned := follows.planned
  rw [steady.plan_eq, List.map_map] at planned
  -- The clock passes its order on to the times the datagrams are due.
  have dueInTurn :
      ((link.journal.enqueued.map RankedEntry.timed ++
        link.emulator.scheduled.map Scheduled.timed)).Pairwise
          fun first second => first.1 ≤ second.1 := by
    rw [planned, List.pairwise_map]
    have byClock :
        (link.journal.arrivals.zipIdx 1).Pairwise fun first second =>
          first.1.clock ≤ second.1.clock := by
      rw [← List.pairwise_map (f := Prod.fst)
        (R := fun first second : LinkArrival =>
          first.clock ≤ second.clock), List.zipIdx_map_fst]
      exact monotone
    refine (byClock.filter _).imp ?_
    intro first second ordered
    exact add_le_add_left ordered _
  have keys :
      link.journal.enqueued.Pairwise fun first second =>
        first.key ≤ second.key :=
    List.Pairwise.of_map RankedEntry.timed (fun _ _ ordered => ordered)
      (List.pairwise_append.mp dueInTurn).1
  have inTurn := follows.serves.eq_history keys
  have payloads := congrArg (List.map Prod.snd) planned
  rw [← inTurn] at payloads
  simp only [List.map_append, List.map_map] at payloads
  have kept :
      link.journal.departed.map RankedEntry.value ++
            link.emulator.queue.waiting.map RankedEntry.value ++
            link.emulator.scheduled.map Scheduled.payload =
        profile.keptPayloads link.journal.arrivals :=
    payloads
  obtain ⟨left, departed, _⟩ := follows.forwarded
  refine ⟨kept, ?_⟩
  rw [← kept, departed, List.append_assoc, List.append_assoc]
  exact List.prefix_append _ _

/-- Of three datagrams the second is lost, and the others stay in order. -/
theorem steady_link_keeps_order_every_second :
    (machine.run (fresh lossyProfile) lossyActions).journal.forwarded =
        [[1]] ∧
      (machine.run (fresh lossyProfile)
          lossyActions).journal.forwarded.IsPrefix [[1], [3]] := by
  have ordered :=
    steady_link_keeps_order ⟨rfl, rfl, rfl⟩
      (reachable_run lossyProfile lossyActions (by decide)
        (by decide +kernel))
      (by decide +kernel)
  exact ⟨by decide +kernel, ordered.2⟩

end Link

end H3ntun
