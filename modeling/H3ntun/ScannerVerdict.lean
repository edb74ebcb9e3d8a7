import H3ntun.Foundation.TransitionSystem
import H3ntun.ProbePackets
import H3ntun.ScannerSelection

namespace H3ntun

/-!
# The verdict of a scan

The receiver counts the probes that decode and name the source they come
from; nothing else reaches the table.  A table summarises the counted probes:
its candidates and sequences are theirs, and every declared total is the total
of one of them.  Probes with the same candidate, sequence and time stamp are
counted once, whichever comes first, so the table is determined by the set of
counted probes where such probes declare the same total.  The ages do depend
on the order, but two rows never tie up to the age.
-/

/-- The probe a delivery adds to the table, unless it was counted before. -/
def countedProbe
    (hmac : HmacSha256)
    (tunnelId secret : Bytes)
    (delivery : ProbeDelivery) :
    Option Probe :=
  match Probe.decode hmac delivery.packet tunnelId secret
      delivery.decodedNs with
  | .ok probe => if delivery.peer = probe.candidateIp then some probe else none
  | .error _ => none

/-- The counted probes of some deliveries, with the time of recording. -/
def countedProbes
    (hmac : HmacSha256)
    (tunnelId secret : Bytes)
    (deliveries : List ProbeDelivery) :
    List (Probe × Int) :=
  deliveries.filterMap fun delivery =>
    (countedProbe hmac tunnelId secret delivery).map fun probe =>
      (probe, delivery.recordedNs)

/-- The packets received before the deadline. -/
def delivered
    (deadline : Option Time)
    (turns : List ScanTurn) :
    List ProbeDelivery :=
  (turns.takeWhile fun turn => ScanReceiver.isOpen deadline turn.clock)
    |>.filterMap ScanTurn.delivery

namespace ScanReceiver

/-- The receiver as a machine that takes counted probes. -/
def recorder : Machine ScanReceiver (Probe × Int) Unit where
  step receiver input := (receiver.record input.1 input.2, ())

/-- A receiver with other counters of rejected packets. -/
def withCounters
    (receiver : ScanReceiver)
    (authFailures sourceMismatches : Nat) :
    ScanReceiver :=
  { receiver with
    authFailures := authFailures
    sourceMismatches := sourceMismatches }

@[simp] theorem withCounters_withCounters
    (receiver : ScanReceiver)
    (authFailures sourceMismatches others mismatches : Nat) :
    (receiver.withCounters authFailures sourceMismatches).withCounters
        others mismatches =
      receiver.withCounters others mismatches := by
  rfl

/-- Recording leaves the counters alone. -/
theorem record_withCounters
    (receiver : ScanReceiver)
    (probe : Probe)
    (nowNs : Int)
    (authFailures sourceMismatches : Nat) :
    (receiver.withCounters authFailures sourceMismatches).record
        probe nowNs =
      (receiver.record probe nowNs).withCounters
        authFailures sourceMismatches := by
  unfold record
  split <;> rename_i isSeen
  · have isSeen : probe.replayKey ∈ receiver.seen := isSeen
    rw [if_pos isSeen]
  · have isNew : probe.replayKey ∉ receiver.seen := isSeen
    rw [if_neg isNew]
    rfl

theorem run_withCounters
    (receiver : ScanReceiver)
    (counted : List (Probe × Int))
    (authFailures sourceMismatches : Nat) :
    recorder.run
        (receiver.withCounters authFailures sourceMismatches) counted =
      (recorder.run receiver counted).withCounters
        authFailures sourceMismatches := by
  induction counted generalizing receiver with
  | nil =>
      rfl
  | cons input rest inductionHypothesis =>
      have stepped :=
        record_withCounters receiver input.1 input.2 authFailures
          sourceMismatches
      simp only [Machine.run, recorder, stepped]
      exact inductionHypothesis _

/-- One packet records its counted probe, or moves a counter. -/
theorem handle_eq
    (hmac : HmacSha256)
    (tunnelId secret : Bytes)
    (receiver : ScanReceiver)
    (delivery : ProbeDelivery) :
    ∃ authFailures sourceMismatches,
      receiver.handle hmac tunnelId secret delivery =
        .ok ((recorder.run receiver
          (countedProbes hmac tunnelId secret [delivery])).withCounters
            authFailures sourceMismatches) := by
  cases decoded : Probe.decode hmac delivery.packet tunnelId secret
      delivery.decodedNs with
  | error failure =>
      obtain ⟨message, rfl⟩ := Probe.decode_error _ decoded
      refine ⟨receiver.authFailures + 1, receiver.sourceMismatches, ?_⟩
      simp [handle, decoded, countedProbes, countedProbe, Machine.run,
        withCounters]
  | ok probe =>
      by_cases fromSource : delivery.peer = probe.candidateIp
      · refine ⟨(receiver.record probe delivery.recordedNs).authFailures,
          (receiver.record probe delivery.recordedNs).sourceMismatches, ?_⟩
        simp [handle, decoded, countedProbes, countedProbe, Machine.run,
          recorder, fromSource, withCounters]
      · refine ⟨receiver.authFailures, receiver.sourceMismatches + 1, ?_⟩
        simp [handle, decoded, countedProbes, countedProbe, Machine.run,
          fromSource, withCounters]

theorem countedProbes_cons
    (hmac : HmacSha256)
    (tunnelId secret : Bytes)
    (delivery : ProbeDelivery)
    (rest : List ProbeDelivery) :
    countedProbes hmac tunnelId secret (delivery :: rest) =
      countedProbes hmac tunnelId secret [delivery] ++
        countedProbes hmac tunnelId secret rest := by
  unfold countedProbes
  rw [← List.filterMap_append]
  rfl

/-- The loop never fails and records the counted probes in order. -/
theorem receive_eq
    (hmac : HmacSha256)
    (tunnelId secret : Bytes)
    (deadline : Option Time)
    (receiver : ScanReceiver)
    (turns : List ScanTurn) :
    ∃ authFailures sourceMismatches,
      receive hmac tunnelId secret deadline receiver turns =
        .ok ((recorder.run receiver
          (countedProbes hmac tunnelId secret
            (delivered deadline turns))).withCounters
              authFailures sourceMismatches) := by
  induction turns generalizing receiver with
  | nil =>
      exact ⟨receiver.authFailures, receiver.sourceMismatches, rfl⟩
  | cons turn rest inductionHypothesis =>
      by_cases inTime : isOpen deadline turn.clock = true
      · cases arrived : turn.delivery with
        | none =>
            obtain ⟨authFailures, sourceMismatches, later⟩ :=
              inductionHypothesis receiver
            refine ⟨authFailures, sourceMismatches, ?_⟩
            simp only [receive, inTime, ↓reduceIte, arrived, later]
            simp [delivered, inTime, arrived]
        | some delivery =>
            obtain ⟨authFailures, sourceMismatches, handled⟩ :=
              handle_eq hmac tunnelId secret receiver delivery
            obtain ⟨laterAuthFailures, laterMismatches, later⟩ :=
              inductionHypothesis
                ((recorder.run receiver
                  (countedProbes hmac tunnelId secret
                    [delivery])).withCounters
                      authFailures sourceMismatches)
            have isFirst :
                delivered deadline (turn :: rest) =
                  delivery :: delivered deadline rest := by
              simp [delivered, inTime, arrived]
            refine ⟨laterAuthFailures, laterMismatches, ?_⟩
            rw [run_withCounters, withCounters_withCounters] at later
            rw [isFirst, countedProbes_cons, Machine.run_append]
            simp only [receive, inTime, ↓reduceIte, arrived, handled,
              ok_bind, later]
      · refine ⟨receiver.authFailures, receiver.sourceMismatches, ?_⟩
        simp [receive, delivered, inTime, countedProbes, Machine.run,
          withCounters]

end ScanReceiver

/-- The table after some counted probes. -/
def tableOf (counted : List (Probe × Int)) :
    OrderedDict String SourceStats :=
  (ScanReceiver.recorder.run {} counted).stats

/-- The same scan with another time limit. -/
def ScanSetup.timed
    (setup : ScanSetup)
    (durationSeconds : Option Time)
    (startedAt : Time) :
    ScanSetup :=
  { setup with durationSeconds := durationSeconds, startedAt := startedAt }

/-- The counted probes of a run. -/
def ScanSetup.counted
    (hmac : HmacSha256)
    (setup : ScanSetup)
    (turns : List ScanTurn) :
    List (Probe × Int) :=
  countedProbes hmac setup.tunnelId setup.sharedSecret
    (delivered setup.deadline turns)

/-- A run is decided by the table of its counted probes. -/
theorem runReceiver_eq
    (hmac : HmacSha256)
    (setup : ScanSetup)
    (turns : List ScanTurn) :
    runReceiver hmac setup turns =
      if setup.role ≠ .iran then
        .error (.valueError "receiver config must have role=iran")
      else
        setup.conclude
          (printReceiverTable (tableOf (setup.counted hmac turns))) := by
  obtain ⟨authFailures, sourceMismatches, received⟩ :=
    ScanReceiver.receive_eq hmac setup.tunnelId setup.sharedSecret
      setup.deadline {} turns
  rw [runReceiver, received, ok_bind]
  rfl

theorem exists_mem_concat
    {α : Type}
    {items : List α}
    {last : α}
    {property : α → Prop} :
    (∃ item ∈ items ++ [last], property item) ↔
      (∃ item ∈ items, property item) ∨ property last := by
  simp [or_and_right, exists_or]

/-- What a receiver keeps of the probes counted so far. -/
structure Summarises
    (counted : List Probe)
    (receiver : ScanReceiver) : Prop where
  seen_iff :
    ∀ key,
      key ∈ receiver.seen ↔ ∃ probe ∈ counted, probe.replayKey = key
  present_iff :
    ∀ candidate,
      candidate ∈ receiver.stats.keys ↔
        ∃ probe ∈ counted, probe.candidateIp = candidate
  sequence_iff :
    ∀ candidate values,
      receiver.stats.get? candidate = some values →
      ∀ sequence,
        sequence ∈ values.sequences ↔
          ∃ probe ∈ counted,
            probe.candidateIp = candidate ∧ probe.sequence = sequence
  declared_mem :
    ∀ candidate values,
      receiver.stats.get? candidate = some values →
      ∃ probe ∈ counted,
        probe.candidateIp = candidate ∧
          probe.totalProbes = values.declared
  /-- The first probe with its key counts towards the declared total. -/
  covered :
    ∀ probe ∈ counted,
      ∃ known ∈ counted,
        known.replayKey = probe.replayKey ∧
          ∃ values,
            receiver.stats.get? probe.candidateIp = some values ∧
              known.totalProbes ≤ values.declared

namespace Summarises

variable {counted : List Probe} {receiver : ScanReceiver} {probe : Probe}

theorem initial :
    Summarises [] {} where
  seen_iff := by simp
  present_iff := by simp [OrderedDict.keys]
  sequence_iff := by simp
  declared_mem := by simp
  covered := by simp

/-- A probe with a known key changes nothing. -/
theorem known
    (summarises : Summarises counted receiver)
    (isSeen : probe.replayKey ∈ receiver.seen) :
    Summarises (counted ++ [probe]) receiver := by
  obtain ⟨twin, inCounted, sameKey⟩ :=
    (summarises.seen_iff _).mp isSeen
  have sameFields := sameKey
  simp only [Probe.replayKey, Prod.mk.injEq] at sameFields
  obtain ⟨sameCandidate, sameSequence, _⟩ := sameFields
  refine {
    seen_iff := ?_
    present_iff := ?_
    sequence_iff := ?_
    declared_mem := ?_
    covered := ?_
  }
  · intro key
    rw [summarises.seen_iff, exists_mem_concat]
    refine ⟨Or.inl, ?_⟩
    rintro (old | rfl)
    · exact old
    · exact ⟨twin, inCounted, sameKey⟩
  · intro candidate
    rw [summarises.present_iff, exists_mem_concat]
    refine ⟨Or.inl, ?_⟩
    rintro (old | rfl)
    · exact old
    · exact ⟨twin, inCounted, sameCandidate⟩
  · intro candidate values stored sequence
    rw [summarises.sequence_iff candidate values stored,
      exists_mem_concat]
    refine ⟨Or.inl, ?_⟩
    rintro (old | ⟨rfl, rfl⟩)
    · exact old
    · exact ⟨twin, inCounted, sameCandidate, sameSequence⟩
  · intro candidate values stored
    obtain ⟨source, member, facts⟩ :=
      summarises.declared_mem candidate values stored
    exact ⟨source, List.mem_append_left _ member, facts⟩
  · intro other member
    rcases List.mem_append.mp member with old | isNew
    · obtain ⟨first, inside, facts⟩ := summarises.covered other old
      exact ⟨first, List.mem_append_left _ inside, facts⟩
    · rw [List.mem_singleton] at isNew
      subst other
      obtain ⟨first, inside, key, facts⟩ :=
        summarises.covered twin inCounted
      rw [sameKey] at key
      rw [sameCandidate] at facts
      exact ⟨first, List.mem_append_left _ inside, key, facts⟩

/-- The statistics a new probe is added to. -/
theorem sequence_iff_getD
    (summarises : Summarises counted receiver)
    (candidate : String)
    (sequence : Int) :
    sequence ∈ ((receiver.stats.get? candidate).getD {}).sequences ↔
      ∃ probe ∈ counted,
        probe.candidateIp = candidate ∧ probe.sequence = sequence := by
  cases stored : receiver.stats.get? candidate with
  | some values =>
      exact summarises.sequence_iff candidate values stored sequence
  | none =>
      have absent : candidate ∉ receiver.stats.keys :=
        OrderedDict.get?_eq_none_iff.mp stored
      rw [summarises.present_iff] at absent
      constructor
      · intro member
        exact absurd member (Finset.notMem_empty sequence)
      · rintro ⟨source, member, isCandidate, _⟩
        exact absurd ⟨source, member, isCandidate⟩ absent

/-- The declared total grows to that of the new probe, or stays. -/
theorem declared_add
    (summarises : Summarises counted receiver)
    (nonneg : 0 ≤ probe.totalProbes)
    (nowNs : Int) :
    ∃ source ∈ counted ++ [probe],
      source.candidateIp = probe.candidateIp ∧
        source.totalProbes =
          (((receiver.stats.get? probe.candidateIp).getD {}).add
            probe nowNs).declared := by
  cases stored : receiver.stats.get? probe.candidateIp with
  | none =>
      exact ⟨probe, by simp, rfl, (max_eq_right nonneg).symm⟩
  | some values =>
      rcases le_total values.declared probe.totalProbes with grows | stays
      · exact ⟨probe, by simp, rfl, (max_eq_right grows).symm⟩
      · obtain ⟨source, member, sameCandidate, isDeclared⟩ :=
          summarises.declared_mem _ values stored
        exact ⟨source, List.mem_append_left _ member, sameCandidate,
          isDeclared.trans (max_eq_left stays).symm⟩

/-- A probe with a new key is added to the statistics of its candidate. -/
theorem fresh
    (summarises : Summarises counted receiver)
    (nonneg : 0 ≤ probe.totalProbes)
    (nowNs : Int) :
    Summarises (counted ++ [probe])
      { receiver with
        seen := insert probe.replayKey receiver.seen
        stats :=
          receiver.stats.set probe.candidateIp
            (((receiver.stats.get? probe.candidateIp).getD {}).add
              probe nowNs) } := by
  refine {
    seen_iff := ?_
    present_iff := ?_
    sequence_iff := ?_
    declared_mem := ?_
    covered := ?_
  }
  · intro key
    rw [Finset.mem_insert, summarises.seen_iff, exists_mem_concat]
    rw [or_comm, eq_comm]
  · intro candidate
    rw [OrderedDict.mem_keys_set, summarises.present_iff,
      exists_mem_concat]
    rw [or_comm, eq_comm]
  · intro candidate values stored sequence
    rw [exists_mem_concat]
    by_cases same : candidate = probe.candidateIp
    · subst candidate
      rw [OrderedDict.get?_set_same] at stored
      obtain rfl := Option.some.inj stored
      rw [SourceStats.add, Finset.mem_insert,
        summarises.sequence_iff_getD, or_comm]
      simp [eq_comm]
    · rw [OrderedDict.get?_set_other _ same] at stored
      rw [summarises.sequence_iff candidate values stored]
      refine ⟨Or.inl, ?_⟩
      rintro (old | ⟨isCandidate, _⟩)
      · exact old
      · exact absurd isCandidate.symm same
  · intro candidate values stored
    by_cases same : candidate = probe.candidateIp
    · subst candidate
      rw [OrderedDict.get?_set_same] at stored
      obtain rfl := Option.some.inj stored
      exact summarises.declared_add nonneg nowNs
    · rw [OrderedDict.get?_set_other _ same] at stored
      obtain ⟨source, member, facts⟩ :=
        summarises.declared_mem candidate values stored
      exact ⟨source, List.mem_append_left _ member, facts⟩
  · intro other member
    rcases List.mem_append.mp member with old | isNew
    · obtain ⟨first, inside, key, values, stored, atMost⟩ :=
        summarises.covered other old
      refine ⟨first, List.mem_append_left _ inside, key, ?_⟩
      by_cases same : other.candidateIp = probe.candidateIp
      · rw [same] at stored ⊢
        refine ⟨_, OrderedDict.get?_set_same _ _ _, ?_⟩
        rw [stored]
        exact le_trans atMost (le_max_left _ _)
      · exact ⟨values,
          (OrderedDict.get?_set_other _ same _).trans stored, atMost⟩
    · rw [List.mem_singleton] at isNew
      subst other
      exact ⟨probe, by simp, rfl, _, OrderedDict.get?_set_same _ _ _,
        le_max_right _ _⟩

/-- One counted probe more. -/
theorem record
    (summarises : Summarises counted receiver)
    (nonneg : 0 ≤ probe.totalProbes)
    (nowNs : Int) :
    Summarises (counted ++ [probe]) (receiver.record probe nowNs) := by
  by_cases isSeen : probe.replayKey ∈ receiver.seen
  · rw [ScanReceiver.record, if_pos isSeen]
    exact summarises.known isSeen
  · rw [ScanReceiver.record, if_neg isSeen]
    exact summarises.fresh nonneg nowNs

end Summarises

/-- After a run the receiver summarises the probes it counted. -/
theorem summarises_run
    {counted : List (Probe × Int)}
    (nonneg : ∀ input ∈ counted, 0 ≤ input.1.totalProbes) :
    Summarises (counted.map Prod.fst)
      (ScanReceiver.recorder.run {} counted) := by
  induction counted using List.reverseRecOn with
  | nil =>
      exact Summarises.initial
  | append_singleton earlier input inductionHypothesis =>
      have earlierNonneg :
          ∀ other ∈ earlier, 0 ≤ other.1.totalProbes := by
        intro other member
        exact nonneg other (List.mem_append_left _ member)
      have before := inductionHypothesis earlierNonneg
      rw [Machine.run_concat, List.map_append]
      exact before.record (nonneg input (by simp)) input.2

/-- Probes known by the same key declare the same total. -/
def TotalsAgree (counted : List Probe) : Prop :=
  ∀ probe ∈ counted, ∀ other ∈ counted,
    probe.replayKey = other.replayKey →
    probe.totalProbes = other.totalProbes

/-- Every row of one table is a row of another, but for the ages. -/
def RowsIn (stats others : OrderedDict String SourceStats) : Prop :=
  ∀ candidate values,
    stats.get? candidate = some values →
    ∃ partner,
      others.get? candidate = some partner ∧
        partner.sequences = values.sequences ∧
        partner.declared = values.declared

namespace Summarises

variable
  {counted others : List Probe}
  {receiver partner : ScanReceiver}

/-- With totals that agree, the declared total bounds every total. -/
theorem total_le
    (summarises : Summarises counted receiver)
    (agree : TotalsAgree counted)
    {probe : Probe}
    (member : probe ∈ counted)
    {values : SourceStats}
    (stored :
      receiver.stats.get? probe.candidateIp = some values) :
    probe.totalProbes ≤ values.declared := by
  obtain ⟨known, inside, sameKey, found, isStored, atMost⟩ :=
    summarises.covered probe member
  rw [stored] at isStored
  obtain rfl := Option.some.inj isStored
  rwa [agree known inside probe member sameKey] at atMost

/-- The table is determined by the set of counted probes. -/
theorem rowsIn
    (summarises : Summarises counted receiver)
    (alsoSummarises : Summarises others partner)
    (same : ∀ probe, probe ∈ counted ↔ probe ∈ others)
    (agree : TotalsAgree counted) :
    RowsIn receiver.stats partner.stats := by
  intro candidate values stored
  have otherAgree : TotalsAgree others := by
    intro probe member other otherMember
    exact agree probe ((same probe).mpr member) other
      ((same other).mpr otherMember)
  obtain ⟨source, inCounted, isCandidate, isDeclared⟩ :=
    summarises.declared_mem candidate values stored
  have present : candidate ∈ partner.stats.keys :=
    (alsoSummarises.present_iff candidate).mpr
      ⟨source, (same source).mp inCounted, isCandidate⟩
  obtain ⟨otherValues, otherStored⟩ :=
    OrderedDict.mem_keys_iff.mp present
  obtain ⟨otherSource, inOthers, isOtherCandidate, isOtherDeclared⟩ :=
    alsoSummarises.declared_mem candidate otherValues otherStored
  refine ⟨otherValues, otherStored, ?_, ?_⟩
  · ext sequence
    rw [summarises.sequence_iff candidate values stored,
      alsoSummarises.sequence_iff candidate otherValues otherStored]
    simp only [same]
  · have below : otherSource.totalProbes ≤ values.declared := by
      apply summarises.total_le agree ((same _).mpr inOthers)
      rw [isOtherCandidate, stored]
    have above : source.totalProbes ≤ otherValues.declared := by
      apply alsoSummarises.total_le otherAgree ((same _).mp inCounted)
      rw [isCandidate, otherStored]
    rw [isOtherDeclared] at below
    rw [isDeclared] at above
    exact le_antisymm below above

end Summarises

/-- A row but for its average age. -/
def withoutAge (row : RankedRow) : Rat ×ₗ Int ×ₗ String ×ₗ Int :=
  toLex (row.1, toLex (row.2.1, toLex (row.2.2.1, row.2.2.2.1)))

/-- Rows stay in order without their ages. -/
theorem withoutAge_le
    {row other : RankedRow}
    (le : row ≤ other) :
    withoutAge row ≤ withoutAge other := by
  have last : Monotone fun pair : Int ×ₗ Rat => pair.1 :=
    fun _ _ le => Prod.Lex.monotone_fst _ _ le
  have withCandidate :
      Monotone fun row : String ×ₗ Int ×ₗ Rat =>
        (toLex (row.1, row.2.1) : String ×ₗ Int) :=
    Ranking.monotone_lex last
  have withReceived :
      Monotone fun row : Int ×ₗ String ×ₗ Int ×ₗ Rat =>
        (toLex (row.1, toLex (row.2.1, row.2.2.1)) :
          Int ×ₗ String ×ₗ Int) :=
    Ranking.monotone_lex withCandidate
  exact Ranking.monotone_lex withReceived le

/-- The candidate of a row that meets the threshold. -/
def chosen (row : Rat ×ₗ Int ×ₗ String ×ₗ Int) : Option String :=
  if -row.2.1 ≥ 3 ∧ row.1 ≤ 20 ∧ row.2.2.2 ≥ 3 then
    some row.2.2.1
  else
    none

/-- The ages do not decide the choice. -/
theorem printReceiverTable_eq
    (stats : OrderedDict String SourceStats) :
    printReceiverTable stats =
      ((Ranking.first? (stats.entries.map rankedRow)).map
        withoutAge).bind chosen := by
  simp only [printReceiverTable]
  cases Ranking.first? (stats.entries.map rankedRow) with
  | none =>
      rfl
  | some row =>
      rfl

/-- Entries with the same sequences and totals differ in their age only. -/
theorem withoutAge_rankedRow
    {candidate : String}
    {values partner : SourceStats}
    (sameSequences : partner.sequences = values.sequences)
    (sameDeclared : partner.declared = values.declared) :
    withoutAge (rankedRow (candidate, partner)) =
      withoutAge (rankedRow (candidate, values)) := by
  have sameReceived : partner.received = values.received := by
    rw [SourceStats.received, sameSequences, SourceStats.received]
  have sameShown : partner.shownDeclared = values.shownDeclared := by
    rw [SourceStats.shownDeclared, sameReceived, sameDeclared,
      SourceStats.shownDeclared]
  have sameLoss : partner.loss = values.loss := by
    rw [SourceStats.loss, sameShown, sameReceived, SourceStats.loss]
  simp only [withoutAge, rankedRow, sameReceived, sameShown, sameLoss]
  rfl

theorem mem_rows_of_rowsIn
    {stats others : OrderedDict String SourceStats}
    (rowsIn : RowsIn stats others)
    {row : Rat ×ₗ Int ×ₗ String ×ₗ Int}
    (member : row ∈ (stats.entries.map rankedRow).map withoutAge) :
    row ∈ (others.entries.map rankedRow).map withoutAge := by
  rw [List.map_map] at member ⊢
  obtain ⟨⟨candidate, values⟩, inTable, isRow⟩ :=
    List.mem_map.mp member
  obtain ⟨partner, stored, sameSequences, sameDeclared⟩ :=
    rowsIn candidate values (OrderedDict.get?_eq_some_iff.mpr inTable)
  refine List.mem_map.mpr ⟨(candidate, partner),
    OrderedDict.get?_eq_some_iff.mp stored, ?_⟩
  rw [← isRow]
  exact withoutAge_rankedRow sameSequences sameDeclared

/-- Tables with the same rows lead to the same choice. -/
theorem printReceiverTable_eq_of_rowsIn
    {stats others : OrderedDict String SourceStats}
    (rowsIn : RowsIn stats others)
    (rowsBack : RowsIn others stats) :
    printReceiverTable stats = printReceiverTable others := by
  have sameFirst :=
    Ranking.map_first?_eq (fun _ _ le => withoutAge_le le) fun row =>
      ⟨mem_rows_of_rowsIn rowsIn, mem_rows_of_rowsIn rowsBack⟩
  rw [printReceiverTable_eq, printReceiverTable_eq, sameFirst]

namespace SourceStats

/-- One probe more keeps the statistics in range. -/
theorem InRange.add
    {values : SourceStats}
    (inRange : values.InRange)
    {probe : Probe}
    (first : 1 ≤ probe.sequence)
    (last : probe.sequence ≤ probe.totalProbes)
    (nowNs : Int) :
    (values.add probe nowNs).InRange where
  declaredNonneg := le_max_of_le_left inRange.declaredNonneg
  sequenceInRange := by
    intro sequence member
    rcases Finset.mem_insert.mp member with isNew | old
    · subst sequence
      exact ⟨first, le_max_of_le_right last⟩
    · obtain ⟨positive, atMost⟩ :=
        inRange.sequenceInRange sequence old
      exact ⟨positive, le_max_of_le_left atMost⟩

/-- The shown loss is a percentage. -/
theorem InRange.loss_bounds
    {values : SourceStats}
    (inRange : values.InRange) :
    0 ≤ values.loss ∧ values.loss ≤ 100 := by
  by_cases isZero : values.declared = 0
  · rw [inRange.loss_of_declared_zero isZero]
    norm_num
  · rw [inRange.loss_eq isZero]
    refine ⟨inRange.lossPercent_nonneg, ?_⟩
    have nonneg := inRange.declaredNonneg
    have positive : (0 : Rat) < (values.declared : Rat) := by
      exact_mod_cast (by omega : 0 < values.declared)
    have some := values.received_nonneg
    have scaled :
        (values.declared - values.received) * 100 ≤
          100 * values.declared := by
      omega
    rw [lossPercent, div_le_iff₀ positive]
    exact_mod_cast scaled

end SourceStats

/-- Counted probes that carry a sequence in range keep the table in range. -/
theorem inRange_tableOf
    {counted : List (Probe × Int)}
    (inRange :
      ∀ input ∈ counted,
        1 ≤ input.1.sequence ∧ input.1.sequence ≤ input.1.totalProbes) :
    ∀ entry ∈ (tableOf counted).entries, entry.2.InRange := by
  apply ScanReceiver.recorder.run_invariant_of_inputs
    (fun receiver => ∀ entry ∈ receiver.stats.entries, entry.2.InRange)
    (fun input =>
      1 ≤ input.1.sequence ∧ input.1.sequence ≤ input.1.totalProbes)
  · rintro receiver ⟨probe, nowNs⟩ ⟨first, last⟩ holds
      ⟨candidate, values⟩ member
    simp only [ScanReceiver.recorder, ScanReceiver.record] at member
    split at member
    · exact holds _ member
    · rcases OrderedDict.mem_entries_set.mp member with
        ⟨_, rfl⟩ | ⟨_, old⟩
      · cases stored : receiver.stats.get? probe.candidateIp with
        | none =>
            have empty : ({} : SourceStats).InRange :=
              ⟨le_refl 0, by simp⟩
            exact empty.add first last nowNs
        | some values =>
            have inTable := OrderedDict.get?_eq_some_iff.mp stored
            exact (holds _ inTable).add first last nowNs
      · exact holds _ old
  · simp
  · exact inRange

section Counted

variable {hmac : HmacSha256} {tunnelId secret : Bytes}

theorem countedProbe_eq_some_iff
    {delivery : ProbeDelivery}
    {probe : Probe} :
    countedProbe hmac tunnelId secret delivery = some probe ↔
      Probe.decode hmac delivery.packet tunnelId secret
          delivery.decodedNs = .ok probe ∧
        delivery.peer = probe.candidateIp := by
  unfold countedProbe
  cases Probe.decode hmac delivery.packet tunnelId secret
      delivery.decodedNs with
  | error failure =>
      simp
  | ok decoded =>
      simp only [Except.ok.injEq, Option.ite_none_right_eq_some,
        Option.some.injEq]
      constructor
      · rintro ⟨fromSource, rfl⟩
        exact ⟨rfl, fromSource⟩
      · rintro ⟨rfl, fromSource⟩
        exact ⟨fromSource, rfl⟩

theorem mem_countedProbes_iff
    {deliveries : List ProbeDelivery}
    {probe : Probe} :
    probe ∈ (countedProbes hmac tunnelId secret deliveries).map Prod.fst ↔
      ∃ delivery ∈ deliveries,
        countedProbe hmac tunnelId secret delivery = some probe := by
  simp [countedProbes, List.map_filterMap, List.mem_filterMap]

/-- Counted probes carry a sequence their total declares. -/
theorem sequence_of_countedProbes
    {deliveries : List ProbeDelivery} :
    ∀ input ∈ countedProbes hmac tunnelId secret deliveries,
      1 ≤ input.1.sequence ∧
        input.1.sequence ≤ input.1.totalProbes := by
  intro input member
  obtain ⟨delivery, _, isCounted⟩ :=
    mem_countedProbes_iff.mp (List.mem_map_of_mem member)
  exact Probe.sequence_of_decode
    (countedProbe_eq_some_iff.mp isCounted).1

end Counted

/-- The packet decodes when it arrives. -/
def accepts
    (hmac : HmacSha256)
    (tunnelId secret : Bytes)
    (delivery : ProbeDelivery) :
    Bool :=
  (Probe.decode hmac delivery.packet tunnelId secret
    delivery.decodedNs).isOk

/-- The same packets from the same sources, in any order and number. -/
def SamePackets (deliveries others : List ProbeDelivery) : Prop :=
  (deliveries.map fun delivery => (delivery.packet, delivery.peer)).toFinset =
    (others.map fun delivery => (delivery.packet, delivery.peer)).toFinset

/-- A packet decodes in both traces or in neither. -/
def SameOutcomes
    (hmac : HmacSha256)
    (tunnelId secret : Bytes)
    (deliveries others : List ProbeDelivery) : Prop :=
  ∀ delivery ∈ deliveries, ∀ other ∈ others,
    delivery.packet = other.packet →
    accepts hmac tunnelId secret delivery =
      accepts hmac tunnelId secret other

section Verdict

variable {hmac : HmacSha256} {tunnelId secret : Bytes}
  {deliveries others : List ProbeDelivery}

/-- A packet counts in one trace if it counts in the other. -/
theorem counted_of_counted
    (samePackets : SamePackets deliveries others)
    (sameOutcomes :
      SameOutcomes hmac tunnelId secret deliveries others)
    {probe : Probe}
    (member :
      probe ∈
        (countedProbes hmac tunnelId secret deliveries).map Prod.fst) :
    probe ∈ (countedProbes hmac tunnelId secret others).map Prod.fst := by
  obtain ⟨delivery, inTrace, isCounted⟩ := mem_countedProbes_iff.mp member
  obtain ⟨decoded, fromSource⟩ := countedProbe_eq_some_iff.mp isCounted
  have isPair :
      (delivery.packet, delivery.peer) ∈
        (others.map fun delivery =>
          (delivery.packet, delivery.peer)).toFinset := by
    rw [← samePackets, List.mem_toFinset]
    exact List.mem_map_of_mem inTrace
  obtain ⟨other, inOthers, samePair⟩ :=
    List.mem_map.mp (List.mem_toFinset.mp isPair)
  obtain ⟨samePacket, samePeer⟩ := Prod.mk.inj samePair
  have accepted :=
    sameOutcomes delivery inTrace other inOthers samePacket.symm
  rw [accepts, accepts, decoded] at accepted
  cases again : Probe.decode hmac other.packet tunnelId secret
      other.decodedNs with
  | error failure =>
      rw [again] at accepted
      cases accepted
  | ok twin =>
      rw [samePacket] at again
      obtain rfl := Probe.eq_of_decode decoded again
      refine mem_countedProbes_iff.mpr ⟨other, inOthers, ?_⟩
      rw [countedProbe_eq_some_iff, samePacket, samePeer]
      exact ⟨again, fromSource⟩

/-- What is not counted does not matter. -/
theorem countedProbes_filter
    (deliveries : List ProbeDelivery) :
    countedProbes hmac tunnelId secret
        (deliveries.filter fun delivery =>
          (countedProbe hmac tunnelId secret delivery).isSome) =
      countedProbes hmac tunnelId secret deliveries := by
  unfold countedProbes
  rw [List.filterMap_filter]
  apply List.filterMap_congr
  intro delivery _
  cases countedProbe hmac tunnelId secret delivery <;> rfl

/-- Tables of traces with the same counted probes lead to the same choice. -/
theorem choice_eq_of_same_probes
    {counted twins : List (Probe × Int)}
    (inRange :
      ∀ input ∈ counted,
        1 ≤ input.1.sequence ∧ input.1.sequence ≤ input.1.totalProbes)
    (twinsInRange :
      ∀ input ∈ twins,
        1 ≤ input.1.sequence ∧ input.1.sequence ≤ input.1.totalProbes)
    (same :
      ∀ probe,
        probe ∈ counted.map Prod.fst ↔ probe ∈ twins.map Prod.fst)
    (agree : TotalsAgree (counted.map Prod.fst)) :
    printReceiverTable (tableOf counted) =
      printReceiverTable (tableOf twins) := by
  have nonneg :
      ∀ probes : List (Probe × Int),
        (∀ input ∈ probes,
          1 ≤ input.1.sequence ∧
            input.1.sequence ≤ input.1.totalProbes) →
        ∀ input ∈ probes, 0 ≤ input.1.totalProbes := by
    intro probes bounds input member
    obtain ⟨first, last⟩ := bounds input member
    omega
  have summarises := summarises_run (nonneg counted inRange)
  have alsoSummarises := summarises_run (nonneg twins twinsInRange)
  have twinsAgree : TotalsAgree (twins.map Prod.fst) := by
    intro probe member other otherMember
    exact agree probe ((same probe).mpr member) other
      ((same other).mpr otherMember)
  have back :
      ∀ probe,
        probe ∈ twins.map Prod.fst ↔ probe ∈ counted.map Prod.fst := by
    intro probe
    exact (same probe).symm
  exact printReceiverTable_eq_of_rowsIn
    (summarises.rowsIn alsoSummarises same agree)
    (alsoSummarises.rowsIn summarises back twinsAgree)

end Verdict

/--
The result of a scan does not depend on the order and the number of its
packets, if counted probes with the same candidate, sequence and time stamp
declare the same total; it depends on no packet that is not counted; and at
every turn the statistics are in range.
-/
theorem verdict_independent_of_order
    (hmac : HmacSha256)
    (setup : ScanSetup)
    (durationSeconds : Option Time)
    (startedAt : Time)
    (turns others : List ScanTurn) :
    (SamePackets (delivered setup.deadline turns)
        (delivered (setup.timed durationSeconds startedAt).deadline
          others) →
      SameOutcomes hmac setup.tunnelId setup.sharedSecret
        (delivered setup.deadline turns)
        (delivered (setup.timed durationSeconds startedAt).deadline
          others) →
      TotalsAgree ((setup.counted hmac turns).map Prod.fst) →
      runReceiver hmac setup turns =
        runReceiver hmac (setup.timed durationSeconds startedAt) others) ∧
    ((delivered setup.deadline turns).filter
          (fun delivery =>
            (countedProbe hmac setup.tunnelId setup.sharedSecret
              delivery).isSome) =
        (delivered (setup.timed durationSeconds startedAt).deadline
          others).filter
          (fun delivery =>
            (countedProbe hmac setup.tunnelId setup.sharedSecret
              delivery).isSome) →
      runReceiver hmac setup turns =
        runReceiver hmac (setup.timed durationSeconds startedAt) others) ∧
    ∀ receiver,
      ScanReceiver.receive hmac setup.tunnelId setup.sharedSecret
          setup.deadline {} turns = .ok receiver →
      ∀ entry ∈ receiver.stats.entries,
        (∀ sequence ∈ entry.2.sequences,
          1 ≤ sequence ∧ sequence ≤ entry.2.declared) ∧
        entry.2.received ≤ entry.2.declared ∧
        0 ≤ entry.2.loss ∧ entry.2.loss ≤ 100 := by
  refine ⟨?_, ?_, ?_⟩
  · intro samePackets sameOutcomes agree
    have backPackets := samePackets.symm
    have backOutcomes :
        SameOutcomes hmac setup.tunnelId setup.sharedSecret
          (delivered (setup.timed durationSeconds startedAt).deadline
            others)
          (delivered setup.deadline turns) := by
      intro other otherMember delivery member samePacket
      exact (sameOutcomes delivery member other otherMember
        samePacket.symm).symm
    have same :
        ∀ probe,
          probe ∈ (setup.counted hmac turns).map Prod.fst ↔
            probe ∈
              ((setup.timed durationSeconds startedAt).counted hmac
                others).map Prod.fst := by
      intro probe
      exact ⟨counted_of_counted samePackets sameOutcomes,
        counted_of_counted backPackets backOutcomes⟩
    have choice :
        printReceiverTable (tableOf (setup.counted hmac turns)) =
          printReceiverTable
            (tableOf
              ((setup.timed durationSeconds startedAt).counted hmac
                others)) :=
      choice_eq_of_same_probes sequence_of_countedProbes
        sequence_of_countedProbes same agree
    rw [runReceiver_eq, runReceiver_eq, choice]
    rfl
  · intro sameCounted
    have counted :
        setup.counted hmac turns =
          (setup.timed durationSeconds startedAt).counted hmac others := by
      rw [ScanSetup.counted, ← countedProbes_filter, sameCounted,
        countedProbes_filter]
      rfl
    rw [runReceiver_eq, runReceiver_eq, counted]
    rfl
  · intro receiver received entry member
    obtain ⟨authFailures, sourceMismatches, ends⟩ :=
      ScanReceiver.receive_eq hmac setup.tunnelId setup.sharedSecret
        setup.deadline {} turns
    rw [ends] at received
    obtain rfl := Except.ok.inj received
    have inRange :=
      inRange_tableOf sequence_of_countedProbes entry member
    exact ⟨inRange.sequenceInRange, inRange.received_le,
      inRange.loss_bounds⟩

/-- A keyed sum in place of the keyed hash. -/
def additiveMac : HmacSha256 :=
  fun secret message =>
    List.replicate 32 ((secret ++ message).foldl (· + ·) 0)

/-- A scan without a time limit. -/
def loopbackScan : ScanSetup where
  role := .iran
  tunnelId := List.replicate 16 7
  sharedSecret := List.replicate 32 9

/-- A turn that receives a probe of `127.0.0.1`. -/
def probeTurn (sequence totalProbes : Int) : ScanTurn where
  clock := 0
  delivery := some {
    packet :=
      match Probe.encode additiveMac 5 loopbackScan.tunnelId
          loopbackScan.sharedSecret "127.0.0.1" sequence totalProbes
          none with
      | .ok packet => packet
      | .error _ => []
    peer := "127.0.0.1"
    decodedNs := 6
    recordedNs := 7
  }

/-- Three probes and a repetition, in two orders. -/
theorem verdict_independent_of_order_swapped :
    runReceiver additiveMac loopbackScan
          [probeTurn 1 3, probeTurn 2 3, probeTurn 3 3] =
        runReceiver additiveMac (loopbackScan.timed (some 9) 0)
          [probeTurn 3 3, probeTurn 2 3, probeTurn 2 3, probeTurn 1 3] ∧
      runReceiver additiveMac loopbackScan
          [probeTurn 1 3, probeTurn 2 3, probeTurn 3 3] =
        .ok (some "127.0.0.1") := by
  refine ⟨(verdict_independent_of_order additiveMac loopbackScan (some 9) 0
    [probeTurn 1 3, probeTurn 2 3, probeTurn 3 3]
    [probeTurn 3 3, probeTurn 2 3, probeTurn 2 3, probeTurn 1 3]).1
      ?_ ?_ ?_, ?_⟩
  · unfold SamePackets
    decide +kernel
  · unfold SameOutcomes
    decide +kernel
  · unfold TotalsAgree
    decide +kernel
  · decide +kernel

/--
Two probes with the same candidate, sequence and time stamp, one of three
and one of a hundred: the order in which they come decides the result.
-/
theorem conflicting_totals_change_verdict :
    SamePackets
        (delivered loopbackScan.deadline
          [probeTurn 1 3, probeTurn 1 100, probeTurn 2 3, probeTurn 3 3])
        (delivered loopbackScan.deadline
          [probeTurn 1 100, probeTurn 1 3, probeTurn 2 3, probeTurn 3 3]) ∧
      SameOutcomes additiveMac loopbackScan.tunnelId
        loopbackScan.sharedSecret
        (delivered loopbackScan.deadline
          [probeTurn 1 3, probeTurn 1 100, probeTurn 2 3, probeTurn 3 3])
        (delivered loopbackScan.deadline
          [probeTurn 1 100, probeTurn 1 3, probeTurn 2 3, probeTurn 3 3]) ∧
      runReceiver additiveMac loopbackScan
          [probeTurn 1 3, probeTurn 1 100, probeTurn 2 3,
            probeTurn 3 3] =
        .ok (some "127.0.0.1") ∧
      runReceiver additiveMac loopbackScan
          [probeTurn 1 100, probeTurn 1 3, probeTurn 2 3,
            probeTurn 3 3] =
        .ok none := by
  refine ⟨?_, ?_, ?_, ?_⟩
  · unfold SamePackets
    decide +kernel
  · unfold SameOutcomes
    decide +kernel
  · decide +kernel
  · decide +kernel

end H3ntun
