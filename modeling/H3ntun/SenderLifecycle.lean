import H3ntun.Foundation.Lifecycle
import H3ntun.Foundation.TransitionSystem
import H3ntun.SenderQueues

namespace H3ntun

/-!
# The lifecycle of a message in the sender

What the calls on a sender return tells which messages were accepted,
transmitted, acknowledged and exhausted.  The queue and the messages in flight
account for all of those that have not ended.
-/

open Lifecycle

namespace ReliableSender

/-- What happens to messages, known by their id and their packets. -/
abbrev Happening : Type :=
  Event Nat (List Bytes)

/-- The three operations of a sender. -/
inductive Call where
  | enqueue (messageId : Nat) (packets : List Bytes)
  | acknowledge (messageId : Nat)
  | pump
  deriving DecidableEq

/-- What the three operations return. -/
inductive Answer where
  | enqueued (result : Except Failure Bool)
  | acknowledged (known : Bool) (latency : Option Time)
  | pumped (result : PumpResult)
  deriving DecidableEq

/-- One operation, with the reading of the monotonic clock it makes. -/
def call
    (sender : ReliableSender)
    (operation : Call)
    (now : Time) :
    ReliableSender × Answer :=
  match operation with
  | .enqueue messageId packets =>
      let (after, result) := sender.enqueue messageId packets now
      (after, .enqueued result)
  | .acknowledge messageId =>
      let (after, known, latency) := sender.acknowledge messageId now
      (after, .acknowledged known latency)
  | .pump =>
      let (after, result) := sender.pump now
      (after, .pumped result)

/-- The sender answering all its operations at given times. -/
def callMachine : Machine ReliableSender (Call × Time) Answer where
  step sender input := sender.call input.1 input.2

/-- Packets a happening puts on the wire. -/
def outbound : Happening → List OutboundPacket
  | .attempted _ packets again =>
      packets.map fun packet =>
        { payload := packet, retransmission := again }
  | _ => []

/-- What happened in a call is what its answer tells. -/
inductive Explains : Call × Answer → List Happening → Prop where
  | accepted
      (messageId : Nat)
      (packets : List Bytes) :
      Explains (.enqueue messageId packets, .enqueued (.ok true))
        [.accepted messageId packets]
  | refused
      (messageId : Nat)
      (packets : List Bytes)
      (result : Except Failure Bool)
      (notAccepted : result ≠ .ok true) :
      Explains (.enqueue messageId packets, .enqueued result) []
  | known
      (messageId : Nat)
      (latency : Option Time) :
      Explains (.acknowledge messageId, .acknowledged true latency)
        [.acknowledged messageId]
  | unknown
      (messageId : Nat)
      (latency : Option Time) :
      Explains (.acknowledge messageId, .acknowledged false latency) []
  | pumped
      (result : PumpResult)
      (events : List Happening)
      (noneAccepted : accepted events = [])
      (noneAcknowledged : acknowledged events = [])
      (packets : result.packets = events.flatMap outbound)
      (exhaustions :
        result.exhaustedMessages = (exhausted events).length) :
      Explains (.pump, .pumped result) events

/-- Message ids of the queued messages, in order. -/
def queuedIds (sender : ReliableSender) : List Nat :=
  sender.queue.map Transmission.messageId

/-- Message ids of the messages in flight. -/
def inFlightIds (sender : ReliableSender) : List Nat :=
  sender.pending.keys

/-- The sender accounts for the messages of a trace. -/
structure Tracked
    (limit : Nat)
    (sender : ReliableSender)
    (trace : List Happening) : Prop where
  sameLimit :
    sender.maxAttempts = limit
  keeps :
    Keeps limit trace sender.queuedIds sender.inFlightIds
  queued :
    ∀ transmission ∈ sender.queue,
      .accepted transmission.messageId transmission.packets ∈ trace
  inFlight :
    ∀ messageId transmission,
      sender.pending.get? messageId = some transmission →
      transmission.messageId = messageId ∧
        .accepted messageId transmission.packets ∈ trace ∧
        transmission.attempts = (attempts trace messageId).length

namespace Tracked

variable
  {limit : Nat}
  {sender : ReliableSender}
  {trace : List Happening}

/-- A sender that keeps nothing accounts for the empty trace. -/
theorem of_empty
    (queue : sender.queue = [])
    (pending : sender.pending = .empty) :
    Tracked sender.maxAttempts sender [] where
  sameLimit := rfl
  keeps := by
    rw [queuedIds, inFlightIds, queue, pending]
    exact Keeps.nil _
  queued transmission member := by
    rw [queue] at member
    cases member
  inFlight messageId transmission found := by
    rw [pending] at found
    cases found

/-- A queued message is not in flight. -/
theorem not_inFlight_of_queued
    (tracked : Tracked limit sender trace)
    {messageId : Nat}
    (isQueued : messageId ∈ sender.queuedIds) :
    messageId ∉ sender.inFlightIds := by
  intro isInFlight
  have waits :
      InStage trace sender.queuedIds sender.inFlightIds messageId
        .waiting :=
    isQueued
  have runs :
      InStage trace sender.queuedIds sender.inFlightIds messageId
        .running :=
    isInFlight
  cases tracked.keeps.stage_unique waits runs

/-- An event that attempts no message keeps what is known of the others. -/
theorem inFlight_concat
    (tracked : Tracked limit sender trace)
    {event : Happening}
    (quiet : ∀ id, attempts [event] id = [])
    {messageId : Nat}
    {transmission : Transmission}
    (found : sender.pending.get? messageId = some transmission) :
    transmission.messageId = messageId ∧
      .accepted messageId transmission.packets ∈ trace ++ [event] ∧
      transmission.attempts =
        (attempts (trace ++ [event]) messageId).length := by
  obtain ⟨own, isAccepted, count⟩ :=
    tracked.inFlight messageId transmission found
  rw [Keeps.attempts_concat quiet]
  exact ⟨own, List.mem_append_left _ isAccepted, count⟩

/-- An attempt at one message keeps what is known of the others. -/
theorem inFlight_attempted
    (tracked : Tracked limit sender trace)
    {attempted messageId : Nat}
    (different : messageId ≠ attempted)
    (packets : List Bytes)
    (again : Bool)
    {transmission : Transmission}
    (found : sender.pending.get? messageId = some transmission) :
    transmission.messageId = messageId ∧
      .accepted messageId transmission.packets ∈
        trace ++ [.attempted attempted packets again] ∧
      transmission.attempts =
        (attempts (trace ++ [.attempted attempted packets again])
          messageId).length := by
  obtain ⟨own, isAccepted, count⟩ :=
    tracked.inFlight messageId transmission found
  rw [attempts_attempted, if_neg different.symm]
  exact ⟨own, List.mem_append_left _ isAccepted, count⟩

/-- `enqueue` accepts a new message or changes nothing. -/
theorem enqueue
    (tracked : Tracked limit sender trace)
    {messageId : Nat}
    (new : messageId ∉ accepted trace)
    (packets : List Bytes)
    (now : Time) :
    ∃ events,
      Explains
          (.enqueue messageId packets,
            .enqueued (sender.enqueue messageId packets now).2)
          events ∧
        Tracked limit (sender.enqueue messageId packets now).1
          (trace ++ events) := by
  have unchanged : Tracked limit sender (trace ++ []) :=
    (List.append_nil trace).symm ▸ tracked
  unfold ReliableSender.enqueue
  split
  · exact ⟨[], .refused _ _ _ (by simp), unchanged⟩
  · split
    · exact ⟨[], .refused _ _ _ (by simp), unchanged⟩
    · split
      · exact ⟨[], .refused _ _ _ (by simp), unchanged⟩
      · refine ⟨_, .accepted _ _, tracked.sameLimit, ?_, ?_, ?_⟩
        · simp only [queuedIds, List.map_append]
          exact tracked.keeps.accept new packets
        · intro transmission member
          rcases List.mem_append.mp member with earlier | isNew
          · exact List.mem_append_left _
              (tracked.queued transmission earlier)
          · rw [List.mem_singleton.mp isNew]
            exact List.mem_append_right _ (List.mem_singleton_self _)
        · intro otherId transmission found
          exact tracked.inFlight_concat (fun _ => rfl) found

/-- `acknowledge` ends a message in flight or changes nothing. -/
theorem acknowledge
    (tracked : Tracked limit sender trace)
    (messageId : Nat)
    (now : Time) :
    ∃ events,
      Explains
          (.acknowledge messageId,
            .acknowledged (sender.acknowledge messageId now).2.1
              (sender.acknowledge messageId now).2.2)
          events ∧
        Tracked limit (sender.acknowledge messageId now).1
          (trace ++ events) := by
  unfold ReliableSender.acknowledge
  split
  · refine ⟨[], .unknown _ _, ?_⟩
    rw [List.append_nil]
    exact tracked
  · rename_i transmission found
    have present : messageId ∈ sender.pending.keys :=
      OrderedDict.mem_keys_iff.mpr ⟨transmission, found⟩
    refine ⟨_, .known _ _, tracked.sameLimit, ?_, ?_, ?_⟩
    · exact tracked.keeps.acknowledge
        (OrderedDict.perm_keys_erase present)
    · intro queued member
      exact List.mem_append_left _ (tracked.queued queued member)
    · intro otherId other stillFound
      exact tracked.inFlight_concat (fun _ => rfl)
        (OrderedDict.get?_of_erase stillFound)

end Tracked

/-- What `pump` has done so far, with the events it made happen. -/
structure Pumping
    (limit : Nat)
    (trace : List Happening)
    (progress : ReliableSender × PumpResult)
    (events : List Happening) : Prop where
  tracked :
    Tracked limit progress.1 (trace ++ events)
  noneAccepted :
    accepted events = []
  noneAcknowledged :
    acknowledged events = []
  packets :
    progress.2.packets = events.flatMap outbound
  exhaustions :
    progress.2.exhaustedMessages = (exhausted events).length

namespace Pumping

variable
  {limit : Nat}
  {trace events : List Happening}
  {sender after : ReliableSender}
  {result : PumpResult}

/-- A message was transmitted. -/
theorem attempted
    (pumping : Pumping limit trace (sender, result) events)
    {messageId : Nat}
    {packets : List Bytes}
    {again : Bool}
    (tracked :
      Tracked limit after
        (trace ++ events ++ [.attempted messageId packets again])) :
    Pumping limit trace
      (after,
        { result with
          packets := result.packets ++
            packets.map fun packet =>
              { payload := packet, retransmission := again } })
      (events ++ [.attempted messageId packets again]) where
  tracked := by
    rw [← List.append_assoc]
    exact tracked
  noneAccepted := by
    rw [accepted_append, pumping.noneAccepted]
    rfl
  noneAcknowledged := by
    rw [acknowledged_append, pumping.noneAcknowledged]
    rfl
  packets := by
    rw [List.flatMap_append, ← pumping.packets, List.flatMap_singleton]
    rfl
  exhaustions := by
    rw [exhausted_append, List.length_append, ← pumping.exhaustions]
    rfl

/-- A message was given up. -/
theorem exhausted
    (pumping : Pumping limit trace (sender, result) events)
    {messageId : Nat}
    (tracked :
      Tracked limit after
        (trace ++ events ++ [.exhausted messageId])) :
    Pumping limit trace
      (after,
        { result with
          exhaustedMessages := result.exhaustedMessages + 1 })
      (events ++ [.exhausted messageId]) where
  tracked := by
    rw [← List.append_assoc]
    exact tracked
  noneAccepted := by
    rw [accepted_append, pumping.noneAccepted]
    rfl
  noneAcknowledged := by
    rw [acknowledged_append, pumping.noneAcknowledged]
    rfl
  packets := by
    rw [List.flatMap_append, ← pumping.packets]
    exact (List.append_nil _).symm
  exhaustions := by
    rw [exhausted_append, List.length_append, ← pumping.exhaustions]
    rfl

/-- One turn of the first loop, on a message as it is in flight. -/
theorem resend
    (pumping : Pumping limit trace (sender, result) events)
    {transmission : Transmission}
    (found :
      sender.pending.get? transmission.messageId = some transmission)
    (now : Time) :
    ∃ more,
      Pumping limit trace
        (ReliableSender.resend now (sender, result) transmission) more := by
  have tracked := pumping.tracked
  obtain ⟨-, isAccepted, count⟩ :=
    tracked.inFlight transmission.messageId transmission found
  have present : transmission.messageId ∈ sender.pending.keys :=
    OrderedDict.mem_keys_iff.mpr ⟨transmission, found⟩
  have sameLimit : sender.maxAttempts = limit := tracked.sameLimit
  unfold ReliableSender.resend
  dsimp only
  split
  · exact ⟨events, pumping⟩
  · split
    · exact ⟨events, pumping⟩
    · split
      · rename_i spent
        refine ⟨events ++ [.exhausted transmission.messageId], ?_⟩
        refine pumping.exhausted ?_
        refine ⟨sameLimit, ?_, ?_, ?_⟩
        · have bounded := tracked.keeps.bounded transmission.messageId
          exact tracked.keeps.exhaust
            (OrderedDict.perm_keys_erase present) (by omega)
        · intro queued member
          exact List.mem_append_left _ (tracked.queued queued member)
        · intro otherId other stillFound
          exact tracked.inFlight_concat (fun _ => rfl)
            (OrderedDict.get?_of_erase stillFound)
      · rename_i notSpent
        refine ⟨events ++
          [.attempted transmission.messageId transmission.packets true], ?_⟩
        refine pumping.attempted ?_
        refine ⟨sameLimit, ?_, ?_, ?_⟩
        · have retried :=
            tracked.keeps.retry present isAccepted (by omega)
          simp only [inFlightIds,
            OrderedDict.keys_set_of_mem present]
          exact retried
        · intro queued member
          exact List.mem_append_left _ (tracked.queued queued member)
        · intro otherId other foundAfter
          by_cases same : otherId = transmission.messageId
          · rw [same, OrderedDict.get?_set_same] at foundAfter
            cases foundAfter
            rw [same, attempts_attempted, if_pos rfl,
              List.length_append, ← count]
            exact ⟨rfl, List.mem_append_left _ isAccepted, rfl⟩
          · rw [OrderedDict.get?_set_other _ same] at foundAfter
            exact tracked.inFlight_attempted same _ _ foundAfter

/-- A turn of the first loop leaves the other messages in flight. -/
theorem get?_resend_other
    (now : Time)
    (progress : ReliableSender × PumpResult)
    (transmission : Transmission)
    {other : Nat}
    (different : other ≠ transmission.messageId) :
    (ReliableSender.resend now progress
        transmission).1.pending.get? other =
      progress.1.pending.get? other := by
  unfold ReliableSender.resend
  dsimp only
  split
  · rfl
  · split
    · rfl
    · split
      · exact OrderedDict.get?_erase_other _ different
      · exact OrderedDict.get?_set_other _ different _

/-- The first loop, on messages that are in flight when it starts. -/
theorem resend_all
    {transmissions : List Transmission}
    {progress : ReliableSender × PumpResult}
    (pumping : Pumping limit trace progress events)
    (distinct : (transmissions.map Transmission.messageId).Nodup)
    (found :
      ∀ transmission ∈ transmissions,
        progress.1.pending.get? transmission.messageId =
          some transmission)
    (now : Time) :
    ∃ more,
      Pumping limit trace
        (transmissions.foldl (ReliableSender.resend now) progress)
        more := by
  induction transmissions generalizing progress events with
  | nil =>
      exact ⟨events, pumping⟩
  | cons transmission rest inductionHypothesis =>
      obtain ⟨notInRest, restDistinct⟩ := List.nodup_cons.mp distinct
      obtain ⟨more, resent⟩ :=
        resend pumping (found transmission List.mem_cons_self) now
      refine inductionHypothesis resent restDistinct ?_
      intro other member
      have different : other.messageId ≠ transmission.messageId := by
        intro same
        rw [← same] at notInRest
        exact notInRest (List.mem_map_of_mem member)
      rw [get?_resend_other now progress transmission different]
      exact found other (List.mem_cons_of_mem _ member)

/-- The second loop, on what is left of the queue. -/
theorem startQueued
    {queue : List Transmission}
    (pumping :
      Pumping limit trace ({ sender with queue := queue }, result) events)
    (positive : 1 ≤ limit)
    (now : Time)
    (window : Nat) :
    ∃ more,
      Pumping limit trace
        (ReliableSender.startQueued now window queue (sender, result))
        more := by
  induction queue generalizing sender result events with
  | nil =>
      exact ⟨events, pumping⟩
  | cons transmission rest inductionHypothesis =>
      unfold ReliableSender.startQueued
      split
      · have tracked := pumping.tracked
        have isAccepted :=
          tracked.queued transmission List.mem_cons_self
        have absent : transmission.messageId ∉ sender.pending.keys :=
          tracked.not_inFlight_of_queued List.mem_cons_self
        have notAttempted :
            attempts (trace ++ events) transmission.messageId = [] :=
          tracked.keeps.attempts_of_waiting List.mem_cons_self
        refine inductionHypothesis (?_ : Pumping limit trace _
          (events ++
            [.attempted transmission.messageId transmission.packets
              false]))
        refine pumping.attempted ?_
        refine ⟨tracked.sameLimit, ?_, ?_, ?_⟩
        · simp only [inFlightIds, OrderedDict.keys_set_of_not_mem absent]
          exact tracked.keeps.start isAccepted positive
        · intro queued member
          exact List.mem_append_left _
            (tracked.queued queued (List.mem_cons_of_mem _ member))
        · intro otherId other foundAfter
          by_cases same : otherId = transmission.messageId
          · rw [same, OrderedDict.get?_set_same] at foundAfter
            cases foundAfter
            rw [same, attempts_attempted, if_pos rfl, notAttempted]
            exact ⟨rfl, List.mem_append_left _ isAccepted, rfl⟩
          · rw [OrderedDict.get?_set_other _ same] at foundAfter
            exact tracked.inFlight_attempted same _ _ foundAfter
      · exact ⟨events, pumping⟩

end Pumping

/-- The messages in flight stand under their own ids. -/
theorem Tracked.messageIds_inFlight
    {limit : Nat}
    {sender : ReliableSender}
    {trace : List Happening}
    (tracked : Tracked limit sender trace) :
    sender.pending.values.map Transmission.messageId =
      sender.inFlightIds := by
  simp only [OrderedDict.values, List.map_map, inFlightIds,
    OrderedDict.keys]
  apply List.map_congr_left
  intro entry member
  exact (tracked.inFlight entry.1 entry.2
    (OrderedDict.get?_eq_some_iff.mpr member)).1

/-- `pump` transmits and gives up what its result tells. -/
theorem Tracked.pump
    {limit : Nat}
    {sender : ReliableSender}
    {trace : List Happening}
    (tracked : Tracked limit sender trace)
    (now : Time) :
    ∃ events,
      Explains (.pump, .pumped (sender.pump now).2) events ∧
        Tracked limit (sender.pump now).1 (trace ++ events) := by
  have start :
      Pumping limit trace
        (sender, { packets := [], exhaustedMessages := 0 }) [] := by
    refine ⟨?_, rfl, rfl, rfl, rfl⟩
    rw [List.append_nil]
    exact tracked
  have positive : 1 ≤ limit :=
    tracked.sameLimit ▸ sender.maxAttemptsPositive
  have distinct :
      (sender.pending.values.map Transmission.messageId).Nodup := by
    rw [tracked.messageIds_inFlight]
    exact sender.pending.nodup_keys
  have found :
      ∀ transmission ∈ sender.pending.values,
        sender.pending.get? transmission.messageId =
          some transmission := by
    intro transmission member
    obtain ⟨entry, inEntries, rfl⟩ := List.mem_map.mp member
    have stored := OrderedDict.get?_eq_some_iff.mpr inEntries
    rw [(tracked.inFlight entry.1 entry.2 stored).1]
    exact stored
  obtain ⟨resentEvents, resent⟩ :=
    start.resend_all distinct found now
  obtain ⟨events, pumped⟩ :=
    resent.startQueued positive now _
  exact ⟨events,
    .pumped _ events pumped.noneAccepted pumped.noneAcknowledged
      pumped.packets pumped.exhaustions,
    pumped.tracked⟩

/-- One call is explained and keeps the accounts. -/
theorem Tracked.call
    {limit : Nat}
    {sender : ReliableSender}
    {trace : List Happening}
    (tracked : Tracked limit sender trace)
    {operation : Call}
    (new :
      ∀ messageId packets,
        operation = .enqueue messageId packets →
        messageId ∉ accepted trace)
    (now : Time) :
    ∃ events,
      Explains (operation, (sender.call operation now).2) events ∧
        Tracked limit (sender.call operation now).1
          (trace ++ events) := by
  cases operation with
  | enqueue messageId packets =>
      exact tracked.enqueue (new messageId packets rfl) packets now
  | acknowledge messageId =>
      exact tracked.acknowledge messageId now
  | pump =>
      exact tracked.pump now

/-- Message ids of the `enqueue` calls, in order. -/
def enqueuedIds (calls : List (Call × Time)) : List Nat :=
  calls.filterMap fun
    | (.enqueue messageId _, _) => some messageId
    | _ => none

/-- The calls of a run with their answers. -/
def exchanges
    (sender : ReliableSender)
    (calls : List (Call × Time)) : List (Call × Answer) :=
  (calls.map Prod.fst).zip (callMachine.answers sender calls)

/-- Message ids for which `enqueue` answered yes, in order. -/
def admittedIds (exchanges : List (Call × Answer)) : List Nat :=
  exchanges.filterMap fun
    | (.enqueue messageId _, .enqueued (.ok true)) => some messageId
    | _ => none

/-- Message ids for which `acknowledge` answered yes, in order. -/
def confirmedIds (exchanges : List (Call × Answer)) : List Nat :=
  exchanges.filterMap fun
    | (.acknowledge messageId, .acknowledged true _) => some messageId
    | _ => none

/-- The sum of the exhausted messages `pump` counted. -/
def exhaustedCount (exchanges : List (Call × Answer)) : Nat :=
  (exchanges.map fun
    | (.pump, .pumped result) => result.exhaustedMessages
    | _ => 0).sum

/-- The answers tell what was accepted, acknowledged and exhausted. -/
theorem counts_of_explains
    {exchanges : List (Call × Answer)}
    {steps : List (List Happening)}
    (explains : List.Forall₂ Explains exchanges steps) :
    accepted steps.flatten = admittedIds exchanges ∧
      acknowledged steps.flatten = confirmedIds exchanges ∧
      (exhausted steps.flatten).length = exhaustedCount exchanges := by
  induction explains with
  | nil =>
      exact ⟨rfl, rfl, rfl⟩
  | @cons exchange events rest restSteps head _ inductionHypothesis =>
      obtain ⟨admitted, confirmed, exhaustions⟩ := inductionHypothesis
      simp only [List.flatten_cons, accepted_append,
        acknowledged_append, exhausted_append, List.length_append,
        admitted, confirmed, exhaustions]
      cases head with
      | accepted messageId packets =>
          exact ⟨rfl, rfl, rfl⟩
      | refused messageId packets result notAccepted =>
          have notAdmitted :
              admittedIds
                  ((.enqueue messageId packets, .enqueued result) ::
                    rest) =
                admittedIds rest := by
            rcases result with failure | _ | _
            · rfl
            · rfl
            · exact absurd rfl notAccepted
          rw [notAdmitted]
          exact ⟨rfl, rfl, rfl⟩
      | known messageId latency =>
          exact ⟨rfl, rfl, rfl⟩
      | unknown messageId latency =>
          exact ⟨rfl, rfl, rfl⟩
      | pumped result events noneAccepted noneAcknowledged packets
          exhaustions =>
          rw [noneAccepted, noneAcknowledged, ← exhaustions]
          exact ⟨rfl, rfl, rfl⟩

/-- The last exchange of a run is made in the state before it. -/
theorem exchanges_concat
    (sender : ReliableSender)
    (earlier : List (Call × Time))
    (input : Call × Time) :
    exchanges sender (earlier ++ [input]) =
      exchanges sender earlier ++
        [(input.1,
          ((callMachine.run sender earlier).call input.1 input.2).2)] := by
  rw [exchanges, List.map_append, Machine.answers_append,
    List.zip_append (by simp)]
  rfl

/-- Exchanges of the first calls. -/
theorem exchanges_take
    (sender : ReliableSender)
    (calls : List (Call × Time))
    (count : Nat) :
    exchanges sender (calls.take count) =
      (exchanges sender calls).take count := by
  rw [exchanges, Machine.answers_take, List.map_take]
  exact List.take_zipWith.symm

/-- Only messages of `enqueue` calls are accepted. -/
theorem mem_enqueuedIds_of_admitted
    {sender : ReliableSender}
    {calls : List (Call × Time)}
    {messageId : Nat}
    (admitted : messageId ∈ admittedIds (exchanges sender calls)) :
    messageId ∈ enqueuedIds calls := by
  obtain ⟨⟨operation, answer⟩, inExchanges, isAdmitted⟩ :=
    List.mem_filterMap.mp admitted
  have isCall := (List.of_mem_zip inExchanges).1
  obtain ⟨input, inCalls, sameCall⟩ := List.mem_map.mp isCall
  refine List.mem_filterMap.mpr ⟨input, inCalls, ?_⟩
  obtain ⟨inputCall, now⟩ := input
  subst sameCall
  split at isAdmitted
  · rename_i shape
    obtain ⟨rfl, rfl⟩ := Prod.mk.inj shape
    exact isAdmitted
  · cases isAdmitted

/-- A run is explained so that the accounts are kept at all times. -/
theorem exists_explanation
    {limit : Nat}
    {sender : ReliableSender}
    (start : Tracked limit sender [])
    {calls : List (Call × Time)}
    (distinct : (enqueuedIds calls).Nodup) :
    ∃ steps,
      List.Forall₂ Explains (exchanges sender calls) steps ∧
        ∀ count,
          Tracked limit (callMachine.run sender (calls.take count))
            (steps.take count).flatten := by
  induction calls using List.reverseRecOn with
  | nil =>
      refine ⟨[], .nil, fun count => ?_⟩
      rw [List.take_nil, List.take_nil]
      exact start
  | append_singleton earlier input inductionHypothesis =>
      have isAppend :
          enqueuedIds (earlier ++ [input]) =
            enqueuedIds earlier ++ enqueuedIds [input] :=
        List.filterMap_append
      rw [isAppend] at distinct
      obtain ⟨earlierDistinct, -, apart⟩ := List.nodup_append.mp distinct
      obtain ⟨steps, explains, tracked⟩ :=
        inductionHypothesis earlierDistinct
      have sameLength : steps.length = earlier.length := by
        rw [← explains.length_eq]
        simp [exchanges]
      have before := tracked earlier.length
      rw [List.take_length, ← sameLength, List.take_length] at before
      have new :
          ∀ messageId packets,
            input.1 = .enqueue messageId packets →
            messageId ∉ accepted steps.flatten := by
        intro messageId packets isEnqueue isAccepted
        rw [(counts_of_explains explains).1] at isAccepted
        refine apart messageId (mem_enqueuedIds_of_admitted isAccepted)
          messageId ?_ rfl
        obtain ⟨operation, now⟩ := input
        subst isEnqueue
        exact List.mem_singleton_self messageId
      obtain ⟨events, explained, after⟩ := before.call new input.2
      refine ⟨steps ++ [events], ?_, fun count => ?_⟩
      · rw [exchanges_concat]
        exact List.rel_append explains (.cons explained .nil)
      · by_cases within : count ≤ earlier.length
        · rw [List.take_append_of_le_length within,
            List.take_append_of_le_length (by omega)]
          exact tracked count
        · rw [List.take_of_length_le (by simp; omega),
            List.take_of_length_le (by simp; omega),
            Machine.run_concat, List.flatten_append,
            List.flatten_singleton]
          exact after

/--
The messages of a run, explained by a list of events for each call, are
accounted for when it ends.
-/
structure Accounted
    (limit : Nat)
    (sender : ReliableSender)
    (calls : List (Call × Time))
    (steps : List (List Happening)) : Prop where
  keeps :
    Keeps limit steps.flatten
      (callMachine.run sender calls).queuedIds
      (callMachine.run sender calls).inFlightIds
  admitted :
    admittedIds (exchanges sender calls) = accepted steps.flatten
  confirmed :
    confirmedIds (exchanges sender calls) = acknowledged steps.flatten
  confirmedOnce :
    (confirmedIds (exchanges sender calls)).Nodup
  exhaustions :
    exhaustedCount (exchanges sender calls) =
      (exhausted steps.flatten).length
  balance :
    (admittedIds (exchanges sender calls)).length =
      (callMachine.run sender calls).queue.length +
        (callMachine.run sender calls).pending.length +
        (confirmedIds (exchanges sender calls)).length +
        exhaustedCount (exchanges sender calls)
  oneStage :
    ∀ messageId ∈ admittedIds (exchanges sender calls),
      ∃! stage,
        InStage steps.flatten
          (callMachine.run sender calls).queuedIds
          (callMachine.run sender calls).inFlightIds
          messageId stage

/-- An explained run that keeps the accounts is accounted for. -/
theorem Tracked.accounted
    {limit : Nat}
    {sender : ReliableSender}
    {calls : List (Call × Time)}
    {steps : List (List Happening)}
    (tracked :
      Tracked limit (callMachine.run sender calls) steps.flatten)
    (explains : List.Forall₂ Explains (exchanges sender calls) steps) :
    Accounted limit sender calls steps := by
  obtain ⟨admitted, confirmed, exhaustions⟩ :=
    counts_of_explains explains
  have keeps := tracked.keeps
  refine ⟨keeps, admitted.symm, confirmed.symm, ?_, exhaustions.symm, ?_,
    ?_⟩
  · rw [← confirmed]
    exact keeps.nodup_acknowledged
  · have lengths := keeps.length_accepted
    rw [admitted, confirmed, exhaustions, queuedIds, inFlightIds,
      List.length_map, OrderedDict.length_keys] at lengths
    exact lengths
  · rw [← admitted]
    exact fun messageId isAccepted => keeps.existsUnique_stage isAccepted

/--
In every run that enqueues distinct message ids, the answers explain what
happened to the messages so that at all times each accepted message is in one
stage, and only goes forward.
-/
theorem every_message_keeps_its_lifecycle
    {timeoutSeconds : Rat}
    {maxRetries maxPendingMessages initialWindow maxWindow : Int}
    {sender : ReliableSender}
    (created :
      init timeoutSeconds maxRetries maxPendingMessages initialWindow
        maxWindow = .ok sender)
    (calls : List (Call × Time))
    (distinct : (enqueuedIds calls).Nodup) :
    ∃ steps : List (List Happening),
      List.Forall₂ Explains (exchanges sender calls) steps ∧
        (∀ count,
          Accounted (maxRetries + 1).toNat sender (calls.take count)
            (steps.take count)) ∧
        ∀ earlier later,
          earlier ≤ later →
          ∀ messageId ∈
              admittedIds (exchanges sender (calls.take earlier)),
            ∀ before after,
              InStage (steps.take earlier).flatten
                  (callMachine.run sender (calls.take earlier)).queuedIds
                  (callMachine.run sender
                    (calls.take earlier)).inFlightIds
                  messageId before →
              InStage (steps.take later).flatten
                  (callMachine.run sender (calls.take later)).queuedIds
                  (callMachine.run sender
                    (calls.take later)).inFlightIds
                  messageId after →
              before.Leads after := by
  obtain ⟨_, _, limit, _, _, _, queue, pending⟩ :=
    init_eq_ok_iff.mp created
  have start : Tracked (maxRetries + 1).toNat sender [] :=
    limit ▸ Tracked.of_empty queue pending
  obtain ⟨steps, explains, tracked⟩ := exists_explanation start distinct
  have accounted :
      ∀ count,
        Accounted (maxRetries + 1).toNat sender (calls.take count)
          (steps.take count) := by
    intro count
    refine (tracked count).accounted ?_
    rw [exchanges_take]
    exact List.forall₂_take count explains
  refine ⟨steps, explains, accounted, ?_⟩
  intro earlier later inOrder messageId isAdmitted before after inBefore
    inAfter
  obtain ⟨between, rfl⟩ := Nat.exists_eq_add_of_le inOrder
  have longer :
      (steps.take (earlier + between)).flatten =
        (steps.take earlier).flatten ++
          ((steps.drop earlier).take between).flatten := by
    rw [List.take_add, List.flatten_append]
  have keepsLater := (tracked (earlier + between)).keeps
  rw [longer] at keepsLater inAfter
  rw [(accounted earlier).admitted] at isAdmitted
  exact (tracked earlier).keeps.forward keepsLater isAdmitted inBefore
    inAfter

/-- Two messages: one sent twice before its ACK, one still in flight. -/
def lifecycleCalls : List (Call × Time) :=
  [(.enqueue 1 [[1], [2]], 0), (.acknowledge 2, 0), (.pump, 0),
    (.enqueue 2 [[3]], 0), (.pump, 1), (.acknowledge 1, 2),
    (.acknowledge 1, 2), (.pump, 3)]

/-- The messages of this run are accounted for at all times. -/
theorem every_message_keeps_its_lifecycle_of_two :
    ∃ steps : List (List Happening),
      List.Forall₂ Explains (exchanges fresh lifecycleCalls) steps ∧
        ∀ count,
          Accounted 9 fresh (lifecycleCalls.take count)
            (steps.take count) := by
  obtain ⟨steps, explains, accounted, _⟩ :=
    every_message_keeps_its_lifecycle init_fresh lifecycleCalls
      (by decide)
  exact ⟨steps, explains, accounted⟩

end ReliableSender

end H3ntun
