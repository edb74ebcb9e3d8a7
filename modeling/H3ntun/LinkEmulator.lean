import H3ntun.Basic
import H3ntun.Foundation.RankedQueue
import H3ntun.Foundation.TransitionSystem

namespace H3ntun

/-!
# The link emulator of the lab

A one-way relay that loses, delays, duplicates and reorders datagrams by their
index.  One thread receives and puts datagrams into a queue under the time
they are due, another takes them out when they are due and forwards them.  The
steps of both threads are interleaved.
-/

/-- `LinkProfile` -/
structure LinkProfile where
  delayMs : Time := 0
  jitterMs : Time := 0
  dropEvery : Int := 0
  duplicateEvery : Int := 0
  reorderEvery : Int := 0
  dropIndices : List Int := []
  deriving Repr, DecidableEq

namespace LinkProfile

/-- The check of one of the fields that select every so many datagrams. -/
def validateEvery (name : String) (value : Int) : Except Failure Unit :=
  if value < 0 ∨ value = 1 then
    .error (.valueError (name ++ " must be zero or at least two"))
  else
    .ok ()

/-- `LinkProfile.validate` -/
def validate (profile : LinkProfile) : Except Failure Unit :=
  if profile.delayMs < 0 ∨ profile.jitterMs < 0 then
    .error (.valueError "delay and jitter cannot be negative")
  else do
    validateEvery "drop_every" profile.dropEvery
    validateEvery "duplicate_every" profile.duplicateEvery
    validateEvery "reorder_every" profile.reorderEvery
    if profile.dropIndices.any fun index => index ≤ 0 then
      .error (.valueError
        "drop_indices must contain positive packet indexes")
    else
      .ok ()

/-- Zero for never, or at least two. -/
def EveryOk (value : Int) : Prop :=
  0 ≤ value ∧ value ≠ 1

/-- What `validate` checks. -/
structure Valid (profile : LinkProfile) : Prop where
  delays : 0 ≤ profile.delayMs ∧ 0 ≤ profile.jitterMs
  dropEvery : EveryOk profile.dropEvery
  duplicateEvery : EveryOk profile.duplicateEvery
  reorderEvery : EveryOk profile.reorderEvery
  dropIndices : ∀ index ∈ profile.dropIndices, 0 < index

theorem validateEvery_eq_ok_iff
    {name : String}
    {value : Int}
    {done : Unit} :
    validateEvery name value = .ok done ↔ EveryOk value := by
  rw [validateEvery, guard_eq_ok_iff, not_or, not_lt, EveryOk]
  exact and_iff_left rfl

theorem validate_eq_ok_iff
    {profile : LinkProfile} :
    profile.validate = .ok () ↔ profile.Valid := by
  simp only [validate, guard_eq_ok_iff, bind_eq_ok_iff, not_or, not_lt,
    List.any_eq_true, decide_eq_true_eq, not_exists, not_and, not_le]
  constructor
  · rintro ⟨delays, _, dropEvery, _, duplicateEvery, _, reorderEvery,
      dropIndices, _⟩
    rw [validateEvery_eq_ok_iff] at dropEvery duplicateEvery reorderEvery
    exact ⟨delays, dropEvery, duplicateEvery, reorderEvery, dropIndices⟩
  · rintro ⟨delays, dropEvery, duplicateEvery, reorderEvery, dropIndices⟩
    exact ⟨delays, (), validateEvery_eq_ok_iff.mpr dropEvery, (),
      validateEvery_eq_ok_iff.mpr duplicateEvery, (),
      validateEvery_eq_ok_iff.mpr reorderEvery, dropIndices, trivial⟩

/-- The datagram with this index is lost. -/
def Loses (profile : LinkProfile) (enabled : Bool) (index : Nat) : Prop :=
  enabled = false ∨ (index : Int) ∈ profile.dropIndices ∨
    (profile.dropEvery ≠ 0 ∧ (index : Int) % profile.dropEvery = 0)

instance (profile : LinkProfile) (enabled : Bool) (index : Nat) :
    Decidable (profile.Loses enabled index) :=
  inferInstanceAs (Decidable (_ ∨ _ ∨ _))

/-- What is added to the delay of a datagram, in turns up and down. -/
def jitter (profile : LinkProfile) (index : Nat) : Time :=
  if profile.jitterMs ≠ 0 then
    if index % 2 ≠ 0 then profile.jitterMs else -profile.jitterMs
  else
    0

/-- The datagram with this index is held back. -/
def Reorders (profile : LinkProfile) (index : Nat) : Prop :=
  profile.reorderEvery ≠ 0 ∧ (index : Int) % profile.reorderEvery = 1

instance (profile : LinkProfile) (index : Nat) :
    Decidable (profile.Reorders index) :=
  inferInstanceAs (Decidable (_ ∧ _))

/-- How long a datagram is kept, in milliseconds. -/
def totalDelayMs (profile : LinkProfile) (index : Nat) : Time :=
  let delayMs := max 0 (profile.delayMs + profile.jitter index)
  if profile.Reorders index then
    delayMs + max (max 2 (profile.jitterMs * 2)) profile.delayMs
  else
    delayMs

/-- The datagram with this index is sent twice. -/
def Duplicates (profile : LinkProfile) (index : Nat) : Prop :=
  profile.duplicateEvery ≠ 0 ∧ (index : Int) % profile.duplicateEvery = 0

instance (profile : LinkProfile) (index : Nat) :
    Decidable (profile.Duplicates index) :=
  inferInstanceAs (Decidable (_ ∧ _))

end LinkProfile

/-- `UdpLinkEmulator.stats` -/
structure LinkStats where
  received : Nat := 0
  forwarded : Nat := 0
  dropped : Nat := 0
  duplicated : Nat := 0
  reordered : Nat := 0
  deriving Repr, DecidableEq

/-- A datagram the receiving thread has still to enqueue. -/
structure Scheduled where
  due : Time
  payload : Bytes
  isCopy : Bool := false
  deriving Repr, DecidableEq

/-- State of `UdpLinkEmulator`, with what its two threads hold. -/
structure UdpLinkEmulator where
  profile : LinkProfile
  enabled : Bool := true
  queue : RankedQueue Time Bytes := .empty
  packetIndex : Nat := 0
  stats : LinkStats := {}
  /-- What the receiving thread enqueues before it receives again. -/
  scheduled : List Scheduled := []
  /-- What the sending thread has taken out of the queue. -/
  taken : Option (RankedEntry Time Bytes) := none
  /-- The sending thread ends with an `OSError`. -/
  sending : Bool := true

namespace UdpLinkEmulator

/-- The constructor. -/
def init (profile : LinkProfile) : Except Failure UdpLinkEmulator := do
  profile.validate
  return { profile := profile }

/-- `set_enabled`. -/
def setEnabled (emulator : UdpLinkEmulator) (enabled : Bool) :
    UdpLinkEmulator :=
  { emulator with enabled := enabled }

/-- What is enqueued of a datagram that is not lost. -/
def schedule
    (profile : LinkProfile)
    (index : Nat)
    (payload : Bytes)
    (clock : Time) :
    List Scheduled :=
  let due := clock + profile.totalDelayMs index / 1000
  if profile.Duplicates index then
    [{ due := due, payload := payload },
      { due := due + 1 / 1000, payload := payload, isCopy := true }]
  else
    [{ due := due, payload := payload }]

/-- `_receive_loop` for one datagram, up to the first `_enqueue`. -/
def receive
    (emulator : UdpLinkEmulator)
    (payload : Bytes)
    (clock : Time) :
    UdpLinkEmulator :=
  let index := emulator.packetIndex + 1
  let stats :=
    { emulator.stats with received := emulator.stats.received + 1 }
  if emulator.profile.Loses emulator.enabled index then
    { emulator with
      packetIndex := index
      stats := { stats with dropped := stats.dropped + 1 } }
  else
    { emulator with
      packetIndex := index
      stats := { stats with
        reordered :=
          if emulator.profile.Reorders index then
            stats.reordered + 1
          else
            stats.reordered }
      scheduled := schedule emulator.profile index payload clock }

/-- The counters and the schedule after a datagram, field by field. -/
theorem receive_eq
    (emulator : UdpLinkEmulator)
    (payload : Bytes)
    (clock : Time) :
    let index := emulator.packetIndex + 1
    emulator.receive payload clock =
      { emulator with
        packetIndex := index
        stats := { emulator.stats with
          received := emulator.stats.received + 1
          dropped := emulator.stats.dropped +
            if emulator.profile.Loses emulator.enabled index then 1 else 0
          reordered := emulator.stats.reordered +
            if ¬ emulator.profile.Loses emulator.enabled index ∧
                emulator.profile.Reorders index then
              1
            else
              0 }
        scheduled :=
          if emulator.profile.Loses emulator.enabled index then
            emulator.scheduled
          else
            schedule emulator.profile index payload clock } := by
  intro index
  by_cases lost : emulator.profile.Loses emulator.enabled index
  · simp only [receive, index, lost, if_true, not_true, false_and,
      if_false, Nat.add_zero]
  · by_cases reorders : emulator.profile.Reorders index <;>
      simp only [receive, index, lost, reorders, if_true, if_false,
        not_false_iff, and_self, and_false, Nat.add_zero]

/-- `_enqueue` for the next scheduled datagram; a copy is counted then. -/
def enqueue (emulator : UdpLinkEmulator) : UdpLinkEmulator :=
  match emulator.scheduled with
  | [] => emulator
  | next :: rest =>
      { emulator with
        queue := emulator.queue.push next.due next.payload
        scheduled := rest
        stats := { emulator.stats with
          duplicated :=
            if next.isCopy then
              emulator.stats.duplicated + 1
            else
              emulator.stats.duplicated } }

/-- The locked part of `_send_loop`: take the first datagram if it is due. -/
def take (emulator : UdpLinkEmulator) (clock : Time) : UdpLinkEmulator :=
  match emulator.queue.first? with
  | none => emulator
  | some entry =>
      if entry.key - clock > 0 then
        emulator
      else
        { emulator with
          queue := emulator.queue.pop
          taken := some entry }

/-- The rest of `_send_loop`: `sendto` succeeds or raises. -/
def forward (emulator : UdpLinkEmulator) (failing : Bool) :
    UdpLinkEmulator :=
  if failing then
    { emulator with taken := none, sending := false }
  else
    { emulator with
      taken := none
      stats :=
        { emulator.stats with
          forwarded := emulator.stats.forwarded + 1 } }

end UdpLinkEmulator

/-- One step of one thread of an emulator, or of whoever switches it. -/
inductive LinkAction where
  | setEnabled (enabled : Bool)
  | receive (payload : Bytes) (clock : Time)
  | enqueue
  | take (clock : Time)
  | forward (failing : Bool)
  deriving Repr, DecidableEq

/-- A datagram received, with the clock and the switch at that time. -/
structure LinkArrival where
  payload : Bytes
  clock : Time
  enabled : Bool
  deriving Repr, DecidableEq

/-- Everything an emulator has done so far, in order. -/
structure LinkJournal where
  arrivals : List LinkArrival := []
  enqueued : List (RankedEntry Time Bytes) := []
  /-- Entries taken out of the queue, with the clock at that time. -/
  taken : List (RankedEntry Time Bytes × Time) := []
  forwarded : List Bytes := []

/-- An emulator together with its journal. -/
structure Link where
  emulator : UdpLinkEmulator
  journal : LinkJournal

namespace Link

/-- A thread takes only the step it has come to. -/
def Ready (link : Link) : LinkAction → Prop
  | .setEnabled _ => True
  | .receive .. => link.emulator.scheduled = []
  | .enqueue => link.emulator.scheduled ≠ []
  | .take _ => link.emulator.sending = true ∧ link.emulator.taken = none
  | .forward _ => link.emulator.taken ≠ none

instance (link : Link) :
    (action : LinkAction) → Decidable (link.Ready action)
  | .setEnabled _ => isTrue trivial
  | .receive .. => inferInstanceAs (Decidable (_ = []))
  | .enqueue => inferInstanceAs (Decidable (_ ≠ []))
  | .take _ => inferInstanceAs (Decidable (_ ∧ _))
  | .forward _ => inferInstanceAs (Decidable (_ ≠ none))

/-- What a step adds to the journal. -/
def record (link : Link) : LinkAction → LinkJournal
  | .setEnabled _ => link.journal
  | .receive payload clock =>
      { link.journal with
        arrivals := link.journal.arrivals ++ [{
          payload := payload
          clock := clock
          enabled := link.emulator.enabled }] }
  | .enqueue =>
      { link.journal with
        enqueued := link.journal.enqueued ++
          (link.emulator.scheduled.take 1).map fun next =>
            link.emulator.queue.ticketed next.due next.payload }
  | .take clock =>
      { link.journal with
        taken := link.journal.taken ++
          ((link.emulator.take clock).taken.toList.map fun entry =>
            (entry, clock)) }
  | .forward failing =>
      if failing then
        link.journal
      else
        { link.journal with
          forwarded := link.journal.forwarded ++
            link.emulator.taken.toList.map RankedEntry.value }

/-- What an action of a link does. -/
def act (link : Link) (action : LinkAction) : Link where
  emulator :=
    match action with
    | .setEnabled enabled => link.emulator.setEnabled enabled
    | .receive payload clock => link.emulator.receive payload clock
    | .enqueue => link.emulator.enqueue
    | .take clock => link.emulator.take clock
    | .forward failing => link.emulator.forward failing
  journal := link.record action

/-- An emulator that has just been constructed. -/
structure Started (profile : LinkProfile) (link : Link) : Prop where
  emulator :
    UdpLinkEmulator.init profile = .ok link.emulator
  journal :
    link.journal = {}

/-- All runs of an emulator. -/
def system (profile : LinkProfile) : TransitionSystem Link LinkAction where
  initial link := link.Started profile
  step link action later := link.Ready action ∧ later = link.act action

/-- The steps of an emulator, one after the other. -/
def machine : Machine Link LinkAction Unit where
  step link action := (link.act action, ())

end Link

end H3ntun
