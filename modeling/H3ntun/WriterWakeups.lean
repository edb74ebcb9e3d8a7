import H3ntun.Checkpoints
import Mathlib.Tactic.Linarith

namespace H3ntun

/-!
# The writer is woken in time

A writer in `wait` goes on when it is notified or at its deadline.  It waits
without a deadline only while there is nothing to write and `close` has not
been called.  A deadline is not later than the time at which the writer takes
the pending checkpoint, up to the millisecond it waits at least.
-/

namespace Writer

@[simp] theorem notified_ne_waiting
    (writer : Writer)
    (deadline : Option Time) :
    writer.notified ≠ .waiting deadline := by
  cases writer <;> simp [notified]

end Writer

namespace PersistentReplay

variable {settings : CheckpointSettings} {replay : PersistentReplay}

/-- The first time at which the writer takes a pending checkpoint. -/
def readyAt
    (settings : CheckpointSettings)
    (replay : PersistentReplay) : Time :=
  if replay.stopping = true ∨
      settings.batchFrames ≤ replay.pendingFrames then
    replay.retryAt
  else
    max replay.retryAt (replay.lastAttemptAt + settings.intervalSeconds)

theorem ready_iff
    (settings : CheckpointSettings)
    (replay : PersistentReplay)
    (time : Time) :
    replay.Ready settings time ↔ replay.readyAt settings ≤ time := by
  unfold Ready readyAt
  rw [← or_assoc]
  split
  · rename_i atOnce
    simp [atOnce]
  · rename_i later
    rw [max_le_iff, le_sub_iff_add_le, add_comm settings.intervalSeconds]
    simp [later]

/-- A writer that is not ready waits until it is. -/
theorem look_of_not_ready
    {checkpoint : Checkpoint}
    {now : Time}
    (waiting : replay.pending = some checkpoint)
    (notReady : ¬ replay.Ready settings now) :
    replay.look settings now =
      { replay with
        writer := .waiting
          (some (now + max (1 / 1000) (replay.readyAt settings - now))) } := by
  have later : now < replay.readyAt settings := by
    rw [ready_iff, not_le] at notReady
    exact notReady
  have waitsFor :
      max replay.retryAt
          (if replay.stopping = true ∨
              replay.pendingFrames ≥ settings.batchFrames then
            now
          else
            replay.lastAttemptAt + settings.intervalSeconds) =
        replay.readyAt settings := by
    unfold readyAt at later ⊢
    split at later <;> rename_i atOnce
    · rw [if_pos atOnce, if_pos atOnce, max_eq_left later.le]
    · rw [if_neg atOnce, if_neg atOnce]
  simp only [look, waiting, if_neg notReady, waitsFor]

/-- What holds of a writer in `wait` that has not been notified. -/
structure Attended
    (settings : CheckpointSettings)
    (replay : PersistentReplay) : Prop where
  untimed :
    replay.writer = .waiting none →
    replay.pending = none ∧ replay.stopping = false
  timed :
    ∀ deadline,
      replay.writer = .waiting (some deadline) →
      replay.pending.isSome = true ∧
        deadline ≤ replay.readyAt settings + 1 / 1000

namespace Attended

/-- A writer that does not wait needs nobody's attention. -/
theorem of_not_waiting
    (awake : ∀ deadline, replay.writer ≠ .waiting deadline) :
    replay.Attended settings where
  untimed waits := absurd waits (awake none)
  timed deadline waits := absurd waits (awake (some deadline))

theorem init
    {content : Option JsonValue}
    {now : Time}
    (started : PersistentReplay.init settings content now = .ok replay) :
    replay.Attended settings := by
  have running : replay.writer = .running := by
    unfold PersistentReplay.init at started
    dsimp only at started
    split at started
    · rw [← Except.ok.inj started]
    · split at started
      · rw [← Except.ok.inj started]
      · cases started
  apply of_not_waiting
  intro deadline
  rw [running]
  simp

/-- Nothing a look at the slot leaves behind is overslept. -/
theorem look
    (settings : CheckpointSettings)
    (replay : PersistentReplay)
    (now : Time) :
    (replay.look settings now).Attended settings := by
  cases waiting : replay.pending with
  | none =>
      cases stopping : replay.stopping with
      | true =>
          apply of_not_waiting
          simp [PersistentReplay.look, waiting, stopping]
      | false =>
          simp only [PersistentReplay.look, waiting, stopping,
            Bool.false_eq_true, if_false]
          exact {
            untimed := fun _ => ⟨rfl, rfl⟩
            timed := by simp }
  | some checkpoint =>
      by_cases ready : replay.Ready settings now
      · apply of_not_waiting
        simp [PersistentReplay.look, waiting, ready]
      · have later : now < replay.readyAt settings := by
          rw [ready_iff, not_le] at ready
          exact ready
        rw [look_of_not_ready waiting ready]
        refine ⟨by simp, ?_⟩
        intro deadline waits
        have isDeadline :
            now + max (1 / 1000) (replay.readyAt settings - now) =
              deadline := by
          simpa using waits
        refine ⟨by simp [waiting], ?_⟩
        rw [← isDeadline, max_def]
        change _ ≤ replay.readyAt settings + 1 / 1000
        split <;> linarith

/-- A frame that does not wake the writer does not hurry it either. -/
theorem queueSnapshot
    (attended : replay.Attended settings)
    (window : ReplayWindow)
    (now : Time) :
    (replay.queueSnapshot settings window now).Attended settings := by
  by_cases notifies :
      replay.pending.isNone = true ∨
        replay.pendingFrames + 1 ≥ settings.batchFrames
  · apply of_not_waiting
    intro deadline
    rw [PersistentReplay.queueSnapshot]
    simp only [if_pos notifies]
    exact Writer.notified_ne_waiting _ _
  · rw [not_or, Option.isNone_iff_eq_none, not_le] at notifies
    obtain ⟨notEmpty, small⟩ := notifies
    have sameWriter :
        (replay.queueSnapshot settings window now).writer =
          replay.writer := by
      rw [PersistentReplay.queueSnapshot]
      simp [notEmpty, small]
    have sameTime :
        (replay.queueSnapshot settings window now).readyAt settings =
          replay.readyAt settings := by
      have before : ¬ settings.batchFrames ≤ replay.pendingFrames := by
        omega
      have after : ¬ settings.batchFrames ≤ replay.pendingFrames + 1 := by
        omega
      simp only [readyAt, PersistentReplay.queueSnapshot, before, after]
    constructor
    · intro waits
      rw [sameWriter] at waits
      exact absurd (attended.untimed waits).1 notEmpty
    · intro deadline waits
      rw [sameWriter] at waits
      rw [sameTime]
      exact ⟨rfl, (attended.timed deadline waits).2⟩

theorem accept
    (attended : replay.Attended settings)
    (sequence sessionId : Int)
    (now : Time) :
    (replay.accept settings sequence sessionId now).1.Attended
      settings := by
  unfold PersistentReplay.accept
  split
  · exact attended
  · split
    · exact ⟨attended.untimed, attended.timed⟩
    · exact attended.queueSnapshot _ now

end Attended

end PersistentReplay

namespace Checkpointing

variable {settings : CheckpointSettings} {state later : Checkpointing}

/-- All runs of a checkpointed window, whatever it was loaded from. -/
def runsOfAnyFile (settings : CheckpointSettings) :
    TransitionSystem Checkpointing Event where
  initial state := ∃ now content, Starts settings content now state
  step := Step settings

theorem attended_of_starts
    {content : Option JsonValue}
    {now : Time}
    (starts : Starts settings content now state) :
    state.replay.Attended settings := by
  obtain ⟨replay, started, rfl⟩ := starts
  exact .init started

/-- Every step leaves the writer attended. -/
theorem attended_step
    (attended : state.replay.Attended settings)
    {event : Event}
    (taken : Step settings state event later) :
    later.replay.Attended settings := by
  cases taken with
  | accept sequence sessionId now =>
      rw [Sound.afterAccept_replay]
      exact attended.accept sequence sessionId now
  | look now running =>
      exact .look settings state.replay now
  | timeout | replace | succeed | failBefore | failAfter =>
      apply PersistentReplay.Attended.of_not_waiting
      simp [PersistentReplay.writeSucceeded, PersistentReplay.writeFailed]
  | stop =>
      apply PersistentReplay.Attended.of_not_waiting
      exact Writer.notified_ne_waiting _
  | crash now version survives restarted starts =>
      exact attended_of_starts starts

/--
In every run of accepting threads, a closing thread, and a writer whose writes
fail and succeed, a writer that waits and has not been notified has nothing to
write, or wakes by itself within a millisecond of being ready to write.
-/
theorem no_lost_wakeup
    (reached : (runsOfAnyFile settings).Reachable state) :
    (state.replay.writer = .waiting none →
        state.replay.pending = none ∧ state.replay.stopping = false) ∧
      ∀ deadline,
        state.replay.writer = .waiting (some deadline) →
        state.replay.pending.isSome = true ∧
          ∃ earliest,
            state.replay.Ready settings earliest ∧
              (∀ time, state.replay.Ready settings time →
                earliest ≤ time) ∧
              deadline ≤ earliest + 1 / 1000 := by
  have attended : state.replay.Attended settings := by
    refine TransitionSystem.Reachable.invariant
      (motive := fun state => state.replay.Attended settings) ?_ ?_ reached
    · rintro start ⟨now, content, starts⟩
      exact attended_of_starts starts
    · intro before event after _ attended taken
      exact attended_step attended taken
  refine ⟨attended.untimed, ?_⟩
  intro deadline waits
  obtain ⟨pending, soon⟩ := attended.timed deadline waits
  refine ⟨pending, state.replay.readyAt settings, ?_, ?_, soon⟩
  · exact (PersistentReplay.ready_iff settings _ _).mpr (le_refl _)
  · intro time ready
    exact (PersistentReplay.ready_iff settings _ _).mp ready

/-- A frame is pending and the writer sleeps until it is written. -/
theorem no_lost_wakeup_one_pending :
    ∃ state,
      (runsOfAnyFile plainSettings).Reachable state ∧
        ∃ deadline earliest,
          state.replay.writer = .waiting (some deadline) ∧
            state.replay.Ready plainSettings earliest ∧
            deadline ≤ earliest + 1 / 1000 := by
  obtain ⟨start, started⟩ :
      ∃ start, Starts plainSettings none 0 start := ⟨_, _, rfl, rfl⟩
  have begun : (runsOfAnyFile plainSettings).Reachable start :=
    .start ⟨0, none, started⟩
  obtain ⟨replay, initialized, rfl⟩ := started
  cases initialized
  obtain ⟨state, queued, running, ⟨checkpoint, pending⟩, notReady⟩ :
      ∃ state,
        (runsOfAnyFile plainSettings).Reachable state ∧
          state.replay.writer = .running ∧
          (∃ checkpoint, state.replay.pending = some checkpoint) ∧
          ¬ state.replay.Ready plainSettings (1 / 100) :=
    ⟨_, .next _ (.next _ begun (.look 0 rfl)) (.accept 5 1 (1 / 100)),
      rfl, ⟨_, rfl⟩, by decide +kernel⟩
  have reached : (runsOfAnyFile plainSettings).Reachable _ :=
    .next _ queued (.look (1 / 100) running)
  have waits :=
    congrArg PersistentReplay.writer
      (PersistentReplay.look_of_not_ready pending notReady)
  obtain ⟨_, earliest, ready, _, soon⟩ :=
    (no_lost_wakeup reached).2 _ waits
  exact ⟨_, reached, _, earliest, waits, ready, soon⟩

end Checkpointing

end H3ntun
