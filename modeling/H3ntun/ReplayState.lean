import H3ntun.JsonDecoding
import H3ntun.ReplayWindow
import Mathlib.Data.Finset.Sort

namespace H3ntun

/-!
# The replay window as a JSON value

`snapshot` writes a window as a JSON value and `restore` reads one back.  The
conversions of `restore` are guarded by an `except` clause, except that of the
session identifier.
-/

/-- What `restore` reads under its `try`. -/
structure ReplayValues where
  size : Int
  sessionId : JsonValue
  retired : List Int
  highest : Int
  bitmap : Int

namespace Failure

/-- The classes `restore` turns into a `ProtocolError`. -/
def isStateError : Failure → Bool
  | .keyError => true
  | .typeError => true
  | .valueError _ => true
  | .jsonDecodeError _ => true
  | .protocolError _ => true
  | _ => false

/-- The classes `_load` turns into one when it reads the file. -/
def isLoadError : Failure → Bool
  | .osError => true
  | .jsonDecodeError _ => true
  | _ => false

end Failure

namespace ReplayWindow

/-- `_snapshot_locked`. -/
def snapshot (window : ReplayWindow) : JsonValue :=
  .object [
    ("size", .int window.size),
    ("session_id",
      match window.sessionId with
      | some sessionId => .int sessionId
      | none => .null),
    ("retired_sessions",
      .array ((window.retiredSessions.sort (· ≤ ·)).map .int)),
    ("highest", .int window.highest),
    ("bitmap", .string (formatHex window.bitmap))]

/-- The conversions under the `try` of `restore`. -/
def readState (state : JsonValue) : Except Failure ReplayValues := do
  let size ← (← state.item "size").toInt
  let sessionId ← state.item "session_id"
  let retired ←
    (← (← state.item "retired_sessions").iterate).mapM JsonValue.toInt
  let highest ← (← state.item "highest").toInt
  let bitmap ← (← state.item "bitmap").hexInt
  return {
    size := size
    sessionId := sessionId
    retired := retired
    highest := highest
    bitmap := bitmap }

/-- `session_id`, converted unless it is `None`. -/
def readSession : JsonValue → Except Failure (Option Int)
  | .null => .ok none
  | value => value.toInt.map some

/-- The rest of `restore`. -/
def restoreValues (window : ReplayWindow) (values : ReplayValues) :
    ReplayWindow × Except Failure Unit :=
  if values.size ≠ window.size then
    (window, .error (.protocolError "replay state window size mismatch"))
  else
    match readSession values.sessionId with
    | .error failure => (window, .error failure)
    | .ok sessionId =>
        if values.highest < -1 ∨ values.bitmap < 0 ∨
            values.bitmap.toNat.size > window.size then
          (window, .error (.protocolError "invalid replay state values"))
        else
          ({ window with
              sessionId := sessionId
              retiredSessions := values.retired.toFinset
              highest := values.highest
              bitmap := values.bitmap.toNat }, .ok ())

/-- `ReplayWindow.restore`. -/
def restore (window : ReplayWindow) (state : JsonValue) :
    ReplayWindow × Except Failure Unit :=
  match readState state with
  | .error failure =>
      if failure.isStateError then
        (window, .error (.protocolError "invalid replay state"))
      else
        (window, .error failure)
  | .ok values => window.restoreValues values

/-- The object `_write_snapshot` stores. -/
def envelope (fingerprint : String) (state : JsonValue) : JsonValue :=
  .object [
    ("format", .int 1),
    ("tunnel", .string fingerprint),
    ("window", state)]

/-- Whether a stored object is of this format and tunnel. -/
def belongs (fingerprint : String) (content : JsonValue) :
    Except Failure Bool := do
  if (← content.get "format" .null).equalsOne then
    return (← content.get "tunnel" .null).equalsText fingerprint
  else
    return false

/--
`_load`, on what reading the file and `json.loads` come to.  The text of a
failure that is caught is left out of the message.
-/
def load
    (window : ReplayWindow)
    (fingerprint : String)
    (outcome : Except Failure JsonValue) :
    ReplayWindow × Except Failure Unit :=
  match outcome with
  | .error failure =>
      if failure.isLoadError then
        (window, .error (.protocolError "cannot load replay state"))
      else
        (window, .error failure)
  | .ok content =>
      match belongs fingerprint content with
      | .error failure => (window, .error failure)
      | .ok false =>
          (window, .error (.protocolError
            "replay state belongs to a different tunnel or format"))
      | .ok true =>
          match content.get "window" (.object []) with
          | .error failure => (window, .error failure)
          | .ok state => window.restore state

theorem readState_eq_ok_iff
    {state : JsonValue}
    {values : ReplayValues} :
    readState state = .ok values ↔
      ∃ size retired items highest bitmap,
        state.item "size" = .ok size ∧
          size.toInt = .ok values.size ∧
          state.item "session_id" = .ok values.sessionId ∧
          state.item "retired_sessions" = .ok retired ∧
          retired.iterate = .ok items ∧
          items.mapM JsonValue.toInt = .ok values.retired ∧
          state.item "highest" = .ok highest ∧
          highest.toInt = .ok values.highest ∧
          state.item "bitmap" = .ok bitmap ∧
          bitmap.hexInt = .ok values.bitmap := by
  cases values
  simp only [readState, bind_eq_ok_iff, pure, Except.pure,
    Except.ok.injEq, ReplayValues.mk.injEq]
  constructor
  · rintro ⟨size, foundSize, _, readSize, sessionId, foundSession,
      retired, foundRetired, items, iterated, _, converted,
      highest, foundHighest, _, readHighest, bitmap, foundBitmap, _,
      readBitmap, rfl, rfl, rfl, rfl, rfl⟩
    exact ⟨size, retired, items, highest, bitmap, foundSize, readSize,
      foundSession, foundRetired, iterated, converted, foundHighest,
      readHighest, foundBitmap, readBitmap⟩
  · rintro ⟨size, retired, items, highest, bitmap, foundSize, readSize,
      foundSession, foundRetired, iterated, converted, foundHighest,
      readHighest, foundBitmap, readBitmap⟩
    exact ⟨size, foundSize, _, readSize, _, foundSession, retired,
      foundRetired, items, iterated, _, converted, highest, foundHighest,
      _, readHighest, bitmap, foundBitmap, _, readBitmap, rfl, rfl, rfl,
      rfl, rfl⟩

/-- An exception of `restore` leaves the window as it was. -/
theorem restore_of_error
    {window : ReplayWindow}
    {state : JsonValue}
    {failure : Failure}
    (raised : (window.restore state).2 = .error failure) :
    (window.restore state).1 = window := by
  unfold restore at raised ⊢
  split
  · split <;> rfl
  · rename_i values _
    simp only [restoreValues] at raised ⊢
    split
    · rfl
    · split
      · rfl
      · split
        · rfl
        · simp_all

/-- The states `restore` admits, and what it makes of them. -/
theorem restore_eq_ok_iff
    {window restored : ReplayWindow}
    {state : JsonValue} :
    window.restore state = (restored, .ok ()) ↔
      ∃ values sessionId,
        readState state = .ok values ∧
          values.size = window.size ∧
          readSession values.sessionId = .ok sessionId ∧
          -1 ≤ values.highest ∧
          0 ≤ values.bitmap ∧
          values.bitmap.toNat.size ≤ window.size ∧
          restored =
            { window with
              sessionId := sessionId
              retiredSessions := values.retired.toFinset
              highest := values.highest
              bitmap := values.bitmap.toNat } := by
  unfold restore
  constructor
  · intro restores
    split at restores
    · split at restores <;> cases restores
    · rename_i values read
      simp only [restoreValues] at restores
      split at restores
      · cases restores
      · rename_i sameSize
        split at restores
        · cases restores
        · rename_i sessionId readsSession
          split at restores
          · cases restores
          · rename_i inRange
            simp only [not_or, not_lt] at inRange sameSize
            obtain ⟨highest, bitmap, bits⟩ := inRange
            refine ⟨values, sessionId, read, not_not.mp sameSize,
              readsSession, highest, bitmap, bits, ?_⟩
            exact (congrArg Prod.fst restores).symm
  · rintro ⟨values, sessionId, read, sameSize, readsSession, highest,
      bitmap, bits, rfl⟩
    have inRange :
        ¬ (values.highest < -1 ∨ values.bitmap < 0 ∨
          values.bitmap.toNat.size > window.size) := by
      omega
    simp [read, restoreValues, sameSize, readsSession, inRange]

/-- The values a snapshot records. -/
def recorded (window : ReplayWindow) : ReplayValues where
  size := window.size
  sessionId := window.sessionId.elim .null .int
  retired := window.retiredSessions.sort (· ≤ ·)
  highest := window.highest
  bitmap := window.bitmap

/-- What `restore` reads from a snapshot. -/
theorem readState_snapshot
    (window : ReplayWindow) :
    readState window.snapshot = .ok window.recorded := by
  have converted :
      ∀ numbers : List Int,
        (numbers.map JsonValue.int).mapM JsonValue.toInt = .ok numbers := by
    intro numbers
    induction numbers with
    | nil => rfl
    | cons first rest inductionHypothesis =>
        rw [List.map_cons, List.mapM_cons, inductionHypothesis]
        rfl
  rw [readState_eq_ok_iff]
  refine ⟨_, _, _, _, _, rfl, rfl, ?_, rfl, rfl, converted _, rfl, rfl,
    rfl, ?_⟩
  · unfold snapshot recorded
    cases window.sessionId <;> rfl
  · exact readInt_formatHex window.bitmap

end ReplayWindow

end H3ntun
