import H3ntun.ReplayState

namespace H3ntun

/-!
# Exceptions of loading a replay state

`restore` guards its conversions against three exception classes.  An infinite
number raises a fourth one, the session identifier is converted outside the
guard, and a stored value that is no object has no method `get`.  `json.loads`
itself raises two classes that `_load` does not catch.  Everything else ends in
a `ProtocolError`.
-/

namespace JsonValue

/-- `int(value)` returns. -/
def Converts (value : JsonValue) : Prop :=
  ∃ number, value.toInt = .ok number

/-- One of the two infinities. -/
def IsInfinite (value : JsonValue) : Prop :=
  ∃ negative, value = .infinity negative

theorem item_error
    {value : JsonValue}
    {key : String}
    {failure : Failure}
    (raised : value.item key = .error failure) :
    failure.isStateError = true := by
  unfold item at raised
  split at raised
  · split at raised <;> cases raised
    rfl
  · cases raised
    rfl

theorem iterate_error
    {value : JsonValue}
    {failure : Failure}
    (raised : value.iterate = .error failure) :
    failure.isStateError = true := by
  cases value <;> cases raised <;> rfl

theorem readInt_error
    {base : Nat}
    {text : List Char}
    {failure : Failure}
    (raised : readInt base text = .error failure) :
    failure.isStateError = true := by
  unfold readInt at raised
  dsimp only at raised
  split at raised <;> cases raised
  rfl

theorem hexInt_error
    {value : JsonValue}
    {failure : Failure}
    (raised : value.hexInt = .error failure) :
    failure.isStateError = true := by
  cases value with
  | string text =>
      exact readInt_error raised
  | int number =>
      simp only [hexInt, writeInt] at raised
      split at raised
      · exact readInt_error raised
      · rename_i written
        split at written
        · cases written
          cases raised
          rfl
        · split at written <;> cases written
  | null | bool | float | infinity | nan | array | object =>
      cases raised
      rfl

/-- Only an infinity raises something the guard does not catch. -/
theorem toInt_error
    {value : JsonValue}
    {failure : Failure}
    (raised : value.toInt = .error failure) :
    failure.isStateError = true ∨
      failure = .overflowError ∧ value.IsInfinite := by
  cases value with
  | infinity negative =>
      cases raised
      exact .inr ⟨rfl, negative, rfl⟩
  | string text =>
      exact .inl (readInt_error raised)
  | null | nan | array | object =>
      cases raised
      exact .inl rfl
  | bool | int | float =>
      cases raised

theorem IsInfinite.toInt
    {value : JsonValue}
    (infinite : value.IsInfinite) :
    value.toInt = .error .overflowError := by
  obtain ⟨negative, rfl⟩ := infinite
  rfl

/-- An escaping exception of `int` comes from an infinity. -/
theorem isInfinite_of_escapes
    {value : JsonValue}
    {failure : Failure}
    (raised : value.toInt = .error failure)
    (escapes : failure.isStateError = false) :
    value.IsInfinite := by
  rcases toInt_error raised with caught | ⟨_, infinite⟩
  · rw [caught] at escapes
    cases escapes
  · exact infinite

theorem mapM_toInt_ok
    {items : List JsonValue} :
    (∃ numbers, items.mapM toInt = .ok numbers) ↔
      ∀ item ∈ items, item.Converts := by
  induction items with
  | nil =>
      simp [pure, Except.pure]
  | cons first rest inductionHypothesis =>
      rw [List.forall_mem_cons, ← inductionHypothesis, List.mapM_cons]
      simp only [bind_eq_ok_iff, Converts]
      constructor
      · rintro ⟨_, number, converted, others, restConverted, _⟩
        exact ⟨⟨number, converted⟩, others, restConverted⟩
      · rintro ⟨⟨number, converted⟩, others, restConverted⟩
        exact ⟨_, number, converted, others, restConverted, rfl⟩

/-- A conversion of several values raises what the first failing one does. -/
theorem mapM_toInt_error
    {items : List JsonValue}
    {failure : Failure} :
    items.mapM toInt = .error failure ↔
      ∃ before item after,
        items = before ++ item :: after ∧
          (∀ other ∈ before, other.Converts) ∧
          item.toInt = .error failure := by
  induction items with
  | nil =>
      simp [pure, Except.pure]
  | cons first rest inductionHypothesis =>
      rw [List.mapM_cons]
      simp only [bind_eq_error_iff, inductionHypothesis]
      constructor
      · rintro (raised | ⟨number, converted, later | ⟨_, _, impossible⟩⟩)
        · exact ⟨[], first, rest, rfl, by simp, raised⟩
        · obtain ⟨before, item, after, rfl, converting, raised⟩ := later
          refine ⟨first :: before, item, after, rfl, ?_, raised⟩
          exact List.forall_mem_cons.mpr ⟨⟨number, converted⟩, converting⟩
        · cases impossible
      · rintro ⟨before, item, after, shape, converting, raised⟩
        cases before with
        | nil =>
            cases shape
            exact .inl raised
        | cons head before =>
            cases shape
            obtain ⟨⟨number, converted⟩, others⟩ :=
              List.forall_mem_cons.mp converting
            exact .inr ⟨number, converted,
              .inl ⟨before, item, after, rfl, others, raised⟩⟩

end JsonValue

namespace ReplayWindow

/--
States whose restoration raises something else than a `ProtocolError`: an
infinite number is converted before any other conversion fails, or all other
conversions succeed, the size is right and the session identifier does not
convert.
-/
inductive Uncaught (window : ReplayWindow) (state : JsonValue) : Prop where
  | size
      {size : JsonValue}
      (foundSize : state.item "size" = .ok size)
      (infinite : size.IsInfinite)
  | retired
      {size sessionId retired item : JsonValue}
      {before after : List JsonValue}
      (foundSize : state.item "size" = .ok size)
      (sizeConverts : size.Converts)
      (foundSession : state.item "session_id" = .ok sessionId)
      (foundRetired : state.item "retired_sessions" = .ok retired)
      (iterated : retired.iterate = .ok (before ++ item :: after))
      (beforeConvert : ∀ other ∈ before, other.Converts)
      (infinite : item.IsInfinite)
  | highest
      {size sessionId retired highest : JsonValue}
      {items : List JsonValue}
      (foundSize : state.item "size" = .ok size)
      (sizeConverts : size.Converts)
      (foundSession : state.item "session_id" = .ok sessionId)
      (foundRetired : state.item "retired_sessions" = .ok retired)
      (iterated : retired.iterate = .ok items)
      (itemsConvert : ∀ item ∈ items, item.Converts)
      (foundHighest : state.item "highest" = .ok highest)
      (infinite : highest.IsInfinite)
  | session
      {size sessionId retired highest bitmap : JsonValue}
      {items : List JsonValue}
      (foundSize : state.item "size" = .ok size)
      (sameSize : size.toInt = .ok window.size)
      (foundSession : state.item "session_id" = .ok sessionId)
      (foundRetired : state.item "retired_sessions" = .ok retired)
      (iterated : retired.iterate = .ok items)
      (itemsConvert : ∀ item ∈ items, item.Converts)
      (foundHighest : state.item "highest" = .ok highest)
      (highestConverts : highest.Converts)
      (foundBitmap : state.item "bitmap" = .ok bitmap)
      (bitmapConverts : ∃ number, bitmap.hexInt = .ok number)
      (notNull : sessionId ≠ .null)
      (sessionFails : ¬ sessionId.Converts)

/-- An exception passes the guard. -/
def Escapes {α : Type} (outcome : Except Failure α) : Prop :=
  ∃ failure, outcome = .error failure ∧ failure.isStateError = false

variable {window : ReplayWindow} {state : JsonValue}

theorem escapes_bind_iff
    {α β : Type}
    {first : Except Failure α}
    {rest : α → Except Failure β} :
    Escapes (first >>= rest) ↔
      Escapes first ∨ ∃ value, first = .ok value ∧ Escapes (rest value) := by
  cases first with
  | error failure => simp [Escapes, bind, Except.bind]
  | ok value => simp [Escapes, bind, Except.bind]

theorem not_escapes_of_guarded
    {α : Type}
    {outcome : Except Failure α}
    (guarded :
      ∀ failure, outcome = .error failure → failure.isStateError = true) :
    ¬ Escapes outcome := by
  rintro ⟨failure, raised, escapes⟩
  rw [guarded failure raised] at escapes
  cases escapes

theorem escapes_toInt_iff
    {value : JsonValue} :
    Escapes value.toInt ↔ value.IsInfinite := by
  constructor
  · rintro ⟨failure, raised, escapes⟩
    exact JsonValue.isInfinite_of_escapes raised escapes
  · intro infinite
    exact ⟨_, infinite.toInt, rfl⟩

theorem escapes_mapM_toInt_iff
    {items : List JsonValue} :
    Escapes (items.mapM JsonValue.toInt) ↔
      ∃ before item after,
        items = before ++ item :: after ∧
          (∀ other ∈ before, other.Converts) ∧ item.IsInfinite := by
  constructor
  · rintro ⟨failure, raised, escapes⟩
    obtain ⟨before, item, after, shape, converting, failing⟩ :=
      JsonValue.mapM_toInt_error.mp raised
    exact ⟨before, item, after, shape, converting,
      JsonValue.isInfinite_of_escapes failing escapes⟩
  · rintro ⟨before, item, after, shape, converting, infinite⟩
    exact ⟨_, JsonValue.mapM_toInt_error.mpr
      ⟨before, item, after, shape, converting, infinite.toInt⟩, rfl⟩

/-- The conversions under the guard, where one of them escapes it. -/
theorem escapes_readState_iff :
    Escapes (readState state) ↔
      ∃ size, state.item "size" = .ok size ∧
        (size.IsInfinite ∨ size.Converts ∧
          ∃ sessionId, state.item "session_id" = .ok sessionId ∧
            ∃ retired, state.item "retired_sessions" = .ok retired ∧
              ∃ items, retired.iterate = .ok items ∧
                (Escapes (items.mapM JsonValue.toInt) ∨
                  (∀ item ∈ items, item.Converts) ∧
                    ∃ highest, state.item "highest" = .ok highest ∧
                      highest.IsInfinite)) := by
  have fromItem :
      ∀ key, ¬ Escapes (state.item key) :=
    fun key => not_escapes_of_guarded fun _ => JsonValue.item_error
  have fromIterate :
      ∀ value : JsonValue, ¬ Escapes value.iterate :=
    fun value => not_escapes_of_guarded fun _ => JsonValue.iterate_error
  have fromHex :
      ∀ value : JsonValue, ¬ Escapes value.hexInt :=
    fun value => not_escapes_of_guarded fun _ => JsonValue.hexInt_error
  have fromReturn :
      ∀ values : ReplayValues,
        ¬ Escapes (pure values : Except Failure ReplayValues) := by
    rintro values ⟨failure, raised, _⟩
    cases raised
  simp only [readState, escapes_bind_iff, fromItem, fromIterate, fromHex,
    fromReturn, escapes_toInt_iff, false_or, and_false, exists_false,
    or_false, exists_and_right, JsonValue.mapM_toInt_ok]
  exact Iff.rfl

theorem readSession_of_ne_null
    {sessionId : JsonValue}
    (notNull : sessionId ≠ .null) :
    readSession sessionId = sessionId.toInt.map some := by
  cases sessionId with
  | null => exact absurd rfl notNull
  | bool | int | float | infinity | nan | string | array | object => rfl

/-- The session identifier converts, or is `None`. -/
theorem readSession_ok_iff
    {sessionId : JsonValue} :
    (∃ session, readSession sessionId = .ok session) ↔
      (sessionId ≠ .null → sessionId.Converts) := by
  by_cases isNull : sessionId = .null
  · subst isNull
    exact iff_of_true ⟨none, rfl⟩ fun notNull => absurd rfl notNull
  · rw [readSession_of_ne_null isNull, JsonValue.Converts]
    cases sessionId.toInt with
    | error failure => simp [isNull, Except.map]
    | ok number => simp [Except.map]

/-- What converting a session identifier raises is no `ProtocolError`. -/
theorem readSession_error
    {sessionId : JsonValue}
    {failure : Failure}
    (raised : readSession sessionId = .error failure)
    (message : String) :
    failure ≠ .protocolError message := by
  intro isProtocolError
  subst isProtocolError
  cases sessionId with
  | string text =>
      simp only [readSession, JsonValue.toInt, readInt] at raised
      split at raised <;> cases raised
  | null | bool | int | float | infinity | nan | array | object =>
      cases raised

/-- What escapes `restore`, in terms of its two halves. -/
theorem uncaught_iff :
    window.Uncaught state ↔
      Escapes (readState state) ∨
        ∃ values, readState state = .ok values ∧
          values.size = window.size ∧
          ¬ ∃ session, readSession values.sessionId = .ok session := by
  rw [escapes_readState_iff]
  constructor
  · intro uncaught
    cases uncaught with
    | size foundSize infinite =>
        exact .inl ⟨_, foundSize, .inl infinite⟩
    | retired foundSize sizeConverts foundSession foundRetired iterated
        beforeConvert infinite =>
        exact .inl ⟨_, foundSize, .inr ⟨sizeConverts, _, foundSession, _,
          foundRetired, _, iterated, .inl (escapes_mapM_toInt_iff.mpr
            ⟨_, _, _, rfl, beforeConvert, infinite⟩)⟩⟩
    | highest foundSize sizeConverts foundSession foundRetired iterated
        itemsConvert foundHighest infinite =>
        exact .inl ⟨_, foundSize, .inr ⟨sizeConverts, _, foundSession, _,
          foundRetired, _, iterated, .inr
            ⟨itemsConvert, _, foundHighest, infinite⟩⟩⟩
    | session foundSize sameSize foundSession foundRetired iterated
        itemsConvert foundHighest highestConverts foundBitmap
        bitmapConverts notNull sessionFails =>
        obtain ⟨numbers, converted⟩ :=
          JsonValue.mapM_toInt_ok.mpr itemsConvert
        obtain ⟨highest, readHighest⟩ := highestConverts
        obtain ⟨bitmap, readBitmap⟩ := bitmapConverts
        refine .inr ⟨⟨_, _, numbers, highest, bitmap⟩,
          readState_eq_ok_iff.mpr ⟨_, _, _, _, _, foundSize, sameSize,
            foundSession, foundRetired, iterated, converted,
            foundHighest, readHighest, foundBitmap, readBitmap⟩, rfl, ?_⟩
        rw [readSession_ok_iff]
        exact fun converts => sessionFails (converts notNull)
  · rintro (⟨size, foundSize, infinite | ⟨sizeConverts, sessionId,
      foundSession, retired, foundRetired, items, iterated, later⟩⟩ |
      ⟨values, read, sameSize, sessionFails⟩)
    · exact .size foundSize infinite
    · rcases later with fromItems | ⟨itemsConvert, highest, foundHighest,
        infinite⟩
      · obtain ⟨before, item, after, rfl, converting, infinite⟩ :=
          escapes_mapM_toInt_iff.mp fromItems
        exact .retired foundSize sizeConverts foundSession foundRetired
          iterated converting infinite
      · exact .highest foundSize sizeConverts foundSession foundRetired
          iterated itemsConvert foundHighest infinite
    · obtain ⟨size, retired, items, highest, bitmap, foundSize, readSize,
        foundSession, foundRetired, iterated, converted, foundHighest,
        readHighest, foundBitmap, readBitmap⟩ :=
        readState_eq_ok_iff.mp read
      rw [readSession_ok_iff] at sessionFails
      have notNull := fun isNull =>
        sessionFails fun notNull => absurd isNull notNull
      exact .session foundSize (sameSize ▸ readSize) foundSession
        foundRetired iterated
        (JsonValue.mapM_toInt_ok.mp ⟨_, converted⟩) foundHighest
        ⟨_, readHighest⟩ foundBitmap ⟨_, readBitmap⟩ notNull
        fun converts => sessionFails fun _ => converts

/-- The call returns or raises a `ProtocolError`. -/
def Declared (outcome : Except Failure Unit) : Prop :=
  outcome = .ok () ∨ ∃ message, outcome = .error (.protocolError message)

theorem restore_declared_iff :
    Declared (window.restore state).2 ↔ ¬ window.Uncaught state := by
  rw [uncaught_iff, not_or]
  unfold restore
  cases read : readState state with
  | error failure =>
      have noValues :
          ¬ ∃ values, (.error failure : Except Failure ReplayValues) =
              .ok values ∧
            values.size = window.size ∧
            ¬ ∃ session, readSession values.sessionId = .ok session := by
        rintro ⟨values, impossible, _⟩
        cases impossible
      by_cases guarded : failure.isStateError = true
      · simp only [guarded, if_true]
        refine iff_of_true (.inr ⟨_, rfl⟩) ⟨?_, noValues⟩
        apply not_escapes_of_guarded
        rintro other same
        cases same
        exact guarded
      · simp only [guarded]
        refine iff_of_false ?_ fun both =>
          both.1 ⟨failure, rfl, Bool.eq_false_iff.mpr guarded⟩
        rintro (impossible | ⟨message, same⟩)
        · cases impossible
        · cases same
          exact guarded rfl
  | ok values =>
      have noEscape :
          ¬ Escapes (.ok values : Except Failure ReplayValues) := by
        rintro ⟨failure, impossible, _⟩
        cases impossible
      simp only [noEscape, not_false_eq_true, true_and, Except.ok.injEq,
        exists_eq_left', restoreValues]
      split
      · rename_i mismatch
        exact iff_of_true (.inr ⟨_, rfl⟩) fun both => mismatch both.1
      · rename_i sameSize
        cases session : readSession values.sessionId with
        | error failure =>
            have noSession :
                ¬ ∃ sessionId : Option Int,
                  (.error failure : Except Failure (Option Int)) =
                    .ok sessionId := by
              rintro ⟨sessionId, impossible⟩
              cases impossible
            refine iff_of_false ?_ fun notBoth =>
              notBoth ⟨not_not.mp sameSize, noSession⟩
            rintro (impossible | ⟨message, same⟩)
            · cases impossible
            · cases same
              exact readSession_error session message rfl
        | ok sessionId =>
            refine iff_of_true ?_ fun both => both.2 ⟨sessionId, rfl⟩
            dsimp only
            split
            · exact .inr ⟨_, rfl⟩
            · exact .inl rfl

/-- Keys of an object can be looked up. -/
theorem get_object
    (fields : List (String × JsonValue))
    (key : String)
    (default : JsonValue) :
    ∃ value, (JsonValue.object fields).get key default = .ok value := by
  unfold JsonValue.get
  dsimp only
  split <;> exact ⟨_, rfl⟩

/-- Loading what `json.loads` has returned. -/
theorem load_ok_declared_iff
    (window : ReplayWindow)
    (fingerprint : String)
    (content : JsonValue) :
    Declared (window.load fingerprint (.ok content)).2 ↔
      (∃ fields, content = .object fields) ∧
        (belongs fingerprint content = .ok true →
          ∀ state,
            content.get "window" (.object []) = .ok state →
            ¬ window.Uncaught state) := by
  have noAttribute :
      ¬ Declared (.error .attributeError) := by
    rintro (impossible | ⟨message, impossible⟩) <;> cases impossible
  cases content with
  | object fields =>
      obtain ⟨format, foundFormat⟩ := get_object fields "format" .null
      obtain ⟨tunnel, foundTunnel⟩ := get_object fields "tunnel" .null
      obtain ⟨state, foundState⟩ :=
        get_object fields "window" (.object [])
      obtain ⟨own, decided⟩ :
          ∃ own, belongs fingerprint (.object fields) = .ok own := by
        simp only [belongs, foundFormat, foundTunnel, bind, Except.bind]
        split <;> exact ⟨_, rfl⟩
      simp only [load, decided, foundState, Except.ok.injEq, forall_eq']
      cases own with
      | false =>
          exact iff_of_true (.inr ⟨_, rfl⟩)
            ⟨⟨fields, rfl⟩, fun impossible => by cases impossible⟩
      | true =>
          rw [restore_declared_iff]
          exact ⟨fun caught => ⟨⟨fields, rfl⟩, fun _ => caught⟩,
            fun both => both.2 rfl⟩
  | null | bool | int | float | infinity | nan | string | array =>
      refine iff_of_false noAttribute ?_
      rintro ⟨⟨fields, impossible⟩, _⟩
      cases impossible

/-- What `json.loads` raises on a stored value is no `JSONDecodeError`. -/
theorem load_not_declared_of_misfit
    (window : ReplayWindow)
    (fingerprint : String)
    {room : Nat}
    {stored : JsonValue}
    (misfit : ¬ stored.Fits room) :
    ¬ Declared (window.load fingerprint (stored.loads room)).2 := by
  obtain raised | ⟨message, raised⟩ :=
    (stored.reads_loads room).refused misfit
  all_goals
    rw [raised]
    rintro (impossible | ⟨message, impossible⟩) <;> cases impossible

/--
For every stored value, and room for any number of containers inside one
another: loading it restores the window or raises a `ProtocolError` if and
only if it fits, is an object and, where format and tunnel are right, its
window is not one of the uncaught states.  Whenever `restore` raises, the
window stays as it was.
-/
theorem load_fails_closed_iff
    (window : ReplayWindow)
    (fingerprint : String)
    (room : Nat)
    (stored : JsonValue) :
    (Declared (window.load fingerprint (stored.loads room)).2 ↔
      stored.Fits room ∧
        (∃ fields, stored = .object fields) ∧
        (belongs fingerprint stored = .ok true →
          ∀ state,
            stored.get "window" (.object []) = .ok state →
            ¬ window.Uncaught state)) ∧
      ∀ state failure,
        (window.restore state).2 = .error failure →
        (window.restore state).1 = window := by
  refine ⟨?_, fun state failure raised => restore_of_error raised⟩
  by_cases fits : stored.Fits room
  · rw [(stored.reads_loads room).whole fits, load_ok_declared_iff]
    exact (and_iff_right fits).symm
  · exact iff_of_false
      (window.load_not_declared_of_misfit fingerprint fits)
      fun holds => fits holds.1

/-- A stored window with a size, a session identifier and a highest value. -/
def storedWindow (sessionId highest : JsonValue) : JsonValue :=
  envelope "fingerprint" (.object [
    ("size", .int 64),
    ("session_id", sessionId),
    ("retired_sessions", .array []),
    ("highest", highest),
    ("bitmap", .string "1")])

/-- Stored values that raise other exceptions. -/
theorem corrupt_state_raises_undeclared :
    ((fresh 64).load "fingerprint" ((JsonValue.array []).loads 900)).2 =
        .error .attributeError ∧
      ((fresh 64).load "fingerprint"
        ((storedWindow (.int 1) (.infinity false)).loads 900)).2 =
          .error .overflowError ∧
      ((fresh 64).load "fingerprint"
        ((storedWindow (.string "x") (.int 0)).loads 900)).2 =
          .error (.valueError "invalid literal for int()") ∧
      ((fresh 64).load "fingerprint"
        ((storedWindow (.int 1) (.int (10 ^ 4300))).loads 900)).2 =
          .error (.valueError
            "Exceeds the limit for integer string conversion") ∧
      ¬ Declared ((fresh 64).load "fingerprint"
        ((JsonValue.array []).loads 900)).2 := by
  refine ⟨rfl, by rfl, by rfl, ?_, ?_⟩
  · have long : ¬ HasFewDigits (10 ^ 4300) := by
      decide +kernel
    simp only [storedWindow, envelope, JsonValue.loads,
      JsonValue.loadsFields, JsonValue.loadsItems, if_neg long]
    rfl
  · rintro (impossible | ⟨message, impossible⟩) <;> cases impossible

end ReplayWindow

end H3ntun
