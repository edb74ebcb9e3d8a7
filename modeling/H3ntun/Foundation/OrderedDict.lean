import Mathlib.Data.List.Nodup
import Mathlib.Data.List.Perm.Basic
import Mathlib.Data.List.TakeWhile

/-!
# Insertion-ordered dictionaries

Finite maps that remember the order in which their keys were inserted.
Overwriting keeps a key's place, and `moveToEnd` gives it the last place.
Distinctness of the keys is part of the type, so every lookup fact is a
membership fact.
-/

/-- A finite map together with the insertion order of its keys. -/
structure OrderedDict (κ : Type) (ν : Type) where
  entries : List (κ × ν)
  keysNodup : (entries.map Prod.fst).Nodup

namespace OrderedDict

variable {κ ν : Type} [DecidableEq κ]

/-- The dictionary without entries. -/
def empty : OrderedDict κ ν where
  entries := []
  keysNodup := by simp

/-- Number of entries. -/
def length (dict : OrderedDict κ ν) : Nat :=
  dict.entries.length

/-- Keys in insertion order. -/
def keys (dict : OrderedDict κ ν) : List κ :=
  dict.entries.map Prod.fst

/-- Values in insertion order. -/
def values (dict : OrderedDict κ ν) : List ν :=
  dict.entries.map Prod.snd

/-- The value stored under a key. -/
def get? (dict : OrderedDict κ ν) (key : κ) : Option ν :=
  (dict.entries.find? fun entry => entry.1 = key).map Prod.snd

/-- Whether a key is present. -/
def contains (dict : OrderedDict κ ν) (key : κ) : Bool :=
  (dict.get? key).isSome

/-- Keep the entries a predicate selects, in order. -/
def filter (dict : OrderedDict κ ν) (keep : κ × ν → Bool) :
    OrderedDict κ ν where
  entries := dict.entries.filter keep
  keysNodup :=
    ((List.filter_sublist (l := dict.entries)).map Prod.fst).nodup
      dict.keysNodup

/-- Remove a key, if present. -/
def erase (dict : OrderedDict κ ν) (key : κ) : OrderedDict κ ν :=
  dict.filter fun entry => entry.1 ≠ key

/-- Remove entries from the front as long as a predicate holds. -/
def dropWhile (dict : OrderedDict κ ν) (drop : κ × ν → Bool) :
    OrderedDict κ ν where
  entries := dict.entries.dropWhile drop
  keysNodup :=
    ((List.dropWhile_sublist drop).map Prod.fst).nodup dict.keysNodup

/-- Remove the oldest entries until at most `count` are left. -/
def keepLast (dict : OrderedDict κ ν) (count : Nat) :
    OrderedDict κ ν where
  entries := dict.entries.drop (dict.entries.length - count)
  keysNodup :=
    ((List.drop_sublist _ dict.entries).map Prod.fst).nodup
      dict.keysNodup

omit [DecidableEq κ] in
theorem nodup_keys
    (dict : OrderedDict κ ν) :
    dict.keys.Nodup :=
  dict.keysNodup

omit [DecidableEq κ] in
@[simp] theorem length_keys
    (dict : OrderedDict κ ν) :
    dict.keys.length = dict.length :=
  List.length_map _

omit [DecidableEq κ] in
/-- A pair of a dictionary is determined by its key. -/
theorem eq_of_key_eq
    (dict : OrderedDict κ ν)
    {key : κ}
    {first second : ν}
    (firstMember : (key, first) ∈ dict.entries)
    (secondMember : (key, second) ∈ dict.entries) :
    first = second := by
  have same :=
    List.inj_on_of_nodup_map dict.keysNodup
      firstMember secondMember rfl
  exact congrArg Prod.snd same

/-- A lookup succeeds exactly on the stored pairs. -/
theorem get?_eq_some_iff
    {dict : OrderedDict κ ν}
    {key : κ}
    {value : ν} :
    dict.get? key = some value ↔ (key, value) ∈ dict.entries := by
  constructor
  · intro found
    obtain ⟨entry, search, valueShape⟩ := Option.map_eq_some_iff.mp found
    have keyShape : entry.1 = key := by
      simpa using List.find?_some search
    have member := List.mem_of_find?_eq_some search
    rw [← keyShape, ← valueShape]
    exact member
  · intro member
    cases search : dict.entries.find? fun entry => entry.1 = key with
    | none =>
        have absent := List.find?_eq_none.mp search (key, value) member
        simp at absent
    | some entry =>
        have keyShape : entry.1 = key := by
          simpa using List.find?_some search
        have entryMember := List.mem_of_find?_eq_some search
        have stored : (key, entry.2) ∈ dict.entries := by
          rw [← keyShape]
          exact entryMember
        simp [get?, search, dict.eq_of_key_eq stored member]

/-- A lookup fails exactly when no pair carries the key. -/
theorem get?_eq_none_iff
    {dict : OrderedDict κ ν}
    {key : κ} :
    dict.get? key = none ↔ key ∉ dict.keys := by
  simp only [get?, Option.map_eq_none_iff, List.find?_eq_none, keys,
    List.mem_map, decide_eq_true_eq]
  constructor
  · rintro absent ⟨entry, member, rfl⟩
    exact absent entry member rfl
  · intro absent entry member same
    exact absent ⟨entry, member, same⟩

theorem mem_keys_iff
    {dict : OrderedDict κ ν}
    {key : κ} :
    key ∈ dict.keys ↔ ∃ value, dict.get? key = some value := by
  cases found : dict.get? key with
  | none =>
      simpa using get?_eq_none_iff.mp found
  | some value =>
      simp only [Option.some.injEq, exists_eq', iff_true]
      by_contra absent
      rw [get?_eq_none_iff.mpr absent] at found
      cases found

theorem contains_iff
    {dict : OrderedDict κ ν}
    {key : κ} :
    dict.contains key = true ↔ key ∈ dict.keys := by
  rw [contains, Option.isSome_iff_exists, mem_keys_iff]

/-- Two dictionaries with the same pairs answer every lookup alike. -/
theorem get?_congr
    {first second : OrderedDict κ ν}
    {key : κ}
    (samePairs :
      ∀ value,
        (key, value) ∈ first.entries ↔ (key, value) ∈ second.entries) :
    first.get? key = second.get? key := by
  apply Option.ext
  intro value
  rw [get?_eq_some_iff, get?_eq_some_iff]
  exact samePairs value

/--
Store a value: a present key keeps its place, a new key is appended.
-/
def set (dict : OrderedDict κ ν) (key : κ) (value : ν) :
    OrderedDict κ ν where
  entries :=
    if dict.contains key then
      dict.entries.map fun entry =>
        if entry.1 = key then (key, value) else entry
    else
      dict.entries ++ [(key, value)]
  keysNodup := by
    split
    · have sameKeys :
          (dict.entries.map fun entry =>
            if entry.1 = key then (key, value) else entry).map Prod.fst =
              dict.entries.map Prod.fst := by
        rw [List.map_map]
        apply List.map_congr_left
        intro entry _
        by_cases same : entry.1 = key <;> simp [same]
      rw [sameKeys]
      exact dict.keysNodup
    · rename_i absent
      rw [contains_iff] at absent
      rw [List.map_append]
      refine dict.keysNodup.append (List.nodup_singleton key) ?_
      intro other member isKey
      simp only [List.map_cons, List.map_nil, List.mem_singleton] at isKey
      subst other
      exact absent member

/-- Give a present key the last place. -/
def moveToEnd (dict : OrderedDict κ ν) (key : κ) : OrderedDict κ ν :=
  match dict.get? key with
  | some value => (dict.erase key).set key value
  | none => dict

omit [DecidableEq κ] in
@[simp] theorem entries_empty :
    (empty : OrderedDict κ ν).entries = [] :=
  rfl

@[simp] theorem get?_empty
    (key : κ) :
    (empty : OrderedDict κ ν).get? key = none :=
  rfl

omit [DecidableEq κ] in
@[simp] theorem length_empty :
    (empty : OrderedDict κ ν).length = 0 :=
  rfl

theorem mem_entries_set
    {dict : OrderedDict κ ν}
    {key other : κ}
    {value stored : ν} :
    (other, stored) ∈ (dict.set key value).entries ↔
      (other = key ∧ stored = value) ∨
        (other ≠ key ∧ (other, stored) ∈ dict.entries) := by
  by_cases present : dict.contains key = true
  · simp only [set, present, ↓reduceIte, List.mem_map]
    constructor
    · rintro ⟨entry, member, shape⟩
      by_cases same : entry.1 = key
      · simp only [same, ↓reduceIte, Prod.mk.injEq] at shape
        exact Or.inl ⟨shape.1.symm, shape.2.symm⟩
      · simp only [same, ↓reduceIte] at shape
        subst shape
        exact Or.inr ⟨same, member⟩
    · rintro (⟨rfl, rfl⟩ | ⟨different, member⟩)
      · obtain ⟨previous, found⟩ :=
          mem_keys_iff.mp (contains_iff.mp present)
        exact ⟨(other, previous), get?_eq_some_iff.mp found, by simp⟩
      · exact ⟨(other, stored), member, by simp [different]⟩
  · simp only [set, present, Bool.false_eq_true, ↓reduceIte,
      List.mem_append, List.mem_singleton, Prod.mk.injEq]
    rw [contains_iff] at present
    constructor
    · rintro (member | isNew)
      · refine Or.inr ⟨?_, member⟩
        rintro rfl
        exact present (List.mem_map.mpr ⟨(other, stored), member, rfl⟩)
      · exact Or.inl isNew
    · rintro (isNew | ⟨_, member⟩)
      · exact Or.inr isNew
      · exact Or.inl member

@[simp] theorem get?_set_same
    (dict : OrderedDict κ ν)
    (key : κ)
    (value : ν) :
    (dict.set key value).get? key = some value := by
  rw [get?_eq_some_iff, mem_entries_set]
  exact Or.inl ⟨rfl, rfl⟩

theorem get?_set_other
    (dict : OrderedDict κ ν)
    {key other : κ}
    (different : other ≠ key)
    (value : ν) :
    (dict.set key value).get? other = dict.get? other := by
  apply get?_congr
  intro stored
  rw [mem_entries_set]
  simp [different]

omit [DecidableEq κ] in
theorem mem_entries_filter
    {dict : OrderedDict κ ν}
    {keep : κ × ν → Bool}
    {entry : κ × ν} :
    entry ∈ (dict.filter keep).entries ↔
      entry ∈ dict.entries ∧ keep entry = true := by
  simp [filter]

theorem get?_filter_eq_some_iff
    {dict : OrderedDict κ ν}
    {keep : κ × ν → Bool}
    {key : κ}
    {value : ν} :
    (dict.filter keep).get? key = some value ↔
      dict.get? key = some value ∧ keep (key, value) = true := by
  rw [get?_eq_some_iff, mem_entries_filter, get?_eq_some_iff]

theorem mem_entries_erase
    {dict : OrderedDict κ ν}
    {key : κ}
    {entry : κ × ν} :
    entry ∈ (dict.erase key).entries ↔
      entry ∈ dict.entries ∧ entry.1 ≠ key := by
  simp [erase, mem_entries_filter]

@[simp] theorem get?_erase_same
    (dict : OrderedDict κ ν)
    (key : κ) :
    (dict.erase key).get? key = none := by
  rw [get?_eq_none_iff]
  rintro member
  obtain ⟨entry, entryMember, rfl⟩ := List.mem_map.mp member
  exact (mem_entries_erase.mp entryMember).2 rfl

theorem get?_erase_other
    (dict : OrderedDict κ ν)
    {key other : κ}
    (different : other ≠ key) :
    (dict.erase key).get? other = dict.get? other := by
  apply get?_congr
  intro stored
  rw [mem_entries_erase]
  simp [different]

theorem get?_of_erase
    {dict : OrderedDict κ ν}
    {erased key : κ}
    {value : ν}
    (found : (dict.erase erased).get? key = some value) :
    dict.get? key = some value := by
  by_cases same : key = erased
  · subst same
    simp at found
  · rwa [get?_erase_other _ same] at found

/-- Storing a value adds no other value. -/
theorem forall_values_set
    {dict : OrderedDict κ ν}
    {key : κ}
    {value : ν}
    {holds : ν → Prop}
    (kept : ∀ stored ∈ dict.values, holds stored)
    (added : holds value) :
    ∀ stored ∈ (dict.set key value).values, holds stored := by
  intro stored member
  obtain ⟨entry, inEntries, rfl⟩ := List.mem_map.mp member
  rcases mem_entries_set.mp inEntries with ⟨_, same⟩ | ⟨_, old⟩
  · rw [same]
    exact added
  · exact kept entry.2 (List.mem_map_of_mem old)

/-- Removing a key adds no value. -/
theorem forall_values_erase
    {dict : OrderedDict κ ν}
    {key : κ}
    {holds : ν → Prop}
    (kept : ∀ stored ∈ dict.values, holds stored) :
    ∀ stored ∈ (dict.erase key).values, holds stored := by
  intro stored member
  obtain ⟨entry, inEntries, rfl⟩ := List.mem_map.mp member
  exact kept entry.2
    (List.mem_map_of_mem (mem_entries_erase.mp inEntries).1)

/-- Storing under a present key does not change the number of entries. -/
theorem length_set_of_mem
    {dict : OrderedDict κ ν}
    {key : κ}
    (present : key ∈ dict.keys)
    (value : ν) :
    (dict.set key value).length = dict.length := by
  simp [length, set, contains_iff.mpr present]

/-- A new key and its value get the last place. -/
theorem entries_set_of_not_mem
    {dict : OrderedDict κ ν}
    {key : κ}
    (absent : key ∉ dict.keys)
    (value : ν) :
    (dict.set key value).entries = dict.entries ++ [(key, value)] :=
  if_neg fun present => absent (contains_iff.mp present)

/-- Storing under a new key adds one entry. -/
theorem length_set_of_not_mem
    {dict : OrderedDict κ ν}
    {key : κ}
    (absent : key ∉ dict.keys)
    (value : ν) :
    (dict.set key value).length = dict.length + 1 := by
  rw [length, entries_set_of_not_mem absent, List.length_append]
  rfl

/-- Storing a value keeps the set of other keys and adds the key. -/
theorem mem_keys_set
    {dict : OrderedDict κ ν}
    {key other : κ}
    {value : ν} :
    other ∈ (dict.set key value).keys ↔
      other = key ∨ other ∈ dict.keys := by
  by_cases same : other = key
  · subst other
    simp [mem_keys_iff]
  · simp [mem_keys_iff, get?_set_other dict same, same]

/-- Storing under a present key keeps the keys. -/
theorem keys_set_of_mem
    {dict : OrderedDict κ ν}
    {key : κ}
    (present : key ∈ dict.keys)
    (value : ν) :
    (dict.set key value).keys = dict.keys := by
  simp only [keys, set, contains_iff.mpr present, ↓reduceIte,
    List.map_map]
  apply List.map_congr_left
  intro entry _
  by_cases same : entry.1 = key <;> simp [same]

/-- A new key gets the last place. -/
theorem keys_set_of_not_mem
    {dict : OrderedDict κ ν}
    {key : κ}
    (absent : key ∉ dict.keys)
    (value : ν) :
    (dict.set key value).keys = dict.keys ++ [key] := by
  rw [keys, entries_set_of_not_mem absent, List.map_append]
  rfl

/-- A present key together with the keys left by its removal. -/
theorem perm_keys_erase
    {dict : OrderedDict κ ν}
    {key : κ}
    (present : key ∈ dict.keys) :
    dict.keys.Perm (key :: (dict.erase key).keys) := by
  have erased : (dict.erase key).keys = dict.keys.erase key := by
    rw [dict.nodup_keys.erase_eq_filter]
    simp only [keys, erase, filter, List.filter_map]
    refine congrArg (List.map Prod.fst) (List.filter_congr ?_)
    intro entry _
    by_cases same : entry.1 = key <;> simp [same]
  rw [erased]
  exact List.perm_cons_erase present

/-- Removing a present key removes one entry. -/
theorem length_erase_of_mem
    {dict : OrderedDict κ ν}
    {key : κ}
    (present : key ∈ dict.keys) :
    (dict.erase key).length + 1 = dict.length := by
  have lengths := (perm_keys_erase present).length_eq
  rw [List.length_cons, length_keys, length_keys] at lengths
  exact lengths.symm

theorem mem_keys_of_erase
    {dict : OrderedDict κ ν}
    {erased key : κ}
    (present : key ∈ (dict.erase erased).keys) :
    key ∈ dict.keys ∧ key ≠ erased := by
  obtain ⟨entry, member, rfl⟩ := List.mem_map.mp present
  obtain ⟨inDict, different⟩ := mem_entries_erase.mp member
  exact ⟨List.mem_map_of_mem inDict, different⟩

omit [DecidableEq κ] in
/-- No pair around a pair carries its key. -/
theorem key_ne_of_entries
    {dict : OrderedDict κ ν}
    {before after : List (κ × ν)}
    {key : κ}
    {value : ν}
    (shape : dict.entries = before ++ (key, value) :: after) :
    (∀ entry ∈ before, entry.1 ≠ key) ∧
      ∀ entry ∈ after, entry.1 ≠ key := by
  have distinct := dict.keysNodup
  rw [shape, List.map_append, List.map_cons, List.nodup_middle,
    List.nodup_cons, ← List.map_append] at distinct
  constructor
  · intro entry member same
    exact distinct.1 (List.mem_map.mpr
      ⟨entry, List.mem_append_left _ member, same⟩)
  · intro entry member same
    exact distinct.1 (List.mem_map.mpr
      ⟨entry, List.mem_append_right _ member, same⟩)

/-- Storing under a present key changes its value in place. -/
theorem entries_set_of_entries
    {dict : OrderedDict κ ν}
    {before after : List (κ × ν)}
    {key : κ}
    {old : ν}
    (shape : dict.entries = before ++ (key, old) :: after)
    (value : ν) :
    (dict.set key value).entries = before ++ (key, value) :: after := by
  obtain ⟨notBefore, notAfter⟩ := key_ne_of_entries shape
  have present : dict.contains key = true := by
    rw [contains_iff, keys, shape]
    simp
  have unchanged :
      ∀ entries : List (κ × ν),
        (∀ entry ∈ entries, entry.1 ≠ key) →
        entries.map (fun entry =>
          if entry.1 = key then (key, value) else entry) = entries := by
    intro entries different
    nth_rewrite 2 [← List.map_id entries]
    apply List.map_congr_left
    intro entry member
    exact if_neg (different entry member)
  simp only [set, present, ↓reduceIte, shape, List.map_append,
    List.map_cons]
  rw [unchanged before notBefore, unchanged after notAfter]

/-- Removing a present key leaves the pairs around it. -/
theorem entries_erase_of_entries
    {dict : OrderedDict κ ν}
    {before after : List (κ × ν)}
    {key : κ}
    {value : ν}
    (shape : dict.entries = before ++ (key, value) :: after) :
    (dict.erase key).entries = before ++ after := by
  obtain ⟨notBefore, notAfter⟩ := key_ne_of_entries shape
  have unchanged :
      ∀ entries : List (κ × ν),
        (∀ entry ∈ entries, entry.1 ≠ key) →
        entries.filter (fun entry => entry.1 ≠ key) = entries := by
    intro entries different
    rw [List.filter_eq_self]
    intro entry member
    exact decide_eq_true (different entry member)
  simp only [erase, filter, shape, List.filter_append]
  rw [unchanged before notBefore, List.filter_cons_of_neg (by simp),
    unchanged after notAfter]

/-- Moving a key to the end changes no lookup. -/
@[simp] theorem get?_moveToEnd
    (dict : OrderedDict κ ν)
    (key other : κ) :
    (dict.moveToEnd key).get? other = dict.get? other := by
  unfold moveToEnd
  cases found : dict.get? key with
  | none =>
      rfl
  | some value =>
      by_cases same : other = key
      · subst other
        simp [found]
      · simp [get?_set_other _ same, get?_erase_other _ same]

/-- Everything left by `dropWhile` was there before. -/
theorem get?_of_dropWhile
    {dict : OrderedDict κ ν}
    {drop : κ × ν → Bool}
    {key : κ}
    {value : ν}
    (found : (dict.dropWhile drop).get? key = some value) :
    dict.get? key = some value := by
  rw [get?_eq_some_iff] at found ⊢
  exact (List.dropWhile_sublist drop).subset found

omit [DecidableEq κ] in
/--
Where every pair before a pair to be dropped is to be dropped as well,
`dropWhile` keeps exactly the pairs that are not.
-/
theorem mem_entries_dropWhile
    {dict : OrderedDict κ ν}
    {drop : κ × ν → Bool}
    (ordered :
      dict.entries.Pairwise fun earlier later =>
        drop later = true → drop earlier = true)
    {entry : κ × ν} :
    entry ∈ (dict.dropWhile drop).entries ↔
      entry ∈ dict.entries ∧ drop entry = false := by
  simp only [dropWhile]
  generalize dict.entries = entries at ordered ⊢
  induction entries with
  | nil =>
      simp
  | cons first rest inductionHypothesis =>
      obtain ⟨firstBefore, restOrdered⟩ := List.pairwise_cons.mp ordered
      cases dropped : drop first with
      | true =>
          rw [List.dropWhile_cons_of_pos dropped,
            inductionHypothesis restOrdered]
          constructor
          · rintro ⟨member, kept⟩
            exact ⟨List.mem_cons_of_mem _ member, kept⟩
          · rintro ⟨member, kept⟩
            refine ⟨(List.mem_cons.mp member).resolve_left ?_, kept⟩
            rintro rfl
            rw [dropped] at kept
            cases kept
      | false =>
          rw [List.dropWhile_cons_of_neg (by simp [dropped])]
          constructor
          · intro member
            refine ⟨member, ?_⟩
            rcases List.mem_cons.mp member with rfl | inRest
            · exact dropped
            · by_contra notKept
              rw [Bool.not_eq_false] at notKept
              rw [firstBefore entry inRest notKept] at dropped
              cases dropped
          · exact And.left

omit [DecidableEq κ] in
/-- A pair behind one that `dropWhile` keeps is kept. -/
theorem mem_entries_dropWhile_of_kept
    {dict : OrderedDict κ ν}
    {drop : κ × ν → Bool}
    {front back : List (κ × ν)}
    {kept entry : κ × ν}
    (shape : dict.entries = front ++ back)
    (inFront : kept ∈ front)
    (notDropped : drop kept = false)
    (inBack : entry ∈ back) :
    entry ∈ (dict.dropWhile drop).entries := by
  have frontLeft : (front.dropWhile drop).isEmpty = false := by
    rw [Bool.eq_false_iff]
    intro isEmpty
    have allDropped :=
      List.dropWhile_eq_nil_iff.mp (List.isEmpty_iff.mp isEmpty)
    rw [allDropped kept inFront] at notDropped
    cases notDropped
  simp only [dropWhile]
  rw [shape, List.dropWhile_append, frontLeft]
  exact List.mem_append_right _ inBack

/-- Everything left by `keepLast` was there before. -/
theorem get?_of_keepLast
    {dict : OrderedDict κ ν}
    {count : Nat}
    {key : κ}
    {value : ν}
    (found : (dict.keepLast count).get? key = some value) :
    dict.get? key = some value := by
  rw [get?_eq_some_iff] at found ⊢
  exact (List.drop_sublist _ dict.entries).subset found

theorem entries_moveToEnd
    {dict : OrderedDict κ ν}
    {key : κ}
    {value : ν}
    (found : dict.get? key = some value) :
    (dict.moveToEnd key).entries =
      (dict.erase key).entries ++ [(key, value)] := by
  have absent : ¬ (dict.erase key).contains key = true := by
    simp [contains]
  simp only [moveToEnd, found, set, absent, Bool.false_eq_true, ↓reduceIte]

/-- Moving a key to the end keeps the keys. -/
theorem perm_keys_moveToEnd
    (dict : OrderedDict κ ν)
    (key : κ) :
    (dict.moveToEnd key).keys.Perm dict.keys := by
  cases found : dict.get? key with
  | none =>
      rw [moveToEnd, found]
  | some value =>
      have present := mem_keys_iff.mpr ⟨value, found⟩
      rw [keys, entries_moveToEnd found, List.map_append]
      exact (List.perm_append_singleton _ _).trans
        (perm_keys_erase present).symm

omit [DecidableEq κ] in
theorem length_keepLast_le
    (dict : OrderedDict κ ν)
    (count : Nat) :
    (dict.keepLast count).length ≤ count := by
  rw [length, keepLast, List.length_drop]
  omega

/-- A key just moved to the end is not among the oldest ones. -/
theorem get?_keepLast_moveToEnd
    {dict : OrderedDict κ ν}
    {key : κ}
    {value : ν}
    (found : dict.get? key = some value)
    {count : Nat}
    (positive : 0 < count) :
    ((dict.moveToEnd key).keepLast count).get? key = some value := by
  rw [get?_eq_some_iff, keepLast]
  simp only [entries_moveToEnd found, List.length_append,
    List.length_singleton]
  rw [List.drop_append_of_le_length (by omega)]
  exact List.mem_append_right _ (List.mem_singleton_self _)

/-- Dictionary of some keys, each in the place of its first occurrence. -/
def ofKeys (keys : List κ) : OrderedDict κ Unit :=
  keys.foldl (fun dict key => dict.set key ()) empty

@[simp] theorem mem_keys_ofKeys
    {keys : List κ}
    {key : κ} :
    key ∈ (ofKeys keys).keys ↔ key ∈ keys := by
  have general :
      ∀ dict : OrderedDict κ Unit,
        key ∈ (keys.foldl (fun dict key => dict.set key ()) dict).keys ↔
          key ∈ dict.keys ∨ key ∈ keys := by
    induction keys with
    | nil =>
        intro dict
        simp
    | cons first rest inductionHypothesis =>
        intro dict
        rw [List.foldl_cons, inductionHypothesis, mem_keys_set,
          List.mem_cons]
        tauto
  have whole := general empty
  simpa [ofKeys, OrderedDict.keys] using whole

end OrderedDict
