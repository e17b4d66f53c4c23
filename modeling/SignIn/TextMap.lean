namespace SignIn

/-- A finite map from texts, in the order in which its keys first came. No key occurs twice. -/
structure TextMap (α : Type) where
  entries : List (String × α)
  nodup : (entries.map Prod.fst).Nodup
  deriving DecidableEq

namespace TextMap

variable {α : Type}

/-- The map without keys. -/
def empty : TextMap α :=
  ⟨[], by simp⟩

/-- Replaces the value of a key where it stands, or puts the key at the end. -/
def insertEntry (key : String) (value : α) : List (String × α) → List (String × α)
  | [] => [(key, value)]
  | entry :: rest =>
    if entry.1 = key then (key, value) :: rest else entry :: insertEntry key value rest

private theorem map_fst_insertEntry (key : String) (value : α) (entries : List (String × α)) :
    (insertEntry key value entries).map Prod.fst =
      if key ∈ entries.map Prod.fst then entries.map Prod.fst else entries.map Prod.fst ++ [key] := by
  induction entries with
  | nil => rfl
  | cons entry rest ih =>
    by_cases h : entry.1 = key
    · simp [insertEntry, h]
    · have : ¬ key = entry.1 := fun e => h e.symm
      simp only [insertEntry, h, if_false, List.map_cons, ih, List.mem_cons, this, false_or]
      split <;> simp

/-- Sets the value of a key. -/
def insert (m : TextMap α) (key : String) (value : α) : TextMap α where
  entries := insertEntry key value m.entries
  nodup := by
    rw [map_fst_insertEntry]
    split
    · exact m.nodup
    · next h =>
      refine List.nodup_append.2 ⟨m.nodup, by simp, fun a ha b hb => ?_⟩
      obtain rfl := List.mem_singleton.1 hb
      exact fun e => h (e ▸ ha)

/-- The value of a key. -/
def get? (m : TextMap α) (key : String) : Option α :=
  m.entries.lookup key

/-- The keys of a map. -/
def keys (m : TextMap α) : List String :=
  m.entries.map Prod.fst

/-- The entry in front answers for its key, and the rest for all others. -/
theorem lookup_cons_eq_ite (entry : String × α) (rest : List (String × α)) (key : String) :
    (entry :: rest).lookup key = if key = entry.1 then some entry.2 else rest.lookup key := by
  rw [List.lookup_cons]
  by_cases h : key = entry.1
  · rw [if_pos h, beq_iff_eq.2 h]
  · rw [if_neg h, beq_eq_false_iff_ne.2 h]

private theorem lookup_insertEntry (key other : String) (value : α) (entries : List (String × α)) :
    (insertEntry key value entries).lookup other =
      if other = key then some value else entries.lookup other := by
  induction entries with
  | nil => exact lookup_cons_eq_ite (key, value) [] other
  | cons entry rest ih =>
    by_cases hentry : entry.1 = key
    · rw [insertEntry, if_pos hentry, lookup_cons_eq_ite, lookup_cons_eq_ite, hentry]
      split <;> rfl
    · rw [insertEntry, if_neg hentry, lookup_cons_eq_ite, lookup_cons_eq_ite, ih]
      by_cases hother : other = entry.1
      · rw [if_pos hother, if_pos hother, if_neg fun h => hentry (hother.symm.trans h)]
      · rw [if_neg hother, if_neg hother]

/-- After an insertion the new value is found under its key, and nothing else has changed. -/
theorem get?_insert (m : TextMap α) (key other : String) (value : α) :
    (m.insert key value).get? other = if other = key then some value else m.get? other :=
  lookup_insertEntry key other value m.entries

/-- The keys of a map are those under which something is found. -/
theorem mem_keys_iff {m : TextMap α} {key : String} : key ∈ m.keys ↔ (m.get? key).isSome := by
  rw [Option.isSome_iff_ne_none, ne_eq, get?, List.lookup_eq_none_iff, keys, List.mem_map]
  constructor
  · rintro ⟨entry, hentry, rfl⟩ hnone
    exact absurd rfl (bne_iff_ne.1 (hnone entry hentry))
  · intro hsome
    refine Classical.byContradiction fun hnone => hsome fun entry hentry => bne_iff_ne.2 fun hkey => ?_
    exact hnone ⟨entry, hentry, hkey.symm⟩

end TextMap

end SignIn
