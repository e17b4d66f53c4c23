import SignIn.TextMap

namespace SignIn.TextMap

variable {α : Type}

private theorem insertEntry_of_not_mem {key : String} (value : α) {entries : List (String × α)}
    (hkey : key ∉ entries.map Prod.fst) : insertEntry key value entries = entries ++ [(key, value)] := by
  induction entries with
  | nil => rfl
  | cons entry entries ih =>
    rw [List.map_cons, List.mem_cons, not_or] at hkey
    rw [insertEntry, if_neg (Ne.symm hkey.1), ih hkey.2]
    rfl

private theorem entries_foldl_insert (m : TextMap α) (entries : List (String × α))
    (hnodup : ((m.entries ++ entries).map Prod.fst).Nodup) :
    (entries.foldl (fun m entry => m.insert entry.1 entry.2) m).entries = m.entries ++ entries := by
  induction entries generalizing m with
  | nil => exact (List.append_nil _).symm
  | cons entry entries ih =>
    have hnew : entry.1 ∉ m.entries.map Prod.fst := by
      rw [List.map_append, List.nodup_append] at hnodup
      exact fun hmem => hnodup.2.2 _ hmem _ List.mem_cons_self rfl
    have hinsert : (m.insert entry.1 entry.2).entries = m.entries ++ [entry] :=
      insertEntry_of_not_mem entry.2 hnew
    have happend : m.entries ++ entry :: entries = (m.insert entry.1 entry.2).entries ++ entries := by
      rw [hinsert, List.append_assoc, List.singleton_append]
    rw [happend] at hnodup ⊢
    exact ih _ hnodup

/-- Entries put one after another into the empty map give the map again. -/
theorem foldl_insert_entries (m : TextMap α) :
    m.entries.foldl (fun m entry => m.insert entry.1 entry.2) empty = m := by
  have hentries := entries_foldl_insert empty m.entries m.nodup
  generalize m.entries.foldl _ _ = n at hentries
  cases n
  cases m
  cases hentries
  rfl

private theorem lookup_eq_some_iff {key : String} {value : α} {entries : List (String × α)}
    (hnodup : (entries.map Prod.fst).Nodup) : entries.lookup key = some value ↔ (key, value) ∈ entries := by
  induction entries with
  | nil => simp
  | cons entry entries ih =>
    rw [List.map_cons, List.nodup_cons] at hnodup
    rw [lookup_cons_eq_ite, List.mem_cons, ← ih hnodup.2]
    obtain ⟨first, held⟩ := entry
    by_cases hkey : key = first
    · -- No later entry has the key of the first one.
      subst hkey
      have hlater : entries.lookup key ≠ some value := fun hlookup =>
        hnodup.1 (List.mem_map.2 ⟨(key, value), (ih hnodup.2).1 hlookup, rfl⟩)
      simp [hlater, eq_comm]
    · simp [hkey]

/-- The order of the entries does not matter to what is found. -/
theorem get?_eq_of_perm {m n : TextMap α} (hperm : m.entries.Perm n.entries) : m.get? = n.get? := by
  funext key
  exact Option.ext fun value => by
    rw [get?, get?, lookup_eq_some_iff m.nodup, lookup_eq_some_iff n.nodup, hperm.mem_iff]

end SignIn.TextMap
