namespace SignIn

variable {α : Type} {l : List α} {a b : α} {i j : Nat}

/-- What stands at a place of a list with one more entry stood there before, or is the new entry. -/
theorem getElem?_concat_cases (hget : (l ++ [a])[i]? = some b) : l[i]? = some b ∨ i = l.length ∧ b = a := by
  rw [List.getElem?_append] at hget
  split at hget
  · exact .inl hget
  · next hi =>
    have hlast : i - l.length < 1 := (List.getElem?_eq_some_iff.1 hget).1
    have hplace : i = l.length := by omega
    rw [hplace, Nat.sub_self] at hget
    exact .inr ⟨hplace, (Option.some.inj hget).symm⟩

/-- What stands at a place after one entry was replaced is the new entry, or stood there before. -/
theorem getElem?_set_cases (hget : (l.set i a)[j]? = some b) : i = j ∧ b = a ∨ i ≠ j ∧ l[j]? = some b := by
  rw [List.getElem?_set] at hget
  split at hget
  · next hij =>
    split at hget
    · exact .inl ⟨hij, (Option.some.inj hget).symm⟩
    · cases hget
  · next hij => exact .inr ⟨hij, hget⟩

/-- Among pieces of one size, each is found at the multiple of the size that its place tells. -/
theorem take_drop_flatten {pieces : List (List α)} {piece : List α} {size : Nat}
    (hsize : ∀ p ∈ pieces, p.length = size) (hget : pieces[i]? = some piece) :
    (pieces.flatten.drop (i * size)).take size = piece := by
  induction pieces generalizing i with
  | nil => cases hget
  | cons first rest ih =>
    have hfirst : first.length = size := hsize first List.mem_cons_self
    cases i with
    | zero =>
      cases hget
      simp [← hfirst]
    | succ i =>
      have hrest := ih (fun p hp => hsize p (List.mem_cons_of_mem first hp)) hget
      rw [List.flatten_cons, Nat.succ_mul, Nat.add_comm, ← List.drop_drop, List.drop_left' hfirst]
      exact hrest

end SignIn
