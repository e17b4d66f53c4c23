import Mathlib.Data.List.DropRight
import SignIn.Text.Blank
import SignIn.Text.Pieces
import SignIn.Text.Utf8

namespace SignIn

/-- Core decodes what core encodes, and both write a character the same way. -/
theorem Utf8.encode_inj {s t : List Char} : Utf8.encode s = Utf8.encode t ↔ s = t := by
  constructor
  · intro hencode
    have hbytes : s.utf8Encode = t.utf8Encode := congrArg List.toByteArray hencode
    have hdecode := congrArg ByteArray.utf8Decode? hbytes
    simpa using hdecode
  · exact congrArg _

namespace Text

private theorem splitOn_of_not_mem {sep : Char} {text : List Char} (hsep : sep ∉ text) :
    splitOn sep text = [text] := by
  induction text with
  | nil => rfl
  | cons c rest ih =>
    have hc : c ≠ sep := fun h => hsep (h ▸ List.mem_cons_self)
    have hrest : sep ∉ rest := fun h => hsep (List.mem_cons_of_mem c h)
    simp [splitOn, hc, ih hrest]

private theorem splitOn_append_sep {sep : Char} {piece rest : List Char} (hsep : sep ∉ piece) :
    splitOn sep (piece ++ sep :: rest) = piece :: splitOn sep rest := by
  induction piece with
  | nil => simp [splitOn]
  | cons c piece ih =>
    have hc : c ≠ sep := fun h => hsep (h ▸ List.mem_cons_self)
    have hpiece : sep ∉ piece := fun h => hsep (List.mem_cons_of_mem c h)
    simp [splitOn, hc, ih hpiece]

/-- Pieces that hold no separator come apart as they were put together. -/
theorem splitOn_joinWith {sep : Char} {pieces : List (List Char)} (hne : pieces ≠ [])
    (hsep : ∀ piece ∈ pieces, sep ∉ piece) : splitOn sep (joinWith sep pieces) = pieces := by
  induction pieces with
  | nil => exact absurd rfl hne
  | cons piece more ih =>
    have hpiece := hsep piece List.mem_cons_self
    cases more with
    | nil => exact splitOn_of_not_mem hpiece
    | cons next more =>
      have hmore := ih (by simp) fun p hp => hsep p (List.mem_cons_of_mem piece hp)
      rw [joinWith, splitOn_append_sep hpiece, hmore]
      simp

/-- Joined pieces hold the separator and what the pieces hold, and nothing else. -/
theorem eq_sep_or_mem_of_mem_joinWith {sep c : Char} {pieces : List (List Char)}
    (hc : c ∈ joinWith sep pieces) : c = sep ∨ ∃ piece ∈ pieces, c ∈ piece := by
  induction pieces with
  | nil => cases hc
  | cons piece more ih =>
    cases more with
    | nil => exact .inr ⟨piece, by simp, hc⟩
    | cons next more =>
      simp only [joinWith, List.mem_append, List.mem_cons] at hc
      rcases hc with hc | hc | hc
      · exact .inr ⟨piece, by simp, hc⟩
      · exact .inl hc
      · rcases ih hc with hsep | ⟨p, hp, hcp⟩
        · exact .inl hsep
        · exact .inr ⟨p, List.mem_cons_of_mem piece hp, hcp⟩

/-- A change that goes through piece by piece and keeps the separator goes through joined pieces. -/
theorem map_joinWith {sep : Char} {f : List Char → List Char} (happend : ∀ s t, f (s ++ t) = f s ++ f t)
    (hsep : f [sep] = [sep]) (pieces : List (List Char)) :
    f (joinWith sep pieces) = joinWith sep (pieces.map f) := by
  induction pieces with
  | nil => simpa [joinWith] using happend [] []
  | cons piece more ih =>
    cases more with
    | nil => rfl
    | cons next more =>
      change f (piece ++ ([sep] ++ joinWith sep (next :: more))) = _
      rw [happend, happend, hsep, ih]
      rfl

/-- One more piece at the end comes behind one more separator. -/
theorem joinWith_concat {sep : Char} {pieces : List (List Char)} (hne : pieces ≠ []) (last : List Char) :
    joinWith sep (pieces ++ [last]) = joinWith sep pieces ++ sep :: last := by
  induction pieces with
  | nil => exact absurd rfl hne
  | cons piece more ih =>
    cases more with
    | nil => rfl
    | cons next more =>
      have hmore := ih (List.cons_ne_nil next more)
      change piece ++ sep :: joinWith sep (next :: more ++ [last]) = piece ++ sep :: joinWith sep (next :: more) ++ _
      rw [hmore, List.append_assoc, List.cons_append]

private theorem mem_joinWith_of_mem {sep c : Char} {piece : List Char} {pieces : List (List Char)}
    (hpiece : piece ∈ pieces) (hc : c ∈ piece) : c ∈ joinWith sep pieces := by
  induction pieces with
  | nil => cases hpiece
  | cons first more ih =>
    cases more with
    | nil =>
      obtain rfl := List.mem_singleton.1 hpiece
      exact hc
    | cons second more =>
      change c ∈ first ++ sep :: joinWith sep (second :: more)
      rcases List.mem_cons.1 hpiece with rfl | hpiece
      · exact List.mem_append_left _ hc
      · exact List.mem_append_right _ (List.mem_cons_of_mem sep (ih hpiece))

/-- A piece holds nothing that the text does not hold. -/
theorem mem_of_mem_splitOn {sep c : Char} {text piece : List Char} (hpiece : piece ∈ splitOn sep text)
    (hc : c ∈ piece) : c ∈ text :=
  joinWith_splitOn sep text ▸ mem_joinWith_of_mem hpiece hc

/-- No piece holds the separator. -/
theorem notMem_of_mem_splitOn {sep : Char} {text piece : List Char} (hpiece : piece ∈ splitOn sep text) :
    sep ∉ piece := by
  induction text generalizing piece with
  | nil => simp_all [splitOn]
  | cons c rest ih =>
    obtain ⟨first, more, hrest⟩ := List.exists_cons_of_ne_nil (splitOn_ne_nil sep rest)
    rw [hrest] at ih
    by_cases hc : c = sep
    · rw [splitOn, if_pos hc, hrest] at hpiece
      rcases List.mem_cons.1 hpiece with rfl | hpiece
      · exact List.not_mem_nil
      · exact ih hpiece
    · rw [splitOn, if_neg hc, hrest] at hpiece
      rcases List.mem_cons.1 hpiece with rfl | hpiece
      · intro hmem
        rcases List.mem_cons.1 hmem with rfl | hmem
        · exact hc rfl
        · exact ih List.mem_cons_self hmem
      · exact ih (List.mem_cons_of_mem first hpiece)

private theorem splitOn_append (sep : Char) (front rest : List Char) :
    splitOn sep (front ++ sep :: rest) = splitOn sep front ++ splitOn sep rest := by
  induction front with
  | nil => simp [splitOn]
  | cons c front ih =>
    obtain ⟨piece, more, hsplit⟩ := List.exists_cons_of_ne_nil (splitOn_ne_nil sep front)
    by_cases hc : c = sep <;> simp [splitOn, hc, ih, hsplit]

/-- A text is cut at its first separator. -/
theorem splitFirst_append_sep {sep : Char} {piece : List Char} (hsep : sep ∉ piece) (rest : List Char) :
    splitFirst sep (piece ++ sep :: rest) = (piece, some rest) := by
  induction piece with
  | nil => simp [splitFirst]
  | cons c piece ih =>
    have hc : c ≠ sep := fun h => hsep (h ▸ List.mem_cons_self)
    have hpiece : sep ∉ piece := fun h => hsep (List.mem_cons_of_mem c h)
    simp [splitFirst, hc, ih hpiece]

/-- What is cut off in front holds no separator. -/
theorem notMem_splitFirst (sep : Char) (text : List Char) : sep ∉ (splitFirst sep text).1 := by
  induction text with
  | nil => exact List.not_mem_nil
  | cons c rest ih =>
    by_cases hc : c = sep
    · simp [splitFirst, hc]
    · simp [splitFirst, hc, ih, Ne.symm hc]

/-- Cutting at the first separator loses nothing. -/
theorem append_splitFirst (sep : Char) (text : List Char) :
    (splitFirst sep text).1 ++ ((splitFirst sep text).2.map (sep :: ·)).getD [] = text := by
  induction text with
  | nil => rfl
  | cons c rest ih =>
    by_cases hc : c = sep
    · simp [splitFirst, hc]
    · simpa [splitFirst, hc] using ih

/-- What was put together at a separator, or has none, is cut into what it was put together of. -/
theorem splitFirst_append {sep : Char} {head : List Char} (hhead : sep ∉ head) (tail : Option (List Char)) :
    splitFirst sep (head ++ (tail.map (sep :: ·)).getD []) = (head, tail) := by
  cases tail with
  | some tail => exact splitFirst_append_sep hhead tail
  | none =>
    rw [Option.map_none, Option.getD_none, List.append_nil]
    induction head with
    | nil => rfl
    | cons c head ih =>
      have hc : c ≠ sep := fun h => hhead (h ▸ List.mem_cons_self)
      have hrest : sep ∉ head := fun h => hhead (List.mem_cons_of_mem c h)
      simp [splitFirst, hc, ih hrest]

private theorem trimEnd_eq_rdropWhile (p : Char → Bool) (text : List Char) :
    trimEnd p text = text.rdropWhile p :=
  rfl

/-- The last character that trimming leaves is none that it removes. -/
theorem eq_false_of_trimEnd_eq {p : Char → Bool} {text front : List Char} {c : Char}
    (htrim : trimEnd p text = front ++ [c]) : p c = false := by
  rw [trimEnd_eq_rdropWhile] at htrim
  have hlast := List.rdropWhile_last_not p text (by simp [htrim])
  simpa [htrim] using hlast

/-- The last piece of a text that is not empty. -/
def lastPiece? (sep : Char) (text : List Char) : Option (List Char) :=
  (splitOn sep text).reverse.find? (· ≠ [])

private theorem lastPiece?_append (sep : Char) (front rest : List Char) :
    lastPiece? sep (front ++ sep :: rest) = (lastPiece? sep rest).or (lastPiece? sep front) := by
  rw [lastPiece?, splitOn_append, List.reverse_append, List.find?_append]
  rfl

private theorem lastPiece?_of_not_mem {sep : Char} {text : List Char} (hsep : sep ∉ text) (hne : text ≠ []) :
    lastPiece? sep text = some text := by
  simp [lastPiece?, splitOn_of_not_mem hsep, hne]

/-- Separators at the end of a text make only empty pieces. -/
theorem lastPiece?_trimEnd (sep : Char) (text : List Char) :
    lastPiece? sep (trimEnd (· = sep) text) = lastPiece? sep text := by
  induction text using List.reverseRecOn with
  | nil => rfl
  | append_singleton front c ih =>
    rw [trimEnd_eq_rdropWhile, List.rdropWhile_concat, ← trimEnd_eq_rdropWhile]
    by_cases hc : c = sep
    · subst hc
      rw [lastPiece?_append, if_pos (by simp), ih]
      rfl
    · rw [if_neg (by simpa using hc)]

/-- The last piece of a text, separators at its end apart, is all of it or what follows its last separator. -/
theorem lastPiece?_eq_some_iff {sep : Char} {text piece : List Char} (hsep : sep ∉ piece)
    (hne : piece ≠ []) :
    lastPiece? sep text = some piece ↔
      trimEnd (· = sep) text = piece ∨ sep :: piece <:+ trimEnd (· = sep) text := by
  rw [← lastPiece?_trimEnd]
  constructor
  · intro hpiece
    by_cases hmem : sep ∈ trimEnd (· = sep) text
    · -- The text is cut at its last separator. Something stands behind it, for the end is trimmed.
      obtain ⟨last, front, hreverse, hlast⟩ := List.eq_append_cons_of_mem (List.mem_reverse.2 hmem)
      have htrim : trimEnd (· = sep) text = front.reverse ++ sep :: last.reverse := by
        simpa using congrArg List.reverse hreverse
      have hnonempty : last.reverse ≠ [] := by
        intro hempty
        rw [hempty] at htrim
        simpa using eq_false_of_trimEnd_eq htrim
      rw [htrim, lastPiece?_append, lastPiece?_of_not_mem (by simpa using hlast) hnonempty,
        Option.some_or, Option.some.injEq] at hpiece
      exact .inr ⟨front.reverse, by rw [htrim, hpiece]⟩
    · have hnonempty : trimEnd (· = sep) text ≠ [] := by
        intro hempty
        rw [hempty] at hpiece
        cases hpiece
      rw [lastPiece?_of_not_mem hmem hnonempty, Option.some.injEq] at hpiece
      exact .inl hpiece
  · rintro (htrim | ⟨front, htrim⟩)
    · rw [htrim, lastPiece?_of_not_mem hsep hne]
    · rw [← htrim, lastPiece?_append, lastPiece?_of_not_mem hsep hne, Option.some_or]

/-- Nothing is removed in front of a text that holds nothing to remove. -/
theorem dropWhile_eq_self {p : Char → Bool} {text : List Char} (htext : ∀ c ∈ text, p c = false) :
    text.dropWhile p = text := by
  cases text with
  | nil => rfl
  | cons c rest => simp [htext c List.mem_cons_self]

/-- What is removed in front stops at the first character that stays. -/
theorem dropWhile_append_cons {p : Char → Bool} {c : Char} (hc : p c = false) (front rest : List Char) :
    (front ++ c :: rest).dropWhile p = front.dropWhile p ++ c :: rest := by
  induction front with
  | nil => exact List.dropWhile_cons_of_neg (by simp [hc])
  | cons d front ih =>
    rw [List.cons_append, List.dropWhile_cons, List.dropWhile_cons]
    split_ifs
    · exact ih
    · rfl

/-- What is removed at the end stops at the last character that stays. -/
theorem trimEnd_append_cons {p : Char → Bool} {c : Char} (hc : p c = false) (front rest : List Char) :
    trimEnd p (front ++ c :: rest) = front ++ c :: trimEnd p rest := by
  have hreverse : (front ++ c :: rest).reverse = rest.reverse ++ c :: front.reverse := by simp
  rw [trimEnd, hreverse, dropWhile_append_cons hc, trimEnd]
  simp

/-- Nothing is removed at the end of a text that holds nothing to remove. -/
theorem trimEnd_eq_self {p : Char → Bool} {text : List Char} (htext : ∀ c ∈ text, p c = false) :
    trimEnd p text = text := by
  have hreverse : text.reverse.dropWhile p = text.reverse := dropWhile_eq_self (by simpa using htext)
  rw [trimEnd, hreverse, List.reverse_reverse]

/-- Characters around a text that holds none of their kind are all that is left out. -/
theorem trimBy_surrounded {p : Char → Bool} {before text after : List Char}
    (hbefore : ∀ c ∈ before, p c = true) (htext : ∀ c ∈ text, p c = false)
    (hafter : ∀ c ∈ after, p c = true) : trimBy p (before ++ text ++ after) = text := by
  have hfront : (before ++ text ++ after).dropWhile p = (text ++ after).dropWhile p := by
    rw [List.append_assoc, List.dropWhile_append_of_pos hbefore]
  have hback : ((text ++ after).reverse).dropWhile p = text.reverse := by
    rw [List.reverse_append, List.dropWhile_append_of_pos (by simpa using hafter),
      dropWhile_eq_self (by simpa using htext)]
  rw [trimBy, trimEnd, hfront]
  cases text with
  | nil =>
    have hnone : (after ++ []).dropWhile p = [] := List.dropWhile_append_of_pos hafter
    rw [List.append_nil] at hnone
    simp [hnone]
  | cons c rest =>
    rw [List.cons_append, List.dropWhile_cons_of_neg (by simp [htext c List.mem_cons_self]),
      ← List.cons_append, hback, List.reverse_reverse]

private theorem dropWhile_map {f : Char → Char} {p q : Char → Bool} {text : List Char}
    (hsame : ∀ c ∈ text, p (f c) = q c) : (text.map f).dropWhile p = (text.dropWhile q).map f := by
  induction text with
  | nil => rfl
  | cons c rest ih =>
    have hrest := ih fun d hd => hsame d (List.mem_cons_of_mem c hd)
    rw [List.map_cons, List.dropWhile_cons, List.dropWhile_cons, hsame c List.mem_cons_self]
    split_ifs
    · exact hrest
    · rfl

/-- Trimming goes along with a change of characters that keeps apart which of them are removed. -/
theorem trimBy_map {f : Char → Char} {p q : Char → Bool} {text : List Char}
    (hsame : ∀ c ∈ text, p (f c) = q c) : trimBy p (text.map f) = (trimBy q text).map f := by
  have hback : ∀ c ∈ (text.dropWhile q).reverse, p (f c) = q c := fun c hc =>
    hsame c ((List.dropWhile_suffix q).subset (List.mem_reverse.1 hc))
  rw [trimBy, trimEnd, dropWhile_map hsame, ← List.map_reverse, dropWhile_map hback, ← List.map_reverse]
  rfl

/-- Where the first character stays, only the end is trimmed. -/
theorem trimBy_eq_trimEnd {p : Char → Bool} {text : List Char} (hhead : ∀ c ∈ text.head?, p c = false) :
    trimBy p text = trimEnd p text := by
  cases text with
  | nil => rfl
  | cons c rest =>
    rw [trimBy, List.dropWhile_cons_of_neg]
    simpa using hhead c rfl

/-- Where the last character stays, so does the end. -/
theorem trimEnd_eq_self_of_getLast? {p : Char → Bool} {text : List Char}
    (hlast : ∀ c ∈ text.getLast?, p c = false) : trimEnd p text = text := by
  cases hget : text.getLast? with
  | none => rw [List.getLast?_eq_none_iff.1 hget, trimEnd_eq_self (by simp)]
  | some c =>
    obtain ⟨front, rfl⟩ := List.getLast?_eq_some_iff.1 hget
    exact trimEnd_append_cons (hlast c hget) front []

/-- The first character of a trimmed text is none that trimming removes. -/
theorem eq_false_of_mem_head?_trimBy {p : Char → Bool} {text : List Char} {c : Char}
    (hc : c ∈ (trimBy p text).head?) : p c = false := by
  have hfirst := List.head?_dropWhile_not p text
  rw [trimBy] at hc
  cases hdrop : text.dropWhile p with
  | nil =>
    rw [hdrop, trimEnd_eq_self (by simp)] at hc
    cases hc
  | cons d rest =>
    rw [hdrop] at hfirst hc
    have htrim : trimEnd p (d :: rest) = d :: trimEnd p rest := trimEnd_append_cons hfirst [] rest
    rw [htrim] at hc
    cases hc
    exact hfirst

/-- What is trimmed at the end of a text is nothing but the separator. -/
theorem exists_eq_trimEnd_append (sep : Char) (text : List Char) :
    ∃ n, text = trimEnd (· = sep) text ++ List.replicate n sep := by
  induction text using List.reverseRecOn with
  | nil => exact ⟨0, rfl⟩
  | append_singleton front c ih =>
    rw [trimEnd_eq_rdropWhile, List.rdropWhile_concat, ← trimEnd_eq_rdropWhile]
    by_cases hc : c = sep
    · obtain ⟨n, hfront⟩ := ih
      refine ⟨n + 1, ?_⟩
      rw [if_pos (by simpa using hc), List.replicate_succ', ← List.append_assoc, ← hfront, hc]
    · exact ⟨0, by simp [hc]⟩

/-- A text that ends with a separator is its trimmed front and a row of separators. -/
theorem exists_eq_trimEnd_append_of_getLast? {sep : Char} {text : List Char} (hlast : text.getLast? = some sep) :
    ∃ n, text = trimEnd (· = sep) text ++ List.replicate (n + 1) sep := by
  obtain ⟨front, rfl⟩ := List.getLast?_eq_some_iff.1 hlast
  obtain ⟨n, hfront⟩ := exists_eq_trimEnd_append sep front
  refine ⟨n, ?_⟩
  rw [trimEnd_eq_rdropWhile, List.rdropWhile_concat_pos _ _ _ (by simp), ← trimEnd_eq_rdropWhile,
    List.replicate_succ', ← List.append_assoc, ← hfront]

end Text

end SignIn
