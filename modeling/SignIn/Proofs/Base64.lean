import Mathlib.Tactic.Common
import SignIn.Base64
import SignIn.Proofs.Except
import SignIn.Proofs.Text

namespace SignIn.Base64

/-- The byte of a symbol. Every symbol is a single byte of text. -/
def Alphabet.symbolByte (a : Alphabet) (value : Nat) : UInt8 :=
  UInt8.ofNat (a.symbol value).toNat

private theorem Alphabet.value?_symbolByte (a : Alphabet) : ∀ v < 64, a.value? (a.symbolByte v) = some v := by
  cases a <;> decide

private theorem Alphabet.utf8EncodeChar_symbol (a : Alphabet) :
    ∀ v < 64, String.utf8EncodeChar (a.symbol v) = [a.symbolByte v] := by
  cases a <;> decide

private theorem Alphabet.isBlank_symbol (a : Alphabet) : ∀ v < 64, Text.isBlank (a.symbol v) = false := by
  cases a <;> decide

private theorem Alphabet.symbol_ne_dot (a : Alphabet) : ∀ v < 64, a.symbol v ≠ '.' := by
  cases a <;> decide

/-- A byte that is the symbol of a number is the byte of that number's symbol. -/
theorem Alphabet.eq_symbolByte (a : Alphabet) :
    ∀ n < 256, ∀ v, a.value? (UInt8.ofNat n) = some v → v < 64 ∧ UInt8.ofNat n = a.symbolByte v := by
  have hoption : ∀ n < 256, (a.value? (UInt8.ofNat n)).all
      fun v => decide (v < 64 ∧ UInt8.ofNat n = a.symbolByte v) := by
    cases a <;> decide +kernel
  intro n hn v hv
  simpa [hv] using hoption n hn

private theorem Alphabet.value?_eq_some_iff {a : Alphabet} {b : UInt8} {v : Nat} :
    a.value? b = some v ↔ v < 64 ∧ b = a.symbolByte v := by
  constructor
  · intro hvalue
    have h := a.eq_symbolByte b.toNat b.toNat_lt v
    rw [UInt8.ofNat_toNat] at h
    exact h hvalue
  · rintro ⟨hv, rfl⟩
    exact a.value?_symbolByte v hv

private theorem Alphabet.symbolByte_ne_padByte {a : Alphabet} {v : Nat} (hv : v < 64) :
    a.symbolByte v ≠ padByte := by
  intro hpad
  have hvalue := a.value?_symbolByte v hv
  rw [hpad] at hvalue
  cases a <;> cases hvalue

private theorem symbolValue_eq_ok_iff {a : Alphabet} {offset v : Nat} {b : UInt8} :
    symbolValue a offset b = .ok v ↔ v < 64 ∧ b = a.symbolByte v := by
  rw [← Alphabet.value?_eq_some_iff, symbolValue]
  cases a.value? b <;> simp

/-- The bytes of the symbols of some numbers. -/
def spell (a : Alphabet) (values : List Nat) : Bytes :=
  values.map a.symbolByte

/-- The bytes of padding. -/
def pads (n : Nat) : Bytes :=
  List.replicate n padByte

/-- A sextet is below 64. -/
theorem sextets_lt {bytes : Bytes} : ∀ v ∈ sextets bytes, v < 64 := by
  fun_induction sextets bytes with
  | case1 a b c rest ih =>
    have ha := a.toNat_lt
    have hb := b.toNat_lt
    have hc := c.toNat_lt
    simp only [List.mem_cons, forall_eq_or_imp]
    exact ⟨by omega, by omega, by omega, by omega, ih⟩
  | case2 a b =>
    have ha := a.toNat_lt
    have hb := b.toNat_lt
    simp only [List.mem_cons, List.not_mem_nil, or_false, forall_eq_or_imp, forall_eq]
    exact ⟨by omega, by omega, by omega⟩
  | case3 a =>
    have ha := a.toNat_lt
    simp only [List.mem_cons, List.not_mem_nil, or_false, forall_eq_or_imp, forall_eq]
    exact ⟨by omega, by omega⟩
  | case4 => simp

private theorem length_sextets (bytes : Bytes) : (sextets bytes).length = (4 * bytes.length + 2) / 3 := by
  fun_induction sextets bytes with
  | case1 a b c rest ih =>
    simp only [List.length_cons, ih]
    omega
  | case2 | case3 | case4 => simp

/-- The first number tells of nothing but the first byte. -/
theorem exists_sextets_cons (b : UInt8) (rest : Bytes) : ∃ more, sextets (b :: rest) = b.toNat / 4 :: more := by
  match rest with
  | [] => exact ⟨_, rfl⟩
  | [c] => exact ⟨_, rfl⟩
  | c :: d :: rest => exact ⟨_, rfl⟩

/-- Bytes that are zero give sextets that are zero. -/
theorem sextets_eq_zero {bytes : Bytes} (hzero : ∀ b ∈ bytes, b = 0) : ∀ v ∈ sextets bytes, v = 0 := by
  fun_induction sextets bytes with
  | case1 a b c rest ih =>
    simp only [List.mem_cons, forall_eq_or_imp] at hzero ⊢
    obtain ⟨rfl, rfl, rfl, hrest⟩ := hzero
    exact ⟨rfl, rfl, rfl, rfl, ih hrest⟩
  | case2 a b =>
    simp only [List.mem_cons, List.not_mem_nil, or_false, forall_eq_or_imp, forall_eq] at hzero ⊢
    obtain ⟨rfl, rfl⟩ := hzero
    exact ⟨rfl, rfl, rfl⟩
  | case3 a =>
    simp only [List.mem_cons, List.not_mem_nil, or_false, forall_eq_or_imp, forall_eq] at hzero ⊢
    obtain rfl := hzero
    exact ⟨rfl, rfl⟩
  | case4 => simp

private theorem sextets_eq_nil_iff {bytes : Bytes} : sextets bytes = [] ↔ bytes = [] := by
  rw [← List.length_eq_zero_iff, length_sextets, ← List.length_eq_zero_iff]
  omega

/-- Four numbers below 64 are the numbers of the three bytes that they give. -/
theorem sextets_groupBytes_append {p q r s : Nat} (hp : p < 64) (hq : q < 64) (hr : r < 64) (hs : s < 64)
    (rest : Bytes) : sextets (groupBytes [p, q, r, s] ++ rest) = p :: q :: r :: s :: sextets rest := by
  simp only [groupBytes, List.cons_append, List.nil_append, sextets, UInt8.toNat_ofNat', List.cons.injEq,
    and_true]
  omega

/-- The last numbers are those of the bytes that they give if no bit of them is left over. -/
theorem sextets_groupBytes {values : List Nat} (hlt : ∀ v ∈ values, v < 64) (hleast : 2 ≤ values.length)
    (hmost : values.length ≤ 4) (hspare : spareBits values = 0) :
    sextets (groupBytes values) = values := by
  match values, hleast, hmost with
  | [p, q], _, _ =>
    simp only [spareBits] at hspare
    have hp := hlt p (by simp)
    have hq := hlt q (by simp)
    simp only [groupBytes, sextets, UInt8.toNat_ofNat', List.cons.injEq, and_true]
    omega
  | [p, q, r], _, _ =>
    simp only [spareBits] at hspare
    have hp := hlt p (by simp)
    have hq := hlt q (by simp)
    have hr := hlt r (by simp)
    simp only [groupBytes, sextets, UInt8.toNat_ofNat', List.cons.injEq, and_true]
    omega
  | [p, q, r, s], _, _ =>
    have hgroup := sextets_groupBytes_append (hlt p (by simp)) (hlt q (by simp)) (hlt r (by simp))
      (hlt s (by simp)) []
    simpa [sextets] using hgroup

/-- Three bytes come back from their four numbers. -/
theorem groupBytes_sextets (a b c : UInt8) :
    groupBytes [a.toNat / 4, a.toNat % 4 * 16 + b.toNat / 16, b.toNat % 16 * 4 + c.toNat / 64,
      c.toNat % 64] = [a, b, c] := by
  have ha := a.toNat_lt
  have hb := b.toNat_lt
  have hc := c.toNat_lt
  simp only [groupBytes, List.cons.injEq, ← UInt8.toNat_inj, UInt8.toNat_ofNat', and_true]
  omega

private theorem cons_eq_pads {b : UInt8} {rest : Bytes} {n : Nat} (htext : b :: rest = pads n) :
    b = padByte ∧ ∃ m, n = m + 1 ∧ rest = pads m := by
  cases n with
  | zero => cases htext
  | succ m =>
    obtain ⟨hb, hrest⟩ := List.cons.inj htext
    exact ⟨hb, m, rfl, hrest⟩

/-- The first byte of symbols and padding tells which of them it belongs to. -/
theorem cons_eq_spell_append_pads {a : Alphabet} {b : UInt8} {rest : Bytes} {more : List Nat} {n : Nat}
    (hmore : ∀ v ∈ more, v < 64) (htext : b :: rest = spell a more ++ pads n) :
    (b = padByte ∧ more = [] ∧ ∃ m, n = m + 1 ∧ rest = pads m) ∨
      (b ≠ padByte ∧ ∃ v more', more = v :: more' ∧ b = a.symbolByte v ∧ rest = spell a more' ++ pads n) := by
  cases more with
  | nil =>
    obtain ⟨hb, hrest⟩ := cons_eq_pads htext
    exact .inl ⟨hb, rfl, hrest⟩
  | cons v more =>
    obtain ⟨hb, hrest⟩ := List.cons.inj htext
    have hne : b ≠ padByte := by
      rw [hb]
      exact Alphabet.symbolByte_ne_padByte (hmore v List.mem_cons_self)
    exact .inr ⟨hne, v, more, rfl, hb, hrest⟩

/-- Once padding has begun only padding may follow. -/
theorem readLastGroup_padded_eq_ok_iff {a : Alphabet} {start position offset : Nat} {values : List Nat}
    {text : Bytes} {group : LastGroup} (hposition : 2 ≤ position) :
    readLastGroup a start position ⟨values, some offset⟩ text = .ok group ↔
      (∃ n, text = pads n) ∧ group = ⟨values, some offset⟩ := by
  induction text generalizing position with
  | nil =>
    simp only [readLastGroup, Except.ok.injEq]
    exact ⟨fun h => ⟨⟨0, rfl⟩, h.symm⟩, fun h => h.2.symm⟩
  | cons b rest ih =>
    rw [readLastGroup]
    by_cases hb : b = padByte
    · rw [if_pos hb, if_neg (by omega)]
      simp only [Option.getD_some]
      rw [ih (by omega), hb]
      refine and_congr_left fun _ => ⟨?_, ?_⟩
      · rintro ⟨n, rfl⟩
        exact ⟨n + 1, rfl⟩
      · rintro ⟨n, hn⟩
        obtain ⟨_, m, _, hrest⟩ := cons_eq_pads hn
        exact ⟨m, hrest⟩
    · rw [if_neg hb]
      refine iff_of_false (by simp) ?_
      rintro ⟨⟨n, hn⟩, _⟩
      exact hb (cons_eq_pads hn).1

/-- A last group is symbols and then padding, which may stand only behind the second symbol. -/
theorem readLastGroup_eq_ok_iff {a : Alphabet} {start position : Nat} {values : List Nat} {text : Bytes}
    {group : LastGroup} :
    readLastGroup a start position ⟨values, none⟩ text = .ok group ↔
      ∃ more n, text = spell a more ++ pads n ∧ (∀ v ∈ more, v < 64) ∧
        (n = 0 ∨ 2 ≤ position + more.length) ∧
        group = ⟨values ++ more, if n = 0 then none else some (start + position + more.length)⟩ := by
  -- What was read before stays in front in `values`, so the induction is on the rest of the text alone.
  induction text generalizing position values with
  | nil =>
    simp only [readLastGroup, Except.ok.injEq]
    constructor
    · intro hgroup
      exact ⟨[], 0, rfl, by simp, .inl rfl, by simp [hgroup]⟩
    · rintro ⟨more, n, htext, _, _, hgroup⟩
      obtain ⟨hmore, hn⟩ := List.append_eq_nil_iff.1 htext.symm
      obtain rfl : more = [] := List.map_eq_nil_iff.1 hmore
      obtain rfl : n = 0 := by simpa [pads] using hn
      simp [hgroup]
  | cons b rest ih =>
    rw [readLastGroup]
    by_cases hb : b = padByte
    · rw [if_pos hb]
      by_cases hposition : position < 2
      · rw [if_pos hposition]
        refine iff_of_false (by simp) ?_
        rintro ⟨more, n, htext, hmore, hn, _⟩
        rcases cons_eq_spell_append_pads hmore htext with ⟨_, rfl, m, rfl, _⟩ | ⟨hne, _⟩
        · simp only [List.length_nil] at hn
          omega
        · exact hne hb
      · rw [if_neg hposition]
        simp only [Option.getD_none]
        rw [readLastGroup_padded_eq_ok_iff (by omega)]
        constructor
        · rintro ⟨⟨n, hrest⟩, hgroup⟩
          refine ⟨[], n + 1, ?_, by simp, .inr (by simp; omega), by simp [hgroup]⟩
          rw [hb, hrest]
          rfl
        · rintro ⟨more, n, htext, hmore, _, hgroup⟩
          rcases cons_eq_spell_append_pads hmore htext with ⟨_, rfl, m, rfl, hrest⟩ | ⟨hne, _⟩
          · exact ⟨⟨m, hrest⟩, by simpa using hgroup⟩
          · exact absurd hb hne
    · rw [if_neg hb]
      simp only
      rw [bind_eq_ok_iff]
      constructor
      · rintro ⟨v, hv, hrest⟩
        rw [symbolValue_eq_ok_iff] at hv
        obtain ⟨hlt, rfl⟩ := hv
        obtain ⟨more, n, rfl, hmore, hn, rfl⟩ := ih.1 hrest
        refine ⟨v :: more, n, rfl, ?_, ?_, ?_⟩
        · simpa using ⟨hlt, hmore⟩
        · simp only [List.length_cons]
          omega
        · simp [Nat.add_assoc, Nat.add_comm 1]
      · rintro ⟨more, n, htext, hmore, hn, rfl⟩
        rcases cons_eq_spell_append_pads hmore htext with ⟨hpad, _⟩ | ⟨_, v, more, rfl, hv, hrest⟩
        · exact absurd hpad hb
        · refine ⟨v, symbolValue_eq_ok_iff.2 ⟨hmore v (by simp), hv⟩, ih.2 ⟨more, n, hrest, ?_, ?_, ?_⟩⟩
          · exact fun w hw => hmore w (List.mem_cons_of_mem v hw)
          · simp only [List.length_cons] at hn
            omega
          · simp [Nat.add_assoc, Nat.add_comm 1]

/-- How many bytes of padding may follow the spelling of so many bytes. -/
def Padding.room : Padding → (length : Nat) → Nat
  | .refused, _ => 0
  | .optional, length => (3 - length % 3) % 3

private theorem decodeLast_eq_ok_iff {a : Alphabet} {padding : Padding} {start : Nat} {text bytes : Bytes} :
    decodeLast a padding start text = .ok bytes ↔
      ∃ values n, text = spell a values ++ pads n ∧ (∀ v ∈ values, v < 64) ∧ 2 ≤ values.length ∧
        (padding = .refused → n = 0) ∧ spareBits values = 0 ∧ bytes = groupBytes values := by
  rw [decodeLast, bind_eq_ok_iff]
  simp only [ite_throw_eq_ok_iff]
  constructor
  · rintro ⟨group, hread, hlength, hpadding, hspare, hbytes⟩
    obtain ⟨values, n, htext, hvalues, -, rfl⟩ := readLastGroup_eq_ok_iff.1 hread
    simp only [List.nil_append] at hlength hspare hbytes
    refine ⟨values, n, htext, hvalues, by omega, fun hrefused => ?_, by omega, ?_⟩
    · by_contra hn
      exact hpadding ⟨hrefused, by simp [hn]⟩
    · cases hbytes
      rfl
  · rintro ⟨values, n, htext, hvalues, hlength, hpadding, hspare, rfl⟩
    refine ⟨_, readLastGroup_eq_ok_iff.2 ⟨values, n, htext, hvalues, .inr (by omega), rfl⟩, ?_⟩
    simp only [List.nil_append]
    refine ⟨by omega, ?_, by omega, rfl⟩
    rintro ⟨hrefused, hne⟩
    exact hne (if_pos (hpadding hrefused))

private theorem length_groupBytes {values : List Nat} (hleast : 2 ≤ values.length)
    (hmost : values.length ≤ 4) :
    (groupBytes values).length = values.length - 1 := by
  match values, hleast, hmost with
  | [_, _], _, _ => rfl
  | [_, _, _], _, _ => rfl
  | [_, _, _, _], _, _ => rfl

/-- A last group that is not empty spells the bytes whose numbers it holds, filled up with padding. -/
theorem decodeLast_eq_ok_iff_spell {a : Alphabet} {padding : Padding} {start : Nat} {text bytes : Bytes}
    (hne : text ≠ []) (hmost : text.length ≤ 4) :
    decodeLast a padding start text = .ok bytes ↔
      ∃ n, n ≤ padding.room bytes.length ∧ text = spell a (sextets bytes) ++ pads n := by
  rw [decodeLast_eq_ok_iff]
  constructor
  · rintro ⟨values, n, rfl, hvalues, hleast, hrefused, hspare, rfl⟩
    simp only [spell, pads, List.length_append, List.length_map, List.length_replicate] at hmost
    refine ⟨n, ?_, by rw [sextets_groupBytes hvalues hleast (by omega) hspare]⟩
    rw [length_groupBytes hleast (by omega)]
    cases padding with
    | refused => simp [hrefused rfl]
    | optional =>
      simp only [Padding.room]
      omega
  · rintro ⟨n, hroom, rfl⟩
    refine ⟨sextets bytes, n, rfl, sextets_lt, ?_⟩
    have hrefused : padding = .refused → n = 0 := by
      rintro rfl
      exact Nat.le_zero.1 hroom
    simp only [spell, pads, List.length_append, List.length_map, List.length_replicate] at hmost
    match bytes with
    | [] =>
      refine absurd ?_ hne
      cases padding <;> obtain rfl : n = 0 := Nat.le_zero.1 hroom <;> rfl
    | [a] =>
      have ha := a.toNat_lt
      refine ⟨by simp [sextets], hrefused, by simp [sextets, spareBits], ?_⟩
      simp only [sextets, groupBytes, List.cons.injEq, ← UInt8.toNat_inj, UInt8.toNat_ofNat', and_true]
      omega
    | [a, b] =>
      have ha := a.toNat_lt
      have hb := b.toNat_lt
      refine ⟨by simp [sextets], hrefused, by simp [sextets, spareBits], ?_⟩
      simp only [sextets, groupBytes, List.cons.injEq, ← UInt8.toNat_inj, UInt8.toNat_ofNat', and_true]
      omega
    | [a, b, c] =>
      exact ⟨by simp [sextets], hrefused, rfl, (groupBytes_sextets a b c).symm⟩
    | a :: b :: c :: d :: rest =>
      rw [length_sextets] at hmost
      simp only [List.length_cons] at hmost
      omega

private theorem room_add_three (padding : Padding) (length : Nat) :
    padding.room (length + 3) = padding.room length := by
  cases padding with
  | refused => rfl
  | optional => simp [Padding.room]

/-- A text is read as the bytes that it spells, group by group. -/
theorem decodeGroups_eq_ok_iff {a : Alphabet} {padding : Padding} {start : Nat} {text bytes : Bytes} :
    decodeGroups a padding start text = .ok bytes ↔
      ∃ n, n ≤ padding.room bytes.length ∧ text = spell a (sextets bytes) ++ pads n := by
  fun_induction decodeGroups a padding start text generalizing bytes with
  | case1 start b₀ b₁ b₂ b₃ b₄ rest ih =>
    simp only [bind_eq_ok_iff, symbolValue_eq_ok_iff, ih]
    constructor
    · rintro ⟨p, ⟨hp, rfl⟩, q, ⟨hq, rfl⟩, r, ⟨hr, rfl⟩, s, ⟨hs, rfl⟩, more, ⟨n, hroom, hrest⟩, hbytes⟩
      obtain rfl : groupBytes [p, q, r, s] ++ more = bytes := Except.ok.inj hbytes
      refine ⟨n, ?_, ?_⟩
      · rw [List.length_append, length_groupBytes (by simp) (by simp), Nat.add_comm]
        exact (room_add_three padding more.length).symm ▸ hroom
      · rw [sextets_groupBytes_append hp hq hr hs, hrest]
        rfl
    · rintro ⟨n, hroom, htext⟩
      have hlength := congrArg List.length htext
      match bytes with
      -- Five bytes of text are more than the spelling of two bytes and all padding that fits it.
      | [] | [_] | [_, _] =>
        exfalso
        cases padding <;>
          simp only [Padding.room, spell, pads, List.length_append, List.length_map, length_sextets,
            List.length_replicate, List.length_cons, List.length_nil] at hlength hroom <;> omega
      | x :: y :: z :: more =>
        have hlt := @sextets_lt (x :: y :: z :: more)
        simp only [sextets, List.mem_cons, forall_eq_or_imp] at hlt
        obtain ⟨hp, hq, hr, hs, -⟩ := hlt
        simp only [sextets, spell, List.map_cons, List.cons_append, List.cons.injEq] at htext
        obtain ⟨h₀, h₁, h₂, h₃, hrest⟩ := htext
        refine ⟨_, ⟨hp, h₀⟩, _, ⟨hq, h₁⟩, _, ⟨hr, h₂⟩, _, ⟨hs, h₃⟩, more, ⟨n, ?_, hrest⟩, ?_⟩
        · exact room_add_three padding more.length ▸ hroom
        · rw [groupBytes_sextets]
          rfl
  | case2 start =>
    constructor
    · intro hnil
      obtain rfl : [] = bytes := Except.ok.inj hnil
      exact ⟨0, Nat.zero_le _, rfl⟩
    · rintro ⟨n, -, htext⟩
      have hspell := (List.append_eq_nil_iff.1 htext.symm).1
      rw [sextets_eq_nil_iff.1 (List.map_eq_nil_iff.1 hspell)]
  | case3 start text hlong hempty =>
    refine decodeLast_eq_ok_iff_spell hempty ?_
    match text, hlong with
    | [], _ | [_], _ | [_, _], _ | [_, _, _], _ | [_, _, _, _], _ => simp
    | b₀ :: b₁ :: b₂ :: b₃ :: b₄ :: rest, hlong => exact absurd rfl (hlong b₀ b₁ b₂ b₃ b₄ rest)

/-- A spelling with padding holds no byte that is neither a symbol nor padding. -/
theorem strayLast?_eq_none {a : Alphabet} {values : List Nat} (hvalues : ∀ v ∈ values, v < 64) (n : Nat) :
    strayLast? a (spell a values ++ pads n) = none := by
  unfold strayLast?
  split
  · rw [Option.filter_eq_none_iff]
    intro b hb hstray
    simp only [decide_eq_true_eq] at hstray
    obtain ⟨hpad, hsymbol⟩ := hstray
    rcases List.mem_append.1 (List.mem_of_getLast? hb) with hb | hb
    · obtain ⟨v, hv, rfl⟩ := List.mem_map.1 hb
      rw [a.value?_symbolByte v (hvalues v hv)] at hsymbol
      cases hsymbol
    · exact hpad (List.eq_of_mem_replicate hb)
  · rfl

private theorem decodeBytes_eq_ok_iff {a : Alphabet} {padding : Padding} {text bytes : Bytes} :
    decodeBytes a padding text = .ok bytes ↔
      ∃ n, n ≤ padding.room bytes.length ∧ text = spell a (sextets bytes) ++ pads n := by
  unfold decodeBytes
  split
  · next b hstray =>
    refine iff_of_false (by simp) ?_
    rintro ⟨n, -, rfl⟩
    rw [strayLast?_eq_none sextets_lt] at hstray
    cases hstray
  · exact decodeGroups_eq_ok_iff

private theorem utf8_encode_symbols {a : Alphabet} {values : List Nat} (hvalues : ∀ v ∈ values, v < 64) :
    Utf8.encode (values.map a.symbol) = spell a values := by
  induction values with
  | nil => rfl
  | cons v more ih =>
    have hmore := ih fun w hw => hvalues w (List.mem_cons_of_mem v hw)
    rw [List.map_cons, ← List.singleton_append, Utf8.encode_append, hmore, Utf8.encode,
      List.flatMap_singleton, a.utf8EncodeChar_symbol v (hvalues v List.mem_cons_self)]
    rfl

private theorem utf8_encode_padding (n : Nat) : Utf8.encode (List.replicate n '=') = pads n := by
  induction n with
  | zero => rfl
  | succ n ih =>
    rw [List.replicate_succ, ← List.singleton_append, Utf8.encode_append, ih]
    rfl

/-- Reading is strict: a text stands for some bytes exactly if it is their spelling, with no more padding
than the reader allows. -/
theorem decode_eq_ok_iff {a : Alphabet} {padding : Padding} {text : List Char} {bytes : Bytes} :
    decode a padding text = .ok bytes ↔
      ∃ n, n ≤ padding.room bytes.length ∧ text = encode a bytes ++ List.replicate n '=' := by
  rw [decode, decodeBytes_eq_ok_iff]
  refine exists_congr fun n => and_congr_right fun _ => ?_
  rw [← utf8_encode_symbols sextets_lt, ← utf8_encode_padding, ← Utf8.encode_append, Utf8.encode_inj,
    encode]

/-- Without padding every byte string has one spelling and every text stands for one byte string at most. -/
theorem decode_refused_eq_ok_iff {a : Alphabet} {text : List Char} {bytes : Bytes} :
    decode a .refused text = .ok bytes ↔ text = encode a bytes := by
  rw [decode_eq_ok_iff]
  constructor
  · rintro ⟨n, hroom, rfl⟩
    obtain rfl : n = 0 := Nat.le_zero.1 hroom
    simp
  · rintro rfl
    exact ⟨0, Nat.zero_le _, by simp⟩

/-- A symbol stands for no other number in the other alphabet, if it stands for one there. -/
theorem Alphabet.value?_symbolByte_all (a a' : Alphabet) :
    ∀ v < 64, (a'.value? (a.symbolByte v)).all (fun w => decide (w = v)) = true := by
  cases a <;> cases a' <;> decide

private theorem Alphabet.eq_of_symbol_eq {a a' : Alphabet} {v w : Nat} (hv : v < 64) (hw : w < 64)
    (hsymbol : a.symbol v = a'.symbol w) : v = w := by
  have hvalue := a.value?_symbolByte_all a' v hv
  rw [symbolByte, hsymbol, ← symbolByte, a'.value?_symbolByte w hw] at hvalue
  exact (of_decide_eq_true hvalue).symm

/-- Symbols tell their values, even those of two alphabets that agree in them. -/
theorem eq_of_map_symbol_eq {a a' : Alphabet} {values more : List Nat} (hvalues : ∀ v ∈ values, v < 64)
    (hmore : ∀ v ∈ more, v < 64) (hsymbols : values.map a.symbol = more.map a'.symbol) : values = more := by
  induction values generalizing more with
  | nil => exact (List.map_eq_nil_iff.1 hsymbols.symm).symm
  | cons v values ih =>
    cases more with
    | nil => cases hsymbols
    | cons w more =>
      obtain ⟨hfirst, hrest⟩ := List.cons.inj hsymbols
      obtain rfl := Alphabet.eq_of_symbol_eq (hvalues v List.mem_cons_self) (hmore w List.mem_cons_self) hfirst
      rw [ih (fun u hu => hvalues u (List.mem_cons_of_mem v hu))
        (fun u hu => hmore u (List.mem_cons_of_mem v hu)) hrest]

/-- In one alphabet different bytes are spelled differently. -/
theorem encode_inj {a : Alphabet} {bytes other : Bytes} :
    encode a bytes = encode a other ↔ bytes = other := by
  constructor
  · intro hencode
    have hbytes : decode a .refused (encode a bytes) = .ok bytes := decode_refused_eq_ok_iff.2 rfl
    rw [decode_refused_eq_ok_iff.2 hencode, Except.ok.injEq] at hbytes
    exact hbytes.symm
  · exact congrArg _

/-- No text spells different bytes in the two alphabets. -/
theorem eq_of_encode_eq {a a' : Alphabet} {bytes other : Bytes} (hencode : encode a bytes = encode a' other) :
    bytes = other := by
  have hsextets : sextets bytes = sextets other := eq_of_map_symbol_eq sextets_lt sextets_lt hencode
  exact encode_inj.1 (congrArg (List.map a.symbol) hsextets)

/-- Only the empty byte string is spelled by the empty text. -/
theorem encode_eq_nil_iff {a : Alphabet} {bytes : Bytes} : encode a bytes = [] ↔ bytes = [] := by
  rw [encode, List.map_eq_nil_iff, sextets_eq_nil_iff]

/-- No symbol separates the parts of a text or is white space around it. -/
theorem mem_encode {a : Alphabet} {bytes : Bytes} {c : Char} (hc : c ∈ encode a bytes) :
    c ≠ '.' ∧ Text.isBlank c = false := by
  obtain ⟨v, hv, rfl⟩ := List.mem_map.1 hc
  have hlt := sextets_lt v hv
  exact ⟨a.symbol_ne_dot v hlt, a.isBlank_symbol v hlt⟩

/-- A character that is the symbol of no value stands in no spelling. -/
theorem notMem_encode {a : Alphabet} {bytes : Bytes} {c : Char} (hc : ∀ v < 64, a.symbol v ≠ c) :
    c ∉ encode a bytes := by
  intro hmem
  obtain ⟨v, hv, hsymbol⟩ := List.mem_map.1 hmem
  exact hc v (sextets_lt v hv) hsymbol

end SignIn.Base64
