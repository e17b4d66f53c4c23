import Mathlib.Data.List.Forall2
import SignIn.Proofs.Text
import SignIn.Text.Quoted

namespace SignIn.Text

open Unicode (hexNumber)

private theorem hexNumber_digitChar : ∀ d < 16, hexNumber [d.digitChar] = d := by
  decide

private theorem hexNumber_concat (digits : List Char) (c : Char) :
    hexNumber (digits ++ [c]) = 16 * hexNumber digits + hexNumber [c] := by
  simp [hexNumber]

private theorem hexNumber_hexDigits (n : Nat) : hexNumber (hexDigits n) = n := by
  unfold hexDigits
  induction n using Nat.strongRecOn with
  | ind n ih =>
    rw [Nat.toDigits_eq_if (by omega)]
    split_ifs with hn
    · exact hexNumber_digitChar n hn
    · rw [hexNumber_concat, ih (n / 16) (by omega), hexNumber_digitChar (n % 16) (n.mod_lt (by omega))]
      exact n.div_add_mod 16

private theorem brace_notMem_hexDigits (n : Nat) : '\x7d' ∉ hexDigits n := by
  unfold hexDigits
  induction n using Nat.strongRecOn with
  | ind n ih =>
    have hbrace : ∀ d : Nat, '\x7d' ≠ d.digitChar := fun d => (Nat.digitChar_ne '\x7d' (by decide)).symm
    rw [Nat.toDigits_eq_if (by omega)]
    split_ifs with hn
    · simp [hbrace]
    · simpa [hbrace] using ih (n / 16) (by omega)

/-- Two texts can be told apart at a character that neither of them holds. -/
theorem append_cons_inj_of_notMem {c : Char} {s t rest rest' : List Char} (hs : c ∉ s) (ht : c ∉ t)
    (h : s ++ c :: rest = t ++ c :: rest') : s = t ∧ rest = rest' := by
  have hsplit := congrArg (splitFirst c) h
  rw [splitFirst_append_sep hs, splitFirst_append_sep ht, Prod.mk.injEq, Option.some_inj] at hsplit
  exact hsplit

/-- The characters with an escape of their own, and the letters of these. -/
def escapes : List (Char × Char) :=
  [('\x00', '0'), ('\t', 't'), ('\r', 'r'), ('\n', 'n'), ('\\', '\\'), ('"', '"')]

private theorem quoteChar_cases (c : Char) :
    (∃ letter, (c, letter) ∈ escapes ∧ quoteChar c = ['\\', letter]) ∨
      (c ≠ '\\' ∧ c ≠ '"' ∧ quoteChar c = [c]) ∨
      quoteChar c = ['\\', 'u', '\x7b'] ++ hexDigits c.toNat ++ ['\x7d'] := by
  unfold quoteChar
  split_ifs with hzero htab hreturn hline hslash hquote hprintable
  · exact .inl ⟨'0', by simp [hzero, escapes], rfl⟩
  · exact .inl ⟨'t', by simp [htab, escapes], rfl⟩
  · exact .inl ⟨'r', by simp [hreturn, escapes], rfl⟩
  · exact .inl ⟨'n', by simp [hline, escapes], rfl⟩
  · exact .inl ⟨'\\', by simp [hslash, escapes], rfl⟩
  · exact .inl ⟨'"', by simp [hquote, escapes], rfl⟩
  · exact .inr (.inl ⟨hslash, hquote, rfl⟩)
  · exact .inr (.inr rfl)

/-- A quoted character ends where it ends, whatever comes behind. -/
theorem quoteChar_append_inj {c d : Char} {rest rest' : List Char}
    (h : quoteChar c ++ rest = quoteChar d ++ rest') : c = d ∧ rest = rest' := by
  have hletters : ∀ e ∈ escapes, ∀ f ∈ escapes, e.2 = f.2 → e.1 = f.1 := by decide
  have hletter : ∀ e ∈ escapes, e.2 ≠ 'u' := by decide
  rcases quoteChar_cases c with ⟨letter, hc, hquote⟩ | ⟨hslash, -, hquote⟩ | hquote
  · rcases quoteChar_cases d with ⟨letter', hd, hquote'⟩ | ⟨hslash, -, hquote'⟩ | hquote' <;>
      rw [hquote, hquote'] at h
    · obtain ⟨hsame, hrest⟩ := List.cons.inj (List.cons.inj h).2
      exact ⟨hletters _ hc _ hd hsame, hrest⟩
    · exact absurd (List.cons.inj h).1.symm hslash
    · exact absurd (List.cons.inj (List.cons.inj h).2).1 (hletter _ hc)
  · rcases quoteChar_cases d with ⟨letter, -, hquote'⟩ | ⟨-, -, hquote'⟩ | hquote' <;>
      rw [hquote, hquote'] at h
    · exact absurd (List.cons.inj h).1 hslash
    · exact List.cons.inj h
    · exact absurd (List.cons.inj h).1 hslash
  · rcases quoteChar_cases d with ⟨letter, hd, hquote'⟩ | ⟨hslash, -, hquote'⟩ | hquote' <;>
      rw [hquote, hquote'] at h
    · exact absurd (List.cons.inj (List.cons.inj h).2).1.symm (hletter _ hd)
    · exact absurd (List.cons.inj h).1.symm hslash
    · -- Both are given by their code points, and these end at the brace.
      rw [List.append_assoc, List.append_assoc, List.append_assoc, List.append_assoc] at h
      obtain ⟨hdigits, hrest⟩ := append_cons_inj_of_notMem (brace_notMem_hexDigits _)
        (brace_notMem_hexDigits _) (List.append_cancel_left h)
      have hnumber := congrArg hexNumber hdigits
      rw [hexNumber_hexDigits, hexNumber_hexDigits] at hnumber
      exact ⟨Char.ext (UInt32.toNat_inj.1 hnumber), hrest⟩

private theorem quoteChar_append_ne (c : Char) (rest rest' : List Char) :
    quoteChar c ++ rest ≠ '"' :: rest' := by
  rcases quoteChar_cases c with ⟨l, -, hquote⟩ | ⟨-, hne, hquote⟩ | hquote <;> rw [hquote]
  · exact fun h => absurd (List.cons.inj h).1 (by decide)
  · exact fun h => hne (List.cons.inj h).1
  · exact fun h => absurd (List.cons.inj h).1 (by decide)

private theorem flatMap_quoteChar_append_inj {s t rest rest' : List Char}
    (h : s.flatMap quoteChar ++ '"' :: rest = t.flatMap quoteChar ++ '"' :: rest') :
    s = t ∧ rest = rest' := by
  induction s generalizing t with
  | nil =>
    cases t with
    | nil => exact ⟨rfl, (List.cons.inj h).2⟩
    | cons d t =>
      rw [List.flatMap_cons, List.append_assoc] at h
      exact absurd h.symm (quoteChar_append_ne d _ _)
  | cons c s ih =>
    cases t with
    | nil =>
      rw [List.flatMap_cons, List.append_assoc] at h
      exact absurd h (quoteChar_append_ne c _ _)
    | cons d t =>
      rw [List.flatMap_cons, List.flatMap_cons, List.append_assoc, List.append_assoc] at h
      obtain ⟨rfl, hbehind⟩ := quoteChar_append_inj h
      obtain ⟨rfl, hrest⟩ := ih hbehind
      exact ⟨rfl, hrest⟩

/-- A text that goes on with no digit, so that a number before it has come to its end. -/
def EndsNumber (rest : List Char) : Prop :=
  rest.head?.all (!·.isDigit)

private theorem EndsNumber.append {front rest : List Char} (hfront : EndsNumber front)
    (hrest : EndsNumber rest) :
    EndsNumber (front ++ rest) := by
  cases front with
  | nil => exact hrest
  | cons c front => exact hfront

/-- Two texts that differ before either of them ends, if they differ at all. -/
def Separable (s t : String) : Prop :=
  ∀ rest rest' : List Char, EndsNumber rest → EndsNumber rest' →
    s.toList ++ rest = t.toList ++ rest' → s = t

private theorem Separable.append_inj {s t : String} (hst : Separable s t) {rest rest' : List Char}
    (hrest : EndsNumber rest) (hrest' : EndsNumber rest') (h : s.toList ++ rest = t.toList ++ rest') :
    s = t ∧ rest = rest' := by
  have hsame := hst rest rest' hrest hrest' h
  subst hsame
  exact ⟨rfl, List.append_cancel_left h⟩

/-- A text does not differ from itself. -/
theorem separable_refl (s : String) : Separable s s :=
  fun _ _ _ _ _ => rfl

private theorem Separable.prepend {s t : String} (hst : Separable s t) (front : String) :
    Separable (front ++ s) (front ++ t) := by
  intro rest rest' hrest hrest' h
  simp only [String.toList_append, List.append_assoc, List.append_cancel_left_eq] at h
  rw [hst rest rest' hrest hrest' h]

private theorem Separable.append {s t : String} (hst : Separable s t) {back : String}
    (hback : EndsNumber back.toList) : Separable (s ++ back) (t ++ back) := by
  intro rest rest' hrest hrest' h
  rw [String.toList_append, String.toList_append, List.append_assoc, List.append_assoc] at h
  rw [hst _ _ (hback.append hrest) (hback.append hrest') h]

/-- A quoted text tells the text. -/
theorem quote_inj {s t : String} : quote s = quote t ↔ s = t := by
  refine ⟨fun h => ?_, congrArg quote⟩
  have hlists := String.ofList_injective h
  exact String.toList_injective (flatMap_quoteChar_append_inj (List.cons.inj hlists).2).1

/-- A closing quote shows where a quoted text ends. -/
theorem separable_quote (s t : String) : Separable (quote s) (quote t) := by
  intro rest rest' _ _ h
  simp only [quote, String.toList_ofList, List.cons_append, List.append_assoc, List.nil_append,
    List.cons.injEq, true_and] at h
  rw [String.toList_injective (flatMap_quoteChar_append_inj h).1]

private theorem isDigit_of_mem_number {n : Nat} {c : Char} (hc : c ∈ (toString n).toList) :
    c.isDigit = true := by
  rw [Nat.toString_eq_repr, Nat.toList_repr] at hc
  exact Nat.isDigit_of_mem_toDigits (by omega) (by omega) hc

/-- A number ends where its digits end. -/
theorem separable_number (m n : Nat) : Separable (toString m) (toString n) := by
  intro rest rest' hrest hrest' h
  have htake : ∀ (k : Nat) {rest : List Char}, EndsNumber rest →
      ((toString k).toList ++ rest).takeWhile Char.isDigit = (toString k).toList := by
    intro k rest hrest
    rw [List.takeWhile_append_of_pos fun c hc => isDigit_of_mem_number hc]
    cases rest with
    | nil => simp
    | cons c rest =>
      have hc : c.isDigit = false := by simpa [EndsNumber] using hrest
      simp [hc]
  have hsame := congrArg (List.takeWhile Char.isDigit) h
  rw [htake m hrest, htake n hrest'] at hsame
  exact String.toList_injective hsame

/-- Digits tell the number. -/
theorem number_inj {m n : Nat} : toString m = toString n ↔ m = n := by
  refine ⟨fun h => ?_, congrArg toString⟩
  have hdigits := congrArg String.toList h
  rw [Nat.toString_eq_repr, Nat.toString_eq_repr, Nat.toList_repr, Nat.toList_repr] at hdigits
  have hvalue := congrArg (Nat.ofDigitChars 10 · 0) hdigits
  simpa using hvalue

private theorem join_cons_append (s : String) (parts : List String) (rest : List Char) :
    (String.join (s :: parts)).toList ++ rest = s.toList ++ ((String.join parts).toList ++ rest) := by
  simp [String.toList_join]

private theorem intercalate_cons (separator s : String) (parts : List String) :
    separator.intercalate (s :: parts) = s ++ String.join (parts.map (separator ++ ·)) := by
  induction parts generalizing s with
  | nil => simp
  | cons t parts ih =>
    rw [String.intercalate_cons_cons, ih, List.map_cons, String.join_cons, String.append_assoc,
      String.append_assoc]

private theorem endsNumber_join {parts : List String} (hparts : ∀ s ∈ parts, EndsNumber s.toList)
    {rest : List Char} (hrest : EndsNumber rest) : EndsNumber ((String.join parts).toList ++ rest) := by
  induction parts with
  | nil => exact hrest
  | cons s parts ih =>
    rw [List.forall_mem_cons] at hparts
    rw [join_cons_append]
    exact hparts.1.append (ih hparts.2)

/-- The fields of two records of one kind: the names are the same, and the values can be told apart. -/
def SameFields (fields fields' : List (String × String)) : Prop :=
  List.Forall₂ (fun f f' => f.1 = f'.1 ∧ EndsNumber f.1.toList ∧ Separable f.2 f'.2) fields fields'

/-- One more field of the same name in front of such fields. -/
theorem SameFields.cons {name value value' : String} {fields fields' : List (String × String)}
    (hname : EndsNumber name.toList) (hvalue : Separable value value') (hmore : SameFields fields fields') :
    SameFields ((name, value) :: fields) ((name, value') :: fields') :=
  List.Forall₂.cons ⟨rfl, hname, hvalue⟩ hmore

/-- A field as it stands in a record, with what separates it from the others. -/
def fieldText (before after : String) (f : String × String) : String :=
  before ++ f.1 ++ ": " ++ f.2 ++ after

private theorem endsNumber_fieldText {before after : String} (hbefore : EndsNumber before.toList)
    {f : String × String} (hname : EndsNumber f.1.toList) :
    EndsNumber (fieldText before after f).toList := by
  have hcolon : EndsNumber (": ".toList ++ (f.2.toList ++ after.toList)) := rfl
  simpa [fieldText] using hbefore.append (hname.append hcolon)

private theorem endsNumber_fieldTexts {before : String} (after : String) (hbefore : EndsNumber before.toList)
    {fields : List (String × String)} (hnames : ∀ f ∈ fields, EndsNumber f.1.toList) {rest : List Char}
    (hrest : EndsNumber rest) :
    EndsNumber ((String.join (fields.map (fieldText before after))).toList ++ rest) := by
  refine endsNumber_join (fun s hs => ?_) hrest
  obtain ⟨f, hf, rfl⟩ := List.mem_map.1 hs
  exact endsNumber_fieldText hbefore (hnames f hf)

private theorem SameFields.names {fields fields' : List (String × String)}
    (hsame : SameFields fields fields') :
    (∀ f ∈ fields, EndsNumber f.1.toList) ∧ ∀ f ∈ fields', EndsNumber f.1.toList := by
  induction hsame with
  | nil => exact ⟨fun _ hf => (List.not_mem_nil hf).elim, fun _ hf => (List.not_mem_nil hf).elim⟩
  | cons hfield _ ih =>
    rw [List.forall_mem_cons, List.forall_mem_cons]
    exact ⟨⟨hfield.2.1, ih.1⟩, ⟨hfield.1 ▸ hfield.2.1, ih.2⟩⟩

/-- Fields in a row can be told apart one after the other. -/
theorem SameFields.append_inj {fields fields' : List (String × String)} (hsame : SameFields fields fields')
    (before after : String) (hbefore : EndsNumber before.toList) (hafter : EndsNumber after.toList)
    {rest rest' : List Char} (hrest : EndsNumber rest) (hrest' : EndsNumber rest')
    (h : (String.join (fields.map (fieldText before after))).toList ++ rest =
      (String.join (fields'.map (fieldText before after))).toList ++ rest') :
    fields = fields' ∧ rest = rest' := by
  induction hsame with
  | nil => exact ⟨rfl, h⟩
  | @cons f f' fields fields' hfield hmore ih =>
    obtain ⟨name, value⟩ := f
    obtain ⟨_, value'⟩ := f'
    obtain ⟨rfl, -, hvalue⟩ := hfield
    obtain ⟨hnames, hnames'⟩ := SameFields.names hmore
    rw [List.map_cons, List.map_cons, join_cons_append, join_cons_append] at h
    have hpart : Separable (fieldText before after (name, value)) (fieldText before after (name, value')) :=
      (hvalue.prepend _).append hafter
    obtain ⟨hsame, hbehind⟩ := hpart.append_inj (endsNumber_fieldTexts after hbefore hnames hrest)
      (endsNumber_fieldTexts after hbefore hnames' hrest') h
    obtain ⟨rfl, hrest⟩ := ih hbehind
    simp only [fieldText, String.append_right_inj, String.append_left_inj] at hsame
    exact ⟨by rw [hsame], hrest⟩

private theorem showRecord_cons (name : String) (f : String × String) (fields : List (String × String)) :
    showRecord name (f :: fields) =
      name ++ " \x7b " ++ f.1 ++ ": " ++ (f.2 ++ String.join (fields.map (fieldText ", " "")) ++ " \x7d") := by
  have hparts : (fields.map fun f => f.1 ++ ": " ++ f.2).map (", " ++ ·) = fields.map (fieldText ", " "") := by
    simp [fieldText, String.append_assoc]
  rw [showRecord, List.map_cons, intercalate_cons, hparts]
  simp only [String.append_assoc]

private theorem SameFields.showRecord_append_inj {fields fields' : List (String × String)}
    (hsame : SameFields fields fields') (name : String) {rest rest' : List Char}
    (h : (showRecord name fields).toList ++ rest = (showRecord name fields').toList ++ rest') :
    fields = fields' := by
  cases hsame with
  | nil => rfl
  | @cons f f' fields fields' hfield hmore =>
    obtain ⟨first, value⟩ := f
    obtain ⟨_, value'⟩ := f'
    obtain ⟨rfl, -, hvalue⟩ := hfield
    obtain ⟨hnames, hnames'⟩ := SameFields.names hmore
    have hcomma : EndsNumber ", ".toList := rfl
    have hclose : ∀ {rest : List Char}, EndsNumber (" \x7d".toList ++ rest) := rfl
    simp only [showRecord_cons, String.toList_append, List.append_assoc, List.append_cancel_left_eq] at h
    obtain ⟨rfl, hbehind⟩ := hvalue.append_inj (endsNumber_fieldTexts "" hcomma hnames hclose)
      (endsNumber_fieldTexts "" hcomma hnames' hclose) h
    obtain ⟨rfl, -⟩ := SameFields.append_inj hmore ", " "" hcomma rfl hclose hclose hbehind
    rfl

/-- A closing brace shows where a record ends. -/
theorem SameFields.separable_showRecord {fields fields' : List (String × String)}
    (hsame : SameFields fields fields') (name : String) :
    Separable (showRecord name fields) (showRecord name fields') := by
  intro rest rest' _ _ h
  rw [hsame.showRecord_append_inj name h]

/-- Records of the same names are shown alike only with the same values. -/
theorem SameFields.showRecord_inj {fields fields' : List (String × String)}
    (hsame : SameFields fields fields') {name : String} :
    showRecord name fields = showRecord name fields' ↔ fields = fields' := by
  refine ⟨fun h => ?_, congrArg _⟩
  exact hsame.showRecord_append_inj name (congrArg (fun text => text.toList ++ []) h)

/-- Records that show only some of their fields tell those that they show. -/
theorem SameFields.showPartialRecord_inj {fields fields' : List (String × String)}
    (hsame : SameFields fields fields') {name : String} :
    showPartialRecord name fields = showPartialRecord name fields' ↔ fields = fields' := by
  refine ⟨fun h => ?_, congrArg _⟩
  have hparts : ∀ fields : List (String × String), (fields.map fun f => f.1 ++ ": " ++ f.2 ++ ", ") =
      fields.map (fieldText "" ", ") := by simp [fieldText]
  have hlists := congrArg String.toList h
  simp only [showPartialRecord, hparts, String.toList_append, List.append_assoc,
    List.append_cancel_left_eq] at hlists
  have hclose : EndsNumber ".. \x7d".toList := rfl
  exact (hsame.append_inj "" ", " rfl rfl hclose hclose hlists).1

/-- The name of a record without spaces can be read off it. -/
theorem name_eq_of_showPartialRecord_eq {name name' : String} {fields fields' : List (String × String)}
    (hname : ' ' ∉ name.toList) (hname' : ' ' ∉ name'.toList)
    (h : showPartialRecord name fields = showPartialRecord name' fields') : name = name' := by
  have hlists := congrArg String.toList h
  simp only [showPartialRecord, String.toList_append, List.append_assoc] at hlists
  exact String.toList_injective (append_cons_inj_of_notMem hname hname' hlists).1

/-- A wrapped value tells its wrapper and the value. -/
theorem showWrapped_inj {name name' value value' : String} (hname : '(' ∉ name.toList)
    (hname' : '(' ∉ name'.toList) :
    showWrapped name value = showWrapped name' value' ↔ name = name' ∧ value = value' := by
  refine ⟨fun h => ?_, fun h => by rw [h.1, h.2]⟩
  have hlists := congrArg String.toList h
  simp only [showWrapped, String.toList_append, List.append_assoc] at hlists
  obtain ⟨hnames, hvalues⟩ := append_cons_inj_of_notMem hname hname' hlists
  exact ⟨String.toList_injective hnames, String.toList_injective (List.append_cancel_right hvalues)⟩

/-- A closing bracket shows where a wrapped value ends. -/
theorem Separable.showWrapped {value value' : String} (hvalue : Separable value value') (name : String) :
    Separable (showWrapped name value) (showWrapped name value') :=
  (hvalue.prepend _).append rfl

/-- A value that may be absent can be told from the text behind it if the value can. -/
theorem separable_showOption {α : Type} {render : α → String}
    (hrender : ∀ a b, Separable (render a) (render b)) (a b : Option α) :
    Separable (showOption render a) (showOption render b) := by
  cases a with
  | none =>
    cases b with
    | none => exact separable_refl _
    | some b => exact fun _ _ _ _ h => by simp [showOption] at h
  | some a =>
    cases b with
    | none => exact fun _ _ _ _ h => by simp [showOption] at h
    | some b => exact ((hrender a b).prepend _).append rfl

/-- A value that may be absent is told if the value is. -/
theorem showOption_inj {α : Type} {render : α → String} (hrender : ∀ a b, render a = render b ↔ a = b)
    {a b : Option α} : showOption render a = showOption render b ↔ a = b := by
  rw [← Option.map_inj_right fun a b => (hrender a b).1]
  cases a <;> cases b <;> simp [showOption, ← String.toList_inj]

private theorem endsNumber_moreNumbers (numbers : List Nat) (rest : List Char) :
    EndsNumber ((String.join (numbers.map (", " ++ toString ·))).toList ++ ']' :: rest) := by
  refine endsNumber_join (fun s hs => ?_) rfl
  obtain ⟨n, -, rfl⟩ := List.mem_map.1 hs
  rw [String.toList_append]
  rfl

/-- Numbers behind a first one, up to the bracket that closes the list. -/
theorem moreNumbers_append_inj {numbers numbers' : List Nat} {rest rest' : List Char}
    (h : (String.join (numbers.map (", " ++ toString ·))).toList ++ ']' :: rest =
      (String.join (numbers'.map (", " ++ toString ·))).toList ++ ']' :: rest') :
    numbers = numbers' ∧ rest = rest' := by
  induction numbers generalizing numbers' with
  | nil =>
    cases numbers' with
    | nil => exact ⟨rfl, (List.cons.inj h).2⟩
    | cons n numbers' => simp at h
  | cons m numbers ih =>
    cases numbers' with
    | nil => simp at h
    | cons n numbers' =>
      rw [List.map_cons, List.map_cons, join_cons_append, join_cons_append] at h
      obtain ⟨hsame, hbehind⟩ := ((separable_number m n).prepend ", ").append_inj (endsNumber_moreNumbers numbers rest)
        (endsNumber_moreNumbers numbers' rest') h
      obtain ⟨rfl, hrest⟩ := ih hbehind
      rw [String.append_right_inj, number_inj] at hsame
      exact ⟨by rw [hsame], hrest⟩

private theorem number_append_ne_bracket (n : Nat) (rest rest' : List Char) :
    (toString n).toList ++ rest ≠ ']' :: rest' := by
  intro h
  cases hdigits : (toString n).toList with
  | nil => exact Nat.repr_ne_empty (String.toList_injective hdigits)
  | cons c digits =>
    have hc : c.isDigit = true := isDigit_of_mem_number (hdigits ▸ List.mem_cons_self ..)
    rw [hdigits, List.cons_append, List.cons.injEq] at h
    rw [h.1] at hc
    exact absurd hc (by decide)

private theorem showNumbers_append_inj {numbers numbers' : List Nat} {rest rest' : List Char}
    (h : (showNumbers numbers).toList ++ rest = (showNumbers numbers').toList ++ rest') :
    numbers = numbers' := by
  have hcons : ∀ (n : Nat) (more : List Nat) (rest : List Char),
      (showNumbers (n :: more)).toList ++ rest =
        '[' :: ((toString n).toList ++ ((String.join (more.map (", " ++ toString ·))).toList ++ ']' :: rest)) := by
    intro n more rest
    rw [showNumbers, List.map_cons, intercalate_cons, List.map_map]
    simp only [String.toList_append, List.append_assoc]
    rfl
  cases numbers with
  | nil =>
    cases numbers' with
    | nil => rfl
    | cons n more =>
      rw [hcons] at h
      exact absurd (List.cons.inj h).2.symm (number_append_ne_bracket n _ _)
  | cons m more =>
    cases numbers' with
    | nil =>
      rw [hcons] at h
      exact absurd (List.cons.inj h).2 (number_append_ne_bracket m _ _)
    | cons n more' =>
      rw [hcons, hcons] at h
      obtain ⟨hsame, hbehind⟩ := (separable_number m n).append_inj (endsNumber_moreNumbers more _)
        (endsNumber_moreNumbers more' _) (List.cons.inj h).2
      rw [number_inj.1 hsame, (moreNumbers_append_inj hbehind).1]

/-- A closing bracket shows where a list of numbers ends. -/
theorem separable_numbers (numbers numbers' : List Nat) :
    Separable (showNumbers numbers) (showNumbers numbers') := by
  intro rest rest' _ _ h
  rw [showNumbers_append_inj h]

/-- A list of numbers tells the numbers. -/
theorem showNumbers_inj {numbers numbers' : List Nat} :
    showNumbers numbers = showNumbers numbers' ↔ numbers = numbers' := by
  refine ⟨fun h => ?_, congrArg _⟩
  exact showNumbers_append_inj (congrArg (fun text => text.toList ++ []) h)

end SignIn.Text
