import Mathlib.Data.List.Nodup
import SignIn.Json.Decoder
import SignIn.Proofs.Json.Strings
import SignIn.Proofs.TextMap

namespace SignIn.Json

variable {α β σ : Type} {s t rest : Bytes} {nesting depth : Nat}

private theorem Takes.map {read : Reader α} {a : α} (hread : Takes read s a rest) (f : α → β) :
    Takes (fun s => (read s).map (·.map f)) s (f a) rest :=
  hread.within (Nat.le_refl _) rfl

/-- A decoder reads a document as a value, whatever follows the document, where lists and objects may be nested as
deep as `nesting`. -/
def Reads (d : Decoder α) (nesting : Nat) (v : Value) (a : α) : Prop :=
  ∀ depth, nesting ≤ depth → ∀ rest, Takes (d depth) (Utf8.encode v.write ++ rest) a rest

/-- Texts are decoded to themselves. -/
theorem reads_text (b : String) : Reads text 0 (.string b) b := by
  intro depth _ rest
  rw [Value.write, encode_writeString]
  exact (takes_readStringTail b rest).within (f := id) (Nat.le_succ _) rfl

/-- A word is read letter by letter, so its reading is computed. -/
theorem takes_word {read : Reader α} {a : α} {word : Bytes} (hword : word ≠ [])
    (hread : ∀ h, read (word ++ rest) = .ok ⟨a, rest, h⟩) : Takes read (word ++ rest) a rest := by
  refine ⟨?_, hread _⟩
  rw [List.length_append]
  exact Nat.lt_add_of_pos_left (List.length_pos_iff.2 hword)

/-- Truth values are decoded to themselves. -/
theorem reads_flag (b : Bool) : Reads flag 0 (.boolean b) b := by
  intro depth _ rest
  cases b with
  | false => exact takes_word (by decide) fun _ => rfl
  | true => exact takes_word (by decide) fun _ => rfl

/-- A null is decoded to an absent value. -/
theorem reads_optional_none (d : Decoder α) : Reads (optional d) 0 .null none :=
  fun _ _ _ => takes_word (by decide) fun _ => rfl

/-- A text that may be absent is decoded to itself. -/
theorem reads_optional_text (b : String) : Reads (optional text) 0 (.string b) (some b) := by
  intro depth hdepth rest
  have hread := (reads_text b depth hdepth rest).map some
  -- A text begins with a quote, so it is not taken for the beginning of `null`.
  rw [Value.write, encode_writeString] at hread ⊢
  exact hread

/-- The text of a member. -/
def memberText (m : String × Value) : List Char :=
  writeString m.1 ++ ':' :: m.2.write

private theorem writeMembers_eq_map (members : List (String × Value)) :
    Value.writeMembers members = members.map memberText := by
  induction members with
  | nil => rfl
  | cons m members ih => rw [Value.writeMembers, ih, List.map_cons, memberText]

private theorem joinCommas_cons (text : List Char) (more : List (List Char)) :
    joinCommas (text :: more) = text ++ more.flatMap (',' :: ·) := by
  induction more generalizing text with
  | nil => exact (List.append_nil text).symm
  | cons next more ih =>
    change text ++ ',' :: joinCommas (next :: more) = _
    rw [ih, List.flatMap_cons, List.cons_append]

private theorem encode_memberText (key : String) (v : Value) (s : Bytes) :
    Utf8.encode (memberText (key, v)) ++ s =
      0x22 :: (Utf8.encode (key.toList.flatMap writeChar) ++ 0x22 :: 0x3a :: (Utf8.encode v.write ++ s)) := by
  rw [memberText, Utf8.encode_append, List.append_assoc, encode_writeString]
  rfl

private theorem encode_object (members : List (String × Value)) (rest : Bytes) :
    Utf8.encode (Value.object members).write ++ rest =
      0x7b :: (Utf8.encode (joinCommas (members.map memberText)) ++ 0x7d :: rest) := by
  have hopen : String.utf8EncodeChar '\x7b' = [0x7b] := by decide
  have hclose : String.utf8EncodeChar '\x7d' = [0x7d] := by decide
  rw [Value.write, writeMembers_eq_map, List.cons_append, Utf8.encode_cons, Utf8.encode_append, Utf8.encode_cons,
    hopen, hclose]
  simp

/-- Members that are read one after another, and what is gathered on the way. -/
inductive Gathers (member : σ → String → Reader σ) : σ → List (String × Value) → σ → Prop where
  | nil (gathered : σ) : Gathers member gathered [] gathered
  | cons {gathered next last : σ} {key : String} {v : Value} {members : List (String × Value)}
      (hmember : ∀ rest, Takes (member gathered key) (0x3a :: (Utf8.encode v.write ++ rest)) next rest)
      (hmembers : Gathers member next members last) : Gathers member gathered ((key, v) :: members) last

section Members

variable {member : σ → String → Reader σ} {gathered next last : σ}

private theorem takes_readMembers_end (first : Bool) (rest : Bytes) :
    Takes (readMembers member gathered first) (0x7d :: rest) gathered rest := by
  refine ⟨Nat.lt_succ_self _, ?_⟩
  rw [readMembers]
  rfl

private theorem takes_readMembers_member {first : Bool} {b : UInt8} {key : String} {keyText s₁ s₂ : Bytes}
    (hgap : skipGap (b :: t) = b :: t) (hend : b ≠ 0x7d) (hstart : ∃ h, nextKey first b t = .ok ⟨keyText, h⟩)
    (hkey : Takes readStringTail keyText key s₁) (hmember : Takes (member gathered key) s₁ next s₂)
    (hmembers : Takes (readMembers member next false) s₂ last rest) :
    Takes (readMembers member gathered first) (b :: t) last rest := by
  obtain ⟨h₀, hstart⟩ := hstart
  obtain ⟨h₁, hkey⟩ := hkey
  obtain ⟨h₂, hmember⟩ := hmember
  obtain ⟨h₃, hmembers⟩ := hmembers
  refine ⟨by rw [List.length_cons]; omega, ?_⟩
  rw [readMembers]
  split
  · next h => cases hgap.symm.trans h
  · next b' t' h =>
    obtain ⟨rfl, rfl⟩ := List.cons.inj (hgap.symm.trans h)
    rw [if_neg hend, hstart]
    change readStringTail keyText >>= _ = _
    rw [hkey]
    change member gathered key s₁ >>= _ = _
    rw [hmember]
    change readMembers member next false s₂ >>= _ = _
    rw [hmembers]
    rfl

/-- Behind a member, every further one has a comma before it. -/
theorem Gathers.takes_later {members : List (String × Value)} (h : Gathers member gathered members last)
    (rest : Bytes) : Takes (readMembers member gathered false)
      (Utf8.encode ((members.map memberText).flatMap (',' :: ·)) ++ 0x7d :: rest) last rest := by
  induction h with
  | nil => exact takes_readMembers_end false rest
  | @cons gathered next last key v members hmember _ ih =>
    rw [List.map_cons, List.flatMap_cons, Utf8.encode_append, List.append_assoc, Utf8.encode_cons,
      List.append_assoc, encode_memberText]
    exact takes_readMembers_member rfl (by decide) ⟨_, rfl⟩ (takes_readStringTail key _) (hmember _) ih

/-- What is written for members is read as one member after another. -/
theorem Gathers.takes {members : List (String × Value)} (h : Gathers member gathered members last) (rest : Bytes) :
    Takes (readMembers member gathered true) (Utf8.encode (joinCommas (members.map memberText)) ++ 0x7d :: rest)
      last rest := by
  cases h with
  | nil => exact takes_readMembers_end true rest
  | @cons _ next _ key v members hmember hmembers =>
    rw [List.map_cons, joinCommas_cons, Utf8.encode_append, List.append_assoc, encode_memberText]
    exact takes_readMembers_member rfl (by decide) ⟨_, rfl⟩ (takes_readStringTail key _) (hmember _)
      (hmembers.takes_later rest)

private theorem Gathers.foldl {ι : Type} {key : ι → String} {v : ι → Value} {step : σ → ι → σ}
    (hstep : ∀ gathered i rest,
      Takes (member gathered (key i)) (0x3a :: (Utf8.encode (v i).write ++ rest)) (step gathered i) rest)
    (items : List ι) (gathered : σ) :
    Gathers member gathered (items.map fun i => (key i, v i)) (items.foldl step gathered) := by
  induction items generalizing gathered with
  | nil => exact .nil gathered
  | cons i items ih => exact .cons (hstep gathered i) (ih (step gathered i))

end Members

private theorem takes_behind_colon {read : Reader α} {a : α} (hread : Takes read s a rest) (f : α → β) :
    Takes (fun s => do
      let ⟨_, s₁, h₁⟩ ← readColon s
      let r ← read s₁
      return (r.map f).behind h₁) (0x3a :: s) (f a) rest :=
  hread.within (Nat.le_succ _) rfl

private theorem takes_insideBraces {expected : String} {body : Decoder α} {a : α}
    (hread : Takes (body depth) s a rest) :
    Takes (insideBraces expected body (depth + 1)) (0x7b :: s) a rest :=
  hread.within (f := id) (Nat.le_succ _) rfl

/-- A map is read entry by entry into the empty map. -/
theorem reads_mapOf {d : Decoder α} {document : α → Value} (hread : ∀ a, Reads d nesting (document a) a)
    (m : TextMap α) :
    Reads (mapOf d) (nesting + 1) (.object (m.entries.map fun entry => (entry.1, document entry.2))) m := by
  intro depth hdepth rest
  obtain ⟨depth, rfl⟩ := Nat.exists_eq_succ_of_ne_zero (Nat.ne_zero_of_lt hdepth)
  rw [encode_object]
  refine takes_insideBraces (Gathers.takes ?_ rest)
  nth_rewrite 2 [← TextMap.foldl_insert_entries m]
  exact Gathers.foldl (fun gathered entry rest =>
    takes_behind_colon (hread entry.2 depth (Nat.le_of_succ_le_succ hdepth) rest) (gathered.insert entry.1))
    m.entries TextMap.empty

/-- A field of a record as it stands in a document: what is written for it, and what becomes of the record when it is
read. -/
structure Part (α : Type) (nesting : Nat) where
  field : Field α
  written : Value
  set : α → α
  reads : Reads field.decode nesting written set

/-- The member that is written for a field. -/
def Part.member (p : Part α nesting) : String × Value :=
  (p.field.name, p.written)

/-- What is read by the decoder of a field is kept by the field. -/
def Reads.part {d : Decoder β} {v : Value} {b : β} (hread : Reads d nesting v b) (name : String)
    (presence : Presence) (set : β → α → α) : Part α nesting where
  field := field name presence d set
  written := v
  set := set b
  reads depth hdepth rest := (hread depth hdepth rest).map set

namespace Record

variable {r : Record α}

private theorem find?_eq_some_of_mem (hnodup : (r.fields.map Field.name).Nodup) {f : Field α}
    (hf : f ∈ r.fields) :
    r.fields.find? (·.name = f.name) = some f := by
  cases hfind : r.fields.find? (·.name = f.name) with
  | none => exact absurd (decide_eq_true rfl) (List.find?_eq_none.1 hfind f hf)
  | some g =>
    have hname : g.name = f.name := by simpa using List.find?_some hfind
    rw [List.inj_on_of_nodup_map hnodup (List.mem_of_find?_eq_some hfind) hf hname]

private theorem takes_readMember (p : Part α nesting) (hdepth : nesting ≤ depth) {a : α} {names : List String}
    (hfind : r.fields.find? (·.name = p.field.name) = some p.field) (hnew : p.field.name ∉ names) (rest : Bytes) :
    Takes (r.readMember depth (a, names) p.field.name) (0x3a :: (Utf8.encode p.written.write ++ rest))
      (p.set a, p.field.name :: names) rest := by
  obtain ⟨h, hread⟩ := takes_behind_colon (p.reads depth hdepth rest) fun set => (set a, p.field.name :: names)
  refine ⟨h, ?_⟩
  simp only [readMember, hfind, if_neg hnew]
  exact hread

/-- No field is read twice: the names read so far and the names to come are all different. -/
theorem gathers_members (hnodup : (r.fields.map Field.name).Nodup) (hdepth : nesting ≤ depth)
    (parts : List (Part α nesting)) (hfields : ∀ p ∈ parts, p.field ∈ r.fields) (a : α) (names : List String)
    (hnew : (parts.map (·.field.name) ++ names).Nodup) :
    Gathers (r.readMember depth) (a, names) (parts.map Part.member)
      (parts.foldl (fun a p => p.set a) a, (parts.map (·.field.name)).reverse ++ names) := by
  induction parts generalizing a names with
  | nil => exact .nil _
  | cons p parts ih =>
    have hfind := find?_eq_some_of_mem hnodup (hfields p List.mem_cons_self)
    rw [List.map_cons, List.cons_append] at hnew
    have hname : p.field.name ∉ names := fun hmem =>
      (List.nodup_cons.1 hnew).1 (List.mem_append_right _ hmem)
    rw [List.map_cons, List.map_cons, List.reverse_cons, List.append_assoc, List.singleton_append]
    exact .cons (takes_readMember p hdepth hfind hname)
      (ih (fun q hq => hfields q (List.mem_cons_of_mem p hq)) (p.set a) (p.field.name :: names)
        (List.nodup_middle.2 hnew))

private theorem missing?_eq_none {a : α} {names : List String} (hnames : ∀ f ∈ r.fields, f.name ∈ names) :
    r.missing? (a, names) = none :=
  List.find?_eq_none.2 fun f hf hmissing => (of_decide_eq_true hmissing).2 (hnames f hf)

/-- A record reads the object of its fields, each by its own decoder. -/
theorem reads (r : Record α) (parts : List (Part α nesting)) (hfields : parts.map Part.field = r.fields)
    (hnodup : (r.fields.map Field.name).Nodup) :
    Reads r.decoder (nesting + 1) (.object (parts.map Part.member)) (parts.foldl (fun a p => p.set a) r.blank) := by
  intro depth hdepth rest
  obtain ⟨depth, rfl⟩ := Nat.exists_eq_succ_of_ne_zero (Nat.ne_zero_of_lt hdepth)
  have hnames : parts.map (·.field.name) = r.fields.map Field.name := by rw [← hfields, List.map_map]; rfl
  have hmem : ∀ p ∈ parts, p.field ∈ r.fields := fun p hp => hfields ▸ List.mem_map_of_mem hp
  have hgathers := gathers_members hnodup (Nat.le_of_succ_le_succ hdepth) parts hmem r.blank []
    (by rw [List.append_nil, hnames]; exact hnodup)
  have hall : ∀ f ∈ r.fields, f.name ∈ (parts.map (·.field.name)).reverse ++ [] := by
    intro f hf
    rw [List.append_nil, List.mem_reverse, hnames]
    exact List.mem_map_of_mem hf
  obtain ⟨h, hread⟩ := hgathers.takes rest
  rw [encode_object]
  refine ⟨Nat.lt_succ_of_lt h, ?_⟩
  change (r.readObject depth _ >>= _) = _
  simp only [readObject, hread, bind, Except.bind, missing?_eq_none hall]
  rfl

end Record

/-- A document of a value that a decoder reads is decoded to that value, as long as it is not nested too deeply. -/
theorem decode_render {d : Decoder α} {v : Value} {a : α} (hread : Reads d nesting v a)
    (hnesting : nesting ≤ maxDepth) : decode d v.render = .ok a := by
  have hread := hread maxDepth hnesting []
  rw [List.append_nil] at hread
  obtain ⟨h, hread⟩ := hread
  rw [decode, Value.render, Utf8.bytesOf, String.toList_ofList, decodeBytes, hread]
  rfl

end SignIn.Json
