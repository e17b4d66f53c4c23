import Mathlib.Tactic.Common
import SignIn.Proofs.Url.Form
import SignIn.Proofs.Url.Host
import SignIn.Proofs.Url.Plain

namespace SignIn

namespace Percent

private theorem encode_append (p : Char → Bool) (s t : List Char) :
    encode p (s ++ t) = encode p s ++ encode p t :=
  List.flatMap_append

private theorem encode_cons_of_eq_false {p : Char → Bool} {c : Char} (hc : p c = false) (text : List Char) :
    encode p (c :: text) = c :: encode p text := by
  rw [encode, List.flatMap_cons, hc]
  rfl

private theorem encode_cons_of_eq_true {p : Char → Bool} {c : Char} (hc : p c = true) (text : List Char) :
    encode p (c :: text) = (String.utf8EncodeChar c).flatMap encodeByte ++ encode p text := by
  rw [encode, List.flatMap_cons, hc]
  rfl

/-- What is encoded leaves alone the marks of a form, and the digits that a percent sign may stand before. -/
structure KeepsForms (p : Char → Bool) : Prop where
  digit : ∀ c, (hexValue? c).isSome → p c = false
  percent : p '%' = false
  plus : p '+' = false
  ampersand : p '&' = false
  equals : p '=' = false

private theorem toNat_lt_of_isSome_hexValue? {c : Char} (hc : (hexValue? c).isSome) : c.toNat < 128 := by
  rw [hexValue?] at hc
  split_ifs at hc with hdigit hlower hupper
  · exact toNat_lt_of_val_le (by decide) hdigit.2
  · exact toNat_lt_of_val_le (by decide) hlower.2
  · exact toNat_lt_of_val_le (by decide) hupper.2
  · cases hc

/-- Queries of schemes with rules of their own keep their forms. -/
theorem keepsForms_inSpecialQuery : KeepsForms inSpecialQuery where
  digit c hc := by
    have hascii := toNat_lt_of_isSome_hexValue? hc
    revert hc
    exact forall_ascii hascii (by decide +kernel)
  percent := by decide
  plus := by decide
  ampersand := by decide
  equals := by decide

private theorem KeepsForms.mono {p q : Char → Bool} (h : KeepsForms p) (hpq : ∀ c, q c = true → p c = true) :
    KeepsForms q := by
  have hfalse : ∀ c, p c = false → q c = false := by
    intro c hc
    by_contra hq
    rw [hpq c (Bool.of_not_eq_false hq)] at hc
    cases hc
  exact ⟨fun c hc => hfalse c (h.digit c hc), hfalse _ h.percent, hfalse _ h.plus, hfalse _ h.ampersand,
    hfalse _ h.equals⟩

/-- Queries keep their forms. -/
theorem keepsForms_inQuery : KeepsForms inQuery :=
  keepsForms_inSpecialQuery.mono fun _ hc => Bool.or_eq_true_iff.2 (.inl hc)

/-- A text that begins with two hexadecimal digits. -/
def startsWithByte : List Char → Bool
  | a :: b :: _ => (hexValue? a).isSome && (hexValue? b).isSome
  | _ => false

private theorem decode_percent_of_digits {a b : Char} {m n : Nat} (ha : hexValue? a = some m)
    (hb : hexValue? b = some n) (text : List Char) :
    decode ('%' :: a :: b :: text) = UInt8.ofNat (16 * m + n) :: decode text := by
  rw [decode, ha, hb]

private theorem decode_percent_of_not {text : List Char} (htext : startsWithByte text = false) :
    decode ('%' :: text) = String.utf8EncodeChar '%' ++ decode text := by
  match text with
  | [] => rfl
  | [_] => rfl
  | a :: b :: rest =>
    rw [decode]
    split
    · next ha hb => simp [startsWithByte, ha, hb] at htext
    · rfl

private theorem startsWithByte_percent (text : List Char) : startsWithByte ('%' :: text) = false := by
  cases text <;> rfl

private theorem startsWithByte_cons_percent (c : Char) (text : List Char) :
    startsWithByte (c :: '%' :: text) = false := by
  simp [startsWithByte, show hexValue? '%' = none from rfl]

private theorem exists_encode_cons_eq {p : Char → Bool} {c : Char} (hc : p c = true) (text : List Char) :
    ∃ more, encode p (c :: text) = '%' :: more := by
  have hsize : 0 < (String.utf8EncodeChar c).length := by
    rw [String.length_utf8EncodeChar]
    exact c.utf8Size_pos
  obtain ⟨b, bytes, hbytes⟩ := List.exists_cons_of_length_pos hsize
  rw [encode_cons_of_eq_true hc, hbytes]
  exact ⟨_, rfl⟩

private theorem mem_encode {p : Char → Bool} {text : List Char} {c : Char} (hc : c ∈ encode p text) :
    c ∈ text ∨ ∃ b, c ∈ encodeByte b := by
  obtain ⟨d, hd, hmem⟩ := List.mem_flatMap.1 hc
  split_ifs at hmem with hset
  · obtain ⟨b, -, hmem⟩ := List.mem_flatMap.1 hmem
    exact .inr ⟨b, hmem⟩
  · obtain rfl := List.mem_singleton.1 hmem
    exact .inl hd

/-- Encoding neither makes nor unmakes two digits behind a percent sign. -/
theorem KeepsForms.startsWithByte_encode {p : Char → Bool} (h : KeepsForms p) (text : List Char) :
    startsWithByte (encode p text) = startsWithByte text := by
  have hnone : ∀ c, p c = true → hexValue? c = none := by
    intro c hc
    by_contra hsome
    rw [h.digit c (Option.isSome_iff_ne_none.2 hsome)] at hc
    cases hc
  cases text with
  | nil => rfl
  | cons a text =>
    cases ha : p a with
    | true =>
      obtain ⟨more, hmore⟩ := exists_encode_cons_eq ha text
      rw [hmore, startsWithByte_percent]
      cases text <;> simp [startsWithByte, hnone a ha]
    | false =>
      rw [encode_cons_of_eq_false ha]
      cases text with
      | nil => rfl
      | cons b text =>
        cases hb : p b with
        | true =>
          obtain ⟨more, hmore⟩ := exists_encode_cons_eq hb text
          rw [hmore, startsWithByte_cons_percent]
          simp [startsWithByte, hnone b hb]
        | false =>
          rw [encode_cons_of_eq_false hb]
          rfl

end Percent

namespace Form

open Percent

private theorem hexValue?_plainSpace (c : Char) : hexValue? (plainSpace c) = hexValue? c := by
  rw [plainSpace]
  split_ifs with hc
  · subst hc
    rfl
  · rfl

private theorem startsWithByte_map_plainSpace (text : List Char) :
    startsWithByte (text.map plainSpace) = startsWithByte text := by
  match text with
  | [] => rfl
  | [_] => rfl
  | a :: b :: rest => simp [startsWithByte, hexValue?_plainSpace]

private theorem plainSpace_ne_percent {c : Char} (hc : c ≠ '%') : plainSpace c ≠ '%' := by
  rw [plainSpace]
  split_ifs
  · decide
  · exact hc

/-- Without a percent sign only `+` stands for something else. -/
theorem decodeText_eq_map {text : List Char} (hpercent : '%' ∉ text) :
    decodeText text = String.ofList (text.map plainSpace) := by
  have hplain : '%' ∉ text.map plainSpace := by
    intro hmem
    obtain ⟨c, hc, hspace⟩ := List.mem_map.1 hmem
    refine plainSpace_ne_percent (fun h => ?_) hspace
    exact hpercent (h ▸ hc)
  rw [decodeText_eq, Percent.decode_eq_encode hplain, Utf8.decodeLossy_encode]

private theorem map_plainSpace_flatMap_encodeByte (bytes : Bytes) :
    (bytes.flatMap Percent.encodeByte).map plainSpace = bytes.flatMap Percent.encodeByte := by
  induction bytes with
  | nil => rfl
  | cons b bytes ih => rw [List.flatMap_cons, List.map_append, map_plainSpace_encodeByte, ih]

private theorem decode_flatMap_encodeByte (bytes : Bytes) (rest : List Char) :
    Percent.decode (bytes.flatMap Percent.encodeByte ++ rest) = bytes ++ Percent.decode rest := by
  induction bytes with
  | nil => rfl
  | cons b bytes ih => rw [List.flatMap_cons, List.append_assoc, Percent.decode_encodeByte, ih, List.cons_append]

/-- One character more, which is no percent sign, is one character more to read, encoded or not. -/
theorem decode_encode_cons {p : Char → Bool} (h : KeepsForms p) {c : Char} (hc : c ≠ '%') {text : List Char}
    (htext : Percent.decode ((encode p text).map plainSpace) = Percent.decode (text.map plainSpace)) :
    Percent.decode ((encode p (c :: text)).map plainSpace) = Percent.decode ((c :: text).map plainSpace) := by
  rw [List.map_cons, decode_cons_of_ne (plainSpace_ne_percent hc)]
  cases hset : p c with
  | true =>
    have hspace : plainSpace c = c := by
      refine if_neg fun hplus => ?_
      rw [hplus, h.plus] at hset
      cases hset
    rw [encode_cons_of_eq_true hset, List.map_append, map_plainSpace_flatMap_encodeByte,
      decode_flatMap_encodeByte, htext, hspace]
  | false =>
    rw [encode_cons_of_eq_false hset, List.map_cons, decode_cons_of_ne (plainSpace_ne_percent hc), htext]

private theorem decode_encode_percent {p : Char → Bool} (h : KeepsForms p) {text : List Char}
    (hstart : startsWithByte text = false)
    (htext : Percent.decode ((encode p text).map plainSpace) = Percent.decode (text.map plainSpace)) :
    Percent.decode ((encode p ('%' :: text)).map plainSpace) =
      Percent.decode (('%' :: text).map plainSpace) := by
  have hencoded : startsWithByte ((encode p text).map plainSpace) = false := by
    rw [startsWithByte_map_plainSpace, h.startsWithByte_encode, hstart]
  have hplain : startsWithByte (text.map plainSpace) = false := by
    rw [startsWithByte_map_plainSpace, hstart]
  rw [encode_cons_of_eq_false h.percent]
  change Percent.decode ('%' :: _) = Percent.decode ('%' :: _)
  rw [decode_percent_of_not hencoded, decode_percent_of_not hplain, htext]

/-- A form reads the same text whether or not a URL has encoded it. -/
theorem decodeText_encode {p : Char → Bool} (h : KeepsForms p) (text : List Char) :
    decodeText (encode p text) = decodeText text := by
  have hdecode : Percent.decode ((encode p text).map plainSpace) = Percent.decode (text.map plainSpace) := by
    induction text using Percent.decode.induct with
    | case1 => rfl
    | case2 a b rest m n hb ha ih =>
      have hplain : p a = false ∧ p b = false := ⟨h.digit a (by simp [ha]), h.digit b (by simp [hb])⟩
      rw [encode_cons_of_eq_false h.percent, encode_cons_of_eq_false hplain.1,
        encode_cons_of_eq_false hplain.2]
      rw [← hexValue?_plainSpace] at ha hb
      change Percent.decode ('%' :: _ :: _ :: _) = Percent.decode ('%' :: _ :: _ :: _)
      rw [decode_percent_of_digits ha hb, decode_percent_of_digits ha hb, ih]
    | case3 a b rest hdigits ih =>
      refine decode_encode_percent h ?_ ih
      cases ha : hexValue? a with
      | none => simp [startsWithByte, ha]
      | some m =>
        cases hb : hexValue? b with
        | none => simp [startsWithByte, hb]
        | some n => exact absurd hb (hdigits m n ha)
    | case4 c rest hshort ih =>
      by_cases hc : c = '%'
      · subst hc
        refine decode_encode_percent h ?_ ih
        match rest with
        | [] => rfl
        | [_] => rfl
        | a :: b :: more => exact absurd rfl (hshort a b more rfl)
      · exact decode_encode_cons h hc ih
  rw [decodeText_eq, decodeText_eq, hdecode]

private theorem notMem_encodeByte : ∀ b : UInt8, '&' ∉ Percent.encodeByte b ∧ '=' ∉ Percent.encodeByte b :=
  forall_byte (by decide +kernel)

private theorem splitOn_encode {p : Char → Bool} (h : KeepsForms p) (text : List Char) :
    Text.splitOn '&' (encode p text) = (Text.splitOn '&' text).map (encode p) := by
  conv_lhs =>
    rw [← Text.joinWith_splitOn '&' text,
      Text.map_joinWith (encode_append p) (encode_cons_of_eq_false h.ampersand [])]
  apply Text.splitOn_joinWith
  · simpa using Text.splitOn_ne_nil '&' text
  · intro piece hpiece hmem
    obtain ⟨plain, hplain, rfl⟩ := List.mem_map.1 hpiece
    rcases mem_encode hmem with hmem | ⟨b, hmem⟩
    · exact Text.notMem_of_mem_splitOn hplain hmem
    · exact (notMem_encodeByte b).1 hmem

private theorem splitFirst_encode {p : Char → Bool} (h : KeepsForms p) (segment : List Char) :
    Text.splitFirst '=' (encode p segment) =
      (encode p (Text.splitFirst '=' segment).1, (Text.splitFirst '=' segment).2.map (encode p)) := by
  have hname : '=' ∉ encode p (Text.splitFirst '=' segment).1 := by
    intro hmem
    rcases mem_encode hmem with hmem | ⟨b, hmem⟩
    · exact Text.notMem_splitFirst '=' segment hmem
    · exact (notMem_encodeByte b).2 hmem
  conv_lhs => rw [← Text.append_splitFirst '=' segment, encode_append]
  rw [← Text.splitFirst_append hname]
  cases (Text.splitFirst '=' segment).2 with
  | none => rfl
  | some value =>
    rw [Option.map_some, Option.getD_some, encode_cons_of_eq_false h.equals]
    rfl

private theorem decodePair_encode {p : Char → Bool} (h : KeepsForms p) (segment : List Char) :
    decodePair (encode p segment) = decodePair segment := by
  have hvalue (value : Option (List Char)) :
      decodeText ((value.map (encode p)).getD []) = decodeText (value.getD []) := by
    cases value with
    | none => rfl
    | some value => exact decodeText_encode h value
  rw [decodePair, decodePair, splitFirst_encode h]
  dsimp only
  rw [decodeText_encode h, hvalue]

/-- Encoding that keeps forms leaves the pairs of a form as they are. -/
theorem pairs_encode {p : Char → Bool} (h : KeepsForms p) (text : List Char) :
    pairs (encode p text) = pairs text := by
  have hempty : ((fun segment => decide (segment ≠ [])) ∘ encode p) = fun segment => decide (segment ≠ []) := by
    funext segment
    refine decide_eq_decide.2 (not_congr ⟨fun hnil => ?_, fun hnil => ?_⟩)
    · by_contra hne
      exact encode_ne_nil hne hnil
    · rw [hnil]
      rfl
  rw [pairs, pairs, splitOn_encode h, List.filter_map, hempty, List.map_map]
  exact List.map_congr_left fun segment _ => decodePair_encode h segment

end Form

end SignIn
