import Mathlib.Tactic.Common
import SignIn.Operation.StartUrl
import SignIn.Proofs.Text
import SignIn.Proofs.Url.Form

namespace SignIn

namespace UriParts

/-- The parts of a URI stand apart: none holds a mark at which the URI would have been cut before. -/
structure Separated (p : UriParts) : Prop where
  base : '#' ∉ p.base ∧ '?' ∉ p.base
  query : ∀ query ∈ p.query, '#' ∉ query

/-- The parts of a URI put together give the URI. -/
theorem text_ofText (text : List Char) : (ofText text).text = text := by
  have hhead := Text.append_splitFirst '?' (Text.splitFirst '#' text).1
  have htext := Text.append_splitFirst '#' text
  rw [UriParts.text, ofText, hhead, htext]

/-- A URI is taken apart at the first of its marks. -/
theorem separated_ofText (text : List Char) : (ofText text).Separated := by
  have hhead := Text.notMem_splitFirst '#' text
  rw [← Text.append_splitFirst '?' (Text.splitFirst '#' text).1, List.mem_append, not_or] at hhead
  obtain ⟨hbase, hquery⟩ := hhead
  refine ⟨⟨hbase, Text.notMem_splitFirst '?' _⟩, fun query hmem hmark => ?_⟩
  change query ∈ (Text.splitFirst '?' (Text.splitFirst '#' text).1).2 at hmem
  rw [Option.mem_def] at hmem
  rw [hmem] at hquery
  exact hquery (List.mem_cons_of_mem '?' hmark)

private theorem ofText_text {p : UriParts} (hseparated : p.Separated) : ofText p.text = p := by
  obtain ⟨⟨hbase, hmark⟩, hquery⟩ := hseparated
  have hhead : '#' ∉ p.base ++ (p.query.map ('?' :: ·)).getD [] := by
    rw [List.mem_append, not_or]
    refine ⟨hbase, ?_⟩
    cases hsome : p.query with
    | none => exact List.not_mem_nil
    | some query => simpa using hquery query hsome
  rw [ofText, UriParts.text, Text.splitFirst_append hhead]
  dsimp only
  rw [Text.splitFirst_append hmark]

end UriParts

/-- The segments of a URI's query that stay when its code is set. -/
def keptSegments (uri : String) : List (List Char) :=
  ((UriParts.ofText uri.toList).query.map otherSegments).getD []

/-- A segment that can stand in a query among others. -/
structure IsSegment (segment : List Char) : Prop where
  ne_nil : segment ≠ []
  no_ampersand : '&' ∉ segment
  no_hash : '#' ∉ segment

/-- The segment that sets the code is an encoded pair. -/
theorem codeSegment_eq_encodePair (token : String) : codeSegment token = Form.encodePair ("code", token) := by
  have hname : Form.encodeText "code" = codeKey := by decide +kernel
  rw [Form.encodePair, hname]
  rfl

private theorem isSegment_codeSegment (token : String) : IsSegment (codeSegment token) := by
  refine ⟨List.cons_ne_nil _ _, ?_, ?_⟩
  all_goals
    rw [codeSegment_eq_encodePair]
    intro hmem
  · exact (Form.mem_encodePair hmem).1 rfl
  · exact absurd (Form.mem_encodePair hmem).2 (by decide)

private theorem mem_keptSegments {uri : String} {segment : List Char}
    (hsegment : segment ∈ keptSegments uri) :
    IsSegment segment ∧ (Text.splitFirst '=' segment).1 ≠ codeKey := by
  have hseparated := UriParts.separated_ofText uri.toList
  rw [keptSegments] at hsegment
  cases hquery : (UriParts.ofText uri.toList).query with
  | none =>
    rw [hquery] at hsegment
    cases hsegment
  | some query =>
    rw [hquery, Option.map_some, Option.getD_some, otherSegments, List.mem_filter] at hsegment
    obtain ⟨hpiece, hkept⟩ := hsegment
    simp only [Bool.and_eq_true, decide_eq_true_eq] at hkept
    obtain ⟨hne, hkey⟩ := hkept
    refine ⟨⟨hne, Text.notMem_of_mem_splitOn hpiece, fun hhash => ?_⟩, hkey⟩
    exact hseparated.query query hquery (Text.mem_of_mem_splitOn hpiece hhash)

/-- All segments of a composed query are whole segments. -/
theorem isSegment_of_mem {uri token : String} {segment : List Char}
    (hsegment : segment ∈ keptSegments uri ++ [codeSegment token]) : IsSegment segment := by
  rcases List.mem_append.1 hsegment with hkept | hcode
  · exact (mem_keptSegments hkept).1
  · obtain rfl := List.mem_singleton.1 hcode
    exact isSegment_codeSegment token

/-- Setting the code of a URI changes the query alone. -/
theorem parts_uriWithCode (uri token : String) :
    UriParts.ofText (uriWithCode uri token).toList =
      { UriParts.ofText uri.toList with
        query := some (Text.joinWith '&' (keptSegments uri ++ [codeSegment token])) } := by
  have hseparated := UriParts.separated_ofText uri.toList
  rw [uriWithCode, String.toList_ofList, ← keptSegments]
  refine UriParts.ofText_text ⟨hseparated.base, ?_⟩
  rintro _ ⟨⟩ hhash
  rcases Text.eq_sep_or_mem_of_mem_joinWith hhash with hsep | ⟨segment, hsegment, hmem⟩
  · exact absurd hsep (by decide)
  · exact (isSegment_of_mem hsegment).no_hash hmem

private theorem splitOn_segments (uri token : String) :
    Text.splitOn '&' (Text.joinWith '&' (keptSegments uri ++ [codeSegment token])) =
      keptSegments uri ++ [codeSegment token] := by
  apply Text.splitOn_joinWith
  · simp
  · exact fun segment hsegment => (isSegment_of_mem hsegment).no_ampersand

private theorem key_codeSegment (token : String) : (Text.splitFirst '=' (codeSegment token)).1 = codeKey := by
  rw [codeSegment, Text.splitFirst_append_sep (by decide)]

/-- The code that was set is all that the next one replaces. -/
theorem keptSegments_uriWithCode (uri token : String) :
    keptSegments (uriWithCode uri token) = keptSegments uri := by
  have hkept : ∀ segment ∈ keptSegments uri,
      (decide (segment ≠ []) && decide ((Text.splitFirst '=' segment).1 ≠ codeKey)) = true := by
    intro segment hsegment
    obtain ⟨hparted, hkey⟩ := mem_keptSegments hsegment
    simp [hparted.ne_nil, hkey]
  rw [keptSegments, parts_uriWithCode]
  change otherSegments (Text.joinWith '&' (keptSegments uri ++ [codeSegment token])) = _
  rw [otherSegments, splitOn_segments, List.filter_append, List.filter_eq_self.2 hkept,
    List.filter_singleton, key_codeSegment]
  simp

private theorem uriWithCode_eq (uri token : String) :
    uriWithCode uri token = String.ofList
      { UriParts.ofText uri.toList with
        query := some (Text.joinWith '&' (keptSegments uri ++ [codeSegment token])) : UriParts }.text :=
  rfl

private theorem uriWithCode_uriWithCode (uri earlier token : String) :
    uriWithCode (uriWithCode uri earlier) token = uriWithCode uri token := by
  rw [uriWithCode_eq, keptSegments_uriWithCode, parts_uriWithCode, ← uriWithCode_eq]

/-- To set the code of a URI leaves its base, its fragment and all other segments of its query as they are, but for
empty ones. The code comes last and is read as the token whatever the token holds, so no token can add a
parameter or a fragment. To set the code again only replaces it. -/
theorem uriWithCode_sets_code_only (uri token : String) :
    let old : UriParts := UriParts.ofText uri.toList
    let new : UriParts := UriParts.ofText (uriWithCode uri token).toList
    new.fragment = old.fragment ∧ new.base = old.base ∧
      (∃ query encoded, new.query = some query ∧ Form.decodeText encoded = token ∧
        Text.splitOn '&' query =
          ((old.query.map (Text.splitOn '&')).getD []).filter
              (fun segment => segment ≠ [] ∧ (Text.splitFirst '=' segment).1 ≠ "code".toList) ++
            ["code=".toList ++ encoded]) ∧
      ∀ earlier, uriWithCode (uriWithCode uri earlier) token = uriWithCode uri token := by
  intro old new
  have hnew : new = { old with
      query := some (Text.joinWith '&' (keptSegments uri ++ [codeSegment token])) } :=
    parts_uriWithCode uri token
  have hkept : keptSegments uri = ((old.query.map (Text.splitOn '&')).getD []).filter
      (fun segment => segment ≠ [] ∧ (Text.splitFirst '=' segment).1 ≠ "code".toList) := by
    change (old.query.map otherSegments).getD [] = _
    cases old.query with
    | none => rfl
    | some query =>
      refine List.filter_congr fun segment _ => ?_
      rw [Bool.eq_iff_iff, Bool.and_eq_true, decide_eq_true_iff, decide_eq_true_iff, decide_eq_true_iff]
      rfl
  rw [hnew]
  refine ⟨rfl, rfl, ⟨_, Form.encodeText token, rfl, Form.decodeText_encodeText token, ?_⟩, fun earlier => ?_⟩
  · rw [splitOn_segments, hkept]
    rfl
  · exact uriWithCode_uriWithCode uri earlier token

end SignIn
