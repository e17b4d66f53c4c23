import SignIn.Proofs.Answer.Reading
import SignIn.Proofs.Operation.StartUrl
import SignIn.Proofs.Url.Query

namespace SignIn

/-- The parameters that segments of a query stand for in a URL, where tabs and line ends are left out. -/
def segmentParams (segments : List (List Char)) : List (String × String) :=
  ((segments.map UrlPath.strip).filter (· ≠ [])).map Form.decodePair

private theorem segmentParams_append (segments more : List (List Char)) :
    segmentParams (segments ++ more) = segmentParams segments ++ segmentParams more := by
  rw [segmentParams, List.map_append, List.filter_append, List.map_append]
  rfl

private theorem mem_segmentParams_iff {segments : List (List Char)} {param : String × String} :
    param ∈ segmentParams segments ↔
      ∃ segment ∈ segments, UrlPath.strip segment ≠ [] ∧ Form.decodePair (UrlPath.strip segment) = param := by
  simp [segmentParams, and_assoc]

private theorem pairs_strip_joinWith {segments : List (List Char)}
    (hsegments : ∀ segment ∈ segments, '&' ∉ segment) :
    Form.pairs (UrlPath.strip (Text.joinWith '&' segments)) = segmentParams segments := by
  by_cases hne : segments = []
  · subst hne
    rfl
  · rw [Form.pairs, Text.map_joinWith UrlPath.strip_append rfl, Text.splitOn_joinWith]
    · rfl
    · simpa using hne
    · intro piece hpiece hmem
      obtain ⟨segment, hsegment, rfl⟩ := List.mem_map.1 hpiece
      exact hsegments segment hsegment (List.mem_of_mem_filter hmem)

private theorem visible_of_mem_codeSegment {token : String} {c : Char} (hc : c ∈ codeSegment token) :
    0x20 < c.toNat := by
  rw [codeSegment_eq_encodePair] at hc
  exact (Url.visible_of_inQuery (Form.mem_encodePair hc).2).1

private theorem segmentParams_codeSegment (token : String) :
    segmentParams [codeSegment token] = [("code", token)] := by
  have hstrip : UrlPath.strip (codeSegment token) = codeSegment token :=
    UrlPath.strip_eq_self fun c => visible_of_mem_codeSegment
  rw [segmentParams, List.map_singleton, hstrip, List.filter_cons_of_pos (by simp [codeSegment, codeKey]),
    List.filter_nil, List.map_singleton, codeSegment_eq_encodePair, Form.decodePair_encodePair]

/-- A URL reads the token last, behind whatever stays of the query. -/
theorem queryPairs_uriWithCode {uri token : String} {u : Url}
    (hparse : Url.parse (uriWithCode uri token) = .ok u) :
    u.queryPairs = segmentParams (keptSegments uri) ++ [("code", token)] := by
  have hseparated := UriParts.separated_ofText (uriWithCode uri token).toList
  have htext := UriParts.text_ofText (uriWithCode uri token).toList
  rw [parts_uriWithCode] at hseparated htext
  rw [UriParts.text, Option.map_some, Option.getD_some, List.append_assoc, List.cons_append] at htext
  have hend : Text.trimEnd (fun c => c.toNat ≤ 0x20)
      (Text.joinWith '&' (keptSegments uri ++ [codeSegment token])) =
      Text.joinWith '&' (keptSegments uri ++ [codeSegment token]) := by
    have hcode : Text.trimEnd (fun c => c.toNat ≤ 0x20) (codeSegment token) = codeSegment token :=
      Text.trimEnd_eq_self fun c hc => by simpa using visible_of_mem_codeSegment hc
    by_cases hkept : keptSegments uri = []
    · rw [hkept]
      exact hcode
    · rw [Text.joinWith_concat hkept, Text.trimEnd_append_cons (by decide), hcode]
  rw [Url.queryPairs_of_parse hparse, ← htext, Url.behindPath_trim hseparated.base]
  change Form.pairs ((Url.plainQuery ('?' :: UrlPath.strip _)).getD []) = _
  rw [Url.plainQuery_strip (hseparated.query _ rfl) hend, Option.getD_some, pairs_strip_joinWith,
    segmentParams_append, segmentParams_codeSegment]
  intro segment hsegment
  exact (isSegment_of_mem hsegment).no_ampersand

/-- The name that a URL reads in a segment of its query. -/
def readName (segment : List Char) : String :=
  (Form.decodePair (UrlPath.strip segment)).1

private theorem find?_segmentParams_eq_none_iff (segments : List (List Char)) :
    (segmentParams segments).find? (·.1 = "code") = none ↔ ∀ segment ∈ segments, readName segment ≠ "code" := by
  rw [List.find?_eq_none]
  constructor
  · intro hnone segment hsegment hname
    have hne : UrlPath.strip segment ≠ [] := by
      intro hempty
      rw [readName, hempty] at hname
      exact absurd hname (by decide)
    exact hnone _ (mem_segmentParams_iff.2 ⟨segment, hsegment, hne, rfl⟩) (decide_eq_true hname)
  · intro hnames param hparam hname
    obtain ⟨segment, hsegment, -, rfl⟩ := mem_segmentParams_iff.1 hparam
    exact hnames segment hsegment (of_decide_eq_true hname)

/-- What is read as the code: the first old code that stays, or else the token. -/
theorem param_code_uriWithCode {uri token : String} {u : Url} (htoken : token ≠ "")
    (hparse : Url.parse (uriWithCode uri token) = .ok u) :
    u.param "code" =
      match (segmentParams (keptSegments uri)).find? (·.1 = "code") with
      | some (_, old) => if old = "" then none else some old
      | none => some token := by
  rw [Url.param, queryPairs_uriWithCode hparse, List.find?_append]
  cases (segmentParams (keptSegments uri)).find? (·.1 = "code") with
  | some old => rfl
  | none => exact if_neg htoken

/-- The start URL carries its token as its last parameter. The token is the only code in it, and is read as the code,
exactly if no segment that stays is read under that name. Else an old code is read in its place. -/
theorem code_of_uriWithCode_iff {uri token : String} {u : Url} (htoken : token ≠ "")
    (hparse : Url.parse (uriWithCode uri token) = .ok u) :
    u.queryPairs = segmentParams (keptSegments uri) ++ [("code", token)] ∧
      (u.queryPairs.filter (·.1 = "code") = [("code", token)] ↔
        ∀ segment ∈ keptSegments uri, readName segment ≠ "code") ∧
      ((∀ segment ∈ keptSegments uri, readName segment ≠ "code") →
        CodeGrant.ofUrl (uriWithCode uri token) = .ok ⟨token, u.param "state"⟩) ∧
      ((∃ segment ∈ keptSegments uri, readName segment = "code") →
        ∃ old, ("code", old) ∈ segmentParams (keptSegments uri) ∧
          ∀ grant, CodeGrant.ofUrl (uriWithCode uri token) = .ok grant → grant.code = old) := by
  have hpairs := queryPairs_uriWithCode hparse
  have hparam := param_code_uriWithCode htoken hparse
  refine ⟨hpairs, ?_, fun hnames => ?_, fun hname => ?_⟩
  · rw [hpairs, List.filter_append, ← find?_segmentParams_eq_none_iff, List.find?_eq_none]
    change _ ++ [("code", token)] = [("code", token)] ↔ _
    rw [List.append_left_eq_self, List.filter_eq_nil_iff]
  · rw [(find?_segmentParams_eq_none_iff _).2 hnames] at hparam
    rw [CodeGrant.ofUrl_eq_of_parse hparse, hparam]
  · obtain ⟨segment, hsegment, hcode⟩ := hname
    cases hfind : (segmentParams (keptSegments uri)).find? (·.1 = "code") with
    | none => exact absurd hcode ((find?_segmentParams_eq_none_iff _).1 hfind segment hsegment)
    | some param =>
      obtain ⟨name, old⟩ := param
      have hold : name = "code" :=
        of_decide_eq_true (List.find?_some (p := fun param : String × String => decide (param.1 = "code")) hfind)
      refine ⟨old, hold ▸ List.mem_of_find?_eq_some hfind, fun grant hgrant => ?_⟩
      obtain ⟨u', hparse', hread, -⟩ := CodeGrant.ofUrl_eq_ok_iff.1 hgrant
      rw [hparse, Except.ok.injEq] at hparse'
      rw [← hparse', hparam, hfind] at hread
      dsimp only at hread
      split_ifs at hread
      exact (Option.some.inj hread).symm

/-- Empty segments go, and so does a code under its plain name. Names that only look like it stay. -/
theorem code_of_uriWithCode_iff_beside_plain_code :
    let uri := "msauth://broker/cba?code=old&&%43ode=x&code+=y#code=2"
    ∃ u, "a b&c" ≠ "" ∧ Url.parse (uriWithCode uri "a b&c") = .ok u ∧
      u.queryPairs = [("Code", "x"), ("code ", "y"), ("code", "a b&c")] ∧
      u.queryPairs.filter (·.1 = "code") = [("code", "a b&c")] ∧
      CodeGrant.ofUrl (uriWithCode uri "a b&c") = .ok ⟨"a b&c", u.param "state"⟩ := by
  intro uri
  have htoken : "a b&c" ≠ "" := by decide
  have hparse : Url.parse (uriWithCode uri "a b&c") = .ok ⟨"msauth".toList, some (.name "broker".toList),
      none, "/cba".toList, some "%43ode=x&code+=y&code=a+b%26c".toList⟩ := by decide +kernel
  have hkept : keptSegments uri = ["%43ode=x".toList, "code+=y".toList] := by decide +kernel
  have hparams : segmentParams ["%43ode=x".toList, "code+=y".toList] = [("Code", "x"), ("code ", "y")] := by
    decide +kernel
  have hnames : ∀ segment ∈ keptSegments uri, readName segment ≠ "code" := by
    rw [hkept]
    decide +kernel
  obtain ⟨hpairs, honly, hread, -⟩ := code_of_uriWithCode_iff htoken hparse
  rw [hkept, hparams] at hpairs
  exact ⟨_, htoken, hparse, hpairs, honly.2 hnames, hread hnames⟩

/-- The name of the code with an escape in it is not taken for that name: the old code stays, and is read. -/
theorem code_of_uriWithCode_with_escaped_name :
    let url := uriWithCode "msauth://broker/cba?c%6Fde=old&x=1" "new"
    (∃ u, Url.parse url = .ok u ∧ u.queryPairs = [("code", "old"), ("x", "1"), ("code", "new")]) ∧
      CodeGrant.ofUrl url = .ok ⟨"old", none⟩ := by
  intro url
  have hparse : Url.parse url = .ok ⟨"msauth".toList, some (.name "broker".toList), none,
      "/cba".toList, some "c%6Fde=old&x=1&code=new".toList⟩ := by decide +kernel
  refine ⟨⟨_, hparse, ?_⟩, ?_⟩
  · decide +kernel
  · decide +kernel

end SignIn
