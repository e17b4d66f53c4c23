import SignIn.Proofs.Url.Encoding

namespace SignIn

/-- A text is stripped character by character. -/
theorem UrlPath.strip_append (s t : List Char) : strip (s ++ t) = strip s ++ strip t :=
  List.filter_append ..

namespace Url

/-- What follows the path of a URL, from the first mark on that ends a path. -/
def behindPath (text : List Char) : List Char :=
  text.dropWhile (!endsPath ·)

private theorem behindPath_append {front : List Char} (hfront : ∀ c ∈ front, endsPath c = false)
    (rest : List Char) :
    behindPath (front ++ rest) = behindPath rest := by
  refine List.dropWhile_append_of_pos fun c hc => ?_
  rw [hfront c hc]
  rfl

private theorem behindPath_cons {c : Char} (hc : endsPath c = false) (rest : List Char) :
    behindPath (c :: rest) = behindPath rest :=
  List.dropWhile_cons_of_pos (by simp [hc])

private theorem behindPath_cons_of_endsPath {c : Char} (hc : endsPath c = true) (rest : List Char) :
    behindPath (c :: rest) = c :: rest :=
  List.dropWhile_cons_of_neg (by simp [hc])

private theorem behindPath_dropWhile {p : Char → Bool} (hp : ∀ c, p c = true → endsPath c = false)
    (text : List Char) :
    behindPath (text.dropWhile p) = behindPath text := by
  conv_rhs => rw [← List.takeWhile_append_dropWhile (p := p) (l := text)]
  rw [behindPath_append fun c hc => hp c (List.mem_takeWhile_imp hc)]

private theorem endsPath_of_isLeftOut {c : Char} (hc : UrlPath.isLeftOut c = true) : endsPath c = false := by
  simp only [UrlPath.isLeftOut, Bool.or_eq_true, beq_iff_eq] at hc
  rcases hc with (rfl | rfl) | rfl <;> rfl

private theorem endsPath_of_inside {special : Bool} {c : Char} (hc : (!endsAuthority special c) = true) :
    endsPath c = false := by
  simp only [endsAuthority, Bool.not_eq_true', Bool.or_eq_false_iff] at hc
  rw [endsPath, hc.1.1.2, hc.1.2]
  rfl

private theorem behindPath_strip (text : List Char) :
    behindPath (UrlPath.strip text) = UrlPath.strip (behindPath text) := by
  induction text with
  | nil => rfl
  | cons c text ih =>
    cases hout : UrlPath.isLeftOut c with
    | true =>
      have hstrip : UrlPath.strip (c :: text) = UrlPath.strip text := List.filter_cons_of_neg (by simp [hout])
      rw [hstrip, behindPath_cons (endsPath_of_isLeftOut hout), ih]
    | false =>
      have hstrip (more : List Char) : UrlPath.strip (c :: more) = c :: UrlPath.strip more :=
        List.filter_cons_of_pos (by simp [hout])
      cases hends : endsPath c with
      | true => rw [hstrip, behindPath_cons_of_endsPath hends, behindPath_cons_of_endsPath hends, hstrip]
      | false => rw [hstrip, behindPath_cons hends, behindPath_cons hends, ih]

private theorem behindPath_readPort {scheme text rest : List Char} {port : Option Nat}
    (hread : readPort scheme text = .ok (port, rest)) : behindPath rest = behindPath text := by
  unfold readPort at hread
  split at hread
  · next rest' =>
    have hdigit : ∀ c : Char, c.isDigit = true → endsPath c = false := by
      intro c hc
      have hascii := toNat_lt_of_isDigit hc
      revert hc
      exact forall_ascii hascii (by decide +kernel)
    dsimp only at hread
    split_ifs at hread
    all_goals
      cases hread
      exact (behindPath_dropWhile hdigit rest').trans (behindPath_cons rfl rest').symm
  · cases hread
    rfl

private theorem mem_of_mem_splitUser {authority : List Char} {c : Char} (hc : c ∈ (splitUser authority).2) :
    c ∈ authority := by
  unfold splitUser at hc
  split_ifs at hc
  · exact List.mem_reverse.1 (List.takeWhile_subset _ (List.mem_reverse.1 hc))
  · exact hc

private theorem behindPath_readAuthority {special : Bool} {scheme text rest : List Char} {host : Option Host}
    {port : Option Nat} (hread : readAuthority special scheme text = .ok (host, port, rest)) :
    behindPath rest = behindPath text := by
  obtain ⟨-, hport⟩ := parts_of_readAuthority hread
  have hauthority : ∀ c ∈ text.takeWhile (!endsAuthority special ·), endsPath c = false := by
    intro c hc
    have hinside : (!endsAuthority special c) = true :=
      List.mem_takeWhile_imp (p := (!endsAuthority special ·)) hc
    exact endsPath_of_inside hinside
  rw [behindPath_readPort hport, behindPath_append, ← behindPath_append hauthority,
    List.takeWhile_append_dropWhile]
  intro c hc
  exact hauthority c (mem_of_mem_splitUser (List.mem_of_mem_drop hc))

private theorem behindPath_afterSlash? {text rest : List Char} (hslash : afterSlash? text = some rest) :
    behindPath rest = behindPath text := by
  rw [afterSlash?] at hslash
  rw [← behindPath_dropWhile (fun c => endsPath_of_isLeftOut) text]
  cases hbegun : text.dropWhile UrlPath.isLeftOut with
  | nil => simp [hbegun] at hslash
  | cons c more =>
    rw [hbegun] at hslash
    dsimp only at hslash
    split_ifs at hslash with hc
    cases hslash
    have hpath : endsPath c = false := by rcases hc with rfl | rfl <;> rfl
    exact (behindPath_cons hpath rest).symm

private theorem behindPath_readFileHost {text rest : List Char} {host : Option Host}
    (hread : readFileHost text = .ok (host, rest)) : behindPath rest = behindPath text := by
  have hslash (more : List Char) : behindPath ('/' :: more) = behindPath more := behindPath_cons rfl more
  have hafter : behindPath (text.dropWhile (!endsAuthority true ·)) = behindPath text :=
    behindPath_dropWhile (fun c => endsPath_of_inside) text
  simp only [readFileHost] at hread
  split_ifs at hread with hdrive hempty
  · cases hread
    exact hslash text
  · cases hread
    exact (hslash _).trans hafter
  · obtain ⟨h, -, hread⟩ := bind_eq_ok_iff.1 hread
    split_ifs at hread
    · cases hread
      exact (hslash _).trans hafter
    · cases hread
      exact hafter

private theorem endsPath_of_inScheme {c : Char} (hc : inScheme c = true) : endsPath c = false := by
  simp only [inScheme, Bool.or_eq_true, beq_iff_eq] at hc
  rcases hc with ((halphanum | rfl) | rfl) | rfl
  · have hascii := toNat_lt_of_isAlphanum halphanum
    revert halphanum
    exact forall_ascii hascii (by decide +kernel)
  all_goals rfl

private theorem behindPath_takeScheme {text scheme rest : List Char}
    (htake : takeScheme text = some (scheme, rest)) :
    behindPath rest = behindPath text := by
  have htext := Text.append_splitFirst ':' text
  rw [takeScheme] at htake
  generalize Text.splitFirst ':' text = cut at htake htext
  obtain ⟨before, tail⟩ := cut
  cases tail with
  | none => cases htake
  | some behind =>
    dsimp only at htake
    cases hstrip : UrlPath.strip before with
    | nil => simp [hstrip] at htake
    | cons c name =>
      rw [hstrip] at htake
      dsimp only at htake
      split_ifs at htake with hscheme
      cases htake
      have hbefore : ∀ d ∈ before, endsPath d = false := by
        intro d hd
        cases hout : UrlPath.isLeftOut d with
        | true => exact endsPath_of_isLeftOut hout
        | false =>
          have hmem : d ∈ c :: name := hstrip ▸ List.mem_filter.2 ⟨hd, by simp [hout]⟩
          apply endsPath_of_inScheme
          rcases List.mem_cons.1 hmem with rfl | hmem
          · simp [inScheme, Char.isAlphanum, hscheme.1]
          · exact List.all_eq_true.1 hscheme.2 d hmem
      rw [← htext]
      exact ((behindPath_append hbefore _).trans (behindPath_cons rfl _)).symm

private theorem query_of_readSpecial {scheme text : List Char} {u : Url}
    (hread : readSpecial scheme text = .ok u) :
    u.query = readQuery true (behindPath text) := by
  obtain ⟨⟨host, port, rest⟩, hauthority, hread⟩ := bind_eq_ok_iff.1 hread
  cases hread
  have hslash : ∀ c : Char, (c == '/' || c == '\\') = true → endsPath c = false := by
    intro c hc
    simp only [Bool.or_eq_true, beq_iff_eq] at hc
    rcases hc with rfl | rfl <;> rfl
  rw [← behindPath_dropWhile hslash text, ← behindPath_readAuthority hauthority]
  rfl

private theorem query_of_readOther {scheme text : List Char} {u : Url}
    (hread : readOther scheme text = .ok u) :
    u.query = readQuery false (behindPath text) := by
  unfold readOther at hread
  split at hread
  · next behind =>
    obtain ⟨⟨host, port, rest⟩, hauthority, hread⟩ := bind_eq_ok_iff.1 hread
    cases hread
    rw [behindPath_cons rfl, behindPath_cons rfl, ← behindPath_readAuthority hauthority]
    rfl
  · cases hread
    rfl

private theorem query_of_readFile {scheme text : List Char} {u : Url} (hread : readFile scheme text = .ok u) :
    u.query = readQuery true (UrlPath.strip (behindPath text)) := by
  simp only [readFile] at hread
  split at hread
  · next behind hslashes =>
    obtain ⟨⟨host, rest⟩, hhost, hread⟩ := bind_eq_ok_iff.1 hread
    cases hread
    obtain ⟨first, hfirst, hsecond⟩ := Option.bind_eq_some_iff.1 hslashes
    rw [← behindPath_afterSlash? hfirst, ← behindPath_afterSlash? hsecond, ← behindPath_readFileHost hhost]
    rfl
  · cases hread
    rfl

/-- The query of a URL is what stands between the first mark that ends its path and its fragment. -/
theorem exists_query_of_parse {text : String} {u : Url} (hparse : parse text = .ok u) :
    ∃ special, u.query = readQuery special (UrlPath.strip (behindPath (trim text.toList))) := by
  unfold parse at hparse
  split at hparse
  · cases hparse
  · next scheme rest htake =>
    rw [← behindPath_takeScheme htake]
    split at hparse
    · exact ⟨true, behindPath_strip rest ▸ query_of_readSpecial hparse⟩
    · exact ⟨true, query_of_readFile hparse⟩
    · exact ⟨false, behindPath_strip rest ▸ query_of_readOther hparse⟩

/-- The query in what follows a path, before anything is encoded in it. -/
def plainQuery : List Char → Option (List Char)
  | '?' :: rest => some (rest.takeWhile (· ≠ '#'))
  | _ => none

private theorem readQuery_eq (special : Bool) (text : List Char) :
    readQuery special text =
      (plainQuery text).map (Percent.encode (if special then Percent.inSpecialQuery else Percent.inQuery)) := by
  cases text with
  | nil => rfl
  | cons c rest =>
    by_cases hc : c = '?'
    · subst hc
      rfl
    · simp [readQuery, plainQuery, hc]

/-- A URL's parameters are those of its text: what the URL encodes makes no difference. -/
theorem queryPairs_of_parse {text : String} {u : Url} (hparse : parse text = .ok u) :
    u.queryPairs = Form.pairs ((plainQuery (UrlPath.strip (behindPath (trim text.toList)))).getD []) := by
  obtain ⟨special, hquery⟩ := exists_query_of_parse hparse
  have hforms : Percent.KeepsForms (if special then Percent.inSpecialQuery else Percent.inQuery) := by
    cases special with
    | true => exact Percent.keepsForms_inSpecialQuery
    | false => exact Percent.keepsForms_inQuery
  rw [queryPairs, hquery, readQuery_eq]
  cases plainQuery (UrlPath.strip (behindPath (trim text.toList))) with
  | none => rfl
  | some query => exact Form.pairs_encode hforms query

/-- Trimming a URL leaves its query as it is but for its end. -/
theorem behindPath_trim {base : List Char} (hbase : '#' ∉ base ∧ '?' ∉ base) (rest : List Char) :
    behindPath (trim (base ++ '?' :: rest)) = '?' :: Text.trimEnd (fun c => c.toNat ≤ 0x20) rest := by
  have htrim : trim (base ++ '?' :: rest) =
      base.dropWhile (fun c => c.toNat ≤ 0x20) ++ '?' :: Text.trimEnd (fun c => c.toNat ≤ 0x20) rest := by
    change Text.trimEnd _ ((base ++ '?' :: rest).dropWhile _) = _
    rw [Text.dropWhile_append_cons (by decide), Text.trimEnd_append_cons (by decide)]
  have hinside : ∀ c ∈ base.dropWhile (fun c => c.toNat ≤ 0x20), endsPath c = false := by
    intro c hc
    have hmem := List.dropWhile_subset _ hc
    simp only [endsPath, Bool.or_eq_false_iff, beq_eq_false_iff_ne]
    refine ⟨?_, ?_⟩
    · rintro rfl
      exact hbase.2 hmem
    · rintro rfl
      exact hbase.1 hmem
  rw [htrim, behindPath_append hinside]
  rfl

/-- White space goes from the end of a fragment, or from the end of a query without one. -/
theorem plainQuery_strip {query : List Char} (hquery : '#' ∉ query)
    (hend : Text.trimEnd (fun c => c.toNat ≤ 0x20) query = query) (fragment : Option (List Char)) :
    plainQuery ('?' :: UrlPath.strip
        (Text.trimEnd (fun c => c.toNat ≤ 0x20) (query ++ (fragment.map ('#' :: ·)).getD []))) =
      some (UrlPath.strip query) := by
  have hinside : ∀ c ∈ UrlPath.strip query, decide (c ≠ '#') = true := by
    intro c hc
    refine decide_eq_true fun hhash => hquery ?_
    exact hhash ▸ List.mem_of_mem_filter hc
  cases fragment with
  | none =>
    rw [Option.map_none, Option.getD_none, List.append_nil, hend]
    exact congrArg some (List.takeWhile_eq_self_iff.2 hinside)
  | some fragment =>
    rw [Option.map_some, Option.getD_some, Text.trimEnd_append_cons (by decide), UrlPath.strip_append]
    refine congrArg some ?_
    rw [List.takeWhile_append_of_pos hinside]
    exact List.append_nil _

end Url

end SignIn
