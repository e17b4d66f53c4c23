import Mathlib.Tactic.Common
import SignIn.Proofs.Text
import SignIn.Url

namespace SignIn

/-- What holds of the numbers below 128 holds of every character of ASCII. -/
@[elab_as_elim]
theorem forall_ascii {motive : Char → Prop} {c : Char} (hc : c.toNat < 128)
    (hnumbers : ∀ n < 128, motive (Char.ofNat n)) : motive c := by
  rw [← Char.ofNat_toNat c]
  exact hnumbers c.toNat hc

/-- A character that is not beyond one of ASCII is one of ASCII. -/
theorem toNat_lt_of_val_le {c : Char} {last : UInt32} (hlast : last.toNat < 128) (hc : c.val ≤ last) :
    c.toNat < 128 :=
  lt_of_le_of_lt (UInt32.le_iff_toNat_le.1 hc) hlast

private theorem toNat_lt_of_isLower {c : Char} (hc : c.isLower = true) : c.toNat < 128 := by
  have hlast : c.val ≤ 'z'.val := of_decide_eq_true (Bool.and_eq_true_iff.1 hc).2
  exact toNat_lt_of_val_le (by decide) hlast

/-- A digit is a character of ASCII. -/
theorem toNat_lt_of_isDigit {c : Char} (hc : c.isDigit = true) : c.toNat < 128 := by
  have hlast : c.val ≤ '9'.val := of_decide_eq_true (Bool.and_eq_true_iff.1 hc).2
  exact toNat_lt_of_val_le (by decide) hlast

/-- A letter or a digit is a character of ASCII. -/
theorem toNat_lt_of_isAlphanum {c : Char} (hc : c.isAlphanum = true) : c.toNat < 128 := by
  rcases Bool.or_eq_true_iff.1 hc with halpha | hdigit
  · rcases Bool.or_eq_true_iff.1 halpha with hupper | hlower
    · have hlast : c.val ≤ 'Z'.val := (of_decide_eq_true hupper).2
      exact toNat_lt_of_val_le (by decide) hlast
    · exact toNat_lt_of_isLower hlower
  · exact toNat_lt_of_isDigit hdigit

private theorem Percent.encode_eq_self {p : Char → Bool} {text : List Char}
    (htext : ∀ c ∈ text, p c = false) :
    encode p text = text := by
  induction text with
  | nil => rfl
  | cons c text ih =>
    have hmore := ih fun d hd => htext d (List.mem_cons_of_mem c hd)
    rw [encode] at hmore
    rw [encode, List.flatMap_cons, hmore, htext c List.mem_cons_self]
    rfl

/-- A text without control characters and spaces is not stripped of anything. -/
theorem UrlPath.strip_eq_self {text : List Char} (htext : ∀ c ∈ text, 0x20 < c.toNat) : strip text = text := by
  refine List.filter_eq_self.2 fun c hc => ?_
  have hvisible := htext c hc
  have hkept : isLeftOut c = false := by
    simp only [isLeftOut, Bool.or_eq_false_iff, beq_eq_false_iff_ne]
    refine ⟨⟨?_, ?_⟩, ?_⟩ <;> rintro rfl <;> exact absurd hvisible (by decide)
  rw [hkept]
  rfl

namespace Url

/-- Lower-case letters, digits and the marks that a scheme may hold. -/
def isSchemeChar (c : Char) : Bool :=
  c.isLower || c.isDigit || c == '+' || c == '-' || c == '.'

/-- Letters, digits and marks that a host holds as they are. -/
def isHostChar (c : Char) : Bool :=
  c.isAlphanum || c == '.' || c == '-' || c == '_'

/-- The origin of a redirect URI that an app makes up: its scheme has no rules of its own, and its host holds
nothing that would have to be encoded. -/
structure PlainOrigin (scheme host : String) : Prop where
  schemeStart : scheme.toList.head?.any Char.isLower = true
  schemeChars : scheme.toList.all isSchemeChar = true
  ordinary : scheme ∉ ["http", "https", "ws", "wss", "ftp", "file"]
  hosted : host ≠ ""
  hostChars : host.toList.all isHostChar = true

/-- A character that a scheme keeps. -/
structure KeptInScheme (c : Char) : Prop where
  ne_colon : c ≠ ':'
  inScheme : inScheme c = true
  toLower : c.toLower = c
  visible : 0x20 < c.toNat

private theorem keptInScheme {c : Char} (hc : isSchemeChar c = true) : KeptInScheme c := by
  have hascii : c.toNat < 128 := by
    simp only [isSchemeChar, Bool.or_eq_true, beq_iff_eq] at hc
    rcases hc with (((hlower | hdigit) | rfl) | rfl) | rfl
    · exact toNat_lt_of_isLower hlower
    · exact toNat_lt_of_isDigit hdigit
    · decide
    · decide
    · decide
  have hkept : c ≠ ':' ∧ Url.inScheme c = true ∧ c.toLower = c ∧ 0x20 < c.toNat := by
    revert hc
    exact forall_ascii hascii (by decide +kernel)
  obtain ⟨hcolon, hscheme, hlower, hvisible⟩ := hkept
  exact ⟨hcolon, hscheme, hlower, hvisible⟩

/-- A character that a host keeps and that ends nothing. -/
structure KeptInHost (c : Char) : Prop where
  ne_at : c ≠ '@'
  ne_colon : c ≠ ':'
  ne_bracket : c ≠ '['
  inside : endsAuthority false c = false
  allowed : Host.isForbidden c = false
  shown : Percent.isControl c = false
  visible : 0x20 < c.toNat

private theorem keptInHost {c : Char} (hc : isHostChar c = true) : KeptInHost c := by
  have hascii : c.toNat < 128 := by
    simp only [isHostChar, Bool.or_eq_true, beq_iff_eq] at hc
    rcases hc with ((halphanum | rfl) | rfl) | rfl
    · exact toNat_lt_of_isAlphanum halphanum
    · decide
    · decide
    · decide
  have hkept : (c ≠ '@' ∧ c ≠ ':' ∧ c ≠ '[') ∧ endsAuthority false c = false ∧
      Host.isForbidden c = false ∧ Percent.isControl c = false ∧ 0x20 < c.toNat := by
    revert hc
    exact forall_ascii hascii (by decide +kernel)
  obtain ⟨⟨hat, hcolon, hbracket⟩, hinside, hallowed, hshown, hvisible⟩ := hkept
  exact ⟨hat, hcolon, hbracket, hinside, hallowed, hshown, hvisible⟩

private theorem trim_eq_self {text : List Char} (htext : ∀ c ∈ text, 0x20 < c.toNat) : trim text = text := by
  have hvisible : ∀ c ∈ text, decide (c.toNat ≤ 0x20) = false := fun c hc => by
    simpa using htext c hc
  have hreverse : ∀ c ∈ text.reverse, decide (c.toNat ≤ 0x20) = false := by simpa using hvisible
  rw [trim, Text.dropWhile_eq_self hvisible, Text.dropWhile_eq_self hreverse, List.reverse_reverse]

private theorem hostPart_eq_self {text : List Char} (htext : ∀ c ∈ text, c ≠ ':' ∧ c ≠ '[') :
    hostPart false text = text := by
  induction text with
  | nil => rfl
  | cons c text ih =>
    obtain ⟨hcolon, hbracket⟩ := htext c List.mem_cons_self
    have hmore := ih fun d hd => htext d (List.mem_cons_of_mem c hd)
    have hclose : (if c = ']' then false else false) = false := ite_self _
    rw [hostPart, if_neg fun hc => hcolon hc.1, if_neg hbracket, hclose, hmore]

/-- What a query leaves as it is can be seen and begins no fragment. -/
theorem visible_of_inQuery {c : Char} (hc : Percent.inQuery c = false) : 0x20 < c.toNat ∧ c ≠ '#' := by
  have hascii : c.toNat < 128 := by
    have hshown : Percent.isControl c = false := (Bool.or_eq_false_iff.1 hc).1
    have hlast : ¬ 0x7e < c.toNat := of_decide_eq_false (Bool.or_eq_false_iff.1 hshown).2
    omega
  revert hc
  exact forall_ascii hascii (by decide +kernel)

namespace PlainOrigin

variable {scheme host : String} {c : Char}

private theorem schemeChar (h : PlainOrigin scheme host) (hc : c ∈ scheme.toList) : KeptInScheme c :=
  keptInScheme (List.all_eq_true.1 h.schemeChars c hc)

private theorem hostChar (h : PlainOrigin scheme host) (hc : c ∈ host.toList) : KeptInHost c :=
  keptInHost (List.all_eq_true.1 h.hostChars c hc)

private theorem takeScheme_eq (h : PlainOrigin scheme host) (rest : List Char) :
    takeScheme (scheme.toList ++ ':' :: rest) = some (scheme.toList, rest) := by
  have hcolon : ':' ∉ scheme.toList := fun hmem => (h.schemeChar hmem).ne_colon rfl
  have hstrip : UrlPath.strip scheme.toList = scheme.toList :=
    UrlPath.strip_eq_self fun c hc => (h.schemeChar hc).visible
  have hlower : scheme.toList.map Char.toLower = scheme.toList :=
    (List.map_congr_left fun c hc => (h.schemeChar hc).toLower).trans (List.map_id _)
  have hletter := h.schemeStart
  have hclass := h.schemeChars
  rw [takeScheme, Text.splitFirst_append_sep hcolon]
  dsimp only
  rw [hstrip]
  cases hscheme : scheme.toList with
  | nil => simp [hscheme] at hletter
  | cons c name =>
    rw [hscheme] at hletter hclass hlower
    have halpha : c.isAlpha = true := by
      have hc : c.isLower = true := by simpa using hletter
      exact Bool.or_eq_true_iff.2 (.inr hc)
    have hname : name.all inScheme = true := List.all_eq_true.2 fun d hd =>
      (keptInScheme (List.all_eq_true.1 hclass d (List.mem_cons_of_mem c hd))).inScheme
    simp only [halpha, hname, and_self, if_true, hlower]

private theorem schemeKind_eq (h : PlainOrigin scheme host) : SchemeKind.of scheme.toList = .other := by
  have hordinary := h.ordinary
  simp only [List.mem_cons, List.not_mem_nil, or_false, not_or] at hordinary
  obtain ⟨hhttp, hhttps, hws, hwss, hftp, hfile⟩ := hordinary
  have hnofile : scheme.toList ≠ ['f', 'i', 'l', 'e'] := fun hsame =>
    hfile (String.toList_inj.1 (hsame.trans (by decide)))
  have hnoport : defaultPort? scheme.toList = none := by
    rw [defaultPort?, String.ofList_toList]
    split <;> first | rfl | contradiction
  rw [SchemeKind.of, if_neg hnofile, hnoport]
  rfl

private theorem readPlain_eq (h : PlainOrigin scheme host) :
    Host.readPlain host.toList = .ok (.name host.toList) := by
  have hbracket : host.toList.head? ≠ some '[' := fun hhead =>
    (h.hostChar (List.mem_of_head? hhead)).ne_bracket rfl
  have hallowed : ¬ host.toList.any Host.isForbidden = true := by
    rw [List.any_eq_true]
    rintro ⟨c, hc, hforbidden⟩
    exact Bool.false_ne_true ((h.hostChar hc).allowed.symm.trans hforbidden)
  have hkept : Percent.encode Percent.isControl host.toList = host.toList :=
    Percent.encode_eq_self fun c hc => (h.hostChar hc).shown
  rw [Host.readPlain, if_neg hbracket, if_neg hallowed, hkept]

private theorem readAuthority_eq (h : PlainOrigin scheme host) {rest : List Char}
    (hrest : ∀ c ∈ rest.head?, c = '/') :
    readAuthority false scheme.toList (host.toList ++ rest) = .ok (some (.name host.toList), none, rest) := by
  have hinside : ∀ c ∈ host.toList, (!endsAuthority false c) = true := fun c hc => by
    rw [(h.hostChar hc).inside]
    rfl
  have hnouser : splitUser host.toList = (none, host.toList) := by
    refine if_neg fun huser => ?_
    exact (h.hostChar (List.contains_iff_mem.1 huser)).ne_at rfl
  have hnoport : hostPart false host.toList = host.toList :=
    hostPart_eq_self fun c hc => ⟨(h.hostChar hc).ne_colon, (h.hostChar hc).ne_bracket⟩
  have hne : host.toList ≠ [] := fun hempty => h.hosted (String.toList_inj.1 hempty)
  have hends : rest.takeWhile (!endsAuthority false ·) = [] ∧
      rest.dropWhile (!endsAuthority false ·) = rest ∧ readPort scheme.toList rest = .ok (none, rest) := by
    cases rest with
    | nil => exact ⟨rfl, rfl, rfl⟩
    | cons c more =>
      obtain rfl : c = '/' := hrest c rfl
      exact ⟨rfl, rfl, rfl⟩
  simp only [readAuthority, List.takeWhile_append_of_pos hinside, List.dropWhile_append_of_pos hinside, hends,
    List.append_nil, List.nil_append, hnouser, hnoport, List.drop_length, h.readPlain_eq, hne,
    Bool.false_eq_true, reduceCtorEq, false_and, and_false, if_false]
  rfl

/-- Behind the origin a path begins, or nothing more follows. -/
theorem parse_eq (h : PlainOrigin scheme host) {rest : List Char} (hrest : ∀ c ∈ rest.head?, c = '/')
    (hvisible : ∀ c ∈ rest, 0x20 < c.toNat) :
    parse (scheme ++ "://" ++ host ++ String.ofList rest) = .ok
      { scheme := scheme.toList
        host := some (.name host.toList)
        port := none
        path :=
          if rest.takeWhile (!endsPath ·) = [] then []
          else UrlPath.ofText false (rest.takeWhile (!endsPath ·))
        query := readQuery false (rest.dropWhile (!endsPath ·)) } := by
  have htext : (scheme ++ "://" ++ host ++ String.ofList rest).toList =
      scheme.toList ++ ':' :: ('/' :: '/' :: (host.toList ++ rest)) := by simp
  have hbehind : ∀ c ∈ '/' :: '/' :: (host.toList ++ rest), 0x20 < c.toNat := by
    intro c hc
    simp only [List.mem_cons, List.mem_append] at hc
    rcases hc with rfl | rfl | hhost | hmore
    · decide
    · decide
    · exact (h.hostChar hhost).visible
    · exact hvisible c hmore
  have hall : ∀ c ∈ scheme.toList ++ ':' :: ('/' :: '/' :: (host.toList ++ rest)), 0x20 < c.toNat := by
    intro c hc
    rcases List.mem_append.1 hc with hscheme | hmore
    · exact (h.schemeChar hscheme).visible
    · rcases List.mem_cons.1 hmore with rfl | hmore
      · decide
      · exact hbehind c hmore
  rw [parse, htext, trim_eq_self hall, h.takeScheme_eq]
  dsimp only
  rw [h.schemeKind_eq, UrlPath.strip_eq_self hbehind]
  simp only [readOther, h.readAuthority_eq hrest]
  rfl

/-- A plain scheme and a plain host are read as they are written. -/
theorem parse_origin (h : PlainOrigin scheme host) :
    parse (scheme ++ "://" ++ host) = .ok ⟨scheme.toList, some (.name host.toList), none, [], none⟩ := by
  have hnone : ∀ c ∈ ([] : List Char).head?, c = '/' := by simp
  have hparse := h.parse_eq hnone (by simp)
  rwa [String.ofList_nil, String.append_empty] at hparse

/-- A query that holds nothing to be encoded is kept as it is written, and so is a path of one such segment. -/
theorem parse_query (h : PlainOrigin scheme host) {segment query : List Char}
    (hsegment : ∀ c ∈ segment, endsPath c = false ∧ 0x20 < c.toNat)
    (hpath : UrlPath.ofText false ('/' :: segment) = '/' :: segment)
    (hquery : ∀ c ∈ query, Percent.inQuery c = false) :
    parse (scheme ++ "://" ++ host ++ String.ofList ('/' :: segment ++ '?' :: query)) =
      .ok ⟨scheme.toList, some (.name host.toList), none, '/' :: segment, some query⟩ := by
  have hinside : ∀ c ∈ '/' :: segment, (!endsPath c) = true := by
    intro c hc
    rcases List.mem_cons.1 hc with rfl | hc
    · rfl
    · rw [(hsegment c hc).1]
      rfl
  have hplain : ∀ c ∈ query, decide (c ≠ '#') = true := fun c hc =>
    decide_eq_true (visible_of_inQuery (hquery c hc)).2
  have hvisible : ∀ c ∈ '/' :: segment ++ '?' :: query, 0x20 < c.toNat := by
    intro c hc
    simp only [List.mem_append, List.mem_cons] at hc
    rcases hc with (rfl | hc) | rfl | hc
    · decide
    · exact (hsegment c hc).2
    · decide
    · exact (visible_of_inQuery (hquery c hc)).1
  rw [h.parse_eq (by simp) hvisible, List.takeWhile_append_of_pos hinside,
    List.dropWhile_append_of_pos hinside]
  have hstop : ('?' :: query).takeWhile (!endsPath ·) = [] := rfl
  have hstart : ('?' :: query).dropWhile (!endsPath ·) = '?' :: query := rfl
  have hkept : readQuery false ('?' :: query) = some query := by
    have hwhole : query.takeWhile (· ≠ '#') = query := List.takeWhile_eq_self_iff.2 hplain
    change some (Percent.encode Percent.inQuery (query.takeWhile (· ≠ '#'))) = some query
    rw [hwhole, Percent.encode_eq_self hquery]
  rw [hstop, hstart, List.append_nil, if_neg (List.cons_ne_nil _ _), hpath, hkept]

end PlainOrigin

end Url

end SignIn
