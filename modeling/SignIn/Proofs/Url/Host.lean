import Mathlib.Tactic.Common
import SignIn.Proofs.Except
import SignIn.Url

namespace SignIn

/-- Encoding makes nothing vanish. -/
theorem Percent.encode_ne_nil {p : Char → Bool} {text : List Char} (hne : text ≠ []) :
    encode p text ≠ [] := by
  obtain ⟨c, rest, rfl⟩ := List.exists_cons_of_ne_nil hne
  intro hempty
  rw [encode, List.flatMap_cons, List.append_eq_nil_iff] at hempty
  by_cases hc : p c
  · have hbytes : (String.utf8EncodeChar c).flatMap encodeByte ≠ [] := by
      have hsize : 0 < (String.utf8EncodeChar c).length := by
        rw [String.length_utf8EncodeChar]
        exact c.utf8Size_pos
      obtain ⟨b, more, hchar⟩ := List.exists_cons_of_length_pos hsize
      simp [hchar, encodeByte]
    exact hbytes (by simpa [hc] using hempty.1)
  · simp [hc] at hempty

namespace Host

private theorem text_ne_nil_of_readBracketed {text : List Char} {h : Host}
    (hread : readBracketed text = .ok h) :
    h.text ≠ [] := by
  unfold readBracketed at hread
  split at hread
  · split at hread
    · cases hread
      simp [Host.text]
    · cases hread
  · cases hread

private theorem text_ne_nil_of_readPlain {text : List Char} {h : Host} (hread : readPlain text = .ok h)
    (hne : text ≠ []) : h.text ≠ [] := by
  unfold readPlain at hread
  split_ifs at hread with hbracket hforbidden
  · exact text_ne_nil_of_readBracketed hread
  · cases hread
    exact Percent.encode_ne_nil hne

private theorem text_ne_nil_of_readSpecial {text : List Char} {h : Host} (hread : readSpecial text = .ok h) :
    h.text ≠ [] := by
  unfold readSpecial at hread
  by_cases hbracket : text.head? = some '['
  · rw [if_pos hbracket] at hread
    exact text_ne_nil_of_readBracketed hread
  · rw [if_neg hbracket] at hread
    match hdomain : (Utf8.decode? (Percent.decode text)).bind DomainName.toAscii, hread with
    | some (c :: rest), hread =>
      by_cases hnumber : Address.endsInNumber (c :: rest)
      · cases haddress : Address.readIpv4 (c :: rest) with
        | none => simp [hnumber, haddress] at hread
        | some address =>
          simp only [hnumber, haddress, if_true, Except.ok.injEq] at hread
          subst hread
          simp [Host.text, Address.showIpv4, Text.joinWith]
      · simp only [hnumber, Bool.false_eq_true, if_false, Except.ok.injEq] at hread
        subst hread
        exact List.cons_ne_nil c rest

end Host

namespace Url

/-- What an authority is read as: its host, none if it names none, and then a port. -/
theorem parts_of_readAuthority {special : Bool} {scheme text rest : List Char} {host : Option Host}
    {port : Option Nat} (hread : readAuthority special scheme text = .ok (host, port, rest)) :
    let hostAndPort := (splitUser (text.takeWhile (!endsAuthority special ·))).2
    let hostText := hostPart false hostAndPort
    (∃ h, (if special then Host.readSpecial hostText else Host.readPlain hostText) = .ok h ∧
        host = if hostText = [] then none else some h) ∧
      readPort scheme (hostAndPort.drop hostText.length ++ text.dropWhile (!endsAuthority special ·)) =
        .ok (port, rest) := by
  simp only [readAuthority, ite_throw_eq_ok_iff] at hread
  obtain ⟨-, -, hread⟩ := hread
  cases special with
  | true =>
    simp only [if_true, bind_eq_ok_iff, ite_throw_eq_ok_iff] at hread
    obtain ⟨h, hhost, -, ⟨port', rest'⟩, hport, -, hresult⟩ := hread
    cases hresult
    exact ⟨⟨h, hhost, rfl⟩, hport⟩
  | false =>
    simp only [Bool.false_eq_true, if_false, bind_eq_ok_iff, ite_throw_eq_ok_iff] at hread
    obtain ⟨h, hhost, -, ⟨port', rest'⟩, hport, -, hresult⟩ := hread
    cases hresult
    exact ⟨⟨h, hhost, rfl⟩, hport⟩

private theorem host_text_ne_nil_of_readAuthority {special : Bool} {scheme text rest : List Char}
    {host : Option Host}
    {port : Option Nat} (hread : readAuthority special scheme text = .ok (host, port, rest)) :
    ∀ h ∈ host, h.text ≠ [] := by
  obtain ⟨⟨h, hhost, rfl⟩, -⟩ := parts_of_readAuthority hread
  intro h' hmem
  split_ifs at hmem with hempty
  · cases hmem
  · cases hmem
    cases special with
    | true => exact Host.text_ne_nil_of_readSpecial hhost
    | false => exact Host.text_ne_nil_of_readPlain hhost hempty

private theorem host_text_ne_nil_of_readFileHost {text rest : List Char} {host : Option Host}
    (hread : readFileHost text = .ok (host, rest)) : ∀ h ∈ host, h.text ≠ [] := by
  simp only [readFileHost] at hread
  split_ifs at hread with hdrive hempty
  · cases hread
    simp
  · cases hread
    simp
  · obtain ⟨h, hhost, hread⟩ := bind_eq_ok_iff.1 hread
    split_ifs at hread with hlocal
    · cases hread
      simp
    · cases hread
      rintro _ ⟨⟩
      exact Host.text_ne_nil_of_readSpecial hhost

private theorem host_text_ne_nil_of_readFile {scheme text : List Char} {u : Url}
    (hread : readFile scheme text = .ok u) :
    ∀ h ∈ u.host, h.text ≠ [] := by
  simp only [readFile] at hread
  split at hread
  · obtain ⟨⟨host, rest⟩, hhost, hread⟩ := bind_eq_ok_iff.1 hread
    cases hread
    intro h hmem
    dsimp only at hmem
    split_ifs at hmem with hdrive
    · cases hmem
    · exact host_text_ne_nil_of_readFileHost hhost h hmem
  · cases hread
    simp

private theorem host_text_ne_nil_of_readSpecial {scheme text : List Char} {u : Url}
    (hread : readSpecial scheme text = .ok u) : ∀ h ∈ u.host, h.text ≠ [] := by
  obtain ⟨⟨host, port, rest⟩, hauthority, hread⟩ := bind_eq_ok_iff.1 hread
  cases hread
  exact host_text_ne_nil_of_readAuthority hauthority

private theorem host_text_ne_nil_of_readOther {scheme text : List Char} {u : Url}
    (hread : readOther scheme text = .ok u) : ∀ h ∈ u.host, h.text ≠ [] := by
  unfold readOther at hread
  split at hread
  · obtain ⟨⟨host, port, rest⟩, hauthority, hread⟩ := bind_eq_ok_iff.1 hread
    cases hread
    exact host_text_ne_nil_of_readAuthority hauthority
  · cases hread
    simp

private theorem host_text_ne_nil_of_parse {text : String} {u : Url} (hparse : parse text = .ok u) :
    ∀ h ∈ u.host, h.text ≠ [] := by
  unfold parse at hparse
  split at hparse
  · cases hparse
  · split at hparse
    · exact host_text_ne_nil_of_readSpecial hparse
    · exact host_text_ne_nil_of_readFile hparse
    · exact host_text_ne_nil_of_readOther hparse

/-- A URL shows no host only if it has none: the text of a host is never empty. -/
theorem hostText_eq_nil_iff {text : String} {u : Url} (hparse : parse text = .ok u) :
    u.hostText = [] ↔ u.host = none := by
  rw [hostText]
  cases hhost : u.host with
  | none => simp
  | some h => simpa using host_text_ne_nil_of_parse hparse h hhost

end Url

end SignIn
