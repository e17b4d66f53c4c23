import Mathlib.Tactic.Common
import SignIn.Callback.Redirect
import SignIn.Proofs.Except

namespace SignIn.Redirect

/-- A URL is the redirect URI followed by the name of a step. -/
def Follows (u : Url) (redirectUri : String) (step : BrowserStep) : Prop :=
  ∃ expected, Url.parse redirectUri = .ok expected ∧ u.scheme = expected.scheme ∧
    u.hostText.map Char.toLower = expected.hostText.map Char.toLower ∧
    ∃ remainder, u.barePath = expected.barePath ++ remainder ∧
      remainder.dropWhile (· = '/') = step.name.toList

/-- The name of a step stands for no other step, so no URL is a redirect for both. -/
theorem Follows.step_eq {u : Url} {redirectUri : String} {step step' : BrowserStep}
    (hfollows : Follows u redirectUri step) (hfollows' : Follows u redirectUri step') : step = step' := by
  obtain ⟨expected, hparse, _, _, remainder, hpath, hname⟩ := hfollows
  obtain ⟨expected', hparse', _, _, remainder', hpath', hname'⟩ := hfollows'
  rw [hparse, Except.ok.injEq] at hparse'
  rw [← hparse', hpath, List.append_cancel_left_eq] at hpath'
  rw [← hpath', hname] at hname'
  cases step <;> cases step' <;> first | rfl | exact absurd hname' (by decide)

private theorem check_eq_of_parse {u expected : Url} {redirectUri : String} {step : BrowserStep}
    (hparse : Url.parse redirectUri = .ok expected) :
    check u redirectUri step =
      if u.scheme ≠ expected.scheme then .error (.unrelated "scheme mismatch")
      else if u.hostText.map Char.toLower ≠ expected.hostText.map Char.toLower then
        .error (.unrelated "host mismatch")
      else
        match Text.dropStart? expected.barePath u.barePath with
        | none => .error (.unrelated "path prefix mismatch")
        | some remainder =>
          if remainder.dropWhile (· = '/') ≠ step.name.toList then
            .error (.unrelated ("not a " ++ step.name ++ " url"))
          else .ok () := by
  rw [check, hparse]
  rfl

private theorem check_eq_ok {u : Url} {redirectUri : String} {step : BrowserStep}
    (hfollows : Follows u redirectUri step) : check u redirectUri step = .ok () := by
  obtain ⟨expected, hparse, hscheme, hhost, remainder, hpath, hname⟩ := hfollows
  rw [check_eq_of_parse hparse, if_neg (not_not_intro hscheme), if_neg (not_not_intro hhost),
    Text.dropStart?_eq_some_iff.2 hpath]
  exact if_neg (not_not_intro hname)

/-- A URL that does not follow the redirect URI is unrelated to the step. -/
theorem check_eq_unrelated {u : Url} {redirectUri : String} {step : BrowserStep}
    (hfollows : ¬ Follows u redirectUri step) :
    ∃ detail, check u redirectUri step = .error (.unrelated detail) := by
  cases hparse : Url.parse redirectUri with
  | error e =>
    rw [check, hparse]
    exact ⟨_, rfl⟩
  | ok expected =>
    rw [check_eq_of_parse hparse]
    split_ifs with hscheme hhost
    · exact ⟨_, rfl⟩
    · exact ⟨_, rfl⟩
    · cases hdrop : Text.dropStart? expected.barePath u.barePath with
      | none => exact ⟨_, rfl⟩
      | some remainder =>
        by_cases hname : remainder.dropWhile (· = '/') = step.name.toList
        · have hpath := Text.dropStart?_eq_some_iff.1 hdrop
          exact absurd ⟨expected, hparse, not_not.1 hscheme, not_not.1 hhost, remainder, hpath, hname⟩
            hfollows
        · exact ⟨_, if_pos hname⟩

/-- What a redirect carries may be missing or wrong, but that does not make it something else. -/
theorem ofUrl_cases (u : Url) (sentState : Option String) :
    (∃ r, ofUrl u sentState = .ok r) ∨ (∃ detail, ofUrl u sentState = .error (.faulty detail)) ∨
      ofUrl u sentState = .error .missingState := by
  unfold ofUrl
  cases u.param "action_uri" with
  | none => exact .inr (.inl ⟨_, rfl⟩)
  | some actionUri =>
    cases u.param "code" with
    | none => exact .inr (.inl ⟨_, rfl⟩)
    | some sessionToken =>
      dsimp only
      split_ifs with hmissing
      · exact .inr (.inr rfl)
      · exact .inl ⟨_, rfl⟩

/-- A redirect for a step is read for what it carries. -/
theorem parse_eq_ofUrl {url redirectUri : String} {step : BrowserStep} {u : Url}
    (hparse : Url.parse url = .ok u) (hfollows : Follows u redirectUri step) (sentState : Option String) :
    parse step url (some redirectUri) sentState = ofUrl u sentState := by
  rw [parse, Url.ofCallback, hparse]
  change (check u redirectUri step >>= fun _ => ofUrl u sentState) = _
  rw [check_eq_ok hfollows]
  rfl

private theorem parse_eq_unrelated {url redirectUri : String} {step : BrowserStep}
    (hfollows : ∀ u, Url.parse url = .ok u → ¬ Follows u redirectUri step) (sentState : Option String) :
    ∃ detail, parse step url (some redirectUri) sentState = .error (.unrelated detail) := by
  cases hparse : Url.parse url with
  | error e =>
    rw [parse, Url.ofCallback, hparse]
    exact ⟨_, rfl⟩
  | ok u =>
    obtain ⟨detail, hcheck⟩ := check_eq_unrelated (hfollows u hparse)
    rw [parse, Url.ofCallback, hparse]
    change ∃ detail, (check u redirectUri step >>= fun _ => ofUrl u sentState) = _
    rw [hcheck]
    exact ⟨detail, rfl⟩

/-- Whether a URL counts as unrelated depends on where it leads alone, not on the state that was sent nor on
anything that the URL carries. -/
theorem parse_eq_unrelated_iff {url redirectUri : String} {step : BrowserStep}
    {sentState : Option String} :
    (∃ detail, parse step url (some redirectUri) sentState = .error (.unrelated detail)) ↔
      ∀ u, Url.parse url = .ok u → ¬ Follows u redirectUri step := by
  constructor
  · rintro ⟨detail, hunrelated⟩ u hparse hfollows
    rw [parse_eq_ofUrl hparse hfollows] at hunrelated
    rcases ofUrl_cases u sentState with ⟨r, hr⟩ | ⟨other, hr⟩ | hr
    all_goals
      rw [hr] at hunrelated
      cases hunrelated
  · exact fun hfollows => parse_eq_unrelated hfollows sentState

end SignIn.Redirect
