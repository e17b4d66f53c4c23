import SignIn.Proofs.Answer.Dependence

namespace SignIn

namespace Redirect

private theorem parse_none_eq_ofUrl {url : String} {u : Url} (hparse : Url.parse url = .ok u)
    (step : BrowserStep)
    (sentState : Option String) : parse step url none sentState = ofUrl u sentState := by
  rw [parse, Url.ofCallback, hparse]
  rfl

/-- Whether a URL is a redirect at all is settled before the state that was sent is looked at. -/
theorem parse_cases (step : BrowserStep) (url : String) (redirectUri : Option String) :
    (∃ detail, ∀ sentState, parse step url redirectUri sentState = .error (.unrelated detail)) ∨
      ∃ u, Url.parse url = .ok u ∧ ∀ sentState, parse step url redirectUri sentState = ofUrl u sentState := by
  cases hparse : Url.parse url with
  | error e =>
    refine .inl ⟨"unparsable url: " ++ e.message, fun sentState => ?_⟩
    rw [parse, Url.ofCallback, hparse]
    rfl
  | ok u =>
    cases redirectUri with
    | none => exact .inr ⟨u, rfl, parse_none_eq_ofUrl hparse step⟩
    | some redirectUri =>
      by_cases hfollows : Follows u redirectUri step
      · exact .inr ⟨u, rfl, parse_eq_ofUrl hparse hfollows⟩
      · obtain ⟨detail, hcheck⟩ := check_eq_unrelated hfollows
        refine .inl ⟨detail, fun sentState => ?_⟩
        rw [parse, Url.ofCallback, hparse]
        change (check u redirectUri step >>= fun _ => ofUrl u sentState) = _
        rw [hcheck]
        rfl

/-- A state is missing only where everything else is there. -/
theorem ofUrl_eq_missingState_iff {u : Url} {sent : String} :
    ofUrl u (some sent) = .error .missingState ↔ ∃ r, ofUrl u none = .ok r ∧ r.state = none := by
  unfold ofUrl
  cases u.param "action_uri" with
  | none => simp
  | some actionUri =>
    cases u.param "code" with
    | none => simp
    | some sessionToken => cases u.param "state" <;> simp

end Redirect

namespace BrowserStep

/-- To hold a URL against a redirect URI can only make it unrelated. -/
theorem read_some_eq_unrelated_or (step : BrowserStep) (url redirectUri : String) (sentState : Option String) :
    (∃ detail, step.read url (some redirectUri) sentState = .error (.unrelated detail)) ∨
      step.read url (some redirectUri) sentState = step.read url none sentState := by
  rw [read_eq, read_eq]
  rcases Redirect.parse_cases step url (some redirectUri) with ⟨detail, hunrelated⟩ | ⟨u, hparse, hread⟩
  · rw [hunrelated]
    exact .inl ⟨detail, rfl⟩
  · rw [hread, Redirect.parse_none_eq_ofUrl hparse]
    exact .inr rfl

private theorem read_eq_of_isSome_eq (step : BrowserStep) (url : String) (redirectUri : Option String)
    {sentState sentState' : Option String} (hsent : sentState.isSome = sentState'.isSome) :
    step.read url redirectUri sentState = step.read url redirectUri sentState' := by
  rw [read_eq, read_eq]
  rcases Redirect.parse_cases step url redirectUri with ⟨detail, hunrelated⟩ | ⟨u, -, hread⟩
  · rw [hunrelated, hunrelated]
  · rw [hread, hread, Redirect.ofUrl_eq_of_isSome_eq u hsent]

/-- To ask for a state can only turn a redirect down. -/
theorem read_eq_missingState_or (step : BrowserStep) (url : String) (redirectUri sentState : Option String) :
    step.read url redirectUri sentState = .error .missingState ∨
      step.read url redirectUri sentState = step.read url redirectUri none := by
  rw [read_eq, read_eq]
  rcases Redirect.parse_cases step url redirectUri with ⟨detail, hunrelated⟩ | ⟨u, -, hread⟩
  · exact .inr (by rw [hunrelated, hunrelated])
  · rw [hread, hread]
    rcases Redirect.ofUrl_eq_missingState_or u sentState with hmissing | hsame
    · rw [hmissing]
      exact .inl rfl
    · exact .inr (congrArg _ hsame)

private theorem read_eq_missingState_iff {step : BrowserStep} {url sent : String}
    {redirectUri : Option String} :
    step.read url redirectUri (some sent) = .error .missingState ↔
      ∃ redirect, step.read url redirectUri none = .ok (step.answer redirect) ∧ redirect.state = none := by
  have hanswer {redirect redirect' : Redirect} : step.answer redirect = step.answer redirect' ↔
      redirect = redirect' := by
    cases step <;> simp [answer]
  rw [read_eq, read_eq]
  rcases Redirect.parse_cases step url redirectUri with ⟨detail, hunrelated⟩ | ⟨u, -, hread⟩
  · simp [hunrelated, Except.map]
  · have hmap {x : Except CallbackError Redirect} :
        x.map step.answer = .error .missingState ↔ x = .error .missingState := by
      cases x <;> simp [Except.map]
    rw [hread, hread, hmap, Redirect.ofUrl_eq_missingState_iff]
    simp only [map_eq_ok_iff, hanswer, exists_eq_right]

/-- The redirect URI and the state that was sent are no more than conditions. Held against a redirect URI, a URL is
unrelated to the step or read as without one. When a state is asked for, whichever it is, the redirect is turned down
for lack of one exactly if it would be read and has none, and is read as before otherwise. Without a redirect URI the
two steps are told apart by nothing: a URL carries the same for both, or fails alike. -/
theorem read_keeps_conditions_apart (url : String) :
    (∀ (step : BrowserStep) (redirectUri : String) (sentState : Option String),
      (∃ detail, step.read url (some redirectUri) sentState = .error (.unrelated detail)) ∨
        step.read url (some redirectUri) sentState = step.read url none sentState) ∧
    (∀ (step : BrowserStep) (redirectUri : Option String) (sent : String),
      (step.read url redirectUri (some sent) = .error .missingState ∨
        step.read url redirectUri (some sent) = step.read url redirectUri none) ∧
      (∀ other, step.read url redirectUri (some other) = step.read url redirectUri (some sent)) ∧
      (step.read url redirectUri (some sent) = .error .missingState ↔
        ∃ redirect, step.read url redirectUri none = .ok (step.answer redirect) ∧ redirect.state = none)) ∧
    ∀ sentState : Option String,
      (SwitchRequest.ofUrl url none sentState).map SwitchRequest.redirect =
        (ResumeRequest.ofUrl url none sentState).map ResumeRequest.redirect := by
  refine ⟨fun step => step.read_some_eq_unrelated_or url, fun step redirectUri sent => ?_, fun sentState => ?_⟩
  · exact ⟨step.read_eq_missingState_or url redirectUri (some sent),
      fun other => step.read_eq_of_isSome_eq url redirectUri rfl, read_eq_missingState_iff⟩
  · have hsame : Redirect.parse .away url none sentState = Redirect.parse .back url none sentState := rfl
    rw [SwitchRequest.ofUrl, ResumeRequest.ofUrl, hsame]
    cases Redirect.parse .back url none sentState <;> rfl

end BrowserStep

end SignIn
