import Mathlib.Control.Monad.Basic
import SignIn.Answer.Reading
import SignIn.Proofs.Callback.Redirect

namespace SignIn

/-- The answer for a step, as it is read from a URL. -/
def BrowserStep.read (step : BrowserStep) (url : String) (redirectUri sentState : Option String) :
    Except CallbackError Answer :=
  match step with
  | .away => (SwitchRequest.ofUrl url redirectUri sentState).map .switch
  | .back => (ResumeRequest.ofUrl url redirectUri sentState).map .resume

/-- The answer that asks for a step. -/
def BrowserStep.answer (step : BrowserStep) (redirect : Redirect) : Answer :=
  match step with
  | .away => .switch ⟨redirect⟩
  | .back => .resume ⟨redirect, none⟩

/-- The answer of a step carries its redirect. -/
theorem BrowserStep.redirect?_answer (step : BrowserStep) (redirect : Redirect) :
    (step.answer redirect).redirect? = some (step, redirect) := by
  cases step <;> rfl

/-- A step is read by reading its redirect. -/
theorem BrowserStep.read_eq (step : BrowserStep) (url : String) (redirectUri sentState : Option String) :
    step.read url redirectUri sentState =
      (Redirect.parse step url redirectUri sentState).map step.answer := by
  cases step with
  | away =>
    rw [read, SwitchRequest.ofUrl]
    cases Redirect.parse .away url redirectUri sentState <;> rfl
  | back =>
    rw [read, ResumeRequest.ofUrl]
    cases Redirect.parse .back url redirectUri sentState <;> rfl

/-- A URL is unrelated to a step if it does not follow the redirect URI with the step's path. -/
theorem BrowserStep.read_eq_unrelated_iff {step : BrowserStep} {url redirectUri : String}
    {sentState : Option String} :
    (∃ detail, step.read url (some redirectUri) sentState = .error (.unrelated detail)) ↔
      ∀ u, Url.parse url = .ok u → ¬ Redirect.Follows u redirectUri step := by
  rw [← Redirect.parse_eq_unrelated_iff, read_eq]
  cases Redirect.parse step url (some redirectUri) sentState <;> simp [Except.map]

/-- A URL is related to a step, whatever it carries, if it follows the redirect URI with the step's path. -/
theorem BrowserStep.read_ne_unrelated_iff {step : BrowserStep} {url redirectUri : String}
    {sentState : Option String} :
    (∀ detail, step.read url (some redirectUri) sentState ≠ .error (.unrelated detail)) ↔
      ∃ u, Url.parse url = .ok u ∧ Redirect.Follows u redirectUri step := by
  rw [← not_exists, read_eq_unrelated_iff]
  push Not
  rfl

/-- A URL that leads to a step is unrelated to the other one, whatever state is asked for. -/
theorem BrowserStep.read_other_eq_unrelated {step : BrowserStep} {url redirectUri : String}
    {sentState : Option String}
    (hrelated : ∀ detail, step.read url (some redirectUri) sentState ≠ .error (.unrelated detail))
    (sentState' : Option String) :
    ∃ detail, step.other.read url (some redirectUri) sentState' = .error (.unrelated detail) := by
  obtain ⟨u, hparse, hfollows⟩ := read_ne_unrelated_iff.1 hrelated
  refine read_eq_unrelated_iff.2 fun u' hparse' hfollows' => ?_
  rw [hparse, Except.ok.injEq] at hparse'
  have hstep : step = step.other := hfollows.step_eq (hparse' ▸ hfollows')
  cases step <;> cases hstep

/-- A redirect for a step is an answer for it, or something that it should carry is missing or wrong. -/
theorem BrowserStep.read_cases {step : BrowserStep} {url redirectUri : String} {u : Url}
    (hparse : Url.parse url = .ok u) (hfollows : Redirect.Follows u redirectUri step)
    (sentState : Option String) :
    (∃ redirect, step.read url (some redirectUri) sentState = .ok (step.answer redirect)) ∨
      (∃ detail, step.read url (some redirectUri) sentState = .error (.faulty detail)) ∨
      step.read url (some redirectUri) sentState = .error .missingState := by
  rw [read_eq, Redirect.parse_eq_ofUrl hparse hfollows]
  rcases Redirect.ofUrl_cases u sentState with ⟨redirect, hredirect⟩ | ⟨detail, hfaulty⟩ | hmissing
  · rw [hredirect]
    exact .inl ⟨redirect, rfl⟩
  · rw [hfaulty]
    exact .inr (.inl ⟨detail, rfl⟩)
  · rw [hmissing]
    exact .inr (.inr rfl)

private theorem orElseRecover_eq_first {α : Type} {first next : Except CallbackError α}
    (hfirst : ∀ detail, first ≠ .error (.unrelated detail)) : orElseRecover first next = first := by
  cases first with
  | ok a => rfl
  | error e =>
    cases e with
    | unrelated detail => exact absurd rfl (hfirst detail)
    | _ => rfl

/-- The next reading is tried where the first one finds its URL unrelated. -/
theorem orElseRecover_eq_next {α : Type} {first next : Except CallbackError α}
    (hfirst : ∃ detail, first = .error (.unrelated detail)) : orElseRecover first next = next := by
  obtain ⟨detail, rfl⟩ := hfirst
  rfl

private theorem readContinuing_eq (url redirectUri : String) (sentState : Option String) :
    readContinuing url redirectUri sentState =
      orElseRecover (BrowserStep.away.read url (some redirectUri) sentState)
        (orElseRecover (BrowserStep.back.read url (some redirectUri) sentState) (readFinal url)) :=
  rfl

/-- A redirect is read as what it is, in whichever turn its reader comes. -/
theorem readContinuing_eq_read {step : BrowserStep} {url redirectUri : String} {u : Url}
    (hparse : Url.parse url = .ok u) (hfollows : Redirect.Follows u redirectUri step)
    (sentState : Option String) :
    readContinuing url redirectUri sentState = step.read url (some redirectUri) sentState := by
  have hread : ∀ detail, step.read url (some redirectUri) sentState ≠ .error (.unrelated detail) :=
    BrowserStep.read_ne_unrelated_iff.2 ⟨u, hparse, hfollows⟩
  rw [readContinuing_eq]
  cases step with
  | away => exact orElseRecover_eq_first hread
  | back =>
    -- The first reader lets the URL pass, because no URL is a redirect for both steps.
    have haway : ∃ detail, BrowserStep.away.read url (some redirectUri) sentState =
        .error (.unrelated detail) := BrowserStep.read_other_eq_unrelated hread sentState
    rw [orElseRecover_eq_next haway]
    exact orElseRecover_eq_first hread

/-- A URL that is no redirect is left to the final readers. -/
theorem readContinuing_eq_readFinal {url redirectUri : String}
    (hfollows : ∀ step u, Url.parse url = .ok u → ¬ Redirect.Follows u redirectUri step)
    (sentState : Option String) : readContinuing url redirectUri sentState = readFinal url := by
  rw [readContinuing_eq, orElseRecover_eq_next (BrowserStep.read_eq_unrelated_iff.2 (hfollows .away)),
    orElseRecover_eq_next (BrowserStep.read_eq_unrelated_iff.2 (hfollows .back))]

/-- A final answer is no redirect. -/
theorem redirect?_of_readFinal {url : String} {a : Answer} (hread : readFinal url = .ok a) :
    a.redirect? = none := by
  unfold readFinal at hread
  split at hread
  · cases hread
    rfl
  · obtain ⟨grant, _, rfl⟩ := map_eq_ok_iff.1 hread
    rfl

/-- A code is read from the parameters of a URL. -/
theorem CodeGrant.ofUrl_eq_of_parse {url : String} {u : Url} (hparse : Url.parse url = .ok u) :
    ofUrl url =
      match u.param "code" with
      | some code => .ok ⟨code, u.param "state"⟩
      | none => .error (.unrelated "no authorization code") := by
  rw [ofUrl, Url.ofCallback, hparse]
  rfl

private theorem CodeGrant.ofUrl_isRecoverable {url : String} {e : CallbackError}
    (hread : CodeGrant.ofUrl url = .error e) : e.isRecoverable = true := by
  cases hparse : Url.parse url with
  | error cause =>
    rw [ofUrl, Url.ofCallback, hparse] at hread
    cases hread
    rfl
  | ok u =>
    rw [ofUrl_eq_of_parse hparse] at hread
    cases hcode : u.param "code" with
    | some code =>
      rw [hcode] at hread
      cases hread
    | none =>
      rw [hcode] at hread
      cases hread
      rfl

/-- A refusal is read from the parameters of a URL, by its code or its description. -/
theorem Refusal.ofUrl_eq_of_parse {url : String} {u : Url} (hparse : Url.parse url = .ok u) :
    ofUrl url =
      match u.param "error", u.param "error_description" with
      | none, none => .error (.unrelated "no oauth error")
      | error, description => .ok ⟨error.getD unnamedError, description, u.param "state"⟩ := by
  rw [ofUrl, Url.ofCallback, hparse]
  rfl

private theorem Refusal.ofUrl_eq_error_iff {url : String} {u : Url} (hparse : Url.parse url = .ok u) :
    (∃ e, ofUrl url = .error e) ↔ u.param "error" = none ∧ u.param "error_description" = none := by
  rw [ofUrl_eq_of_parse hparse]
  cases u.param "error" <;> cases u.param "error_description" <;> simp

/-- The URLs that carry a code. -/
theorem CodeGrant.ofUrl_eq_ok_iff {url : String} {grant : CodeGrant} :
    ofUrl url = .ok grant ↔
      ∃ u, Url.parse url = .ok u ∧ u.param "code" = some grant.code ∧ u.param "state" = grant.state := by
  cases hparse : Url.parse url with
  | error cause =>
    rw [ofUrl, Url.ofCallback, hparse]
    exact iff_of_false (by intro h; cases h) (by rintro ⟨u, h, -⟩; cases h)
  | ok u =>
    obtain ⟨code, state⟩ := grant
    simp only [ofUrl_eq_of_parse hparse, Except.ok.injEq, exists_eq_left']
    cases u.param "code" <;> simp

/-- A grant is read only where no error is reported: an error wins over a code. -/
theorem readFinal_eq_grant_iff {url : String} {grant : CodeGrant} :
    readFinal url = .ok (.grant grant) ↔
      ∃ u, Url.parse url = .ok u ∧ u.param "code" = some grant.code ∧ u.param "state" = grant.state ∧
        u.param "error" = none ∧ u.param "error_description" = none := by
  have hread : readFinal url = .ok (.grant grant) ↔
      (∃ e, Refusal.ofUrl url = .error e) ∧ CodeGrant.ofUrl url = .ok grant := by
    rw [readFinal]
    cases Refusal.ofUrl url with
    | ok refusal => simp
    | error e => simp [map_eq_ok_iff]
  rw [hread, CodeGrant.ofUrl_eq_ok_iff]
  constructor
  · rintro ⟨hrefusal, u, hparse, hcode, hstate⟩
    obtain ⟨herror, hdescription⟩ := (Refusal.ofUrl_eq_error_iff hparse).1 hrefusal
    exact ⟨u, hparse, hcode, hstate, herror, hdescription⟩
  · rintro ⟨u, hparse, hcode, hstate, herror, hdescription⟩
    exact ⟨(Refusal.ofUrl_eq_error_iff hparse).2 ⟨herror, hdescription⟩, u, hparse, hcode, hstate⟩

private theorem isRecoverable_of_readFinal {url : String} {e : CallbackError}
    (hread : readFinal url = .error e) :
    e.isRecoverable = true := by
  unfold readFinal at hread
  split at hread
  · cases hread
  · cases hgrant : CodeGrant.ofUrl url with
    | ok grant =>
      rw [hgrant] at hread
      cases hread
    | error cause =>
      rw [hgrant] at hread
      cases hread
      exact CodeGrant.ofUrl_isRecoverable hgrant

/-- With its flight off no redirect is looked for. -/
theorem FlightView.answerReader_off {v : FlightView} (hflight : v.flag switchFlight = false)
    (q : CallbackQuery) : v.answerReader q = readFinal q.url := by
  rw [answerReader, hflight]
  rfl

/-- With its flight on redirects are looked for before final answers. -/
theorem FlightView.answerReader_on {v : FlightView} (hflight : v.flag switchFlight = true)
    (q : CallbackQuery) :
    v.answerReader q = readContinuing q.url q.redirectUri (v.requiredState q.sentState) :=
  if_pos hflight

/-- The settings of a request give the reader the redirect URI and the state. -/
theorem CheckedSettings.parse_answerReader {v : FlightView} (hflight : v.flag switchFlight = true)
    (s : CheckedSettings) (url : String) (label : RequestLabel) :
    s.parse url v.answerReader label =
      readContinuing url s.settings.redirectUri (v.requiredState s.settings.sentState) := by
  rw [parse, FlightView.answerReader_on hflight, query]

/-- With the flight for switching on, a redirect is never read as an answer of another kind. A URL that does
not count as unrelated for a step is read for that very step, whatever else it carries: it is an answer for
it, or is refused for what it should carry and does not. A URL that counts as unrelated for both steps is
left to the final readers: it is no answer for either, nor is it refused for good. -/
theorem CheckedSettings.parse_keeps_redirects (s : CheckedSettings) (v : FlightView)
    (hflight : v.flag switchFlight = true) (url : String) (label : RequestLabel) :
    (∀ step : BrowserStep,
      (∀ detail, step.read url (some s.settings.redirectUri) none ≠ .error (.unrelated detail)) →
      s.parse url v.answerReader label =
          step.read url (some s.settings.redirectUri) (v.requiredState s.settings.sentState) ∧
        ((∃ a redirect, s.parse url v.answerReader label = .ok a ∧ a.redirect? = some (step, redirect)) ∨
          (∃ detail, s.parse url v.answerReader label = .error (.faulty detail)) ∨
          s.parse url v.answerReader label = .error .missingState)) ∧
    ((∀ step : BrowserStep,
      ∃ detail, step.read url (some s.settings.redirectUri) none = .error (.unrelated detail)) →
      s.parse url v.answerReader label = readFinal url ∧
        (∀ a, s.parse url v.answerReader label = .ok a → a.redirect? = none) ∧
        ∀ e, s.parse url v.answerReader label = .error e → e.isRecoverable = true) := by
  rw [parse_answerReader hflight]
  constructor
  · intro step hrelated
    have hfollows : ∃ u, Url.parse url = .ok u ∧ Redirect.Follows u s.settings.redirectUri step := by
      by_contra hnone
      push Not at hnone
      have hunrelated : ∃ detail, step.read url (some s.settings.redirectUri) none =
          .error (.unrelated detail) := BrowserStep.read_eq_unrelated_iff.2 hnone
      obtain ⟨detail, hunrelated⟩ := hunrelated
      exact hrelated detail hunrelated
    obtain ⟨u, hparse, hfollows⟩ := hfollows
    rw [readContinuing_eq_read hparse hfollows]
    refine ⟨rfl, ?_⟩
    rcases BrowserStep.read_cases hparse hfollows (v.requiredState s.settings.sentState) with
      ⟨redirect, hread⟩ | hfaulty | hmissing
    · exact .inl ⟨_, redirect, hread, step.redirect?_answer redirect⟩
    · exact .inr (.inl hfaulty)
    · exact .inr (.inr hmissing)
  · intro hunrelated
    rw [readContinuing_eq_readFinal fun step => BrowserStep.read_eq_unrelated_iff.1 (hunrelated step)]
    exact ⟨rfl, fun a => redirect?_of_readFinal, fun e => isRecoverable_of_readFinal⟩

/-- A redirect away that also reports an error is kept, and a grant is no redirect. -/
theorem CheckedSettings.parse_keeps_redirects_with_error :
    let v : FlightView := ⟨some (StaticFlights.empty.withFlag switchFlight true).source⟩
    ∃ s : CheckedSettings, s.settings = ⟨"msauth.app://auth", some "state"⟩ ∧ ∀ label,
      s.parse "msauth.app://auth/switch_browser?action_uri=a&code=c&error=e" v.answerReader label =
          .ok (.switch ⟨⟨"a", "c", none, SessionModes.none⟩⟩) ∧
        ∀ a, s.parse "msauth.app://auth?code=c" v.answerReader label = .ok a → a.redirect? = none := by
  intro v
  have hvalid : (RequestSettings.mk "msauth.app://auth" (some "state")).check = .ok () := by decide +kernel
  refine ⟨⟨_, hvalid⟩, rfl, fun label => ⟨?_, ?_⟩⟩
  · have hread : BrowserStep.away.read "msauth.app://auth/switch_browser?action_uri=a&code=c&error=e"
        (some "msauth.app://auth") none = .ok (.switch ⟨⟨"a", "c", none, SessionModes.none⟩⟩) := by
      decide +kernel
    have hkept := (parse_keeps_redirects ⟨_, hvalid⟩ v rfl
      "msauth.app://auth/switch_browser?action_uri=a&code=c&error=e" label).1 .away
    refine (hkept fun detail hunrelated => ?_).1.trans hread
    rw [hread] at hunrelated
    cases hunrelated
  · have hunrelated : ∀ step : BrowserStep, step.read "msauth.app://auth?code=c" (some "msauth.app://auth")
        none = .error (.unrelated ("not a " ++ step.name ++ " url")) := by
      intro step
      cases step <;> decide +kernel
    exact ((parse_keeps_redirects ⟨_, hvalid⟩ v rfl _ label).2 fun step => ⟨_, hunrelated step⟩).2.1

end SignIn
