import SignIn.Proofs.Answer.Reading

namespace SignIn

namespace Redirect

/-- What is read as a redirect depends on a state that was sent only in that there is one. -/
theorem ofUrl_eq_of_isSome_eq (u : Url) {sentState sentState' : Option String}
    (hsent : sentState.isSome = sentState'.isSome) : ofUrl u sentState = ofUrl u sentState' := by
  simp only [ofUrl, hsent]

/-- To ask for a state can only turn a redirect down. -/
theorem ofUrl_eq_missingState_or (u : Url) (sentState : Option String) :
    ofUrl u sentState = .error .missingState ∨ ofUrl u sentState = ofUrl u none := by
  unfold ofUrl
  cases u.param "action_uri" with
  | none => exact .inr rfl
  | some actionUri =>
    cases u.param "code" with
    | none => exact .inr rfl
    | some sessionToken =>
      by_cases hmissing : sentState.isSome ∧ u.param "state" = none
      · exact .inl (if_pos hmissing)
      · have hunasked : ¬ ((none : Option String).isSome ∧ u.param "state" = none) := by simp
        exact .inr ((if_neg hmissing).trans (if_neg hunasked).symm)

end Redirect

/-- Where a URL leads decides who reads it, whatever state was sent. -/
theorem readContinuing_cases (url redirectUri : String) :
    (∃ (step : BrowserStep) (u : Url), ∀ sentState,
      readContinuing url redirectUri sentState = (Redirect.ofUrl u sentState).map step.answer) ∨
    ∀ sentState, readContinuing url redirectUri sentState = readFinal url := by
  by_cases hfollows : ∃ step u, Url.parse url = .ok u ∧ Redirect.Follows u redirectUri step
  · obtain ⟨step, u, hparse, hfollows⟩ := hfollows
    refine .inl ⟨step, u, fun sentState => ?_⟩
    rw [readContinuing_eq_read hparse hfollows, BrowserStep.read_eq, Redirect.parse_eq_ofUrl hparse hfollows]
  · exact .inr (readContinuing_eq_readFinal fun step u hparse hstep => hfollows ⟨step, u, hparse, hstep⟩)

private theorem readContinuing_eq_of_isSome_eq (url redirectUri : String)
    {sentState sentState' : Option String}
    (hsent : sentState.isSome = sentState'.isSome) :
    readContinuing url redirectUri sentState = readContinuing url redirectUri sentState' := by
  obtain ⟨step, u, hread⟩ | hread := readContinuing_cases url redirectUri
  · rw [hread, hread, Redirect.ofUrl_eq_of_isSome_eq u hsent]
  · rw [hread, hread]

private theorem readContinuing_eq_missingState_or (url redirectUri : String) (sentState : Option String) :
    readContinuing url redirectUri sentState = .error .missingState ∨
      readContinuing url redirectUri sentState = readContinuing url redirectUri none := by
  obtain ⟨step, u, hread⟩ | hread := readContinuing_cases url redirectUri
  · rw [hread, hread]
    obtain hmissing | hsame := Redirect.ofUrl_eq_missingState_or u sentState
    · rw [hmissing]
      exact .inl rfl
    · exact .inr (congrArg _ hsame)
  · exact .inr ((hread sentState).trans (hread none).symm)

namespace FlightView

private theorem flag_of_source_eq_none {v : FlightView} (hsource : v.source = none) (key : String) :
    v.flag key = false := by
  rw [flag, hsource]

/-- With its flight off no state is required. -/
theorem requiredState_off {v : FlightView} (hflight : v.flag switchStateFlight = false)
    (sentState : Option String) : v.requiredState sentState = none := by
  rw [requiredState, hflight]
  rfl

/-- With its flight on the state that was sent is required. -/
theorem requiredState_on {v : FlightView} (hflight : v.flag switchStateFlight = true)
    (sentState : Option String) : v.requiredState sentState = sentState :=
  if_pos hflight

/-- With the flight for switching off, an answer is no redirect and depends on nothing but its URL. With it on
and the flight for states off, the state that was sent has no say. With both on, it matters only whether a
state was sent, and that can only turn the answer into the error that a state is missing. Of the flights
themselves nothing else counts. -/
theorem answerReader_reveals_nothing_else (url : String) (label : RequestLabel) :
    (∀ v : FlightView, v.source = none → v.flag switchFlight = false) ∧
    (∀ (v v' : FlightView) (redirectUri redirectUri' : String) (sentState sentState' : Option String),
      v.flag switchFlight = false → v'.flag switchFlight = false →
      v.answerReader ⟨url, redirectUri, sentState, label⟩ =
          v'.answerReader ⟨url, redirectUri', sentState', label⟩ ∧
        ∀ a, v.answerReader ⟨url, redirectUri, sentState, label⟩ = .ok a → a.redirect? = none) ∧
    (∀ (v v' : FlightView) (redirectUri : String) (sentState sentState' : Option String),
      v.flag switchFlight = true → v'.flag switchFlight = true →
      v.flag switchStateFlight = false → v'.flag switchStateFlight = false →
      v.answerReader ⟨url, redirectUri, sentState, label⟩ =
        v'.answerReader ⟨url, redirectUri, sentState', label⟩) ∧
    (∀ (v v' : FlightView) (redirectUri : String) (sentState sentState' : Option String),
      v.flag switchFlight = true → v'.flag switchFlight = true →
      v.flag switchStateFlight = true → v'.flag switchStateFlight = true →
      (sentState.isSome = sentState'.isSome →
        v.answerReader ⟨url, redirectUri, sentState, label⟩ =
          v'.answerReader ⟨url, redirectUri, sentState', label⟩) ∧
      (v.answerReader ⟨url, redirectUri, sentState, label⟩ = .error .missingState ∨
        v.answerReader ⟨url, redirectUri, sentState, label⟩ =
          v.answerReader ⟨url, redirectUri, none, label⟩)) := by
  refine ⟨fun v hsource => flag_of_source_eq_none hsource switchFlight, ?_, ?_, ?_⟩
  · intro v v' redirectUri redirectUri' sentState sentState' hoff hoff'
    rw [answerReader_off hoff, answerReader_off hoff']
    exact ⟨rfl, fun a => redirect?_of_readFinal⟩
  · intro v v' redirectUri sentState sentState' hon hon' hstate hstate'
    rw [answerReader_on hon, answerReader_on hon', requiredState_off hstate, requiredState_off hstate']
  · intro v v' redirectUri sentState sentState' hon hon' hstate hstate'
    simp only [answerReader_on hon, answerReader_on hon', requiredState_on hstate, requiredState_on hstate']
    exact ⟨readContinuing_eq_of_isSome_eq url redirectUri,
      readContinuing_eq_missingState_or url redirectUri sentState⟩

/-- A redirect without a state: a grant without the flight, a redirect whatever was sent with it, and turned
down for every state with both flights. -/
theorem answerReader_reveals_nothing_else_of_stateless_redirect :
    let url := "msauth://app/switch_browser?action_uri=a&code=c"
    let off : FlightView := ⟨none⟩
    let on : FlightView := ⟨some (StaticFlights.empty.withFlag switchFlight true).source⟩
    let strict : FlightView :=
      ⟨some ((StaticFlights.empty.withFlag switchFlight true).withFlag switchStateFlight true).source⟩
    let label : RequestLabel := ⟨"correlation"⟩
    off.flag switchFlight = false ∧
      (∀ redirectUri sentState, off.answerReader ⟨url, redirectUri, sentState, label⟩ =
        .ok (.grant ⟨"c", none⟩)) ∧
      (∀ sentState, on.answerReader ⟨url, "msauth://app", sentState, label⟩ =
        .ok (.switch ⟨⟨"a", "c", none, SessionModes.none⟩⟩)) ∧
      (∀ state, strict.answerReader ⟨url, "msauth://app", some state, label⟩ = .error .missingState) ∧
      (strict.answerReader ⟨url, "msauth://app", some "s", label⟩ = .error .missingState ∨
        strict.answerReader ⟨url, "msauth://app", some "s", label⟩ =
          strict.answerReader ⟨url, "msauth://app", none, label⟩) := by
  intro url off on strict label
  obtain ⟨hdetached, hoff, hon, hstrict⟩ := answerReader_reveals_nothing_else url label
  have hgrant : off.answerReader ⟨url, "msauth://app", none, label⟩ = .ok (.grant ⟨"c", none⟩) := by
    decide +kernel
  have hredirect : on.answerReader ⟨url, "msauth://app", none, label⟩ =
      .ok (.switch ⟨⟨"a", "c", none, SessionModes.none⟩⟩) := by decide +kernel
  have hmissing : strict.answerReader ⟨url, "msauth://app", some "s", label⟩ = .error .missingState := by
    decide +kernel
  refine ⟨hdetached off rfl, fun redirectUri sentState => ?_, fun sentState => ?_, fun state => ?_, ?_⟩
  · exact (hoff off off redirectUri "msauth://app" sentState none rfl rfl).1.trans hgrant
  · exact (hon on on "msauth://app" sentState none rfl rfl rfl rfl).trans hredirect
  · exact ((hstrict strict strict "msauth://app" (some state) (some "s") rfl rfl rfl rfl).1 rfl).trans hmissing
  · exact (hstrict strict strict "msauth://app" (some "s") none rfl rfl rfl rfl).2

end FlightView

/-- Two readings may change their turns if one of them lets the other pass. -/
theorem orElseRecover_left_comm {α : Type} {first second next : Except CallbackError α}
    (hpass : (∃ detail, first = .error (.unrelated detail)) ∨
      ∃ detail, second = .error (.unrelated detail)) :
    orElseRecover first (orElseRecover second next) = orElseRecover second (orElseRecover first next) := by
  obtain hfirst | hsecond := hpass
  · rw [orElseRecover_eq_next hfirst, orElseRecover_eq_next hfirst]
  · rw [orElseRecover_eq_next hsecond, orElseRecover_eq_next hsecond]

/-- Reads an answer that asks for one of some steps, which have their turns in order, or else a final one. -/
def readSteps (steps : List BrowserStep) (url redirectUri : String) (sentState : Option String) :
    Except CallbackError Answer :=
  steps.foldr (fun step next => orElseRecover (step.read url (some redirectUri) sentState) next)
    (readFinal url)

private theorem readContinuing_eq_readSteps (url redirectUri : String) (sentState : Option String) :
    readContinuing url redirectUri sentState = readSteps [.away, .back] url redirectUri sentState :=
  rfl

private theorem readSteps_swap (step step' : BrowserStep) (more : List BrowserStep) (url redirectUri : String)
    (sentState : Option String) :
    readSteps (step :: step' :: more) url redirectUri sentState =
      readSteps (step' :: step :: more) url redirectUri sentState := by
  by_cases hsame : step = step'
  · rw [hsame]
  · have hother : step' = step.other := by
      cases step <;> cases step' <;> first | rfl | exact absurd rfl hsame
    refine orElseRecover_left_comm ?_
    by_cases hrelated : ∃ detail, step.read url (some redirectUri) sentState = .error (.unrelated detail)
    · exact .inl hrelated
    · rw [hother]
      exact .inr (step.read_other_eq_unrelated (not_exists.1 hrelated) sentState)

private theorem readSteps_perm {steps steps' : List BrowserStep} (hperm : steps.Perm steps')
    (url redirectUri : String) (sentState : Option String) :
    readSteps steps url redirectUri sentState = readSteps steps' url redirectUri sentState := by
  induction hperm with
  | nil => rfl
  | cons step _ ih => exact congrArg (orElseRecover _) ih
  | swap step step' more => exact readSteps_swap step' step more url redirectUri sentState
  | trans _ _ ih ih' => exact ih.trans ih'

/-- The reader that goes by flights and gives the steps their turns in an order of its own. -/
def FlightView.orderedReader (v : FlightView) (steps : List BrowserStep) : AnswerReader := fun q =>
  if v.flag switchFlight then readSteps steps q.url q.redirectUri (v.requiredState q.sentState)
  else readFinal q.url

/-- It does not matter whether redirects back are looked for before redirects away: a URL that gets past the
redirect URI for one step is turned down for the other one, in a way that lets the next reader try. -/
theorem FlightView.orderedReader_back_first (v : FlightView) (q : CallbackQuery) :
    v.orderedReader [.back, .away] q = v.answerReader q ∧
      ∀ step : BrowserStep,
        (∀ detail, step.read q.url (some q.redirectUri) q.sentState ≠ .error (.unrelated detail)) →
        ∃ e, step.other.read q.url (some q.redirectUri) q.sentState = .error e ∧ e.isRecoverable = true ∧
          ∃ detail, e = .unrelated detail := by
  constructor
  · have hturns : [BrowserStep.back, .away].Perm [.away, .back] := List.Perm.swap _ _ _
    rw [orderedReader, answerReader, readSteps_perm hturns, ← readContinuing_eq_readSteps]
  · intro step hrelated
    obtain ⟨detail, hother⟩ := step.read_other_eq_unrelated hrelated q.sentState
    exact ⟨_, hother, rfl, detail, rfl⟩

/-- A redirect back whose code is missing: refused at once in either order, though it reports an error that a
final reader would have taken. -/
theorem FlightView.orderedReader_back_first_without_code :
    let v : FlightView := ⟨some (StaticFlights.empty.withFlag switchFlight true).source⟩
    let q : CallbackQuery :=
      ⟨"msauth://app/switch_browser_resume/?action_uri=a&error=e", "msauth://app/", some "s", ⟨"label"⟩⟩
    v.orderedReader [.back, .away] q = .error (.faulty "code is nil.") ∧
      v.answerReader q = .error (.faulty "code is nil.") ∧
      (∀ detail, BrowserStep.back.read q.url (some q.redirectUri) q.sentState ≠ .error (.unrelated detail)) ∧
      ∃ e, BrowserStep.away.read q.url (some q.redirectUri) q.sentState = .error e ∧
        e.isRecoverable = true ∧ ∃ detail, e = .unrelated detail := by
  intro v q
  have hfaulty : v.answerReader q = .error (.faulty "code is nil.") := by decide +kernel
  have hread : BrowserStep.back.read q.url (some q.redirectUri) q.sentState =
      .error (.faulty "code is nil.") := by decide +kernel
  have hrelated : ∀ detail, BrowserStep.back.read q.url (some q.redirectUri) q.sentState ≠
      .error (.unrelated detail) := by simp [hread]
  obtain ⟨hturns, hother⟩ := orderedReader_back_first v q
  exact ⟨hturns.trans hfaulty, hfaulty, hrelated, hother .back hrelated⟩

end SignIn
