import SignIn.Proofs.Answer.Reading
import SignIn.Proofs.Operation.Completion

namespace SignIn

/-- What is read for a step is no grant. -/
theorem BrowserStep.read_ne_grant (step : BrowserStep) (url : String)
    (redirectUri sentState : Option String) (grant : CodeGrant) :
    step.read url redirectUri sentState ≠ .ok (.grant grant) := by
  rw [read_eq, ne_eq, map_eq_ok_iff]
  rintro ⟨redirect, -, hanswer⟩
  have hredirect := step.redirect?_answer redirect
  rw [hanswer] at hredirect
  cases hredirect

namespace CheckedSettings

/-- What it takes for a callback URL to complete a sign-in: it carries a code and reports no error, and it is
no redirect that the flight for switching lets the reader see. -/
def Grants (s : CheckedSettings) (v : FlightView) (url : String) (grant : CodeGrant) : Prop :=
  ∃ u, Url.parse url = .ok u ∧ u.param "code" = some grant.code ∧ u.param "state" = grant.state ∧
    u.param "error" = none ∧ u.param "error_description" = none ∧
    (v.flag switchFlight = false ∨ ∀ step : BrowserStep, ∃ detail,
      step.read url (some s.settings.redirectUri) none = .error (.unrelated detail))

private theorem grants_iff {s : CheckedSettings} {v : FlightView} {url : String} {grant : CodeGrant} :
    s.Grants v url grant ↔
      readFinal url = .ok (.grant grant) ∧
        (v.flag switchFlight = false ∨ ∀ step : BrowserStep, ∃ detail,
          step.read url (some s.settings.redirectUri) none = .error (.unrelated detail)) := by
  rw [readFinal_eq_grant_iff]
  constructor
  · rintro ⟨u, hparse, hcode, hstate, herror, hdescription, hstep⟩
    exact ⟨⟨u, hparse, hcode, hstate, herror, hdescription⟩, hstep⟩
  · rintro ⟨⟨u, hparse, hcode, hstate, herror, hdescription⟩, hstep⟩
    exact ⟨u, hparse, hcode, hstate, herror, hdescription, hstep⟩

private theorem parse_answerReader_off {v : FlightView} (hflight : v.flag switchFlight = false)
    (s : CheckedSettings) (url : String) (label : RequestLabel) :
    s.parse url v.answerReader label = readFinal url := by
  rw [parse, FlightView.answerReader_off hflight, query]

private theorem parse_eq_grant_iff {s : CheckedSettings} {v : FlightView} {url : String}
    {label : RequestLabel}
    {grant : CodeGrant} :
    s.parse url v.answerReader label = .ok (.grant grant) ↔ s.Grants v url grant := by
  rw [grants_iff]
  cases hflight : v.flag switchFlight with
  | false => simp [parse_answerReader_off hflight]
  | true =>
    rw [parse_answerReader hflight]
    by_cases hstep : ∀ step : BrowserStep, ∃ detail,
        step.read url (some s.settings.redirectUri) none = .error (.unrelated detail)
    · rw [readContinuing_eq_readFinal fun step => BrowserStep.read_eq_unrelated_iff.1 (hstep step)]
      exact ⟨fun hread => ⟨hread, .inr hstep⟩, And.left⟩
    · -- The URL is read for the step that it is a redirect for, and so for no grant.
      refine iff_of_false ?_ fun h => h.2.elim (by simp) hstep
      push Not at hstep
      obtain ⟨step, hrelated⟩ := hstep
      obtain ⟨u, hparse, hfollows⟩ := BrowserStep.read_ne_unrelated_iff.1 hrelated
      rw [readContinuing_eq_read hparse hfollows]
      exact step.read_ne_grant url _ _ grant

end CheckedSettings

namespace Operation

/-- An operation that ends a switch is made of a request that refers to a request in the store. -/
theorem ofResume_eq_ok_iff {answer : Answer} {store : SwitchStore} {op : Operation} :
    ofResume answer store = .ok op ↔
      ∃ request reference parent, answer = .resume request ∧ request.parent = some reference ∧
        store.get? reference = some parent ∧ op = .resume request parent.redirect.actionUri := by
  cases answer with
  | resume request =>
    cases hparent : request.parent.bind store.get? with
    | none =>
      refine iff_of_false (by simp [ofResume, hparent]) ?_
      rintro ⟨request', reference, parent, hrequest, hreference, hget, -⟩
      cases hrequest
      rw [hreference, Option.bind_some, hget] at hparent
      cases hparent
    | some parent =>
      obtain ⟨reference, hreference, hget⟩ := Option.bind_eq_some_iff.1 hparent
      simp [ofResume, hreference, hget, eq_comm]
  | _ => simp [ofResume]

/-- With the library's own parser and reader, an operation that ends a switch completes the sign-in if the
callback URL carries a code, reports no error and is no redirect that the flights let pass. The result holds
the code, the state that came back and the action URI that the switch began with. Whatever else happens is
delivered as an answer or an error. -/
theorem resume_signs_in_iff {answer : Answer} {store : SwitchStore} {op : Operation}
    (hop : ofResume answer store = .ok op) (params : RequestParameters)
    (channel : SessionRequest → Except ForeignError String) (policy : Option StartPolicy)
    (s : CheckedSettings) (v : FlightView) :
    let c : Collaborators := ⟨channel, s.parser, v.answerReader, policy⟩
    let session := channel (op.sessionRequest params policy)
    ∃ request reference parent, answer = .resume request ∧ request.parent = some reference ∧
      store.get? reference = some parent ∧
      (∀ result, (op.run params c).deliveries = [.signIn result] ↔
        (∃ url, session = .ok url ∧ s.Grants v url result.grant) ∧
          result.initialActionUri = parent.redirect.actionUri) ∧
      ((∃ result, (op.run params c).deliveries = [.answer result]) ↔
        ¬ ∃ url grant, session = .ok url ∧ s.Grants v url grant) := by
  intro c session
  obtain ⟨request, reference, parent, hanswer, hreference, hget, rfl⟩ := ofResume_eq_ok_iff.1 hop
  have hsignIn : ∀ result, ((resume request parent.redirect.actionUri).run params c).deliveries =
        [.signIn result] ↔
      (∃ url, session = .ok url ∧ s.Grants v url result.grant) ∧
        result.initialActionUri = parent.redirect.actionUri := by
    rintro ⟨grant, initialActionUri⟩
    rw [deliveries_run, List.singleton_inj, Outcome.delivery_eq_signIn_iff, conclusion_eq_signedIn_iff]
    simp only [c, CheckedSettings.reading_eq_parse, mapError_eq_ok_iff, CheckedSettings.parse_eq_grant_iff]
    constructor
    · rintro ⟨_, url, hsame, hsession, hgrants⟩
      cases hsame
      exact ⟨⟨url, hsession, hgrants⟩, rfl⟩
    · rintro ⟨⟨url, hsession, hgrants⟩, rfl⟩
      exact ⟨request, url, rfl, hsession, hgrants⟩
  refine ⟨request, reference, parent, hanswer, hreference, hget, hsignIn, ?_⟩
  rw [deliveries_run] at hsignIn ⊢
  constructor
  · rintro ⟨result, hdelivery⟩ ⟨url, grant, hsession, hgrants⟩
    have hgranted := (hsignIn ⟨grant, parent.redirect.actionUri⟩).2 ⟨⟨url, hsession, hgrants⟩, rfl⟩
    rw [hgranted] at hdelivery
    cases hdelivery
  · intro hnone
    cases hdelivery : ((resume request parent.redirect.actionUri).conclusion params c).2.delivery with
    | answer result => exact ⟨result, rfl⟩
    | signIn result =>
      obtain ⟨⟨url, hsession, hgrants⟩, -⟩ := (hsignIn result).1 (by rw [hdelivery])
      exact absurd ⟨url, _, hsession, hgrants⟩ hnone

/-- A code on the redirect URI itself completes the sign-in. The same code on a redirect for another switch
does not. -/
theorem resume_signs_in_iff_beside_redirect :
    let store : SwitchStore := ⟨1, [⟨⟨"first", "t", none, SessionModes.none⟩⟩]⟩
    let request : ResumeRequest := ⟨⟨"second", "u", none, SessionModes.none⟩, some ⟨1, 0⟩⟩
    let v : FlightView := ⟨some (StaticFlights.empty.withFlag switchFlight true).source⟩
    ∃ (op : Operation) (s : CheckedSettings), ofResume (.resume request) store = .ok op ∧
      s.settings = ⟨"msauth://app", none⟩ ∧ ∀ params,
        (op.run params ⟨fun _ => .ok "msauth://app?code=abc", s.parser, v.answerReader, none⟩).deliveries =
            [.signIn ⟨⟨"abc", none⟩, "first"⟩] ∧
          ∃ result, (op.run params ⟨fun _ => .ok "msauth://app/switch_browser?code=abc", s.parser,
            v.answerReader, none⟩).deliveries = [.answer result] := by
  intro store request v
  have hvalid : (RequestSettings.mk "msauth://app" none).check = .ok () := by decide +kernel
  have hop : ofResume (.resume request) store = .ok (.resume request "first") := rfl
  refine ⟨_, ⟨_, hvalid⟩, hop, rfl, fun params => ⟨?_, ?_⟩⟩
  · obtain ⟨_, reference, parent, hrequest, hreference, hget, hsignIn, -⟩ :=
      resume_signs_in_iff hop params (fun _ => .ok "msauth://app?code=abc") none ⟨_, hvalid⟩ v
    cases hrequest
    cases hreference
    cases hget
    refine (hsignIn _).2 ⟨⟨_, rfl, ⟨"msauth".toList, some (.name "app".toList), none, [],
      some "code=abc".toList⟩, ?_⟩, rfl⟩
    have hunrelated : ∀ step : BrowserStep, step.read "msauth://app?code=abc" (some "msauth://app") none =
        .error (.unrelated ("not a " ++ step.name ++ " url")) := by
      intro step
      cases step <;> decide +kernel
    exact ⟨by decide +kernel, by decide +kernel, by decide +kernel, by decide +kernel,
      by decide +kernel, .inr fun step => ⟨_, hunrelated step⟩⟩
  · obtain ⟨_, _, _, -, -, -, -, hanswer⟩ :=
      resume_signs_in_iff hop params (fun _ => .ok "msauth://app/switch_browser?code=abc") none
        ⟨_, hvalid⟩ v
    refine hanswer.2 ?_
    rintro ⟨url, grant, hsession, u, -, -, -, -, -, hflight | hstep⟩
    · cases hflight
    · cases hsession
      obtain ⟨detail, hunrelated⟩ := hstep .away
      have hfaulty : BrowserStep.away.read "msauth://app/switch_browser?code=abc" (some "msauth://app")
          none = .error (.faulty "action_uri is nil.") := by decide +kernel
      cases hfaulty.symm.trans hunrelated

end Operation

end SignIn
