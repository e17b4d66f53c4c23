import SignIn.Proofs.Operation.Calls

namespace SignIn

private theorem Run.filterMap_map_called {α : Type} {f : RunEvent → Option α}
    (hcalled : ∀ call, f (.called call) = none) (calls : List CollaboratorCall) :
    (calls.map RunEvent.called).filterMap f = [] := by
  induction calls with
  | nil => rfl
  | cons call rest ih => rw [List.map_cons, List.filterMap_cons_none (hcalled call), ih]

namespace Outcome

private theorem delivery_eq_ok_iff {outcome : Outcome} {answer : Answer} :
    outcome.delivery = .answer (.ok answer) ↔ outcome = .answered answer := by
  cases outcome <;> simp [delivery]

private theorem delivery_eq_error_iff {outcome : Outcome} {error : OperationError} :
    outcome.delivery = .answer (.error error) ↔ outcome = .failed error := by
  cases outcome <;> simp [delivery]

/-- The handler of completed sign-ins is given completed sign-ins only. -/
theorem delivery_eq_signIn_iff {outcome : Outcome} {result : CompletedSignIn} :
    outcome.delivery = .signIn result ↔ outcome = .signedIn result := by
  cases outcome <;> simp [delivery]

private theorem stage_eq_answered_iff {outcome : Outcome} :
    outcome.stage = .answered ↔ ∃ answer, outcome.delivery = .answer (.ok answer) := by
  cases outcome <;> simp [stage, delivery]

private theorem stage_eq_signedIn_iff {outcome : Outcome} :
    outcome.stage = .signedIn ↔ ∃ result, outcome.delivery = .signIn result := by
  cases outcome <;> simp [stage, delivery]

private theorem stage_eq_failed_iff {outcome : Outcome} :
    outcome.stage = .failed ↔ ∃ error, outcome.delivery = .answer (.error error) := by
  cases outcome <;> simp [stage, delivery]

private theorem isFinal_stage (outcome : Outcome) : outcome.stage.isFinal = true := by
  cases outcome <;> rfl

end Outcome

namespace Operation

/-- An answer completes the sign-in if it is a grant and the operation ends a switch. -/
def Completes (op : Operation) (answer : Answer) : Prop :=
  ∃ request initialActionUri grant, op = .resume request initialActionUri ∧ answer = .grant grant

private theorem outcomeOf_eq_signedIn_iff {op : Operation} {answer : Answer} {result : CompletedSignIn} :
    op.outcomeOf answer = .signedIn result ↔
      ∃ request, op = .resume request result.initialActionUri ∧ answer = .grant result.grant := by
  cases result
  cases op <;> cases answer <;> simp [outcomeOf, and_comm]

private theorem outcomeOf_eq_answered_iff {op : Operation} {answer answer' : Answer} :
    op.outcomeOf answer = .answered answer' ↔ answer = answer' ∧ ¬ op.Completes answer' := by
  cases op <;> cases answer <;> simp +contextual [outcomeOf, Completes, eq_comm]

private theorem outcomeOf_ne_failed (op : Operation) (answer : Answer) (error : OperationError) :
    op.outcomeOf answer ≠ .failed error := by
  cases op <;> cases answer <;> simp [outcomeOf]

/-- All that a browser session can come to. -/
theorem conclusion_cases (op : Operation) (params : RequestParameters) (c : Collaborators) :
    (∃ source, c.channel (op.sessionRequest params c.policy) = .error source ∧
      (op.conclusion params c).2 = .failed (.channel source)) ∨
    (∃ callback source, c.channel (op.sessionRequest params c.policy) = .ok callback ∧
      c.reading callback params.label = .error source ∧
      (op.conclusion params c).2 = .failed (.reading source)) ∨
    ∃ callback answer, c.channel (op.sessionRequest params c.policy) = .ok callback ∧
      c.reading callback params.label = .ok answer ∧
      (op.conclusion params c).2 = op.outcomeOf answer := by
  cases hchannel : c.channel (op.sessionRequest params c.policy) with
  | error source => exact .inl ⟨source, rfl, by simp [conclusion, hchannel]⟩
  | ok callback =>
    cases hreading : c.reading callback params.label with
    | error source =>
      refine .inr (.inl ⟨callback, source, rfl, hreading, ?_⟩)
      simp [conclusion, hchannel, hreading]
    | ok answer =>
      refine .inr (.inr ⟨callback, answer, rfl, hreading, ?_⟩)
      simp [conclusion, hchannel, hreading]

private theorem conclusion_eq_failed_iff {op : Operation} {params : RequestParameters} {c : Collaborators}
    {error : OperationError} :
    (op.conclusion params c).2 = .failed error ↔
      (∃ source, c.channel (op.sessionRequest params c.policy) = .error source ∧
        error = .channel source) ∨
      ∃ callback source, c.channel (op.sessionRequest params c.policy) = .ok callback ∧
        c.reading callback params.label = .error source ∧ error = .reading source := by
  rcases op.conclusion_cases params c with ⟨source, hchannel, h⟩ |
    ⟨callback, source, hchannel, hreading, h⟩ | ⟨callback, answer, hchannel, hreading, h⟩
  · simp [hchannel, h, eq_comm]
  · simp [hchannel, hreading, h, eq_comm]
  · simp [hchannel, hreading, h, outcomeOf_ne_failed]

private theorem conclusion_eq_answered_iff {op : Operation} {params : RequestParameters} {c : Collaborators}
    {answer : Answer} :
    (op.conclusion params c).2 = .answered answer ↔
      ∃ callback, c.channel (op.sessionRequest params c.policy) = .ok callback ∧
        c.reading callback params.label = .ok answer ∧ ¬ op.Completes answer := by
  rcases op.conclusion_cases params c with ⟨source, hchannel, h⟩ |
    ⟨callback, source, hchannel, hreading, h⟩ | ⟨callback, answer', hchannel, hreading, h⟩
  · simp [hchannel, h]
  · simp [hchannel, hreading, h]
  · simp [hchannel, hreading, h, outcomeOf_eq_answered_iff]

/-- A session completes a sign-in if it ends a switch and its callback URL is read as a grant. -/
theorem conclusion_eq_signedIn_iff {op : Operation} {params : RequestParameters} {c : Collaborators}
    {result : CompletedSignIn} :
    (op.conclusion params c).2 = .signedIn result ↔
      ∃ request callback, op = .resume request result.initialActionUri ∧
        c.channel (op.sessionRequest params c.policy) = .ok callback ∧
        c.reading callback params.label = .ok (.grant result.grant) := by
  rcases op.conclusion_cases params c with ⟨source, hchannel, h⟩ |
    ⟨callback, source, hchannel, hreading, h⟩ | ⟨callback, answer, hchannel, hreading, h⟩
  · simp [hchannel, h]
  · simp [hchannel, hreading, h]
  · simp [hchannel, hreading, h, outcomeOf_eq_signedIn_iff]

/-- What of a run is not about its calls does not depend on them. -/
theorem filterMap_run {α : Type} {f : RunEvent → Option α} (hcalled : ∀ call, f (.called call) = none)
    (op : Operation) (params : RequestParameters) (c : Collaborators) :
    (op.run params c).filterMap f =
      [.entered .running, .delivered (op.conclusion params c).2.delivery,
        .entered (op.conclusion params c).2.stage].filterMap f := by
  rw [run_eq, ← List.singleton_append, List.filterMap_append, List.filterMap_append,
    Run.filterMap_map_called hcalled, List.append_nil, ← List.filterMap_append]
  rfl

/-- A run delivers what its session comes to, and nothing else. -/
theorem deliveries_run (op : Operation) (params : RequestParameters) (c : Collaborators) :
    (op.run params c).deliveries = [(op.conclusion params c).2.delivery] :=
  filterMap_run (fun _ => rfl) op params c

private theorem stages_run (op : Operation) (params : RequestParameters) (c : Collaborators) :
    (op.run params c).stages = [.running, (op.conclusion params c).2.stage] :=
  filterMap_run (fun _ => rfl) op params c

private theorem lastStage_run (op : Operation) (params : RequestParameters) (c : Collaborators) :
    (op.run params c).lastStage = (op.conclusion params c).2.stage := by
  rw [Run.lastStage, stages_run]
  rfl

/-- A run gives one thing to one handler, and the stage in which it leaves the operation tells which. A
completed sign-in takes an operation that ends a switch and a grant; any other answer, and the error of the
channel or of the parser, goes to the other handler. Each stage may follow the one before it, and nothing
follows the last one. -/
theorem run_completes_once (op : Operation) (params : RequestParameters) (c : Collaborators) :
    let session := c.channel (op.sessionRequest params c.policy)
    let last := (op.run params c).lastStage
    ∃ delivery, (op.run params c).deliveries = [delivery] ∧
      (last = .answered ↔ ∃ answer, delivery = .answer (.ok answer)) ∧
      (last = .signedIn ↔ ∃ result, delivery = .signIn result) ∧
      (last = .failed ↔ ∃ error, delivery = .answer (.error error)) ∧
      (∀ answer, delivery = .answer (.ok answer) ↔
        ∃ callback, session = .ok callback ∧ c.reading callback params.label = .ok answer ∧
          ¬ op.Completes answer) ∧
      (∀ result, delivery = .signIn result ↔
        ∃ request callback, op = .resume request result.initialActionUri ∧ session = .ok callback ∧
          c.reading callback params.label = .ok (.grant result.grant)) ∧
      (∀ error, delivery = .answer (.error error) ↔
        (∃ source, session = .error source ∧ error = .channel source) ∨
        ∃ callback source, session = .ok callback ∧ c.reading callback params.label = .error source ∧
          error = .reading source) ∧
      (Stage.created :: (op.run params c).stages).IsChain (fun stage next => stage.mayPrecede next) ∧
      last.isFinal := by
  intro session last
  have hlast : last = (op.conclusion params c).2.stage := lastStage_run op params c
  refine ⟨_, deliveries_run op params c, ?_, ?_, ?_, ?_, ?_, ?_, ?_, ?_⟩
  · rw [hlast, Outcome.stage_eq_answered_iff]
  · rw [hlast, Outcome.stage_eq_signedIn_iff]
  · rw [hlast, Outcome.stage_eq_failed_iff]
  · intro answer
    rw [Outcome.delivery_eq_ok_iff, conclusion_eq_answered_iff]
  · intro result
    rw [Outcome.delivery_eq_signIn_iff, conclusion_eq_signedIn_iff]
  · intro error
    rw [Outcome.delivery_eq_error_iff, conclusion_eq_failed_iff]
  · rw [stages_run, List.isChain_cons_cons, List.isChain_cons_cons]
    exact ⟨rfl, Outcome.isFinal_stage _, .singleton _⟩
  · rw [hlast]
    exact Outcome.isFinal_stage _

/-- Four runs with the parser and the reader of the library. A code signs in where a switch ends, and is an
answer where a switch begins; a URL without a code and a channel that fails are errors. -/
theorem run_completes_once_with_own_reader :
    let redirect : Redirect := ⟨"second", "u", none, SessionModes.none⟩
    let resume : Operation := .resume ⟨redirect, some ⟨1, 0⟩⟩ "first"
    let params : RequestParameters := ⟨⟨"1"⟩, ⟨none, false⟩, none⟩
    ∃ s : CheckedSettings,
      let run (op : Operation) (session : Except ForeignError String) : Run :=
        op.run params ⟨fun _ => session, s.parser, (⟨none⟩ : FlightView).answerReader, none⟩
      ((run resume (.ok "msauth://app?code=c")).deliveries = [.signIn ⟨⟨"c", none⟩, "first"⟩] ∧
        (run resume (.ok "msauth://app?code=c")).lastStage = .signedIn) ∧
      ((run (.switch ⟨redirect⟩) (.ok "msauth://app?code=c")).deliveries =
          [.answer (.ok (.grant ⟨"c", none⟩))] ∧
        (run (.switch ⟨redirect⟩) (.ok "msauth://app?code=c")).lastStage = .answered) ∧
      ((run resume (.ok "msauth://app")).deliveries =
          [.answer (.error (.reading (.callback (.unrelated "no authorization code"))))] ∧
        (run resume (.ok "msauth://app")).lastStage = .failed) ∧
      (run resume (.error (.text "closed"))).deliveries = [.answer (.error (.channel (.text "closed")))] ∧
      (run resume (.error (.text "closed"))).lastStage = .failed := by
  intro redirect resume params
  have hvalid : (RequestSettings.mk "msauth://app" none).check = .ok () := by decide +kernel
  let s : CheckedSettings := ⟨_, hvalid⟩
  refine ⟨s, ?_⟩
  intro run
  let c (session : Except ForeignError String) : Collaborators :=
    ⟨fun _ => session, s.parser, (⟨none⟩ : FlightView).answerReader, none⟩
  have hgranted : readFinal "msauth://app?code=c" = .ok (.grant ⟨"c", none⟩) := by decide +kernel
  have hunrelated : readFinal "msauth://app" = .error (.unrelated "no authorization code") := by
    decide +kernel
  have hreading (session : Except ForeignError String) (url : String) :
      (c session).reading url params.label = (readFinal url).mapError .callback := by
    rw [CheckedSettings.reading_eq_parse, CheckedSettings.parse, FlightView.answerReader,
      if_neg (show ¬ (⟨none⟩ : FlightView).flag switchFlight = true from Bool.false_ne_true)]
    rfl
  have hcode (session : Except ForeignError String) :
      (c session).reading "msauth://app?code=c" params.label = .ok (.grant ⟨"c", none⟩) := by
    rw [hreading, hgranted]
    rfl
  have hnone (session : Except ForeignError String) :
      (c session).reading "msauth://app" params.label =
        .error (.callback (.unrelated "no authorization code")) := by
    rw [hreading, hunrelated]
    rfl
  refine ⟨?_, ?_, ?_, ?_⟩
  · obtain ⟨delivery, hone, -, hsignedIn, -, -, hsignIn, -⟩ :=
      run_completes_once resume params (c (.ok "msauth://app?code=c"))
    obtain rfl := (hsignIn ⟨⟨"c", none⟩, "first"⟩).2 ⟨_, _, rfl, rfl, hcode _⟩
    exact ⟨hone, hsignedIn.2 ⟨_, rfl⟩⟩
  · obtain ⟨delivery, hone, hanswered, -, -, hanswer, -⟩ :=
      run_completes_once (.switch ⟨redirect⟩) params (c (.ok "msauth://app?code=c"))
    have hbegins : ¬ (Operation.switch ⟨redirect⟩).Completes (.grant ⟨"c", none⟩) := by
      rintro ⟨_, _, _, hop, -⟩
      cases hop
    obtain rfl := (hanswer (.grant ⟨"c", none⟩)).2 ⟨_, rfl, hcode _, hbegins⟩
    exact ⟨hone, hanswered.2 ⟨_, rfl⟩⟩
  · obtain ⟨delivery, hone, -, -, hfailed, -, -, herror, -⟩ :=
      run_completes_once resume params (c (.ok "msauth://app"))
    obtain rfl := (herror _).2 (.inr ⟨_, _, rfl, hnone _, rfl⟩)
    exact ⟨hone, hfailed.2 ⟨_, rfl⟩⟩
  · obtain ⟨delivery, hone, -, -, hfailed, -, -, herror, -⟩ :=
      run_completes_once resume params (c (.error (.text "closed")))
    obtain rfl := (herror _).2 (.inl ⟨_, rfl, rfl⟩)
    exact ⟨hone, hfailed.2 ⟨_, rfl⟩⟩

end Operation

end SignIn
