import Mathlib.Tactic.Common
import SignIn.Operation.Run

namespace SignIn

namespace Run

private theorem calls_map_called (calls : List CollaboratorCall) : Run.calls (calls.map .called) = calls := by
  induction calls with
  | nil => rfl
  | cons call rest ih => exact congrArg (call :: ·) ih

end Run

/-- What the parser makes of a callback URL with the help of the reader. -/
def Collaborators.reading (c : Collaborators) (callback : String) (label : RequestLabel) :
    Except ForeignError Answer :=
  ((c.parser callback label).run c.reader).2

/-- A parser that needs no reader comes to what it says itself. -/
theorem Collaborators.reading_of_finish {c : Collaborators} {callback : String} {label : RequestLabel}
    {result : Except ForeignError Answer} (hparser : c.parser callback label = .finish result) :
    c.reading callback label = result := by
  rw [reading, hparser, Dialogue.run_finish]

/-- A parser that asks the reader goes on with what the reader says. -/
theorem Collaborators.reading_of_ask {c : Collaborators} {callback : String} {label : RequestLabel}
    {query : CallbackQuery} {next : Except CallbackError Answer → ReadingPlan}
    (hparser : c.parser callback label = .ask query next) :
    c.reading callback label = ((next (c.reader query)).run c.reader).2 := by
  rw [reading, hparser, Dialogue.run_ask]

/-- The parser of the library comes to what its own reading of the callback URL gives. -/
theorem CheckedSettings.reading_eq_parse (s : CheckedSettings) (reader : AnswerReader)
    (channel : SessionRequest → Except ForeignError String) (policy : Option StartPolicy)
    (url : String) (label : RequestLabel) :
    (Collaborators.mk channel s.parser reader policy).reading url label =
      (s.parse url reader label).mapError .callback := by
  have hparser : s.parser url label = .ask (s.query url label) fun answer =>
    .finish (answer.mapError .callback) := rfl
  rw [Collaborators.reading_of_ask hparser, Dialogue.run_finish, parse]

namespace Operation

/-- The start URL under a policy, which may put another one in its place. -/
def startUrl (op : Operation) (policy : Option StartPolicy) : String :=
  (policy.bind fun replacement => replacement op.plainStartUrl).getD op.plainStartUrl

/-- What the channel is told to open under a policy. -/
def sessionRequest (op : Operation) (params : RequestParameters) (policy : Option StartPolicy) :
    SessionRequest :=
  op.sessionAt params (op.startUrl policy)

/-- The call that tells the channel on which URI its session ends. -/
def registration (params : RequestParameters) : List CollaboratorCall :=
  (params.redirectUri.bind fun uri => (Url.parse uri).toOption.map fun u =>
    CollaboratorCall.registerRedirect uri (String.ofList u.scheme)).toList

/-- The calls up to the end of the browser session. -/
def sessionCalls (op : Operation) (params : RequestParameters) (c : Collaborators) :
    List CollaboratorCall :=
  registration params ++ (c.policy.toList.map fun _ => .askPolicy op.plainStartUrl) ++
    [.openSession (op.sessionRequest params c.policy), .forgetSession]

/-- What the browser session comes to: the calls that reading its callback URL takes, and the outcome. -/
def conclusion (op : Operation) (params : RequestParameters) (c : Collaborators) :
    List CollaboratorCall × Outcome :=
  match c.channel (op.sessionRequest params c.policy) with
  | .error source => ([], .failed (.channel source))
  | .ok callback =>
    (.parse callback :: ((c.parser callback params.label).run c.reader).1.map .askReader,
      match c.reading callback params.label with
      | .error source => .failed (.reading source)
      | .ok answer => op.outcomeOf answer)

private theorem conclusion_calls (op : Operation) (params : RequestParameters) (c : Collaborators) :
    (op.conclusion params c).1 =
      (c.channel (op.sessionRequest params c.policy)).toOption.toList.flatMap fun callback =>
        .parse callback :: ((c.parser callback params.label).run c.reader).1.map .askReader := by
  unfold conclusion
  cases c.channel (op.sessionRequest params c.policy) <;> simp [Except.toOption]

section Plan

variable (c : Collaborators) (label : RequestLabel)

private theorem run_call (made : CollaboratorCall) :
    (call made).run (c.replyTo label) = ([.called made], c.reply label made) :=
  rfl

private theorem run_registerRedirect (params : RequestParameters) :
    (registerRedirect params).run (c.replyTo label) = ((registration params).map .called, ()) := by
  rw [registerRedirect, registration]
  cases params.redirectUri with
  | none => rfl
  | some uri =>
    dsimp only [Option.bind_some]
    cases Url.parse uri <;> rfl

private theorem run_chooseStartUrl (op : Operation) :
    (op.chooseStartUrl c.policy.isSome).run (c.replyTo label) =
      (c.policy.toList.map fun _ => .called (.askPolicy op.plainStartUrl), op.startUrl c.policy) := by
  obtain ⟨channel, parser, reader, policy⟩ := c
  cases policy <;> rfl

/-- The questions of the parser become calls to the reader. -/
theorem run_readCallback (callback : String) :
    (readCallback callback).run (c.replyTo label) =
      ((.parse callback :: ((c.parser callback label).run c.reader).1.map .askReader).map .called,
        c.reading callback label) := by
  have hwithin := Dialogue.run_within (c.replyTo label) (fun query => call (.askReader query))
    (c.parser callback label)
  rw [readCallback, Dialogue.run_bind, run_call]
  refine (congrArg (fun reading => (.called (.parse callback) :: reading.1, reading.2)) hwithin).trans ?_
  rw [List.map_cons, List.map_map, List.map_eq_flatMap]
  rfl

private theorem run_concludeSession (op : Operation) (params : RequestParameters) :
    (op.concludeSession (c.channel (op.sessionRequest params c.policy))).run (c.replyTo params.label) =
      ((op.conclusion params c).1.map .called, (op.conclusion params c).2) := by
  rw [conclusion]
  cases c.channel (op.sessionRequest params c.policy) with
  | error source => rfl
  | ok callback =>
    rw [concludeSession, Dialogue.run_bind, run_readCallback]
    dsimp only
    cases c.reading callback params.label <;> simp

end Plan

/-- A run is made up of the runs of its parts. -/
theorem run_eq (op : Operation) (params : RequestParameters) (c : Collaborators) :
    op.run params c =
      .entered .running :: (op.sessionCalls params c ++ (op.conclusion params c).1).map .called ++
        [.delivered (op.conclusion params c).2.delivery, .entered (op.conclusion params c).2.stage] := by
  rw [run, plan]
  simp only [Dialogue.run_bind, Dialogue.run_put, Dialogue.run_putAll, run_registerRedirect]
  rw [run_chooseStartUrl, run_call, run_call]
  simp only [Collaborators.reply]
  rw [← sessionRequest, run_concludeSession]
  simp [sessionCalls, Outcome.deliver]

private theorem calls_run (op : Operation) (params : RequestParameters) (c : Collaborators) :
    (op.run params c).calls = op.sessionCalls params c ++ (op.conclusion params c).1 := by
  rw [run_eq, ← List.singleton_append, Run.calls, List.filterMap_append, List.filterMap_append]
  exact (List.append_nil _).trans (Run.calls_map_called _)

/-- A policy that leaves the start URL as it is makes no difference to what the session comes to. -/
theorem sessionRequest_eq_of_kept {op : Operation} {replace : StartPolicy}
    (hkept : replace op.plainStartUrl = none) (params : RequestParameters) :
    op.sessionRequest params (some replace) = op.sessionRequest params none := by
  simp [sessionRequest, startUrl, hkept]

private theorem conclusion_eq_of_kept {op : Operation} {replace : StartPolicy}
    (hkept : replace op.plainStartUrl = none) (params : RequestParameters) (c : Collaborators) :
    op.conclusion params { c with policy := some replace } =
      op.conclusion params { c with policy := none } := by
  unfold conclusion
  rw [sessionRequest_eq_of_kept hkept]
  rfl

private theorem askPolicy_notMem_registration (params : RequestParameters) (url : String) :
    .askPolicy url ∉ registration params := by
  rw [registration, Option.mem_toList, Option.bind_eq_some_iff]
  rintro ⟨uri, -, h⟩
  obtain ⟨u, -, hcall⟩ := Option.map_eq_some_iff.1 h
  cases hcall

private theorem askPolicy_notMem_conclusion (op : Operation) (params : RequestParameters) (c : Collaborators)
    (url : String) : .askPolicy url ∉ (op.conclusion params c).1 := by
  simp [conclusion_calls]

private theorem calls_run_eq_of_kept {op : Operation} {replace : StartPolicy}
    (hkept : replace op.plainStartUrl = none) (params : RequestParameters) (c : Collaborators) :
    (op.run params { c with policy := some replace }).calls.filter (· ≠ .askPolicy op.plainStartUrl) =
      (op.run params { c with policy := none }).calls := by
  have hothers {calls : List CollaboratorCall} (hnone : .askPolicy op.plainStartUrl ∉ calls) :
      calls.filter (· ≠ .askPolicy op.plainStartUrl) = calls := by
    refine List.filter_eq_self.2 fun call hcall => decide_eq_true ?_
    rintro rfl
    exact hnone hcall
  rw [calls_run, calls_run, sessionCalls, sessionCalls, List.filter_append, List.filter_append,
    List.filter_append, hothers (askPolicy_notMem_registration params _),
    hothers (askPolicy_notMem_conclusion op params _ _), conclusion_eq_of_kept hkept,
    sessionRequest_eq_of_kept hkept]
  simp

/-- The calls of a run, in order: the channel learns the redirect URI if there is one that is a URL, the
policy is asked about the composed URL if there is one, the channel opens a session and forgets it, and the
parser gets the callback URL if the channel gave one. The delivery to a handler comes after all of them. A
policy that replaces nothing makes no difference to the other calls. -/
theorem run_calls_in_order (op : Operation) (params : RequestParameters) (c : Collaborators) :
    let composed := uriWithCode op.redirect.actionUri op.redirect.sessionToken
    let request : SessionRequest :=
      { url := (c.policy.bind fun replace => replace composed).getD composed
        presentation := ⟨params.presentation.anchor, op.redirect.modes.bits.toNat.testBit 0⟩
        label := params.label }
    (op.run params c).calls =
        (params.redirectUri.bind fun uri => (Url.parse uri).toOption.map fun u =>
          CollaboratorCall.registerRedirect uri (String.ofList u.scheme)).toList ++
        (c.policy.map fun _ => CollaboratorCall.askPolicy composed).toList ++
        [.openSession request, .forgetSession] ++
        ((c.channel request).toOption.toList.flatMap fun callback =>
          .parse callback :: ((c.parser callback params.label).run c.reader).1.map .askReader) ∧
      (∃ delivery stage, op.run params c =
        .entered .running :: (op.run params c).calls.map .called ++
          [.delivered delivery, .entered stage]) ∧
      ∀ replace : StartPolicy, replace composed = none →
        (op.run params { c with policy := some replace }).calls.filter (· ≠ .askPolicy composed) =
          (op.run params { c with policy := none }).calls := by
  intro composed request
  have hrequest : op.sessionRequest params c.policy = request := by
    rw [sessionRequest, sessionAt, Presentation.withEphemeral, SessionModes.isPrivate_eq_testBit]
    rfl
  refine ⟨?_, ⟨(op.conclusion params c).2.delivery, (op.conclusion params c).2.stage, ?_⟩, ?_⟩
  · have hpolicy : (c.policy.toList.map fun _ => CollaboratorCall.askPolicy op.plainStartUrl) =
        (c.policy.map fun _ => CollaboratorCall.askPolicy composed).toList := by
      cases c.policy <;> rfl
    rw [calls_run, sessionCalls, conclusion_calls, registration, hpolicy, hrequest]
  · rw [calls_run]
    exact run_eq op params c
  · intro replace hkept
    exact calls_run_eq_of_kept hkept params c

/-- A policy that keeps every URL is asked, and else the calls are those of a run without a policy. -/
theorem run_calls_in_order_of_silent_policy :
    let label : RequestLabel := ⟨"1"⟩
    let op : Operation := .switch ⟨⟨"login?code=old&x=1", "token", none, ⟨3⟩⟩⟩
    let params : RequestParameters := ⟨label, ⟨some "window", false⟩, some "msauth://app"⟩
    let c : Collaborators :=
      { channel := fun _ => .ok "msauth://app?code=c"
        parser := fun _ _ => .finish (.error (.text "unreadable"))
        reader := fun _ => .error .missingState
        policy := some fun _ => none }
    .askPolicy "login?x=1&code=token" ∈ (op.run params c).calls ∧
      (op.run params c).calls.filter (· ≠ .askPolicy "login?x=1&code=token") =
        [.registerRedirect "msauth://app" "msauth",
         .openSession ⟨"login?x=1&code=token", ⟨some "window", true⟩, label⟩, .forgetSession,
         .parse "msauth://app?code=c"] := by
  intro label op params c
  obtain ⟨hcalls, -, hsilent⟩ := run_calls_in_order op params c
  have hcomposed : uriWithCode op.redirect.actionUri op.redirect.sessionToken =
      "login?x=1&code=token" := by decide +kernel
  have hothers := hsilent (fun _ => none) rfl
  rw [hcomposed] at hothers
  refine ⟨?_, hothers.trans ?_⟩
  · rw [hcalls, hcomposed]
    simp [c]
  · decide +kernel

end Operation

end SignIn
