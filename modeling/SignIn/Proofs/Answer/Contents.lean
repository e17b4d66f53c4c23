import SignIn.Proofs.Answer.Dependence
import SignIn.Proofs.Answer.StoreHistory

namespace SignIn

private theorem Url.param_ne_empty {u : Url} {name value : String} (hparam : u.param name = some value) :
    value ≠ "" := by
  unfold param at hparam
  split at hparam
  · split_ifs at hparam with hempty
    cases hparam
    exact hempty
  · cases hparam

private theorem Url.empty_notMem_param (u : Url) (name : String) : "" ∉ (u.param name).toList := by
  intro hempty
  exact param_ne_empty (Option.mem_toList.1 hempty) rfl

/-- A redirect carries what its URL says, and a state if one was sent. -/
theorem Redirect.params_of_ofUrl {u : Url} {sentState : Option String} {r : Redirect}
    (hread : ofUrl u sentState = .ok r) :
    u.param "action_uri" = some r.actionUri ∧ u.param "code" = some r.sessionToken ∧
      u.param "state" = r.state ∧ (sentState.isSome → r.state.isSome) := by
  unfold ofUrl at hread
  cases hactionUri : u.param "action_uri" with
  | none => simp [hactionUri] at hread
  | some actionUri =>
    cases htoken : u.param "code" with
    | none => simp [hactionUri, htoken] at hread
    | some sessionToken =>
      simp only [hactionUri, htoken] at hread
      split_ifs at hread with hmissing
      cases hread
      refine ⟨rfl, rfl, rfl, fun hsent => ?_⟩
      exact Option.isSome_iff_ne_none.2 fun hstate => hmissing ⟨hsent, hstate⟩

private theorem Redirect.exists_ofUrl_of_parse {step : BrowserStep} {url : String}
    {redirectUri sentState : Option String} {r : Redirect}
    (hread : parse step url redirectUri sentState = .ok r) : ∃ u, ofUrl u sentState = .ok r := by
  obtain ⟨u, -, hread⟩ := bind_eq_ok_iff.1 hread
  cases redirectUri with
  | none => exact ⟨u, hread⟩
  | some redirectUri =>
    obtain ⟨_, -, hread⟩ := bind_eq_ok_iff.1 hread
    exact ⟨u, hread⟩

private theorem Refusal.exists_params_of_ofUrl {url : String} {refusal : Refusal}
    (hread : ofUrl url = .ok refusal) :
    ∃ u : Url, refusal.error = (u.param "error").getD unnamedError ∧
      u.param "error_description" = refusal.description ∧ u.param "state" = refusal.state := by
  obtain ⟨u, hparse, -⟩ := bind_eq_ok_iff.1 hread
  rw [ofUrl_eq_of_parse (mapError_eq_ok_iff.1 hparse)] at hread
  refine ⟨u, ?_⟩
  split at hread
  · cases hread
  · cases hread
    exact ⟨rfl, rfl, rfl⟩

namespace Answer

/-- The texts that an answer carries. -/
def texts : Answer → List String
  | switch ⟨redirect⟩ | resume ⟨redirect, _⟩ =>
    redirect.actionUri :: redirect.sessionToken :: redirect.state.toList
  | grant g => g.code :: g.state.toList
  | refusal r => r.error :: (r.description.toList ++ r.state.toList)

/-- The reference to the request that began a switch, in an answer that ends it. -/
def parent? : Answer → Option SwitchRef
  | resume request => request.parent
  | switch _ | grant _ | refusal _ => none

/-- An answer as it came in. -/
def unlinked : Answer → Answer
  | resume request => resume { request with parent := none }
  | a => a

/-- What can be relied on in an answer, given whether a state was asked for. -/
structure Complete (asked : Bool) (a : Answer) : Prop where
  texts : "" ∉ a.texts
  state : asked → ∀ step redirect, a.redirect? = some (step, redirect) → redirect.state.isSome

/-- How answers come out of URLs, and whether a state was asked for. The answers of a parser are read like
those of the reader that it asks. -/
inductive Read : Bool → Answer → Prop where
  | switch {url : String} {redirectUri sentState : Option String} {request : SwitchRequest}
      (hread : SwitchRequest.ofUrl url redirectUri sentState = .ok request) :
      Read sentState.isSome (switch request)
  | resume {url : String} {redirectUri sentState : Option String} {request : ResumeRequest}
      (hread : ResumeRequest.ofUrl url redirectUri sentState = .ok request) :
      Read sentState.isSome (resume request)
  | grant {url : String} {g : CodeGrant} (hread : CodeGrant.ofUrl url = .ok g) : Read false (grant g)
  | refusal {url : String} {r : Refusal} (hread : Refusal.ofUrl url = .ok r) : Read false (refusal r)
  | reader (v : FlightView) (q : CallbackQuery) {a : Answer} (hread : v.answerReader q = .ok a) :
      Read (v.flag switchFlight && v.flag switchStateFlight && q.sentState.isSome) a
  | parse (s : CheckedSettings) (reader : AnswerReader) {url : String} {label : RequestLabel} {asked : Bool}
      {a : Answer} (hreader : ∀ b, reader (s.query url label) = .ok b → Read asked b)
      (hread : s.parse url reader label = .ok a) : Read asked a
  | parser (s : CheckedSettings) (reader : AnswerReader) {url : String} {label : RequestLabel} {asked : Bool}
      {a : Answer} (hreader : ∀ b, reader (s.query url label) = .ok b → Read asked b)
      (hread : ((s.parser url label).run reader).2 = .ok a) : Read asked a

private theorem texts_unlinked (a : Answer) : a.unlinked.texts = a.texts := by
  cases a <;> rfl

private theorem redirect?_unlinked (a : Answer) : a.unlinked.redirect? = a.redirect? := by
  cases a <;> rfl

/-- What can be relied on is the same however an answer is linked. -/
theorem Complete.of_unlinked {asked : Bool} {a : Answer} (ha : a.unlinked.Complete asked) :
    a.Complete asked where
  texts := texts_unlinked a ▸ ha.texts
  state := redirect?_unlinked a ▸ ha.state

private theorem complete_answer {u : Url} {sentState : Option String} {r : Redirect}
    (hread : Redirect.ofUrl u sentState = .ok r) (step : BrowserStep) :
    (step.answer r).Complete sentState.isSome := by
  obtain ⟨hactionUri, htoken, hstate, hasked⟩ := Redirect.params_of_ofUrl hread
  constructor
  · have htexts : (step.answer r).texts = r.actionUri :: r.sessionToken :: r.state.toList := by
      cases step <;> rfl
    rw [htexts, List.mem_cons, List.mem_cons]
    rintro (hempty | hempty | hempty)
    · exact Url.param_ne_empty hactionUri hempty.symm
    · exact Url.param_ne_empty htoken hempty.symm
    · exact u.empty_notMem_param "state" (hstate ▸ hempty)
  · intro hsent step' redirect hredirect
    rw [step.redirect?_answer] at hredirect
    cases hredirect
    exact hasked hsent

private theorem complete_of_read (step : BrowserStep) {url : String} {redirectUri sentState : Option String}
    {a : Answer} (hread : step.read url redirectUri sentState = .ok a) :
    a.Complete sentState.isSome ∧ a.parent? = none := by
  rw [step.read_eq] at hread
  obtain ⟨r, hparse, rfl⟩ := map_eq_ok_iff.1 hread
  obtain ⟨u, hread⟩ := Redirect.exists_ofUrl_of_parse hparse
  exact ⟨complete_answer hread step, by cases step <;> rfl⟩

private theorem complete_grant {url : String} {g : CodeGrant} (hread : CodeGrant.ofUrl url = .ok g)
    (asked : Bool) : (grant g).Complete asked := by
  obtain ⟨u, -, hcode, hstate⟩ := CodeGrant.ofUrl_eq_ok_iff.1 hread
  refine ⟨?_, fun _ step redirect hredirect => by cases hredirect⟩
  rw [texts, List.mem_cons]
  rintro (hempty | hempty)
  · exact Url.param_ne_empty hcode hempty.symm
  · exact u.empty_notMem_param "state" (hstate ▸ hempty)

private theorem complete_refusal {url : String} {r : Refusal} (hread : Refusal.ofUrl url = .ok r)
    (asked : Bool) : (refusal r).Complete asked := by
  obtain ⟨u, herror, hdescription, hstate⟩ := Refusal.exists_params_of_ofUrl hread
  refine ⟨?_, fun _ step redirect hredirect => by cases hredirect⟩
  rw [texts, List.mem_cons, List.mem_append]
  rintro (hempty | hempty | hempty)
  · cases hparam : u.param "error" with
    | none =>
      rw [herror, hparam] at hempty
      exact absurd hempty (by decide)
    | some error =>
      rw [herror, hparam] at hempty
      exact Url.param_ne_empty hparam hempty.symm
  · exact u.empty_notMem_param "error_description" (hdescription ▸ hempty)
  · exact u.empty_notMem_param "state" (hstate ▸ hempty)

private theorem complete_of_readFinal {url : String} {a : Answer} (hread : readFinal url = .ok a)
    (asked : Bool) :
    a.Complete asked ∧ a.parent? = none := by
  unfold readFinal at hread
  split at hread
  · next r hrefusal =>
    cases hread
    exact ⟨complete_refusal hrefusal asked, rfl⟩
  · obtain ⟨g, hgrant, rfl⟩ := map_eq_ok_iff.1 hread
    exact ⟨complete_grant hgrant asked, rfl⟩

private theorem complete_of_readContinuing {url redirectUri : String} {sentState : Option String} {a : Answer}
    (hread : readContinuing url redirectUri sentState = .ok a) :
    a.Complete sentState.isSome ∧ a.parent? = none := by
  obtain ⟨step, u, hcases⟩ | hcases := readContinuing_cases url redirectUri
  · rw [hcases] at hread
    obtain ⟨r, hredirect, rfl⟩ := map_eq_ok_iff.1 hread
    exact ⟨complete_answer hredirect step, by cases step <;> rfl⟩
  · rw [hcases] at hread
    exact complete_of_readFinal hread _

private theorem complete_of_answerReader {v : FlightView} {q : CallbackQuery} {a : Answer}
    (hread : v.answerReader q = .ok a) :
    a.Complete (v.flag switchFlight && v.flag switchStateFlight && q.sentState.isSome) ∧
      a.parent? = none := by
  cases hswitch : v.flag switchFlight with
  | false =>
    rw [FlightView.answerReader_off hswitch] at hread
    exact complete_of_readFinal hread _
  | true =>
    rw [FlightView.answerReader_on hswitch] at hread
    cases hstate : v.flag switchStateFlight with
    | false =>
      rw [FlightView.requiredState_off hstate] at hread
      exact complete_of_readContinuing hread
    | true =>
      rw [FlightView.requiredState_on hstate] at hread
      exact complete_of_readContinuing hread

private theorem Read.complete {asked : Bool} {a : Answer} (hread : a.Read asked) :
    a.Complete asked ∧ a.parent? = none := by
  induction hread with
  | switch hread => exact complete_of_read .away (map_eq_ok_iff.2 ⟨_, hread, rfl⟩)
  | resume hread => exact complete_of_read .back (map_eq_ok_iff.2 ⟨_, hread, rfl⟩)
  | grant hread => exact ⟨complete_grant hread false, rfl⟩
  | refusal hread => exact ⟨complete_refusal hread false, rfl⟩
  | reader v q hread => exact complete_of_answerReader hread
  | parse s reader _ hread ih => exact ih _ hread
  | parser s reader _ hread ih => exact ih _ (mapError_eq_ok_iff.1 hread)

end Answer

/-- The answer that a call brings into a session. -/
def StoreCall.answer? : StoreCall → Option Answer
  | receive redirect => some (.resume ⟨redirect, none⟩)
  | insert _ request | link _ _ request => some (.switch request)
  | newStore | setParent _ _ => none

namespace StoreHistory

/-- The answers that are in a session: those that end a switch, and those that are in the stores. -/
def answers (h : StoreHistory) : List Answer :=
  h.children.map .resume ++ h.stores.flatMap fun store => store.requests.map .switch

private theorem mem_answers_iff {h : StoreHistory} {a : Answer} :
    a ∈ h.answers ↔ (∃ child ∈ h.children, .resume child = a) ∨
      ∃ store ∈ h.stores, ∃ request ∈ store.requests, .switch request = a := by
  simp [answers]

private theorem mem_answers_noteIssue {h : StoreHistory} {i : Nat} {store : SwitchStore}
    (hstore : h.stores[i]? = some store) {request : SwitchRequest} {a : Answer}
    (ha : a ∈ (h.noteIssue i (store.insert request).2 (store.insert request).1 request).answers) :
    a ∈ h.answers ∨ a = .switch request := by
  rcases mem_answers_iff.1 ha with hchild | ⟨later, hlater, kept, hkept, rfl⟩
  · exact .inl (mem_answers_iff.2 (.inl hchild))
  · rcases List.mem_or_eq_of_mem_set hlater with hold | rfl
    · exact .inl (mem_answers_iff.2 (.inr ⟨later, hold, kept, hkept, rfl⟩))
    · rcases List.mem_append.1 hkept with hbefore | hnew
      · exact .inl (mem_answers_iff.2 (.inr ⟨store, List.mem_of_getElem? hstore, kept, hbefore, rfl⟩))
      · exact .inr (congrArg _ (List.mem_singleton.1 hnew))

private theorem mem_answers_noteParent {h : StoreHistory} {k : Nat} {child : ResumeRequest}
    (hchild : h.children[k]? = some child) {reference : SwitchRef} {a : Answer}
    (ha : a ∈ (h.noteParent k (child.withParent reference) reference).answers) :
    ∃ b ∈ h.answers, b.unlinked = a.unlinked := by
  rcases mem_answers_iff.1 ha with ⟨later, hlater, rfl⟩ | hkept
  · rcases List.mem_or_eq_of_mem_set hlater with hold | rfl
    · exact ⟨_, mem_answers_iff.2 (.inl ⟨later, hold, rfl⟩), rfl⟩
    · exact ⟨_, mem_answers_iff.2 (.inl ⟨child, List.mem_of_getElem? hchild, rfl⟩), rfl⟩
  · exact ⟨a, mem_answers_iff.2 (.inr hkept), rfl⟩

/-- A call leaves the answers of a session as they came in, and adds none but the one that it brings in. -/
theorem unlinked_of_mem_answers_step {h : StoreHistory} {call : StoreCall} {a : Answer}
    (ha : a ∈ (h.step call).answers) :
    (∃ b ∈ h.answers, b.unlinked = a.unlinked) ∨ call.answer? = some a.unlinked := by
  cases call with
  | newStore =>
    refine .inl ⟨a, ?_, rfl⟩
    simpa [step, addStore, StoreNumbers.newStore, answers] using ha
  | receive redirect =>
    rcases mem_answers_iff.1 ha with ⟨child, hchild, rfl⟩ | hkept
    · rcases List.mem_append.1 hchild with hold | hnew
      · exact .inl ⟨_, mem_answers_iff.2 (.inl ⟨child, hold, rfl⟩), rfl⟩
      · cases List.mem_singleton.1 hnew
        exact .inr rfl
    · exact .inl ⟨a, mem_answers_iff.2 (.inr hkept), rfl⟩
  | insert i request =>
    rw [step] at ha
    split at ha
    · next store hstore =>
      rcases mem_answers_noteIssue hstore ha with hold | rfl
      · exact .inl ⟨a, hold, rfl⟩
      · exact .inr rfl
    · exact .inl ⟨a, ha, rfl⟩
  | link i k parent =>
    rw [step] at ha
    split at ha
    · next store child hstore hchild =>
      have hissued : (h.noteIssue i (store.insert parent).2 (store.insert parent).1 parent).children[k]? =
          some child := hchild
      obtain ⟨b, hb, hsame⟩ := mem_answers_noteParent hissued ha
      rcases mem_answers_noteIssue hstore hb with hold | rfl
      · exact .inl ⟨b, hold, hsame⟩
      · exact .inr (congrArg some hsame)
    · exact .inl ⟨a, ha, rfl⟩
  | setParent k reference =>
    rw [step] at ha
    split at ha
    · next child hchild => exact .inl (mem_answers_noteParent hchild ha)
    · exact .inl ⟨a, ha, rfl⟩

private theorem unlinked_of_mem_answers_run {calls : List StoreCall} {a : Answer}
    (ha : a ∈ (run calls).answers) :
    a.unlinked ∈ calls.filterMap StoreCall.answer? := by
  induction calls using List.reverseRecOn generalizing a with
  | nil => cases ha
  | append_singleton calls call ih =>
    rw [run_concat] at ha
    rw [List.filterMap_append, List.mem_append]
    rcases unlinked_of_mem_answers_step ha with ⟨b, hb, hsame⟩ | hbrought
    · exact .inl (hsame ▸ ih hb)
    · exact .inr (List.mem_filterMap.2 ⟨call, List.mem_singleton_self call, hbrought⟩)

/-- An answer that was read from a URL, in whichever way, carries no empty text, refers to no other request
and has a state if it is a redirect that a state was asked of. In a session that puts such answers into stores
and links them, over and over and from one store to the other, every answer is, but for the reference that it
was given, one of those that came in. All that could be relied on then still can be. -/
theorem answers_stay_complete :
    (∀ asked a, Answer.Read asked a → a.Complete asked ∧ a.parent? = none) ∧
      ∀ calls : List StoreCall, ∀ a ∈ (run calls).answers,
        a.unlinked ∈ calls.filterMap StoreCall.answer? ∧
          ∀ asked, a.unlinked.Read asked → a.Complete asked := by
  refine ⟨fun asked a hread => hread.complete, fun calls a ha => ?_⟩
  exact ⟨unlinked_of_mem_answers_run ha, fun asked hread => .of_unlinked hread.complete.1⟩

/-- A redirect back that is linked in a store and then given a reference of another store: its state is still
there. -/
theorem answers_stay_complete_after_relinking :
    let v : FlightView :=
      ⟨some ((StaticFlights.empty.withFlag switchFlight true).withFlag switchStateFlight true).source⟩
    let redirect : Redirect := ⟨"a", "c", some "s", SessionModes.none⟩
    let calls : List StoreCall := [.newStore, .receive redirect, .link 0 0 ⟨redirect⟩, .setParent 0 ⟨2, 0⟩]
    v.answerReader ⟨"msauth://app/switch_browser_resume?action_uri=a&code=c&state=s", "msauth://app", some "s",
        ⟨"correlation"⟩⟩ = .ok (.resume ⟨redirect, none⟩) ∧
      (Answer.resume ⟨redirect, none⟩).Complete true ∧
      .resume ⟨redirect, some ⟨2, 0⟩⟩ ∈ (run calls).answers ∧
      (Answer.resume ⟨redirect, some ⟨2, 0⟩⟩).Complete true := by
  intro v redirect calls
  have hread : v.answerReader ⟨"msauth://app/switch_browser_resume?action_uri=a&code=c&state=s",
      "msauth://app", some "s", ⟨"correlation"⟩⟩ = .ok (.resume ⟨redirect, none⟩) := by decide +kernel
  have hasked : Answer.Read true (.resume ⟨redirect, none⟩) := .reader v _ hread
  have hlinked : Answer.resume ⟨redirect, some ⟨2, 0⟩⟩ ∈ (run calls).answers := by decide +kernel
  obtain ⟨hcomplete, hstay⟩ := answers_stay_complete
  exact ⟨hread, (hcomplete true _ hasked).1, hlinked, (hstay calls _ hlinked).2 true hasked⟩

end StoreHistory

end SignIn
