import SignIn.Proofs.Answer.Reading
import SignIn.Proofs.Url.Form
import SignIn.Proofs.Url.Plain

namespace SignIn

/-- A text as it stands in a form. -/
def Form.encoded (text : String) : String :=
  String.ofList (encodeText text)

/-- A step has a name that a URL keeps as its path. -/
theorem BrowserStep.path_name (step : BrowserStep) :
    UrlPath.ofText false ('/' :: step.name.toList) = '/' :: step.name.toList := by
  cases step <;> decide +kernel

private theorem BrowserStep.name_chars (step : BrowserStep) :
    step.name.toList.all (fun c => !Url.endsPath c && 0x20 < c.toNat) = true := by
  cases step <;> decide +kernel

namespace Redirect

/-- A redirect as the server writes it: the redirect URI, the name of a step, and a form that may lack the state
and the modes. -/
def wireText (redirectUri : String) (step : BrowserStep) (actionUri sessionToken : String)
    (state modes : Option String) : String :=
  redirectUri ++ "/" ++ step.name ++ "?action_uri=" ++ Form.encoded actionUri ++
    "&code=" ++ Form.encoded sessionToken ++
    state.elim "" (fun s => "&state=" ++ Form.encoded s) ++
    modes.elim "" (fun m => "&browser_modes=" ++ Form.encoded m)

/-- The names and values of the form. -/
def wireForm (actionUri sessionToken : String) (state modes : Option String) : List (String × String) :=
  ("action_uri", actionUri) :: ("code", sessionToken) ::
    (state.toList.map ("state", ·) ++ modes.toList.map ("browser_modes", ·))

private theorem wireText_eq (redirectUri : String) (step : BrowserStep) (actionUri sessionToken : String)
    (state modes : Option String) :
    wireText redirectUri step actionUri sessionToken state modes =
      redirectUri ++ String.ofList
        ('/' :: step.name.toList ++ '?' :: Form.ofPairs (wireForm actionUri sessionToken state modes)) := by
  have haction : Form.encodeText "action_uri" = "action_uri".toList := by decide +kernel
  have hcode : Form.encodeText "code" = "code".toList := by decide +kernel
  have hstate : Form.encodeText "state" = "state".toList := by decide +kernel
  have hmodes : Form.encodeText "browser_modes" = "browser_modes".toList := by decide +kernel
  rw [← String.toList_inj]
  cases state <;> cases modes <;>
    simp [wireText, wireForm, Form.encoded, Form.ofPairs, Form.encodePair, Text.joinWith, haction, hcode,
      hstate, hmodes]

/-- The URL that the text of a redirect is read as. -/
def wireUrl (scheme host : String) (step : BrowserStep) (form : List (String × String)) : Url :=
  ⟨scheme.toList, some (.name host.toList), none, '/' :: step.name.toList, some (Form.ofPairs form)⟩

private theorem parse_wireText {scheme host : String} (horigin : Url.PlainOrigin scheme host)
    (step : BrowserStep)
    (actionUri sessionToken : String) (state modes : Option String) :
    Url.parse (wireText (scheme ++ "://" ++ host) step actionUri sessionToken state modes) =
      .ok (wireUrl scheme host step (wireForm actionUri sessionToken state modes)) := by
  have hname : ∀ c ∈ step.name.toList, Url.endsPath c = false ∧ 0x20 < c.toNat := by
    simpa using step.name_chars
  rw [wireText_eq]
  exact horigin.parse_query hname step.path_name fun c => Form.inQuery_of_mem_ofPairs

private theorem follows_wireUrl {scheme host : String} (horigin : Url.PlainOrigin scheme host)
    (step : BrowserStep)
    (form : List (String × String)) :
    Follows (wireUrl scheme host step form) (scheme ++ "://" ++ host) step := by
  refine ⟨_, horigin.parse_origin, rfl, rfl, '/' :: step.name.toList, ?_, ?_⟩
  · cases step <;> rfl
  · cases step <;> rfl

private theorem queryPairs_wireUrl (scheme host : String) (step : BrowserStep)
    (form : List (String × String)) :
    (wireUrl scheme host step form).queryPairs = form :=
  Form.pairs_ofPairs form

private theorem param_wireUrl (scheme host : String) (step : BrowserStep) {actionUri sessionToken : String}
    (haction : actionUri ≠ "") (htoken : sessionToken ≠ "") {state modes : Option String}
    (hstate : state ≠ some "") (hmodes : modes ≠ some "") :
    let u := wireUrl scheme host step (wireForm actionUri sessionToken state modes)
    u.param "action_uri" = some actionUri ∧ u.param "code" = some sessionToken ∧ u.param "state" = state ∧
      u.param "browser_modes" = modes := by
  simp only [Url.param, queryPairs_wireUrl]
  refine ⟨?_, ?_, ?_, ?_⟩
  · simp [wireForm, haction]
  · simp [wireForm, htoken]
  · cases state <;> cases modes <;> simp_all [wireForm]
  · cases state <;> cases modes <;> simp_all [wireForm]

private theorem ofUrl_wireUrl (scheme host : String) (step : BrowserStep) {actionUri sessionToken : String}
    (haction : actionUri ≠ "") (htoken : sessionToken ≠ "") {state modes : Option String}
    (hstate : state ≠ some "") (hmodes : modes ≠ some "") (sentState : Option String) :
    ofUrl (wireUrl scheme host step (wireForm actionUri sessionToken state modes)) sentState =
      if sentState.isSome ∧ state = none then .error .missingState
      else .ok ⟨actionUri, sessionToken, state, (modes.map SessionModes.ofText).getD SessionModes.none⟩ := by
  obtain ⟨hactionParam, htokenParam, hstateParam, hmodesParam⟩ :=
    param_wireUrl scheme host step haction htoken hstate hmodes
  rw [ofUrl, hactionParam, htokenParam, hstateParam, hmodesParam]

/-- A redirect is read for its step as it was written, with the state and the modes there only if they were sent.
It is turned down only where a state is asked for and none was sent, and the reader of the other step lets it
pass. -/
theorem read_wireText {scheme host : String} (horigin : Url.PlainOrigin scheme host) (step : BrowserStep)
    {actionUri sessionToken : String} (haction : actionUri ≠ "") (htoken : sessionToken ≠ "")
    {state modes : Option String} (hstate : state ≠ some "") (hmodes : modes ≠ some "")
    (sentState : Option String) :
    let redirectUri := scheme ++ "://" ++ host
    let url := wireText redirectUri step actionUri sessionToken state modes
    step.read url (some redirectUri) sentState =
        (if sentState.isSome ∧ state = none then .error .missingState
        else .ok (step.answer
          ⟨actionUri, sessionToken, state, (modes.map SessionModes.ofText).getD SessionModes.none⟩)) ∧
      ∃ detail, step.other.read url (some redirectUri) sentState = .error (.unrelated detail) := by
  intro redirectUri url
  have hparse : Url.parse url = .ok (wireUrl scheme host step (wireForm actionUri sessionToken state modes)) :=
    parse_wireText horigin step actionUri sessionToken state modes
  have hfollows := follows_wireUrl horigin step (wireForm actionUri sessionToken state modes)
  constructor
  · rw [BrowserStep.read_eq, parse_eq_ofUrl hparse hfollows,
      ofUrl_wireUrl scheme host step haction htoken hstate hmodes]
    split_ifs <;> rfl
  · have hrelated : ∀ detail, step.read url (some redirectUri) sentState ≠ .error (.unrelated detail) :=
      BrowserStep.read_ne_unrelated_iff.2 ⟨_, hparse, hfollows⟩
    exact step.read_other_eq_unrelated hrelated sentState

/-- Separators, an escape, a plus and letters of other scripts come through, and the modes wish for a private
session. Without its state the redirect is turned down. -/
theorem read_wireText_in_other_scripts :
    let redirectUri := "msauth.app-1" ++ "://" ++ "Broker_1.x"
    let url := wireText redirectUri .back "https://é.example/?a=1&b=+%#" "日本 😀" (some "s=t&u") (some "AQAAAA==")
    let stateless := wireText redirectUri .back "a" "a" none none
    BrowserStep.back.read url (some redirectUri) (some "s") =
        .ok (.resume ⟨⟨"https://é.example/?a=1&b=+%#", "日本 😀", some "s=t&u", ⟨1⟩⟩, none⟩) ∧
      (∃ detail, BrowserStep.away.read url (some redirectUri) (some "s") = .error (.unrelated detail)) ∧
      BrowserStep.back.read stateless (some redirectUri) (some "s") = .error .missingState := by
  intro redirectUri url stateless
  have horigin : Url.PlainOrigin "msauth.app-1" "Broker_1.x" :=
    ⟨by decide +kernel, by decide +kernel, by decide, by decide, by decide +kernel⟩
  have haction : "https://é.example/?a=1&b=+%#" ≠ "" := by decide
  have htoken : "日本 😀" ≠ "" := by decide
  have hstate : some "s=t&u" ≠ some "" := by decide
  have hmodes : some "AQAAAA==" ≠ some "" := by decide
  have hprivate : SessionModes.ofText "AQAAAA==" = ⟨1⟩ := by decide +kernel
  have hletter : "a" ≠ "" := by decide
  have hunsent : (none : Option String) ≠ some "" := by decide
  obtain ⟨hread, hother⟩ := read_wireText horigin .back haction htoken hstate hmodes (some "s")
  obtain ⟨hmissing, -⟩ := read_wireText horigin .back hletter hletter hunsent hunsent (some "s")
  refine ⟨hread.trans ?_, hother, hmissing⟩
  rw [Option.map_some, Option.getD_some, hprivate]
  rfl

end Redirect

end SignIn
