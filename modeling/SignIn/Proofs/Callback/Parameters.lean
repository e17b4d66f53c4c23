import SignIn.Proofs.Callback.Conditions

namespace SignIn

namespace Url

/-- The values that a query gives a parameter, in order. -/
def values (u : Url) (name : String) : List String :=
  (u.queryPairs.filter (·.1 = name)).map Prod.snd

/-- The first value of a parameter that is not empty. -/
def firstFilled (u : Url) (name : String) : Option String :=
  (u.values name).find? (· ≠ "")

private theorem head?_values (u : Url) (name : String) :
    (u.values name).head? = (u.queryPairs.find? (·.1 = name)).map Prod.snd := by
  rw [values, List.head?_map, List.head?_filter]

/-- The value of a parameter is its first one, if that is not empty. -/
theorem param_eq_head?_values (u : Url) (name : String) :
    u.param name = (u.values name).head?.filter (· ≠ "") := by
  rw [param, head?_values]
  cases u.queryPairs.find? (·.1 = name) with
  | none => rfl
  | some pair =>
    rw [Option.map_some, Option.filter_some]
    by_cases hempty : pair.2 = "" <;> simp [hempty]

private theorem param_eq_none_iff {u : Url} {name : String} :
    u.param name = none ↔ ∀ value ∈ (u.values name).head?, value = "" := by
  rw [param_eq_head?_values, Option.filter_eq_none_iff]
  simp

private theorem firstFilled_eq_none_iff {u : Url} {name : String} :
    u.firstFilled name = none ↔ ∀ value ∈ u.values name, value = "" := by
  simp [firstFilled]

/-- An empty value in front makes the parameter missing, whatever comes behind it. -/
theorem param_eq_firstFilled_iff {u : Url} {name : String} :
    u.param name = u.firstFilled name ↔
      ((u.values name).head? = some "" → ∀ value ∈ u.values name, value = "") := by
  rw [← firstFilled_eq_none_iff]
  by_cases hhead : (u.values name).head? = some ""
  · have hmissing : u.param name = none := param_eq_none_iff.2 (by simp [hhead])
    rw [hmissing, eq_comm]
    exact ⟨fun h _ => h, fun h => h hhead⟩
  · refine iff_of_true ?_ fun h => absurd h hhead
    rw [param_eq_head?_values, firstFilled]
    cases hvalues : u.values name with
    | nil => rfl
    | cons value more =>
      have hfilled : value ≠ "" := by
        rintro rfl
        exact hhead (by rw [hvalues]; rfl)
      rw [List.head?_cons, Option.filter_some, List.find?_cons]
      simp [hfilled]

end Url

/-- The redirect of a URL whose parameters have the values given. -/
def Redirect.ofValues (value : String → Option String) (sentState : Option String) :
    Except CallbackError Redirect := do
  let some actionUri := value "action_uri" | throw (.faulty "action_uri is nil.")
  let some sessionToken := value "code" | throw (.faulty "code is nil.")
  if sentState.isSome ∧ value "state" = none then throw .missingState
  return ⟨actionUri, sessionToken, value "state",
    ((value "browser_modes").map SessionModes.ofText).getD SessionModes.none⟩

/-- The grant of a URL whose parameters have the values given. -/
def CodeGrant.ofValues (value : String → Option String) : Except CallbackError CodeGrant := do
  let some code := value "code" | throw (.unrelated "no authorization code")
  return ⟨code, value "state"⟩

/-- The refusal of a URL whose parameters have the values given. -/
def Refusal.ofValues (value : String → Option String) : Except CallbackError Refusal := do
  if value "error" = none ∧ value "error_description" = none then throw (.unrelated "no oauth error")
  return ⟨(value "error").getD unnamedError, value "error_description", value "state"⟩

private theorem Redirect.ofUrl_eq_ofValues (u : Url) (sentState : Option String) :
    ofUrl u sentState = ofValues u.param sentState := by
  rw [ofUrl, ofValues]
  cases u.param "action_uri" with
  | none => rfl
  | some actionUri =>
    cases u.param "code" with
    | none => rfl
    | some sessionToken => rfl

private theorem CodeGrant.ofUrl_eq_ofValues {url : String} {u : Url} (hparse : Url.parse url = .ok u) :
    ofUrl url = ofValues u.param := by
  rw [ofUrl_eq_of_parse hparse, ofValues]
  cases u.param "code" <;> rfl

private theorem Refusal.ofUrl_eq_ofValues {url : String} {u : Url} (hparse : Url.parse url = .ok u) :
    ofUrl url = ofValues u.param := by
  rw [ofUrl_eq_of_parse hparse, ofValues]
  cases u.param "error" <;> cases u.param "error_description" <;> rfl

/-- The names of the parameters that are looked for in a callback URL. -/
def callbackNames : List String :=
  ["action_uri", "code", "state", "browser_modes", "error", "error_description"]

/-- What is made of a URL depends on nothing but the parameters of these names. -/
theorem ofValues_congr {value value' : String → Option String}
    (hvalues : ∀ name ∈ callbackNames, value name = value' name) :
    (∀ sentState, Redirect.ofValues value sentState = Redirect.ofValues value' sentState) ∧
      CodeGrant.ofValues value = CodeGrant.ofValues value' ∧ Refusal.ofValues value = Refusal.ofValues value' := by
  simp only [callbackNames, List.forall_mem_cons] at hvalues
  obtain ⟨hactionUri, hcode, hstate, hmodes, herror, hdescription, -⟩ := hvalues
  refine ⟨fun sentState => ?_, ?_, ?_⟩
  · rw [Redirect.ofValues, hactionUri, hcode, hstate, hmodes, Redirect.ofValues]
  · rw [CodeGrant.ofValues, hcode, hstate, CodeGrant.ofValues]
  · rw [Refusal.ofValues, herror, hdescription, hstate, Refusal.ofValues]

/-- A URL is read by the first value of each parameter: a redirect, unless the URL is unrelated, a grant and a refusal
are made of these values alone, and a parameter is missing exactly if its first value is empty or it has none. That is
not the first value that is filled: the two are the same exactly if the first value is filled or none is. Where that
holds of the names looked for, the URL is read by its first filled values. -/
theorem Url.callbacks_read_first_values {url : String} {u : Url} (hparse : Url.parse url = .ok u) :
    let first := fun name => (u.values name).head?.filter (· ≠ "")
    (∀ (step : BrowserStep) (redirectUri sentState : Option String),
      (∃ detail, step.read url redirectUri sentState = .error (.unrelated detail)) ∨
        step.read url redirectUri sentState = (Redirect.ofValues first sentState).map step.answer) ∧
    CodeGrant.ofUrl url = CodeGrant.ofValues first ∧
    Refusal.ofUrl url = Refusal.ofValues first ∧
    (∀ name, (first name = none ↔ ∀ value ∈ (u.values name).head?, value = "") ∧
      (u.firstFilled name = none ↔ ∀ value ∈ u.values name, value = "") ∧
      (first name = u.firstFilled name ↔
        ((u.values name).head? = some "" → ∀ value ∈ u.values name, value = ""))) ∧
    ((∀ name ∈ callbackNames, first name = u.firstFilled name) →
      (∀ sentState, Redirect.ofValues first sentState = Redirect.ofValues u.firstFilled sentState) ∧
        CodeGrant.ofValues first = CodeGrant.ofValues u.firstFilled ∧
        Refusal.ofValues first = Refusal.ofValues u.firstFilled) := by
  intro first
  have hfirst : first = u.param := funext fun name => (u.param_eq_head?_values name).symm
  rw [hfirst]
  refine ⟨fun step redirectUri sentState => ?_, CodeGrant.ofUrl_eq_ofValues hparse,
    Refusal.ofUrl_eq_ofValues hparse, fun name => ?_, ofValues_congr⟩
  · rw [step.read_eq]
    rcases Redirect.parse_cases step url redirectUri with ⟨detail, hunrelated⟩ | ⟨u', hparse', hread⟩
    · rw [hunrelated]
      exact .inl ⟨detail, rfl⟩
    · cases hparse.symm.trans hparse'
      rw [hread, Redirect.ofUrl_eq_ofValues]
      exact .inr rfl
  · exact ⟨param_eq_none_iff, firstFilled_eq_none_iff, param_eq_firstFilled_iff⟩

/-- Values behind a filled one do not count, and a state that is empty throughout is missing. -/
theorem Url.callbacks_read_first_values_of_repeated_names :
    let url := "msauth://app/switch_browser?state=&code=c&action_uri=a&code=&act%69on_uri=b&state&browser_modes=AQ"
    ∃ u, Url.parse url = .ok u ∧ u.values "action_uri" = ["a", "b"] ∧ u.values "code" = ["c", ""] ∧
      u.values "state" = ["", ""] ∧ u.firstFilled "state" = none ∧
      BrowserStep.away.read url none none = (Redirect.ofValues u.firstFilled none).map BrowserStep.away.answer ∧
      BrowserStep.away.read url none none = .ok (.switch ⟨⟨"a", "c", none, ⟨1⟩⟩⟩) ∧
      CodeGrant.ofUrl url = CodeGrant.ofValues u.firstFilled ∧ CodeGrant.ofUrl url = .ok ⟨"c", none⟩ := by
  intro url
  let u : Url := ⟨"msauth".toList, some (.name "app".toList), none, "/switch_browser".toList,
    some "state=&code=c&action_uri=a&code=&act%69on_uri=b&state&browser_modes=AQ".toList⟩
  have hparse : Url.parse url = .ok u := by decide +kernel
  have hpairs : u.queryPairs = [("state", ""), ("code", "c"), ("action_uri", "a"), ("code", ""), ("action_uri", "b"),
      ("state", ""), ("browser_modes", "AQ")] := by decide +kernel
  have hvalues : ∀ name ∈ callbackNames,
      (u.values name).head? = some "" → ∀ value ∈ u.values name, value = "" := by
    simp only [Url.values, hpairs]
    decide +kernel
  have hread : BrowserStep.away.read url none none = .ok (.switch ⟨⟨"a", "c", none, ⟨1⟩⟩⟩) := by decide +kernel
  have hcode : CodeGrant.ofValues u.firstFilled = .ok ⟨"c", none⟩ := by decide +kernel
  obtain ⟨hredirect, hgrant, -, hnames, hfilled⟩ := Url.callbacks_read_first_values hparse
  obtain ⟨hsame, hsameGrant, -⟩ := hfilled fun name hname => (hnames name).2.2.2 (hvalues name hname)
  have hstate : u.values "state" = ["", ""] := by simp [Url.values, hpairs]
  refine ⟨u, hparse, by simp [Url.values, hpairs], by simp [Url.values, hpairs], hstate, ?_, ?_, hread,
    hgrant.trans hsameGrant, (hgrant.trans hsameGrant).trans hcode⟩
  · exact (hnames "state").2.1.2 (by simp [hstate])
  · rcases hredirect .away none none with ⟨detail, hunrelated⟩ | hvalue
    · cases hread.symm.trans hunrelated
    · rw [hvalue, hsame]

/-- An empty value in front of the one that the server means: the redirect is turned down for lack of an action URI,
and a code is not found either. -/
theorem Url.first_value_hides_filled_one :
    let url := "msauth://broker/switch_browser?action_uri=&action_uri=a&code=c"
    ∃ u, Url.parse url = .ok u ∧ u.values "action_uri" = ["", "a"] ∧ u.firstFilled "action_uri" = some "a" ∧
      Redirect.ofValues u.firstFilled none = .ok ⟨"a", "c", none, SessionModes.none⟩ ∧
      BrowserStep.away.read url (some "msauth://broker") none = .error (.faulty "action_uri is nil.") := by
  intro url
  have hparse : Url.parse url = .ok ⟨"msauth".toList, some (.name "broker".toList), none,
      "/switch_browser".toList, some "action_uri=&action_uri=a&code=c".toList⟩ := by decide +kernel
  refine ⟨_, hparse, ?_, ?_, ?_, ?_⟩ <;> decide +kernel

end SignIn
