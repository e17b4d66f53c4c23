import SignIn.Proofs.Answer.Reading
import SignIn.Proofs.Text

namespace SignIn

private theorem BrowserStep.slash_notMem_name (step : BrowserStep) : '/' ∉ step.name.toList := by
  cases step <;> decide

private theorem BrowserStep.name_ne_nil (step : BrowserStep) : step.name.toList ≠ [] := by
  cases step <;> decide

/-- One name begins like the other, but neither ends like it. -/
theorem BrowserStep.not_name_suffix (step : BrowserStep) :
    ¬ step.name.toList <:+ step.other.name.toList := by
  cases step <;> decide

private theorem BrowserStep.other_other (step : BrowserStep) : step.other.other = step := by
  cases step <;> rfl

namespace Redirect

private theorem isFor_eq_true_iff {url : String} {u : Url} (hparse : Url.parse url = .ok u)
    (step : BrowserStep) :
    isFor url step = true ↔
      u.barePath = step.name.toList ∨ '/' :: step.name.toList <:+ u.barePath := by
  have hlast : isFor url step = decide (Text.lastPiece? '/' u.path = some step.name.toList) := by
    simp [isFor, hparse, Text.lastPiece?]
  rw [hlast, decide_eq_true_iff]
  exact Text.lastPiece?_eq_some_iff step.slash_notMem_name step.name_ne_nil

private theorem suffix_of_isFor {url : String} {u : Url} (hparse : Url.parse url = .ok u) {step : BrowserStep}
    (hfor : isFor url step = true) : step.name.toList <:+ u.barePath := by
  rcases (isFor_eq_true_iff hparse step).1 hfor with hpath | hpath
  · exact ⟨[], hpath.symm⟩
  · exact (List.suffix_cons '/' _).trans hpath

/-- What follows the path of the redirect URI is the name of the step, behind a slash or right away. -/
theorem Follows.barePath_cases {u : Url} {redirectUri : String} {step : BrowserStep}
    (hfollows : Follows u redirectUri step) :
    ∃ expected, Url.parse redirectUri = .ok expected ∧
      ((∃ slashes, u.barePath = expected.barePath ++ slashes ++ '/' :: step.name.toList) ∨
        u.barePath = expected.barePath ++ step.name.toList) := by
  obtain ⟨expected, hredirect, _, _, remainder, hpath, hname⟩ := hfollows
  have hremainder : remainder = remainder.takeWhile (· = '/') ++ step.name.toList := by
    rw [← hname, List.takeWhile_append_dropWhile]
  refine ⟨expected, hredirect, ?_⟩
  rcases List.eq_nil_or_concat (remainder.takeWhile (· = '/')) with hnone | ⟨slashes, c, hslashes⟩
  · rw [hnone, List.nil_append] at hremainder
    exact .inr (hremainder ▸ hpath)
  · have hc : c = '/' := by
      have hmem : c ∈ remainder.takeWhile (· = '/') := by simp [hslashes]
      simpa using List.mem_takeWhile_imp hmem
    rw [hslashes, hc] at hremainder
    exact .inl ⟨slashes, by rw [hpath, hremainder]; simp⟩

private theorem Follows.name_suffix {u : Url} {redirectUri : String} {step : BrowserStep}
    (hfollows : Follows u redirectUri step) : step.name.toList <:+ u.barePath := by
  obtain ⟨expected, _, ⟨slashes, hpath⟩ | hpath⟩ := hfollows.barePath_cases
  · exact ⟨expected.barePath ++ slashes ++ ['/'], by simp [hpath]⟩
  · exact ⟨expected.barePath, hpath.symm⟩

private theorem Follows.isFor_other {url redirectUri : String} {u : Url} {step : BrowserStep}
    (hparse : Url.parse url = .ok u) (hfollows : Follows u redirectUri step) :
    isFor url step.other = false := by
  by_contra hfor
  have hother := suffix_of_isFor hparse (Bool.of_not_eq_false hfor)
  rcases List.suffix_or_suffix_of_suffix hfollows.name_suffix hother with hname | hname
  · exact step.not_name_suffix hname
  · exact step.other.not_name_suffix (step.other_other.symm ▸ hname)

/-- The name of a step is a segment of its own, unless the path of the redirect URI ends in a segment from
which it goes on. -/
theorem Follows.isFor_iff {url redirectUri : String} {u : Url} {step : BrowserStep}
    (hparse : Url.parse url = .ok u) (hfollows : Follows u redirectUri step) :
    ∃ expected, Url.parse redirectUri = .ok expected ∧
      (isFor url step = true ↔
        ¬ (expected.barePath ≠ [] ∧ u.barePath = expected.barePath ++ step.name.toList)) := by
  obtain ⟨expected, hredirect, hpath⟩ := hfollows.barePath_cases
  refine ⟨expected, hredirect, ?_⟩
  rw [isFor_eq_true_iff hparse]
  rcases hpath with ⟨slashes, hpath⟩ | hpath
  · have hlonger : u.barePath ≠ expected.barePath ++ step.name.toList := by
      intro hsame
      have hlength := congrArg List.length (hpath.symm.trans hsame)
      simp only [List.length_append, List.length_cons] at hlength
      omega
    exact iff_of_true (.inr ⟨_, hpath.symm⟩) fun h => hlonger h.2
  · constructor
    · rintro (hname | ⟨front, hfront⟩) ⟨hne, -⟩
      · rw [hpath, List.append_left_eq_self] at hname
        exact hne hname
      · -- No path is left with a slash at its end, so none can stand before the name.
        have hbare : expected.barePath = front ++ ['/'] := by
          rw [hpath, ← List.singleton_append, ← List.append_assoc] at hfront
          exact (List.append_cancel_right hfront).symm
        simpa using Text.eq_false_of_trimEnd_eq hbare
    · intro hjoined
      have hempty : expected.barePath = [] := by
        by_contra hne
        exact hjoined ⟨hne, hpath⟩
      rw [hpath, hempty]
      exact .inl rfl

/-- A URL that is read as a redirect for a step never passes the quick test for the other step. It passes
the test for its own step unless the name of the step goes on from the last segment of the redirect URI. -/
theorem isFor_iff_of_related {step : BrowserStep} {url redirectUri : String} {sentState : Option String}
    (hrelated : ∀ detail, step.read url (some redirectUri) sentState ≠ .error (.unrelated detail)) :
    isFor url step.other = false ∧
      ∃ u expected, Url.parse url = .ok u ∧ Url.parse redirectUri = .ok expected ∧
        (isFor url step = true ↔
          ¬ (expected.barePath ≠ [] ∧ u.barePath = expected.barePath ++ step.name.toList)) := by
  obtain ⟨u, hparse, hfollows⟩ := BrowserStep.read_ne_unrelated_iff.1 hrelated
  obtain ⟨expected, hredirect, hown⟩ := hfollows.isFor_iff hparse
  exact ⟨hfollows.isFor_other hparse, u, expected, hparse, hredirect, hown⟩

/-- Slashes around the name do not matter, nor does the case of the host. -/
theorem isFor_iff_of_related_with_slashes :
    let url := "msauth://app/auth//switch_browser/?action_uri=a&code=c"
    (∀ detail, BrowserStep.away.read url (some "msauth://APP/auth/") (some "state") ≠
        .error (.unrelated detail)) ∧
      isFor url .back = false ∧ isFor url .away = true := by
  intro url
  have hread : BrowserStep.away.read url (some "msauth://APP/auth/") (some "state") =
      .error .missingState := by decide +kernel
  have hrelated : ∀ detail, BrowserStep.away.read url (some "msauth://APP/auth/") (some "state") ≠
      .error (.unrelated detail) := by simp [hread]
  obtain ⟨hother, u, expected, hparse, hredirect, hown⟩ := isFor_iff_of_related hrelated
  have hparse' : Url.parse url = .ok ⟨"msauth".toList, some (.name "app".toList), none,
      "/auth//switch_browser/".toList, some "action_uri=a&code=c".toList⟩ := by decide +kernel
  have hredirect' : Url.parse "msauth://APP/auth/" = .ok ⟨"msauth".toList, some (.name "APP".toList), none,
      "/auth/".toList, none⟩ := by decide +kernel
  cases hparse.symm.trans hparse'
  cases hredirect.symm.trans hredirect'
  exact ⟨hrelated, hother, hown.2 (by decide)⟩

/-- The name of the step goes on from the last segment of the redirect URI: the URL is read as a redirect
for the step and fails the quick test for it. -/
theorem isFor_eq_false_of_joined_name :
    let url := "msauth://broker/appswitch_browser?action_uri=a&code=c"
    BrowserStep.away.read url (some "msauth://broker/app") none =
        .ok (.switch ⟨⟨"a", "c", none, SessionModes.none⟩⟩) ∧
      isFor url .away = false := by
  decide +kernel

end Redirect

end SignIn
