import SignIn.Proofs.Answer.Reading
import SignIn.Proofs.Url.Host

namespace SignIn

/-- Two URLs lead to the same place of the network. -/
structure Url.SameAuthority (u v : Url) : Prop where
  scheme : u.scheme = v.scheme
  /-- Both have a host, or neither has one. -/
  hosted : u.host.isSome = v.host.isSome
  /-- The case of the host does not matter. -/
  host : u.hostText.map Char.toLower = v.hostText.map Char.toLower
  port : u.effectivePort = v.effectivePort

private theorem Url.isSome_host_eq {text text' : String} {u v : Url} (hparse : Url.parse text = .ok u)
    (hparse' : Url.parse text' = .ok v)
    (hhost : u.hostText.map Char.toLower = v.hostText.map Char.toLower) :
    u.host.isSome = v.host.isSome := by
  have hnil : u.host = none ↔ v.host = none := by
    rw [← hostText_eq_nil_iff hparse, ← hostText_eq_nil_iff hparse', ← List.map_eq_nil_iff (f := Char.toLower),
      hhost, List.map_eq_nil_iff]
  rw [Bool.eq_iff_iff, Option.isSome_iff_ne_none, Option.isSome_iff_ne_none]
  exact not_congr hnil

namespace Redirect

private theorem Follows.of_eq_upto_port {u expected : Url} {redirectUri redirectUri' : String}
    {step : BrowserStep}
    {port port' : Option Nat} (hfollows : Follows u redirectUri step)
    (hredirect : Url.parse redirectUri = .ok expected)
    (hredirect' : Url.parse redirectUri' = .ok { expected with port := port' }) :
    Follows { u with port } redirectUri' step := by
  obtain ⟨expected', hparse, hscheme, hhost, hpath⟩ := hfollows
  cases hredirect.symm.trans hparse
  exact ⟨_, hredirect', hscheme, hhost, hpath⟩

/-- A redirect carries the same whatever its port is. -/
theorem read_eq_of_eq_upto_port {step : BrowserStep} {url url' redirectUri redirectUri' : String}
    {u expected : Url} {port port' : Option Nat} (hparse : Url.parse url = .ok u)
    (hfollows : Follows u redirectUri step) (hredirect : Url.parse redirectUri = .ok expected)
    (hparse' : Url.parse url' = .ok { u with port })
    (hredirect' : Url.parse redirectUri' = .ok { expected with port := port' })
    (sentState : Option String) :
    step.read url' (some redirectUri') sentState = step.read url (some redirectUri) sentState := by
  have hfollows' : Follows { u with port } redirectUri' step :=
    hfollows.of_eq_upto_port hredirect hredirect'
  rw [BrowserStep.read_eq, BrowserStep.read_eq, parse_eq_ofUrl hparse hfollows,
    parse_eq_ofUrl hparse' hfollows']
  rfl

/-- A URL that is read as a redirect has the scheme and the host of the redirect URI, so that both lead to
the same place if they lead to the same port. The port itself has no say: URLs that differ in nothing else
are read alike. -/
theorem sameAuthority_iff_of_related {step : BrowserStep} {url redirectUri : String}
    {sentState : Option String}
    (hrelated : ∀ detail, step.read url (some redirectUri) sentState ≠ .error (.unrelated detail)) :
    ∃ u expected, Url.parse url = .ok u ∧ Url.parse redirectUri = .ok expected ∧
      u.scheme = expected.scheme ∧ u.host.isSome = expected.host.isSome ∧
      u.hostText.map Char.toLower = expected.hostText.map Char.toLower ∧
      (u.SameAuthority expected ↔ u.effectivePort = expected.effectivePort) ∧
      ∀ url' redirectUri' port port', Url.parse url' = .ok { u with port } →
        Url.parse redirectUri' = .ok { expected with port := port' } →
        step.read url' (some redirectUri') sentState = step.read url (some redirectUri) sentState := by
  obtain ⟨u, hparse, hfollows⟩ := BrowserStep.read_ne_unrelated_iff.1 hrelated
  have ⟨expected, hredirect, hscheme, hhost, _⟩ := hfollows
  have hhosted := Url.isSome_host_eq hparse hredirect hhost
  refine ⟨u, expected, hparse, hredirect, hscheme, hhosted, hhost, ?_, ?_⟩
  · exact ⟨Url.SameAuthority.port, fun hport => ⟨hscheme, hhosted, hhost, hport⟩⟩
  · intro url' redirectUri' port port' hparse' hredirect'
    exact read_eq_of_eq_upto_port hparse hfollows hredirect hparse' hredirect' sentState

/-- The case of the scheme and of the host does not matter, and the port is the same here. Without its port
the URL is read alike. -/
theorem sameAuthority_iff_of_related_with_port :
    let url := "msauth://APP:8443/switch_browser_resume?action_uri=a&code=c"
    let redirectUri := "MSAUTH://app:8443/"
    (∀ detail, BrowserStep.back.read url (some redirectUri) none ≠ .error (.unrelated detail)) ∧
      (∃ u expected, Url.parse url = .ok u ∧ Url.parse redirectUri = .ok expected ∧
        u.SameAuthority expected) ∧
      BrowserStep.back.read "msauth://APP/switch_browser_resume?action_uri=a&code=c" (some redirectUri) none =
        BrowserStep.back.read url (some redirectUri) none := by
  intro url redirectUri
  have hread : BrowserStep.back.read url (some redirectUri) none =
      .ok (.resume ⟨⟨"a", "c", none, SessionModes.none⟩, none⟩) := by decide +kernel
  have hrelated : ∀ detail, BrowserStep.back.read url (some redirectUri) none ≠
      .error (.unrelated detail) := by simp [hread]
  obtain ⟨u, expected, hparse, hredirect, -, -, -, hsame, hports⟩ := sameAuthority_iff_of_related hrelated
  have hparse' : Url.parse url = .ok ⟨"msauth".toList, some (.name "APP".toList), some 8443,
      "/switch_browser_resume".toList, some "action_uri=a&code=c".toList⟩ := by decide +kernel
  have hredirect' : Url.parse redirectUri = .ok ⟨"msauth".toList, some (.name "app".toList), some 8443,
      "/".toList, none⟩ := by decide +kernel
  cases hparse.symm.trans hparse'
  cases hredirect.symm.trans hredirect'
  refine ⟨hrelated, ⟨_, _, hparse, hredirect, hsame.2 rfl⟩, hports _ _ none (some 8443) ?_ hredirect⟩
  decide +kernel

/-- A redirect from a port that is not the one of the redirect URI is read all the same. -/
theorem not_sameAuthority_with_other_port :
    let url := "msauth://broker:8443/switch_browser?action_uri=a&code=c"
    BrowserStep.away.read url (some "msauth://broker") none =
        .ok (.switch ⟨⟨"a", "c", none, SessionModes.none⟩⟩) ∧
      ∃ u expected, Url.parse url = .ok u ∧ Url.parse "msauth://broker" = .ok expected ∧
        ¬ u.SameAuthority expected := by
  intro url
  have hread : BrowserStep.away.read url (some "msauth://broker") none =
      .ok (.switch ⟨⟨"a", "c", none, SessionModes.none⟩⟩) := by decide +kernel
  have hparse : Url.parse url = .ok ⟨"msauth".toList, some (.name "broker".toList), some 8443,
      "/switch_browser".toList, some "action_uri=a&code=c".toList⟩ := by decide +kernel
  have hredirect : Url.parse "msauth://broker" = .ok ⟨"msauth".toList, some (.name "broker".toList), none,
      [], none⟩ := by decide +kernel
  refine ⟨hread, _, _, hparse, hredirect, fun hsame => ?_⟩
  have hport := hsame.port
  exact absurd hport (by decide)

end Redirect

end SignIn
