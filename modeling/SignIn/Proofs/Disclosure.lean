import SignIn.DebugText
import SignIn.Operation
import SignIn.Proofs.Except
import SignIn.Proofs.Shown

namespace SignIn

open Text

/-- The fields of a reference as they are shown. -/
def SwitchRef.fields (r : SwitchRef) : List (String × String) :=
  [("arena", toString r.store), ("index", toString r.index)]

private theorem SwitchRef.sameFields (r r' : SwitchRef) : SameFields r.fields r'.fields :=
  .cons rfl (separable_number r.store.toNat r'.store.toNat)
    (.cons rfl (separable_number r.index r'.index) .nil)

private theorem SwitchRef.debugText_inj (r r' : SwitchRef) : r.debugText = r'.debugText ↔ r = r' := by
  obtain ⟨store, index⟩ := r
  obtain ⟨store', index'⟩ := r'
  have hstore : toString store = toString store' ↔ store = store' :=
    number_inj.trans UInt64.toNat_inj
  refine (sameFields _ _).showRecord_inj.trans ?_
  simp only [fields, List.cons.injEq, Prod.mk.injEq, hstore, number_inj, true_and, and_true, SwitchRef.mk.injEq]

private theorem SwitchRef.separable_debugText (r r' : SwitchRef) : Separable r.debugText r'.debugText :=
  (sameFields r r').separable_showRecord _

private theorem SessionModes.separable_debugText (m m' : SessionModes) : Separable m.debugText m'.debugText :=
  (separable_number m.bits.toNat m'.bits.toNat).showWrapped _

private theorem SessionModes.debugText_inj (m m' : SessionModes) : m.debugText = m'.debugText ↔ m = m' := by
  have hname : '(' ∉ "BrowserModes".toList := by decide
  obtain ⟨bits⟩ := m
  obtain ⟨bits'⟩ := m'
  rw [debugText, debugText, showWrapped_inj hname hname, number_inj, UInt64.toNat_inj]
  simp

namespace KeyRequest

/-- A key request with no secret in it. -/
def withoutSecret (r : KeyRequest) : KeyRequest :=
  { r with sharedSecret := [] }

/-- The fields of a key request as they are shown. -/
def fields (r : KeyRequest) : List (String × String) :=
  [("shared_secret", redacted), ("output_key_len", toString r.length),
    ("algorithm_id", showNumbers (r.algorithmId.map UInt8.toNat)),
    ("party_u_info", showNumbers (r.partyUInfo.map UInt8.toNat)),
    ("party_v_info", showNumbers (r.partyVInfo.map UInt8.toNat))]

private theorem sameFields (r r' : KeyRequest) : SameFields r.fields r'.fields :=
  .cons rfl (separable_refl _) <| .cons rfl (separable_number _ _) <|
    .cons rfl (separable_numbers _ _) <| .cons rfl (separable_numbers _ _) <|
    .cons rfl (separable_numbers _ _) .nil

private theorem debugText_eq_iff (r r' : KeyRequest) :
    r.debugText = r'.debugText ↔ r.withoutSecret = r'.withoutSecret := by
  have hbytes (b b' : Bytes) :
      showNumbers (b.map UInt8.toNat) = showNumbers (b'.map UInt8.toNat) ↔ b = b' :=
    showNumbers_inj.trans (List.map_inj_right fun _ _ => UInt8.toNat_inj.1)
  refine (sameFields r r').showRecord_inj.trans ?_
  simp only [fields, List.cons.injEq, Prod.mk.injEq, number_inj, hbytes, withoutSecret, KeyRequest.mk.injEq,
    true_and, and_true]

end KeyRequest

/-- The fields of a key as they are shown. -/
def CipherKey.fields (k : CipherKey) : List (String × String) :=
  [("len", toString k.size), ("bytes", redacted)]

private theorem CipherKey.sameFields (k k' : CipherKey) : SameFields k.fields k'.fields :=
  .cons rfl (separable_number _ _) (.cons rfl (separable_refl _) .nil)

/-- Of a key nothing is shown but its length. -/
theorem CipherKey.debugText_eq_iff (k k' : CipherKey) : k.debugText = k'.debugText ↔ k.size = k'.size := by
  refine (sameFields k k').showRecord_inj.trans ?_
  simp only [fields, List.cons.injEq, Prod.mk.injEq, number_inj, true_and, and_true]

private theorem KeyedCipher.debugText_eq_iff (c c' : KeyedCipher) :
    c.debugText = c'.debugText ↔ c.key.size = c'.key.size := by
  have hfields : SameFields [("key", c.key.debugText)] [("key", c'.key.debugText)] :=
    .cons rfl ((CipherKey.sameFields c.key c'.key).separable_showRecord _) .nil
  refine hfields.showRecord_inj.trans ?_
  simp only [List.cons.injEq, Prod.mk.injEq, true_and, and_true, CipherKey.debugText_eq_iff]

namespace Redirect

/-- A redirect with no token in it. -/
def withoutSecret (r : Redirect) : Redirect :=
  { r with sessionToken := "" }

/-- The fields of a redirect as they are shown. -/
def fields (r : Redirect) : List (String × String) :=
  [("action_uri", quote r.actionUri), ("session_token", redacted), ("state", showOption quote r.state),
    ("browser_modes", r.modes.debugText)]

private theorem sameFields (r r' : Redirect) : SameFields r.fields r'.fields :=
  .cons rfl (separable_quote _ _) <| .cons rfl (separable_refl _) <|
    .cons rfl (separable_showOption separable_quote _ _) <|
    .cons rfl (SessionModes.separable_debugText _ _) .nil

private theorem debugText_eq_iff (r r' : Redirect) :
    r.debugText = r'.debugText ↔ r.withoutSecret = r'.withoutSecret := by
  refine (sameFields r r').showRecord_inj.trans ?_
  simp only [fields, List.cons.injEq, Prod.mk.injEq, quote_inj, showOption_inj fun _ _ => quote_inj,
    SessionModes.debugText_inj, withoutSecret, Redirect.mk.injEq, true_and, and_true]

private theorem separable_debugText (r r' : Redirect) : Separable r.debugText r'.debugText :=
  (sameFields r r').separable_showRecord _

end Redirect

namespace SwitchRequest

/-- A request with its session token left out. -/
def withoutSecret (r : SwitchRequest) : SwitchRequest :=
  ⟨r.redirect.withoutSecret⟩

private theorem sameFields (r r' : SwitchRequest) :
    SameFields [("payload", r.redirect.debugText)] [("payload", r'.redirect.debugText)] :=
  .cons rfl (Redirect.separable_debugText _ _) .nil

private theorem debugText_eq_iff (r r' : SwitchRequest) :
    r.debugText = r'.debugText ↔ r.withoutSecret = r'.withoutSecret := by
  refine (sameFields r r').showRecord_inj.trans ?_
  simp only [List.cons.injEq, Prod.mk.injEq, Redirect.debugText_eq_iff, withoutSecret,
    SwitchRequest.mk.injEq, true_and, and_true]

private theorem separable_debugText (r r' : SwitchRequest) : Separable r.debugText r'.debugText :=
  (sameFields r r').separable_showRecord _

end SwitchRequest

namespace ResumeRequest

/-- A request with its session token left out. -/
def withoutSecret (r : ResumeRequest) : ResumeRequest :=
  { r with redirect := r.redirect.withoutSecret }

/-- The fields of a request as they are shown. -/
def fields (r : ResumeRequest) : List (String × String) :=
  [("payload", r.redirect.debugText), ("parent", showOption SwitchRef.debugText r.parent)]

private theorem sameFields (r r' : ResumeRequest) : SameFields r.fields r'.fields :=
  .cons rfl (Redirect.separable_debugText _ _) <|
    .cons rfl (separable_showOption SwitchRef.separable_debugText _ _) .nil

private theorem debugText_eq_iff (r r' : ResumeRequest) :
    r.debugText = r'.debugText ↔ r.withoutSecret = r'.withoutSecret := by
  refine (sameFields r r').showRecord_inj.trans ?_
  simp only [fields, List.cons.injEq, Prod.mk.injEq, Redirect.debugText_eq_iff,
    showOption_inj SwitchRef.debugText_inj, withoutSecret, ResumeRequest.mk.injEq, true_and, and_true]

private theorem separable_debugText (r r' : ResumeRequest) : Separable r.debugText r'.debugText :=
  (sameFields r r').separable_showRecord _

end ResumeRequest

namespace CodeGrant

/-- A grant with no code in it. -/
def withoutSecret (g : CodeGrant) : CodeGrant :=
  { g with code := "" }

private theorem debugText_eq_iff (g g' : CodeGrant) :
    g.debugText = g'.debugText ↔ g.withoutSecret = g'.withoutSecret := by
  have hfields : SameFields [("code", redacted), ("state", showOption quote g.state)]
      [("code", redacted), ("state", showOption quote g'.state)] :=
    .cons rfl (separable_refl _) <| .cons rfl (separable_showOption separable_quote _ _) .nil
  refine hfields.showRecord_inj.trans ?_
  simp only [List.cons.injEq, Prod.mk.injEq, showOption_inj fun _ _ => quote_inj, withoutSecret,
    CodeGrant.mk.injEq, true_and, and_true]

end CodeGrant

/-- The fields of a refusal as they are shown. -/
def Refusal.fields (r : Refusal) : List (String × String) :=
  [("error", quote r.error), ("error_description", showOption quote r.description),
    ("state", showOption quote r.state)]

private theorem Refusal.sameFields (r r' : Refusal) : SameFields r.fields r'.fields :=
  .cons rfl (separable_quote _ _) <| .cons rfl (separable_showOption separable_quote _ _) <|
    .cons rfl (separable_showOption separable_quote _ _) .nil

/-- A refusal holds no secret. -/
theorem Refusal.debugText_inj (r r' : Refusal) : r.debugText = r'.debugText ↔ r = r' := by
  refine (sameFields r r').showRecord_inj.trans ?_
  obtain ⟨error, description, state⟩ := r
  obtain ⟨error', description', state'⟩ := r'
  simp only [fields, List.cons.injEq, Prod.mk.injEq, quote_inj, showOption_inj fun _ _ => quote_inj,
    Refusal.mk.injEq, true_and, and_true]

namespace Answer

/-- An answer with its session token or its code left out. -/
def withoutSecret : Answer → Answer
  | switch request => switch request.withoutSecret
  | resume request => resume request.withoutSecret
  | grant g => grant g.withoutSecret
  | refusal r => refusal r

private theorem debugText_eq_iff (a a' : Answer) :
    a.debugText = a'.debugText ↔ a.withoutSecret = a'.withoutSecret := by
  cases a <;> cases a' <;>
    (unfold debugText; rw [showWrapped_inj (by decide) (by decide)]) <;>
    simp [withoutSecret, SwitchRequest.debugText_eq_iff, ResumeRequest.debugText_eq_iff,
      CodeGrant.debugText_eq_iff, Refusal.debugText_inj]

end Answer

namespace Operation

/-- An operation with the session token of its request left out. -/
def withoutSecret : Operation → Operation
  | switch request => switch request.withoutSecret
  | resume request initialActionUri => resume request.withoutSecret initialActionUri

private theorem debugText_eq_iff (o o' : Operation) :
    o.debugText = o'.debugText ↔ o.withoutSecret = o'.withoutSecret := by
  have hswitch : ' ' ∉ "BrowserSwitchOperation".toList := by decide
  have hresume : ' ' ∉ "BrowserSwitchResumeOperation".toList := by decide
  cases o with
  | switch request =>
    cases o' with
    | switch request' =>
      have hfields : SameFields [("response", request.debugText)] [("response", request'.debugText)] :=
        .cons rfl (SwitchRequest.separable_debugText _ _) .nil
      refine hfields.showPartialRecord_inj.trans ?_
      simp [withoutSecret, SwitchRequest.debugText_eq_iff]
    | resume request' uri' =>
      refine iff_of_false (fun h => ?_) (by simp [withoutSecret])
      exact absurd (name_eq_of_showPartialRecord_eq hswitch hresume h) (by decide)
  | resume request uri =>
    cases o' with
    | switch request' =>
      refine iff_of_false (fun h => ?_) (by simp [withoutSecret])
      exact absurd (name_eq_of_showPartialRecord_eq hresume hswitch h) (by decide)
    | resume request' uri' =>
      have hfields : SameFields
          [("response", request.debugText), ("parent_action_uri", quote uri)]
          [("response", request'.debugText), ("parent_action_uri", quote uri')] :=
        .cons rfl (ResumeRequest.separable_debugText _ _) <| .cons rfl (separable_quote _ _) .nil
      refine hfields.showPartialRecord_inj.trans ?_
      simp [withoutSecret, ResumeRequest.debugText_eq_iff, quote_inj]

end Operation

/-- A store whose requests have no tokens in them. -/
def SwitchStore.withoutSecrets (s : SwitchStore) : SwitchStore :=
  { s with requests := s.requests.map SwitchRequest.withoutSecret }

private theorem SwitchStore.get?_withoutSecrets (s : SwitchStore) (reference : SwitchRef) :
    s.withoutSecrets.get? reference = (s.get? reference).map SwitchRequest.withoutSecret := by
  rw [get?, get?, withoutSecrets, List.getElem?_map]
  split_ifs <;> rfl

namespace Operation

private theorem ofSwitch_withoutSecret (a : Answer) :
    ofSwitch a.withoutSecret = (ofSwitch a).map withoutSecret := by
  cases a <;> rfl

private theorem ofResume_withoutSecret (a : Answer) (s : SwitchStore) :
    ofResume a.withoutSecret s.withoutSecrets = (ofResume a s).map withoutSecret := by
  cases a with
  | resume request =>
    have hparent : request.withoutSecret.parent.bind s.withoutSecrets.get? =
        (request.parent.bind s.get?).map SwitchRequest.withoutSecret := by
      cases hparent : request.parent <;>
        simp [ResumeRequest.withoutSecret, hparent, SwitchStore.get?_withoutSecrets]
    rw [Answer.withoutSecret, ofResume, ofResume, hparent]
    cases request.parent.bind s.get? <;> rfl
  | switch _ | grant _ | refusal _ => rfl

private theorem map_debugText_eq {x y : Except CallbackError Operation}
    (h : x.map withoutSecret = y.map withoutSecret) : x.map debugText = y.map debugText :=
  map_eq_map_of_map_eq (fun o o' => (debugText_eq_iff o o').2) h

end Operation

/-- Two values are shown as the same text if and only if they are the same up to their secrets: the secret of a
key request, whatever its length, the bytes of a key, the token of a redirect and the code of a grant, wherever
these stand. Operations are shown as the same text if they are made from answers, and stores of answers, that
are the same up to their secrets. -/
theorem debugText_shows_all_but_secrets :
    (∀ r r' : KeyRequest, r.debugText = r'.debugText ↔ r.withoutSecret = r'.withoutSecret) ∧
    (∀ k k' : CipherKey, k.debugText = k'.debugText ↔ k.size = k'.size) ∧
    (∀ c c' : KeyedCipher, c.debugText = c'.debugText ↔ c.key.size = c'.key.size) ∧
    (∀ r r' : Redirect, r.debugText = r'.debugText ↔ r.withoutSecret = r'.withoutSecret) ∧
    (∀ r r' : SwitchRequest, r.debugText = r'.debugText ↔ r.withoutSecret = r'.withoutSecret) ∧
    (∀ r r' : ResumeRequest, r.debugText = r'.debugText ↔ r.withoutSecret = r'.withoutSecret) ∧
    (∀ g g' : CodeGrant, g.debugText = g'.debugText ↔ g.withoutSecret = g'.withoutSecret) ∧
    (∀ a a' : Answer, a.debugText = a'.debugText ↔ a.withoutSecret = a'.withoutSecret) ∧
    (∀ o o' : Operation, o.debugText = o'.debugText ↔ o.withoutSecret = o'.withoutSecret) ∧
    (∀ a a' : Answer, a.withoutSecret = a'.withoutSecret →
      (Operation.ofSwitch a).map Operation.debugText = (Operation.ofSwitch a').map Operation.debugText) ∧
    (∀ (a a' : Answer) (s s' : SwitchStore), a.withoutSecret = a'.withoutSecret →
      s.withoutSecrets = s'.withoutSecrets →
      (Operation.ofResume a s).map Operation.debugText =
        (Operation.ofResume a' s').map Operation.debugText) := by
  refine ⟨KeyRequest.debugText_eq_iff, CipherKey.debugText_eq_iff, KeyedCipher.debugText_eq_iff,
    Redirect.debugText_eq_iff, SwitchRequest.debugText_eq_iff, ResumeRequest.debugText_eq_iff,
    CodeGrant.debugText_eq_iff, Answer.debugText_eq_iff, Operation.debugText_eq_iff, ?_, ?_⟩
  · intro a a' hanswer
    apply Operation.map_debugText_eq
    rw [← Operation.ofSwitch_withoutSecret, hanswer, Operation.ofSwitch_withoutSecret]
  · intro a a' s s' hanswer hstore
    apply Operation.map_debugText_eq
    rw [← Operation.ofResume_withoutSecret, hanswer, hstore, Operation.ofResume_withoutSecret]

/-- Operations that end a switch, made from redirects whose tokens differ, the one back and the one away. -/
theorem debugText_shows_all_but_secrets_of_two_resumes :
    let answer (token : String) : Answer := .resume ⟨⟨"b", token, some "s", ⟨1⟩⟩, some ⟨1, 0⟩⟩
    let store (token : String) : SwitchStore := ⟨1, [⟨⟨"a", token, none, ⟨0⟩⟩⟩]⟩
    ∃ text, (Operation.ofResume (answer "x") (store "y")).map Operation.debugText = .ok text ∧
      (Operation.ofResume (answer "long token") (store "")).map Operation.debugText = .ok text := by
  intro answer store
  obtain ⟨-, -, -, -, -, -, -, -, -, -, hresume⟩ := debugText_shows_all_but_secrets
  refine ⟨_, rfl, ?_⟩
  exact (hresume (answer "long token") (answer "x") (store "") (store "y") rfl rfl).trans rfl

end SignIn
