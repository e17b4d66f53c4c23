import SignIn.Proofs.Answer.StoreHistory
import SignIn.Proofs.Operation.ResumeFlow

namespace SignIn

namespace Operation

private theorem ofResume_eq_misuse {answer : Answer} {store : SwitchStore}
    (hnone : ¬ ∃ op, ofResume answer store = .ok op) :
    ∃ detail, ofResume answer store = .error (.misuse detail) := by
  cases answer with
  | resume request =>
    cases hparent : request.parent.bind store.get? with
    | none => exact ⟨_, by rw [ofResume, hparent]⟩
    | some parent => exact absurd ⟨_, by rw [ofResume, hparent]⟩ hnone
  | _ => exact ⟨_, rfl⟩

private theorem ofResume_of_growsTo {answer : Answer} {store later : SwitchStore} {op : Operation}
    (hgrows : store.GrowsTo later) (hop : ofResume answer store = .ok op) :
    ofResume answer later = .ok op := by
  obtain ⟨request, reference, parent, hanswer, hreference, hget, hop⟩ := ofResume_eq_ok_iff.1 hop
  exact ofResume_eq_ok_iff.2 ⟨request, reference, parent, hanswer, hreference, hgrows.get? hget, hop⟩

/-- A completed sign-in reports the action URI that its operation was made with. -/
theorem initialActionUri_of_delivery {request : ResumeRequest} {uri : String} {params : RequestParameters}
    {c : Collaborators} {result : CompletedSignIn}
    (hdelivery : .signIn result ∈ ((resume request uri).run params c).deliveries) :
    result.initialActionUri = uri := by
  rw [deliveries_run, List.mem_singleton, eq_comm, Outcome.delivery_eq_signIn_iff,
    conclusion_eq_signedIn_iff] at hdelivery
  obtain ⟨_, _, hop, -⟩ := hdelivery
  cases hop
  rfl

end Operation

namespace StoreHistory

/-- After any calls on any number of stores and requests, as long as the numbers of stores last: no reference
was given out twice. A request still carries what it came with, and refers to what it was told last. A store
finds for a reference the request that it gave the reference out for, knows no reference of another store,
and holds what was put in. So the operation that ends a switch is made exactly of a request whose last
reference came from the store at hand, and reports the action URI of the request that was put in then. None of
this is undone by later calls. -/
theorem references_resolve_for_good (calls : List StoreCall) (hfew : calls.count .newStore < 2 ^ 64) :
    let h := run calls
    (h.issues.map (·.reference)).Nodup ∧
    h.children.map (·.redirect) = calls.filterMap StoreCall.received? ∧
    (∀ k child, h.children[k]? = some child → child.parent = h.lastParent? k) ∧
    ∀ i store, h.stores[i]? = some store →
      (∀ reference request, store.get? reference = some request ↔ ⟨i, reference, request⟩ ∈ h.issues) ∧
      (∀ issue ∈ h.issues, issue.store ≠ i → store.get? issue.reference = none) ∧
      store.size = h.issues.countP (·.store = i) ∧
      (∀ answer op, Operation.ofResume answer store = .ok op ↔
        ∃ request reference parent, answer = .resume request ∧ request.parent = some reference ∧
          ⟨i, reference, parent⟩ ∈ h.issues ∧ op = .resume request parent.redirect.actionUri) ∧
      (∀ request uri params c result,
        .signIn result ∈ ((Operation.resume request uri).run params c).deliveries →
          result.initialActionUri = uri) ∧
      (∀ answer, (¬ ∃ op, Operation.ofResume answer store = .ok op) →
        ∃ detail, Operation.ofResume answer store = .error (.misuse detail)) ∧
      ∀ more, ∃ later, (run (calls ++ more)).stores[i]? = some later ∧
        (∀ reference request, store.get? reference = some request →
          later.get? reference = some request) ∧
        ∀ answer op, Operation.ofResume answer store = .ok op →
          Operation.ofResume answer later = .ok op := by
  intro h
  have hc : h.Coherent := coherent_run calls
  have hstores : h.stores.length < 2 ^ 64 := by
    rw [length_stores_run]
    exact hfew
  refine ⟨hc.nodup_references hstores, redirects_run calls, hc.parent, fun i store hstore => ?_⟩
  have hissued : ∀ reference request,
      store.get? reference = some request ↔ ⟨i, reference, request⟩ ∈ h.issues :=
    fun _ _ => hc.get?_eq_some_iff hstore
  refine ⟨hissued, ?_, hc.size_eq hstore, ?_, ?_, fun answer => Operation.ofResume_eq_misuse, ?_⟩
  · intro issue hissue hother
    refine Option.eq_none_iff_forall_ne_some.2 fun request hget => hother ?_
    have hsame := hc.issue_eq hstores hissue ((hissued _ _).1 hget) rfl
    rw [hsame]
  · intro answer op
    simp only [Operation.ofResume_eq_ok_iff, hissued]
  · exact fun _ _ _ _ _ => Operation.initialActionUri_of_delivery
  · intro more
    obtain ⟨later, hlater, hgrows⟩ := stores_grow hstore more
    rw [← run_append] at hlater
    exact ⟨later, hlater, fun _ _ => hgrows.get?, fun _ _ => Operation.ofResume_of_growsTo hgrows⟩

/-- A request is linked in one store, and then told a reference of another that has the same place. Only the
latter store knows it. -/
theorem references_resolve_for_good_across_stores :
    let first : SwitchRequest := ⟨⟨"first", "t", none, SessionModes.none⟩⟩
    let second : SwitchRequest := ⟨⟨"second", "t", none, SessionModes.none⟩⟩
    let calls : List StoreCall :=
      [.newStore, .newStore, .receive ⟨"resume", "u", none, SessionModes.none⟩, .insert 0 first,
       .link 1 0 second, .setParent 0 ⟨1, 0⟩, .insert 0 second]
    let child : ResumeRequest := ⟨⟨"resume", "u", none, SessionModes.none⟩, some ⟨1, 0⟩⟩
    calls.count .newStore < 2 ^ 64 ∧ (run calls).children = [child] ∧
      ∃ store other, (run calls).stores = [store, other] ∧ store.size = 2 ∧
        other.get? ⟨2, 0⟩ = some second ∧ other.get? ⟨1, 0⟩ = none ∧
        Operation.ofResume (.resume child) store = .ok (.resume child "first") ∧
        ∃ detail, Operation.ofResume (.resume child) other = .error (.misuse detail) := by
  intro first second calls child
  have hfew : calls.count .newStore < 2 ^ 64 := by decide
  have hissues : (run calls).issues =
      [⟨0, ⟨1, 0⟩, first⟩, ⟨1, ⟨2, 0⟩, second⟩, ⟨0, ⟨1, 1⟩, second⟩] := rfl
  obtain ⟨-, -, -, hstores⟩ := references_resolve_for_good calls hfew
  obtain ⟨-, -, hsize, hop, -⟩ := hstores 0 ⟨1, [first, second]⟩ rfl
  obtain ⟨hget, hforeign, -, -, -, hmisuse, -⟩ := hstores 1 ⟨2, [second]⟩ rfl
  refine ⟨hfew, rfl, ⟨1, [first, second]⟩, ⟨2, [second]⟩, rfl, ?_, ?_, ?_, ?_, ?_⟩
  · rw [hsize, hissues]
    rfl
  · rw [hget, hissues]
    simp
  · exact hforeign ⟨0, ⟨1, 0⟩, first⟩ (by rw [hissues]; simp) (by decide)
  · exact (hop _ _).2 ⟨child, ⟨1, 0⟩, first, rfl, rfl, by rw [hissues]; simp, rfl⟩
  · refine hmisuse _ ?_
    rintro ⟨op, hresume⟩
    obtain ⟨request, reference, parent, hrequest, hreference, hfound, -⟩ :=
      Operation.ofResume_eq_ok_iff.1 hresume
    cases hrequest
    cases hreference
    cases hfound

end StoreHistory

end SignIn
