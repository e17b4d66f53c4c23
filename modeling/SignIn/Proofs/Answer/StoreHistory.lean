import Mathlib.Algebra.Group.Nat.Defs
import Mathlib.Data.List.Induction
import Mathlib.Data.List.Nodup
import SignIn.Answer.Store
import SignIn.Proofs.List

namespace SignIn

namespace SwitchStore

/-- One store came out of another by insertions. -/
def GrowsTo (s t : SwitchStore) : Prop :=
  t.number = s.number ∧ s.requests <+: t.requests

private theorem GrowsTo.refl (s : SwitchStore) : s.GrowsTo s :=
  ⟨rfl, List.prefix_rfl⟩

private theorem GrowsTo.trans {s t u : SwitchStore} (hst : s.GrowsTo t) (htu : t.GrowsTo u) : s.GrowsTo u :=
  ⟨htu.1.trans hst.1, hst.2.trans htu.2⟩

private theorem growsTo_insert (s : SwitchStore) (request : SwitchRequest) : s.GrowsTo (s.insert request).2 :=
  ⟨rfl, List.prefix_append _ _⟩

private theorem get?_eq_some_iff {s : SwitchStore} {reference : SwitchRef} {request : SwitchRequest} :
    s.get? reference = some request ↔
      reference.store = s.number ∧ s.requests[reference.index]? = some request := by
  rw [get?]
  split_ifs with hstore <;> simp [hstore]

/-- A reference means the same in a store that has grown. -/
theorem GrowsTo.get? {s t : SwitchStore} (hgrows : s.GrowsTo t) {reference : SwitchRef}
    {request : SwitchRequest} (hget : s.get? reference = some request) :
    t.get? reference = some request := by
  obtain ⟨hnumber, rest, hrequests⟩ := hgrows
  obtain ⟨hstore, hrequest⟩ := get?_eq_some_iff.1 hget
  have hindex := (List.getElem?_eq_some_iff.1 hrequest).1
  refine get?_eq_some_iff.2 ⟨hstore.trans hnumber.symm, ?_⟩
  rw [← hrequests, List.getElem?_append_left hindex, hrequest]

end SwitchStore

/-- A reference that a store gave out, with the place of the store among all stores and the request that it
gave the reference out for. -/
structure Issue where
  store : Nat
  reference : SwitchRef
  request : SwitchRequest
  deriving DecidableEq

namespace SwitchStore

/-- What the store at a place has given out. -/
def issues (s : SwitchStore) (i : Nat) : List Issue :=
  s.requests.zipIdx.map fun entry => ⟨i, ⟨s.number, entry.2⟩, entry.1⟩

private theorem mem_issues_iff {s : SwitchStore} {i : Nat} {issue : Issue} :
    issue ∈ s.issues i ↔ issue.store = i ∧ s.get? issue.reference = some issue.request := by
  obtain ⟨j, ⟨number, index⟩, request⟩ := issue
  simp only [issues, List.mem_map, Prod.exists, List.mk_mem_zipIdx_iff_getElem?, get?_eq_some_iff,
    Issue.mk.injEq, SwitchRef.mk.injEq]
  constructor
  · rintro ⟨_, _, hrequest, rfl, ⟨rfl, rfl⟩, rfl⟩
    exact ⟨rfl, rfl, hrequest⟩
  · rintro ⟨rfl, rfl, hrequest⟩
    exact ⟨request, index, hrequest, rfl, ⟨rfl, rfl⟩, rfl⟩

private theorem nodup_issues (s : SwitchStore) (i : Nat) : (s.issues i).Nodup := by
  have hindices : (s.issues i).map (·.reference.index) = List.range' 0 s.requests.length := by
    rw [issues, List.map_map, ← List.zipIdx_map_snd]
    rfl
  exact .of_map _ (hindices ▸ List.nodup_range')

private theorem length_issues (s : SwitchStore) (i : Nat) : (s.issues i).length = s.size := by
  simp [issues, size]

private theorem issues_insert (s : SwitchStore) (i : Nat) (request : SwitchRequest) :
    (s.insert request).2.issues i = s.issues i ++ [⟨i, (s.insert request).1, request⟩] := by
  simp [issues, insert, List.zipIdx_append, size]

end SwitchStore

/-- A call on stores and on requests that end a switch. Both are told by the order in which they came up. -/
inductive StoreCall where
  | newStore
  /-- A request that ends a switch comes in. -/
  | receive (redirect : Redirect)
  | insert (store : Nat) (request : SwitchRequest)
  | link (store child : Nat) (parent : SwitchRequest)
  | setParent (child : Nat) (parent : SwitchRef)
  deriving DecidableEq

/-- What a request carries that comes in by a call. -/
def StoreCall.received? : StoreCall → Option Redirect
  | receive redirect => some redirect
  | _ => none

/-- The stores and requests of a session, and what happened to them. -/
structure StoreHistory where
  numbers : StoreNumbers
  stores : List SwitchStore
  children : List ResumeRequest
  /-- The references that the stores gave out, in order. -/
  issues : List Issue
  /-- The references that the requests were given, in order, each with the place of its request. -/
  parents : List (Nat × SwitchRef)

namespace StoreHistory

/-- No stores and no requests. -/
def empty : StoreHistory :=
  ⟨StoreNumbers.initial, [], [], [], []⟩

/-- The reference that a request was given last. -/
def lastParent? (h : StoreHistory) (k : Nat) : Option SwitchRef :=
  h.parents.reverse.lookup k

/-- Makes a store. -/
def addStore (h : StoreHistory) : StoreHistory :=
  let (store, numbers) := h.numbers.newStore
  { h with numbers, stores := h.stores ++ [store] }

/-- Takes in a request. It refers to no other yet. -/
def addChild (h : StoreHistory) (redirect : Redirect) : StoreHistory :=
  { h with children := h.children ++ [⟨redirect, none⟩] }

/-- Puts a store in its place and notes the reference that it gave out. -/
def noteIssue (h : StoreHistory) (i : Nat) (store : SwitchStore) (reference : SwitchRef)
    (request : SwitchRequest) : StoreHistory :=
  { h with stores := h.stores.set i store, issues := h.issues ++ [⟨i, reference, request⟩] }

/-- Puts a request in its place and notes the reference that it was given. -/
def noteParent (h : StoreHistory) (k : Nat) (child : ResumeRequest) (reference : SwitchRef) :
    StoreHistory :=
  { h with children := h.children.set k child, parents := h.parents ++ [(k, reference)] }

/-- Carries out a call. A call on a store or a request that is not there does nothing. -/
def step (h : StoreHistory) : StoreCall → StoreHistory
  | .newStore => h.addStore
  | .receive redirect => h.addChild redirect
  | .insert i request =>
    match h.stores[i]? with
    | some store =>
      let (reference, store) := store.insert request
      h.noteIssue i store reference request
    | none => h
  | .link i k parent =>
    match h.stores[i]?, h.children[k]? with
    | some store, some child =>
      let (reference, child, store) := store.link child parent
      (h.noteIssue i store reference parent).noteParent k child reference
    | _, _ => h
  | .setParent k reference =>
    match h.children[k]? with
    | some child => h.noteParent k (child.withParent reference) reference
    | none => h

/-- Carries out calls, beginning without stores and requests. -/
def run (calls : List StoreCall) : StoreHistory :=
  calls.foldl step empty

/-- Calls go on from where earlier calls have led. -/
theorem run_append (calls more : List StoreCall) : run (calls ++ more) = more.foldl step (run calls) :=
  List.foldl_append

/-- One more call is one more step. -/
theorem run_concat (calls : List StoreCall) (call : StoreCall) :
    run (calls ++ [call]) = (run calls).step call :=
  run_append calls [call]

/-- All that calls do comes down to four changes. What survives these survives every sequence of calls. -/
theorem foldl_step_induction {P : StoreHistory → Prop} {h₀ : StoreHistory} (hstart : P h₀)
    (haddStore : ∀ h, P h → P h.addStore) (haddChild : ∀ h redirect, P h → P (h.addChild redirect))
    (hissue : ∀ (h : StoreHistory) i store request, h.stores[i]? = some store → P h →
      P (h.noteIssue i (store.insert request).2 (store.insert request).1 request))
    (hparent : ∀ (h : StoreHistory) k child reference, h.children[k]? = some child → P h →
      P (h.noteParent k (child.withParent reference) reference))
    (calls : List StoreCall) : P (calls.foldl step h₀) := by
  induction calls using List.reverseRecOn with
  | nil => exact hstart
  | append_singleton calls call ih =>
    rw [List.foldl_concat]
    generalize calls.foldl step h₀ = h at ih ⊢
    cases call with
    | newStore => exact haddStore h ih
    | receive redirect => exact haddChild h redirect ih
    | insert i request =>
      cases hstore : h.stores[i]? with
      | none => simpa [step, hstore] using ih
      | some store => simpa [step, hstore] using hissue h i store request hstore ih
    | link i k parent =>
      cases hstore : h.stores[i]? with
      | none => simpa [step, hstore] using ih
      | some store =>
        cases hchild : h.children[k]? with
        | none => simpa [step, hstore, hchild] using ih
        | some child =>
          have hissued := hissue h i store parent hstore ih
          simpa [step, hstore, hchild, SwitchStore.link] using
            hparent (h.noteIssue i (store.insert parent).2 (store.insert parent).1 parent) k child
              (store.insert parent).1 hchild hissued
    | setParent k reference =>
      cases hchild : h.children[k]? with
      | none => simpa [step, hchild] using ih
      | some child => simpa [step, hchild] using hparent h k child reference hchild ih

/-- Stores and requests agree with what the history says of them. -/
structure Coherent (h : StoreHistory) : Prop where
  next : h.numbers.next.toNat = (h.stores.length + 1) % 2 ^ 64
  number : ∀ i store, h.stores[i]? = some store → store.number.toNat = (i + 1) % 2 ^ 64
  issues : ∀ i store, h.stores[i]? = some store → h.issues.filter (·.store = i) = store.issues i
  issue_lt : ∀ issue ∈ h.issues, issue.store < h.stores.length
  parent : ∀ k child, h.children[k]? = some child → child.parent = h.lastParent? k
  parent_lt : ∀ entry ∈ h.parents, entry.1 < h.children.length

private theorem coherent_empty : Coherent empty where
  next := rfl
  number := by simp [empty]
  issues := by simp [empty]
  issue_lt := by simp [empty]
  parent := by simp [empty]
  parent_lt := by simp [empty]

private theorem Coherent.addStore {h : StoreHistory} (hc : h.Coherent) : h.addStore.Coherent where
  next := by
    have hnext := hc.next
    simp only [StoreHistory.addStore, StoreNumbers.newStore, UInt64.toNat_add, UInt64.toNat_one,
      List.length_append, List.length_singleton]
    omega
  number := by
    intro i store hstore
    rcases getElem?_concat_cases hstore with hold | ⟨rfl, rfl⟩
    · exact hc.number i store hold
    · exact hc.next
  issues := by
    intro i store hstore
    rcases getElem?_concat_cases hstore with hold | ⟨rfl, rfl⟩
    · exact hc.issues i store hold
    · refine List.filter_eq_nil_iff.2 fun issue hissue => ?_
      have hlt := hc.issue_lt issue hissue
      simp only [decide_eq_true_eq]
      omega
  issue_lt := by
    intro issue hissue
    have hlt := hc.issue_lt issue hissue
    simp only [StoreHistory.addStore, List.length_append, List.length_singleton]
    omega
  parent := hc.parent
  parent_lt := hc.parent_lt

private theorem Coherent.addChild {h : StoreHistory} (hc : h.Coherent) (redirect : Redirect) :
    (h.addChild redirect).Coherent where
  next := hc.next
  number := hc.number
  issues := hc.issues
  issue_lt := hc.issue_lt
  parent := by
    intro k child hchild
    rcases getElem?_concat_cases hchild with hold | ⟨rfl, rfl⟩
    · exact hc.parent k child hold
    · -- No reference can have been given to a request that was not there.
      refine (List.lookup_eq_none_iff.2 fun entry hentry => ?_).symm
      have hlt := hc.parent_lt entry (List.mem_reverse.1 hentry)
      simp only [bne_iff_ne]
      omega
  parent_lt := by
    intro entry hentry
    have hlt := hc.parent_lt entry hentry
    simp only [StoreHistory.addChild, List.length_append, List.length_singleton]
    omega

private theorem Coherent.noteIssue {h : StoreHistory} (hc : h.Coherent) {i : Nat} {store : SwitchStore}
    (hstore : h.stores[i]? = some store) (request : SwitchRequest) :
    (h.noteIssue i (store.insert request).2 (store.insert request).1 request).Coherent where
  next := by
    simpa [StoreHistory.noteIssue] using hc.next
  number := by
    intro j later hlater
    obtain ⟨hij, rfl⟩ | ⟨hij, hlater⟩ := getElem?_set_cases hlater
    · subst hij
      exact hc.number i store hstore
    · exact hc.number j later hlater
  issues := by
    intro j later hlater
    simp only [StoreHistory.noteIssue, List.filter_append]
    obtain ⟨hij, rfl⟩ | ⟨hij, hlater⟩ := getElem?_set_cases hlater
    · subst hij
      rw [hc.issues i store hstore, SwitchStore.issues_insert]
      simp
    · rw [hc.issues j later hlater]
      simp [hij]
  issue_lt := by
    intro issue hissue
    simp only [StoreHistory.noteIssue, List.mem_append, List.mem_singleton, List.length_set] at hissue ⊢
    rcases hissue with hold | rfl
    · exact hc.issue_lt issue hold
    · exact (List.getElem?_eq_some_iff.1 hstore).1
  parent := hc.parent
  parent_lt := hc.parent_lt

private theorem Coherent.noteParent {h : StoreHistory} (hc : h.Coherent) {k : Nat} {child : ResumeRequest}
    (hchild : h.children[k]? = some child) (reference : SwitchRef) :
    (h.noteParent k (child.withParent reference) reference).Coherent where
  next := hc.next
  number := hc.number
  issues := hc.issues
  issue_lt := hc.issue_lt
  parent := by
    intro j later hlater
    simp only [lastParent?, StoreHistory.noteParent, List.reverse_append, List.reverse_singleton,
      List.singleton_append, List.lookup_cons]
    obtain ⟨hkj, rfl⟩ | ⟨hkj, hlater⟩ := getElem?_set_cases hlater
    · simp [hkj, ResumeRequest.withParent]
    · have hother : (j == k) = false := by simpa using Ne.symm hkj
      rw [hother]
      exact hc.parent j later hlater
  parent_lt := by
    intro entry hentry
    simp only [StoreHistory.noteParent, List.mem_append, List.mem_singleton, List.length_set] at hentry ⊢
    rcases hentry with hold | rfl
    · exact hc.parent_lt entry hold
    · exact (List.getElem?_eq_some_iff.1 hchild).1

/-- After every run of calls stores and requests agree with the history. -/
theorem coherent_run (calls : List StoreCall) : (run calls).Coherent :=
  foldl_step_induction coherent_empty (fun _ hc => hc.addStore) (fun _ redirect hc => hc.addChild redirect)
    (fun _ _ _ request hstore hc => hc.noteIssue hstore request)
    (fun _ _ _ reference hchild hc => hc.noteParent hchild reference) calls

/-- Whatever happens, a store only grows. -/
theorem stores_grow {i : Nat} {store : SwitchStore} {h₀ : StoreHistory}
    (hstore : h₀.stores[i]? = some store) (calls : List StoreCall) :
    ∃ later, (calls.foldl step h₀).stores[i]? = some later ∧ store.GrowsTo later := by
  refine foldl_step_induction (P := fun h => ∃ later, h.stores[i]? = some later ∧ store.GrowsTo later)
    ⟨store, hstore, .refl store⟩ ?_ (fun _ _ h => h) ?_ (fun _ _ _ _ _ h => h) calls
  · rintro h ⟨later, hlater, hgrows⟩
    exact ⟨later, by rw [addStore, List.getElem?_append_left (List.getElem?_eq_some_iff.1 hlater).1, hlater],
      hgrows⟩
  · rintro h j before request hbefore ⟨later, hlater, hgrows⟩
    rw [noteIssue, List.getElem?_set]
    split_ifs with hji hj
    · subst hji
      cases hlater.symm.trans hbefore
      exact ⟨_, rfl, hgrows.trans (before.growsTo_insert request)⟩
    · exact absurd (List.getElem?_eq_some_iff.1 hbefore).1 hj
    · exact ⟨later, hlater, hgrows⟩

private theorem redirects_noteParent {h : StoreHistory} {k : Nat} {child : ResumeRequest}
    (hchild : h.children[k]? = some child) (reference : SwitchRef) :
    (h.noteParent k (child.withParent reference) reference).children.map (·.redirect) =
      h.children.map (·.redirect) := by
  refine List.ext_getElem? fun j => ?_
  rw [noteParent, List.getElem?_map, List.getElem?_map, List.getElem?_set]
  split_ifs with hkj hk
  · rw [← hkj, hchild]
    rfl
  · exact absurd (List.getElem?_eq_some_iff.1 hchild).1 hk
  · rfl

/-- Only a call for a new store makes one, and only a request that comes in adds to what the requests carry. -/
theorem step_totals (h : StoreHistory) (call : StoreCall) :
    (h.step call).stores.length = h.stores.length + [call].count .newStore ∧
      (h.step call).children.map (·.redirect) =
        h.children.map (·.redirect) ++ call.received?.toList := by
  cases call with
  | newStore => exact ⟨by simp [step, addStore], by simp [step, addStore, StoreCall.received?]⟩
  | receive redirect => exact ⟨by simp [step, addChild], by simp [step, addChild, StoreCall.received?]⟩
  | insert i request =>
    rw [step]
    split
    · exact ⟨by simp [noteIssue], by simp [noteIssue, StoreCall.received?]⟩
    · exact ⟨by simp, by simp [StoreCall.received?]⟩
  | link i k parent =>
    rw [step]
    split
    · next store child _ hchild =>
      refine ⟨by simp [noteIssue, noteParent], ?_⟩
      have hissued : (h.noteIssue i (store.insert parent).2 (store.insert parent).1 parent).children[k]? =
          some child := hchild
      exact (redirects_noteParent hissued _).trans (by simp [StoreCall.received?, noteIssue])
    · exact ⟨by simp, by simp [StoreCall.received?]⟩
  | setParent k reference =>
    rw [step]
    split
    · next child hchild =>
      refine ⟨by simp [noteParent], ?_⟩
      exact (redirects_noteParent hchild reference).trans (by simp [StoreCall.received?])
    · exact ⟨by simp, by simp [StoreCall.received?]⟩

/-- There are as many stores as were made. -/
theorem length_stores_run (calls : List StoreCall) : (run calls).stores.length = calls.count .newStore := by
  induction calls using List.reverseRecOn with
  | nil => rfl
  | append_singleton calls call ih => rw [run_concat, (step_totals _ call).1, ih, List.count_append]

/-- The requests that end a switch keep the redirects that they came with. -/
theorem redirects_run (calls : List StoreCall) :
    (run calls).children.map (·.redirect) = calls.filterMap StoreCall.received? := by
  induction calls using List.reverseRecOn with
  | nil => rfl
  | append_singleton calls call ih =>
    rw [run_concat, (step_totals _ call).2, ih, List.filterMap_append]
    cases hcall : call.received? <;> simp [hcall]

namespace Coherent

variable {h : StoreHistory} (hc : h.Coherent)

include hc

/-- A store finds what it gave the reference out for. -/
theorem get?_eq_some_iff {i : Nat} {store : SwitchStore} (hstore : h.stores[i]? = some store)
    {reference : SwitchRef} {request : SwitchRequest} :
    store.get? reference = some request ↔ ⟨i, reference, request⟩ ∈ h.issues := by
  have hfilter : ⟨i, reference, request⟩ ∈ h.issues.filter (·.store = i) ↔
      ⟨i, reference, request⟩ ∈ store.issues i := by
    rw [hc.issues i store hstore]
  simpa [SwitchStore.mem_issues_iff] using hfilter.symm

private theorem mem_issues_iff {issue : Issue} :
    issue ∈ h.issues ↔
      ∃ store, h.stores[issue.store]? = some store ∧ store.get? issue.reference = some issue.request := by
  constructor
  · intro hissue
    have hstore := List.getElem?_eq_getElem (hc.issue_lt issue hissue)
    exact ⟨_, hstore, (hc.get?_eq_some_iff hstore).2 hissue⟩
  · rintro ⟨store, hstore, hget⟩
    exact (hc.get?_eq_some_iff hstore).1 hget

/-- A store holds as many requests as it gave references out. -/
theorem size_eq {i : Nat} {store : SwitchStore} (hstore : h.stores[i]? = some store) :
    store.size = h.issues.countP (·.store = i) := by
  rw [List.countP_eq_length_filter, hc.issues i store hstore, store.length_issues]

private theorem nodup_issues : h.issues.Nodup := by
  refine List.nodup_iff_count_le_one.2 fun issue => ?_
  by_cases hissue : issue ∈ h.issues
  · obtain ⟨store, hstore, -⟩ := hc.mem_issues_iff.1 hissue
    have hcount : h.issues.count issue = (store.issues issue.store).count issue := by
      rw [← hc.issues _ store hstore, List.count_filter (by simp)]
    rw [hcount]
    exact List.nodup_iff_count_le_one.1 (store.nodup_issues _) issue
  · rw [List.count_eq_zero_of_not_mem hissue]
    omega

variable (hfew : h.stores.length < 2 ^ 64)

include hfew

/-- The numbers of stores are all different as long as the numbers last. -/
theorem place_eq {i j : Nat} {s t : SwitchStore} (hs : h.stores[i]? = some s) (ht : h.stores[j]? = some t)
    (hnumber : s.number = t.number) : i = j := by
  have hi := (List.getElem?_eq_some_iff.1 hs).1
  have hj := (List.getElem?_eq_some_iff.1 ht).1
  have hplace := congrArg UInt64.toNat hnumber
  rw [hc.number i s hs, hc.number j t ht] at hplace
  omega

/-- No reference was given out twice. -/
theorem issue_eq {issue other : Issue} (hissue : issue ∈ h.issues) (hother : other ∈ h.issues)
    (hsame : issue.reference = other.reference) : issue = other := by
  obtain ⟨s, hs, hget⟩ := hc.mem_issues_iff.1 hissue
  obtain ⟨t, ht, hget'⟩ := hc.mem_issues_iff.1 hother
  have hnumber : s.number = t.number := by
    rw [← (SwitchStore.get?_eq_some_iff.1 hget).1, ← (SwitchStore.get?_eq_some_iff.1 hget').1, hsame]
  have hplace := hc.place_eq hfew hs ht hnumber
  rw [hplace, ht] at hs
  cases hs
  rw [hsame, hget'] at hget
  cases issue
  cases other
  cases hplace
  cases hsame
  cases hget
  rfl

/-- References that were given out are all different. -/
theorem nodup_references : (h.issues.map (·.reference)).Nodup :=
  List.Nodup.map_on (fun _ hissue _ hother hsame => hc.issue_eq hfew hissue hother hsame) hc.nodup_issues

end Coherent

end StoreHistory

end SignIn
