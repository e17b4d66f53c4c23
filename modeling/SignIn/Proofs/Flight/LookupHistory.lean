import Mathlib.Data.List.Dedup
import Mathlib.Data.List.Induction
import SignIn.Flight.Directory

namespace SignIn

/-- What a lookup asks for. -/
inductive LookupTarget where
  | shared
  | key (key : String)
  deriving DecidableEq

namespace LookupTarget

/-- What a lookup with a key asks for: a blank key asks for the shared view. -/
def ofKey (key : String) : LookupTarget :=
  if Text.isAllBlank key then .shared else .key key

/-- The key of a target, unless it is the shared view. -/
def key? : LookupTarget → Option String
  | shared => none
  | key k => some k

end LookupTarget

/-- A call on a directory, or on a view that it has made. -/
inductive DirectoryCall where
  | lookupShared
  | lookup (key : String) (kind : QueryKeyKind)
  | setFinder (finder : Option SourceFinder)
  | setSource (view : ViewId) (source : Option FlightSource)

namespace DirectoryCall

/-- What a call asks for, if it is a lookup. -/
def target? : DirectoryCall → Option LookupTarget
  | lookupShared => some .shared
  | lookup key _ => some (.ofKey key)
  | setFinder _ | setSource _ _ => none

/-- The finder that a call installs, or that there is to be none. -/
def finder? : DirectoryCall → Option (Option SourceFinder)
  | setFinder finder => some finder
  | _ => none

/-- What the finder is asked if a lookup has to make a view. -/
def question (finder : Option SourceFinder) : DirectoryCall → Option (String × QueryKeyKind)
  | lookup key kind => if Text.isAllBlank key then none else finder.map fun _ => (key, kind)
  | _ => none

/-- The source that a view gets if a lookup has to make it. -/
def foundSource (finder : Option SourceFinder) : DirectoryCall → Option FlightSource
  | lookup key kind => if Text.isAllBlank key then none else finder.bind fun find => find key kind
  | _ => none

end DirectoryCall

/-- What the lookups among some calls ask for, in order. -/
def lookupTargets (calls : List DirectoryCall) : List LookupTarget :=
  calls.filterMap DirectoryCall.target?

/-- The finder that is installed after some calls. -/
def installedFinder (calls : List DirectoryCall) : Option SourceFinder :=
  (calls.filterMap DirectoryCall.finder?).getLastD none

/-- One more call asks for what it asks for. -/
theorem lookupTargets_concat (calls : List DirectoryCall) (call : DirectoryCall) :
    lookupTargets (calls ++ [call]) = lookupTargets calls ++ call.target?.toList := by
  rw [lookupTargets, List.filterMap_append]
  cases hcall : call.target? <;> simp [lookupTargets, hcall]

private theorem installedFinder_concat (calls : List DirectoryCall) (call : DirectoryCall) :
    installedFinder (calls ++ [call]) = call.finder?.getD (installedFinder calls) := by
  rw [installedFinder, List.filterMap_append]
  cases hcall : call.finder? <;> simp [installedFinder, hcall, List.getLastD_eq_getLast?]

private theorem finder?_eq_none {call : DirectoryCall} {target : LookupTarget}
    (hcall : call.target? = some target) :
    call.finder? = none := by
  cases call <;> first | rfl | cases hcall

namespace FlightDirectory

/-- The view that a directory has for a target. -/
def viewOf? (d : FlightDirectory) : LookupTarget → Option ViewId
  | .shared => d.shared
  | .key key => d.byKey.get? key

/-- A directory with a new view for a target. -/
def addView (d : FlightDirectory) (target : LookupTarget) (view : FlightView) : FlightDirectory :=
  match target with
  | .shared => { d with views := d.views ++ [view], shared := some d.views.length }
  | .key key => { d with views := d.views ++ [view], byKey := d.byKey.insert key d.views.length }

/-- A new view gets the next number. -/
theorem views_addView (d : FlightDirectory) (target : LookupTarget) (view : FlightView) :
    (d.addView target view).views = d.views ++ [view] := by
  cases target <;> rfl

private theorem finder_addView (d : FlightDirectory) (target : LookupTarget) (view : FlightView) :
    (d.addView target view).finder = d.finder := by
  cases target <;> rfl

private theorem viewOf?_addView (d : FlightDirectory) (target other : LookupTarget) (view : FlightView) :
    (d.addView target view).viewOf? other =
      if other = target then some d.views.length else d.viewOf? other := by
  cases target <;> cases other <;> simp [addView, viewOf?, TextMap.get?_insert]

/-- The shared view is found once it has been made. -/
theorem lookupShared_of_shared {d : FlightDirectory} {id : ViewId} (hshared : d.shared = some id) :
    d.lookupShared = ⟨id, d, none⟩ := by
  rw [lookupShared, sharedPlan, hshared]
  rfl

/-- The first lookup of the shared view makes it, without a source. -/
theorem lookupShared_of_unmade {d : FlightDirectory} (hshared : d.shared = none) :
    d.lookupShared = ⟨d.views.length, d.addView .shared ⟨none⟩, none⟩ := by
  rw [lookupShared, sharedPlan, hshared]
  rfl

private theorem lookup_of_blank {key : String} (hblank : Text.isAllBlank key = true) (d : FlightDirectory)
    (kind : QueryKeyKind) : d.lookup key kind = d.lookupShared := by
  rw [lookup, keyPlan, if_pos hblank]
  rfl

private theorem lookup_of_seen {d : FlightDirectory} {key : String} {id : ViewId}
    (hblank : ¬ Text.isAllBlank key = true) (hkey : d.byKey.get? key = some id) (kind : QueryKeyKind) :
    d.lookup key kind = ⟨id, d, none⟩ := by
  rw [lookup, keyPlan, if_neg hblank, hkey]
  rfl

private theorem lookup_of_unseen {d : FlightDirectory} {key : String} (hblank : ¬ Text.isAllBlank key = true)
    (hkey : d.byKey.get? key = none) (kind : QueryKeyKind) :
    d.lookup key kind =
      ⟨d.views.length, d.addView (.key key) ⟨d.finder.bind fun find => find key kind⟩,
        d.finder.map fun _ => (key, kind)⟩ := by
  rw [lookup, keyPlan, if_neg hblank, hkey]
  obtain ⟨views, shared, byKey, finder⟩ := d
  cases finder <;> rfl

/-- A lookup puts no question beside the one that is kept of it. -/
theorem questions_keyPlan (d : FlightDirectory) (key : String) (kind : QueryKeyKind) :
    ((d.keyPlan key kind).run d.find).1 = (d.lookup key kind).asked.toList := by
  change _ = ((d.keyPlan key kind).run d.find).1.head?.toList
  rw [keyPlan]
  by_cases hblank : Text.isAllBlank key
  · rw [if_pos hblank, sharedPlan]
    cases d.shared <;> rfl
  · rw [if_neg hblank]
    cases d.byKey.get? key with
    | some id => rfl
    | none =>
      dsimp only
      cases d.finder <;> rfl

/-- What a call comes to if it is a lookup. -/
def answer? (d : FlightDirectory) : DirectoryCall → Option ViewLookup
  | .lookupShared => some d.lookupShared
  | .lookup key kind => some (d.lookup key kind)
  | .setFinder _ | .setSource _ _ => none

/-- A lookup of a target that has a view gives this view, asks nothing and leaves all as it is. -/
theorem answer?_of_viewOf? {d : FlightDirectory} {call : DirectoryCall} {target : LookupTarget}
    {id : ViewId} (hcall : call.target? = some target) (hview : d.viewOf? target = some id) :
    d.answer? call = some ⟨id, d, none⟩ := by
  cases call with
  | lookupShared =>
    cases hcall
    exact congrArg some (lookupShared_of_shared hview)
  | lookup key kind =>
    cases hcall
    rw [answer?, Option.some_inj]
    unfold LookupTarget.ofKey at hview
    split_ifs at hview with hblank
    · rw [lookup_of_blank hblank]
      exact lookupShared_of_shared hview
    · exact lookup_of_seen hblank hview kind
  | setFinder finder => cases hcall
  | setSource view source => cases hcall

/-- A lookup of a target without a view makes one, with the source that is found for it. -/
theorem answer?_of_viewOf?_eq_none {d : FlightDirectory} {call : DirectoryCall} {target : LookupTarget}
    (hcall : call.target? = some target) (hview : d.viewOf? target = none) :
    d.answer? call =
      some ⟨d.views.length, d.addView target ⟨call.foundSource d.finder⟩, call.question d.finder⟩ := by
  cases call with
  | lookupShared =>
    cases hcall
    exact congrArg some (lookupShared_of_unmade hview)
  | lookup key kind =>
    cases hcall
    rw [answer?, DirectoryCall.foundSource, DirectoryCall.question, Option.some_inj]
    unfold LookupTarget.ofKey at hview ⊢
    split_ifs at hview ⊢ with hblank
    · rw [lookup_of_blank hblank]
      exact lookupShared_of_unmade hview
    · exact lookup_of_unseen hblank hview kind
  | setFinder finder => cases hcall
  | setSource view source => cases hcall

end FlightDirectory

/-- A lookup that was made, and what came of it. -/
structure PastLookup where
  target : LookupTarget
  view : ViewId
  asked : Option (String × QueryKeyKind)
  deriving DecidableEq

/-- A directory and the lookups that were made in it, in order. -/
structure DirectoryHistory where
  directory : FlightDirectory
  lookups : List PastLookup

namespace DirectoryHistory

/-- A directory that has made no view, and no lookups in it. -/
def empty : DirectoryHistory :=
  ⟨.empty, []⟩

/-- Takes in the result of a lookup. -/
def note (h : DirectoryHistory) (target : LookupTarget) (result : ViewLookup) : DirectoryHistory :=
  ⟨result.directory, h.lookups ++ [⟨target, result.view, result.asked⟩]⟩

/-- Carries out a call. -/
def step (h : DirectoryHistory) : DirectoryCall → DirectoryHistory
  | .lookupShared => h.note .shared h.directory.lookupShared
  | .lookup key kind => h.note (.ofKey key) (h.directory.lookup key kind)
  | .setFinder finder => { h with directory := h.directory.setFinder finder }
  | .setSource view source => { h with directory := h.directory.setSource view source }

/-- Carries out calls on a directory that has made no view yet. -/
def run (calls : List DirectoryCall) : DirectoryHistory :=
  calls.foldl step empty

private theorem run_append (calls more : List DirectoryCall) :
    run (calls ++ more) = more.foldl step (run calls) :=
  List.foldl_append

/-- One more call is one more step. -/
theorem run_concat (calls : List DirectoryCall) (call : DirectoryCall) :
    run (calls ++ [call]) = (run calls).step call :=
  run_append calls [call]

private theorem step_eq_note {h : DirectoryHistory} {call : DirectoryCall} {target : LookupTarget}
    {result : ViewLookup} (hcall : call.target? = some target)
    (hanswer : h.directory.answer? call = some result) : h.step call = h.note target result := by
  cases call with
  | lookupShared =>
    cases hcall
    cases hanswer
    rfl
  | lookup key kind =>
    cases hcall
    cases hanswer
    rfl
  | setFinder finder => cases hcall
  | setSource view source => cases hcall

/-- All that a call can do: a lookup finds the view of its target or makes one, and any other call changes the
finder or the source of a view. -/
theorem step_cases (h : DirectoryHistory) (call : DirectoryCall) :
    (∃ target id, call.target? = some target ∧ h.directory.viewOf? target = some id ∧
      h.step call = h.note target ⟨id, h.directory, none⟩) ∨
    (∃ target, call.target? = some target ∧ h.directory.viewOf? target = none ∧
      h.step call = h.note target
        ⟨h.directory.views.length, h.directory.addView target ⟨call.foundSource h.directory.finder⟩,
          call.question h.directory.finder⟩) ∨
    (∃ finder, call = .setFinder finder ∧
      h.step call = { h with directory := h.directory.setFinder finder }) ∨
    ∃ view source, call = .setSource view source ∧
      h.step call = { h with directory := h.directory.setSource view source } := by
  cases hcall : call.target? with
  | some target =>
    cases hview : h.directory.viewOf? target with
    | some id =>
      have hanswer := FlightDirectory.answer?_of_viewOf? hcall hview
      exact .inl ⟨target, id, rfl, hview, step_eq_note hcall hanswer⟩
    | none =>
      have hanswer := FlightDirectory.answer?_of_viewOf?_eq_none hcall hview
      exact .inr (.inl ⟨target, rfl, hview, step_eq_note hcall hanswer⟩)
  | none =>
    cases call with
    | lookupShared => cases hcall
    | lookup key kind => cases hcall
    | setFinder finder => exact .inr (.inr (.inl ⟨finder, rfl, rfl⟩))
    | setSource view source => exact .inr (.inr (.inr ⟨view, source, rfl, rfl⟩))

/-- A directory agrees with the calls that were made on it. -/
structure Consistent (calls : List DirectoryCall) (h : DirectoryHistory) : Prop where
  finder : h.directory.finder = installedFinder calls
  targets : h.lookups.map (·.target) = lookupTargets calls
  seen : ∀ target, (h.directory.viewOf? target).isSome ↔ target ∈ lookupTargets calls
  view : ∀ l ∈ h.lookups, h.directory.viewOf? l.target = some l.view
  view_lt : ∀ target id, h.directory.viewOf? target = some id → id < h.directory.views.length
  view_inj : ∀ target other id, h.directory.viewOf? target = some id →
    h.directory.viewOf? other = some id → target = other

namespace Consistent

private theorem empty : Consistent [] DirectoryHistory.empty where
  finder := rfl
  targets := rfl
  seen target := by
    have hnone : FlightDirectory.empty.viewOf? target = none := by cases target <;> rfl
    simp [DirectoryHistory.empty, hnone, lookupTargets]
  view := by simp [DirectoryHistory.empty]
  view_lt target id hview := by cases target <;> cases hview
  view_inj target other id hview := by cases target <;> cases hview

variable {calls : List DirectoryCall} {h : DirectoryHistory} (hc : Consistent calls h)

include hc

private theorem found {call : DirectoryCall} {target : LookupTarget} {id : ViewId}
    (hcall : call.target? = some target) (hview : h.directory.viewOf? target = some id) :
    Consistent (calls ++ [call]) (h.note target ⟨id, h.directory, none⟩) where
  finder := by
    rw [installedFinder_concat, finder?_eq_none hcall]
    exact hc.finder
  targets := by
    rw [lookupTargets_concat, hcall, ← hc.targets]
    simp [note]
  seen other := by
    rw [lookupTargets_concat, hcall, List.mem_append, ← hc.seen other]
    refine ⟨.inl, ?_⟩
    rintro (hseen | hnew)
    · exact hseen
    · rw [List.mem_singleton.1 hnew]
      simp [note, hview]
  view l hl := by
    rcases List.mem_append.1 hl with hold | hnew
    · exact hc.view l hold
    · rw [List.mem_singleton.1 hnew]
      exact hview
  view_lt := hc.view_lt
  view_inj := hc.view_inj

private theorem made {call : DirectoryCall} {target : LookupTarget} (hcall : call.target? = some target)
    (hview : h.directory.viewOf? target = none) (view : FlightView)
    (asked : Option (String × QueryKeyKind)) :
    Consistent (calls ++ [call])
      (h.note target ⟨h.directory.views.length, h.directory.addView target view, asked⟩) where
  finder := by
    rw [installedFinder_concat, finder?_eq_none hcall]
    exact (FlightDirectory.finder_addView _ target view).trans hc.finder
  targets := by
    rw [lookupTargets_concat, hcall, ← hc.targets]
    simp [note]
  seen other := by
    rw [lookupTargets_concat, hcall, List.mem_append, ← hc.seen other]
    simp only [note, FlightDirectory.viewOf?_addView]
    split_ifs with hother
    · simp [hother]
    · simp [hother]
  view l hl := by
    simp only [note, FlightDirectory.viewOf?_addView]
    rcases List.mem_append.1 hl with hold | hnew
    · have hl := hc.view l hold
      have hother : l.target ≠ target := by
        intro hsame
        rw [hsame, hview] at hl
        cases hl
      rw [if_neg hother, hl]
    · rw [List.mem_singleton.1 hnew, if_pos rfl]
  view_lt other id hother := by
    simp only [note, FlightDirectory.viewOf?_addView, FlightDirectory.views_addView,
      List.length_append, List.length_singleton] at hother ⊢
    split_ifs at hother with hsame
    · cases hother
      exact Nat.lt_succ_self _
    · exact Nat.lt_succ_of_lt (hc.view_lt other id hother)
  view_inj first second id hfirst hsecond := by
    simp only [note, FlightDirectory.viewOf?_addView] at hfirst hsecond
    -- The number of the new view is beyond those of all others.
    split_ifs at hfirst hsecond with hf hs hs
    · exact hf.trans hs.symm
    · cases hfirst
      exact absurd (hc.view_lt second _ hsecond) (Nat.lt_irrefl _)
    · cases hsecond
      exact absurd (hc.view_lt first _ hfirst) (Nat.lt_irrefl _)
    · exact hc.view_inj first second id hfirst hsecond

/-- A call that is no lookup leaves all views where they are. -/
theorem changed {call : DirectoryCall} (hcall : call.target? = none) {d : FlightDirectory}
    (hfinder : d.finder = call.finder?.getD h.directory.finder)
    (hviewOf : ∀ target, d.viewOf? target = h.directory.viewOf? target)
    (hlength : d.views.length = h.directory.views.length) :
    Consistent (calls ++ [call]) { h with directory := d } where
  finder := by
    rw [installedFinder_concat, ← hc.finder]
    exact hfinder
  targets := by
    rw [lookupTargets_concat, hcall, ← hc.targets]
    exact (List.append_nil _).symm
  seen target := by
    rw [lookupTargets_concat, hcall, Option.toList_none, List.append_nil, ← hc.seen target, hviewOf]
  view l hl := by
    rw [hviewOf]
    exact hc.view l hl
  view_lt target id hview := by
    rw [hlength]
    exact hc.view_lt target id (hviewOf target ▸ hview)
  view_inj first second id hfirst hsecond :=
    hc.view_inj first second id (hviewOf first ▸ hfirst) (hviewOf second ▸ hsecond)

private theorem step (call : DirectoryCall) : Consistent (calls ++ [call]) (h.step call) := by
  obtain ⟨target, id, hcall, hview, hstep⟩ | ⟨target, hcall, hview, hstep⟩ | ⟨finder, rfl, hstep⟩ |
    ⟨view, source, rfl, hstep⟩ := h.step_cases call
  · rw [hstep]
    exact hc.found hcall hview
  · rw [hstep]
    exact hc.made hcall hview _ _
  · rw [hstep]
    exact hc.changed rfl rfl (fun target => by cases target <;> rfl) rfl
  · rw [hstep]
    exact hc.changed rfl rfl (fun target => by cases target <;> rfl) (List.length_modify ..)

/-- The keys that have a view are those that were looked up. -/
theorem keyCount_eq :
    h.directory.keyCount = ((lookupTargets calls).filterMap LookupTarget.key?).dedup.length := by
  have hkeys : h.directory.byKey.keys.Perm ((lookupTargets calls).filterMap LookupTarget.key?).dedup := by
    refine (List.perm_ext_iff_of_nodup h.directory.byKey.nodup (List.nodup_dedup _)).2 fun key => ?_
    have hseen := hc.seen (.key key)
    rw [← TextMap.keys, TextMap.mem_keys_iff, List.mem_dedup, List.mem_filterMap]
    refine hseen.trans ⟨fun hkey => ⟨.key key, hkey, rfl⟩, ?_⟩
    rintro ⟨target, htarget, hkey⟩
    cases target with
    | shared => cases hkey
    | key other =>
      cases hkey
      exact htarget
  rw [← hkeys.length_eq, FlightDirectory.keyCount, TextMap.keys, List.length_map]

end Consistent

/-- After every run of calls the directory agrees with them. -/
theorem consistent_run (calls : List DirectoryCall) : Consistent calls (run calls) := by
  induction calls using List.reverseRecOn with
  | nil => exact .empty
  | append_singleton calls call ih =>
    rw [run_concat]
    exact ih.step call

/-- Two lookups in a run give the same view if and only if they ask for the same: for the shared view, be it
without a key or with a blank one, or for the view of one and the same key. White space around a key counts.
Nothing that happens in between matters, nor does the kind of the key, and there are as many views of keys as
different keys were looked up. -/
theorem lookup_view_eq_iff (calls : List DirectoryCall) :
    let h := run calls
    h.lookups.map (·.target) = calls.filterMap DirectoryCall.target? ∧
    (∀ l ∈ h.lookups, ∀ l' ∈ h.lookups, l.view = l'.view ↔ l.target = l'.target) ∧
    (∀ l ∈ h.lookups, ∀ l' ∈ h.lookups, ∀ key key', l.target = .key key → l'.target = .key key' →
      Text.trim key.toList = Text.trim key'.toList → key ≠ key' → l.view ≠ l'.view) ∧
    h.directory.keyCount = ((lookupTargets calls).filterMap LookupTarget.key?).dedup.length := by
  intro h
  have hc : Consistent calls h := consistent_run calls
  have hview : ∀ l ∈ h.lookups, ∀ l' ∈ h.lookups, l.view = l'.view ↔ l.target = l'.target := by
    intro l hl l' hl'
    have hfirst := hc.view l hl
    have hsecond := hc.view l' hl'
    constructor
    · intro hsame
      exact hc.view_inj _ _ _ hfirst (hsame ▸ hsecond)
    · intro hsame
      rw [hsame, hsecond] at hfirst
      exact (Option.some.inj hfirst).symm
  refine ⟨hc.targets, hview, ?_, hc.keyCount_eq⟩
  intro l hl l' hl' key key' hkey hkey' _ hne hsame
  have htarget := (hview l hl l' hl').1 hsame
  rw [hkey, hkey'] at htarget
  exact hne (LookupTarget.key.inj htarget)

/-- The kind of a key makes no difference, a space in front of it does, and a blank key counts as none. -/
theorem lookup_view_eq_iff_beside_spaces :
    let calls : List DirectoryCall :=
      [.lookup "k" .tenantId, .lookup " k" .tenantId, .lookupShared, .setFinder none,
       .lookup "  " .tenantId, .lookup "k" .appBundleId]
    ∃ tenant padded shared blank bundle, (run calls).lookups = [tenant, padded, shared, blank, bundle] ∧
      tenant.view = bundle.view ∧ shared.view = blank.view ∧ tenant.view ≠ padded.view ∧
      padded.view ≠ shared.view ∧ (run calls).directory.keyCount = 2 := by
  intro calls
  have hlookups : (run calls).lookups =
      [⟨.key "k", 0, none⟩, ⟨.key " k", 1, none⟩, ⟨.shared, 2, none⟩, ⟨.shared, 2, none⟩,
       ⟨.key "k", 0, none⟩] := by decide +kernel
  obtain ⟨-, hview, hpadded, hcount⟩ := lookup_view_eq_iff calls
  rw [hlookups] at hview hpadded
  refine ⟨_, _, _, _, _, hlookups, ?_, ?_, ?_, ?_, ?_⟩
  · exact (hview _ (by simp) _ (by simp)).2 rfl
  · exact (hview _ (by simp) _ (by simp)).2 rfl
  · exact hpadded _ (by simp) _ (by simp) "k" " k" rfl rfl (by decide +kernel) (by decide)
  · exact fun hsame => absurd ((hview _ (by simp) _ (by simp)).1 hsame) (by decide)
  · rw [hcount]
    decide +kernel

end DirectoryHistory

end SignIn
