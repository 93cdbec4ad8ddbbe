import Mathlib.Data.List.Induction
import Mathlib.Data.List.Nodup
import Mathlib.Logic.Relation
import StreamRtp.Proofs.Episodes

/-!
# What a filter owes to its history

Both lists of a filter are kept as sets, whatever the mode is. So what a filter decides on a source
hangs on three things in its history only: the last mode, and for each list the last request that
concerns the source. `Listed` says the latter without the filter, and the lists are shown to agree
with it.

Requests that concern different sources or different lists can change places, since the last request
that concerns a source stays the last one.

A filter that is cloned goes on apart from its clone. Filters that come from one filter in this way
are kept side by side, each with the history that led to it.

The filter of an engine has the history of its calls, see `Scene.filter_run`.
-/

namespace StreamRtp

/-- One of the lists of a filter. -/
inductive SourceList where
  | ignored
  | accepted
  deriving DecidableEq, Repr

/-- What can be asked of a list. -/
inductive ListRequest (κ : Type) where
  | add (source : κ)
  | delete (source : κ)
  | clear
  deriving DecidableEq, Repr

/-- What can be asked of a filter. -/
inductive FilterRequest (κ : Type) where
  | setMode (mode : ReceiveMode)
  | change (list : SourceList) (request : ListRequest κ)
  deriving DecidableEq, Repr

variable {κ : Type}

namespace ListRequest

/-- The source that a request is about. Clearing is about all of them. -/
def source? : ListRequest κ → Option κ
  | add source | delete source => some source
  | clear => none

variable [DecidableEq κ]

/-- What a request comes to on a list that is a set. -/
def perform (members : List κ) : ListRequest κ → Option Bool × List κ
  | add source =>
    if source ∈ members then (some false, members) else (some true, source :: members)
  | delete source =>
    if source ∈ members then (some true, members.erase source) else (some false, members)
  | clear => (none, [])

theorem nodup_perform {members : List κ} (h : members.Nodup) (q : ListRequest κ) :
    (q.perform members).2.Nodup := by
  cases q with
  | add source =>
    by_cases hmem : source ∈ members
    · simp [perform, hmem, h]
    · simp [perform, hmem, h]
  | delete source =>
    by_cases hmem : source ∈ members
    · simp [perform, hmem, h.erase source]
    · simp [perform, hmem, h]
  | clear => exact List.nodup_nil

theorem mem_perform_add (members : List κ) (source k : κ) :
    k ∈ (perform members (add source)).2 ↔ k = source ∨ k ∈ members := by
  by_cases hsource : source ∈ members
  · simp only [perform, if_pos hsource]
    exact (or_iff_right_of_imp fun hk ↦ hk ▸ hsource).symm
  · simp only [perform, if_neg hsource, List.mem_cons]

theorem mem_perform_delete {members : List κ} (h : members.Nodup) (source k : κ) :
    k ∈ (perform members (delete source)).2 ↔ k ≠ source ∧ k ∈ members := by
  by_cases hsource : source ∈ members
  · simp only [perform, if_pos hsource, h.mem_erase_iff]
  · simp only [perform, if_neg hsource]
    exact (and_iff_right_of_imp fun hk (heq : k = source) ↦ hsource (heq ▸ hk)).symm

/-- A request about another source leaves a source where it is. One about this source, or about all
of them, decides alone whether it is listed: it is if the request was to add it. -/
theorem mem_perform {members : List κ} (h : members.Nodup) (q : ListRequest κ) (k : κ) :
    k ∈ (q.perform members).2 ↔
      if q.source?.all (· = k) then q = .add k else k ∈ members := by
  cases q with
  | add source =>
    rw [mem_perform_add]
    by_cases hk : source = k
    · simp [source?, hk]
    · simp [source?, hk, Ne.symm hk]
  | delete source =>
    rw [mem_perform_delete h]
    by_cases hk : source = k
    · simp [source?, hk]
    · simp [source?, hk, Ne.symm hk]
  | clear => simp [perform, source?]

end ListRequest

namespace ReceiveFilter

/-! ## Requests -/

/-- The sources on a list. -/
def members (f : ReceiveFilter κ) : SourceList → List κ
  | .ignored => f.ignored
  | .accepted => f.accepted

/-- The filter with another list in the place of one of its own. -/
def setMembers (f : ReceiveFilter κ) (sources : List κ) : SourceList → ReceiveFilter κ
  | .ignored => { f with ignored := sources }
  | .accepted => { f with accepted := sources }

@[simp] theorem mode_setMembers (f : ReceiveFilter κ) (sources : List κ) (list : SourceList) :
    (f.setMembers sources list).mode = f.mode := by
  cases list <;> rfl

theorem members_setMembers (f : ReceiveFilter κ) (sources : List κ) (list other : SourceList) :
    (f.setMembers sources list).members other
      = if list = other then sources else f.members other := by
  cases list <;> cases other <;> rfl

variable [DecidableEq κ]

/-- Carry a request out. Adding and deleting have an answer. -/
def perform (f : ReceiveFilter κ) : FilterRequest κ → Option Bool × ReceiveFilter κ
  | .setMode mode => (none, f.setMode mode)
  | .change .ignored (.add source) => (f.ignore source).map some id
  | .change .ignored (.delete source) => (f.unignore source).map some id
  | .change .ignored .clear => (none, f.clearIgnored)
  | .change .accepted (.add source) => (f.allow source).map some id
  | .change .accepted (.delete source) => (f.disallow source).map some id
  | .change .accepted .clear => (none, f.clearAccepted)

/-- The filter after requests, one after the other. -/
def after (f : ReceiveFilter κ) (history : List (FilterRequest κ)) : ReceiveFilter κ :=
  history.foldl (fun f q ↦ (f.perform q).2) f

@[simp] theorem after_nil (f : ReceiveFilter κ) : f.after [] = f := rfl

theorem after_append (f : ReceiveFilter κ) (history later : List (FilterRequest κ)) :
    f.after (history ++ later) = (f.after history).after later :=
  List.foldl_append ..

@[simp] theorem after_concat (f : ReceiveFilter κ) (history : List (FilterRequest κ))
    (q : FilterRequest κ) : f.after (history ++ [q]) = ((f.after history).perform q).2 :=
  f.after_append history [q]

/-- What is asked of a list concerns this list alone. -/
theorem perform_change (f : ReceiveFilter κ) (list : SourceList) (q : ListRequest κ) :
    f.perform (.change list q)
      = ((q.perform (f.members list)).1, f.setMembers (q.perform (f.members list)).2 list) := by
  cases list <;> cases q
  case ignored.clear => rfl
  case accepted.clear => rfl
  case ignored.add source => by_cases h : source ∈ f.ignored <;>
    simp [perform, ignore, ListRequest.perform, members, setMembers, h]
  case ignored.delete source => by_cases h : source ∈ f.ignored <;>
    simp [perform, unignore, ListRequest.perform, members, setMembers, h]
  case accepted.add source => by_cases h : source ∈ f.accepted <;>
    simp [perform, allow, ListRequest.perform, members, setMembers, h]
  case accepted.delete source => by_cases h : source ∈ f.accepted <;>
    simp [perform, disallow, ListRequest.perform, members, setMembers, h]

end ReceiveFilter

namespace FilterRequest

/-! ## Histories -/

/-- The mode that a request sets. -/
def mode? : FilterRequest κ → Option ReceiveMode
  | setMode mode => some mode
  | change .. => none

/-- The last mode of a history that starts with the given one. -/
def lastMode (mode : ReceiveMode) (history : List (FilterRequest κ)) : ReceiveMode :=
  (history.filterMap mode?).getLast?.getD mode

variable [DecidableEq κ]

/-- What a request asks of a list, if it concerns the source: it adds or deletes the source, or
clears the list. -/
def concerning? (list : SourceList) (k : κ) : FilterRequest κ → Option (ListRequest κ)
  | setMode _ => none
  | change changed q => if changed = list ∧ q.source?.all (· = k) then some q else none

/-- The last request of a history that concerns a source on a list has added it. -/
def Listed (list : SourceList) (k : κ) (history : List (FilterRequest κ)) : Prop :=
  (history.filterMap (concerning? list k)).getLast? = some (.add k)

instance (list : SourceList) (k : κ) (history : List (FilterRequest κ)) :
    Decidable (Listed list k history) :=
  inferInstanceAs (Decidable (_ = _))

/-- What a history makes of a source, in a filter that starts with the given mode. -/
def verdict (mode : ReceiveMode) (k : κ) (history : List (FilterRequest κ)) : Verdict :=
  match lastMode mode history with
  | .acceptAll => .accept
  | .rejectIgnoreListed => if Listed .ignored k history then .reject else .accept
  | .acceptListedOnly => if Listed .accepted k history then .accept else .reject

theorem listed_concat_of_none {list : SourceList} {k : κ} {q : FilterRequest κ}
    (h : q.concerning? list k = none) (history : List (FilterRequest κ)) :
    Listed list k (history ++ [q]) ↔ Listed list k history := by
  simp [Listed, h]

theorem listed_concat_of_some {list : SourceList} {k : κ} {q : FilterRequest κ}
    {r : ListRequest κ} (h : q.concerning? list k = some r) (history : List (FilterRequest κ)) :
    Listed list k (history ++ [q]) ↔ r = .add k := by
  simp [Listed, h]

end FilterRequest

open FilterRequest

namespace ReceiveFilter

variable [DecidableEq κ]

/-! ## The lists after a history -/

/-- Neither list holds a source twice. -/
theorem nodup_members_perform {f : ReceiveFilter κ} (h : ∀ list, (f.members list).Nodup)
    (q : FilterRequest κ) (list : SourceList) : ((f.perform q).2.members list).Nodup := by
  cases q with
  | setMode mode => exact h list
  | change changed q =>
    rw [perform_change, members_setMembers]
    split
    · exact ListRequest.nodup_perform (h changed) q
    · exact h list

/-- A request that does not concern a source on a list leaves it where it is. -/
theorem mem_members_perform_of_none {f : ReceiveFilter κ} (h : ∀ list, (f.members list).Nodup)
    {q : FilterRequest κ} {list : SourceList} {k : κ} (hnone : q.concerning? list k = none) :
    k ∈ (f.perform q).2.members list ↔ k ∈ f.members list := by
  cases q with
  | setMode mode => exact Iff.rfl
  | change changed q =>
    rw [perform_change, members_setMembers]
    by_cases hlist : changed = list
    · subst hlist
      have hother : ¬q.source?.all (· = k) = true := by simpa [concerning?] using hnone
      rw [if_pos rfl, ListRequest.mem_perform (h changed), if_neg hother]
    · rw [if_neg hlist]

/-- A request that concerns a source on a list decides whether it is there. -/
theorem mem_members_perform_of_some {f : ReceiveFilter κ} (h : ∀ list, (f.members list).Nodup)
    {q : FilterRequest κ} {list : SourceList} {k : κ} {r : ListRequest κ}
    (hsome : q.concerning? list k = some r) :
    k ∈ (f.perform q).2.members list ↔ r = .add k := by
  cases q with
  | setMode mode => cases hsome
  | change changed q =>
    obtain ⟨⟨rfl, hsource⟩, hr⟩ := Option.ite_none_right_eq_some.1 hsome
    rw [← Option.some.inj hr, perform_change, members_setMembers, if_pos rfl,
      ListRequest.mem_perform (h changed), if_pos hsource]

theorem nodup_members_after (mode : ReceiveMode) (history : List (FilterRequest κ)) :
    ∀ list, (((ofMode mode).after history).members list).Nodup := by
  induction history using List.reverseRecOn with
  | nil =>
    intro list
    cases list <;> exact List.nodup_nil
  | append_singleton history q ih =>
    intro list
    rw [after_concat]
    exact nodup_members_perform ih q list

/-- The sources on a list are those that the history lists. -/
theorem mem_members_after (mode : ReceiveMode) (history : List (FilterRequest κ))
    (list : SourceList) (k : κ) :
    k ∈ ((ofMode mode).after history).members list ↔ Listed list k history := by
  induction history using List.reverseRecOn with
  | nil => cases list <;> simp [ofMode, members, Listed]
  | append_singleton history q ih =>
    have hnodup := nodup_members_after mode history
    rw [after_concat]
    cases hq : q.concerning? list k with
    | none => rw [mem_members_perform_of_none hnodup hq, ih, listed_concat_of_none hq]
    | some r => rw [mem_members_perform_of_some hnodup hq, listed_concat_of_some hq]

theorem mode_after (mode : ReceiveMode) (history : List (FilterRequest κ)) :
    ((ofMode mode).after history).mode = lastMode mode history := by
  induction history using List.reverseRecOn with
  | nil => rfl
  | append_singleton history q ih =>
    rw [after_concat]
    cases q with
    | setMode last => simp [perform, setMode, lastMode, mode?]
    | change list q => simp [perform_change, ih, lastMode, mode?]

theorem decision_after (mode : ReceiveMode) (history : List (FilterRequest κ)) (k : κ) :
    ((ofMode mode).after history).decision k = verdict mode k history := by
  have hignored : k ∈ ((ofMode mode).after history).ignored ↔ _ :=
    mem_members_after mode history .ignored k
  have haccepted : k ∈ ((ofMode mode).after history).accepted ↔ _ :=
    mem_members_after mode history .accepted k
  rw [decision, verdict, mode_after]
  cases lastMode mode history with
  | acceptAll => rfl
  | rejectIgnoreListed => simp [hignored]
  | acceptListedOnly => simp [haccepted]

/-! ## Answers -/

/-- Adding says whether the source is new on the list. -/
theorem answer_add (f : ReceiveFilter κ) (list : SourceList) (k : κ) :
    (f.perform (.change list (.add k))).1 = some (decide (k ∉ f.members list)) := by
  rw [perform_change, ListRequest.perform]
  by_cases hk : k ∈ f.members list
  · simp [hk]
  · simp [hk]

/-- Deleting says whether the source was on the list. -/
theorem answer_delete (f : ReceiveFilter κ) (list : SourceList) (k : κ) :
    (f.perform (.change list (.delete k))).1 = some (decide (k ∈ f.members list)) := by
  rw [perform_change, ListRequest.perform]
  by_cases hk : k ∈ f.members list
  · simp [hk]
  · simp [hk]

end ReceiveFilter

/-! ## Requests that change places -/

namespace FilterRequest

/-- Requests of different lists, or about different sources. -/
inductive Independent : FilterRequest κ → FilterRequest κ → Prop
  | lists {list other : SourceList} (h : list ≠ other) (q r : ListRequest κ) :
    Independent (change list q) (change other r)
  | sources {q r : ListRequest κ} {j k : κ} (hq : q.source? = some j) (hr : r.source? = some k)
    (h : j ≠ k) (list other : SourceList) : Independent (change list q) (change other r)

/-- Two independent requests in a row change places. -/
inductive Swap : List (FilterRequest κ) → List (FilterRequest κ) → Prop
  | intro {p q : FilterRequest κ} (h : Independent p q) (earlier later : List (FilterRequest κ)) :
    Swap (earlier ++ p :: q :: later) (earlier ++ q :: p :: later)

theorem Swap.append {history other : List (FilterRequest κ)} (h : Swap history other)
    (later : List (FilterRequest κ)) : Swap (history ++ later) (other ++ later) := by
  obtain ⟨h, earlier, rest⟩ := h
  simpa using Swap.intro h earlier (rest ++ later)

/-- Two in a row of which one is left out can change places. -/
theorem filterMap_swap {α β : Type} {f : α → Option β} {a b : α} (h : f a = none ∨ f b = none)
    (l m : List α) : (l ++ a :: b :: m).filterMap f = (l ++ b :: a :: m).filterMap f := by
  rw [List.filterMap_append, List.filterMap_append]
  rcases h with h | h
  · simp [List.filterMap_cons, h]
  · simp [List.filterMap_cons, h]

theorem Swap.lastMode_eq {history other : List (FilterRequest κ)} (h : Swap history other)
    (mode : ReceiveMode) : lastMode mode history = lastMode mode other := by
  obtain ⟨h, earlier, later⟩ := h
  rw [lastMode, lastMode, filterMap_swap (.inl ?_)]
  rcases h with _ | _ <;> rfl

variable [DecidableEq κ]

/-- No source on a list is the concern of both. -/
theorem Independent.concerning?_eq_none {p q : FilterRequest κ} (h : Independent p q)
    (list : SourceList) (k : κ) : p.concerning? list k = none ∨ q.concerning? list k = none := by
  rcases h with @⟨first, second, hlist, q, r⟩ | @⟨q, r, i, j, hq, hr, hne, first, second⟩
  · by_cases hfirst : first = list
    · have hsecond : second ≠ list := fun h ↦ hlist (hfirst.trans h.symm)
      exact .inr (if_neg fun h ↦ hsecond h.1)
    · exact .inl (if_neg fun h ↦ hfirst h.1)
  · by_cases hi : i = k
    · have hj : j ≠ k := fun h ↦ hne (hi.trans h.symm)
      exact .inr (if_neg fun h ↦ hj (by simpa [hr] using h.2))
    · exact .inl (if_neg fun h ↦ hi (by simpa [hq] using h.2))

theorem Swap.listed_iff {history other : List (FilterRequest κ)} (h : Swap history other)
    (list : SourceList) (k : κ) : Listed list k history ↔ Listed list k other := by
  obtain ⟨h, earlier, later⟩ := h
  rw [Listed, Listed, filterMap_swap (h.concerning?_eq_none list k)]

/-- Whatever comes later, what has changed places before does not show. -/
theorem verdict_of_swaps {history other : List (FilterRequest κ)}
    (h : Relation.ReflTransGen Swap history other) (mode : ReceiveMode)
    (later : List (FilterRequest κ)) (k : κ) :
    verdict mode k (history ++ later) = verdict mode k (other ++ later) := by
  induction h with
  | refl => rfl
  | tail _ hswap ih =>
    have hswap := hswap.append later
    rw [ih, verdict, verdict, hswap.lastMode_eq mode]
    simp only [hswap.listed_iff]

end FilterRequest

/-! ## Clones -/

/-- What can happen to things that are kept side by side: one of them is asked something, or is
cloned. The clone comes last. -/
inductive FleetStep (κ : Type) where
  | request (place : Nat) (q : FilterRequest κ)
  | clone (place : Nat)
  deriving DecidableEq, Repr

namespace FleetStep

variable {α β : Type}

/-- What a step makes of a fleet, if `change` is what a request makes of a member. -/
def apply (change : α → FilterRequest κ → α) (fleet : List α) : FleetStep κ → List α
  | request place q => fleet.modify place (change · q)
  | clone place => fleet ++ fleet[place]?.toList

/-- A fleet seen through a map that requests respect. -/
theorem map_apply {change : α → FilterRequest κ → α} {change' : β → FilterRequest κ → β}
    {f : α → β} (h : ∀ a q, f (change a q) = change' (f a) q) (fleet : List α)
    (step : FleetStep κ) : (apply change fleet step).map f = apply change' (fleet.map f) step := by
  cases step with
  | request place q =>
    refine List.ext_getElem? fun i ↦ ?_
    simp only [apply, List.getElem?_map, List.getElem?_modify]
    cases fleet[i]? with
    | none => rfl
    | some a =>
      by_cases hi : place = i
      · simp [hi, h]
      · simp [hi]
  | clone place => simp [apply, Option.toList_map]

/-- The histories of a fleet that begins with one member. A clone takes over the history. -/
def histories (steps : List (FleetStep κ)) : List (List (FilterRequest κ)) :=
  steps.foldl (apply fun history q ↦ history ++ [q]) [[]]

end FleetStep

namespace ReceiveFilter

variable [DecidableEq κ]

/-- The filters that come from one filter. -/
def fleet (f : ReceiveFilter κ) (steps : List (FleetStep κ)) : List (ReceiveFilter κ) :=
  steps.foldl (FleetStep.apply fun f q ↦ (f.perform q).2) [f]

/-- Every filter of a fleet is what its own history makes of the first one. -/
theorem fleet_eq (f : ReceiveFilter κ) (steps : List (FleetStep κ)) :
    f.fleet steps = (FleetStep.histories steps).map f.after := by
  have hstep : ∀ histories step,
      FleetStep.apply (fun (f : ReceiveFilter κ) q ↦ (f.perform q).2) (histories.map f.after) step
        = (FleetStep.apply (fun history q ↦ history ++ [q]) histories step).map f.after :=
    fun histories step ↦ (FleetStep.map_apply f.after_concat histories step).symm
  have hfold : steps.foldl _ ([[]].map f.after) = (FleetStep.histories steps).map f.after :=
    List.foldl_hom (List.map f.after) hstep
  exact hfold

/-! ## All of it -/

/-- A filter is determined by its mode and by the last requests about each source on each list. It
goes for all filters that come from one by cloning, each with its own history. -/
theorem decision_of_history (mode : ReceiveMode) :
    (∀ steps : List (FleetStep κ),
      (ofMode mode).fleet steps = (FleetStep.histories steps).map (ofMode mode).after) ∧
    ∀ history : List (FilterRequest κ),
      let f := (ofMode mode).after history
      f.mode = lastMode mode history ∧
      (∀ k, f.decision k = verdict mode k history) ∧
      (∀ list k, (k ∈ f.members list ↔ Listed list k history) ∧
        (f.perform (.change list (.add k))).1 = some (decide ¬Listed list k history) ∧
        (f.perform (.change list (.delete k))).1 = some (decide (Listed list k history)) ∧
        ∀ q : FilterRequest κ, q.concerning? list k = none →
          (k ∈ (f.perform q).2.members list ↔ k ∈ f.members list)) ∧
      ∀ other, Relation.ReflTransGen Swap history other → ∀ later k,
        (f.after later).decision k = ((ofMode mode).after (other ++ later)).decision k := by
  refine ⟨(ofMode mode).fleet_eq, fun history ↦ ?_⟩
  have hmem := mem_members_after mode history
  refine ⟨mode_after mode history, decision_after mode history, fun list k ↦ ⟨hmem list k, ?_⟩, ?_⟩
  · refine ⟨?_, ?_, fun q ↦ mem_members_perform_of_none (nodup_members_after mode history)⟩
    · rw [answer_add]
      simp only [hmem]
    · rw [answer_delete]
      simp only [hmem]
  · intro other hswaps later k
    rw [← after_append, decision_after, decision_after, verdict_of_swaps hswaps]

-- One deletion is enough, however often the source was added.
example : ((ofMode .rejectIgnoreListed).after [.change .ignored (.add 3), .setMode .acceptAll,
    .change .ignored (.add 3), .change .ignored (.delete 3),
    .setMode .rejectIgnoreListed]).decision 3 = .accept := by
  decide

end ReceiveFilter

/-! ## The filter of an engine -/

section Engine

variable {W σ : Type}

/-- What a call asks of the filter. -/
def Call.filterRequest? : Call σ → Option (FilterRequest ConnectionId)
  | .setReceiveMode mode => some (.setMode mode)
  | .addIgnored id => some (.change .ignored (.add id))
  | .deleteIgnored id => some (.change .ignored (.delete id))
  | .clearIgnored => some (.change .ignored .clear)
  | .addAccepted id => some (.change .accepted (.add id))
  | .deleteAccepted id => some (.change .accepted (.delete id))
  | .clearAccepted => some (.change .accepted .clear)
  | _ => none

theorem Settings.filter_after (s : Settings) (call : Call σ) :
    (s.after call).filter = s.filter.after call.filterRequest?.toList := by
  cases call <;> rfl

/-- As long as an engine is not destroyed, calls change its filter by what they ask of it, whatever
the network does. -/
theorem Scene.filter_run [Network W σ] {scene : Scene W σ} {core : Core σ}
    (hcreated : scene.engine.lifecycle = .created core) {calls : List (Call σ)}
    (hlives : .destroy ∉ calls) : ∃ after,
      (scene.run calls).2.engine.lifecycle = .created after ∧
        after.filter = core.filter.after (calls.filterMap Call.filterRequest?) := by
  induction calls generalizing scene core with
  | nil => exact ⟨core, hcreated, rfl⟩
  | cons call calls ih =>
    rw [List.mem_cons, not_or] at hlives
    obtain ⟨next, hnext, hsettings⟩ := scene.perform_settings hcreated (Ne.symm hlives.1)
    obtain ⟨after, hafter, hfilter⟩ := ih hnext hlives.2
    have hfirst : next.filter = core.filter.after call.filterRequest?.toList :=
      (congrArg Settings.filter hsettings).trans (core.settings.filter_after call)
    refine ⟨after, hafter, ?_⟩
    rw [hfilter, hfirst]
    cases hrequest : call.filterRequest? with
    | none => rw [List.filterMap_cons_none hrequest, Option.toList_none, ReceiveFilter.after_nil]
    | some q =>
      rw [List.filterMap_cons_some hrequest, Option.toList_some, ← ReceiveFilter.after_append,
        List.singleton_append]

end Engine

end StreamRtp
