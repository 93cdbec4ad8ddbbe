import Mathlib.Data.List.Chain
import StreamRtp.Proofs.Visits

/-!
# The moments of a walk

A receive pass and a fan-out give connections up in the middle of a walk with the cursor. What can
be seen before and after the walk does not say in which order the report of a failure and the
removal of the connection happen. So the walk is looked at step by step here: `moments` lists how
the registry and what the visitor carries stand after every visit and after every move of the
cursor, and the last moment is what the walk comes to.

A moment of an engine is what it would list and what has happened so far. From one moment to the
next an identity goes only if its report is the last thing that has happened.
-/

namespace StreamRtp

namespace Registry

variable {κ ν ς : Type} {table : BucketTable κ}

/-! ## Moments of a registry -/

/-- The moments of a walk from the element under the cursor on: one after each visit, and one when
the cursor has moved on from the element or the element has been removed. -/
def momentsFrom (visit : κ → ν → ς → Option ν × ς) :
    Nat → Registry κ ν table → ς → List (Registry κ ν table × ς)
  | 0, _, _ => []
  | steps + 1, r, s =>
    match r.current? with
    | none => []
    | some (k, v) =>
      match visit k v s with
      | (some v, s) =>
        (r, s) :: ((r.modifyCurrent fun _ ↦ v).next, s)
          :: momentsFrom visit steps (r.modifyCurrent fun _ ↦ v).next s
      | (none, s) =>
        match r.removeCurrent with
        | .ok (_, removed) => (r, s) :: (removed, s) :: momentsFrom visit steps removed s
        | .error _ => [(r, s)]

/-- The moments of a walk over all elements. -/
def moments (visit : κ → ν → ς → Option ν × ς) (r : Registry κ ν table) (s : ς) :
    List (Registry κ ν table × ς) :=
  (r.first, s) :: momentsFrom visit r.size r.first s

theorem getLast?_momentsFrom (visit : κ → ν → ς → Option ν × ς) (steps : Nat)
    (r : Registry κ ν table) (s : ς) :
    ((r, s) :: momentsFrom visit steps r s).getLast? = some (scanFrom visit steps r s) := by
  induction steps generalizing r s with
  | zero => rfl
  | succ steps ih =>
    rw [momentsFrom, scanFrom]
    cases r.current? with
    | none => rfl
    | some e =>
      dsimp only
      generalize visit e.1 e.2 s = out
      obtain ⟨kept, s'⟩ := out
      cases kept with
      | some v => exact ih _ s'
      | none =>
        dsimp only
        cases r.removeCurrent with
        | error e => rfl
        | ok removed => exact ih removed.2 s'

/-- The last moment of a walk is what it comes to. -/
theorem getLast?_moments (visit : κ → ν → ς → Option ν × ς) (r : Registry κ ν table) (s : ς) :
    (r.moments visit s).getLast? = some (r.scan visit s) :=
  getLast?_momentsFrom visit r.size r.first s

/-- How a moment of a walk comes from the one before. -/
inductive WalkStep (visit : κ → ν → ς → Option ν × ς) [DecidableEq κ] :
    Registry κ ν table × ς → Registry κ ν table × ς → Prop
  /-- An element is visited. -/
  | visit (r : Registry κ ν table) (k : κ) (v : ν) (s : ς) :
    WalkStep visit (r, s) (r, (visit k v s).2)
  /-- The cursor moves on. -/
  | move (r moved : Registry κ ν table) (s : ς) (hkeys : moved.keys = r.keys) :
    WalkStep visit (r, s) (moved, s)
  /-- The element that was visited last is removed, since the visitor does not keep it. -/
  | remove (r removed : Registry κ ν table) (k : κ) (v : ν) (s : ς)
    (hvisit : (visit k v s).1 = none) (hkeys : removed.keys = r.keys.filter (· ≠ k)) :
    WalkStep visit (r, (visit k v s).2) (removed, (visit k v s).2)

variable [DecidableEq κ]

theorem isChain_momentsFrom (visit : κ → ν → ς → Option ν × ς) (steps : Nat)
    (r : Registry κ ν table) (s : ς) :
    ((r, s) :: momentsFrom visit steps r s).IsChain (WalkStep visit) := by
  induction steps generalizing r s with
  | zero => exact .singleton _
  | succ steps ih =>
    rw [momentsFrom]
    cases hcurrent : r.current? with
    | none => exact .singleton _
    | some e =>
      obtain ⟨k, v⟩ := e
      have hvisited : WalkStep visit (r, s) (r, (visit k v s).2) := .visit r k v s
      have hremove : ∀ removed : Registry κ ν table, (visit k v s).1 = none →
          removed.keys = r.keys.filter (· ≠ k) →
          WalkStep visit (r, (visit k v s).2) (removed, (visit k v s).2) :=
        fun removed ↦ .remove r removed k v s
      dsimp only
      generalize visit k v s = out at hvisited hremove
      obtain ⟨kept, s'⟩ := out
      cases kept with
      | some v' =>
        have hkeys : (r.modifyCurrent fun _ ↦ v').next.keys = r.keys := keys_modifySlot _ _
        exact .cons_cons hvisited (.cons_cons (.move r _ s' hkeys) (ih _ s'))
      | none =>
        obtain ⟨removed, hremoved, hlist, -⟩ := removeCurrent_of_some hcurrent
        have hkeys : removed.keys = r.keys.filter (· ≠ k) := by
          rw [keys, hlist, keys, List.filter_map]
          rfl
        dsimp only
        rw [hremoved]
        exact .cons_cons hvisited (.cons_cons (hremove removed rfl hkeys) (ih removed s'))

theorem isChain_moments (visit : κ → ν → ς → Option ν × ς) (r : Registry κ ν table) (s : ς) :
    (r.moments visit s).IsChain (WalkStep visit) :=
  isChain_momentsFrom visit r.size r.first s

end Registry

variable {W σ ς : Type}

/-! ## Moments of an engine -/

/-- A moment of a call: the identities that are registered, and what has happened so far. -/
structure Moment (σ : Type) where
  ids : List ConnectionId
  events : List (Event σ)

/-- How a moment of a call may follow another one: more may happen, and an identity may go when its
report is the last thing that has happened. -/
structure Moment.Leads (core : Core σ) (m m' : Moment σ) : Prop where
  events : m.events <+: m'.events
  ids : m'.ids.Sublist m.ids
  reported : ∀ id ∈ m.ids, id ∉ m'.ids →
    m'.events = m.events ∧ ∃ reason, core.reportDrop id reason <:+ m.events

/-- Moments that lead from what is registered before a call to what the call comes to. -/
structure Core.Announces (core : Core σ) (moments : List (Moment σ)) (after : List ConnectionId)
    (events : List (Event σ)) : Prop where
  first : moments.head?.map (·.ids) = some core.destinations.keys
  last : moments.getLast? = some ⟨after, events⟩
  chain : moments.IsChain (Moment.Leads core)

namespace Core

/-- Visits that report a connection as the last thing if they do not keep it. -/
def ReportsLast (core : Core σ) (history : ς → List (Event σ))
    (visit : ConnectionId → Connection σ → ς → Option (Connection σ) × ς) : Prop :=
  ∀ k c s, history s <+: history (visit k c s).2 ∧
    ((visit k c s).1 = none → ∃ reason, core.reportDrop k reason <:+ history (visit k c s).2)

/-- A walk with such visits, after something else has happened. -/
theorem ReportsLast.announces {core : Core σ} {history : ς → List (Event σ)}
    {visit : ConnectionId → Connection σ → ς → Option (Connection σ) × ς}
    (hvisit : core.ReportsLast history visit) (past : List (Event σ)) (s : ς) :
    core.Announces
      ((core.destinations.moments visit s).map fun m ↦ ⟨m.1.keys, past ++ history m.2⟩)
      (core.destinations.scan visit s).1.keys
      (past ++ history (core.destinations.scan visit s).2) where
  first := rfl
  last := by
    rw [List.getLast?_map, Registry.getLast?_moments]
    rfl
  chain := by
    refine List.isChain_map_of_isChain _ (fun m m' hstep ↦ ?_) (Registry.isChain_moments visit _ s)
    cases hstep with
    | visit r k c s =>
      exact ⟨(List.prefix_append_right_inj past).2 (hvisit k c s).1, .refl _,
        fun id hid hgone ↦ absurd hid hgone⟩
    | move r moved s hkeys =>
      refine ⟨List.prefix_rfl, hkeys ▸ .refl _, fun id hid hgone ↦ ?_⟩
      exact absurd (hkeys ▸ hid) hgone
    | remove r removed k c s hnone hkeys =>
      refine ⟨List.prefix_rfl, hkeys ▸ List.filter_sublist, fun id hid hgone ↦ ⟨rfl, ?_⟩⟩
      -- The identity that goes is the one that was visited.
      have hk : id = k := by
        by_contra hne
        exact hgone (hkeys ▸ List.mem_filter.2 ⟨hid, decide_eq_true hne⟩)
      obtain ⟨reason, hreport⟩ := (hvisit k c s).2 hnone
      exact ⟨reason, hk ▸ hreport.trans (List.suffix_append ..)⟩

variable [Network W σ] (core : Core σ)

theorem reportsLast_visitReady (now : Nat) :
    core.ReportsLast (fun s : List Bool × ReceivePass W σ ↦ s.2.events) (core.visitReady now) := by
  intro k c s
  rcases core.visitReady_cases now k c s with ⟨-, hkept, hevents⟩ | ⟨-, hkept, hevents⟩
  · refine ⟨⟨_, hevents.symm⟩, fun hnone ↦ ?_⟩
    cases hkept.symm.trans hnone
  · refine ⟨⟨_, hevents.symm⟩, fun hnone ↦ ?_⟩
    rw [hkept, Connection.afterReading] at hnone
    rw [receipt] at hevents
    cases hfailure : (c.receive s.2.buffer s.2.world).failure with
    | none =>
      rw [hfailure] at hnone
      cases hnone
    | some reason =>
      rw [hfailure] at hevents
      simp only [hevents]
      exact ⟨reason, (List.suffix_append ..).trans
        ((List.suffix_append ..).trans (List.suffix_append ..))⟩

theorem reportsLast_visitWrite (frame : Bytes) :
    core.ReportsLast (fun pass : SendPass W σ ↦ pass.events) (core.visitWrite frame) := by
  intro k c pass
  obtain ⟨answer, hevents, hanswer⟩ := core.visitWrite_cases frame k c pass
  refine ⟨⟨_, hevents.symm⟩, fun hnone ↦ ?_⟩
  rcases hanswer with ⟨-, hkept⟩ | ⟨⟨e, rfl⟩, -, -⟩
  · cases hkept.symm.trans hnone
  · simp only [hevents]
    exact ⟨_, (List.suffix_cons ..).trans (List.suffix_append ..)⟩

/-- The moments of the walk of a call, if it walks over the connections in order to read or to
write. -/
def moments (core : Core σ) (w : W) : Call σ → List (Moment σ)
  | .poll =>
    let handles := core.streams.map Handle.stream
    if core.destinations.isEmpty then []
    else
      match Network.waitReady handles .zero w with
      | (.error _, _) => []
      | (.ok answer, w) =>
        if answer.count = 0 then []
        else
          (core.destinations.moments (core.visitReady (Network.now w))
            (Readiness.fit handles.length answer.flags,
              ⟨w, core.readBuffer, core.queue, core.dropped, []⟩)).map
            fun m ↦ ⟨m.1.keys, .waitReady handles .zero (.ok answer) :: m.2.2.events⟩
  | .sendRtp payload | .sendRtcp payload =>
    if core.sendLimit < payload.length then []
    else
      (core.destinations.moments (core.visitWrite (Frame.wire payload)) ⟨w, none, []⟩).map
        fun m ↦ ⟨m.1.keys, m.2.events⟩
  | _ => []

/-- Either a receive pass does not come to its walk, or the moments of the walk lead to what it
comes to. -/
theorem announces_poll (w : W) :
    (core.moments w .poll = [] ∧ (core.poll w).core = core) ∨
      core.Announces (core.moments w .poll) (core.poll w).core.destinations.keys
        (core.poll w).events := by
  rw [moments, poll]
  split
  · exact .inl ⟨rfl, rfl⟩
  dsimp only
  generalize Network.waitReady (core.streams.map Handle.stream) .zero w = asked
  obtain ⟨answer, w'⟩ := asked
  cases answer with
  | error e => exact .inl ⟨rfl, rfl⟩
  | ok answer =>
    dsimp only
    split
    · exact .inl ⟨rfl, rfl⟩
    · exact .inr ((core.reportsLast_visitReady (Network.now w')).announces
        [.waitReady (core.streams.map .stream) .zero (.ok answer)] _)

theorem announces_send (payload : Bytes) (w : W) :
    (core.moments w (.sendRtp payload) = [] ∧ (core.send payload w).core = core) ∨
      core.Announces (core.moments w (.sendRtp payload))
        (core.send payload w).core.destinations.keys (core.send payload w).events := by
  rw [moments, send]
  split
  · exact .inl ⟨rfl, rfl⟩
  · rename_i hlimit
    have hle : payload.length ≤ Frame.maxPayload :=
      Nat.le_trans (Nat.le_of_not_lt hlimit) (Nat.min_le_right ..)
    rw [Frame.encode_of_le hle]
    exact .inr ((core.reportsLast_visitWrite (Frame.wire payload)).announces [] _)

end Core

end StreamRtp
