import Mathlib.Data.List.Nodup
import StreamRtp.Engine.Send
import StreamRtp.Proofs.RegistryWalk
import StreamRtp.Proofs.Replay

/-!
# Passes over the connections

A receive pass and a fan-out visit the connections one after the other. All of them read into one
buffer and write their events into one history, and a visit may end the connection it is at. What
the pass means for one connection is said by `Passes`: the frames that the history has of it are
those that its assembler completes when it is given what was read at it, and nothing else.

## The argument

A visit concerns one connection, so it is a pass over a list of one: `passes_visitReady`. Passes
over connections with different keys make a pass over all of them, because neither history speaks of
a connection of the other: `Passes.append`. By the recursion of the walk every walk whose visits are
passes is a pass.

A read gives no more bytes than it was asked for, and the buffer was brought to that size before. So
the part of the buffer that is reassembled is what was read, whatever the buffer held.
-/

namespace StreamRtp

variable {W σ ς : Type}

/-! ## Events of one connection -/

/-- The frame that an event completes for a connection. -/
def Event.frameOf (id : ConnectionId) : Event σ → Option Bytes
  | .frame source payload _ => if source = id then some payload else none
  | _ => none

/-- What an event reads at a connection. -/
def Event.readOf (W : Type) [Network W σ] (id : ConnectionId) : Event σ → Option Feeding
  | .read s _ (.ok data) => if Network.id W s = id then some (.bytes data) else none
  | _ => none

/-- The frames that a history completes for a connection, in order. -/
def framesOf (id : ConnectionId) (events : List (Event σ)) : List Bytes :=
  events.filterMap (Event.frameOf id)

/-- What a history reads at a connection, in order. -/
def readsOf (W : Type) [Network W σ] (id : ConnectionId) (events : List (Event σ)) :
    List Feeding :=
  events.filterMap (Event.readOf W id)

section Histories

variable (id : ConnectionId) (first second : List (Event σ))

theorem framesOf_append :
    framesOf id (first ++ second) = framesOf id first ++ framesOf id second :=
  List.filterMap_append

/-- Frames of one source, as a receive pass puts them into the history. -/
theorem framesOf_map_frame (source : ConnectionId) (frames : List Bytes) (verdict : Verdict) :
    framesOf id (frames.map (.frame source · verdict) : List (Event σ))
      = if source = id then frames else [] := by
  rw [framesOf, List.filterMap_map]
  by_cases h : source = id
  · simp only [if_pos h, Function.comp_def, Event.frameOf, List.filterMap_some]
  · simp only [if_neg h, Function.comp_def, Event.frameOf, List.filterMap_none]

variable [Network W σ]

theorem readsOf_append :
    readsOf W id (first ++ second) = readsOf W id first ++ readsOf W id second :=
  List.filterMap_append

theorem readsOf_map_frame (source : ConnectionId) (frames : List Bytes) (verdict : Verdict) :
    readsOf W id (frames.map (.frame source · verdict) : List (Event σ)) = [] := by
  rw [readsOf, List.filterMap_map]
  exact List.filterMap_eq_nil_iff.2 fun _ _ ↦ rfl

end Histories

/-- A history in which nothing is read and no frame is completed. -/
def Silent (W : Type) [Network W σ] (events : List (Event σ)) : Prop :=
  ∀ id, framesOf id events = [] ∧ readsOf W id events = []

namespace Silent

variable [Network W σ]

theorem append {first second : List (Event σ)} (h₁ : Silent W first) (h₂ : Silent W second) :
    Silent W (first ++ second) := by
  intro id
  rw [framesOf_append, readsOf_append, (h₁ id).1, (h₂ id).1, (h₁ id).2, (h₂ id).2]
  exact ⟨rfl, rfl⟩

theorem logged (log : List LogEntry) : Silent W (logged log : List (Event σ)) := by
  intro id
  rw [framesOf, readsOf, StreamRtp.logged, List.filterMap_map, List.filterMap_map]
  exact ⟨List.filterMap_eq_nil_iff.2 fun _ _ ↦ rfl, List.filterMap_eq_nil_iff.2 fun _ _ ↦ rfl⟩

theorem reportDrop (core : Core σ) (dropped : ConnectionId) (reason : DropReason) :
    Silent W (core.reportDrop dropped reason) := by
  intro id
  rw [Core.reportDrop]
  split <;> exact ⟨rfl, rfl⟩

end Silent

/-! ## Reading one connection -/

/-- A connection is read by its own identity only, and its assembler takes what was read: neither
what the shared buffer held nor anything else. -/
theorem Connection.receive_spec [Network W σ] (c : Connection σ) (buffer : Bytes) (w : W) :
    (∀ id, framesOf id (c.receive buffer w).events = []) ∧
      (∀ id, Network.id W c.stream ≠ id → readsOf W id (c.receive buffer w).events = []) ∧
      c.assembler.replay (readsOf W (Network.id W c.stream) (c.receive buffer w).events)
        = ((c.receive buffer w).frames, (c.receive buffer w).assembler) := by
  rw [receive]
  split
  · exact ⟨fun _ ↦ rfl, fun _ _ ↦ rfl, rfl⟩
  · exact ⟨fun _ ↦ rfl, fun _ _ ↦ rfl, rfl⟩
  · rename_i available w' _ _
    dsimp only
    split
    · exact ⟨fun _ ↦ rfl, fun _ _ ↦ rfl, rfl⟩
    · refine ⟨fun _ ↦ rfl, fun id hne ↦ ?_, ?_⟩
      · simp only [readsOf, List.filterMap_cons, Event.readOf, if_neg hne, List.filterMap_nil]
      · simp only [readsOf, List.filterMap_cons, Event.readOf, if_pos trivial, List.filterMap_nil]
        rw [Assembler.replay_cons, Assembler.take, Assembler.push_nil]
        rfl
    · rename_i bytes w'' _ hread
      -- What the read has filled is all that is taken out of the buffer.
      have hle : bytes.length ≤ (resize available buffer).length := by
        rw [length_resize]
        exact Network.read_le c.stream available w' bytes (congrArg Prod.fst hread)
      rw [take_overwrite hle]
      have hreplay : c.assembler.replay [.bytes bytes]
          = ((c.assembler.push bytes).1.frames, (c.assembler.push bytes).2) := by
        rw [Assembler.replay_cons, Assembler.replay_nil, List.append_nil, Assembler.take]
      -- The only other event is the log entry about a length that was refused.
      generalize c.assembler.push bytes = out at hreplay
      obtain ⟨⟨frames, _ | ⟨declared, limit⟩⟩, assembler⟩ := out
      all_goals
        refine ⟨fun _ ↦ rfl, fun id hne ↦ ?_, ?_⟩
        · simp only [readsOf, List.cons_append, List.nil_append, List.filterMap_cons, Event.readOf,
            if_neg hne, List.filterMap_nil]
        · simp only [readsOf, List.cons_append, List.nil_append, List.filterMap_cons, Event.readOf,
            if_pos trivial, List.filterMap_nil]
          exact hreplay

/-! ## Passes -/

/-- Every connection is registered under its own identity. -/
def Keyed (W : Type) [Network W σ] (entries : List (ConnectionId × Connection σ)) : Prop :=
  ∀ e ∈ entries, Network.id W e.2.stream = e.1

/-- A history that goes with connections and with what is kept of them. -/
structure Passes (W : Type) [Network W σ] (entries kept : List (ConnectionId × Connection σ))
    (events : List (Event σ)) : Prop where
  /-- What is kept was there before, with the same stream. -/
  origin : ∀ e' ∈ kept, ∃ e ∈ entries, e.1 = e'.1 ∧ e.2.stream = e'.2.stream
  /-- The history does not speak of other connections. -/
  others : ∀ id, id ∉ entries.map (·.1) →
    framesOf id events = [] ∧ readsOf W id events = []
  /-- An assembler has completed the frames of its connection out of what was read there. -/
  own : ∀ e ∈ entries,
    framesOf e.1 events = (e.2.assembler.replay (readsOf W e.1 events)).1 ∧
      ∀ e' ∈ kept, e'.1 = e.1 →
        e'.2.assembler = (e.2.assembler.replay (readsOf W e.1 events)).2

namespace Passes

variable [Network W σ] {entries kept entries₁ entries₂ kept₁ kept₂ :
  List (ConnectionId × Connection σ)} {events events₁ events₂ : List (Event σ)}

/-- In silence, connections may be given up and nothing else. -/
theorem of_sublist (hnodup : (entries.map (·.1)).Nodup) (hkept : kept.Sublist entries)
    (hsilent : Silent W events) : Passes W entries kept events where
  origin e' he' := ⟨e', hkept.subset he', rfl, rfl⟩
  others id _ := hsilent id
  own e he := by
    obtain ⟨hframes, hreads⟩ := hsilent e.1
    rw [hframes, hreads, Assembler.replay_nil]
    refine ⟨rfl, fun e' he' hkey ↦ ?_⟩
    rw [List.inj_on_of_nodup_map hnodup (hkept.subset he') he hkey]

theorem nil (hsilent : Silent W events) : Passes W [] [] events :=
  of_sublist List.nodup_nil (List.Sublist.refl []) hsilent

theorem notMem_kept (h : Passes W entries kept events) {id : ConnectionId}
    (hid : id ∉ entries.map (·.1)) : id ∉ kept.map (·.1) := by
  intro hmem
  obtain ⟨e', he', rfl⟩ := List.mem_map.1 hmem
  obtain ⟨e, he, hkey, -⟩ := h.origin e' he'
  exact hid (List.mem_map.2 ⟨e, he, hkey⟩)

theorem keyed (h : Passes W entries kept events) (hkeyed : Keyed W entries) : Keyed W kept := by
  intro e' he'
  obtain ⟨e, he, hkey, hstream⟩ := h.origin e' he'
  rw [← hkey, ← hstream, hkeyed e he]

/-- A pass over some connections and then over others is a pass over all of them. -/
theorem append (h₁ : Passes W entries₁ kept₁ events₁) (h₂ : Passes W entries₂ kept₂ events₂)
    (hdisjoint : (entries₁.map (·.1)).Disjoint (entries₂.map (·.1))) :
    Passes W (entries₁ ++ entries₂) (kept₁ ++ kept₂) (events₁ ++ events₂) where
  origin e' he' := by
    rcases List.mem_append.1 he' with he' | he'
    · obtain ⟨e, he, hsame⟩ := h₁.origin e' he'
      exact ⟨e, List.mem_append_left _ he, hsame⟩
    · obtain ⟨e, he, hsame⟩ := h₂.origin e' he'
      exact ⟨e, List.mem_append_right _ he, hsame⟩
  others id hid := by
    rw [List.map_append, List.mem_append, not_or] at hid
    obtain ⟨hframes₁, hreads₁⟩ := h₁.others id hid.1
    obtain ⟨hframes₂, hreads₂⟩ := h₂.others id hid.2
    rw [framesOf_append, readsOf_append, hframes₁, hframes₂, hreads₁, hreads₂]
    exact ⟨rfl, rfl⟩
  own e he := by
    rw [framesOf_append, readsOf_append]
    rcases List.mem_append.1 he with he | he
    · -- The second history adds nothing to that of a connection of the first part.
      have hother : e.1 ∉ entries₂.map (·.1) := hdisjoint (List.mem_map_of_mem he)
      obtain ⟨hframes₂, hreads₂⟩ := h₂.others e.1 hother
      rw [hframes₂, hreads₂, List.append_nil, List.append_nil]
      obtain ⟨hframes, hlast⟩ := h₁.own e he
      refine ⟨hframes, fun e' he' hkey ↦ ?_⟩
      rcases List.mem_append.1 he' with he' | he'
      · exact hlast e' he' hkey
      · exact absurd (hkey ▸ List.mem_map_of_mem he') (h₂.notMem_kept hother)
    · have hother : e.1 ∉ entries₁.map (·.1) := fun hmem ↦ hdisjoint hmem (List.mem_map_of_mem he)
      obtain ⟨hframes₁, hreads₁⟩ := h₁.others e.1 hother
      rw [hframes₁, hreads₁, List.nil_append, List.nil_append]
      obtain ⟨hframes, hlast⟩ := h₂.own e he
      refine ⟨hframes, fun e' he' hkey ↦ ?_⟩
      rcases List.mem_append.1 he' with he' | he'
      · exact absurd (hkey ▸ List.mem_map_of_mem he') (h₁.notMem_kept hother)
      · exact hlast e' he' hkey

/-- Silence before a pass is part of it. -/
theorem silent_append (h : Passes W entries kept events₂) (hsilent : Silent W events₁) :
    Passes W entries kept (events₁ ++ events₂) :=
  (nil hsilent).append h (List.disjoint_nil_left _)

/-- The visit of one connection. -/
theorem singleton {k : ConnectionId} {c : Connection σ} {kept : Option (Connection σ)}
    (hothers : ∀ id, k ≠ id → framesOf id events = [] ∧ readsOf W id events = [])
    (hframes : framesOf k events = (c.assembler.replay (readsOf W k events)).1)
    (hkept : ∀ c', kept = some c' → c'.stream = c.stream ∧
      c'.assembler = (c.assembler.replay (readsOf W k events)).2) :
    Passes W [(k, c)] (kept.map (k, ·)).toList events where
  origin e' he' := by
    obtain ⟨c', hc', rfl⟩ := Option.map_eq_some_iff.1 (Option.mem_toList.1 he')
    exact ⟨(k, c), List.mem_singleton_self _, rfl, (hkept c' hc').1.symm⟩
  others id hid := hothers id fun hk ↦ hid (hk ▸ List.mem_singleton_self k)
  own e he := by
    rw [List.mem_singleton.1 he]
    refine ⟨hframes, fun e' he' _ ↦ ?_⟩
    obtain ⟨c', hc', rfl⟩ := Option.map_eq_some_iff.1 (Option.mem_toList.1 he')
    exact (hkept c' hc').2

end Passes

/-! ## The walks -/

section Walks

variable [Network W σ]

/-- A walk whose visits are passes over one connection is a pass over all of them. -/
theorem exists_passes_sweep (history : ς → List (Event σ))
    {visit : ConnectionId → Connection σ → ς → Option (Connection σ) × ς}
    (hvisit : ∀ k c s, Network.id W c.stream = k → ∃ events,
      history (visit k c s).2 = history s ++ events ∧
        Passes W [(k, c)] ((visit k c s).1.map (k, ·)).toList events)
    {entries : List (ConnectionId × Connection σ)} (hkeyed : Keyed W entries)
    (hnodup : (entries.map (·.1)).Nodup) (s : ς) : ∃ events,
      history (sweep visit entries s).2 = history s ++ events ∧
        Passes W entries (sweep visit entries s).1 events := by
  induction entries generalizing s with
  | nil => exact ⟨[], (List.append_nil _).symm, Passes.nil fun _ ↦ ⟨rfl, rfl⟩⟩
  | cons e entries ih =>
    obtain ⟨k, c⟩ := e
    obtain ⟨hkey, hkeyed⟩ := List.forall_mem_cons.1 hkeyed
    rw [List.map_cons, List.nodup_cons] at hnodup
    -- The keys are distinct, so the first visit and the rest of the walk concern different ones.
    obtain ⟨events, hevents, hpasses⟩ := hvisit k c s hkey
    obtain ⟨later, hlater, hrest⟩ := ih hkeyed hnodup.2 (visit k c s).2
    refine ⟨events ++ later, ?_, hpasses.append hrest ?_⟩
    · rw [← List.append_assoc, ← hevents, ← hlater, sweep]
    · exact List.singleton_disjoint.2 hnodup.1

omit [Network W σ] in
theorem events_deliver (pass : ReceivePass W σ) (filter : ReceiveFilter ConnectionId) (now : Nat)
    (id : ConnectionId) (frames : List Bytes) : (pass.deliver filter now id frames).events
      = pass.events ++ frames.map (.frame id · (filter.decision id)) := by
  rw [ReceivePass.deliver]
  split <;> rfl

/-- What a ready connection adds to the history: its reads, its frames as the filter judges them,
and a report if the connection is given up. -/
theorem Connection.passes_receive {c : Connection σ} {buffer : Bytes} {w : W} {got : Reception W σ}
    (hgot : c.receive buffer w = got) {k : ConnectionId} (hkey : Network.id W c.stream = k)
    (verdict : Verdict) {kept : Option (Connection σ)} {report : List (Event σ)}
    (hreport : Silent W report)
    (hkept : ∀ c', kept = some c' → c'.stream = c.stream ∧ c'.assembler = got.assembler) :
    Passes W [(k, c)] (kept.map (k, ·)).toList
      (got.events ++ (got.frames.map (.frame k · verdict) ++ report)) := by
  obtain ⟨hsilent, hother, hreplay⟩ := c.receive_spec buffer w
  rw [hgot] at hsilent hother hreplay
  rw [hkey] at hother hreplay
  have hframes : ∀ id, framesOf id (got.events ++ (got.frames.map (.frame k · verdict) ++ report))
      = if k = id then got.frames else [] := by
    intro id
    rw [framesOf_append, framesOf_append, hsilent, framesOf_map_frame, (hreport id).1,
      List.append_nil, List.nil_append]
  have hreads : ∀ id, readsOf W id (got.events ++ (got.frames.map (.frame k · verdict) ++ report))
      = readsOf W id got.events := by
    intro id
    rw [readsOf_append, readsOf_append, readsOf_map_frame, (hreport id).2, List.append_nil,
      List.append_nil]
  refine .singleton (fun id hne ↦ ?_) ?_ fun c' hc' ↦ ?_
  · rw [hframes, hreads, if_neg hne]
    exact ⟨rfl, hother id hne⟩
  · rw [hframes, hreads, if_pos rfl, hreplay]
  · rw [hreads, hreplay]
    exact hkept c' hc'

/-- The visit of a receive pass. -/
theorem Core.passes_visitReady (core : Core σ) (now : Nat) (k : ConnectionId) (c : Connection σ)
    (s : List Bool × ReceivePass W σ) (hkey : Network.id W c.stream = k) : ∃ events,
      (core.visitReady now k c s).2.2.events = s.2.events ++ events ∧
        Passes W [(k, c)] ((core.visitReady now k c s).1.map (k, ·)).toList events := by
  obtain ⟨flags, pass⟩ := s
  have hskip : Passes W [(k, c)] [(k, c)] [] :=
    .of_sublist (List.nodup_singleton k) (List.Sublist.refl _) fun _ ↦ ⟨rfl, rfl⟩
  match flags with
  | [] => exact ⟨[], (List.append_nil _).symm, hskip⟩
  | false :: flags => exact ⟨[], (List.append_nil _).symm, hskip⟩
  | true :: flags =>
    rw [Core.visitReady]
    generalize hgot : c.receive pass.buffer pass.world = got
    cases got.failure with
    | none =>
      have hquiet : Silent W ([] : List (Event σ)) := fun _ ↦ ⟨rfl, rfl⟩
      refine ⟨_, ?_, Connection.passes_receive hgot hkey (core.filter.decision k) hquiet ?_⟩
      · simp only [events_deliver, List.append_assoc, List.append_nil]
      · rintro c' ⟨rfl⟩
        exact ⟨rfl, rfl⟩
    | some reason =>
      refine ⟨_, ?_, Connection.passes_receive hgot hkey (core.filter.decision k)
        (.reportDrop core k reason) nofun⟩
      simp only [events_deliver, List.append_assoc]

/-- The visit of a fan-out. -/
theorem Core.passes_visitWrite (core : Core σ) (frame : Bytes) (k : ConnectionId)
    (c : Connection σ) (s : SendPass W σ) : ∃ events,
      (core.visitWrite frame k c s).2.events = s.events ++ events ∧
        Passes W [(k, c)] ((core.visitWrite frame k c s).1.map (k, ·)).toList events := by
  rw [Core.visitWrite]
  split
  · exact ⟨_, rfl, .of_sublist (List.nodup_singleton k) (List.Sublist.refl _) fun _ ↦ ⟨rfl, rfl⟩⟩
  · exact ⟨_, rfl, .of_sublist (List.nodup_singleton k) (List.nil_sublist _)
      (.reportDrop core k _)⟩

theorem Core.readsOf_visitWrite (core : Core σ) (id : ConnectionId) (frame : Bytes)
    (k : ConnectionId) (c : Connection σ) (s : SendPass W σ) (h : readsOf W id s.events = []) :
    readsOf W id (core.visitWrite frame k c s).2.events = [] := by
  rw [visitWrite]
  split
  · exact (readsOf_append ..).trans (congrArg (· ++ []) h)
  · exact (readsOf_append ..).trans
      ((congrArg (· ++ _) h).trans (Silent.reportDrop core k _ id).2)

end Walks

/-! ## Walks over the destinations of an engine -/

namespace Core

variable [Network W σ] {core : Core σ}

theorem passes_refl (core : Core σ) {events : List (Event σ)} (hsilent : Silent W events) :
    Passes W core.destinations.toList core.destinations.toList events :=
  .of_sublist core.destinations.nodup_keys (List.Sublist.refl _) hsilent

/-- A walk over the destinations of an engine whose visits are passes is a pass. -/
theorem exists_passes_scan (history : ς → List (Event σ))
    {visit : ConnectionId → Connection σ → ς → Option (Connection σ) × ς}
    (hvisit : ∀ k c s, Network.id W c.stream = k → ∃ events,
      history (visit k c s).2 = history s ++ events ∧
        Passes W [(k, c)] ((visit k c s).1.map (k, ·)).toList events)
    (hkeyed : Keyed W core.destinations.toList) (s : ς) : ∃ events,
      history (core.destinations.scan visit s).2 = history s ++ events ∧
        Passes W core.destinations.toList (core.destinations.scan visit s).1.toList events := by
  obtain ⟨hlist, hlast⟩ := Registry.scan_eq_sweep visit core.destinations s
  rw [hlist, hlast]
  exact exists_passes_sweep history hvisit hkeyed core.destinations.nodup_keys s

theorem passes_poll (hkeyed : Keyed W core.destinations.toList) (w : W) :
    Passes W core.destinations.toList (core.poll w).core.destinations.toList
      (core.poll w).events := by
  rw [poll]
  split
  · exact core.passes_refl fun _ ↦ ⟨rfl, rfl⟩
  dsimp only
  split
  · exact core.passes_refl fun _ ↦ ⟨rfl, rfl⟩
  · split
    · exact core.passes_refl fun _ ↦ ⟨rfl, rfl⟩
    · rename_i answer w' _ _
      -- The walk carries the flags along, and the history is in the rest of what it carries.
      obtain ⟨events, hevents, hpasses⟩ := exists_passes_scan
        (fun s : List Bool × ReceivePass W σ ↦ s.2.events)
        (core.passes_visitReady (Network.now w')) hkeyed
        (Readiness.fit (core.streams.map Handle.stream).length answer.flags,
          ⟨w', core.readBuffer, core.queue, core.dropped, []⟩)
      rw [List.nil_append] at hevents
      have hasked : Silent W [Event.waitReady (core.streams.map .stream) .zero (.ok answer)] :=
        fun _ ↦ ⟨rfl, rfl⟩
      rw [receiveReady]
      dsimp only
      rw [hevents]
      exact hpasses.silent_append hasked

/-- A fan-out is a pass in which nothing is read. -/
theorem passes_send (payload : Bytes) (hkeyed : Keyed W core.destinations.toList) (w : W) :
    Passes W core.destinations.toList (core.send payload w).core.destinations.toList
        (core.send payload w).events ∧
      ∀ id, readsOf W id (core.send payload w).events = [] := by
  rw [send]
  split
  · exact ⟨core.passes_refl fun _ ↦ ⟨rfl, rfl⟩, fun _ ↦ rfl⟩
  · split
    · exact ⟨core.passes_refl fun _ ↦ ⟨rfl, rfl⟩, fun _ ↦ rfl⟩
    · rename_i frame _
      obtain ⟨events, hevents, hpasses⟩ := exists_passes_scan SendPass.events
        (fun k c s _ ↦ core.passes_visitWrite frame k c s) hkeyed ⟨w, none, []⟩
      rw [List.nil_append] at hevents
      dsimp only
      refine ⟨hevents.symm ▸ hpasses, fun id ↦ ?_⟩
      rw [(Registry.scan_eq_sweep ..).2]
      exact sweep_induction (core.readsOf_visitWrite id frame) _ rfl

end Core

end StreamRtp
