import StreamRtp.Proofs.LimitsInForce

/-!
# Engines whose limit stays

As long as the limit of an engine stays, no frame that it completes is longer, so whatever it has
received may be sent again. `Lifecycle.Bounded` is what every call keeps but a change of the limit.

An engine listens, in addition, if it accepts every source: what it completes waits in its queue, in
order, until it is taken out. Whether the calls of a receive loop keep this is answered by what is
known of all calls: what they make of the connections, of the settings and of the queue.
-/

namespace StreamRtp

variable {W σ : Type}

/-! ## Bounds -/

/-- Bytes keep an assembler within its limit, and complete only frames within it. -/
theorem Assembler.replay_within {a : Assembler} {bound : Nat} {feedings : List Feeding}
    (h : a.phase.Within bound) (hbound : ∀ n ≤ Frame.maxPayload, n ≤ a.limit → n ≤ bound)
    (hbytes : ∀ feeding ∈ feedings, ∃ data, feeding = .bytes data) :
    (a.replay feedings).2.phase.Within bound ∧
      ∀ frame ∈ (a.replay feedings).1, frame.length ≤ bound := by
  induction feedings generalizing a with
  | nil => exact ⟨h, List.forall_mem_nil _⟩
  | cons feeding feedings ih =>
    obtain ⟨⟨data, rfl⟩, hlater⟩ := List.forall_mem_cons.1 hbytes
    obtain ⟨hphase, hframes⟩ := push_within h hbound data
    rw [← a.limit_push data] at hbound
    obtain ⟨hlast, hrest⟩ := ih hphase hbound hlater
    rw [replay_cons]
    exact ⟨hlast, List.forall_mem_append.2 ⟨hframes, hrest⟩⟩

/-- All limits are the given one, and no frame in progress will exceed what it allows. -/
structure Lifecycle.Bounded (l : Lifecycle σ) (limit : Nat) : Prop extends l.Level limit where
  within : ∀ e ∈ l.entries, e.2.assembler.phase.Within (min limit Frame.maxPayload)

section Calls

variable [Network W σ] {limit : Nat}

/-- Walking over connections keeps them within their limit, and completes only frames within it. -/
theorem Passes.within {entries kept : List (ConnectionId × Connection σ)} {events : List (Event σ)}
    (h : Passes W entries kept events) (hlimit : ∀ e ∈ entries, e.2.assembler.limit = limit)
    (hwithin : ∀ e ∈ entries, e.2.assembler.phase.Within (min limit Frame.maxPayload)) :
    (∀ e ∈ kept, e.2.assembler.phase.Within (min limit Frame.maxPayload)) ∧
      ∀ j ∈ judgements events, j.payload.length ≤ min limit Frame.maxPayload := by
  have hreplay := fun e he ↦ Assembler.replay_within (hwithin e he)
    (fun n hmax hn ↦ Nat.le_min.2 ⟨hlimit e he ▸ hn, hmax⟩)
    (exists_bytes_of_mem_readsOf : ∀ feeding ∈ readsOf W e.1 events, _)
  constructor
  · intro e' he'
    obtain ⟨e, he, hkey, -⟩ := h.origin e' he'
    rw [(h.own e he).2 e' he' hkey.symm]
    exact (hreplay e he).1
  · intro j hj
    obtain ⟨event, hevent, hjudged⟩ := List.mem_filterMap.1 hj
    have hframe : j.payload ∈ framesOf j.source events := by
      refine List.mem_filterMap.2 ⟨event, hevent, ?_⟩
      cases event with
      | frame source payload verdict =>
        cases hjudged
        exact if_pos rfl
      | _ => cases hjudged
    by_cases hmem : j.source ∈ entries.map (·.1)
    · obtain ⟨e, he, hsource⟩ := List.mem_map.1 hmem
      rw [← hsource, (h.own e he).1] at hframe
      exact (hreplay e he).2 _ hframe
    · rw [(h.others _ hmem).1] at hframe
      cases hframe

/-- A call that puts a limit in force for the connections there are is a change of the limit. -/
theorem Performed.eq_setMaxPacketSize {p : Performed σ} {n : Nat} {id : ConnectionId}
    (hlimit : p.limit? = some n) (hfeedings : p.feedings W id = [.limit n]) :
    p.call = .setMaxPacketSize n := by
  obtain ⟨call, result, events⟩ := p
  cases call with
  | setMaxPacketSize size =>
    cases result with
    | ok reply => exact congrArg Call.setMaxPacketSize (Option.some.inj hlimit)
    | error e => cases hlimit
  | create size params => cases hfeedings
  | _ => cases hlimit

/-- Every call but a change of the limit keeps an engine bounded. -/
theorem CallEffect.bounded {before after : Lifecycle σ} {p : Performed σ}
    (h : CallEffect W before p after) (hcall : ∀ size, p.call ≠ .setMaxPacketSize size)
    (hbounded : before.Bounded limit) : after.Bounded (p.limit?.getD limit) := by
  refine ⟨h.level hbounded.toLevel, ?_⟩
  cases h with
  | pass hlimit _ _ hpasses _ =>
    rw [hlimit]
    exact (hpasses.within hbounded.connections hbounded.within).1
  | create n _ _ _ _ _ hentries _ =>
    rw [hentries]
    exact List.forall_mem_nil _
  | limit n hlimit _ hfeedings _ _ _ =>
    exact absurd (p.eq_setMaxPacketSize hlimit (hfeedings ⟨0⟩)) (hcall n)
  | register n stream hlimit _ _ _ _ hentries _ _ =>
    rw [hentries, hlimit]
    exact List.forall_mem_append.2
      ⟨hbounded.within, List.forall_mem_singleton.2 (Phase.within_start _)⟩

/-- No call completes a frame that exceeds the bounds of the engine. -/
theorem CallEffect.length_judged_le {before after : Lifecycle σ} {p : Performed σ}
    (h : CallEffect W before p after) (hbounded : before.Bounded limit) :
    ∀ j ∈ judgements p.events, j.payload.length ≤ min limit Frame.maxPayload := by
  cases h with
  | pass _ _ _ hpasses _ => exact (hpasses.within hbounded.connections hbounded.within).2
  | create _ _ _ _ hframes _ _ _ | limit _ _ _ _ hframes _ _ | register _ _ _ _ _ hframes _ _ _ _ =>
    rw [judgements_eq_nil hframes]
    exact List.forall_mem_nil _

/-- Along calls that leave the limit alone, an engine stays bounded by the limit of its last
creation. -/
theorem Engine.bounded_live {engine : Engine σ} (occasions : List (Occasion W σ))
    (hcalls : ∀ o ∈ occasions, ∀ size, o.call ≠ .setMaxPacketSize size)
    (hkeyed : Keyed W engine.lifecycle.entries) (hbounded : engine.lifecycle.Bounded limit) :
    ∃ limit, (engine.live occasions).2.lifecycle.Bounded limit := by
  induction occasions generalizing engine limit with
  | nil => exact ⟨limit, hbounded⟩
  | cons o occasions ih =>
    obtain ⟨hcall, hlater⟩ := List.forall_mem_cons.1 hcalls
    have heffect :=
      (⟨engine, o.channels, o.world⟩ : Scene W σ).perform_effect hkeyed o.call o.mishaps
    exact ih hlater (heffect.keyed hkeyed) (heffect.bounded hcall hbounded)

/-- An engine is bounded if no call has changed its limit, or if at least no payload that is under
way exceeds the limit of the moment. -/
theorem Engine.exists_bounded {occasions : List (Occasion W σ)} {core : Core σ}
    (hcreated : ((new : Engine σ).live occasions).2.lifecycle = .created core)
    (hlimit : (∀ o ∈ occasions, ∀ size, o.call ≠ .setMaxPacketSize size) ∨
      ∀ e ∈ core.destinations.toList, e.2.assembler.phase.Within core.maxPacketSize) :
    Keyed W core.destinations.toList ∧ ∃ limit, (Lifecycle.created core).Bounded limit := by
  have hnone : Keyed W (new : Engine σ).lifecycle.entries := List.forall_mem_nil _
  obtain ⟨hkeyed, hlevel⟩ := level_live occasions hnone (level_new 0)
  rw [hcreated] at hkeyed hlevel
  refine ⟨hkeyed, hlimit.elim (fun hcalls ↦ ?_) fun hwithin ↦ ⟨core.maxPacketSize, ?_⟩⟩
  · rw [← hcreated]
    exact bounded_live occasions hcalls hnone ⟨level_new 0, List.forall_mem_nil _⟩
  · rw [← hlevel.engine core.maxPacketSize rfl] at hlevel
    exact ⟨hlevel, fun e he ↦ (hwithin e he).min e.2.assembler.sound.within⟩

end Calls

/-! ## Listening engines -/

/-- The frames that a history completes, whatever the filter says of them, each with its source. -/
def completed (events : List (Event σ)) : List (ConnectionId × Bytes) :=
  (judgements events).map fun j ↦ (j.source, j.payload)

theorem completed_append (first second : List (Event σ)) :
    completed (first ++ second) = completed first ++ completed second := by
  rw [completed, judgements_append, List.map_append]
  rfl

theorem completed_eq_nil {events : List (Event σ)} (h : judgements events = []) :
    completed events = [] := by
  rw [completed, h]
  rfl

/-- An engine that accepts every source, and whose packets may be sent again. -/
structure Lifecycle.Listens (W : Type) [Network W σ] (l : Lifecycle σ) (limit : Nat) : Prop where
  created : ∃ core, l = .created core ∧ core.filter.mode = .acceptAll
  keyed : Keyed W l.entries
  bounded : l.Bounded limit
  queued : ∀ packet ∈ l.queue, packet.data.length ≤ min limit Frame.maxPayload

/-- Whether a call is one of a receive loop. -/
def Call.IsRoutine : Call σ → Prop
  | .addDestination _ | .abortWait | .poll | .sendRtp _ | .nextPacket => True
  | _ => False

theorem ReceiveFilter.decision_of_acceptAll {κ : Type} [DecidableEq κ] {f : ReceiveFilter κ}
    (h : f.mode = .acceptAll) (source : κ) : f.decision source = .accept := by
  rw [decision, h]
  rfl

/-- With every source accepted, what is completed arrives in the queue. -/
theorem Booked.completed_eq {core : Core σ} {queue : List Packet} {dropped : Nat}
    {events : List (Event σ)} (h : Booked core queue dropped events)
    (hmode : core.filter.mode = .acceptAll) :
    queue.map Packet.origin = core.queue.map Packet.origin ++ completed events := by
  obtain ⟨arrived, hqueue, harrived⟩ := h.queue
  have hall : (judgements events).filter (·.verdict = .accept) = judgements events :=
    List.filter_eq_self.2 fun j hj ↦ decide_eq_true
      ((h.verdict j hj).trans (ReceiveFilter.decision_of_acceptAll hmode j.source))
  rw [hqueue, List.map_append, harrived, accepted, hall, completed]

/-- What waited in the queue and what a call completes is what it takes out and what waits then. -/
theorem QueueStep.conserves {before after : Core σ} {p : Performed σ} (h : QueueStep before p after)
    (hmode : before.filter.mode = .acceptAll) :
    before.queue.map Packet.origin ++ completed p.events
      = p.packet?.toList.map Packet.origin ++ after.queue.map Packet.origin := by
  cases h with
  | rest hqueue _ hjudgements hpacket =>
    rw [hqueue, completed_eq_nil hjudgements, List.append_nil, hpacket]
    rfl
  | take packet _ hqueue _ hjudgements hpacket =>
    rw [hqueue, completed_eq_nil hjudgements, List.append_nil, hpacket]
    rfl
  | receive _ hbooked hpacket =>
    rw [hbooked.completed_eq hmode, hpacket]
    rfl

namespace Scene

variable [Network W σ] {scene : Scene W σ} {limit : Nat}

/-- A call of a receive loop leaves the engine listening, and no packet gets lost. -/
theorem listens_perform (h : scene.engine.lifecycle.Listens W limit) {call : Call σ}
    (hcall : call.IsRoutine) :
    (scene.perform call).scene.engine.lifecycle.Listens W limit ∧
      scene.engine.lifecycle.queue.map Packet.origin ++ completed (scene.perform call).events
        = (scene.performed call).packet?.toList.map Packet.origin
          ++ (scene.perform call).scene.engine.lifecycle.queue.map Packet.origin := by
  obtain ⟨core, hcreated, hmode⟩ := h.created
  have hlives : call ≠ .destroy := by
    rintro rfl
    exact hcall
  have hsize : ∀ size, call ≠ .setMaxPacketSize size := by
    rintro size rfl
    exact hcall
  have hsame : core.settings.after call = core.settings := by
    cases call <;> first | rfl | exact hcall.elim
  have hlimit : (scene.performed call).limit? = none := by
    cases call <;> first | rfl | exact hcall.elim
  have heffect := scene.perform_effect h.keyed call
  have hbounded := heffect.bounded hsize h.bounded
  rw [hlimit] at hbounded
  obtain ⟨after, hafter, hsettings⟩ := scene.perform_settings hcreated hlives
  obtain ⟨after', hafter', hstep⟩ := scene.perform_queueStep hcreated call hlives
  cases hafter.symm.trans hafter'
  have hmode' : after.filter.mode = .acceptAll := by
    rw [hsame] at hsettings
    exact (congrArg (·.filter.mode) hsettings).trans hmode
  have hqueue := hstep.conserves hmode
  have hqueued := h.queued
  rw [hcreated] at hqueued ⊢
  -- What waits then waited before, or the call has completed it.
  have hbounds : ∀ origin ∈ core.queue.map Packet.origin ++ completed (scene.performed call).events,
      origin.2.length ≤ min limit Frame.maxPayload :=
    List.forall_mem_append.2 ⟨List.forall_mem_map.2 hqueued,
      List.forall_mem_map.2 (heffect.length_judged_le h.bounded)⟩
  rw [hqueue] at hbounds
  have hqueued' := List.forall_mem_map.1 (List.forall_mem_append.1 hbounds).2
  exact ⟨⟨⟨after, hafter, hmode'⟩, heffect.keyed h.keyed, hbounded, hafter ▸ hqueued'⟩,
    hafter ▸ hqueue⟩

end Scene

end StreamRtp
