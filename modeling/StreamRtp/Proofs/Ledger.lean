import StreamRtp.Proofs.CallEffect
import StreamRtp.Scripted.Stream

/-!
# What becomes of completed frames

A frame that a receive pass completes is judged by the filter as it is at that moment, and that is
the last word on it: if it is accepted it goes to the end of the queue and leaves it at the front,
and if it is rejected it is counted. So the packets that were handed out and those that still wait
are together the accepted frames, in the order in which they were completed. Nothing else touches
the queue: neither what happens to the connection a packet came from, nor a change of the filter or
of the limit, nor sending or waiting.

## The argument

`QueueStep` says once what a call makes of the queue of a created engine, and `perform_queueStep`
shows it of every call but the destruction. The law of a run is put together from the steps.
-/

namespace StreamRtp

variable {W σ α : Type}

/-! ## Judgements in a history -/

/-- A completed frame with where it came from and what the filter said of it. -/
structure Judgement where
  source : ConnectionId
  payload : Bytes
  verdict : Verdict
  deriving DecidableEq, Repr

/-- The judgement that an event records. -/
def Event.judgement? : Event σ → Option Judgement
  | .frame source payload verdict => some ⟨source, payload, verdict⟩
  | _ => none

/-- The completed frames of a history, in order, as the filter has judged them. -/
def judgements (events : List (Event σ)) : List Judgement := events.filterMap Event.judgement?

/-- The accepted frames of a history, in order, each with its source. -/
def accepted (events : List (Event σ)) : List (ConnectionId × Bytes) :=
  ((judgements events).filter (·.verdict = .accept)).map fun j ↦ (j.source, j.payload)

/-- The number of rejected frames of a history. -/
def rejected (events : List (Event σ)) : Nat := (judgements events).countP (·.verdict = .reject)

section Histories

variable (first second : List (Event σ))

theorem judgements_append :
    judgements (first ++ second) = judgements first ++ judgements second :=
  List.filterMap_append

theorem accepted_append : accepted (first ++ second) = accepted first ++ accepted second := by
  rw [accepted, judgements_append, List.filter_append, List.map_append]
  rfl

theorem rejected_append : rejected (first ++ second) = rejected first + rejected second := by
  rw [rejected, judgements_append, List.countP_append]
  rfl

theorem accepted_eq_nil {events : List (Event σ)} (h : judgements events = []) :
    accepted events = [] := by
  rw [accepted, h]
  rfl

theorem rejected_eq_zero {events : List (Event σ)} (h : judgements events = []) :
    rejected events = 0 := by
  rw [rejected, h]
  rfl

theorem length_accepted_add_rejected (events : List (Event σ)) :
    (accepted events).length + rejected events = (judgements events).length := by
  rw [accepted, rejected, List.length_map, ← List.countP_eq_length_filter]
  induction judgements events with
  | nil => rfl
  | cons j judgements ih =>
    rw [List.countP_cons, List.countP_cons, List.length_cons, ← ih]
    cases j.verdict <;> simp <;> omega

/-- Frames of one source, as a receive pass puts them into the history. -/
theorem judgements_map_frame (source : ConnectionId) (frames : List Bytes) (verdict : Verdict) :
    judgements (frames.map (.frame source · verdict) : List (Event σ))
      = frames.map (⟨source, ·, verdict⟩) := by
  rw [judgements, List.filterMap_map]
  exact List.filterMap_eq_map ▸ rfl

theorem accepted_map_frame (source : ConnectionId) (frames : List Bytes) (verdict : Verdict) :
    accepted (frames.map (.frame source · verdict) : List (Event σ))
      = if verdict = .accept then frames.map (source, ·) else [] := by
  rw [accepted, judgements_map_frame]
  split
  · rename_i haccept
    rw [List.filter_eq_self.2 (by simp [haccept]), List.map_map]
    rfl
  · rename_i hreject
    rw [List.filter_eq_nil_iff.2 (by simp [hreject]), List.map_nil]

theorem rejected_map_frame (source : ConnectionId) (frames : List Bytes) (verdict : Verdict) :
    rejected (frames.map (.frame source · verdict) : List (Event σ))
      = if verdict = .reject then frames.length else 0 := by
  rw [rejected, judgements_map_frame, List.countP_map]
  split
  · rename_i hreject
    exact List.countP_eq_length.2 (by simp [hreject])
  · rename_i haccept
    exact List.countP_eq_zero.2 (by simp [haccept])

/-- A history in which no source completes a frame has nothing to judge. -/
theorem judgements_eq_nil {events : List (Event σ)} (h : ∀ id, framesOf id events = []) :
    judgements events = [] := by
  refine List.filterMap_eq_nil_iff.2 fun event hevent ↦ ?_
  cases event with
  | frame source payload verdict =>
    have hnone := List.filterMap_eq_nil_iff.1 (h source) _ hevent
    rw [Event.frameOf, if_pos rfl] at hnone
    cases hnone
  | _ => rfl

theorem Silent.judgements_eq_nil [Network W σ] {events : List (Event σ)} (h : Silent W events) :
    judgements events = [] :=
  StreamRtp.judgements_eq_nil fun id ↦ (h id).1

end Histories

/-! ## Packets handed out -/

/-- Where a packet came from, and its payload. -/
def Packet.origin (p : Packet) : ConnectionId × Bytes := (p.source, p.data)

/-- The packet that a call hands out. -/
def Performed.packet? (p : Performed σ) : Option Packet :=
  match p.call, p.result with
  | .nextPacket, .ok (.packet packet) => some packet
  | _, _ => none

/-- The packets that calls have handed out, in order. -/
def handedOut (history : List (Performed σ)) : List Packet := history.filterMap (·.packet?)

/-- The packets that wait. There are none before creation. -/
def Lifecycle.queue : Lifecycle σ → List Packet
  | created core => core.queue
  | _ => []

/-! ## One call -/

/-- How a queue and a number of rejected frames come out of a core by what a history judges. -/
structure Booked (core : Core σ) (queue : List Packet) (dropped : Nat) (events : List (Event σ)) :
    Prop where
  queue : ∃ arrived, queue = core.queue ++ arrived ∧ arrived.map Packet.origin = accepted events
  dropped : dropped = core.dropped + rejected events
  verdict : ∀ j ∈ judgements events, j.verdict = core.filter.decision j.source

/-- What a call makes of the queue of a created engine and of its count of rejected frames. -/
inductive QueueStep (before : Core σ) (p : Performed σ) (after : Core σ) : Prop where
  /-- Nothing, and no frame is completed. -/
  | rest (hqueue : after.queue = before.queue) (hdropped : after.dropped = before.dropped)
    (hjudgements : judgements p.events = []) (hpacket : p.packet? = none)
  /-- The first packet is handed out. -/
  | take (packet : Packet) (hcall : p.call = .nextPacket)
    (hqueue : before.queue = packet :: after.queue) (hdropped : after.dropped = before.dropped)
    (hjudgements : judgements p.events = []) (hpacket : p.packet? = some packet)
  /-- Frames are completed and judged by the filter of the moment. The accepted ones go to the end
  of the queue, the rejected ones are counted. -/
  | receive (hcall : p.call = .poll) (hbooked : Booked before after.queue after.dropped p.events)
    (hpacket : p.packet? = none)

namespace Booked

variable {core : Core σ} {queue : List Packet} {dropped : Nat} {events more : List (Event σ)}

theorem nil (core : Core σ) : Booked core core.queue core.dropped [] where
  queue := ⟨[], (List.append_nil _).symm, rfl⟩
  dropped := rfl
  verdict := nofun

/-- Only what a history judges matters. -/
theorem congr (h : Booked core queue dropped events) (hmore : judgements more = judgements events) :
    Booked core queue dropped more := by
  refine ⟨?_, ?_, ?_⟩
  · rw [accepted, hmore]
    exact h.queue
  · rw [rejected, hmore]
    exact h.dropped
  · rw [hmore]
    exact h.verdict

theorem append_of_nil (h : Booked core queue dropped events) (hmore : judgements more = []) :
    Booked core queue dropped (events ++ more) :=
  h.congr (by rw [judgements_append, hmore, List.append_nil])

/-- Completed frames of one source are booked by their delivery. -/
theorem deliver {pass : ReceivePass W σ} (h : Booked core pass.queue pass.dropped pass.events)
    (now : Nat) (id : ConnectionId) (frames : List Bytes) :
    Booked core (pass.deliver core.filter now id frames).queue
      (pass.deliver core.filter now id frames).dropped
      (pass.deliver core.filter now id frames).events := by
  obtain ⟨⟨arrived, hqueue, harrived⟩, hdropped, hverdict⟩ := h
  rw [ReceivePass.deliver]
  have hne : Verdict.accept ≠ .reject := by decide
  generalize hdecision : core.filter.decision id = verdict
  have hall : ∀ j ∈ judgements (pass.events ++ frames.map (.frame id · verdict)),
      j.verdict = core.filter.decision j.source := by
    intro j hj
    rw [judgements_append, judgements_map_frame, List.mem_append] at hj
    rcases hj with hj | hj
    · exact hverdict j hj
    · obtain ⟨payload, -, rfl⟩ := List.mem_map.1 hj
      exact hdecision.symm
  cases verdict with
  | accept =>
    refine ⟨⟨arrived ++ frames.map fun payload ↦ ⟨payload, id, now⟩, ?_, ?_⟩, ?_, hall⟩
    · simp only [hqueue, List.append_assoc]
    · rw [accepted_append, accepted_map_frame, if_pos rfl, List.map_append, harrived, List.map_map]
      rfl
    · rw [rejected_append, rejected_map_frame, if_neg hne, Nat.add_zero]
      exact hdropped
  | reject =>
    refine ⟨⟨arrived, hqueue, ?_⟩, ?_, hall⟩
    · rw [accepted_append, accepted_map_frame, if_neg hne.symm, List.append_nil, harrived]
    · rw [rejected_append, rejected_map_frame, if_pos rfl, ← Nat.add_assoc, ← hdropped]

end Booked

namespace Core

variable [Network W σ] (core : Core σ)

omit [Network W σ] in
theorem judgements_reportDrop (id : ConnectionId) (reason : DropReason) :
    judgements (core.reportDrop id reason) = [] := by
  rw [reportDrop]
  split <;> rfl

/-- The visit of a receive pass books what it completes. -/
theorem booked_visitReady (now : Nat) (id : ConnectionId) (c : Connection σ)
    (s : List Bool × ReceivePass W σ) (h : Booked core s.2.queue s.2.dropped s.2.events) :
    Booked core (core.visitReady now id c s).2.2.queue (core.visitReady now id c s).2.2.dropped
      (core.visitReady now id c s).2.2.events := by
  obtain ⟨flags, pass⟩ := s
  match flags with
  | [] => exact h
  | false :: flags => exact h
  | true :: flags =>
    have hgot := judgements_eq_nil (c.receive_spec pass.buffer pass.world).1
    rw [visitReady]
    generalize c.receive pass.buffer pass.world = got at hgot
    let read : ReceivePass W σ :=
      { pass with world := got.world, buffer := got.buffer, events := pass.events ++ got.events }
    have hread : Booked core read.queue read.dropped read.events := h.append_of_nil hgot
    have hdelivered := hread.deliver now id got.frames
    cases got.failure with
    | none => exact hdelivered
    | some reason => exact hdelivered.append_of_nil (core.judgements_reportDrop id reason)

/-- The walk of a receive pass books what it completes. -/
theorem booked_receiveReady (flags : List Bool) (w : W) :
    Booked core (core.receiveReady flags w).1.queue (core.receiveReady flags w).1.dropped
      (core.receiveReady flags w).2.2 := by
  let start : List Bool × ReceivePass W σ :=
    (flags, ⟨w, core.readBuffer, core.queue, core.dropped, []⟩)
  have hwalk := sweep_induction (core.booked_visitReady (Network.now w))
    core.destinations.toList (s := start) (Booked.nil core)
  rwa [← (Registry.scan_eq_sweep (core.visitReady (Network.now w)) core.destinations start).2]
    at hwalk

/-- A receive pass books what it completes. -/
theorem booked_poll (w : W) :
    Booked core (core.poll w).core.queue (core.poll w).core.dropped (core.poll w).events := by
  rw [poll]
  split
  · exact .nil core
  dsimp only
  split
  · exact (Booked.nil core).append_of_nil rfl
  · split
    · exact (Booked.nil core).append_of_nil rfl
    · rename_i answer w' _ _
      exact (core.booked_receiveReady _ w').congr rfl

/-! ## Calls that leave the queue alone -/

omit [Network W σ] in
theorem judgements_logged (log : List LogEntry) :
    judgements (logged log : List (Event σ)) = [] := by
  rw [judgements, logged, List.filterMap_map]
  exact List.filterMap_eq_nil_iff.2 fun _ _ ↦ rfl

/-- A call of a core that leaves the queue and the count alone and judges nothing. -/
structure KeepsQueue (out : CoreOutcome W σ α) : Prop where
  queue : out.core.queue = core.queue
  dropped : out.core.dropped = core.dropped
  judgements : judgements out.events = []

omit [Network W σ] in
theorem keepsQueue_done {changed : Core σ} (w : W) (a : α) (log : List LogEntry)
    (hqueue : changed.queue = core.queue) (hdropped : changed.dropped = core.dropped) :
    core.KeepsQueue (changed.done w a log) :=
  ⟨hqueue, hdropped, judgements_logged log⟩

omit [Network W σ] in
theorem keepsQueue_refused (w : W) (e : TransmitError) :
    core.KeepsQueue (core.refused w e : CoreOutcome W σ α) := ⟨rfl, rfl, rfl⟩

theorem keepsQueue_addDestination (stream : σ) (w : W) :
    core.KeepsQueue (core.addDestination stream w) := by
  rw [addDestination]
  dsimp only
  repeat' split
  all_goals exact ⟨rfl, rfl, rfl⟩

omit [Network W σ] in
theorem keepsQueue_deleteDestination (id : ConnectionId) (w : W) :
    core.KeepsQueue (core.deleteDestination id w) := by
  rw [deleteDestination]
  split
  · exact core.keepsQueue_done w _ _ rfl rfl
  · exact core.keepsQueue_refused w _
  · exact core.keepsQueue_refused w _

omit [Network W σ] in
theorem keepsQueue_deleteIgnored (id : ConnectionId) (w : W) :
    core.KeepsQueue (core.deleteIgnored id w) := by
  rw [deleteIgnored]
  split
  · exact core.keepsQueue_done w _ _ rfl rfl
  · exact core.keepsQueue_refused w _

omit [Network W σ] in
theorem keepsQueue_deleteAccepted (id : ConnectionId) (w : W) :
    core.KeepsQueue (core.deleteAccepted id w) := by
  rw [deleteAccepted]
  split
  · exact core.keepsQueue_done w _ _ rfl rfl
  · exact core.keepsQueue_refused w _

theorem judgements_visitWrite (frame : Bytes) (id : ConnectionId) (c : Connection σ)
    (pass : SendPass W σ) (h : judgements pass.events = []) :
    judgements (core.visitWrite frame id c pass).2.events = [] := by
  rw [visitWrite]
  split
  · rw [judgements_append, h]
    rfl
  · rw [judgements_append, h]
    exact core.judgements_reportDrop id _

theorem keepsQueue_send (payload : Bytes) (w : W) : core.KeepsQueue (core.send payload w) := by
  rw [send]
  split
  · exact ⟨rfl, rfl, rfl⟩
  · split
    · exact ⟨rfl, rfl, rfl⟩
    · rename_i frame _
      have hwalk := sweep_induction (P := fun pass : SendPass W σ ↦ judgements pass.events = [])
        (core.judgements_visitWrite frame) core.destinations.toList (s := ⟨w, none, []⟩) rfl
      rw [← (Registry.scan_eq_sweep (core.visitWrite frame) core.destinations _).2] at hwalk
      exact ⟨rfl, rfl, hwalk⟩

end Core

/-! ## All calls -/

namespace Scene

variable [Network W σ] (scene : Scene W σ) {core : Core σ}

section Created

variable (hcreated : scene.engine.lifecycle = .created core)

include hcreated

omit [Network W σ] in
theorem withCore_of_created (f : Core σ → W → CoreOutcome W σ α) :
    scene.withCore f = ⟨(f core scene.world).result,
      { scene with
        engine := { scene.engine with lifecycle := .created (f core scene.world).core }
        world := (f core scene.world).world },
      (f core scene.world).events⟩ := by
  rw [withCore, hcreated]
  rfl

omit [Network W σ] in
/-- A call of a core that leaves the queue alone. -/
theorem queueStep_withCore {call : Call σ} {f : Core σ → W → CoreOutcome W σ α}
    {result : Except TransmitError (Reply σ)} (hkeeps : ∀ w, core.KeepsQueue (f core w))
    (hpacket : (⟨call, result, (scene.withCore f).events⟩ : Performed σ).packet? = none) :
    ∃ after, (scene.withCore f).scene.engine.lifecycle = .created after ∧
      QueueStep core ⟨call, result, (scene.withCore f).events⟩ after := by
  rw [scene.withCore_of_created hcreated] at hpacket ⊢
  obtain ⟨hqueue, hdropped, hjudgements⟩ := hkeeps scene.world
  exact ⟨_, rfl, .rest hqueue hdropped hjudgements hpacket⟩

omit [Network W σ] in
/-- A call that leaves the stage alone and judges nothing. -/
theorem queueStep_of_frame {p : Performed σ} {out : Scene W σ}
    (hstage : out.engine.lifecycle = scene.engine.lifecycle)
    (hjudgements : judgements p.events = []) (hpacket : p.packet? = none) :
    ∃ after, out.engine.lifecycle = .created after ∧ QueueStep core p after :=
  ⟨core, hstage.trans hcreated, .rest rfl rfl hjudgements hpacket⟩

theorem queueStep_nextPacket : ∃ after,
    (scene.perform .nextPacket).scene.engine.lifecycle = .created after ∧
      QueueStep core (scene.performed .nextPacket) after := by
  rw [performed, perform, scene.withCore_of_created hcreated, Core.nextPacket]
  cases hqueue : core.queue with
  | nil => exact ⟨core, rfl, .rest rfl rfl rfl rfl⟩
  | cons packet queue => exact ⟨_, rfl, .take packet rfl hqueue rfl rfl rfl⟩

theorem queueStep_poll : ∃ after,
    (scene.perform .poll).scene.engine.lifecycle = .created after ∧
      QueueStep core (scene.performed .poll) after := by
  rw [performed, perform, scene.withCore_of_created hcreated]
  exact ⟨_, rfl, .receive rfl (core.booked_poll scene.world) rfl⟩

/-- What any call but the destruction makes of the queue of a created engine. -/
theorem perform_queueStep (call : Call σ) (hcall : call ≠ .destroy) : ∃ after,
    (scene.perform call).scene.engine.lifecycle = .created after ∧
      QueueStep core (scene.performed call) after := by
  cases call with
  | init threadSafe =>
    rw [performed, perform, init, hcreated]
    exact ⟨core, hcreated, .rest rfl rfl rfl rfl⟩
  | create size params =>
    rw [performed, perform, create, hcreated]
    exact ⟨core, hcreated, .rest rfl rfl rfl rfl⟩
  | destroy => exact absurd rfl hcall
  | addDestination stream =>
    exact scene.queueStep_withCore hcreated (core.keepsQueue_addDestination stream) rfl
  | deleteDestination id =>
    exact scene.queueStep_withCore hcreated (core.keepsQueue_deleteDestination id) rfl
  | clearDestinations =>
    rw [performed, perform, clearDestinations, hcreated]
    exact scene.queueStep_withCore hcreated (fun w ↦ core.keepsQueue_done w _ _ rfl rfl) rfl
  | poll => exact scene.queueStep_poll hcreated
  | wait timeout =>
    obtain ⟨hstage, hsilent⟩ := scene.wait_frame timeout
    exact scene.queueStep_of_frame hcreated hstage hsilent.judgements_eq_nil rfl
  | abortWait =>
    obtain ⟨hstage, hsilent⟩ := scene.abortWait_frame
    exact scene.queueStep_of_frame hcreated hstage hsilent.judgements_eq_nil rfl
  | sendRtp payload | sendRtcp payload =>
    exact scene.queueStep_withCore hcreated (core.keepsQueue_send payload) rfl
  | nextPacket => exact scene.queueStep_nextPacket hcreated
  | isThreadSafe | newDataAvailable | supportsMulticasting | leaveAllGroups | headerOverhead =>
    exact scene.queueStep_of_frame hcreated rfl rfl rfl
  | joinGroup address | leaveGroup address => exact scene.queueStep_of_frame hcreated rfl rfl rfl
  | deleteIgnored id =>
    exact scene.queueStep_withCore hcreated (core.keepsQueue_deleteIgnored id) rfl
  | deleteAccepted id =>
    exact scene.queueStep_withCore hcreated (core.keepsQueue_deleteAccepted id) rfl
  | destinations | clearIgnored | clearAccepted | maxPacketSize | droppedPackets =>
    exact scene.queueStep_withCore hcreated (fun w ↦ core.keepsQueue_done w _ _ rfl rfl) rfl
  | setReceiveMode mode =>
    exact scene.queueStep_withCore hcreated (fun w ↦ core.keepsQueue_done w _ _ rfl rfl) rfl
  | addIgnored id | addAccepted id =>
    exact scene.queueStep_withCore hcreated (fun w ↦ core.keepsQueue_done w _ _ rfl rfl) rfl
  | setMaxPacketSize size =>
    exact scene.queueStep_withCore hcreated (fun w ↦ core.keepsQueue_done w _ _ rfl rfl) rfl

end Created

/-! ## Runs -/

/-- What a run makes of the queue: the packets that were handed out and those that wait are those
that waited before, and then those that were accepted. -/
theorem run_booked (hcreated : scene.engine.lifecycle = .created core) (calls : List (Call σ))
    (hcalls : ∀ call ∈ calls, call ≠ .destroy) : ∃ after arrived,
      (scene.run calls).2.engine.lifecycle = .created after ∧
        handedOut (scene.run calls).1 ++ after.queue = core.queue ++ arrived ∧
        arrived.map Packet.origin = accepted ((scene.run calls).1.flatMap (·.events)) ∧
        after.dropped = core.dropped + rejected ((scene.run calls).1.flatMap (·.events)) := by
  induction calls generalizing scene core with
  | nil => exact ⟨core, [], hcreated, (List.append_nil _).symm, rfl, rfl⟩
  | cons call calls ih =>
    obtain ⟨hcall, hcalls⟩ := List.forall_mem_cons.1 hcalls
    obtain ⟨middle, hmiddle, hstep⟩ := scene.perform_queueStep hcreated call hcall
    obtain ⟨after, arrived, hafter, hqueue, harrived, hdropped⟩ := ih _ hmiddle hcalls
    rw [run_cons]
    simp only [List.flatMap_cons, accepted_append, rejected_append, handedOut]
    cases hstep with
    | rest hsame hcount hjudgements hpacket =>
      refine ⟨after, arrived, hafter, ?_, ?_, ?_⟩
      · rw [List.filterMap_cons_none hpacket, ← hsame]
        exact hqueue
      · rw [accepted_eq_nil hjudgements]
        exact harrived
      · rw [hdropped, hcount, rejected_eq_zero hjudgements, Nat.zero_add]
    | take packet hnext hfirst hcount hjudgements hpacket =>
      refine ⟨after, arrived, hafter, ?_, ?_, ?_⟩
      · rw [List.filterMap_cons_some hpacket, hfirst, List.cons_append, List.cons_append]
        exact congrArg (packet :: ·) hqueue
      · rw [accepted_eq_nil hjudgements]
        exact harrived
      · rw [hdropped, hcount, rejected_eq_zero hjudgements, Nat.zero_add]
    | receive hpoll hbooked hpacket =>
      obtain ⟨first, hfirst, horigin⟩ := hbooked.queue
      refine ⟨after, first ++ arrived, hafter, ?_, ?_, ?_⟩
      · rw [List.filterMap_cons_none hpacket, ← List.append_assoc, ← hfirst]
        exact hqueue
      · rw [List.map_append, horigin, harrived]
      · rw [hdropped, hbooked.dropped, Nat.add_assoc]

omit [Network W σ] in
/-- A new engine has an empty queue and has rejected nothing. -/
theorem created_of_create {scene : Scene W σ} {size : Nat} {params : CreationParams}
    (h : (scene.create size params).result = .ok ()) : ∃ core,
      (scene.create size params).scene.engine.lifecycle = .created core ∧ core.queue = [] ∧
        core.dropped = 0 := by
  rw [create] at h ⊢
  split
  · rename_i hstage
    rw [hstage] at h
    cases h
  · rename_i hstage
    rw [hstage] at h
    cases h
  · rename_i hstage
    rw [hstage] at h
    dsimp only at h ⊢
    split
    · rename_i habort
      rw [if_pos habort] at h
      cases h
    · exact ⟨_, rfl, rfl, rfl⟩

omit [Network W σ] in
/-- A packet is announced if there is one. -/
theorem newDataAvailable_of_created (hcreated : scene.engine.lifecycle = .created core) :
    scene.newDataAvailable = true ↔ core.queue ≠ [] := by
  rw [newDataAvailable, hcreated]
  change (!core.queue.isEmpty) = true ↔ _
  rw [Bool.not_eq_true', List.isEmpty_eq_false_iff]

theorem nextPacket_of_created (hcreated : scene.engine.lifecycle = .created core) :
    (∃ packet, (scene.perform .nextPacket).result = .ok (.packet packet)) ↔ core.queue ≠ [] := by
  rw [perform, scene.withCore_of_created hcreated, Core.nextPacket]
  cases core.queue with
  | nil =>
    refine ⟨?_, fun h ↦ absurd rfl h⟩
    rintro ⟨packet, h⟩
    cases h
  | cons packet queue => exact ⟨fun _ ↦ List.cons_ne_nil _ _, fun _ ↦ ⟨packet, rfl⟩⟩

/-- In a run of a created engine the packets that were handed out and those that wait are the
accepted frames in the order of their completion, the number of dropped packets is the number of
rejected frames, every call makes one step of the queue, and a packet is announced exactly if the
next one can be had. -/
theorem queue_conserved (scene : Scene W σ) (size : Nat) (params : CreationParams)
    (hcreate : (scene.create size params).result = .ok ()) (calls : List (Call σ))
    (hcalls : ∀ call ∈ calls, call ≠ .destroy) :
    let start := (scene.create size params).scene
    let events := (start.run calls).1.flatMap (·.events)
    let last := (start.run calls).2
    (handedOut (start.run calls).1 ++ last.engine.lifecycle.queue).map Packet.origin
        = accepted events ∧
      (last.perform .droppedPackets).result = .ok (.number (rejected events)) ∧
      (accepted events).length + rejected events = (judgements events).length ∧
      (∀ earlier call later, calls = earlier ++ call :: later → ∃ before after,
        (start.run earlier).2.engine.lifecycle = .created before ∧
          ((start.run earlier).2.perform call).scene.engine.lifecycle = .created after ∧
          QueueStep before ((start.run earlier).2.performed call) after) ∧
      ((last.perform .newDataAvailable).result = .ok (.flag true) ↔
        ∃ packet, (last.perform .nextPacket).result = .ok (.packet packet)) := by
  obtain ⟨core, hcreated, hempty, hzero⟩ := created_of_create hcreate
  intro start events last
  obtain ⟨after, arrived, hafter, hqueue, harrived, hdropped⟩ :=
    start.run_booked hcreated calls hcalls
  rw [hempty, List.nil_append] at hqueue
  rw [hzero, Nat.zero_add] at hdropped
  refine ⟨?_, ?_, length_accepted_add_rejected events, ?_, ?_⟩
  · rw [hafter, Lifecycle.queue, hqueue, harrived]
  · rw [perform, last.withCore_of_created hafter, ← hdropped]
    rfl
  · rintro earlier call later rfl
    obtain ⟨hearlier, hcall, -⟩ := List.forall_mem_append.1 hcalls |>.imp_right
      List.forall_mem_cons.1
    obtain ⟨before, -, hbefore, -⟩ := start.run_booked hcreated earlier hearlier
    obtain ⟨next, hnext, hstep⟩ := (start.run earlier).2.perform_queueStep hbefore call hcall
    exact ⟨before, next, hbefore, hnext, hstep⟩
  · rw [last.nextPacket_of_created hafter, ← last.newDataAvailable_of_created hafter, perform,
      answer]
    simp only [Except.ok.injEq, Reply.flag.injEq]

/-- Two streams with two reads each. The second read of the first stream finds its end. -/
def ledgerWorld : Scripted.World :=
  ⟨[("a", ⟨[.data [0, 1, 9, 0, 1, 8] none], true, [], none⟩),
    ("b", ⟨[.data [0, 1, 7] none, .data [0, 1, 6] none], false, [], none⟩)], []⟩

/-- An engine that is about to be created. -/
def ledgerScene : Scene Scripted.World Scripted.Stream :=
  ((⟨.new, [], ledgerWorld⟩ : Scene Scripted.World Scripted.Stream).run [.init false]).2

/-- Between the two receive passes the second stream is ignored. -/
def ledgerCalls : List (Call Scripted.Stream) :=
  [.addDestination ⟨"a", ⟨1⟩⟩, .addDestination ⟨"b", ⟨2⟩⟩, .poll, .addIgnored ⟨2⟩, .nextPacket,
    .poll]

theorem ledgerCalls_conserved :
    let start := (ledgerScene.create 4 ⟨none, true, .rejectIgnoreListed⟩).scene
    let last := (start.run ledgerCalls).2
    (handedOut (start.run ledgerCalls).1).map Packet.origin = [(⟨1⟩, [9])] ∧
      (handedOut (start.run ledgerCalls).1 ++ last.engine.lifecycle.queue).map Packet.origin
        = [(⟨1⟩, [9]), (⟨1⟩, [8]), (⟨2⟩, [7])] ∧
      (last.perform .droppedPackets).result = .ok (.number 1) := by
  have hcreate : (ledgerScene.create 4 ⟨none, true, .rejectIgnoreListed⟩).result = .ok () := rfl
  have hcalls : ∀ call ∈ ledgerCalls, call ≠ .destroy := by
    simp only [ledgerCalls, List.forall_mem_cons, List.not_mem_nil, false_imp_iff, implies_true]
    exact ⟨nofun, nofun, nofun, nofun, nofun, nofun, trivial⟩
  intro start last
  have haccepted : accepted ((start.run ledgerCalls).1.flatMap (·.events))
      = [(⟨1⟩, [9]), (⟨1⟩, [8]), (⟨2⟩, [7])] := by decide +kernel
  have hrejected : rejected ((start.run ledgerCalls).1.flatMap (·.events)) = 1 := by decide +kernel
  obtain ⟨hqueue, hdropped, -⟩ := queue_conserved ledgerScene 4 _ hcreate ledgerCalls hcalls
  rw [haccepted] at hqueue
  rw [hrejected] at hdropped
  exact ⟨by decide +kernel, hqueue, hdropped⟩

end Scene

end StreamRtp
