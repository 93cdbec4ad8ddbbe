import StreamRtp.CommandLine.Rehearsal
import StreamRtp.Proofs.FanOut
import StreamRtp.Proofs.Projection

/-!
# A sender and its connection

A sender writes its packets over one connection, which it looks at after each packet. A write that
fails ends it, and so does a poller that fails. But a connection that is lost while it is looked at
is lost without the sender's knowledge: it goes on without anybody to send to, and succeeds.

`Errand` lists these ways to fare by their milestones. `Leg` does so for one packet, from what a
fan-out and a receive pass do to an engine with one connection, and `packets_errand` puts the legs
together.
-/

namespace StreamRtp

variable {W σ : Type}

/-! ## An engine with one connection -/

/-- What can come of a receive pass over one connection. -/
inductive Look (id : ConnectionId) (stream : σ) (out : CoreOutcome W σ Unit) : Prop
  /-- The poller fails. -/
  | failed (cause : IoError) (hresult : out.result = .error (.io cause))
    (hevents : milestones out.events = [.outage cause])
  | kept (c : Connection σ) (hstream : c.stream = stream) (hresult : out.result = .ok ())
    (hlist : out.core.destinations.toList = [(id, c)]) (hevents : milestones out.events = [])
  /-- The connection is given up, which is not on account of a write. -/
  | lost (reason : DropReason) (hreason : ∀ cause, reason ≠ .send cause)
    (hresult : out.result = .ok ()) (hlist : out.core.destinations.toList = [])
    (hevents : milestones out.events = [.dropped id reason])

/-- What can come of a fan-out to one connection. -/
inductive Dispatch (id : ConnectionId) (frame : Bytes) (c : Connection σ)
    (out : CoreOutcome W σ Unit) : Prop
  | written (hresult : out.result = .ok ()) (hlist : out.core.destinations.toList = [(id, c)])
    (hevents : milestones out.events = [.wrote ⟨c.stream, frame, .ok ()⟩])
  | unwritten (cause : IoError) (hresult : out.result = .error (.send id cause))
    (hevents : milestones out.events
      = [.wrote ⟨c.stream, frame, .error cause⟩, .dropped id (.send cause.duplicate)])

/-- The reason for which a connection is given up when it is read is no failed write. -/
theorem Connection.failure_receive_ne_send [Network W σ] (c : Connection σ) (buffer : Bytes) (w : W)
    (cause : IoError) : (c.receive buffer w).failure ≠ some (.send cause) := by
  obtain ⟨⟨available, data, written⟩, -, hfailure, -⟩ := c.receive_settle buffer w
  rw [hfailure]
  match available, data with
  | .error e, data => simp [settle]
  | .ok 0, data => simp [settle]
  | .ok (n + 1), .ok [] => simp [settle]
  | .ok (n + 1), .error e =>
    simp only [settle]
    cases e.isTransient <;> simp
  | .ok (n + 1), .ok (b :: bytes) =>
    simp only [settle]
    cases (c.assembler.push (b :: bytes)).1.error <;> simp

namespace Core

variable [Network W σ] {core : Core σ} {id : ConnectionId} {c : Connection σ}

theorem poll_of_nil (h : core.destinations.toList = []) (w : W) :
    core.poll w = ⟨.ok (), core, w, []⟩ :=
  if_pos (core.destinations.isEmpty_iff.2 h)

theorem look_poll (h : core.destinations.toList = [(id, c)]) (w : W) :
    Look id c.stream (core.poll w) := by
  have hsome : core.destinations.isEmpty = false :=
    Bool.eq_false_iff.2 fun hempty ↦ by
      cases h.symm.trans (core.destinations.isEmpty_iff.1 hempty)
  rcases hasked : Network.waitReady (core.streams.map .stream) .zero w with
    ⟨⟨cause⟩ | ⟨answer⟩, w'⟩
  · rw [poll_of_error hsome hasked]
    exact .failed cause rfl rfl
  rw [poll, hsome, if_neg Bool.false_ne_true]
  dsimp only
  rw [hasked]
  dsimp only
  split
  · exact .kept c rfl rfl h rfl
  obtain ⟨hlist, -, hlast⟩ := core.receiveReady_eq_walk
    (Readiness.fit (core.streams.map Handle.stream).length answer.flags) w'
  rw [walk, h, sweep, sweep, List.append_nil] at hlist hlast
  have hevents := congrArg Prod.snd hlast
  have hcases := core.visitReady_cases (Network.now w') id c
    (Readiness.fit (core.streams.map Handle.stream).length answer.flags,
      ⟨w', core.readBuffer, core.queue, core.dropped, []⟩)
  rcases hcases with ⟨-, hkeep, hvisit⟩ | ⟨-, hkeep, hvisit⟩
  · rw [hkeep] at hlist
    rw [hvisit] at hevents
    refine .kept c rfl rfl hlist ?_
    rw [hevents]
    rfl
  · rw [hkeep, Connection.afterReading] at hlist
    rw [hvisit] at hevents
    have hreceipt := core.milestones_receipt id (c.reads_receive core.readBuffer w')
    have hreason := c.failure_receive_ne_send core.readBuffer w'
    cases hfailure : (c.receive core.readBuffer w').failure with
    | none =>
      rw [hfailure] at hlist hreceipt
      refine .kept { c with assembler := (c.receive core.readBuffer w').assembler } rfl rfl hlist ?_
      rw [hevents]
      exact hreceipt
    | some reason =>
      rw [hfailure] at hlist hreceipt hreason
      refine .lost reason (fun cause h ↦ hreason cause (congrArg some h)) rfl hlist ?_
      rw [hevents]
      exact hreceipt

/-- A fan-out to nobody does nothing. -/
theorem send_of_nil (h : core.destinations.toList = []) {payload : Bytes}
    (hle : payload.length ≤ core.sendLimit) (w : W) :
    (core.send payload w).result = .ok () ∧ (core.send payload w).events = [] ∧
      (core.send payload w).core.destinations.toList = [] := by
  obtain ⟨routes, hout, -⟩ := core.exists_fanOut hle w
  have hnone : routes = [] := List.map_eq_nil_iff.1 (hout.everyone.trans h)
  refine ⟨?_, ?_, ?_⟩
  · rw [hout.result_eq, hnone]
    rfl
  · rw [hout.events_eq, hnone]
    rfl
  · rw [hout.kept, hnone]
    rfl

theorem dispatch_send (h : core.destinations.toList = [(id, c)]) {payload : Bytes}
    (hle : payload.length ≤ core.sendLimit) (w : W) :
    Dispatch id (Frame.wire payload) c (core.send payload w) := by
  obtain ⟨routes, hout, -⟩ := core.exists_fanOut hle w
  obtain ⟨⟨e, answer⟩, rfl, rfl⟩ := List.map_eq_singleton_iff.1 (hout.everyone.trans h)
  have hevents : milestones (core.send payload w).events
      = milestones (core.postage id c.stream (Frame.wire payload) answer) := by
    rw [hout.events_eq, List.flatMap_singleton]
  rw [core.milestones_postage] at hevents
  cases answer with
  | ok _ => exact .written hout.result_eq hout.kept hevents
  | error cause => exact .unwritten cause hout.result_eq hevents

theorem maxPacketSize_send (payload : Bytes) (w : W) :
    (core.send payload w).core.maxPacketSize = core.maxPacketSize := by
  rw [send]
  split
  · rfl
  · split <;> rfl

end Core

/-! ## The history of a command -/

namespace CommandLine

/-- The event of the engine. -/
def Activity.event? : Activity σ → Option (Event σ)
  | event e => some e
  | notice _ => none

namespace Journal

/-- The events of the engine, in order. -/
def history (j : Journal σ) : List (Event σ) := j.reverse.filterMap Activity.event?

@[simp] theorem history_notice (j : Journal σ) (n : Notice) : (j.notice n).history = j.history := by
  rw [history, notice, List.reverse_cons, List.filterMap_append]
  exact List.append_nil _

@[simp] theorem history_events (j : Journal σ) (es : List (Event σ)) :
    (j.events es).history = j.history ++ es := by
  rw [history, events_eq, List.reverse_append, List.reverse_reverse, List.filterMap_append,
    List.filterMap_map]
  exact congrArg (j.history ++ ·) (List.filterMap_some ..)

/-- Notices are no events. -/
theorem history_foldl_notice {α : Type} (f : α → Notice) (l : List α) (j : Journal σ) :
    (l.foldl (fun j a ↦ j.notice (f a)) j).history = j.history := by
  induction l generalizing j with
  | nil => rfl
  | cons a l ih => rw [List.foldl_cons, ih, history_notice]

end Journal

end CommandLine

/-! ## One packet -/

/-- The packets that a source builds next if its clock moves on by a step after each of them. The
last one carries the marker. -/
def Rtp.Source.upcoming (payload : Bytes) (step : UInt32) : Nat → Rtp.Source → List Bytes
  | 0, _ => []
  | remaining + 1, source =>
    let (packet, source) := source.packet (remaining = 0) payload
    packet :: upcoming payload step remaining (source.advance step)

theorem Rtp.Source.length_upcoming (payload : Bytes) (step : UInt32) (count : Nat)
    (source : Rtp.Source) : (source.upcoming payload step count).length = count := by
  induction count generalizing source with
  | zero => rfl
  | succ count ih => exact congrArg (· + 1) (ih _)

theorem Rtp.Source.length_packet (source : Rtp.Source) (marker : Bool) (payload : Bytes) :
    (source.packet marker payload).1.length = headerLength + payload.length := by
  rw [packet, List.length_append, length_header]

/-- The write of a packet, if it does not fail. -/
def Posting.sent (stream : σ) (packet : Bytes) : Posting σ := ⟨stream, Frame.wire packet, .ok ()⟩

/-- The milestone of a packet that is written. -/
def Milestone.sent (stream : σ) (packet : Bytes) : Milestone σ := .wrote (.sent stream packet)

/-- How one packet over one connection can fare: the milestones, the result, and which connections
are left. -/
inductive Leg (id : ConnectionId) (stream : σ) (packet : Bytes) :
    List (Milestone σ) → Except TransmitError Unit → List (ConnectionId × Connection σ) → Prop
  | kept (c : Connection σ) (hstream : c.stream = stream) :
    Leg id stream packet [.sent stream packet] (.ok ()) [(id, c)]
  | lost (reason : DropReason) (hreason : ∀ cause, reason ≠ .send cause) :
    Leg id stream packet [.sent stream packet, .dropped id reason] (.ok ()) []
  | outage (cause : IoError) (left : List (ConnectionId × Connection σ)) :
    Leg id stream packet [.sent stream packet, .outage cause] (.error (.io cause)) left
  | unwritten (cause : IoError) (left : List (ConnectionId × Connection σ)) :
    Leg id stream packet
      [.wrote ⟨stream, Frame.wire packet, .error cause⟩, .dropped id (.send cause.duplicate)]
      (.error (.send id cause)) left

namespace CommandLine.Sender

variable [Network W σ] (s : State W σ) {id : ConnectionId} {c : Connection σ}
  {left : List (ConnectionId × Connection σ)}

omit [Network W σ] in
/-- Whether the engine of a sender has the limit of senders and these connections. -/
def State.Serves (left : List (ConnectionId × Connection σ)) : Prop :=
  ∃ core, s.scene.engine.lifecycle = .created core ∧ core.maxPacketSize = defaultMaxPacketSize ∧
    core.destinations.toList = left

omit [Network W σ] in
/-- Packets that come back concern neither the connections nor the history. -/
theorem State.takeEchoes_frame (h : s.Serves left) : s.takeEchoes.Serves left ∧
    s.takeEchoes.source = s.source ∧ s.takeEchoes.journal.history = s.journal.history := by
  obtain ⟨core, hcreated, hsize, hlist⟩ := h
  rw [takeEchoes, Scene.drain, hcreated]
  exact ⟨⟨_, rfl, hsize, hlist⟩, rfl, Journal.history_foldl_notice ..⟩

section Next

variable {core : Core σ} (last : Bool) {payload : Bytes} (step : UInt32)

/-- A packet that is not sent ends the sender. -/
theorem State.next_of_error (hcreated : s.scene.engine.lifecycle = .created core)
    {e : TransmitError}
    (hsent : (core.send (s.source.packet last payload).1 s.scene.world).result = .error e) :
    (s.next last payload step).1 = .error e ∧ (s.next last payload step).2.journal.history
      = s.journal.history ++ (core.send (s.source.packet last payload).1 s.scene.world).events := by
  rw [next]
  dsimp only
  rw [s.scene.withCore_of_created hcreated, hsent]
  exact ⟨rfl, Journal.history_events ..⟩

/-- A packet that is sent is followed by a receive pass. -/
theorem State.next_of_ok (hcreated : s.scene.engine.lifecycle = .created core)
    (hsize : core.maxPacketSize = defaultMaxPacketSize)
    (hsent : (core.send (s.source.packet last payload).1 s.scene.world).result = .ok ()) :
    let sent := core.send (s.source.packet last payload).1 s.scene.world
    let polled := sent.core.poll sent.world
    let out := s.next last payload step
    out.1 = polled.result ∧
      out.2.journal.history = s.journal.history ++ (sent.events ++ polled.events) ∧
      (polled.result = .ok () → out.2.Serves polled.core.destinations.toList ∧
        out.2.source = (s.source.packet last payload).2.advance step) := by
  intro sent polled out
  let looked : State W σ :=
    { s with
      scene :=
        { s.scene with
          engine := { s.scene.engine with lifecycle := .created polled.core }
          world := polled.world }
      source := (s.source.packet last payload).2.advance step
      journal := (s.journal.events sent.events).events polled.events }
  have hhistory : looked.journal.history = s.journal.history ++ (sent.events ++ polled.events) := by
    rw [Journal.history_events, Journal.history_events, List.append_assoc]
  have hserves : looked.Serves polled.core.destinations.toList :=
    ⟨polled.core, rfl, by rw [Core.maxPacketSize_poll, Core.maxPacketSize_send, hsize], rfl⟩
  change (s.next last payload step).1 = _ ∧ (s.next last payload step).2.journal.history = _ ∧
    (_ → (s.next last payload step).2.Serves _ ∧ (s.next last payload step).2.source = _)
  rw [next]
  dsimp only
  rw [s.scene.withCore_of_created hcreated, hsent]
  dsimp only
  rw [Scene.withCore_of_created _ rfl]
  cases polled.result with
  | error e => exact ⟨rfl, hhistory, nofun⟩
  | ok _ =>
    obtain ⟨hleft, hsource, htaken⟩ := looked.takeEchoes_frame hserves
    exact ⟨rfl, htaken.trans hhistory, fun _ ↦ ⟨hleft, hsource⟩⟩

/-- A packet that is too big is refused, and nothing happens. -/
theorem State.next_of_lt (h : s.Serves left)
    (hlt : defaultMaxPacketSize < Rtp.headerLength + payload.length) :
    (s.next last payload step).1
        = .error (.packetTooBig (Rtp.headerLength + payload.length) defaultMaxPacketSize) ∧
      (s.next last payload step).2.journal.history = s.journal.history := by
  obtain ⟨core, hcreated, hsize, -⟩ := h
  have hlimit : core.sendLimit = defaultMaxPacketSize := by
    rw [Core.sendLimit, hsize]
    rfl
  have hrefused := core.send_of_lt
    (hlimit ▸ (s.source.length_packet last payload).symm ▸ hlt) s.scene.world
  obtain ⟨hresult, hhistory⟩ :=
    s.next_of_error last step hcreated (congrArg CoreOutcome.result hrefused)
  rw [hlimit, s.source.length_packet] at hresult
  rw [hrefused] at hhistory
  exact ⟨hresult, hhistory.trans (List.append_nil _)⟩

omit [Network W σ] in
theorem State.fits (h : s.Serves left)
    (hle : Rtp.headerLength + payload.length ≤ defaultMaxPacketSize) :
    ∃ core, s.scene.engine.lifecycle = .created core ∧
      core.maxPacketSize = defaultMaxPacketSize ∧ core.destinations.toList = left ∧
      (s.source.packet last payload).1.length ≤ core.sendLimit := by
  obtain ⟨core, hcreated, hsize, hlist⟩ := h
  refine ⟨core, hcreated, hsize, hlist, ?_⟩
  rw [s.source.length_packet, Core.sendLimit, hsize]
  exact hle

/-- Without a connection nothing happens, and that is a success. -/
theorem State.next_of_deserted (h : s.Serves [])
    (hle : Rtp.headerLength + payload.length ≤ defaultMaxPacketSize) :
    (s.next last payload step).1 = .ok () ∧
      (s.next last payload step).2.journal.history = s.journal.history ∧
      (s.next last payload step).2.Serves [] := by
  obtain ⟨core, hcreated, hsize, hlist, hfits⟩ := s.fits last h hle
  obtain ⟨hsent, hsentEvents, hsentList⟩ := core.send_of_nil hlist hfits s.scene.world
  obtain ⟨hresult, hhistory, hafter⟩ := s.next_of_ok last step hcreated hsize hsent
  rw [Core.poll_of_nil hsentList] at hresult hhistory hafter
  rw [hsentEvents] at hhistory
  rw [hsentList] at hafter
  exact ⟨hresult, hhistory.trans (List.append_nil _), (hafter rfl).1⟩

/-- What one packet over one connection comes to. -/
theorem State.next_leg (h : s.Serves [(id, c)])
    (hle : Rtp.headerLength + payload.length ≤ defaultMaxPacketSize) :
    let out := s.next last payload step
    ∃ events left, out.2.journal.history = s.journal.history ++ events ∧
      Leg id c.stream (s.source.packet last payload).1 (milestones events) out.1 left ∧
      (out.1 = .ok () → out.2.Serves left ∧
        out.2.source = (s.source.packet last payload).2.advance step) := by
  intro out
  obtain ⟨core, hcreated, hsize, hlist, hfits⟩ := s.fits last h hle
  cases core.dispatch_send hlist hfits s.scene.world with
  | unwritten cause hsent hevents =>
    obtain ⟨hresult, hhistory⟩ := s.next_of_error last step hcreated hsent
    refine ⟨_, [], hhistory, ?_, fun hok ↦ ?_⟩
    · rw [hevents, hresult]
      exact .unwritten cause []
    · cases hresult.symm.trans hok
  | written hsent hsentList hsentEvents =>
    obtain ⟨hresult, hhistory, hafter⟩ := s.next_of_ok last step hcreated hsize hsent
    refine ⟨_, _, hhistory, ?_, fun hok ↦ hafter (hresult.symm.trans hok)⟩
    change Leg _ _ _ _ (s.next last payload step).1 _
    rw [milestones_append, hsentEvents, hresult]
    have hlook := Core.look_poll hsentList
      (core.send (s.source.packet last payload).1 s.scene.world).world
    cases hlook with
    | failed cause hpolled hevents =>
      rw [hevents, hpolled]
      exact .outage cause _
    | kept c' hstream hpolled hkept hevents =>
      rw [hevents, hpolled, hkept]
      exact .kept c' hstream
    | lost reason hreason hpolled hkept hevents =>
      rw [hevents, hpolled, hkept]
      exact .lost reason hreason

end Next

/-! ## All packets -/

/-- Without a connection the remaining packets are sent to nobody. -/
theorem State.packets_of_deserted {payload : Bytes} (step : UInt32) (h : s.Serves [])
    (hle : Rtp.headerLength + payload.length ≤ defaultMaxPacketSize) (count : Nat) :
    (s.packets payload step count).1 = .ok () ∧
      (s.packets payload step count).2.journal.history = s.journal.history := by
  induction count generalizing s with
  | zero => exact ⟨rfl, rfl⟩
  | succ count ih =>
    obtain ⟨hresult, hhistory, hafter⟩ := s.next_of_deserted (count = 0) step h hle
    rw [packets]
    generalize s.next (count = 0) payload step = out at hresult hhistory hafter
    obtain ⟨result, s'⟩ := out
    cases hresult
    rw [← hhistory]
    exact ih s' hafter

end CommandLine.Sender

/-- How a sender of packets over one connection can fare: the milestones and the result. -/
inductive Errand (id : ConnectionId) (stream : σ) (packets : List Bytes) :
    List (Milestone σ) → Except TransmitError Unit → Prop
  | complete : Errand id stream packets (packets.map (.sent stream)) (.ok ())
  /-- A write fails, which ends the sender. -/
  | unwritten (done : List Bytes) (packet : Bytes) (rest : List Bytes) (cause : IoError)
    (hpackets : packets = done ++ packet :: rest) : Errand id stream packets
      (done.map (.sent stream) ++
        [.wrote ⟨stream, Frame.wire packet, .error cause⟩, .dropped id (.send cause.duplicate)])
      (.error (.send id cause))
  /-- The poller fails, which ends the sender. -/
  | outage (done rest : List Bytes) (cause : IoError) (hpackets : packets = done ++ rest) :
    Errand id stream packets (done.map (.sent stream) ++ [.outage cause]) (.error (.io cause))
  /-- The connection is lost, which does not end the sender. -/
  | lost (done rest : List Bytes) (reason : DropReason) (hreason : ∀ cause, reason ≠ .send cause)
    (hpackets : packets = done ++ rest) :
    Errand id stream packets (done.map (.sent stream) ++ [.dropped id reason]) (.ok ())

/-- One more packet that was written before. -/
theorem Errand.cons {id : ConnectionId} {stream : σ} {packets : List Bytes}
    {marks : List (Milestone σ)} {result : Except TransmitError Unit}
    (h : Errand id stream packets marks result) (packet : Bytes) :
    Errand id stream (packet :: packets) (.sent stream packet :: marks) result := by
  cases h with
  | complete => exact .complete
  | unwritten done last rest cause hpackets =>
    exact .unwritten (packet :: done) last rest cause (congrArg (packet :: ·) hpackets)
  | outage done rest cause hpackets =>
    exact .outage (packet :: done) rest cause (congrArg (packet :: ·) hpackets)
  | lost done rest reason hreason hpackets =>
    exact .lost (packet :: done) rest reason hreason (congrArg (packet :: ·) hpackets)

namespace Errand

variable {id dropped : ConnectionId} {stream : σ} {packets : List Bytes}
  {marks before after : List (Milestone σ)} {result : Except TransmitError Unit}
  {reason : DropReason}

theorem postings_sent (stream : σ) (packets : List Bytes) :
    (packets.map (Milestone.sent stream)).filterMap Milestone.posting?
      = packets.map (.sent stream) := by
  rw [List.filterMap_map, ← List.filterMap_eq_map]
  rfl

theorem delivered_sent (stream : σ) (packets : List Bytes) :
    (packets.map (Posting.sent stream)).filterMap Posting.delivered?
      = packets.map Frame.wire := by
  rw [List.filterMap_map, ← List.filterMap_eq_map]
  rfl

/-- A sender that succeeds has written all packets, or it has lost its connection. -/
theorem of_ok (h : Errand id stream packets marks (.ok ())) :
    marks = packets.map (.sent stream) ∨ ∃ (done : List Bytes) (reason : DropReason),
      marks = done.map (.sent stream) ++ [.dropped id reason] := by
  cases h with
  | complete => exact .inl rfl
  | lost done rest reason => exact .inr ⟨done, reason, rfl⟩

theorem dropped_notMem_sent (dropped : ConnectionId) (reason : DropReason) (stream : σ)
    (packets : List Bytes) : .dropped dropped reason ∉ packets.map (Milestone.sent stream) := by
  intro h
  obtain ⟨packet, -, hpacket⟩ := List.mem_map.1 h
  cases hpacket

/-- The connection is lost in the end only. -/
theorem dropped_notMem_dropLast (h : Errand id stream packets marks result)
    (dropped : ConnectionId) (reason : DropReason) : .dropped dropped reason ∉ marks.dropLast := by
  have hsent := dropped_notMem_sent dropped reason stream
  cases h with
  | complete => exact fun hmem ↦ hsent packets (List.dropLast_subset _ hmem)
  | outage done | lost done =>
    rw [List.dropLast_concat]
    exact hsent done
  | unwritten done packet rest cause =>
    rw [List.append_cons, List.dropLast_concat]
    intro hmem
    rcases List.mem_append.1 hmem with hmem | hmem
    · exact hsent done hmem
    · cases List.mem_singleton.1 hmem

theorem exists_log_of_dropped {events : List (Event σ)}
    (h : .dropped dropped reason ∈ milestones events) :
    ∃ before after, events = before ++ .log (.droppingConnection dropped reason) :: after := by
  obtain ⟨event, hevent, hmark⟩ := List.mem_filterMap.1 h
  obtain ⟨before, after, rfl⟩ := List.append_of_mem hevent
  cases event with
  | log entry =>
    cases entry <;> cases hmark
    exact ⟨before, after, rfl⟩
  | waitReady handles timeout answer => cases answer <;> cases hmark
  | _ => cases hmark

/-- Nothing comes after the loss of the connection. -/
theorem of_dropped (h : Errand id stream packets marks result)
    (hmarks : marks = before ++ .dropped dropped reason :: after) : after = [] := by
  by_contra hafter
  refine h.dropped_notMem_dropLast dropped reason ?_
  rw [hmarks, List.dropLast_append_of_ne_nil (List.cons_ne_nil _ _),
    List.dropLast_cons_of_ne_nil hafter]
  exact List.mem_append_right _ List.mem_cons_self

end Errand

/-- What packets over one connection come to. -/
theorem CommandLine.Sender.State.packets_errand [Network W σ] (s : State W σ) {id : ConnectionId}
    {c : Connection σ} {payload : Bytes} (step : UInt32) (h : s.Serves [(id, c)])
    (hle : Rtp.headerLength + payload.length ≤ defaultMaxPacketSize) (count : Nat) :
    let out := s.packets payload step count
    ∃ events, out.2.journal.history = s.journal.history ++ events ∧
      Errand id c.stream (s.source.upcoming payload step count) (milestones events) out.1 := by
  induction count generalizing s c with
  | zero => exact ⟨[], (List.append_nil _).symm, .complete⟩
  | succ count ih =>
    obtain ⟨events, left, hhistory, hleg, hafter⟩ :=
      s.next_leg (count = 0) step h hle
    rw [packets, Rtp.Source.upcoming]
    dsimp only at hhistory hleg hafter ⊢
    generalize s.next (count = 0) payload step = out at hhistory hleg hafter
    obtain ⟨result, s'⟩ := out
    generalize hms : milestones events = marks at hleg
    cases hleg with
    | unwritten cause left =>
      exact ⟨events, hhistory, hms ▸ .unwritten [] _ _ cause rfl⟩
    | outage cause left =>
      exact ⟨events, hhistory, hms ▸ .outage [_] _ cause rfl⟩
    | lost reason hreason =>
      obtain ⟨hresult, hlater⟩ := s'.packets_of_deserted step (hafter rfl).1 hle count
      refine ⟨events, hlater.trans hhistory, ?_⟩
      dsimp only
      rw [hresult, hms]
      exact .lost [_] _ reason hreason rfl
    | kept c' hstream =>
      obtain ⟨hserves, hsource⟩ := hafter rfl
      obtain ⟨later, hlaterHistory, herrand⟩ := ih s' hserves
      refine ⟨events ++ later, ?_, ?_⟩
      · dsimp only
        rw [hlaterHistory, hhistory, List.append_assoc]
      · dsimp only
        rw [milestones_append, hms, ← hsource]
        rw [hstream] at herrand
        exact herrand.cons _

/-! ## The sender -/

theorem AbortChannel.destroy_log (c : AbortChannel) : ∀ entry ∈ c.destroy.2, ¬entry.IsDrop := by
  rw [destroy]
  split
  · exact List.forall_mem_singleton.2 id
  · exact List.forall_mem_nil _

namespace Scene

variable (scene : Scene W σ)

theorem milestones_abandon : milestones scene.abandon = [] :=
  milestones_logged scene.engine.ownAbort.destroy_log

theorem milestones_destroy : milestones scene.destroy.events = [] := by
  have hwoke : milestones scene.withdraw.2.2 = [] := by
    rw [withdraw]
    dsimp only
    split
    · rw [abortWait]
      split
      · rfl
      · exact milestones_logged (AbortChannel.signal_log _ _)
    · rfl
  have hreleased : ∀ (scene : Scene W σ) former, milestones (scene.release former).2 = [] := by
    intro scene former
    have hlog := scene.engine.ownAbort.destroy_log
    cases former with
    | uninitialized => rfl
    | initialized =>
      exact milestones_logged
        (List.forall_mem_append.2 ⟨hlog, List.forall_mem_singleton.2 id⟩)
    | created core =>
      exact milestones_logged (List.forall_mem_append.2
        ⟨List.forall_mem_cons.2 ⟨id, hlog⟩, List.forall_mem_singleton.2 id⟩)
  rw [destroy]
  dsimp only
  rw [milestones_append, hwoke, hreleased]
  rfl

end Scene

namespace CommandLine

open Socket

@[simp] theorem length_payload (size : Nat) : (payload size).length = size := by
  rw [payload, List.length_map, List.length_range]

/-- The packets of a sender whose clock moves on by the given number of ticks. -/
def SendOptions.packets (options : SendOptions) (ssrc step : UInt32) : List Bytes :=
  (Rtp.Source.new options.payloadType ssrc).upcoming (payload options.payloadSize) step
    options.count

theorem SendOptions.length_packets (options : SendOptions) (ssrc step : UInt32) :
    (options.packets ssrc step).length = options.count :=
  Rtp.Source.length_upcoming ..

namespace Sender

/-- How a sender ends after its packets. -/
def finish (options : SendOptions) :
    Except TransmitError Unit × State W σ → CommandOutcome Failure W σ
  | (.error e, s) => ⟨.error (.failed e), s.scene.world, s.journal.events s.scene.abandon⟩
  | (.ok (), s) =>
    ⟨.ok (), s.scene.destroy.scene.world,
      (s.journal.notice (.done options.count s.echoed s.source.sequence)).events
        s.scene.destroy.events⟩

/-- The end of a sender adds no milestones, and a sender that succeeds reports all packets. -/
theorem finish_frame (options : SendOptions) (sent : Except TransmitError Unit × State W σ) :
    (finish options sent).result = sent.1.mapError .failed ∧
      milestones (finish options sent).journal.history = milestones sent.2.journal.history ∧
      (sent.1 = .ok () → ∃ echoed next,
        Activity.notice (.done options.count echoed next) ∈ (finish options sent).journal) := by
  obtain ⟨result, s⟩ := sent
  cases result with
  | error e =>
    refine ⟨rfl, ?_, nofun⟩
    rw [finish, Journal.history_events, milestones_append, s.scene.milestones_abandon,
      List.append_nil]
  | ok _ =>
    refine ⟨rfl, ?_, fun _ ↦ ⟨s.echoed, s.source.sequence, ?_⟩⟩
    · rw [finish, Journal.history_events, Journal.history_notice, milestones_append,
        s.scene.milestones_destroy, List.append_nil]
    · rw [finish, Journal.events_eq]
      exact List.mem_append_right _ List.mem_cons_self

/-- The scene of a sender whose engine has the given core. -/
def scene (core : Core σ) (w : W) : Scene W σ :=
  ⟨⟨.created core, ⟨some .fresh, false⟩, some .own, false, false⟩, [], w⟩

/-- What happens before the engine is given the stream. -/
def opening : Journal σ :=
  (Journal.events [] (logged [.abortChannelInitialized, .transmitterInitialized false])).events
    (logged [.transmitterCreated defaultMaxPacketSize false])

section Run

variable [Network W σ] (options : SendOptions) (ssrc : UInt32) {stream : σ} {w w' : W}

/-- A sender gives its stream to a new engine, and goes on if it is not refused and if the ticks of
the interval can be computed. -/
theorem overStream_eq {added : CoreOutcome W σ ConnectionId}
    (hadded : (Core.ofParams defaultMaxPacketSize .own .default).addDestination stream w = added) :
    let scene := scene added.core added.world
    let journal := opening.events added.events
    let created := journal.notice (.sourceCreated options.payloadType ssrc)
    overStream options ssrc stream w =
      match added.result, timestampStep options.interval with
      | .error e, _ => ⟨.error (.failed e), scene.world, journal.events scene.abandon⟩
      | .ok _, none => ⟨.error .panicked, scene.world, created.events scene.abandon⟩
      | .ok id, some step => finish options <|
        State.packets (payload options.payloadSize) step options.count
          ⟨scene, .new options.payloadType ssrc, 0,
            created.notice (.sending id options.connect ssrc options.count)⟩ := by
  subst hadded
  rfl

/-- A stream that is refused gets nothing. -/
theorem overStream_of_error {cause : IoError}
    (hasked : Network.bytesAvailable stream w = (.error cause, w')) :
    let out := overStream options ssrc stream w
    out.result = .error (.failed (.invalidTransport (Network.id W stream) cause)) ∧
      milestones out.journal.history = [] := by
  have hadded := (Core.ofParams defaultMaxPacketSize .own .default).addDestination_of_error
    List.not_mem_nil hasked
  rw [overStream_eq options ssrc hadded]
  refine ⟨rfl, ?_⟩
  dsimp only
  rw [Journal.history_events, milestones_append, Scene.milestones_abandon]
  rfl

/-- If the ticks of the interval cannot be computed, nothing is written either. -/
theorem overStream_of_none {n : Nat} (hasked : Network.bytesAvailable stream w = (.ok n, w'))
    (hstep : timestampStep options.interval = none) :
    let out := overStream options ssrc stream w
    out.result = .error .panicked ∧ milestones out.journal.history = [] := by
  obtain ⟨destinations, -, hadded⟩ :=
    (Core.ofParams defaultMaxPacketSize .own .default).addDestination_of_ok List.not_mem_nil hasked
  rw [overStream_eq options ssrc hadded, hstep]
  refine ⟨rfl, ?_⟩
  dsimp only
  rw [Journal.history_events, milestones_append, Scene.milestones_abandon]
  rfl

variable {step : UInt32} (hstep : timestampStep options.interval = some step)

include hstep

/-- A stream that is not refused becomes the only connection. -/
theorem overStream_of_ok {n : Nat} (hasked : Network.bytesAvailable stream w = (.ok n, w')) :
    ∃ start : State W σ,
      start.Serves [(Network.id W stream, ⟨stream, .ofLimit defaultMaxPacketSize⟩)] ∧
        start.source = .new options.payloadType ssrc ∧ milestones start.journal.history = [] ∧
        overStream options ssrc stream w = finish options (start.packets
          (payload options.payloadSize) step options.count) := by
  obtain ⟨destinations, hlist, hadded⟩ :=
    (Core.ofParams defaultMaxPacketSize .own .default).addDestination_of_ok List.not_mem_nil hasked
  rw [overStream_eq options ssrc hadded, hstep]
  exact ⟨_, ⟨_, rfl, rfl, hlist⟩, rfl, rfl, rfl⟩

/-- A stream that is not refused carries the packets, unless they are too big. -/
theorem overStream_errand {n : Nat} (hasked : Network.bytesAvailable stream w = (.ok n, w'))
    (hfits : options.count = 0 ∨ Rtp.headerLength + options.payloadSize ≤ defaultMaxPacketSize) :
    let out := overStream options ssrc stream w
    ∃ result, out.result = result.mapError .failed ∧
      Errand (Network.id W stream) stream (options.packets ssrc step)
        (milestones out.journal.history) result := by
  obtain ⟨start, hserves, hsource, hnothing, hout⟩ := overStream_of_ok options ssrc hstep hasked
  intro out
  obtain ⟨hresult, hhistory, -⟩ := finish_frame options (start.packets
    (payload options.payloadSize) step options.count)
  have hout : out = _ := hout
  refine ⟨_, hout ▸ hresult, ?_⟩
  rw [hout, hhistory, SendOptions.packets]
  rcases hfits with hnone | hle
  · rw [hnone, State.packets, hnothing]
    exact .complete
  · rw [← length_payload options.payloadSize] at hle
    obtain ⟨events, hevents, herrand⟩ := start.packets_errand step hserves hle options.count
    rw [hevents, milestones_append, hnothing, List.nil_append, ← hsource]
    exact herrand

/-- Packets that are too big are not sent. -/
theorem overStream_of_lt {n : Nat} (hasked : Network.bytesAvailable stream w = (.ok n, w'))
    (hsome : 0 < options.count)
    (hlt : defaultMaxPacketSize < Rtp.headerLength + options.payloadSize) :
    let out := overStream options ssrc stream w
    out.result = .error (.failed
        (.packetTooBig (Rtp.headerLength + options.payloadSize) defaultMaxPacketSize)) ∧
      milestones out.journal.history = [] := by
  obtain ⟨start, hserves, -, hnothing, hout⟩ := overStream_of_ok options ssrc hstep hasked
  rw [← length_payload options.payloadSize] at hlt ⊢
  obtain ⟨count, hcount⟩ := Nat.exists_eq_add_one.2 hsome
  obtain ⟨hresult, hhistory⟩ := start.next_of_lt (count = 0) step hserves hlt
  have hsent : start.packets (payload options.payloadSize) step options.count
      = start.next (count = 0) (payload options.payloadSize) step := by
    rw [hcount, State.packets]
    generalize start.next (count = 0) (payload options.payloadSize) step = sent at hresult
    obtain ⟨result, s⟩ := sent
    cases hresult
    rfl
  intro out
  have hout : out = _ := hout
  obtain ⟨hfinish, hend, -⟩ :=
    finish_frame options (start.next (count = 0) (payload options.payloadSize) step)
  rw [hout, hsent, hfinish, hend, hhistory, hnothing, hresult]
  exact ⟨rfl, rfl⟩

end Run

/-! ## Success -/

section Success

variable [Network W σ]

theorem eq_ok_of_mapError {result : Except TransmitError Unit}
    (h : result.mapError Failure.failed = .ok ()) : result = .ok () := by
  cases result with
  | error e => cases h
  | ok _ => rfl

/-- A sender that succeeds has had a stream and has sent over it. -/
theorem errand_of_ok {options : SendOptions} {ssrc : UInt32} {connected : Except IoError σ} {w : W}
    (h : (run options ssrc connected w).result = .ok ()) : ∃ stream step,
      connected = .ok stream ∧
        (∃ echoed next, Activity.notice (.done options.count echoed next)
          ∈ (run options ssrc connected w).journal) ∧
        Errand (Network.id W stream) stream (options.packets ssrc step)
          (milestones (run options ssrc connected w).journal.history) (.ok ()) := by
  cases connected with
  | error e => cases h
  | ok stream =>
    rw [run] at h ⊢
    rcases hasked : Network.bytesAvailable stream w with ⟨⟨cause⟩ | ⟨n⟩, w'⟩
    · cases (overStream_of_error options ssrc hasked).1.symm.trans h
    cases hstep : timestampStep options.interval with
    | none => cases (overStream_of_none options ssrc hasked hstep).1.symm.trans h
    | some step =>
      refine ⟨stream, step, rfl, ?_⟩
      by_cases hfits : options.count = 0 ∨
          Rtp.headerLength + options.payloadSize ≤ defaultMaxPacketSize
      · obtain ⟨result, hresult, herrand⟩ := overStream_errand options ssrc hstep hasked hfits
        obtain rfl := eq_ok_of_mapError (hresult.symm.trans h)
        obtain ⟨start, -, -, -, hout⟩ := overStream_of_ok options ssrc hstep hasked
        obtain ⟨hsent, -, hdone⟩ := finish_frame options (start.packets
          (payload options.payloadSize) step options.count)
        rw [← hout] at hsent hdone
        exact ⟨hdone (eq_ok_of_mapError (hsent.symm.trans h)), herrand⟩
      · obtain ⟨hcount, hlt⟩ := not_or.1 hfits
        have hrefused := overStream_of_lt options ssrc hstep hasked (Nat.pos_of_ne_zero hcount)
          (Nat.not_le.1 hlt)
        cases hrefused.1.symm.trans h

/-- **Success and delivery.** A sender that succeeds reports that all packets were sent. It has
written all of them if and only if no connection was dropped before they were all written: nothing
is written after a connection was dropped. -/
theorem sent_iff_undropped (options : SendOptions) (ssrc : UInt32) (connected : Except IoError σ)
    (w : W) (h : (run options ssrc connected w).result = .ok ()) :
    let journal := (run options ssrc connected w).journal
    let history := journal.history
    (∃ echoed next, Activity.notice (.done options.count echoed next) ∈ journal) ∧
      ((delivered history).length = options.count ↔ ∀ before id reason after,
        history = before ++ .log (.droppingConnection id reason) :: after →
          (delivered before).length = options.count) ∧
      ∀ before id reason after,
        history = before ++ .log (.droppingConnection id reason) :: after →
          postings after = [] := by
  intro journal history
  obtain ⟨stream, step, rfl, hdone, herrand⟩ := errand_of_ok h
  change Errand _ _ _ (milestones history) _ at herrand
  have hnothing : ∀ before id reason after,
      history = before ++ .log (.droppingConnection id reason) :: after → milestones after = [] :=
    fun before id reason after hsplit ↦
      herrand.of_dropped (hsplit ▸ milestones_drop before after id reason)
  have hbefore : ∀ before id reason after,
      history = before ++ .log (.droppingConnection id reason) :: after →
        delivered before = delivered history := by
    intro before id reason after hsplit
    have hafter := hnothing before id reason after hsplit
    rw [delivered, postings, delivered, postings, hsplit, milestones_drop, hafter,
      List.filterMap_append, List.filterMap_append]
    exact (List.append_nil _).symm
  refine ⟨hdone, ⟨fun hcount before id reason after hsplit ↦ ?_, fun hall ↦ ?_⟩, ?_⟩
  · rw [hbefore before id reason after hsplit, hcount]
  · rcases herrand.of_ok with hsent | ⟨done, reason, hlost⟩
    · rw [delivered, postings, hsent, Errand.postings_sent, Errand.delivered_sent,
        List.length_map, options.length_packets]
    · obtain ⟨before, after, hsplit⟩ := Errand.exists_log_of_dropped
        (hlost.symm ▸ List.mem_append_right _ (List.mem_singleton_self _))
      rw [← hbefore _ _ _ _ hsplit]
      exact hall _ _ _ _ hsplit
  · intro before id reason after hsplit
    rw [postings, hnothing before id reason after hsplit]
    rfl

end Success

/-- A peer that writes nothing and ends its stream. -/
def silentPeer : World := ⟨[Pair.fresh.peerHalfClose]⟩

/-- Three packets of four bytes. -/
def threePackets : SendOptions := ⟨"peer:5004", 3, 0, 4, 96⟩

/-- Three packets are sent to the silent peer. -/
def silentRun : CommandOutcome Failure World Stream := run threePackets 0 (.ok ⟨0⟩) silentPeer

theorem result_silentRun : silentRun.result = .ok () := by decide +kernel

theorem length_delivered_silentRun : (delivered silentRun.journal.history).length = 1 := by
  decide +kernel

/-- The sender succeeds and reports three packets, of which one was written. -/
theorem unsent_silentPeer : silentRun.result = .ok () ∧
    (∃ echoed next, Activity.notice (.done 3 echoed next) ∈ silentRun.journal) ∧
    (delivered silentRun.journal.history).length = 1 := by
  obtain ⟨stream, step, -, hdone, -⟩ := errand_of_ok result_silentRun
  exact ⟨result_silentRun, hdone, length_delivered_silentRun⟩

/-- The connection was dropped before the last packet, and nothing was written afterwards. -/
theorem sent_iff_undropped_silentPeer : silentRun.result = .ok () ∧ ∃ before id reason after,
    silentRun.journal.history = before ++ .log (.droppingConnection id reason) :: after ∧
      (delivered before).length ≠ 3 ∧ postings after = [] := by
  have hok := result_silentRun
  have hlength := length_delivered_silentRun
  rw [silentRun] at hok hlength ⊢
  obtain ⟨-, hiff, hnothing⟩ :=
    sent_iff_undropped threePackets 0 (.ok (⟨0⟩ : Stream)) silentPeer hok
  have hdropped := mt hiff.2 (by rw [hlength]; decide)
  simp only [not_forall] at hdropped
  obtain ⟨before, id, reason, after, hsplit, hshort⟩ := hdropped
  exact ⟨hok, before, id, reason, after, hsplit, hshort, hnothing before id reason after hsplit⟩

end Sender

end CommandLine

end StreamRtp
