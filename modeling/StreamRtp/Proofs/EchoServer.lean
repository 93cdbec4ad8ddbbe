import StreamRtp.Proofs.SoleConnection

/-!
# A listener with one client

A listener that sends packets back and has one client only writes to this client what it has read
from it: the media packets, each framed again. Control packets are left out.

## The invariant

`Hosts` is the state of such a listener between two steps. Nobody is connected but the client, or
nobody yet. The assembler of the connection has been given all bytes that were read. The frames that
came of them have been handled, are about to be sent back, or wait in the queue, in this order.

A listener may lose its client, and then nothing of this is true any more. So a listener `Attends`
to its client if it hosts it as long as its history is benign. A history only grows, and what is
benign was so before: every step can be looked at for itself.
-/

namespace StreamRtp

variable {W σ : Type}

/-- Nothing has failed, and the bytes that were read are accepted under a limit. -/
structure Benign (limit : Nat) (history : List (Event σ)) : Prop extends Undisturbed history where
  accepted : ((Assembler.ofLimit limit).push (incoming history)).1.error = none

theorem Benign.left {limit : Nat} {first second : List (Event σ)}
    (h : Benign limit (first ++ second)) : Benign limit first where
  toUndisturbed := h.toUndisturbed.left
  accepted := by
    have haccepted := h.accepted
    rw [incoming_append] at haccepted
    exact Assembler.accepted_of_append haccepted

namespace CommandLine.Listener

/-! ## Clients -/

/-- The streams of those who will be accepted. -/
def clients (coming : List (AcceptStep σ)) : List σ :=
  coming.filterMap fun
    | .arrive arrival => arrival.toOption.map (·.1)
    | .wake => none

/-- The media packets among the frames that were handled, as they are sent back. -/
def echoes (client : σ) (handled : List Bytes) : List (Posting σ) :=
  (handled.filter (PacketKind.classify · = .rtp)).map (.sent client)

theorem echoes_singleton (client : σ) (payload : Bytes) : echoes client [payload]
    = if PacketKind.classify payload = .rtp then [.sent client payload] else [] := by
  rw [echoes, List.filter_singleton]
  by_cases hrtp : PacketKind.classify payload = .rtp
  · rw [if_pos hrtp, decide_eq_true hrtp]
    rfl
  · rw [if_neg hrtp, decide_eq_false hrtp]
    rfl

theorem echoes_append (client : σ) (first second : List Bytes) :
    echoes client (first ++ second) = echoes client first ++ echoes client second := by
  rw [echoes, List.filter_append, List.map_append]
  rfl

/-- What is true of a listener whose only client is given, with the clients that are to come and
the packets that are about to be sent back. -/
structure Hosts (limit : Nat) (client : σ) (coming : List σ) (pending : List Bytes)
    (l : Lifecycle σ) (history : List (Event σ)) : Prop where
  /-- Nobody is connected but the client, who is still to come otherwise. -/
  alone : l.entries.map (·.2.stream) ++ coming <:+ [client]
  /-- Who is not connected has not written yet, or has left, and then there is nothing to do. -/
  absent : l.entries = [] →
    incoming history = [] ∨ coming = [] ∧ pending = [] ∧ l.queue = []
  assembler : ∀ e ∈ l.entries,
    e.2.assembler = ((Assembler.ofLimit limit).push (incoming history)).2
  echoed : ∃ handled, postings history = echoes client handled ∧
    ((Assembler.ofLimit limit).push (incoming history)).1.frames
      = handled ++ (pending ++ l.queue.map (·.data))

namespace Hosts

variable {limit : Nat} {client : σ} {coming : List σ} {pending : List Bytes}
  {l : Lifecycle σ} {history events : List (Event σ)}

/-- There is no connection, or there is the one to the client, and nobody else will come. -/
theorem nobody_or (h : Hosts limit client coming pending l history) : l.entries = [] ∨
    ∃ id c, l.entries = [(id, c)] ∧ c.stream = client ∧ coming = [] := by
  rcases List.suffix_cons_iff.1 h.alone with hall | hnone
  · rcases List.append_eq_singleton_iff.1 hall with ⟨hnobody, -⟩ | ⟨hone, hlast⟩
    · exact .inl (List.map_eq_nil_iff.1 hnobody)
    · obtain ⟨⟨id, c⟩, hentries, hstream⟩ := List.map_eq_singleton_iff.1 hone
      exact .inr ⟨id, c, hentries, hstream, hlast⟩
  · exact .inl (List.map_eq_nil_iff.1 (List.append_eq_nil_iff.1 (List.suffix_nil.1 hnone)).1)

/-- Without a connection nothing is about to be sent back. -/
theorem nothing_left (h : Hosts limit client coming pending l history) (hnone : l.entries = []) :
    pending = [] := by
  rcases h.absent hnone with hunread | ⟨-, hpending, -⟩
  · obtain ⟨handled, -, hframes⟩ := h.echoed
    rw [hunread, Assembler.push_nil] at hframes
    exact (List.append_eq_nil_iff.1 (List.append_eq_nil_iff.1 hframes.symm).2).1
  · exact hpending

/-- Events that neither read nor write make no difference. -/
theorem quiet (h : Hosts limit client coming pending l history) (hread : incoming events = [])
    (hwritten : postings events = []) :
    Hosts limit client coming pending l (history ++ events) := by
  have hincoming : incoming (history ++ events) = incoming history := by
    rw [incoming_append, hread, List.append_nil]
  have hpostings : postings (history ++ events) = postings history := by
    rw [postings_append, hwritten, List.append_nil]
  refine ⟨h.alone, ?_, ?_, ?_⟩
  · rw [hincoming]
    exact h.absent
  · rw [hincoming]
    exact h.assembler
  · rw [hincoming, hpostings]
    exact h.echoed

variable {core : Core σ}

/-- The client is connected, and nobody else will come. -/
theorem of_connected {id : ConnectionId} {a : Assembler} (handled : List Bytes)
    (hlist : core.destinations.toList = [(id, ⟨client, a⟩)])
    (hassembler : a = ((Assembler.ofLimit limit).push (incoming history)).2)
    (hwritten : postings history = echoes client handled)
    (hframes : ((Assembler.ofLimit limit).push (incoming history)).1.frames
      = handled ++ (pending ++ core.queue.map (·.data))) :
    Hosts limit client [] pending (.created core) history where
  alone := by
    change core.destinations.toList.map _ ++ _ <:+ _
    rw [hlist]
    exact List.suffix_rfl
  absent hnone := by cases hlist.symm.trans hnone
  assembler := by
    change ∀ e ∈ core.destinations.toList, _
    rw [hlist]
    exact List.forall_mem_singleton.2 hassembler
  echoed := ⟨handled, hwritten, hframes⟩

/-- The client is not connected, nobody else will come, and everything has been handled. -/
theorem of_left (hlist : core.destinations.toList = []) (hempty : core.queue = [])
    (hwritten : postings history
      = echoes client ((Assembler.ofLimit limit).push (incoming history)).1.frames) :
    Hosts limit client [] [] (.created core) history where
  alone := by
    change core.destinations.toList.map _ ++ _ <:+ _
    rw [hlist]
    exact List.nil_suffix
  absent _ := .inr ⟨rfl, rfl, hempty⟩
  assembler := by
    change ∀ e ∈ core.destinations.toList, _
    rw [hlist]
    exact List.forall_mem_nil _
  echoed := by
    refine ⟨_, hwritten, ?_⟩
    change _ = _ ++ ([] ++ core.queue.map (·.data))
    rw [hempty]
    exact (List.append_nil _).symm

variable [Network W σ] {w : W}

/-- The client is registered, or it is refused. -/
theorem addDestination {stream : σ}
    (h : Hosts limit client (stream :: coming) pending (.created core) history)
    (hlimit : core.maxPacketSize = limit) :
    Hosts limit client coming pending (.created (core.addDestination stream w).core)
      (history ++ (core.addDestination stream w).events) := by
  obtain ⟨hnobody, rfl, rfl⟩ : core.destinations.toList = [] ∧ stream = client ∧ coming = [] := by
    have halone := h.alone
    rcases h.nobody_or with hnobody | ⟨id, c, -, -, hnone⟩
    · rw [hnobody] at halone
      rcases List.suffix_cons_iff.1 halone with hall | hnone
      · obtain ⟨rfl, hlast⟩ := List.cons_eq_cons.1 hall
        exact ⟨hnobody, rfl, hlast⟩
      · cases List.suffix_nil.1 hnone
    · cases hnone
  have hunread : incoming history = [] := (h.absent hnobody).resolve_right fun hleft ↦ by
    cases hleft.1
  have hid : Network.id W stream ∉ core.destinations.keys := by
    rw [Registry.keys, hnobody]
    exact List.not_mem_nil
  rcases hasked : Network.bytesAvailable stream w with ⟨⟨e⟩ | ⟨n⟩, w'⟩
  · rw [core.addDestination_of_error hid hasked]
    refine quiet ⟨?_, fun _ ↦ .inl hunread, h.assembler, h.echoed⟩ rfl rfl
    change core.destinations.toList.map _ ++ _ <:+ _
    rw [hnobody]
    exact List.nil_suffix
  · obtain ⟨destinations, hlist, hadd⟩ := core.addDestination_of_ok hid hasked
    rw [hnobody, List.nil_append, hlimit] at hlist
    obtain ⟨handled, hwritten, hframes⟩ := h.echoed
    rw [hadd]
    refine quiet (of_connected handled hlist ?_ hwritten hframes) rfl rfl
    rw [hunread, Assembler.push_nil]

/-- What a receive pass reads goes to the assembler of the client, and its frames wait. If the
client has left, everything that it has written has been handled. -/
theorem poll (h : Hosts limit client coming [] (.created core) history)
    (hmode : core.filter.mode = .acceptAll) (hempty : core.queue = [])
    (hbenign : Benign limit (history ++ (core.poll w).events)) :
    Hosts limit client coming [] (.created (core.poll w).core)
      (history ++ (core.poll w).events) := by
  rcases h.nobody_or with hnobody | ⟨id, c, hentries, rfl, rfl⟩
  · rw [Core.poll_of_nil hnobody, List.append_nil]
    exact h
  have hassembler := h.assembler (id, c) (hentries ▸ List.mem_singleton_self _)
  have hentries : core.destinations.toList = [(id, c)] := hentries
  have hheard := Core.hears_poll hentries w
  have hpostings : postings (history ++ (core.poll w).events) = postings history := by
    rw [postings_append, core.postings_poll, List.append_nil]
  have hpush := Assembler.push_append_of_accepted hbenign.left.accepted
    (incoming (core.poll w).events)
  rw [← incoming_append, ← hassembler] at hpush
  obtain ⟨handled, hwritten, hframes⟩ := h.echoed
  have haccepted := hbenign.accepted
  rw [hpush] at haccepted
  cases hheard.fate with
  | kept hlist =>
    refine of_connected handled hlist ?_ (hpostings.trans hwritten) ?_
    · rw [hpush]
    · rw [hpush, hheard.queue hmode, hframes]
      exact List.append_assoc ..
  | lost reason hgone hdropped hrefused hended =>
    rcases hbenign.toUndisturbed.right.droppings (id, reason)
      (hdropped ▸ List.mem_singleton_self _) with rfl | ⟨e, rfl⟩
    · -- The client has left, and nothing was read in this pass.
      have hnothing := hended rfl
      have hqueue : (core.poll w).core.queue = [] := by
        have hqueue := hheard.queue hmode
        rw [hnothing, Assembler.push_nil, hempty] at hqueue
        exact List.map_eq_nil_iff.1 hqueue
      refine of_left hgone hqueue ?_
      change _ = handled ++ ([] ++ core.queue.map (·.data)) at hframes
      rw [hpostings, hwritten, incoming_append, hnothing, List.append_nil, hframes, hempty]
      exact congrArg (echoes c.stream) (List.append_nil _).symm
    · -- No length is refused in a benign history.
      cases haccepted.symm.trans (hrefused e rfl)

/-- A packet that is sent back goes to the client. -/
theorem send {payload : Bytes}
    (h : Hosts limit client coming [payload] (.created core) history)
    (hle : payload.length ≤ core.sendLimit) (hrtp : PacketKind.classify payload = .rtp)
    (hbenign : Benign limit (history ++ (core.send payload w).events)) :
    Hosts limit client coming [] (.created (core.send payload w).core)
      (history ++ (core.send payload w).events) := by
  rcases h.nobody_or with hnobody | ⟨id, c, hentries, rfl, rfl⟩
  · cases h.nothing_left hnobody
  have hassembler := h.assembler (id, c) (hentries ▸ List.mem_singleton_self _)
  have hentries : core.destinations.toList = [(id, c)] := hentries
  have hincoming : incoming (history ++ (core.send payload w).events) = incoming history := by
    rw [incoming_append, core.incoming_send hle, List.append_nil]
  obtain ⟨hqueue, -, -⟩ := core.keepsQueue_send payload w
  obtain ⟨handled, hwritten, hframes⟩ := h.echoed
  cases core.dispatch_send hentries hle w with
  | written hresult hlist hevents =>
    have hpostings : postings (core.send payload w).events = echoes c.stream [payload] := by
      rw [postings, hevents, echoes_singleton, if_pos hrtp]
      rfl
    refine of_connected (handled ++ [payload]) hlist ?_ ?_ ?_
    · rw [hincoming]
      exact hassembler
    · rw [postings_append, hwritten, hpostings, echoes_append]
    · rw [hincoming, hframes, hqueue, List.append_assoc]
      rfl
  | unwritten cause hresult hevents =>
    have hdropped : (id, .send cause.duplicate) ∈ droppings (core.send payload w).events := by
      rw [droppings, hevents]
      exact List.mem_singleton_self _
    exact (hbenign.toUndisturbed.right.not_send hdropped).elim

end Hosts

/-! ## Steps -/

/-- The clients that are to come. -/
def State.coming (s : State W σ) : List σ := clients s.arrivals.flatten

variable [Network W σ]

/-- A listener that has its one client as long as nothing goes wrong. -/
structure State.Attends (limit : Nat) (client : σ) (coming : List σ)
    (pending : List Bytes) (s : State W σ) : Prop where
  listens : s.scene.engine.lifecycle.Listens W limit
  hosts : Benign limit s.journal.history →
    Hosts limit client coming pending s.scene.engine.lifecycle s.journal.history

theorem State.handle_of_nil {limit : Nat} {s : State W σ} {echo : Bool}
    (h : s.scene.engine.lifecycle.Listens W limit)
    (hqueue : s.scene.engine.lifecycle.queue = []) : s.handle echo = s := by
  obtain ⟨core, hcreated, -⟩ := h.created
  rw [hcreated] at hqueue
  change core.queue = _ at hqueue
  have hresult : (s.scene.withCore Core.nextPacket).result = .error .queueEmpty := by
    rw [s.scene.withCore_of_created hcreated, Core.nextPacket, hqueue]
    rfl
  rw [handle]
  dsimp only
  rw [hresult]

theorem State.rounds_one (s : State W σ) (echo : Bool) : s.rounds echo 1 = s.round echo := by
  rw [rounds]
  rcases s.round echo with ⟨⟨e⟩ | ⟨⟨⟩⟩, s'⟩ <;> rfl

omit [Network W σ] in
theorem State.arrivals_wake (s : State W σ) : s.wake.arrivals = s.arrivals := by
  rw [wake]
  split <;> rfl

theorem State.arrivals_accept (s : State W σ) (step : AcceptStep σ) :
    (s.accept step).arrivals = s.arrivals := by
  cases step with
  | wake => exact s.arrivals_wake
  | arrive arrival =>
    refine Eq.trans ?_ s.arrivals_wake
    rw [accept, arrive.eq_def]
    split
    · rfl
    · dsimp only
      split <;> rfl

namespace State.Attends

variable {limit : Nat} {client : σ} {coming : List σ} {pending : List Bytes}
  {s s' : State W σ}

/-- A step that leaves the connections and the queue alone. -/
theorem quiet (h : s.Attends limit client coming pending) (events : List (Event σ))
    (hlifecycle : s'.scene.engine.lifecycle = s.scene.engine.lifecycle)
    (hhistory : s'.journal.history = s.journal.history ++ events)
    (hread : incoming events = []) (hwritten : postings events = []) :
    s'.Attends limit client coming pending := by
  refine ⟨hlifecycle ▸ h.listens, fun hbenign ↦ ?_⟩
  rw [hhistory] at hbenign ⊢
  rw [hlifecycle]
  exact (h.hosts hbenign.left).quiet hread hwritten

theorem notice (h : s.Attends limit client coming pending) (n : Notice) :
    ({ s with journal := s.journal.notice n } : State W σ).Attends limit client coming pending :=
  h.quiet [] rfl ((s.journal.history_notice n).trans (List.append_nil _).symm) rfl rfl

theorem abortWait (h : s.Attends limit client coming pending) :
    ({ s with
      scene := s.scene.abortWait.scene
      journal := s.journal.events s.scene.abortWait.events } : State W σ).Attends
        limit client coming pending := by
  have himpersonal := (s.scene.abortWait_quiet []).2
  exact h.quiet _ s.scene.abortWait_frame.1 (s.journal.history_events _)
    himpersonal.incoming_eq_nil himpersonal.postings_eq_nil

/-- A call of the engine. -/
theorem withCore {α : Type} {f : Core σ → W → CoreOutcome W σ α} {coming' : List σ}
    {pending' : List Bytes} (h : s.Attends limit client coming pending)
    (hscene : s'.scene = (s.scene.withCore f).scene)
    (hhistory : s'.journal.history = s.journal.history ++ (s.scene.withCore f).events)
    (hlistens : (s.scene.withCore f).scene.engine.lifecycle.Listens W limit)
    (hstep : ∀ core, s.scene.engine.lifecycle = .created core →
      Hosts limit client coming pending (.created core) s.journal.history →
      Benign limit (s.journal.history ++ (f core s.scene.world).events) →
      Hosts limit client coming' pending' (.created (f core s.scene.world).core)
        (s.journal.history ++ (f core s.scene.world).events)) :
    s'.Attends limit client coming' pending' := by
  obtain ⟨core, hcreated, -⟩ := h.listens.created
  refine ⟨hscene ▸ hlistens, fun hbenign ↦ ?_⟩
  rw [hhistory] at hbenign ⊢
  have hhosts := h.hosts hbenign.left
  rw [hcreated] at hhosts
  rw [hscene]
  rw [s.scene.withCore_of_created hcreated f] at hbenign ⊢
  exact hstep core hcreated hhosts hbenign

/-! ### Arrivals -/

theorem addDestination {stream : σ} (h : s.Attends limit client (stream :: coming) pending) :
    let added := s.scene.withCore (·.addDestination stream)
    let met : State W σ :=
      { s with scene := added.scene, journal := s.journal.events added.events }
    met.Attends limit client coming pending := by
  refine h.withCore rfl (s.journal.history_events _)
    (State.welcomes_addDestination h.listens stream).listens fun core hcreated hhosts _ ↦ ?_
  exact hhosts.addDestination (h.listens.bounded.engine _ (by rw [hcreated]; rfl))

theorem wake (h : s.Attends limit client coming pending) :
    s.wake.Attends limit client coming pending := by
  have hwoken := h.abortWait
  rw [State.wake]
  split
  · dsimp only
    cases s.scene.abortWait.result with
    | ok _ => exact ⟨hwoken.listens, hwoken.hosts⟩
    | error e =>
      have hfailed := hwoken.notice (.wakeFailed e)
      exact ⟨hfailed.listens, hfailed.hosts⟩
  · exact h

theorem arrive {arrival : Arrival σ} {later : List (AcceptStep σ)}
    (h : s.Attends limit client (clients (.arrive arrival :: later)) pending) :
    (s.arrive arrival).Attends limit client (clients later) pending := by
  obtain ⟨e⟩ | ⟨stream, peer⟩ := arrival
  · exact notice h _
  · have hadded := addDestination h
    rw [State.arrive]
    dsimp only at hadded ⊢
    cases hresult : (s.scene.withCore (·.addDestination stream)).result with
    | error e => exact hadded.notice _
    | ok id =>
      have hnoted := hadded.notice (.clientConnected id peer)
      exact ⟨hnoted.listens, hnoted.hosts⟩

theorem accept {step : AcceptStep σ} {later : List (AcceptStep σ)}
    (h : s.Attends limit client (clients (step :: later)) pending) :
    (s.accept step).Attends limit client (clients later) pending := by
  cases step with
  | wake => exact wake h
  | arrive arrival => exact arrive (wake h)

/-- Whatever the accept loop does before the next step, the listener has its client. -/
theorem meanwhile (h : s.Attends limit client s.coming pending) :
    s.meanwhile.Attends limit client s.meanwhile.coming pending := by
  have hfold : ∀ (now later : List (AcceptStep σ)) (s : State W σ),
      s.Attends limit client (clients (now ++ later)) pending →
        (now.foldl State.accept s).Attends limit client (clients later) pending ∧
          (now.foldl State.accept s).arrivals = s.arrivals := by
    intro now later
    induction now with
    | nil => exact fun s h ↦ ⟨h, rfl⟩
    | cons step now ih =>
      intro s h
      obtain ⟨hlast, harrivals⟩ := ih _ h.accept
      exact ⟨hlast, harrivals.trans (s.arrivals_accept step)⟩
  rw [State.meanwhile]
  cases hplan : s.arrivals with
  | nil => exact h
  | cons now rest =>
    rw [State.coming, hplan] at h
    obtain ⟨hlast, harrivals⟩ :=
      hfold now rest.flatten { s with arrivals := rest } ⟨h.listens, h.hosts⟩
    dsimp only
    rwa [State.coming, harrivals]

/-! ### Waits and receive passes -/

/-- Nothing is read or written while a listener waits. -/
theorem wait (h : s.Attends limit client s.coming pending)
    (hwaiting : s.scene.engine.waiting = false) :
    s.wait.2.Attends limit client s.wait.2.coming pending := by
  rcases hsurvey : s.scene.survey with result | ticket
  · rw [State.wait, s.scene.beginWait_of_decided hwaiting hsurvey]
    exact h
  · rw [State.wait, s.scene.beginWait_of_asking hwaiting hsurvey]
    dsimp only
    have hmet := meanwhile (s := { s with scene := s.scene.enterWait.2 }) ⟨h.listens, h.hosts⟩
    generalize ({ s with scene := s.scene.enterWait.2 } : State W σ).meanwhile = met at hmet
    have himpersonal := (met.scene.finishWait_quiet ticket (.ofSeconds 1) []).2
    exact hmet.quiet _ (met.scene.finishWait_frame ticket (.ofSeconds 1)).1
      (met.journal.history_events _) himpersonal.incoming_eq_nil himpersonal.postings_eq_nil

theorem poll (h : s.Attends limit client coming [])
    (hempty : s.scene.engine.lifecycle.queue = []) :
    let polled := s.scene.withCore Core.poll
    let looked : State W σ :=
      { s with scene := polled.scene, journal := s.journal.events polled.events }
    looked.Attends limit client coming [] := by
  obtain ⟨core, hcreated, hmode⟩ := h.listens.created
  refine h.withCore rfl (s.journal.history_events _)
    (State.proceeds_poll h.listens true).1.listens fun core' hcreated' hhosts hbenign ↦ ?_
  cases hcreated.symm.trans hcreated'
  rw [hcreated] at hempty
  exact hhosts.poll hmode hempty hbenign

/-! ### Packets -/

variable {packet : Packet} {rest : List Packet}

/-- A packet that is taken out of the queue has been handled, or it is about to be sent back. -/
theorem took (h : s.Attends limit client coming [])
    (hqueue : s.scene.engine.lifecycle.queue = packet :: rest) :
    (s.took packet).Attends limit client coming (if packet.isRtp then [packet.data] else []) := by
  obtain ⟨hlistens, hrest, hentries, -⟩ := State.took_frame h.listens hqueue
  refine ⟨hlistens, fun hbenign ↦ ?_⟩
  have hhistory : (s.took packet).journal.history = s.journal.history :=
    s.journal.history_notice _
  rw [hhistory] at hbenign ⊢
  have hhosts := h.hosts hbenign
  obtain ⟨handled, hwritten, hframes⟩ := hhosts.echoed
  rw [hqueue] at hframes
  refine ⟨?_, ?_, ?_, ?_⟩
  · rw [hentries]
    exact hhosts.alone
  · rw [hentries]
    refine fun hnone ↦ .inl ((hhosts.absent hnone).resolve_right fun hleft ↦ ?_)
    cases hqueue.symm.trans hleft.2.2
  · rw [hentries]
    exact hhosts.assembler
  · rw [hrest]
    split
    · exact ⟨handled, hwritten, hframes⟩
    · rename_i hrtcp
      have hrtcp : PacketKind.classify packet.data ≠ .rtp := mt decide_eq_true hrtcp
      refine ⟨handled ++ [packet.data], ?_, ?_⟩
      · rw [hwritten, echoes_append, echoes_singleton, if_neg hrtcp]
        exact (List.append_nil _).symm
      · rw [hframes, List.append_assoc]
        rfl

/-- A packet that is sent back goes to the client. -/
theorem sendBack (h : s.Attends limit client coming [packet.data])
    (hle : packet.data.length ≤ min limit Frame.maxPayload) (hrtp : packet.isRtp = true) :
    (s.sendBack packet).Attends limit client coming [] := by
  obtain ⟨more, routes, hsent⟩ := State.exists_sendsBack h.listens hle
  have hhistory : (s.sendBack packet).journal.history
      = s.journal.history ++ (s.scene.withCore (·.send packet.data)).events := by
    rw [State.sendBack]
    dsimp only
    cases (s.scene.withCore (·.send packet.data)).result with
    | ok _ => exact s.journal.history_events _
    | error e => exact (Journal.history_notice ..).trans (s.journal.history_events _)
  refine h.withCore rfl hhistory hsent.listens fun core hcreated hhosts hbenign ↦ ?_
  have hlimit : core.maxPacketSize = limit :=
    h.listens.bounded.engine _ (by rw [hcreated]; rfl)
  refine hhosts.send ?_ (of_decide_eq_true hrtp) hbenign
  rwa [Core.sendLimit, hlimit]

/-- The loop deals with the first packet of the queue, if there is one. -/
theorem handle (h : s.Attends limit client s.coming []) :
    (s.handle true).Attends limit client (s.handle true).coming [] := by
  cases hqueue : s.scene.engine.lifecycle.queue with
  | nil =>
    rw [State.handle_of_nil h.listens hqueue]
    exact h
  | cons packet rest =>
    rw [State.handle_of_cons true h.listens hqueue]
    have htook := h.took hqueue
    have hle : packet.data.length ≤ min limit Frame.maxPayload :=
      h.listens.queued packet (hqueue ▸ List.mem_cons_self)
    cases hrtp : packet.isRtp with
    | false =>
      rw [hrtp] at htook
      exact htook
    | true =>
      rw [hrtp] at htook
      exact (meanwhile (s := s.took packet) htook).sendBack hle hrtp

theorem handleAll (h : s.Attends limit client s.coming []) (n : Nat) :
    (s.handleAll true n).Attends limit client (s.handleAll true n).coming [] := by
  induction n generalizing s with
  | zero => exact h
  | succ n ih => exact ih h.meanwhile.handle

/-! ### Rounds -/

theorem look (h : s.Attends limit client s.coming [])
    (hwaiting : s.scene.engine.waiting = false) (hempty : s.scene.engine.lifecycle.queue = []) :
    s.look.2.Attends limit client s.look.2.coming [] := by
  obtain ⟨before, hbefore⟩ := State.welcomes_meanwhile h.listens
  have hunmarked := hbefore.waiting.trans hwaiting
  obtain ⟨during, hduring, -⟩ := State.welcomes_wait hbefore.listens hunmarked
  have hwaited := h.meanwhile.wait hunmarked
  rw [State.look]
  rcases hwait : s.meanwhile.wait with ⟨⟨e⟩ | ⟨available⟩, waited⟩
  · rw [hwait] at hwaited
    exact hwaited
  · rw [hwait] at hwaited hduring
    obtain ⟨after, hafter⟩ := State.welcomes_meanwhile hwaited.listens
    exact hwaited.meanwhile.poll
      (hafter.queue.trans (hduring.queue.trans (hbefore.queue.trans hempty)))

theorem round (h : s.Attends limit client s.coming [])
    (hwaiting : s.scene.engine.waiting = false) (hempty : s.scene.engine.lifecycle.queue = []) :
    (s.round true).2.Attends limit client (s.round true).2.coming [] := by
  have hlooked := h.look hwaiting hempty
  rcases hlook : s.look with ⟨⟨e⟩ | ⟨⟨⟩⟩, looked⟩
  · rw [hlook] at hlooked
    rw [State.round_of_error hlook]
    exact hlooked
  · rw [hlook] at hlooked
    rw [State.round_of_ok hlook]
    exact hlooked.handleAll _

/-- After every round the queue is empty, and the listener has its client. -/
theorem rounds (h : s.Attends limit client s.coming [])
    (hwaiting : s.scene.engine.waiting = false) (hempty : s.scene.engine.lifecycle.queue = [])
    (n : Nat) :
    (s.rounds true n).2.Attends limit client (s.rounds true n).2.coming [] := by
  induction n generalizing s with
  | zero => exact h
  | succ n ih =>
    obtain ⟨more, hmore, hnone, -⟩ := State.proceeds_rounds h.listens hwaiting hempty true 1
    have hround := h.round hwaiting hempty
    rw [s.rounds_one] at hmore hnone
    rw [State.rounds]
    rcases hresult : s.round true with ⟨⟨e⟩ | ⟨⟨⟩⟩, s'⟩
    · rw [hresult] at hround
      exact hround
    · rw [hresult] at hround hmore hnone
      exact ih hround (hmore.waiting.trans hwaiting) hnone

end State.Attends

/-! ## The command -/

section Run

variable {limit : Nat} {client : σ} {s : State W σ}

/-- What a listener has written when nothing waits. -/
theorem State.Attends.postings_eq {coming : List σ} (h : s.Attends limit client coming [])
    (hempty : s.scene.engine.lifecycle.queue = []) (hbenign : Benign limit s.journal.history) :
    postings s.journal.history = echoes client
      ((Assembler.ofLimit limit).push (incoming s.journal.history)).1.frames := by
  obtain ⟨handled, hwritten, hframes⟩ := (h.hosts hbenign).echoed
  rw [hempty] at hframes
  rw [hwritten, hframes]
  exact congrArg (echoes client) (List.append_nil _).symm

/-- The end of an engine neither reads nor writes. -/
theorem State.Attends.postings_ended {coming : List σ} (h : s.Attends limit client coming [])
    (hempty : s.scene.engine.lifecycle.queue = [])
    (hbenign : Benign limit (s.journal.history ++ s.scene.destroy.events)) :
    postings (s.journal.history ++ s.scene.destroy.events) = echoes client
      ((Assembler.ofLimit limit).push
        (incoming (s.journal.history ++ s.scene.destroy.events))).1.frames := by
  have himpersonal := s.scene.destroy_impersonal
  rw [postings_append, himpersonal.postings_eq_nil, incoming_append, himpersonal.incoming_eq_nil,
    List.append_nil, List.append_nil]
  exact h.postings_eq hempty hbenign.left

/-- A listener that is woken to be stopped. -/
def State.woken (s : State W σ) : State W σ :=
  { s with
    scene := s.scene.abortWait.scene
    journal := s.journal.events s.scene.abortWait.events }

/-- A listener that is stopped finishes its round, unless it has failed before, then its accept loop
comes to an end, and then its engine. -/
theorem State.history_stop (s : State W σ) (echo : Bool) (result : Except TransmitError Unit) :
    ∃ n, let last := (s.woken.rounds echo n).2.meanwhile.wake
      (s.stop echo result).journal.history = last.journal.history ++ last.scene.destroy.events := by
  have hend : ∀ (last : State W σ) (n : Nat),
      (((last.journal.notice .acceptLoopEnded).events last.scene.destroy.events).notice
        (.stopped n)).history = last.journal.history ++ last.scene.destroy.events := by
    intro last n
    rw [Journal.history_notice, Journal.history_events, Journal.history_notice]
  cases result with
  | error e => exact ⟨0, hend s.woken.meanwhile.wake 0⟩
  | ok _ =>
    refine ⟨1, ?_⟩
    rw [s.woken.rounds_one]
    exact hend (s.woken.round echo).2.meanwhile.wake _

theorem State.Attends.postings_stop
    (h : s.Attends limit client s.coming [])
    (hwaiting : s.scene.engine.waiting = false) (hempty : s.scene.engine.lifecycle.queue = [])
    (result : Except TransmitError Unit)
    (hbenign : Benign limit (s.stop true result).journal.history) :
    postings (s.stop true result).journal.history = echoes client
      ((Assembler.ofLimit limit).push
        (incoming (s.stop true result).journal.history)).1.frames := by
  have hwelcomes : s.Welcomes limit s.woken _ := State.welcomes_abortWait h.listens
  have hwoken : s.woken.Attends limit client s.woken.coming [] := h.abortWait
  have hwaiting := hwelcomes.waiting.trans hwaiting
  have hempty := hwelcomes.queue.trans hempty
  obtain ⟨n, hhistory⟩ := s.history_stop true result
  obtain ⟨more, -, hrounds, -⟩ := State.proceeds_rounds hwoken.listens hwaiting hempty true n
  have hmet := (hwoken.rounds hwaiting hempty n).meanwhile
  obtain ⟨_, hmeanwhile⟩ :=
    State.welcomes_meanwhile (hwoken.rounds hwaiting hempty n).listens
  obtain ⟨_, hwake⟩ := State.welcomes_wake hmet.listens
  dsimp only at hhistory
  rw [hhistory] at hbenign ⊢
  exact hmet.wake.postings_ended (hwake.queue.trans (hmeanwhile.queue.trans hrounds)) hbenign

/-- A listener that has said where it listens. -/
def State.opened (options : ListenOptions) (arrivals : List (List (AcceptStep σ))) (w : W) :
    State W σ :=
  { State.start options.maxPacketSize arrivals w with
    journal := (State.start options.maxPacketSize arrivals w).journal.notice
      (.listening options.bind options.echo options.maxPacketSize) }

/-- A new listener has its client still to come. -/
theorem State.attends_opened (options : ListenOptions) {arrivals : List (List (AcceptStep σ))}
    (h : clients arrivals.flatten = [client]) (w : W) :
    (State.opened options arrivals w).Attends options.maxPacketSize client
      (State.opened options arrivals w).coming [] := by
  have hlevel : (Lifecycle.created
      (Core.ofParams options.maxPacketSize .own ⟨none, true, .acceptAll⟩) : Lifecycle σ).Level
        options.maxPacketSize := by
    refine ⟨?_, List.forall_mem_nil _⟩
    rintro n ⟨⟩
    rfl
  refine ⟨⟨⟨_, rfl, rfl⟩, List.forall_mem_nil _, ⟨hlevel, List.forall_mem_nil _⟩,
    List.forall_mem_nil _⟩, fun _ ↦ ⟨?_, fun _ ↦ .inl rfl, List.forall_mem_nil _, [], rfl, ?_⟩⟩
  · change [] ++ clients arrivals.flatten <:+ [client]
    rw [h]
    exact List.suffix_rfl
  · exact congrArg (·.1.frames) (Assembler.push_nil _)

/-- A listener is stopped after its rounds, unless the line of input is no text. -/
theorem journal_run (options : ListenOptions) (arrivals : List (List (AcceptStep σ)))
    (rounds : Nat) (input : Bytes) (w : W) :
    let out := (State.opened options arrivals w).rounds options.echo rounds
    (run options (.ok ()) arrivals rounds input w).journal = out.2.journal ∨
      (run options (.ok ()) arrivals rounds input w).journal
        = (out.2.stop options.echo out.1).journal := by
  intro out
  rw [run]
  dsimp only
  cases awaitLine input with
  | error e => exact .inl rfl
  | ok _ => exact .inr rfl

/-- **What a listener writes back.** A listener with echo on that has one client only writes to this
client: the media packets among the frames of what it has read, in their order. -/
theorem postings_run {options : ListenOptions} (hecho : options.echo = true)
    {arrivals : List (List (AcceptStep σ))} (halone : clients arrivals.flatten = [client])
    (rounds : Nat) (input : Bytes) (w : W)
    (hbenign : Benign options.maxPacketSize
      (run options (.ok ()) arrivals rounds input w).journal.history) :
    let history := (run options (.ok ()) arrivals rounds input w).journal.history
    postings history = echoes client
      ((Assembler.ofLimit options.maxPacketSize).push (incoming history)).1.frames := by
  have hopened := State.attends_opened options halone w
  obtain ⟨more, hmore, hlast, -⟩ := State.proceeds_rounds hopened.listens rfl rfl true rounds
  have hrounds := hopened.rounds rfl rfl rounds
  dsimp only
  rcases journal_run options arrivals rounds input w with hjournal | hjournal
  · rw [hjournal, hecho] at hbenign ⊢
    exact hrounds.postings_eq hlast hbenign
  · rw [hjournal, hecho] at hbenign ⊢
    exact hrounds.postings_stop hmore.waiting hlast _ hbenign

end Run

end CommandLine.Listener

end StreamRtp
