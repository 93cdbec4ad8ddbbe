import StreamRtp.Proofs.Errands
import StreamRtp.Proofs.SteadyLimits

/-!
# The receive loop of a listener

A listener waits, receives, and takes every packet out of the queue before it waits again. With echo
on it sends each media packet back. Who connects in the meantime is added between any two of these
steps, so nothing may be said of the connections between them but that those that were there are
there still.

`Dealing` is what the loop does about one packet, and `Dealing.Fair` what it ought to do. The
theorem reads the dealings off the states of the loop, and what is written off the history.

## The argument

A stretch of the loop is a `State.Welcomes` if nothing happens but that connections are added, and a
`State.Proceeds` if it deals with packets. Both go together with `trans`, so every step is looked at
once: arrivals, waits and receive passes, and the packet that is taken out and sent back. What goes
through all of them is that a packet that waited or was completed is dealt with or waits
(`Proceeds.conserved`). An echo is never too long, as no frame becomes longer than the limit of a
listener whose limit stays, so nothing but a write can fail in it.
-/

namespace StreamRtp

variable {W σ : Type}

/-! ## What else is known of calls -/

/-- A new connection comes last, and nothing is written to it. -/
theorem Core.addDestination_frame [Network W σ] (core : Core σ) (stream : σ) (w : W) :
    (∃ newcomers, (core.addDestination stream w).core.destinations.toList
        = core.destinations.toList ++ newcomers) ∧
      postings (core.addDestination stream w).events = [] := by
  have hsame : ∃ newcomers, core.destinations.toList = core.destinations.toList ++ newcomers :=
    ⟨[], (List.append_nil _).symm⟩
  rw [addDestination]
  dsimp only
  split
  · exact ⟨hsame, rfl⟩
  · split
    · exact ⟨hsame, rfl⟩
    · split
      · exact ⟨hsame, rfl⟩
      · rename_i hadd
        exact ⟨⟨_, (Registry.toList_of_add hadd).2⟩, rfl⟩

/-- Whether waits and receive passes with this history can have failed with the given error: the
poller has failed with it, or there was no doorbell to listen to. -/
def PollingFault (events : List (Event σ)) (e : TransmitError) : Prop :=
  (∃ cause ∈ outages events, e = .io cause) ∨ e = .abortNotInitialized

theorem outages_append (first second : List (Event σ)) :
    outages (first ++ second) = outages first ++ outages second := by
  rw [outages, milestones_append, List.filterMap_append]
  rfl

theorem PollingFault.append_right {first second : List (Event σ)} {e : TransmitError}
    (h : PollingFault second e) : PollingFault (first ++ second) e := by
  refine h.imp_left fun hfailed ↦ ?_
  obtain ⟨cause, hcause, rfl⟩ := hfailed
  rw [outages_append]
  exact ⟨cause, List.mem_append_right _ hcause, rfl⟩

namespace Scene

variable [Network W σ] {scene : Scene W σ} {ticket : WaitTicket σ} {timeout : Duration}
  {e : TransmitError}

omit [Network W σ] in
theorem concludeWait_error {answer : Readiness}
    (h : (scene.concludeWait ticket answer).result = .error e) : e = .abortNotInitialized := by
  have hends := (scene.channel ticket.abort).drainEnds []
  rw [concludeWait] at h
  generalize (scene.channel ticket.abort).clearPendingSignals = out at hends h
  split at h
  · cases hends with
    | mute =>
      cases h
      rfl
    | drained => cases h
    | failed d _ _ _ hdrain => cases hdrain.symm.trans d.drain_eq
  · cases h

theorem finishWait_error (h : (scene.finishWait ticket timeout).result = .error e) :
    PollingFault (scene.finishWait ticket timeout).events e := by
  rw [finishWait, askPoller] at h ⊢
  dsimp only at h ⊢
  generalize Network.waitReady (scene.handlesOf ticket) timeout scene.world = out at h ⊢
  obtain ⟨⟨cause⟩ | ⟨answer⟩, world⟩ := out
  · cases h
    exact .inl ⟨cause, List.mem_singleton_self _, rfl⟩
  · exact .inr (concludeWait_error h)

theorem waiting_finishWait : (scene.finishWait ticket timeout).scene.engine.waiting = false := by
  rw [finishWait]
  split <;> rfl

omit [Network W σ] in
/-- A look at the state of an engine that is created only fails for want of a doorbell. -/
theorem survey_error {core : Core σ} (hcreated : scene.engine.lifecycle = .created core)
    (h : scene.survey = .decided (.error e)) : e = .abortNotInitialized := by
  have hcore : scene.engine.lifecycle.core = .ok core := by rw [hcreated]; rfl
  rw [survey, hcore] at h
  dsimp only at h
  split at h
  · cases h
  · rw [AbortChannel.readyHandle] at h
    split at h
    · rename_i hready
      split at hready
      · cases hready
      · cases hready
        cases h
        rfl
    · cases h

end Scene

namespace CommandLine

/-! ## Journals -/

/-- The packet that is reported as taken out of the queue. -/
def Activity.packet? : Activity σ → Option Packet
  | notice (.packetReceived packet) => some packet
  | _ => none

/-- Whether a report concerns no packet. -/
def Notice.IsPlain : Notice → Prop
  | packetReceived _ | echoFailed _ => False
  | _ => True

namespace Journal

/-- The packets that were taken out of the queue, in order. -/
def packets (j : Journal σ) : List Packet := j.reverse.filterMap Activity.packet?

theorem history_append (later earlier : Journal σ) :
    Journal.history (later ++ earlier) = earlier.history ++ later.history := by
  rw [history, List.reverse_append, List.filterMap_append]
  rfl

theorem packets_append (later earlier : Journal σ) :
    Journal.packets (later ++ earlier) = earlier.packets ++ later.packets := by
  rw [packets, List.reverse_append, List.filterMap_append]
  rfl

/-- The events of a call, as a journal of their own. -/
theorem history_map_event (events : List (Event σ)) :
    Journal.history (events.map Activity.event).reverse = events := by
  rw [history, List.reverse_reverse, List.filterMap_map]
  exact List.filterMap_some ..

theorem packets_map_event (events : List (Event σ)) :
    Journal.packets (events.map Activity.event).reverse = [] := by
  rw [packets, List.reverse_reverse, List.filterMap_map]
  exact List.filterMap_eq_nil_iff.2 fun _ _ ↦ rfl

theorem notice_notMem_map_event (events : List (Event σ)) (n : Notice) :
    Activity.notice n ∉ (events.map Activity.event).reverse := by
  intro hmem
  obtain ⟨event, -, hevent⟩ := List.mem_map.1 (List.mem_reverse.1 hmem)
  cases hevent

/-- Nothing is completed, written, taken out of the queue or sent back in vain. -/
structure Plain (j : Journal σ) : Prop where
  judgements : judgements j.history = []
  postings : postings j.history = []
  packets : j.packets = []
  echoes : ∀ e, Activity.notice (.echoFailed e) ∉ j

namespace Plain

variable {later earlier : Journal σ}

theorem nil : Plain ([] : Journal σ) := ⟨rfl, rfl, rfl, fun _ ↦ List.not_mem_nil⟩

theorem append (hlater : Plain later) (hearlier : Plain earlier) : Plain (later ++ earlier) where
  judgements := by
    rw [history_append, judgements_append, hlater.judgements, hearlier.judgements]
    rfl
  postings := by
    rw [history_append, postings_append, hlater.postings, hearlier.postings]
    rfl
  packets := by
    rw [packets_append, hlater.packets, hearlier.packets]
    rfl
  echoes e := List.not_mem_append (hlater.echoes e) (hearlier.echoes e)

theorem of_events {events : List (Event σ)} (hjudgements : StreamRtp.judgements events = [])
    (hpostings : StreamRtp.postings events = []) :
    Plain (events.map Activity.event).reverse where
  judgements := by rw [history_map_event, hjudgements]
  postings := by rw [history_map_event, hpostings]
  packets := packets_map_event events
  echoes _ := notice_notMem_map_event events _

theorem of_notice {n : Notice} (h : n.IsPlain) : Plain ([.notice n] : Journal σ) := by
  cases n with
  | packetReceived packet | echoFailed e => exact h.elim
  | _ => exact ⟨rfl, rfl, rfl, fun e hmem ↦ by cases List.mem_singleton.1 hmem⟩

end Plain

end Journal

namespace Listener

variable [Network W σ] {limit : Nat} {s s' s'' : State W σ} {more later : Journal σ}

/-! ## Steps -/

/-- What every step does that neither completes a frame nor takes a packet out of the queue. -/
structure State.Keeps (limit : Nat) (s s' : State W σ) (more : Journal σ) : Prop where
  listens : s'.scene.engine.lifecycle.Listens W limit
  waiting : s'.scene.engine.waiting = s.scene.engine.waiting
  queue : s'.scene.engine.lifecycle.queue = s.scene.engine.lifecycle.queue
  received : s'.received = s.received
  journal : s'.journal = more ++ s.journal

theorem State.Keeps.trans (h : s.Keeps limit s' more) (hlater : s'.Keeps limit s'' later) :
    s.Keeps limit s'' (later ++ more) where
  listens := hlater.listens
  waiting := hlater.waiting.trans h.waiting
  queue := hlater.queue.trans h.queue
  received := hlater.received.trans h.received
  journal := by rw [hlater.journal, h.journal, List.append_assoc]

/-- At most, connections are added. -/
structure State.Welcomes (limit : Nat) (s s' : State W σ) (more : Journal σ) : Prop
    extends s.Keeps limit s' more where
  newcomers : ∃ newcomers,
    s'.scene.engine.lifecycle.entries = s.scene.engine.lifecycle.entries ++ newcomers
  plain : more.Plain

namespace State.Welcomes

theorem refl (h : s.scene.engine.lifecycle.Listens W limit) : s.Welcomes limit s [] where
  listens := h
  waiting := rfl
  queue := rfl
  received := rfl
  journal := rfl
  newcomers := ⟨[], (List.append_nil _).symm⟩
  plain := .nil

theorem trans (h : s.Welcomes limit s' more) (hlater : s'.Welcomes limit s'' later) :
    s.Welcomes limit s'' (later ++ more) where
  toKeeps := h.toKeeps.trans hlater.toKeeps
  newcomers := by
    obtain ⟨first, hfirst⟩ := h.newcomers
    obtain ⟨second, hsecond⟩ := hlater.newcomers
    exact ⟨first ++ second, by rw [hsecond, hfirst, List.append_assoc]⟩
  plain := hlater.plain.append h.plain

/-- It does not matter whether somebody is still to be woken. -/
theorem reowe (h : s.Welcomes limit s' more) (owed : Bool) :
    s.Welcomes limit { s' with owed } more :=
  ⟨⟨h.listens, h.waiting, h.queue, h.received, h.journal⟩, h.newcomers, h.plain⟩

end State.Welcomes

section Arrivals

variable (h : s.scene.engine.lifecycle.Listens W limit)

include h

/-- A report that concerns no packet. -/
theorem State.welcomes_notice {n : Notice} (hplain : n.IsPlain) :
    s.Welcomes limit { s with journal := s.journal.notice n } [.notice n] where
  listens := h
  waiting := rfl
  queue := rfl
  received := rfl
  journal := rfl
  newcomers := ⟨[], (List.append_nil _).symm⟩
  plain := .of_notice hplain

theorem State.welcomes_addDestination (stream : σ) :
    let added := s.scene.withCore (·.addDestination stream)
    s.Welcomes limit { s with scene := added.scene, journal := s.journal.events added.events }
      (added.events.map Activity.event).reverse := by
  obtain ⟨core, hcreated, -⟩ := h.created
  intro added
  have hadded : added = _ := s.scene.withCore_of_created hcreated (·.addDestination stream)
  have hroutine : (Call.addDestination stream).IsRoutine := trivial
  have hlistens : added.scene.engine.lifecycle.Listens W limit :=
    (Scene.listens_perform h hroutine).1
  obtain ⟨hqueue, -, hjudgements⟩ := core.keepsQueue_addDestination stream s.scene.world
  obtain ⟨hnewcomers, hpostings⟩ := core.addDestination_frame stream s.scene.world
  refine ⟨⟨hlistens, ?_, ?_, rfl, Journal.events_eq ..⟩, ?_, ?_⟩
  · rw [hadded]
  · rw [hadded, hcreated]
    exact hqueue
  · rw [hadded, hcreated]
    exact hnewcomers
  · rw [hadded]
    exact .of_events hjudgements hpostings

theorem State.welcomes_abortWait :
    s.Welcomes limit
      { s with
        scene := s.scene.abortWait.scene
        journal := s.journal.events s.scene.abortWait.events }
      (s.scene.abortWait.events.map Activity.event).reverse := by
  obtain ⟨hlifecycle, hsilent⟩ := s.scene.abortWait_frame
  refine ⟨⟨?_, s.scene.sameState_abortWait.waiting, congrArg Lifecycle.queue hlifecycle, rfl,
    Journal.events_eq ..⟩, ⟨[], ?_⟩, ?_⟩
  · rw [hlifecycle]
    exact h
  · rw [hlifecycle, List.append_nil]
  · exact .of_events hsilent.judgements_eq_nil (s.scene.abortWait_quiet []).2.postings_eq_nil

theorem State.welcomes_wake : ∃ more, s.Welcomes limit s.wake more := by
  have hwoken := State.welcomes_abortWait h
  rw [wake]
  split
  · dsimp only
    cases s.scene.abortWait.result with
    | ok _ => exact ⟨_, hwoken.reowe false⟩
    | error e =>
      have hfailed : (Notice.wakeFailed e).IsPlain := trivial
      exact ⟨_, (hwoken.trans (State.welcomes_notice hwoken.listens hfailed)).reowe false⟩
  · exact ⟨[], .refl h⟩

theorem State.welcomes_arrive (arrival : Arrival σ) :
    ∃ more, s.Welcomes limit (s.arrive arrival) more := by
  obtain ⟨e⟩ | ⟨stream, peer⟩ := arrival
  · exact ⟨_, State.welcomes_notice h trivial⟩
  · have hadded := State.welcomes_addDestination h stream
    have hrejected : ∀ e, (Notice.clientRejected peer e).IsPlain := fun _ ↦ trivial
    have hconnected : ∀ id, (Notice.clientConnected id peer).IsPlain := fun _ ↦ trivial
    rw [arrive]
    dsimp only at hadded ⊢
    cases hresult : (s.scene.withCore (·.addDestination stream)).result with
    | error e => exact ⟨_, hadded.trans (State.welcomes_notice hadded.listens (hrejected e))⟩
    | ok id =>
      exact ⟨_, (hadded.trans
        (State.welcomes_notice hadded.listens (hconnected id))).reowe true⟩

/-- By a step of the accept loop at most a connection is added. -/
theorem State.welcomes_accept (step : AcceptStep σ) :
    ∃ more, s.Welcomes limit (s.accept step) more := by
  obtain ⟨more, hmore⟩ := s.welcomes_wake h
  cases step with
  | wake => exact ⟨more, hmore⟩
  | arrive arrival =>
    obtain ⟨later, hlater⟩ := s.wake.welcomes_arrive hmore.listens arrival
    exact ⟨_, hmore.trans hlater⟩

/-- Whatever the accept loop does before the next step, at most connections are added. -/
theorem State.welcomes_meanwhile : ∃ more, s.Welcomes limit s.meanwhile more := by
  have hfold : ∀ (now : List (AcceptStep σ)) (s : State W σ),
      s.scene.engine.lifecycle.Listens W limit →
        ∃ more, s.Welcomes limit (now.foldl State.accept s) more := by
    intro now
    induction now with
    | nil => exact fun s h ↦ ⟨[], .refl h⟩
    | cons step now ih =>
      intro s h
      obtain ⟨more, hmore⟩ := s.welcomes_accept h step
      obtain ⟨later, hlater⟩ := ih _ hmore.listens
      exact ⟨_, hmore.trans hlater⟩
  rw [meanwhile]
  cases hplan : s.arrivals with
  | nil => exact ⟨[], .refl h⟩
  | cons now rest =>
    obtain ⟨more, hmore⟩ := hfold now { s with arrivals := rest } h
    exact ⟨more, ⟨⟨hmore.listens, hmore.waiting, hmore.queue, hmore.received, hmore.journal⟩,
      hmore.newcomers, hmore.plain⟩⟩

/-- A wait at most sees connections being added. It fails with the poller, or for want of a
doorbell. -/
theorem State.welcomes_wait (hwaiting : s.scene.engine.waiting = false) :
    ∃ more, s.Welcomes limit s.wait.2 more ∧
      ∀ e, s.wait.1 = .error e → PollingFault more.history e := by
  obtain ⟨core, hcreated, -⟩ := h.created
  rcases hsurvey : s.scene.survey with result | ticket
  · rw [wait, s.scene.beginWait_of_decided hwaiting hsurvey]
    refine ⟨[], .refl h, fun e he ↦ .inr (Scene.survey_error hcreated ?_)⟩
    exact hsurvey.trans (congrArg WaitEntry.decided he)
  · rw [wait, s.scene.beginWait_of_asking hwaiting hsurvey]
    dsimp only
    obtain ⟨more, hmore⟩ :=
      ({ s with scene := s.scene.enterWait.2 } : State W σ).welcomes_meanwhile h
    generalize ({ s with scene := s.scene.enterWait.2 } : State W σ).meanwhile = met at hmore
    obtain ⟨hlifecycle, hsilent⟩ := met.scene.finishWait_frame ticket (.ofSeconds 1)
    have hquiet := (met.scene.finishWait_quiet ticket (.ofSeconds 1) []).2
    refine
      ⟨((met.scene.finishWait ticket (.ofSeconds 1)).events.map Activity.event).reverse ++ more,
      ⟨⟨?_, ?_, ?_, hmore.received, ?_⟩, ?_, ?_⟩, fun e he ↦ ?_⟩
    · rw [hlifecycle]
      exact hmore.listens
    · rw [hwaiting]
      exact Scene.waiting_finishWait
    · rw [hlifecycle]
      exact hmore.queue
    · rw [Journal.events_eq, hmore.journal, List.append_assoc]
    · rw [hlifecycle]
      exact hmore.newcomers
    · exact (Journal.Plain.of_events hsilent.judgements_eq_nil hquiet.postings_eq_nil).append
        hmore.plain
    · rw [Journal.history_append, Journal.history_map_event]
      exact (Scene.finishWait_error he).append_right

end Arrivals

/-! ## Packets -/

/-- What the loop does about one packet. -/
structure Dealing (σ : Type) where
  packet : Packet
  /-- The connections when the packet is taken out of the queue. -/
  registered : List (ConnectionId × Connection σ)
  /-- What is written on account of the packet. -/
  postings : List (Posting σ)
  /-- The connections afterwards. -/
  left : List (ConnectionId × Connection σ)

/-- A media packet is sent back, framed again, to every connection that is registered, and to those
that come until it is sent. Those stay whose write does not fail. On account of any other packet
nothing is written, and nobody is given up. -/
structure Dealing.Fair (echo : Bool) (d : Dealing σ) : Prop where
  echoed : echo = true → d.packet.isRtp = true → ∃ (routes : List (Route σ)) (newcomers : List _),
    routes.map (·.1) = d.registered ++ newcomers ∧ (routes.map (·.1.1)).Nodup ∧
      d.postings = routes.map (Route.posting (Frame.wire d.packet.data)) ∧
      d.left = (routes.filter (·.failure?.isNone)).map (·.1)
  kept : ¬(echo = true ∧ d.packet.isRtp = true) → d.postings = [] ∧ d.left = d.registered

/-- What a listener does about the first packet of its queue. -/
def State.dealing? (s : State W σ) (echo : Bool) : Option (Dealing σ) :=
  s.scene.engine.lifecycle.queue.head?.map fun packet ↦
    ⟨packet, s.scene.engine.lifecycle.entries,
      postings ((s.handle echo).journal.history.drop s.journal.history.length),
      (s.handle echo).scene.engine.lifecycle.entries⟩

/-- What a listener does about so many packets. -/
def State.dealings (echo : Bool) : Nat → State W σ → List (Dealing σ)
  | 0, _ => []
  | n + 1, s =>
    (s.meanwhile.dealing? echo).toList ++ State.dealings echo n (s.meanwhile.handle echo)

/-- A packet is sent back, to whoever is registered by then. -/
structure State.SendsBack (limit : Nat) (packet : Packet) (s s' : State W σ) (more : Journal σ)
    (routes : List (Route σ)) : Prop extends s.Keeps limit s' more where
  everyone : ∃ newcomers, routes.map (·.1) = s.scene.engine.lifecycle.entries ++ newcomers
  once : (routes.map (·.1.1)).Nodup
  left : s'.scene.engine.lifecycle.entries = (routes.filter (·.failure?.isNone)).map (·.1)
  postings : postings more.history = routes.map (Route.posting (Frame.wire packet.data))
  judgements : judgements more.history = []
  packets : more.packets = []
  echoes : ∀ e, Activity.notice (.echoFailed e) ∈ more → ∃ id cause, e = .send id cause

/-- Connections may be added before. -/
theorem State.Welcomes.sendsBack {packet : Packet} {routes : List (Route σ)}
    (h : s.Welcomes limit s' more) (hsent : s'.SendsBack limit packet s'' later routes) :
    s.SendsBack limit packet s'' (later ++ more) routes where
  toKeeps := h.toKeeps.trans hsent.toKeeps
  everyone := by
    obtain ⟨first, hfirst⟩ := h.newcomers
    obtain ⟨second, hsecond⟩ := hsent.everyone
    exact ⟨first ++ second, by rw [hsecond, hfirst, List.append_assoc]⟩
  once := hsent.once
  left := hsent.left
  postings := by
    rw [Journal.history_append, postings_append, h.plain.postings]
    exact hsent.postings
  judgements := by
    rw [Journal.history_append, judgements_append, h.plain.judgements]
    exact hsent.judgements
  packets := by
    rw [Journal.packets_append, h.plain.packets]
    exact hsent.packets
  echoes e hmem :=
    hsent.echoes e ((List.mem_append.1 hmem).resolve_right (h.plain.echoes e))

/-- What is reported of a packet that was sent back: nothing, or the first failure of a write. -/
theorem State.journal_sendBack {core : Core σ} (hcreated : s.scene.engine.lifecycle = .created core)
    {packet : Packet} (hfits : packet.data.length ≤ core.sendLimit) :
    ∃ report : Journal σ, (s.sendBack packet).journal = report
        ++ (((core.send packet.data s.scene.world).events.map Activity.event).reverse
          ++ s.journal) ∧
      report.history = [] ∧ report.packets = [] ∧
      ∀ e, Activity.notice (.echoFailed e) ∈ report → ∃ id cause, e = .send id cause := by
  rw [sendBack, s.scene.withCore_of_created hcreated]
  dsimp only
  rw [Journal.events_eq]
  cases hsent : (core.send packet.data s.scene.world).result with
  | ok _ => exact ⟨[], rfl, rfl, rfl, nofun⟩
  | error e =>
    refine ⟨[.notice (.echoFailed e)], rfl, rfl, rfl, fun e' hmem ↦ ?_⟩
    cases List.mem_singleton.1 hmem
    exact (core.send_error hsent).resolve_left (Nat.not_lt.2 hfits)

/-- A packet that the engine may send is sent back. What fails is a write, and it is reported. -/
theorem State.exists_sendsBack (h : s.scene.engine.lifecycle.Listens W limit) {packet : Packet}
    (hle : packet.data.length ≤ min limit Frame.maxPayload) :
    ∃ more routes, s.SendsBack limit packet (s.sendBack packet) more routes := by
  obtain ⟨core, hcreated, -⟩ := h.created
  have hroutine : (Call.sendRtp packet.data : Call σ).IsRoutine := trivial
  have hlistens : (s.sendBack packet).scene.engine.lifecycle.Listens W limit :=
    (Scene.listens_perform h hroutine).1
  have hlimit : core.maxPacketSize = limit := h.bounded.engine _ (by rw [hcreated]; rfl)
  have hfits : packet.data.length ≤ core.sendLimit := by rwa [Core.sendLimit, hlimit]
  have hscene : (s.sendBack packet).scene = _ :=
    congrArg Outcome.scene (s.scene.withCore_of_created hcreated (·.send packet.data))
  obtain ⟨routes, hout, -⟩ := core.exists_fanOut hfits s.scene.world
  obtain ⟨hqueue, -, hjudgements⟩ := core.keepsQueue_send packet.data s.scene.world
  obtain ⟨report, hjournal, hhistory, hpackets, hechoes⟩ := State.journal_sendBack hcreated hfits
  have hsaid : Journal.history (report
      ++ ((core.send packet.data s.scene.world).events.map Activity.event).reverse)
        = (core.send packet.data s.scene.world).events := by
    rw [Journal.history_append, Journal.history_map_event, hhistory, List.append_nil]
  have heveryone : routes.map (·.1) = s.scene.engine.lifecycle.entries := by
    rw [hcreated]
    exact hout.everyone
  refine ⟨_, routes, ⟨hlistens, ?_, ?_, rfl, hjournal.trans (List.append_assoc ..).symm⟩,
    ⟨[], heveryone.trans (List.append_nil _).symm⟩, ?_, ?_, ?_, ?_, ?_, fun e hmem ↦ ?_⟩
  · rw [hscene]
  · rw [hscene, hcreated]
    exact hqueue
  · have hnodup := s.scene.engine.lifecycle.nodup_entries
    rwa [← heveryone, List.map_map] at hnodup
  · rw [hscene]
    exact hout.kept
  · rw [hsaid, hout.postings_eq]
  · rw [hsaid, hjudgements]
  · rw [Journal.packets_append, Journal.packets_map_event, hpackets]
    rfl
  · exact hechoes e ((List.mem_append.1 hmem).resolve_right (Journal.notice_notMem_map_event _ _))

/-! ## Stretches of the loop -/

/-- What the loop does between two of its states: every frame that is completed is taken out of the
queue, in order, or waits, and nothing is written but on account of the packets. -/
structure State.Proceeds (limit : Nat) (echo : Bool) (s s' : State W σ) (more : Journal σ)
    (dealings : List (Dealing σ)) : Prop where
  listens : s'.scene.engine.lifecycle.Listens W limit
  waiting : s'.scene.engine.waiting = s.scene.engine.waiting
  journal : s'.journal = more ++ s.journal
  received : s'.received = s.received + dealings.length
  conserved : s.scene.engine.lifecycle.queue.map Packet.origin ++ completed more.history
    = dealings.map (·.packet.origin) ++ s'.scene.engine.lifecycle.queue.map Packet.origin
  postings : postings more.history = dealings.flatMap (·.postings)
  packets : more.packets = dealings.map (·.packet)
  fair : ∀ d ∈ dealings, d.Fair echo
  echoes : ∀ e, Activity.notice (.echoFailed e) ∈ more → ∃ id cause, e = .send id cause

variable {echo : Bool} {first second : List (Dealing σ)}

theorem State.Welcomes.proceeds (h : s.Welcomes limit s' more) (echo : Bool) :
    s.Proceeds limit echo s' more [] where
  listens := h.listens
  waiting := h.waiting
  journal := h.journal
  received := h.received
  conserved := by
    rw [h.queue, completed_eq_nil h.plain.judgements]
    exact List.append_nil _
  postings := h.plain.postings
  packets := h.plain.packets
  fair := List.forall_mem_nil _
  echoes e hmem := absurd hmem (h.plain.echoes e)

theorem State.Proceeds.trans (h : s.Proceeds limit echo s' more first)
    (hlater : s'.Proceeds limit echo s'' later second) :
    s.Proceeds limit echo s'' (later ++ more) (first ++ second) where
  listens := hlater.listens
  waiting := hlater.waiting.trans h.waiting
  journal := by rw [hlater.journal, h.journal, List.append_assoc]
  received := by rw [hlater.received, h.received, List.length_append, Nat.add_assoc]
  conserved := by
    rw [Journal.history_append, completed_append, ← List.append_assoc, h.conserved,
      List.append_assoc, hlater.conserved, List.map_append, List.append_assoc]
  postings := by
    rw [Journal.history_append, postings_append, h.postings, hlater.postings, List.flatMap_append]
  packets := by rw [Journal.packets_append, h.packets, hlater.packets, List.map_append]
  fair := List.forall_mem_append.2 ⟨h.fair, hlater.fair⟩
  echoes e hmem := (List.mem_append.1 hmem).elim (hlater.echoes e) (h.echoes e)

/-! ## Packets that are handled -/

section Handling

variable {packet : Packet} {rest : List Packet}

/-- A listener that has taken the first packet out of the queue. -/
def State.took (s : State W σ) (packet : Packet) : State W σ :=
  { s with
    scene := (s.scene.withCore Core.nextPacket).scene
    received := s.received + 1
    journal := s.journal.notice (.packetReceived packet) }

theorem State.handle_of_cons (echo : Bool) (h : s.scene.engine.lifecycle.Listens W limit)
    (hqueue : s.scene.engine.lifecycle.queue = packet :: rest) :
    s.handle echo = (if echo && packet.isRtp then (s.took packet).meanwhile.sendBack packet
      else s.took packet) := by
  obtain ⟨core, hcreated, -⟩ := h.created
  rw [hcreated] at hqueue
  have hresult : (s.scene.withCore Core.nextPacket).result = .ok packet := by
    rw [s.scene.withCore_of_created hcreated, Core.nextPacket]
    change core.queue = _ at hqueue
    rw [hqueue]
    rfl
  rw [handle]
  dsimp only
  rw [hresult]
  rfl

/-- Taking a packet out of the queue leaves the connections alone. -/
theorem State.took_frame (h : s.scene.engine.lifecycle.Listens W limit)
    (hqueue : s.scene.engine.lifecycle.queue = packet :: rest) :
    (s.took packet).scene.engine.lifecycle.Listens W limit ∧
      (s.took packet).scene.engine.lifecycle.queue = rest ∧
      (s.took packet).scene.engine.lifecycle.entries = s.scene.engine.lifecycle.entries ∧
      (s.took packet).scene.engine.waiting = s.scene.engine.waiting := by
  obtain ⟨core, hcreated, -⟩ := h.created
  have hroutine : (Call.nextPacket : Call σ).IsRoutine := trivial
  have hscene : (s.took packet).scene = _ :=
    congrArg Outcome.scene (s.scene.withCore_of_created hcreated Core.nextPacket)
  refine ⟨(Scene.listens_perform h hroutine).1, ?_⟩
  rw [hscene, hcreated]
  rw [hcreated] at hqueue
  change core.queue = _ at hqueue
  rw [Core.nextPacket, hqueue]
  exact ⟨rfl, rfl, rfl⟩

/-- A packet is dealt with if what follows its removal from the queue is fair. -/
theorem State.proceeds_of_took (h : s.scene.engine.lifecycle.Listens W limit)
    (hqueue : s.scene.engine.lifecycle.queue = packet :: rest)
    (hkeeps : (s.took packet).Keeps limit (s.handle echo) later)
    (hjudgements : judgements later.history = []) (hpackets : later.packets = [])
    (hechoes : ∀ e, Activity.notice (.echoFailed e) ∈ later → ∃ id cause, e = .send id cause)
    (hfair : Dealing.Fair echo ⟨packet, s.scene.engine.lifecycle.entries, postings later.history,
      (s.handle echo).scene.engine.lifecycle.entries⟩) :
    ∃ more d, s.dealing? echo = some d ∧ s.Proceeds limit echo (s.handle echo) more [d] ∧
      (s.handle echo).scene.engine.lifecycle.queue = rest := by
  obtain ⟨-, hrest, -, hwaiting⟩ := State.took_frame h hqueue
  have hjournal : (s.handle echo).journal
      = (later ++ [.notice (.packetReceived packet)]) ++ s.journal := by
    rw [hkeeps.journal, List.append_assoc]
    rfl
  have hhistory : Journal.history (later ++ [.notice (.packetReceived packet)])
      = later.history := by
    rw [Journal.history_append]
    rfl
  have hdealing : s.dealing? echo = some ⟨packet, s.scene.engine.lifecycle.entries,
      postings later.history, (s.handle echo).scene.engine.lifecycle.entries⟩ := by
    rw [dealing?, hqueue, hjournal, Journal.history_append, List.drop_left, hhistory]
    rfl
  refine ⟨_, _, hdealing, ⟨hkeeps.listens, hkeeps.waiting.trans hwaiting, hjournal, hkeeps.received,
    ?_, ?_, ?_, List.forall_mem_singleton.2 hfair, fun e hmem ↦ ?_⟩, hkeeps.queue.trans hrest⟩
  · rw [hhistory, completed_eq_nil hjudgements, List.append_nil, hqueue, hkeeps.queue, hrest]
    rfl
  · rw [hhistory]
    exact (List.append_nil _).symm
  · rw [Journal.packets_append, hpackets]
    rfl
  · refine hechoes e ((List.mem_append.1 hmem).resolve_right fun hmem ↦ ?_)
    cases List.mem_singleton.1 hmem

/-- The loop takes the first packet out of the queue and deals with it. -/
theorem State.proceeds_handle (h : s.scene.engine.lifecycle.Listens W limit)
    (hqueue : s.scene.engine.lifecycle.queue = packet :: rest) (echo : Bool) :
    ∃ more d, s.dealing? echo = some d ∧ s.Proceeds limit echo (s.handle echo) more [d] ∧
      (s.handle echo).scene.engine.lifecycle.queue = rest := by
  obtain ⟨hlistens, -, hentries, -⟩ := State.took_frame h hqueue
  have hhandle := State.handle_of_cons echo h hqueue
  by_cases hecho : echo = true ∧ packet.isRtp = true
  · rw [if_pos (by rw [hecho.1, hecho.2]; rfl)] at hhandle
    obtain ⟨met, hmet⟩ := State.welcomes_meanwhile hlistens
    have hle : packet.data.length ≤ min limit Frame.maxPayload :=
      h.queued packet (hqueue ▸ List.mem_cons_self)
    obtain ⟨sent, routes, hsent⟩ := State.exists_sendsBack hmet.listens hle
    have hback := hmet.sendsBack hsent
    rw [← hhandle] at hback
    obtain ⟨newcomers, heveryone⟩ := hback.everyone
    rw [hentries] at heveryone
    exact State.proceeds_of_took h hqueue hback.toKeeps hback.judgements hback.packets hback.echoes
      ⟨fun _ _ ↦ ⟨routes, newcomers, heveryone, hback.once, hback.postings, hback.left⟩,
        fun hnot ↦ absurd hecho hnot⟩
  · rw [if_neg (by rwa [Bool.and_eq_true])] at hhandle
    have hkeeps : (s.took packet).Keeps limit (s.handle echo) [] := by
      rw [hhandle]
      exact ⟨hlistens, rfl, rfl, rfl, rfl⟩
    refine State.proceeds_of_took h hqueue hkeeps rfl rfl nofun
      ⟨fun hon hrtp ↦ absurd ⟨hon, hrtp⟩ hecho, fun _ ↦ ⟨rfl, ?_⟩⟩
    rw [hhandle]
    exact hentries

/-- The loop deals with every packet that is queued. -/
theorem State.proceeds_handleAll (h : s.scene.engine.lifecycle.Listens W limit) (echo : Bool)
    {n : Nat} (hlength : s.scene.engine.lifecycle.queue.length = n) :
    ∃ more, s.Proceeds limit echo (s.handleAll echo n) more (s.dealings echo n) ∧
      (s.handleAll echo n).scene.engine.lifecycle.queue = [] := by
  induction n generalizing s with
  | zero => exact ⟨[], (State.Welcomes.refl h).proceeds echo, List.length_eq_zero_iff.1 hlength⟩
  | succ n ih =>
    obtain ⟨met, hmet⟩ := State.welcomes_meanwhile h
    rw [← hmet.queue] at hlength
    obtain ⟨packet, rest, hqueue⟩ := List.exists_cons_of_length_eq_add_one hlength
    obtain ⟨more, d, hdealing, hmore, hrest⟩ := State.proceeds_handle hmet.listens hqueue echo
    rw [hqueue, List.length_cons, Nat.add_right_cancel_iff, ← hrest] at hlength
    obtain ⟨later, hlater, hempty⟩ := ih hmore.listens hlength
    have hfirst := (hmet.proceeds echo).trans (hmore.trans hlater)
    rw [handleAll, dealings, hdealing]
    exact ⟨_, hfirst, hempty⟩

end Handling

/-! ## Rounds -/

/-- What a round begins with: wait, and receive. -/
def State.look (s : State W σ) : Except TransmitError Unit × State W σ :=
  match s.meanwhile.wait with
  | (.error e, s) => (.error e, s)
  | (.ok _, s) =>
    let s := s.meanwhile
    let polled := s.scene.withCore Core.poll
    (polled.result, { s with scene := polled.scene, journal := s.journal.events polled.events })

/-- What a listener does about the packets of so many rounds. -/
def State.course (echo : Bool) : Nat → State W σ → List (Dealing σ)
  | 0, _ => []
  | n + 1, s =>
    match s.look with
    | (.error _, _) => []
    | (.ok (), s) => s.dealings echo s.queued ++ State.course echo n (s.handleAll echo s.queued)

theorem State.round_of_error {e : TransmitError} (h : s.look = (.error e, s')) :
    s.round echo = (.error e, s') := by
  rw [look] at h
  rw [round]
  rcases hwait : s.meanwhile.wait with ⟨⟨e⟩ | ⟨available⟩, waited⟩
  · rw [hwait] at h
    exact h
  · rw [hwait] at h
    dsimp only at h ⊢
    obtain ⟨hresult, rfl⟩ := Prod.mk.inj h
    rw [hresult]

theorem State.round_of_ok (h : s.look = (.ok (), s')) :
    s.round echo = (.ok (), s'.handleAll echo s'.queued) := by
  rw [look] at h
  rw [round]
  rcases hwait : s.meanwhile.wait with ⟨⟨e⟩ | ⟨available⟩, waited⟩
  · rw [hwait] at h
    cases h
  · rw [hwait] at h
    dsimp only at h ⊢
    obtain ⟨hresult, rfl⟩ := Prod.mk.inj h
    rw [hresult]

/-- A receive pass completes frames, which wait then. It fails with the poller, and then nothing has
changed. -/
theorem State.proceeds_poll (h : s.scene.engine.lifecycle.Listens W limit) (echo : Bool) :
    let polled := s.scene.withCore Core.poll
    let s' := { s with scene := polled.scene, journal := s.journal.events polled.events }
    s.Proceeds limit echo s' (polled.events.map Activity.event).reverse [] ∧
      ∀ e, polled.result = .error e → PollingFault polled.events e ∧
        s'.scene.engine.lifecycle.queue = s.scene.engine.lifecycle.queue := by
  obtain ⟨core, hcreated, -⟩ := h.created
  have hroutine : (Call.poll : Call σ).IsRoutine := trivial
  obtain ⟨hlistens, hconserved⟩ := Scene.listens_perform h hroutine
  intro polled s'
  have hpolled : polled = _ := s.scene.withCore_of_created hcreated Core.poll
  have hnone := Journal.notice_notMem_map_event polled.events
  refine ⟨⟨hlistens, ?_, Journal.events_eq .., rfl, ?_, ?_, Journal.packets_map_event _,
    List.forall_mem_nil _, fun e hmem ↦ absurd hmem (hnone _)⟩, fun e he ↦ ?_⟩
  · change polled.scene.engine.waiting = _
    rw [hpolled]
  · rw [Journal.history_map_event]
    exact hconserved
  · rw [Journal.history_map_event, hpolled]
    exact core.postings_poll s.scene.world
  · change _ ∧ polled.scene.engine.lifecycle.queue = _
    rw [hpolled] at he ⊢
    obtain ⟨hsome, cause, w, rfl, hasked⟩ := core.poll_error he
    rw [Core.poll_of_error hsome hasked, hcreated]
    exact ⟨.inl ⟨cause, List.mem_singleton_self _, rfl⟩, rfl⟩

/-- What a round begins with fails for a reason of the poller, and then no packet waits that has not
waited before. -/
theorem State.proceeds_look (h : s.scene.engine.lifecycle.Listens W limit)
    (hwaiting : s.scene.engine.waiting = false) (echo : Bool) :
    ∃ more, s.Proceeds limit echo s.look.2 more [] ∧
      ∀ e, s.look.1 = .error e → PollingFault more.history e ∧
        s.look.2.scene.engine.lifecycle.queue = s.scene.engine.lifecycle.queue := by
  obtain ⟨before, hbefore⟩ := State.welcomes_meanwhile h
  obtain ⟨during, hduring, hfault⟩ :=
    State.welcomes_wait hbefore.listens (hbefore.waiting.trans hwaiting)
  rw [look]
  rcases hwait : s.meanwhile.wait with ⟨⟨e⟩ | ⟨available⟩, waited⟩
  · rw [hwait] at hduring hfault
    have hwaited := hbefore.trans hduring
    refine ⟨_, hwaited.proceeds echo, fun e' he' ↦ ⟨?_, hwaited.queue⟩⟩
    obtain rfl : e = e' := Except.error.inj he'
    rw [Journal.history_append]
    exact (hfault e rfl).append_right
  · rw [hwait] at hduring
    obtain ⟨after, hafter⟩ := State.welcomes_meanwhile hduring.listens
    have hready := (hbefore.trans hduring).trans hafter
    obtain ⟨hpolled, hfailed⟩ := State.proceeds_poll hready.listens echo
    refine ⟨_, (hready.proceeds echo).trans hpolled, fun e he ↦ ?_⟩
    obtain ⟨hcause, hqueue⟩ := hfailed e he
    rw [Journal.history_append, Journal.history_map_event]
    exact ⟨hcause.append_right, hqueue.trans hready.queue⟩

/-- After every round the queue is empty again, and a round fails for a reason of the poller. -/
theorem State.proceeds_rounds (h : s.scene.engine.lifecycle.Listens W limit)
    (hwaiting : s.scene.engine.waiting = false) (hempty : s.scene.engine.lifecycle.queue = [])
    (echo : Bool) (n : Nat) :
    ∃ more, s.Proceeds limit echo (s.rounds echo n).2 more (s.course echo n) ∧
      (s.rounds echo n).2.scene.engine.lifecycle.queue = [] ∧
      ∀ e, (s.rounds echo n).1 = .error e → PollingFault more.history e := by
  induction n generalizing s with
  | zero => exact ⟨[], (State.Welcomes.refl h).proceeds echo, hempty, nofun⟩
  | succ n ih =>
    obtain ⟨begun, hbegun, hfault⟩ := State.proceeds_look h hwaiting echo
    rw [rounds, course]
    rcases hlook : s.look with ⟨⟨e⟩ | ⟨⟨⟩⟩, looked⟩
    · rw [hlook] at hbegun hfault
      rw [State.round_of_error hlook]
      obtain ⟨hcause, hqueue⟩ := hfault e rfl
      refine ⟨begun, hbegun, hqueue.trans hempty, fun e' he' ↦ ?_⟩
      cases he'
      exact hcause
    · rw [hlook] at hbegun
      rw [State.round_of_ok hlook]
      obtain ⟨core, hcreated, -⟩ := hbegun.listens.created
      have hqueued : looked.scene.engine.lifecycle.queue.length = looked.queued := by
        rw [queued, hcreated]
        rfl
      obtain ⟨handled, hhandled, hnone⟩ :=
        State.proceeds_handleAll hbegun.listens echo hqueued
      obtain ⟨more, hmore, hlast, herror⟩ :=
        ih hhandled.listens (hhandled.waiting.trans (hbegun.waiting.trans hwaiting)) hnone
      refine ⟨_, hbegun.trans (hhandled.trans hmore), hlast, fun e he ↦ ?_⟩
      rw [Journal.history_append, Journal.history_append]
      exact (herror e he).append_right.append_right

/-! ## The main result -/

/-- A listener about to begin its receive loop with an engine that has answered calls before. -/
def State.beginning (engine : Engine σ) (channels : List AbortChannel) (w : W)
    (arrivals : List (List (AcceptStep σ))) : State W σ :=
  ⟨⟨engine, channels, w⟩, 0, arrivals, false, []⟩

/-- **The receive loop.** A listener runs its loop on an engine with an empty queue that accepts
every source and whose limit has not changed, or at least was not lowered under a frame that is
under way. Whatever the waits, the receive passes and the writes come to, and whoever connects in
between:

* If the loop succeeds, the number that it returns is that of the frames it has completed, and the
  queue is empty.
* If it fails, the poller has failed, or there was no doorbell for a wait to listen to.
* Every frame that was completed is taken out of the queue, in order, and dealt with.
* Every packet is dealt with as `Dealing.Fair` asks, and nothing is written but on account of a
  packet. Without echo nothing is written at all.
* An echo fails with a failed write, never because the packet is too big. -/
theorem receive_fair (occasions : List (Occasion W σ)) {core : Core σ}
    (hcreated : ((Engine.new : Engine σ).live occasions).2.lifecycle = .created core)
    (hlimit : (∀ o ∈ occasions, ∀ size, o.call ≠ .setMaxPacketSize size) ∨
      ∀ e ∈ core.destinations.toList, e.2.assembler.phase.Within core.maxPacketSize)
    (hqueue : core.queue = []) (hmode : core.filter.mode = .acceptAll)
    (channels : List AbortChannel) (w : W) (arrivals : List (List (AcceptStep σ))) (echo : Bool)
    (rounds : Nat) :
    let start : State W σ :=
      .beginning ((Engine.new : Engine σ).live occasions).2 channels w arrivals
    let out := start.receive echo rounds
    let history := out.2.journal.history
    let dealings := start.course echo rounds
    (∀ received, out.1 = .ok received → received = (completed history).length ∧
        ∃ core', out.2.scene.engine.lifecycle = .created core' ∧ core'.queue = []) ∧
      (∀ e, out.1 = .error e → PollingFault history e) ∧
      out.2.journal.packets = dealings.map (·.packet) ∧
      dealings.map (·.packet.origin) = completed history ∧
      (∀ d ∈ dealings, d.Fair echo) ∧
      postings history = dealings.flatMap (·.postings) ∧
      (echo = false → postings history = []) ∧
      ∀ e, Activity.notice (.echoFailed e) ∈ out.2.journal → ∃ id cause, e = .send id cause := by
  intro start out history dealings
  obtain ⟨hkeyed, limit, hbounded⟩ := Engine.exists_bounded hcreated hlimit
  have hstart : start.scene.engine.lifecycle = .created core := hcreated
  have hnone : start.scene.engine.lifecycle.queue = [] := by rw [hstart]; exact hqueue
  have hlistens : start.scene.engine.lifecycle.Listens W limit := by
    refine ⟨⟨core, hstart, hmode⟩, hstart ▸ hkeyed, hstart ▸ hbounded, ?_⟩
    rw [hnone]
    exact List.forall_mem_nil _
  have hwaiting : start.scene.engine.waiting = false :=
    (Engine.tidy_live Engine.tidy_new occasions).unmarked
  obtain ⟨more, hmore, hlast, herror⟩ := State.proceeds_rounds hlistens hwaiting hnone echo rounds
  rcases hrounds : start.rounds echo rounds with ⟨result, last⟩
  have hout : out = (result.map fun _ ↦ last.received, last) := by
    change start.receive echo rounds = _
    rw [State.receive, hrounds]
  rw [hrounds] at hmore hlast herror
  obtain ⟨core', hcreated', -⟩ := hmore.listens.created
  have hjournal : out.2.journal = more := by
    rw [hout]
    exact hmore.journal.trans (List.append_nil more)
  have hall : dealings.map (·.packet.origin) = completed more.history := by
    have hconserved := hmore.conserved
    rw [hnone, hlast, List.map_nil, List.append_nil] at hconserved
    exact hconserved.symm
  have hpostings := hmore.postings
  have hhistory : history = more.history := congrArg Journal.history hjournal
  rw [hjournal, hhistory]
  refine ⟨fun received hok ↦ ?_, fun e herr ↦ ?_, hmore.packets, hall, hmore.fair, hmore.postings,
    fun hoff ↦ ?_, hmore.echoes⟩
  · rw [hout] at hok ⊢
    obtain ⟨e⟩ | ⟨⟨⟩⟩ := result
    · cases hok
    · cases hok
      refine ⟨?_, core', hcreated', ?_⟩
      · rw [← hall, List.length_map]
        exact hmore.received.trans (Nat.zero_add _)
      · rw [hcreated'] at hlast
        exact hlast
  · rw [hout] at herr
    obtain ⟨e'⟩ | ⟨⟨⟩⟩ := result
    · cases herr
      exact herror e rfl
    · cases herr
  · rw [hpostings]
    refine List.flatMap_eq_nil_iff.2 fun d hd ↦ ((hmore.fair d hd).kept fun hecho ↦ ?_).1
    rw [hoff] at hecho
    cases hecho.1

/-- Two streams: on one of them a media packet and a control packet have arrived, on the other one
every write fails. -/
def lossyWorld : Scripted.World :=
  ⟨[("a", ⟨[.data [0, 3, 1, 2, 3, 0, 5, 128, 200, 0, 0, 0] none], false, [], none⟩),
    ("b", ⟨[], false, [], some (.os 32)⟩)], []⟩

/-- An engine is created, and both streams are registered. -/
def lossyOccasions : List (Occasion Scripted.World Scripted.Stream) :=
  [.init true, .create 1400 ⟨none, true, .acceptAll⟩, .addDestination ⟨"a", ⟨1⟩⟩,
    .addDestination ⟨"b", ⟨2⟩⟩].map fun call ↦ ⟨[], lossyWorld, call, []⟩

/-- A listener with this engine. -/
def lossyStart : State Scripted.World Scripted.Stream :=
  .beginning (Engine.new.live lossyOccasions).2 [] lossyWorld []

/-- The media packet goes to both streams, and one of them is given up. -/
theorem receive_fair_lossy : (lossyStart.receive true 1).1 = .ok 2 ∧
    (lossyStart.course true 1).map (·.packet.origin)
      = [(⟨1⟩, [1, 2, 3]), (⟨1⟩, [128, 200, 0, 0, 0])] ∧
    (∀ d ∈ lossyStart.course true 1, d.Fair true) ∧
    ((lossyStart.course true 1).flatMap (·.postings)).map (·.stream.name) = ["a", "b"] ∧
    (lossyStart.receive true 1).2.scene.engine.lifecycle.entries.map (·.1) = [⟨1⟩] := by
  have hcalls : ∀ o ∈ lossyOccasions, ∀ size, o.call ≠ .setMaxPacketSize size := by
    simp only [lossyOccasions, List.map_cons, List.map_nil, List.forall_mem_cons]
    exact ⟨nofun, nofun, nofun, nofun, nofun⟩
  have hcompleted : completed (lossyStart.receive true 1).2.journal.history
      = [(⟨1⟩, [1, 2, 3]), (⟨1⟩, [128, 200, 0, 0, 0])] := by decide +kernel
  have hwritten : (postings (lossyStart.receive true 1).2.journal.history).map (·.stream.name)
      = ["a", "b"] := by decide +kernel
  have hcore : (Engine.new.live lossyOccasions).2.lifecycle.core.toOption.map
      (fun core ↦ (core.queue, core.filter.mode)) = some ([], .acceptAll) := by decide +kernel
  cases hcreated : (Engine.new.live lossyOccasions).2.lifecycle with
  | uninitialized | initialized =>
    rw [hcreated] at hcore
    cases hcore
  | created core =>
    rw [hcreated] at hcore
    obtain ⟨hqueue, hmode⟩ := Prod.mk.inj (Option.some.inj hcore)
    obtain ⟨-, -, -, hpackets, hfair, hpostings, -⟩ :=
      receive_fair lossyOccasions hcreated (.inl hcalls) hqueue hmode [] lossyWorld [] true 1
    rw [← lossyStart, hcompleted] at hpackets
    rw [← lossyStart] at hfair
    rw [← lossyStart] at hpostings
    rw [hpostings] at hwritten
    exact ⟨by decide +kernel, hpackets, hfair, hwritten, by decide +kernel⟩

end Listener

end CommandLine

end StreamRtp
