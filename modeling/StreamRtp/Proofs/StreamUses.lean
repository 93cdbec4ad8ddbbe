import StreamRtp.Proofs.Outline

/-!
# Which streams an engine uses

An engine uses a stream when it asks it for bytes, reads it, writes to it, or puts its handle among
those of a wait. It uses the streams that are registered, and a stream that it is offered, and no
others: `usesOnly_perform` says so of one call. Since streams come in by being offered only, one
that is not registered is not used any more until it is offered again, however the run goes on.
-/

namespace StreamRtp

variable {W σ ς α : Type}

/-! ## Uses -/

/-- Whether an event uses a stream. A wait uses the streams whose handles it is given. -/
def Event.Uses (stream : σ) : Event σ → Prop
  | bytesAvailable s _ | read s _ _ | write s _ _ => s = stream
  | waitReady handles _ _ => .stream stream ∈ handles
  | _ => False

/-- A history that uses no other streams than the given ones. -/
def UsesOnly (streams : List σ) (events : List (Event σ)) : Prop :=
  ∀ event ∈ events, ∀ stream, event.Uses stream → stream ∈ streams

/-- Whether an event is no question to the poller, and no use of another stream than the given
ones. -/
def Event.Within (streams : List σ) : Event σ → Prop
  | bytesAvailable s _ | read s _ _ | write s _ _ => s ∈ streams
  | waitReady .. => False
  | _ => True

theorem Event.Within.mono {streams more : List σ} {event : Event σ} (h : event.Within streams)
    (hmore : streams ⊆ more) : event.Within more := by
  cases event with
  | bytesAvailable | read | write => exact hmore h
  | waitReady => exact h
  | _ => trivial

section Histories

variable {streams more : List σ} {first second events : List (Event σ)}

theorem usesOnly_of_within (h : ∀ event ∈ events, event.Within streams) :
    UsesOnly streams events := by
  intro event hevent stream huses
  have hwithin := h event hevent
  cases event with
  | bytesAvailable | read | write => exact huses ▸ hwithin
  | waitReady => exact hwithin.elim
  | _ => exact huses.elim

theorem UsesOnly.mono (h : UsesOnly streams events) (hmore : streams ⊆ more) :
    UsesOnly more events :=
  fun event hevent stream huses ↦ hmore (h event hevent stream huses)

theorem UsesOnly.append (h₁ : UsesOnly streams first) (h₂ : UsesOnly streams second) :
    UsesOnly streams (first ++ second) :=
  List.forall_mem_append.2 ⟨h₁, h₂⟩

theorem usesOnly_nil (streams : List σ) : UsesOnly streams [] := List.forall_mem_nil _

theorem within_logged (streams : List σ) (log : List LogEntry) :
    ∀ event ∈ logged log, event.Within streams := by
  intro event hevent
  obtain ⟨entry, -, rfl⟩ := List.mem_map.1 hevent
  trivial

theorem usesOnly_logged (streams : List σ) (log : List LogEntry) :
    UsesOnly streams (logged log) :=
  usesOnly_of_within (within_logged streams log)

/-- A wait that is given the handles of some streams and of an abort channel. -/
theorem usesOnly_waitReady {aborts : List (Handle σ)} (haborts : ∀ s, .stream s ∉ aborts)
    (timeout : Duration) (answer : Except IoError Readiness) :
    UsesOnly streams [.waitReady (streams.map .stream ++ aborts) timeout answer] := by
  refine List.forall_mem_singleton.2 fun stream huses ↦ ?_
  obtain ⟨s, hs, hstream⟩ := List.mem_map.1
    ((List.mem_append.1 huses).resolve_right (haborts stream))
  cases hstream
  exact hs

end Histories

/-! ## Walks -/

section Walks

/-- Visits that use the stream they are at and no other. -/
def UsesOwn (history : ς → List (Event σ))
    (visit : ConnectionId → Connection σ → ς → Option (Connection σ) × ς) : Prop :=
  ∀ k c s, ∃ events, history (visit k c s).2 = history s ++ events ∧
    ∀ event ∈ events, event.Within [c.stream]

theorem UsesOwn.sweep {history : ς → List (Event σ)}
    {visit : ConnectionId → Connection σ → ς → Option (Connection σ) × ς}
    (hvisit : UsesOwn history visit) (entries : List (ConnectionId × Connection σ)) (s : ς) :
    ∃ events, history (sweep visit entries s).2 = history s ++ events ∧
      ∀ event ∈ events, event.Within (entries.map (·.2.stream)) := by
  induction entries generalizing s with
  | nil => exact ⟨[], (List.append_nil _).symm, List.forall_mem_nil _⟩
  | cons e entries ih =>
    obtain ⟨events, hevents, hown⟩ := hvisit e.1 e.2 s
    obtain ⟨later, hlater, hothers⟩ := ih (visit e.1 e.2 s).2
    refine ⟨events ++ later, ?_, List.forall_mem_append.2 ⟨fun event hevent ↦ ?_,
      fun event hevent ↦ ?_⟩⟩
    · rw [← List.append_assoc, ← hevents, ← hlater, StreamRtp.sweep]
    · exact (hown event hevent).mono (List.cons_subset.2 ⟨List.mem_cons_self, List.nil_subset _⟩)
    · exact (hothers event hevent).mono (List.subset_cons_self ..)

theorem Connection.Reads.within {c : Connection σ} {got : Reception W σ} (h : c.Reads got) :
    ∀ event ∈ got.events, event.Within [c.stream] := by
  have hown : c.stream ∈ [c.stream] := List.mem_singleton_self _
  cases h with
  | unavailable => exact List.forall_mem_singleton.2 hown
  | unreadable | notYet => exact List.forall_mem_cons.2 ⟨hown, List.forall_mem_singleton.2 hown⟩
  | data n bytes log =>
    exact List.forall_mem_append.2
      ⟨List.forall_mem_cons.2 ⟨hown, List.forall_mem_singleton.2 hown⟩, within_logged _ log⟩

end Walks

namespace Core

variable (core : Core σ)

theorem within_reportDrop (streams : List σ) (id : ConnectionId) (reason : DropReason) :
    ∀ event ∈ core.reportDrop id reason, event.Within streams := by
  rw [reportDrop]
  split
  · exact List.forall_mem_cons.2 ⟨trivial, List.forall_mem_singleton.2 trivial⟩
  · exact List.forall_mem_singleton.2 trivial

/-- What a receive pass says of a connection after its reads does not use any stream. -/
theorem exists_receipt_eq (id : ConnectionId) (got : Reception W σ) : ∃ rest,
    core.receipt id got = got.events ++ rest ∧
      ∀ streams : List σ, ∀ event ∈ rest, event.Within streams := by
  refine ⟨_, rfl, fun streams ↦ List.forall_mem_append.2 ⟨fun event hevent ↦ ?_, ?_⟩⟩
  · obtain ⟨payload, -, rfl⟩ := List.mem_map.1 hevent
    trivial
  · cases got.failure with
    | none => exact List.forall_mem_nil _
    | some reason => exact core.within_reportDrop streams id reason

variable [Network W σ]

theorem usesOwn_visitReady (now : Nat) :
    UsesOwn (fun s : List Bool × ReceivePass W σ ↦ s.2.events) (core.visitReady now) := by
  intro k c s
  rcases core.visitReady_cases now k c s with ⟨-, -, hevents⟩ | ⟨-, -, hevents⟩
  · exact ⟨_, hevents, List.forall_mem_nil _⟩
  · obtain ⟨rest, hreceipt, hrest⟩ := core.exists_receipt_eq k (c.receive s.2.buffer s.2.world)
    rw [hreceipt] at hevents
    exact ⟨_, hevents, List.forall_mem_append.2
      ⟨(c.reads_receive s.2.buffer s.2.world).within, hrest _⟩⟩

theorem usesOwn_visitWrite (frame : Bytes) :
    UsesOwn (fun pass : SendPass W σ ↦ pass.events) (core.visitWrite frame) := by
  intro k c pass
  obtain ⟨answer, hevents, -⟩ := core.visitWrite_cases frame k c pass
  refine ⟨_, hevents, List.forall_mem_cons.2 ⟨List.mem_singleton_self _, ?_⟩⟩
  cases answer with
  | ok => exact List.forall_mem_nil _
  | error e => exact core.within_reportDrop _ k _

/-- A receive pass uses the registered streams, and asks the poller first if at all. -/
theorem uses_poll (w : W) : UsesOnly core.streams (core.poll w).events ∧
    ∀ event ∈ (core.poll w).events.tail, event.Within core.streams := by
  have hasked : ∀ answer : Except IoError Readiness, UsesOnly core.streams
      [.waitReady (core.streams.map .stream) .zero answer] := fun answer ↦ by
    have h : UsesOnly core.streams [.waitReady (core.streams.map .stream ++ []) .zero answer] :=
      usesOnly_waitReady (fun _ ↦ List.not_mem_nil) .zero answer
    rwa [List.append_nil] at h
  rw [poll]
  split
  · exact ⟨usesOnly_nil _, List.forall_mem_nil _⟩
  dsimp only
  split
  · exact ⟨hasked _, List.forall_mem_nil _⟩
  · rename_i answer w' _
    split
    · exact ⟨hasked _, List.forall_mem_nil _⟩
    · obtain ⟨-, -, hlast⟩ := core.receiveReady_eq_walk
        (Readiness.fit (core.streams.map Handle.stream).length answer.flags) w'
      obtain ⟨events, hevents, hwithin⟩ := (core.usesOwn_visitReady (Network.now w')).sweep
        core.destinations.toList
        (Readiness.fit (core.streams.map Handle.stream).length answer.flags,
          ⟨w', core.readBuffer, core.queue, core.dropped, []⟩)
      rw [List.nil_append] at hevents
      have hlater : ∀ event ∈ (core.receiveReady (Readiness.fit
          (core.streams.map Handle.stream).length answer.flags) w').2.2,
          event.Within core.streams := by
        rw [hlast, walk]
        dsimp only
        rw [hevents]
        exact hwithin
      exact ⟨(hasked _).append (usesOnly_of_within hlater), hlater⟩

/-- A fan-out uses the registered streams and does not ask the poller. -/
theorem within_send (payload : Bytes) (w : W) :
    ∀ event ∈ (core.send payload w).events, event.Within core.streams := by
  rw [send]
  split
  · exact List.forall_mem_nil _
  · split
    · exact List.forall_mem_nil _
    · rename_i frame _
      obtain ⟨events, hevents, hwithin⟩ := (core.usesOwn_visitWrite frame).sweep
        core.destinations.toList (⟨w, none, []⟩ : SendPass W σ)
      dsimp only at hevents ⊢
      rw [(Registry.scan_eq_sweep ..).2, hevents, List.nil_append]
      exact hwithin

theorem usesOnly_addDestination (stream : σ) (w : W) :
    UsesOnly [stream] (core.addDestination stream w).events := by
  have hasked : ∀ answer, Event.Within [stream] (.bytesAvailable stream answer) :=
    fun _ ↦ List.mem_singleton_self _
  refine usesOnly_of_within ?_
  rw [addDestination]
  dsimp only
  split
  · exact List.forall_mem_nil _
  · split
    · exact List.forall_mem_singleton.2 (hasked _)
    · split
      · exact List.forall_mem_singleton.2 (hasked _)
      · exact List.forall_mem_cons.2 ⟨hasked _, List.forall_mem_singleton.2 trivial⟩

theorem streams_addDestination (stream : σ) (w : W) :
    (core.addDestination stream w).core.streams ⊆ core.streams ++ [stream] := by
  have hsame : core.streams ⊆ core.streams ++ [stream] := List.subset_append_left ..
  rw [addDestination]
  dsimp only
  split
  · exact hsame
  · split
    · exact hsame
    · split
      · exact hsame
      · rename_i hadd
        rw [streams, streams, (Registry.toList_of_add hadd).2, List.map_append]
        exact List.Subset.refl _

end Core

/-! ## Calls -/

/-- The registered streams. There are none before creation. -/
def Lifecycle.streams (l : Lifecycle σ) : List σ := l.entries.map (·.2.stream)

/-- The stream that a call offers. -/
def Call.offered : Call σ → List σ
  | .addDestination stream => [stream]
  | _ => []

namespace Scene

variable (scene : Scene W σ) {streams : List σ}

theorem usesOnly_withCore (f : Core σ → W → CoreOutcome W σ α)
    (h : ∀ core w, UsesOnly (core.streams ++ streams) (f core w).events) :
    UsesOnly (scene.engine.lifecycle.streams ++ streams) (scene.withCore f).events := by
  obtain ⟨⟨lifecycle, ownAbort, activeAbort, threadSafe, waiting⟩, channels, world⟩ := scene
  cases lifecycle with
  | created core => exact h core world
  | _ => exact usesOnly_nil _

/-- A call that needs a core and only logs. -/
theorem usesOnly_withCore_of_logged (f : Core σ → W → CoreOutcome W σ α)
    (h : ∀ core w, ∃ log, (f core w).events = logged log) :
    UsesOnly (scene.engine.lifecycle.streams ++ streams) (scene.withCore f).events := by
  refine scene.usesOnly_withCore f fun core w ↦ ?_
  obtain ⟨log, hlog⟩ := h core w
  rw [hlog]
  exact usesOnly_logged _ log

theorem streams_of_survey {ticket : WaitTicket σ} (h : scene.survey = .asking ticket) :
    ticket.streams = scene.engine.lifecycle.streams := by
  obtain ⟨⟨lifecycle, ownAbort, activeAbort, threadSafe, waiting⟩, channels, world⟩ := scene
  cases lifecycle with
  | created core =>
    rw [survey] at h
    dsimp only [Lifecycle.core] at h
    split at h
    · cases h
    · split at h
      · cases h
      · cases h
        rfl
  | uninitialized => cases h
  | initialized => cases h

theorem usesOnly_concludeWait (ticket : WaitTicket σ) (answer : Readiness) :
    UsesOnly streams (scene.concludeWait ticket answer).events := by
  rw [concludeWait]
  split
  · split
    · exact usesOnly_logged _ _
    · exact usesOnly_logged _ _
  · exact usesOnly_logged _ _

theorem usesOnly_abortWait : UsesOnly streams scene.abortWait.events := by
  rw [abortWait]
  split
  · exact usesOnly_nil _
  · exact usesOnly_logged _ _

theorem usesOnly_destroy : UsesOnly streams scene.destroy.events := by
  have hwoke : UsesOnly streams scene.withdraw.2.2 := by
    rw [withdraw]
    dsimp only
    split
    · exact usesOnly_abortWait _
    · exact usesOnly_nil _
  have hreleased : ∀ (scene : Scene W σ) (former : Lifecycle σ),
      UsesOnly streams (scene.release former).2 := by
    intro scene former
    cases former with
    | uninitialized => exact usesOnly_nil _
    | initialized | created core => exact usesOnly_logged _ _
  exact hwoke.append (hreleased _ _)

variable [Network W σ]

theorem usesOnly_finishWait (ticket : WaitTicket σ) (timeout : Duration) :
    UsesOnly ticket.streams (scene.finishWait ticket timeout).events := by
  have hasked : ∀ answer : Except IoError Readiness, UsesOnly ticket.streams
      [.waitReady (scene.handlesOf ticket) timeout answer] :=
    usesOnly_waitReady (fun s hs ↦ by cases List.mem_singleton.1 hs) timeout
  rw [finishWait, askPoller]
  dsimp only
  generalize Network.waitReady (scene.handlesOf ticket) timeout scene.world = out
  obtain ⟨answer, world⟩ := out
  cases answer with
  | error e => exact hasked _
  | ok answer => exact (hasked _).append (usesOnly_concludeWait _ ticket answer)

theorem usesOnly_wait (timeout : Duration) :
    UsesOnly scene.engine.lifecycle.streams (scene.wait timeout).events := by
  rw [wait, beginWait, enterWait]
  cases scene.engine.waiting with
  | true => exact usesOnly_nil _
  | false =>
    dsimp only
    split
    · exact usesOnly_nil _
    · rename_i ticket begun hbegun
      split at hbegun
      · cases hbegun
      · rename_i hsurvey
        cases hbegun
        rw [← streams_of_survey _ hsurvey]
        exact usesOnly_finishWait _ ticket timeout

/-- A call uses the registered streams, a stream that it offers, and no others. -/
theorem usesOnly_perform (call : Call σ) :
    UsesOnly (scene.engine.lifecycle.streams ++ call.offered) (scene.perform call).events := by
  have hnone : UsesOnly (scene.engine.lifecycle.streams ++ call.offered) [] := usesOnly_nil _
  cases call with
  | addDestination stream =>
    exact scene.usesOnly_withCore (·.addDestination stream) fun core w ↦
      (core.usesOnly_addDestination stream w).mono (List.subset_append_right ..)
  | poll =>
    exact scene.usesOnly_withCore Core.poll fun core w ↦
      (core.uses_poll w).1.mono (List.subset_append_left ..)
  | sendRtp payload | sendRtcp payload =>
    exact scene.usesOnly_withCore (·.send payload) fun core w ↦
      (usesOnly_of_within (core.within_send payload w)).mono (List.subset_append_left ..)
  | wait timeout => exact (scene.usesOnly_wait timeout).mono (List.subset_append_left ..)
  | init threadSafe =>
    change UsesOnly _ (scene.init threadSafe).events
    rw [init]
    split
    · split <;> exact usesOnly_logged _ _
    · exact hnone
  | create size params =>
    change UsesOnly _ (scene.create size params).events
    rw [create]
    split
    · exact hnone
    · exact hnone
    · dsimp only
      split
      · exact hnone
      · exact usesOnly_logged _ _
  | destroy => exact scene.usesOnly_destroy
  | abortWait => exact scene.usesOnly_abortWait
  | clearDestinations =>
    change UsesOnly _ scene.clearDestinations.events
    rw [clearDestinations]
    split
    · exact scene.usesOnly_withCore_of_logged _ fun core w ↦ ⟨_, rfl⟩
    · exact hnone
  | deleteDestination id =>
    refine scene.usesOnly_withCore_of_logged (·.deleteDestination id) fun core w ↦ ?_
    rw [Core.deleteDestination]
    split
    · exact ⟨_, rfl⟩
    · exact ⟨[], rfl⟩
    · exact ⟨[], rfl⟩
  | deleteIgnored id =>
    refine scene.usesOnly_withCore_of_logged (·.deleteIgnored id) fun core w ↦ ?_
    rw [Core.deleteIgnored]
    split <;> exact ⟨[], rfl⟩
  | deleteAccepted id =>
    refine scene.usesOnly_withCore_of_logged (·.deleteAccepted id) fun core w ↦ ?_
    rw [Core.deleteAccepted]
    split <;> exact ⟨[], rfl⟩
  | nextPacket =>
    refine scene.usesOnly_withCore_of_logged Core.nextPacket fun core w ↦ ?_
    rw [Core.nextPacket]
    split <;> exact ⟨[], rfl⟩
  | isThreadSafe | newDataAvailable | supportsMulticasting | leaveAllGroups | headerOverhead =>
    exact hnone
  | joinGroup address | leaveGroup address => exact hnone
  | _ =>
    -- The others log at most.
    simp only [perform, Outcome.reply, Outcome.map]
    refine scene.usesOnly_withCore_of_logged _ fun core w ↦ ?_
    exact ⟨_, rfl⟩

/-! ## Runs -/

/-- Streams come in by being offered only. -/
theorem streams_perform (hkeyed : Keyed W scene.engine.lifecycle.entries) (call : Call σ) :
    (scene.perform call).scene.engine.lifecycle.streams
      ⊆ scene.engine.lifecycle.streams ++ call.offered := by
  by_cases hoffer : ∃ stream, call = .addDestination stream
  · obtain ⟨stream, rfl⟩ := hoffer
    obtain ⟨⟨lifecycle, ownAbort, activeAbort, threadSafe, waiting⟩, channels, world⟩ := scene
    cases lifecycle with
    | created core => exact core.streams_addDestination stream world
    | uninitialized | initialized => exact List.nil_subset _
  intro stream hstream
  obtain ⟨e', he', rfl⟩ := List.mem_map.1 hstream
  refine List.mem_append_left _ ?_
  cases scene.perform_effect hkeyed call with
  | pass _ _ _ hpasses _ =>
    obtain ⟨e, he, -, hsame⟩ := hpasses.origin e' he'
    exact List.mem_map.2 ⟨e, he, hsame⟩
  | create n _ _ _ _ _ hentries _ =>
    rw [hentries] at he'
    cases he'
  | limit n _ _ _ _ hentries _ =>
    rw [hentries] at he'
    obtain ⟨e, he, rfl⟩ := List.mem_map.1 he'
    exact List.mem_map.2 ⟨e, he, rfl⟩
  | register n stream _ hregistered =>
    -- Nothing is registered without being offered.
    cases call with
    | addDestination stream => exact absurd ⟨stream, rfl⟩ hoffer
    | _ => cases hregistered

/-- A stream that is not registered is not used until it is offered. -/
theorem unused_run {scene : Scene W σ} (hkeyed : Keyed W scene.engine.lifecycle.entries)
    {stream : σ} (habsent : stream ∉ scene.engine.lifecycle.streams) (calls : List (Call σ))
    (hcalls : .addDestination stream ∉ calls) :
    ∀ p ∈ (scene.run calls).1, ∀ event ∈ p.events, ¬event.Uses stream := by
  induction calls generalizing scene with
  | nil => exact List.forall_mem_nil _
  | cons call calls ih =>
    obtain ⟨hcall, hcalls⟩ := not_or.1 (mt List.mem_cons.2 hcalls)
    have habroad : stream ∉ scene.engine.lifecycle.streams ++ call.offered := by
      refine fun hmem ↦ (List.mem_append.1 hmem).elim habsent fun hoffered ↦ hcall ?_
      cases call with
      | addDestination s => rw [List.mem_singleton.1 hoffered]
      | _ => cases hoffered
    refine List.forall_mem_cons.2 ⟨fun event hevent huses ↦ ?_, ?_⟩
    · exact habroad (scene.usesOnly_perform call event hevent stream huses)
    · exact ih ((scene.perform_effect hkeyed call).keyed hkeyed)
        (fun hmem ↦ habroad (scene.streams_perform hkeyed call hmem)) hcalls

end Scene

end StreamRtp
