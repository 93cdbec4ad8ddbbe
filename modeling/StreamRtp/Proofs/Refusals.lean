import StreamRtp.Proofs.EngineParts

/-!
# Refused calls

A call that fails leaves the engine as it was. There are two exceptions. A fan-out with a failed
write drops the destinations that it could not reach. And a wait that was told of a signal lowers
the flag of its abort channel before it empties the doorbell, so that nothing is as it was if the
doorbell fails then.

There are two kinds of the other failures. Most are denials: the reason is found in the state, and
then nothing is asked of anybody. `Denies` lists the reasons. In the other cases a question was
asked and answered with an error, or the system has failed the call, which `Fails` lists; it is the
last thing that the call has tried, so nothing but the world may have changed.

What a registry or an assembler would say against an operation is not among the reasons: the engine
asks them for nothing that they refuse.
-/

namespace StreamRtp

variable {W σ α : Type}

/-! ## The kinds of failures -/

/-- Whether a call is answered by the core alone. -/
def Call.NeedsCore : Call σ → Prop
  | .init _ | .create .. | .destroy | .isThreadSafe | .clearDestinations | .wait _ | .abortWait
  | .newDataAvailable | .supportsMulticasting | .joinGroup _ | .leaveGroup _ | .leaveAllGroups
  | .headerOverhead => False
  | _ => True

/-- The reasons for which a call is denied. -/
inductive Scene.Denies [Network W σ] (scene : Scene W σ) : Call σ → TransmitError → Prop
  /-- There is no core yet. -/
  | tooEarly {call : Call σ} {e : TransmitError} (hcall : call.NeedsCore)
    (hcore : scene.engine.lifecycle.core = .error e) : Denies scene call e
  | initAgain (threadSafe : Bool)
    (hinit : scene.engine.lifecycle ≠ .uninitialized ∨ scene.engine.ownAbort.isInitialized = true) :
    Denies scene (.init threadSafe) .alreadyInitialized
  | createEarly (size : Nat) (params : CreationParams)
    (hstage : scene.engine.lifecycle = .uninitialized) :
    Denies scene (.create size params) .notInitialized
  | createAgain (size : Nat) (params : CreationParams) (core : Core σ)
    (hcreated : scene.engine.lifecycle = .created core) :
    Denies scene (.create size params) .alreadyCreated
  /-- The shared abort channel has no doorbell. -/
  | createMute (size : Nat) (params : CreationParams) (index : Nat)
    (hstage : scene.engine.lifecycle = .initialized) (hparams : params.abortChannel = some index)
    (habort : (scene.channel (.shared index)).isInitialized = false) :
    Denies scene (.create size params) .abortNotInitialized
  | waitOccupied (timeout : Duration) (hmarked : scene.engine.waiting = true) :
    Denies scene (.wait timeout) .alreadyWaiting
  | waitEarly (timeout : Duration) {e : TransmitError} (hunmarked : scene.engine.waiting = false)
    (hcore : scene.engine.lifecycle.core = .error e) : Denies scene (.wait timeout) e
  /-- The abort channel has lost its doorbell. -/
  | waitMute (timeout : Duration) (core : Core σ) (hunmarked : scene.engine.waiting = false)
    (hcreated : scene.engine.lifecycle = .created core) (hqueue : core.queue = [])
    (habort : (scene.channel core.abort).isInitialized = false) :
    Denies scene (.wait timeout) .abortNotInitialized
  | wakeEarly (hactive : scene.engine.activeAbort = none) : Denies scene .abortWait .notCreated
  | wakeMute (abort : AbortRef) (hactive : scene.engine.activeAbort = some abort)
    (habort : (scene.channel abort).isInitialized = false) :
    Denies scene .abortWait .abortNotInitialized
  | duplicate (stream : σ) (core : Core σ) (hcreated : scene.engine.lifecycle = .created core)
    (hid : Network.id W stream ∈ core.destinations.keys) :
    Denies scene (.addDestination stream) (.duplicateDestination (Network.id W stream))
  | unregistered (id : ConnectionId) (core : Core σ)
    (hcreated : scene.engine.lifecycle = .created core) (hid : id ∉ core.destinations.keys) :
    Denies scene (.deleteDestination id) (.destinationNotFound id)
  | tooBig {call : Call σ} (payload : Bytes) (core : Core σ)
    (hcall : call = .sendRtp payload ∨ call = .sendRtcp payload)
    (hcreated : scene.engine.lifecycle = .created core) (hsize : core.sendLimit < payload.length) :
    Denies scene call (.packetTooBig payload.length core.sendLimit)
  | noPacket (core : Core σ) (hcreated : scene.engine.lifecycle = .created core)
    (hqueue : core.queue = []) : Denies scene .nextPacket .queueEmpty
  | notIgnored (id : ConnectionId) (core : Core σ)
    (hcreated : scene.engine.lifecycle = .created core) (hid : id ∉ core.filter.ignored) :
    Denies scene (.deleteIgnored id) (.noSuchFilterEntry id)
  | notAccepted (id : ConnectionId) (core : Core σ)
    (hcreated : scene.engine.lifecycle = .created core) (hid : id ∉ core.filter.accepted) :
    Denies scene (.deleteAccepted id) (.noSuchFilterEntry id)
  | noGroups {call : Call σ} (address : String)
    (hcall : call = .joinGroup address ∨ call = .leaveGroup address) :
    Denies scene call (.notSupported "multicast")

/-- The answers on account of which a call fails, with what was asked of the streams and the poller
and with the world afterwards. -/
inductive Scene.Fails [Network W σ] (scene : Scene W σ) (mishaps : Mishaps) :
    Call σ → TransmitError → List (Event σ) → W → Prop
  /-- There is no doorbell to be had. -/
  | init (threadSafe : Bool) (hstage : scene.engine.lifecycle = .uninitialized)
    (hbare : scene.engine.ownAbort.isInitialized = false) (cause : IoError)
    (hmishap : mishaps.first = some cause) :
    Fails scene mishaps (.init threadSafe) (.initialization cause) [] scene.world
  /-- The doorbell cannot be rung. -/
  | wake (abort : AbortRef) (hactive : scene.engine.activeAbort = some abort)
    (habort : (scene.channel abort).isInitialized = true)
    (hpending : (scene.channel abort).pending = false) (cause : IoError)
    (hmishap : mishaps.first = some cause) (hkind : cause.kind ≠ .wouldBlock) :
    Fails scene mishaps .abortWait (.io cause) [] scene.world
  /-- A new stream cannot say how many bytes wait. -/
  | stream (stream : σ) (core : Core σ) (hcreated : scene.engine.lifecycle = .created core)
    (hid : Network.id W stream ∉ core.destinations.keys) (cause : IoError) (world : W)
    (hasked : Network.bytesAvailable stream scene.world = (.error cause, world)) :
    Fails scene mishaps (.addDestination stream) (.invalidTransport (Network.id W stream) cause)
      [.bytesAvailable stream (.error cause)] world
  /-- The poller of a receive pass fails. -/
  | poll (core : Core σ) (hcreated : scene.engine.lifecycle = .created core)
    (hsome : core.destinations.isEmpty = false) (cause : IoError) (world : W)
    (hasked : Network.waitReady (core.streams.map .stream) .zero scene.world
      = (.error cause, world)) :
    Fails scene mishaps .poll (.io cause)
      [.waitReady (core.streams.map .stream) .zero (.error cause)] world
  /-- The poller of a wait fails. -/
  | wait (timeout : Duration) (core : Core σ) (hunmarked : scene.engine.waiting = false)
    (hcreated : scene.engine.lifecycle = .created core) (hqueue : core.queue = [])
    (habort : (scene.channel core.abort).isInitialized = true) (cause : IoError) (world : W)
    (hasked : Network.waitReady (scene.waitHandles core) timeout scene.world
      = (.error cause, world)) :
    Fails scene mishaps (.wait timeout) (.io cause)
      [.waitReady (scene.waitHandles core) timeout (.error cause)] world

/-- A wait that is told of a signal chokes on its doorbell. The scene afterwards has the flag of the
abort channel down, and the bytes that the drain has left. -/
inductive Scene.Chokes [Network W σ] (scene : Scene W σ) (mishaps : Mishaps) :
    Call σ → TransmitError → List (Event σ) → Scene W σ → Prop
  | drain (timeout : Duration) (core : Core σ) (hunmarked : scene.engine.waiting = false)
    (hcreated : scene.engine.lifecycle = .created core) (hqueue : core.queue = [])
    (d d' : Doorbell) (hd : (scene.channel core.abort).doorbell = some d) (answer : Readiness)
    (world : W)
    (hasked : Network.waitReady (scene.waitHandles core) timeout scene.world = (.ok answer, world))
    (haborted : core.foundAborted answer = true) (cause : IoError)
    (hdrain : d.drain mishaps = (.error cause, d')) :
    Chokes scene mishaps (.wait timeout) (.io cause)
      [.waitReady (scene.waitHandles core) timeout (.ok answer)]
      (({ scene with world } : Scene W σ).setChannel ⟨some d', false⟩ core.abort)

/-- What can have come of a call that failed. -/
inductive Scene.Refused [Network W σ] (scene : Scene W σ) (mishaps : Mishaps) (call : Call σ)
    (e : TransmitError) : Prop
  | denied (hdenies : scene.Denies call e)
  | failed (events : List (Event σ)) (world : W)
    (hfails : scene.Fails mishaps call e events world)
  | choked (events : List (Event σ)) (after : Scene W σ)
    (hchokes : scene.Chokes mishaps call e events after)
  | unsent (id : ConnectionId) (cause : IoError) (he : e = .send id cause)

/-! ## How a core refuses -/

namespace Core

variable {core : Core σ} {w : W} {e : TransmitError}

/-- Every identity has a bucket, so only one that is not registered cannot be removed. -/
theorem deleteDestination_of_notMem {id : ConnectionId} (hid : id ∉ core.destinations.keys)
    (w : W) : core.deleteDestination id w = core.refused w (.destinationNotFound id) := by
  have hbucket : destinationBuckets.bucket id = .ok _ :=
    BucketTable.bucket_eq_ok_iff.2 ⟨rfl, Nat.mod_lt _ (by decide)⟩
  rw [deleteDestination, Registry.remove_of_notMem hbucket hid]

theorem notMem_of_deleteDestination {id : ConnectionId}
    (h : (core.deleteDestination id w).result = .error e) : id ∉ core.destinations.keys := by
  intro hid
  obtain ⟨c, destinations, hremove, -⟩ := Registry.remove_of_mem hid
  rw [deleteDestination, hremove] at h
  cases h

theorem deleteIgnored_of_notMem {id : ConnectionId} (hid : id ∉ core.filter.ignored) (w : W) :
    core.deleteIgnored id w = core.refused w (.noSuchFilterEntry id) := by
  rw [deleteIgnored, ReceiveFilter.unignore, if_neg hid]

theorem notMem_of_deleteIgnored {id : ConnectionId}
    (h : (core.deleteIgnored id w).result = .error e) : id ∉ core.filter.ignored := by
  intro hid
  rw [deleteIgnored, ReceiveFilter.unignore, if_pos hid] at h
  cases h

theorem deleteAccepted_of_notMem {id : ConnectionId} (hid : id ∉ core.filter.accepted) (w : W) :
    core.deleteAccepted id w = core.refused w (.noSuchFilterEntry id) := by
  rw [deleteAccepted, ReceiveFilter.disallow, if_neg hid]

theorem notMem_of_deleteAccepted {id : ConnectionId}
    (h : (core.deleteAccepted id w).result = .error e) : id ∉ core.filter.accepted := by
  intro hid
  rw [deleteAccepted, ReceiveFilter.disallow, if_pos hid] at h
  cases h

theorem nextPacket_of_nil (hqueue : core.queue = []) (w : W) :
    core.nextPacket w = core.refused w .queueEmpty := by
  rw [nextPacket, hqueue]

theorem queue_of_nextPacket (h : (core.nextPacket w).result = .error e) : core.queue = [] := by
  rw [nextPacket] at h
  cases hqueue : core.queue with
  | nil => rfl
  | cons packet queue =>
    rw [hqueue] at h
    cases h

variable [Network W σ]

theorem send_of_lt {payload : Bytes} (hsize : core.sendLimit < payload.length) (w : W) :
    core.send payload w = core.refused w (.packetTooBig payload.length core.sendLimit) := by
  rw [send, if_pos hsize]
  rfl

/-- A payload that is not too big can be framed, so what fails is a write. -/
theorem send_error {payload : Bytes} (h : (core.send payload w).result = .error e) :
    core.sendLimit < payload.length ∨ ∃ id cause, e = .send id cause := by
  by_cases hsize : core.sendLimit < payload.length
  · exact .inl hsize
  · have hle : payload.length ≤ Frame.maxPayload :=
      Nat.le_trans (Nat.not_lt.1 hsize) (Nat.min_le_right ..)
    rw [send, if_neg hsize, Frame.encode_of_le hle] at h
    dsimp only at h
    split at h
    · cases h
      exact .inr ⟨_, _, rfl⟩
    · cases h

/-- A new stream is only refused because of its answer. -/
theorem addDestination_error {stream : σ} (hid : Network.id W stream ∉ core.destinations.keys)
    (h : (core.addDestination stream w).result = .error e) : ∃ cause w',
      e = .invalidTransport (Network.id W stream) cause ∧
        Network.bytesAvailable stream w = (.error cause, w') := by
  rcases hasked : Network.bytesAvailable stream w with ⟨⟨cause⟩ | ⟨n⟩, w'⟩
  · rw [core.addDestination_of_error hid hasked] at h
    cases h
    exact ⟨cause, w', rfl, rfl⟩
  · obtain ⟨destinations, -, hadd⟩ := core.addDestination_of_ok hid hasked
    rw [hadd] at h
    cases h

theorem poll_of_error (hsome : core.destinations.isEmpty = false) {w' : W} {cause : IoError}
    (hasked : Network.waitReady (core.streams.map .stream) .zero w = (.error cause, w')) :
    core.poll w = ⟨.error (.io cause), core, w',
      [.waitReady (core.streams.map .stream) .zero (.error cause)]⟩ := by
  rw [poll, hsome, if_neg Bool.false_ne_true]
  dsimp only
  rw [hasked]

/-- A receive pass only fails with its poller. -/
theorem poll_error (h : (core.poll w).result = .error e) : core.destinations.isEmpty = false ∧
    ∃ cause w', e = .io cause ∧
      Network.waitReady (core.streams.map .stream) .zero w = (.error cause, w') := by
  rw [poll] at h
  split at h
  · cases h
  · rename_i hsome
    refine ⟨Bool.eq_false_iff.2 hsome, ?_⟩
    dsimp only at h
    rcases hasked : Network.waitReady (core.streams.map .stream) .zero w with
      ⟨⟨cause⟩ | ⟨answer⟩, w'⟩
    · rw [hasked] at h
      cases h
      exact ⟨cause, w', rfl, rfl⟩
    · rw [hasked] at h
      dsimp only at h
      split at h <;> cases h

end Core

/-! ## How an engine refuses -/

theorem Lifecycle.core_eq_error {lifecycle : Lifecycle σ} {e : TransmitError}
    (h : lifecycle.core = .error e) : e = .notInitialized ∨ e = .notCreated := by
  cases lifecycle with
  | uninitialized =>
    cases h
    exact .inl rfl
  | initialized =>
    cases h
    exact .inr rfl
  | created core => cases h

namespace AbortChannel

variable {c : AbortChannel}

theorem signal_of_mute (h : c.isInitialized = false) (mishap : Option IoError) :
    c.signal mishap = (.error .abortNotInitialized, c, []) := by
  rw [signal, h, if_neg Bool.false_ne_true]

theorem init_of_initialized (h : c.isInitialized = true) (mishap : Option IoError) :
    c.init mishap = (.error .alreadyInitialized, c, []) := by
  have hends := c.initEnds mishap
  generalize c.init mishap = out at hends
  cases hends with
  | again => rfl
  | made hc | failed _ hc => cases hc.symm.trans h

theorem init_of_failed (h : c.isInitialized = false) (cause : IoError) :
    c.init (some cause) = (.error (.initialization cause), c, []) := by
  rw [init, h, if_neg Bool.false_ne_true]

theorem signal_of_failed (h : c.isInitialized = true) (hpending : c.pending = false)
    {cause : IoError} (hkind : cause.kind ≠ .wouldBlock) :
    c.signal (some cause) = (.error (.io cause), c, []) := by
  have hends := c.signalEnds (some cause)
  generalize c.signal (some cause) = out at hends
  cases hends with
  | mute hc => cases hc.symm.trans h
  | coalesced _ hup => cases hup.symm.trans hpending
  | rang _ _ _ hmishap => cases hmishap
  | full _ _ _ hmishap hfull =>
    cases hmishap
    exact absurd hfull hkind
  | failed _ _ _ hmishap =>
    cases hmishap
    rfl

end AbortChannel

namespace Scene

variable {scene : Scene W σ} {core : Core σ} {e : TransmitError}

/-- A core that refuses leaves the engine as it is. -/
theorem map_withCore_of_error (hcreated : scene.engine.lifecycle = .created core)
    {f : Core σ → W → CoreOutcome W σ α} {w : W} {events : List (Event σ)}
    (hf : f core scene.world = ⟨.error e, core, w, events⟩) (reply : α → Reply σ) :
    (scene.withCore f).map reply = ⟨.error e, { scene with world := w }, events⟩ := by
  rw [scene.withCore_of_created hcreated, hf, ← hcreated]
  rfl

theorem withCore_of_core_error (hcore : scene.engine.lifecycle.core = .error e)
    (f : Core σ → W → CoreOutcome W σ α) : scene.withCore f = ⟨.error e, scene, []⟩ := by
  rw [withCore, hcore]

variable [Network W σ]

theorem perform_of_core_error {call : Call σ} (hcall : call.NeedsCore)
    (hcore : scene.engine.lifecycle.core = .error e) (mishaps : Mishaps) :
    scene.perform call mishaps = ⟨.error e, scene, []⟩ := by
  have hnone : ∀ {α : Type} (f : Core σ → W → CoreOutcome W σ α) (reply : α → Reply σ),
      (scene.withCore f).map reply = ⟨.error e, scene, []⟩ := by
    intro α f reply
    rw [withCore_of_core_error hcore]
    rfl
  cases call with
  | addDestination stream | deleteDestination id | destinations | poll | sendRtp payload
  | sendRtcp payload | nextPacket | setReceiveMode mode | addIgnored id | deleteIgnored id
  | clearIgnored | addAccepted id | deleteAccepted id | clearAccepted | setMaxPacketSize size =>
    exact hnone _ _
  | maxPacketSize | droppedPackets =>
    rw [perform]
    exact withCore_of_core_error hcore _
  | _ => exact hcall.elim

theorem wait_of_mute (hunmarked : scene.engine.waiting = false)
    (hcreated : scene.engine.lifecycle = .created core) (hqueue : core.queue = [])
    (habort : (scene.channel core.abort).isInitialized = false) (timeout : Duration)
    (mishaps : Mishaps) :
    scene.wait timeout mishaps = ⟨.error .abortNotInitialized, scene, []⟩ := by
  have hends := scene.waitEnds_wait timeout mishaps hunmarked hcreated
  generalize scene.wait timeout mishaps = out at hends
  cases hends with
  | queued hqueue' => exact absurd hqueue hqueue'
  | mute => rfl
  | stuck _ _ _ hd => cases habort.symm.trans (congrArg Option.isSome hd)
  | failed _ habort' | answered _ habort' => cases habort.symm.trans habort'

/-- What is denied is denied: the call fails for the reason that was found, and that is all. -/
theorem perform_of_denies {call : Call σ} (h : scene.Denies call e) (mishaps : Mishaps := []) :
    scene.perform call mishaps = ⟨.error e, scene, []⟩ := by
  cases h with
  | tooEarly hcall hcore => exact perform_of_core_error hcall hcore mishaps
  | initAgain threadSafe hinit =>
    rw [perform, init]
    cases hstage : scene.engine.lifecycle with
    | uninitialized =>
      have howns := hinit.resolve_left (· hstage)
      rw [AbortChannel.init_of_initialized howns]
      rfl
    | initialized | created core => rfl
  | createEarly size params hstage =>
    rw [perform, create, hstage]
    rfl
  | createAgain size params core hcreated =>
    rw [perform, create, hcreated]
    rfl
  | createMute size params index hstage hparams habort =>
    rw [perform, create, hstage]
    simp only [hparams, Option.isSome_some, Option.elim_some, habort, Bool.not_false, Bool.and_self,
      if_true]
    rfl
  | waitOccupied timeout hmarked =>
    rw [perform, scene.wait_of_marked timeout mishaps hmarked]
    rfl
  | waitEarly timeout hunmarked hcore =>
    rw [perform, scene.wait_of_core_error timeout mishaps hunmarked hcore]
    rfl
  | waitMute timeout core hunmarked hcreated hqueue habort =>
    rw [perform, wait_of_mute hunmarked hcreated hqueue habort timeout mishaps]
    rfl
  | wakeEarly hactive =>
    rw [perform, abortWait, hactive]
    rfl
  | wakeMute abort hactive habort =>
    rw [perform, abortWait_of_active hactive mishaps, AbortChannel.signal_of_mute habort,
      scene.setChannel_self]
    rfl
  | duplicate stream core hcreated hid =>
    exact map_withCore_of_error hcreated (core.addDestination_of_mem hid scene.world) _
  | unregistered id core hcreated hid =>
    exact map_withCore_of_error hcreated (core.deleteDestination_of_notMem hid scene.world) _
  | tooBig payload core hcall hcreated hsize =>
    rcases hcall with rfl | rfl <;>
      exact map_withCore_of_error hcreated (core.send_of_lt hsize scene.world) _
  | noPacket core hcreated hqueue =>
    exact map_withCore_of_error hcreated (core.nextPacket_of_nil hqueue scene.world) _
  | notIgnored id core hcreated hid =>
    exact map_withCore_of_error hcreated (core.deleteIgnored_of_notMem hid scene.world) _
  | notAccepted id core hcreated hid =>
    exact map_withCore_of_error hcreated (core.deleteAccepted_of_notMem hid scene.world) _
  | noGroups address hcall => rcases hcall with rfl | rfl <;> rfl

theorem wait_of_failed (hunmarked : scene.engine.waiting = false)
    (hcreated : scene.engine.lifecycle = .created core) (hqueue : core.queue = [])
    (habort : (scene.channel core.abort).isInitialized = true) {timeout : Duration}
    {cause : IoError} {world : W}
    (hasked : Network.waitReady (scene.waitHandles core) timeout scene.world
      = (.error cause, world)) (mishaps : Mishaps) :
    scene.wait timeout mishaps = ⟨.error (.io cause), { scene with world },
      [.waitReady (scene.waitHandles core) timeout (.error cause)]⟩ := by
  have hends := scene.waitEnds_wait timeout mishaps hunmarked hcreated
  generalize scene.wait timeout mishaps = out at hends
  cases hends with
  | queued hqueue' => exact absurd hqueue hqueue'
  | mute _ habort' => cases habort.symm.trans habort'
  | failed _ _ cause' world' hasked' =>
    cases hasked.symm.trans hasked'
    rfl
  | stuck _ _ _ _ answer world' hasked' => cases hasked.symm.trans hasked'
  | answered _ _ answer world' hasked' => cases hasked.symm.trans hasked'

theorem wait_of_stuck (hunmarked : scene.engine.waiting = false)
    (hcreated : scene.engine.lifecycle = .created core) (hqueue : core.queue = [])
    {d d' : Doorbell} (hd : (scene.channel core.abort).doorbell = some d) {timeout : Duration}
    {answer : Readiness} {world : W}
    (hasked : Network.waitReady (scene.waitHandles core) timeout scene.world = (.ok answer, world))
    (haborted : core.foundAborted answer = true) {mishaps : Mishaps} {cause : IoError}
    (hdrain : d.drain mishaps = (.error cause, d')) :
    scene.wait timeout mishaps = ⟨.error (.io cause),
      ({ scene with world } : Scene W σ).setChannel ⟨some d', false⟩ core.abort,
      [.waitReady (scene.waitHandles core) timeout (.ok answer)]⟩ := by
  have habort : (scene.channel core.abort).isInitialized = true :=
    Option.isSome_iff_exists.2 ⟨d, hd⟩
  have hends := scene.waitEnds_wait timeout mishaps hunmarked hcreated
  generalize scene.wait timeout mishaps = out at hends
  cases hends with
  | queued hqueue' => exact absurd hqueue hqueue'
  | mute _ habort' => cases habort'.symm.trans habort
  | failed _ _ cause' world' hasked' => cases hasked.symm.trans hasked'
  | stuck _ d₁ d₂ hd' answer' world' hasked' _ cause' hdrain' =>
    cases hasked.symm.trans hasked'
    cases hd.symm.trans hd'
    cases hdrain.symm.trans hdrain'
    rfl
  | answered _ _ answer' world' hasked' hdrained =>
    cases hasked.symm.trans hasked'
    have hfailed : ((scene.channel core.abort).clearPendingSignals mishaps).1
        = .error (.io cause) := by
      rw [AbortChannel.clearPendingSignals, hd]
      dsimp only
      rw [hdrain]
    cases hfailed.symm.trans (hdrained haborted)

/-- An answer that the call cannot do with ends it, and nothing but the world changes. -/
theorem perform_of_fails {mishaps : Mishaps} {call : Call σ} {events : List (Event σ)} {world : W}
    (h : scene.Fails mishaps call e events world) :
    scene.perform call mishaps = ⟨.error e, { scene with world }, events⟩ := by
  cases h with
  | init threadSafe hstage hbare cause hmishap =>
    rw [perform, init, hstage, hmishap, AbortChannel.init_of_failed hbare]
    obtain ⟨⟨lifecycle, ownAbort, activeAbort, wasSafe, waiting⟩, channels, world⟩ := scene
    rfl
  | wake abort hactive habort hpending cause hmishap hkind =>
    rw [perform, abortWait_of_active hactive mishaps, hmishap,
      AbortChannel.signal_of_failed habort hpending hkind, scene.setChannel_self]
    rfl
  | stream stream core hcreated hid cause world hasked =>
    exact map_withCore_of_error hcreated (core.addDestination_of_error hid hasked) _
  | poll core hcreated hsome cause world hasked =>
    exact map_withCore_of_error hcreated (core.poll_of_error hsome hasked) _
  | wait timeout core hunmarked hcreated hqueue habort cause world hasked =>
    rw [perform, wait_of_failed hunmarked hcreated hqueue habort hasked mishaps]
    rfl

theorem perform_of_chokes {mishaps : Mishaps} {call : Call σ} {events : List (Event σ)}
    {after : Scene W σ} (h : scene.Chokes mishaps call e events after) :
    scene.perform call mishaps = ⟨.error e, after, events⟩ := by
  cases h with
  | drain _ core hunmarked hcreated hqueue d d' hd answer world hasked haborted cause hdrain =>
    rw [perform, wait_of_stuck hunmarked hcreated hqueue hd hasked haborted hdrain]
    rfl

omit [Network W σ] in
theorem result_of_map_withCore (hcreated : scene.engine.lifecycle = .created core)
    {f : Core σ → W → CoreOutcome W σ α} {reply : α → Reply σ}
    (h : ((scene.withCore f).map reply).result = .error e) :
    (f core scene.world).result = .error e := by
  rw [scene.withCore_of_created hcreated, Outcome.map] at h
  dsimp only at h
  cases hresult : (f core scene.world).result with
  | ok a =>
    rw [hresult] at h
    cases h
  | error e' =>
    rw [hresult] at h
    cases h
    rfl

variable {mishaps : Mishaps}

theorem Refused.of_denies {call : Call σ} {reason : TransmitError}
    (hdenies : scene.Denies call reason) (h : (scene.perform call mishaps).result = .error e) :
    scene.Refused mishaps call e := by
  rw [perform_of_denies hdenies mishaps] at h
  cases h
  exact .denied hdenies

theorem refused_send (hcreated : scene.engine.lifecycle = .created core) {call : Call σ}
    {payload : Bytes} (hcall : call = .sendRtp payload ∨ call = .sendRtcp payload)
    (h : (scene.perform call mishaps).result = .error e) : scene.Refused mishaps call e := by
  have hsend : (core.send payload scene.world).result = .error e := by
    rcases hcall with rfl | rfl <;> exact result_of_map_withCore hcreated h
  rcases Core.send_error hsend with hsize | ⟨id, cause, he⟩
  · exact .of_denies (.tooBig payload core hcall hcreated hsize) h
  · exact .unsent id cause he

/-- What can have come of a failed call that is answered by the core. -/
theorem refused_of_created (hcreated : scene.engine.lifecycle = .created core) {call : Call σ}
    (hcall : call.NeedsCore) (h : (scene.perform call mishaps).result = .error e) :
    scene.Refused mishaps call e := by
  cases call with
  | addDestination stream =>
    by_cases hid : Network.id W stream ∈ core.destinations.keys
    · exact .of_denies (.duplicate stream core hcreated hid) h
    · obtain ⟨cause, w, rfl, hasked⟩ :=
        Core.addDestination_error hid (result_of_map_withCore hcreated h)
      exact .failed _ w (.stream stream core hcreated hid cause w hasked)
  | deleteDestination id =>
    have hid := Core.notMem_of_deleteDestination (result_of_map_withCore hcreated h)
    exact .of_denies (.unregistered id core hcreated hid) h
  | poll =>
    obtain ⟨hsome, cause, w, rfl, hasked⟩ := Core.poll_error (result_of_map_withCore hcreated h)
    exact .failed _ w (.poll core hcreated hsome cause w hasked)
  | sendRtp payload => exact refused_send hcreated (.inl rfl) h
  | sendRtcp payload => exact refused_send hcreated (.inr rfl) h
  | nextPacket =>
    have hqueue := Core.queue_of_nextPacket (result_of_map_withCore hcreated h)
    exact .of_denies (.noPacket core hcreated hqueue) h
  | deleteIgnored id =>
    have hid := Core.notMem_of_deleteIgnored (result_of_map_withCore hcreated h)
    exact .of_denies (.notIgnored id core hcreated hid) h
  | deleteAccepted id =>
    have hid := Core.notMem_of_deleteAccepted (result_of_map_withCore hcreated h)
    exact .of_denies (.notAccepted id core hcreated hid) h
  | destinations | clearIgnored | clearAccepted => cases result_of_map_withCore hcreated h
  | setReceiveMode mode => cases result_of_map_withCore hcreated h
  | addIgnored id | addAccepted id => cases result_of_map_withCore hcreated h
  | setMaxPacketSize size => cases result_of_map_withCore hcreated h
  | maxPacketSize | droppedPackets =>
    rw [perform, scene.withCore_of_created hcreated] at h
    cases h
  | _ => exact hcall.elim

theorem refused_init {threadSafe : Bool}
    (h : (scene.perform (.init threadSafe) mishaps).result = .error e) :
    scene.Refused mishaps (.init threadSafe) e := by
  by_cases hagain : scene.engine.lifecycle ≠ .uninitialized ∨
      scene.engine.ownAbort.isInitialized = true
  · exact .of_denies (.initAgain threadSafe hagain) h
  · rw [not_or, not_not, Bool.not_eq_true] at hagain
    obtain ⟨hstage, hbare⟩ := hagain
    cases hmishap : mishaps.first with
    | none =>
      rw [perform, init, hstage, hmishap, AbortChannel.init, hbare, if_neg Bool.false_ne_true] at h
      cases h
    | some cause =>
      have hfails : scene.Fails mishaps (.init threadSafe) (.initialization cause) [] scene.world :=
        .init threadSafe hstage hbare cause hmishap
      rw [perform_of_fails hfails] at h
      cases h
      exact .failed [] scene.world hfails

theorem refused_create {size : Nat} {params : CreationParams}
    (h : (scene.perform (.create size params) mishaps).result = .error e) :
    scene.Refused mishaps (.create size params) e := by
  cases hstage : scene.engine.lifecycle with
  | uninitialized => exact .of_denies (.createEarly size params hstage) h
  | created core => exact .of_denies (.createAgain size params core hstage) h
  | initialized =>
    cases hparams : params.abortChannel with
    | none =>
      rw [perform, create, hstage, hparams] at h
      cases h
    | some index =>
      cases habort : (scene.channel (.shared index)).isInitialized with
      | false => exact .of_denies (.createMute size params index hstage hparams habort) h
      | true =>
        rw [perform, create, hstage, hparams] at h
        dsimp only at h
        rw [Option.elim_some, habort] at h
        cases h

theorem refused_wait {timeout : Duration}
    (h : (scene.perform (.wait timeout) mishaps).result = .error e) :
    scene.Refused mishaps (.wait timeout) e := by
  cases hmarked : scene.engine.waiting with
  | true => exact .of_denies (.waitOccupied timeout hmarked) h
  | false =>
    rcases scene.engine.lifecycle.created_or_error with ⟨core, hcreated⟩ | ⟨e', hcore⟩
    · have hends := scene.waitEnds_wait timeout mishaps hmarked hcreated
      have hperform : scene.perform (.wait timeout) mishaps
          = (scene.wait timeout mishaps).map .flag := rfl
      generalize scene.wait timeout mishaps = out at hends hperform
      cases hends with
      | mute hqueue habort =>
        exact .of_denies (.waitMute timeout core hmarked hcreated hqueue habort) h
      | failed hqueue habort cause world hasked =>
        rw [hperform] at h
        cases h
        exact .failed _ world
          (.wait timeout core hmarked hcreated hqueue habort cause world hasked)
      | stuck hqueue d d' hd answer world hasked haborted cause hdrain =>
        rw [hperform] at h
        cases h
        exact .choked _ _ (.drain timeout core hmarked hcreated hqueue d d' hd answer world hasked
          haborted cause hdrain)
      | queued | answered =>
        rw [hperform] at h
        cases h
    · exact .of_denies (.waitEarly timeout hmarked hcore) h

theorem refused_abortWait (h : (scene.perform .abortWait mishaps).result = .error e) :
    scene.Refused mishaps .abortWait e := by
  cases hactive : scene.engine.activeAbort with
  | none => exact .of_denies (.wakeEarly hactive) h
  | some abort =>
    cases habort : (scene.channel abort).isInitialized with
    | false => exact .of_denies (.wakeMute abort hactive habort) h
    | true =>
      have hends := (scene.channel abort).signalEnds mishaps.first
      rw [perform, abortWait_of_active hactive mishaps] at h
      generalize (scene.channel abort).signal mishaps.first = out at hends h
      cases hends with
      | mute hmute => cases hmute.symm.trans habort
      | coalesced | rang | full => cases h
      | failed cause _ hpending hmishap hkind =>
        cases h
        exact .failed [] scene.world (.wake abort hactive habort hpending cause hmishap hkind)

/-- What can have come of a failed call. -/
theorem perform_refused {call : Call σ} (h : (scene.perform call mishaps).result = .error e) :
    scene.Refused mishaps call e := by
  by_cases hcall : call.NeedsCore
  · rcases scene.engine.lifecycle.created_or_error with ⟨core, hcreated⟩ | ⟨e', hcore⟩
    · exact refused_of_created hcreated hcall h
    · exact .of_denies (.tooEarly hcall hcore) h
  · cases call with
    | init threadSafe => exact refused_init h
    | create size params => exact refused_create h
    | wait timeout => exact refused_wait h
    | abortWait => exact refused_abortWait h
    | joinGroup address => exact .of_denies (.noGroups address (.inl rfl)) h
    | leaveGroup address => exact .of_denies (.noGroups address (.inr rfl)) h
    | clearDestinations =>
      rw [perform, clearDestinations] at h
      split at h
      · rename_i core hcreated
        cases result_of_map_withCore hcreated h
      · cases h
    | destroy | isThreadSafe | newDataAvailable | supportsMulticasting | leaveAllGroups
    | headerOverhead => cases h
    | _ => exact absurd trivial hcall

theorem Refused.ne_inner {call : Call σ} (h : scene.Refused mishaps call e) :
    (∀ cause, e ≠ .registry cause) ∧ ∀ cause, e ≠ .assembly cause := by
  cases h with
  | denied hdenies =>
    cases hdenies with
    | tooEarly _ hcore | waitEarly _ _ hcore =>
      rcases Lifecycle.core_eq_error hcore with rfl | rfl <;> simp
    | _ => simp
  | failed _ _ hfails => cases hfails <;> simp
  | choked _ _ hchokes =>
    cases hchokes
    simp
  | unsent _ _ he => simp [he]

/-- What is left of the abort channel by a wait that chokes. -/
theorem Chokes.after {call : Call σ} {events : List (Event σ)} {after : Scene W σ}
    (h : scene.Chokes mishaps call e events after) :
    ∃ (core : Core σ) (d d' : Doorbell) (world : W), scene.engine.lifecycle = .created core ∧
      (scene.channel core.abort).doorbell = some d ∧ d'.buffered ≤ d.buffered ∧
      after = ({ scene with world } : Scene W σ).setChannel ⟨some d', false⟩ core.abort := by
  cases h with
  | drain _ core hunmarked hcreated hqueue d d' hd answer world hasked haborted cause hdrain =>
    have hle := d.buffered_drain_le mishaps
    rw [hdrain] at hle
    exact ⟨core, d, d', world, hcreated, hd, hle, rfl⟩

/-! ## The main result -/

/-- **A refused call leaves the engine as it was.** Let an engine be asked anything, and let the
system do for it what it will. The call is denied for the reasons that `Denies` lists, and then
nothing has changed and nothing was asked of anybody. It fails on account of the answers that
`Fails` lists, and then nothing but the world has changed. It chokes if it is a wait that is told of
a signal and whose doorbell fails then. The flag of the abort channel is down afterwards, the
doorbell has no more bytes than before, and nothing else but the world has changed.

Apart from failed writes there are no other failures; in particular no call ever fails because of a
registry or an assembler. -/
theorem refused_unchanged (scene : Scene W σ) (call : Call σ) (mishaps : Mishaps) :
    let out := scene.perform call mishaps
    (∀ e, scene.Denies call e → out = ⟨.error e, scene, []⟩) ∧
      (∀ e events world, scene.Fails mishaps call e events world →
        out = ⟨.error e, { scene with world }, events⟩) ∧
      (∀ e events after, scene.Chokes mishaps call e events after →
        out = ⟨.error e, after, events⟩ ∧
          ∃ (core : Core σ) (d d' : Doorbell) (world : W),
            scene.engine.lifecycle = .created core ∧
              (scene.channel core.abort).doorbell = some d ∧ d'.buffered ≤ d.buffered ∧
              after
                = ({ scene with world } : Scene W σ).setChannel ⟨some d', false⟩ core.abort) ∧
      ∀ e, out.result = .error e →
        (∀ cause, e ≠ .registry cause) ∧ (∀ cause, e ≠ .assembly cause) ∧
          ((∀ id cause, e ≠ .send id cause) →
            out.scene.engine = scene.engine ∧ out.scene.channels = scene.channels ∧
                (scene.Denies call e ∨ ∃ events world, scene.Fails mishaps call e events world) ∨
              ∃ events after, scene.Chokes mishaps call e events after) := by
  intro out
  refine ⟨fun e hdenies ↦ perform_of_denies hdenies mishaps,
    fun e events world ↦ perform_of_fails,
    fun e events after hchokes ↦ ⟨perform_of_chokes hchokes, hchokes.after⟩, fun e h ↦ ?_⟩
  obtain ⟨hregistry, hassembly⟩ := (perform_refused h).ne_inner
  refine ⟨hregistry, hassembly, fun hsend ↦ ?_⟩
  cases perform_refused h with
  | denied hdenies =>
    have hout : out = _ := perform_of_denies hdenies mishaps
    rw [hout]
    exact .inl ⟨rfl, rfl, .inl hdenies⟩
  | failed events world hfails =>
    have hout : out = _ := perform_of_fails hfails
    rw [hout]
    exact .inl ⟨rfl, rfl, .inr ⟨events, world, hfails⟩⟩
  | choked events after hchokes => exact .inr ⟨events, after, hchokes⟩
  | unsent id cause he => exact absurd he (hsend id cause)

/-- A stream that has brought half a frame, and a poller that answers once and fails then. -/
def brokenPollerWorld : Scripted.World :=
  ⟨[("peer", ⟨[.data [0, 2, 5] none], false, [], none⟩)], [.ok ⟨1, [true]⟩, .error (.os 5)]⟩

/-- A created engine with a destination, half a frame and a signal. -/
def brokenPollerScene : Scene Scripted.World Scripted.Stream :=
  ((⟨.new, [], brokenPollerWorld⟩ : Scene Scripted.World Scripted.Stream).run
    [.init false, .create 4 .default, .addDestination ⟨"peer", ⟨7⟩⟩, .poll, .abortWait]).2

/-- The failed wait keeps the signal and the half frame, and a second stream of the same identity is
asked nothing. -/
theorem refused_unchanged_brokenPoller :
    let scene := brokenPollerScene
    let out := scene.perform (.wait .zero)
    scene.engine.ownAbort.pending = true ∧
      scene.engine.lifecycle.entries.map (·.2.assembler.isIdle) = [false] ∧
      out.result = .error (.io (.os 5)) ∧ out.scene.engine = scene.engine ∧
      scene.perform (.addDestination ⟨"other", ⟨7⟩⟩)
        = ⟨.error (.duplicateDestination ⟨7⟩), scene, []⟩ := by
  intro scene out
  have hwait : (scene.wait .zero).result = .error (.io (.os 5)) := by decide +kernel
  have hresult : (scene.perform (.wait .zero)).result = .error (.io (.os 5)) := by
    rw [perform, Outcome.map, hwait, Except.map]
  have hids : scene.engine.lifecycle.entries.map (·.1) = [⟨7⟩] := by decide +kernel
  obtain ⟨-, -, -, hrefused⟩ := refused_unchanged scene (.wait .zero) []
  obtain ⟨-, -, hkept⟩ := hrefused _ hresult
  refine ⟨by decide +kernel, by decide +kernel, hresult, ?_, ?_⟩
  · obtain ⟨hengine, -⟩ | ⟨events, after, hchokes⟩ := hkept fun id cause h ↦ by cases h
    · exact hengine
    · -- In a system without failures no drain fails.
      cases hchokes with
      | drain _ _ _ _ _ d d' _ _ _ _ _ _ hdrain => cases hdrain.symm.trans d.drain_eq
  obtain ⟨hdenied, -⟩ := refused_unchanged scene (.addDestination ⟨"other", ⟨7⟩⟩) []
  cases hcreated : scene.engine.lifecycle with
  | uninitialized | initialized =>
    rw [hcreated] at hids
    cases hids
  | created core =>
    have hkeys : core.destinations.keys = [⟨7⟩] := by rwa [hcreated] at hids
    have hid : (⟨7⟩ : ConnectionId) ∈ core.destinations.keys := hkeys ▸ List.mem_singleton_self _
    exact hdenied _ (.duplicate _ core hcreated hid)

/-- A created engine that was woken. -/
def wokenScene : Scene Scripted.World Scripted.Stream :=
  ((⟨.new, [], .empty⟩ : Scene Scripted.World Scripted.Stream).run
    [.init true, .create 4 .default, .abortWait]).2

/-- The byte of the signal is read, and the next look at the doorbell fails: the wait fails, and
nobody has been told of the signal that is gone. -/
theorem signal_lost_wokenScene :
    let out := wokenScene.perform (.wait .zero) [none, none, some (.os 12)]
    out.result = .error (.io (.os 12)) ∧
      wokenScene.engine.ownAbort = ⟨some ⟨1⟩, true⟩ ∧
      out.scene.engine.ownAbort = ⟨some ⟨0⟩, false⟩ := by
  intro out
  have hwait : (wokenScene.wait .zero [none, none, some (.os 12)]).result
      = .error (.io (.os 12)) := by decide +kernel
  have hresult : out.result = .error (.io (.os 12)) := by
    change (wokenScene.perform (.wait .zero) [none, none, some (.os 12)]).result = _
    rw [perform, Outcome.map, hwait, Except.map]
  exact ⟨hresult, by decide +kernel, by decide +kernel⟩

end Scene

end StreamRtp
