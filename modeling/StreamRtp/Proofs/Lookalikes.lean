import StreamRtp.Engine.Call

/-!
# Worlds that look alike to an engine

Two worlds may differ in anything, as long as every stream and the poller give the same answers in
both, now and ever after: `Lookalikes` is a relation between worlds that no question can break. An
engine asks nothing but such questions. So two engines that are equal, in surroundings that look
alike, answer every call alike, with the same history, and are equal again: `Scene.Alike.perform`.

The proof follows the calls down to the questions. On the way back up each intermediate result of
one engine equals that of the other in everything but its world.
-/

namespace StreamRtp

variable {W W' σ α β : Type}

/-- The same answer, and worlds in the relation. -/
def Agree (R : W → W' → Prop) (p : α × W) (p' : α × W') : Prop := p.1 = p'.1 ∧ R p.2 p'.2

/-- A relation between worlds in which streams and poller behave the same. -/
structure Lookalikes [Network W σ] [Network W' σ] (R : W → W' → Prop) : Prop where
  id (s : σ) : Network.id W s = Network.id W' s
  bytesAvailable (s : σ) {w : W} {w' : W'} (h : R w w') :
    Agree R (Network.bytesAvailable s w) (Network.bytesAvailable s w')
  read (s : σ) (want : Nat) {w : W} {w' : W'} (h : R w w') :
    Agree R (Network.read s want w) (Network.read s want w')
  writeAll (s : σ) (data : Bytes) {w : W} {w' : W'} (h : R w w') :
    Agree R (Network.writeAll s data w) (Network.writeAll s data w')
  waitReady (handles : List (Handle σ)) (timeout : Duration) {w : W} {w' : W'} (h : R w w') :
    Agree R (Network.waitReady handles timeout w) (Network.waitReady handles timeout w')
  now {w : W} {w' : W'} (h : R w w') : Network.now w = Network.now w'

/-- Every world looks like itself. -/
theorem lookalikes_eq [Network W σ] : Lookalikes (Eq (α := W)) where
  id _ := rfl
  bytesAvailable s _ _ h := ⟨by rw [h], by rw [h]⟩
  read s want _ _ h := ⟨by rw [h], by rw [h]⟩
  writeAll s data _ _ h := ⟨by rw [h], by rw [h]⟩
  waitReady handles timeout _ _ h := ⟨by rw [h], by rw [h]⟩
  now h := by rw [h]

/-! ## Outcomes that differ in their worlds -/

variable (R : W → W' → Prop)

/-- Receptions that differ in their worlds. -/
structure Reception.Alike (got : Reception W σ) (got' : Reception W' σ) : Prop where
  frames : got.frames = got'.frames
  failure : got.failure = got'.failure
  assembler : got.assembler = got'.assembler
  buffer : got.buffer = got'.buffer
  world : R got.world got'.world
  events : got.events = got'.events

/-- Receive passes that differ in their worlds. -/
structure ReceivePass.Alike (pass : ReceivePass W σ) (pass' : ReceivePass W' σ) : Prop where
  world : R pass.world pass'.world
  buffer : pass.buffer = pass'.buffer
  queue : pass.queue = pass'.queue
  dropped : pass.dropped = pass'.dropped
  events : pass.events = pass'.events

/-- Fan-outs that differ in their worlds. -/
structure SendPass.Alike (pass : SendPass W σ) (pass' : SendPass W' σ) : Prop where
  world : R pass.world pass'.world
  failure : pass.failure = pass'.failure
  events : pass.events = pass'.events

/-- Outcomes of a call on a core that differ in their worlds. -/
structure CoreOutcome.Alike (out : CoreOutcome W σ α) (out' : CoreOutcome W' σ α) : Prop where
  result : out.result = out'.result
  core : out.core = out'.core
  world : R out.world out'.world
  events : out.events = out'.events

/-- Scenes that differ in their worlds. -/
structure Scene.Alike (scene : Scene W σ) (scene' : Scene W' σ) : Prop where
  engine : scene.engine = scene'.engine
  channels : scene.channels = scene'.channels
  world : R scene.world scene'.world

/-- Outcomes that differ in their worlds. -/
structure Outcome.Alike (out : Outcome W σ α) (out' : Outcome W' σ α) : Prop where
  result : out.result = out'.result
  scene : out.scene.Alike R out'.scene
  events : out.events = out'.events

variable {R}

/-! ## Walks -/

/-- Two walks whose visitors do the same to every element leave the same registry. -/
theorem Registry.scanFrom_congr {κ ν ς ς' : Type} [DecidableEq κ] {table : BucketTable κ}
    {visit : κ → ν → ς → Option ν × ς} {visit' : κ → ν → ς' → Option ν × ς'} {P : ς → ς' → Prop}
    (hvisit : ∀ k v s s', P s s' → Agree P (visit k v s) (visit' k v s')) (steps : Nat)
    (r : Registry κ ν table) {s : ς} {s' : ς'} (hs : P s s') :
    Agree P (scanFrom visit steps r s) (scanFrom visit' steps r s') := by
  induction steps generalizing r s s' with
  | zero => exact ⟨rfl, hs⟩
  | succ steps ih =>
    rw [scanFrom, scanFrom]
    cases r.current? with
    | none => exact ⟨rfl, hs⟩
    | some entry =>
      obtain ⟨k, v⟩ := entry
      have hout := hvisit k v s s' hs
      dsimp only
      generalize visit k v s = out at hout ⊢
      generalize visit' k v s' = out' at hout ⊢
      obtain ⟨kept, s⟩ := out
      obtain ⟨kept', s'⟩ := out'
      obtain ⟨hkept, hs⟩ := hout
      cases hkept
      cases kept with
      | some v => exact ih _ hs
      | none =>
        dsimp only
        cases r.removeCurrent with
        | ok removed => exact ih _ hs
        | error e => exact ⟨rfl, hs⟩

theorem Registry.scan_congr {κ ν ς ς' : Type} [DecidableEq κ] {table : BucketTable κ}
    {visit : κ → ν → ς → Option ν × ς} {visit' : κ → ν → ς' → Option ν × ς'} {P : ς → ς' → Prop}
    (hvisit : ∀ k v s s', P s s' → Agree P (visit k v s) (visit' k v s'))
    (r : Registry κ ν table) {s : ς} {s' : ς'} (hs : P s s') :
    Agree P (r.scan visit s) (r.scan visit' s') :=
  scanFrom_congr hvisit r.size r.first hs

/-! ## Receiving and sending -/

section Passes

variable [Network W σ] [Network W' σ] (hR : Lookalikes R)

include hR

theorem Connection.receive_alike (c : Connection σ) (buffer : Bytes) {w : W} {w' : W'}
    (hw : R w w') : (c.receive buffer w).Alike R (c.receive buffer w') := by
  have hasked := hR.bytesAvailable c.stream hw
  rw [receive, receive]
  generalize Network.bytesAvailable c.stream w = asked at hasked ⊢
  generalize Network.bytesAvailable c.stream w' = asked' at hasked ⊢
  obtain ⟨available, w⟩ := asked
  obtain ⟨available', w'⟩ := asked'
  obtain ⟨havailable, hw⟩ := hasked
  cases havailable
  cases available with
  | error e => exact ⟨rfl, rfl, rfl, rfl, hw, rfl⟩
  | ok available =>
    cases available with
    | zero => exact ⟨rfl, rfl, rfl, rfl, hw, rfl⟩
    | succ n =>
      have hread := hR.read c.stream (n + 1) hw
      cases hgot : Network.read c.stream (n + 1) w with
      | mk data w₁ =>
      cases hgot' : Network.read c.stream (n + 1) w' with
      | mk data' w₁' =>
      rw [hgot, hgot'] at hread
      obtain ⟨hdata, hw₁⟩ := hread
      cases hdata
      simp only [hgot, hgot']
      cases data with
      | error e => exact ⟨rfl, rfl, rfl, rfl, hw₁, rfl⟩
      | ok bytes =>
        cases bytes with
        | nil => exact ⟨rfl, rfl, rfl, rfl, hw₁, rfl⟩
        | cons b bytes => exact ⟨rfl, rfl, rfl, rfl, hw₁, rfl⟩

omit [Network W σ] [Network W' σ] hR in
theorem ReceivePass.Alike.deliver {pass : ReceivePass W σ} {pass' : ReceivePass W' σ}
    (h : pass.Alike R pass') (filter : ReceiveFilter ConnectionId) (now : Nat) (id : ConnectionId)
    (frames : List Bytes) :
    (pass.deliver filter now id frames).Alike R (pass'.deliver filter now id frames) := by
  obtain ⟨w, buffer, queue, dropped, events⟩ := pass
  obtain ⟨w', buffer', queue', dropped', events'⟩ := pass'
  obtain ⟨hw, hbuffer, hqueue, hdropped, hevents⟩ := h
  cases hbuffer
  cases hqueue
  cases hdropped
  cases hevents
  rw [ReceivePass.deliver, ReceivePass.deliver]
  cases filter.decision id <;> exact ⟨hw, rfl, rfl, rfl, rfl⟩

namespace Core

theorem visitReady_alike (core : Core σ) (now : Nat) (id : ConnectionId) (c : Connection σ)
    (flags : List Bool) {pass : ReceivePass W σ} {pass' : ReceivePass W' σ}
    (h : pass.Alike R pass') :
    Agree (fun s s' ↦ s.1 = s'.1 ∧ s.2.Alike R s'.2) (core.visitReady now id c (flags, pass))
      (core.visitReady now id c (flags, pass')) := by
  cases flags with
  | nil => exact ⟨rfl, rfl, h⟩
  | cons flag flags =>
    cases flag with
    | false => exact ⟨rfl, rfl, h⟩
    | true =>
      have hgot := c.receive_alike hR pass.buffer h.world
      rw [visitReady, visitReady, ← h.buffer, ← h.queue, ← h.dropped, ← h.events]
      generalize c.receive pass.buffer pass.world = got at hgot ⊢
      generalize c.receive pass.buffer pass'.world = got' at hgot ⊢
      obtain ⟨frames, failure, assembler, buffer, w, events⟩ := got
      obtain ⟨frames', failure', assembler', buffer', w', events'⟩ := got'
      obtain ⟨hframes, hfailure, hassembler, hbuffer, hw, hevents⟩ := hgot
      cases hframes
      cases hfailure
      cases hassembler
      cases hbuffer
      cases hevents
      have hread : ReceivePass.Alike R
          ({ pass with world := w, buffer, events := pass.events ++ events } : ReceivePass W σ)
          { world := w', buffer, queue := pass.queue, dropped := pass.dropped,
            events := pass.events ++ events } :=
        ⟨hw, rfl, rfl, rfl, rfl⟩
      have hdelivered := hread.deliver core.filter now id frames
      cases failure with
      | none => exact ⟨rfl, rfl, hdelivered⟩
      | some reason =>
        exact ⟨rfl, rfl, hdelivered.world, hdelivered.buffer, hdelivered.queue, hdelivered.dropped,
          congrArg (· ++ core.reportDrop id reason) hdelivered.events⟩

theorem receiveReady_alike (core : Core σ) (flags : List Bool) {w : W} {w' : W'} (hw : R w w') :
    (core.receiveReady flags w).1 = (core.receiveReady flags w').1 ∧
      R (core.receiveReady flags w).2.1 (core.receiveReady flags w').2.1 ∧
      (core.receiveReady flags w).2.2 = (core.receiveReady flags w').2.2 := by
  have hstart : ReceivePass.Alike R
      (⟨w, core.readBuffer, core.queue, core.dropped, []⟩ : ReceivePass W σ)
      (⟨w', core.readBuffer, core.queue, core.dropped, []⟩ : ReceivePass W' σ) :=
    ⟨hw, rfl, rfl, rfl, rfl⟩
  have hvisit : ∀ id c (s : List Bool × ReceivePass W σ) (s' : List Bool × ReceivePass W' σ),
      (s.1 = s'.1 ∧ s.2.Alike R s'.2) →
        Agree (fun s s' ↦ s.1 = s'.1 ∧ s.2.Alike R s'.2) (core.visitReady (Network.now w) id c s)
          (core.visitReady (Network.now w') id c s') := by
    intro id c s s' hs
    obtain ⟨flags, pass⟩ := s
    obtain ⟨flags', pass'⟩ := s'
    obtain ⟨hflags, hpass⟩ := hs
    cases hflags
    rw [hR.now hw]
    exact core.visitReady_alike hR _ id c flags hpass
  rw [receiveReady, receiveReady]
  dsimp only
  generalize (⟨w, core.readBuffer, core.queue, core.dropped, []⟩ : ReceivePass W σ) = start
    at hstart ⊢
  generalize (⟨w', core.readBuffer, core.queue, core.dropped, []⟩ : ReceivePass W' σ) = start'
    at hstart ⊢
  have hscan := Registry.scan_congr hvisit core.destinations
    (show (flags, start).1 = (flags, start').1 ∧ _ from ⟨rfl, hstart⟩)
  generalize core.destinations.scan (core.visitReady (Network.now w)) (flags, start) = out
    at hscan ⊢
  generalize core.destinations.scan (core.visitReady (Network.now w')) (flags, start') = out'
    at hscan ⊢
  obtain ⟨destinations, flags, w, buffer, queue, dropped, events⟩ := out
  obtain ⟨destinations', flags', w', buffer', queue', dropped', events'⟩ := out'
  obtain ⟨hdestinations, -, hw, hbuffer, hqueue, hdropped, hevents⟩ := hscan
  cases hdestinations
  cases hbuffer
  cases hqueue
  cases hdropped
  exact ⟨rfl, hw, hevents⟩

theorem poll_alike (core : Core σ) {w : W} {w' : W'} (hw : R w w') :
    (core.poll w).Alike R (core.poll w') := by
  rw [poll, poll]
  split
  · exact ⟨rfl, rfl, hw, rfl⟩
  · have hasked := hR.waitReady (core.streams.map Handle.stream) .zero hw
    dsimp only
    generalize Network.waitReady (core.streams.map Handle.stream) .zero w = asked at hasked ⊢
    generalize Network.waitReady (core.streams.map Handle.stream) .zero w' = asked' at hasked ⊢
    obtain ⟨answer, w⟩ := asked
    obtain ⟨answer', w'⟩ := asked'
    obtain ⟨hanswer, hw⟩ := hasked
    cases hanswer
    cases answer with
    | error e => exact ⟨rfl, rfl, hw, rfl⟩
    | ok answer =>
      dsimp only
      split
      · exact ⟨rfl, rfl, hw, rfl⟩
      · obtain ⟨hcore, hw, hevents⟩ := core.receiveReady_alike hR
          (Readiness.fit (core.streams.map Handle.stream).length answer.flags) hw
        exact ⟨rfl, hcore, hw, congrArg (List.cons _) hevents⟩

theorem visitWrite_alike (core : Core σ) (frame : Bytes) (id : ConnectionId) (c : Connection σ)
    {pass : SendPass W σ} {pass' : SendPass W' σ} (h : pass.Alike R pass') :
    Agree (SendPass.Alike R) (core.visitWrite frame id c pass)
      (core.visitWrite frame id c pass') := by
  have hwrite := hR.writeAll c.stream frame h.world
  rw [visitWrite, visitWrite, ← h.failure, ← h.events]
  generalize Network.writeAll c.stream frame pass.world = wrote at hwrite ⊢
  generalize Network.writeAll c.stream frame pass'.world = wrote' at hwrite ⊢
  obtain ⟨answer, w⟩ := wrote
  obtain ⟨answer', w'⟩ := wrote'
  obtain ⟨hanswer, hw⟩ := hwrite
  cases hanswer
  cases answer <;> exact ⟨rfl, hw, rfl, rfl⟩

theorem send_alike (core : Core σ) (payload : Bytes) {w : W} {w' : W'} (hw : R w w') :
    (core.send payload w).Alike R (core.send payload w') := by
  rw [send, send]
  split
  · exact ⟨rfl, rfl, hw, rfl⟩
  · cases Frame.encode payload with
    | error e => exact ⟨rfl, rfl, hw, rfl⟩
    | ok frame =>
      have hstart : SendPass.Alike R (⟨w, none, []⟩ : SendPass W σ) ⟨w', none, []⟩ :=
        ⟨hw, rfl, rfl⟩
      have hscan := Registry.scan_congr
        (fun id c _ _ hs ↦ core.visitWrite_alike hR frame id c hs) core.destinations hstart
      dsimp only
      generalize core.destinations.scan (core.visitWrite frame) (⟨w, none, []⟩ : SendPass W σ) = out
        at hscan ⊢
      generalize core.destinations.scan (core.visitWrite frame) (⟨w', none, []⟩ : SendPass W' σ)
        = out' at hscan ⊢
      obtain ⟨destinations, pass⟩ := out
      obtain ⟨destinations', pass'⟩ := out'
      obtain ⟨hdestinations, hpass⟩ := hscan
      cases hdestinations
      refine ⟨?_, rfl, hpass.world, hpass.events⟩
      dsimp only
      rw [hpass.failure]

theorem addDestination_alike (core : Core σ) (stream : σ) {w : W} {w' : W'} (hw : R w w') :
    (core.addDestination stream w).Alike R (core.addDestination stream w') := by
  rw [addDestination, addDestination, hR.id]
  dsimp only
  split
  · exact ⟨rfl, rfl, hw, rfl⟩
  · have hasked := hR.bytesAvailable stream hw
    generalize Network.bytesAvailable stream w = asked at hasked ⊢
    generalize Network.bytesAvailable stream w' = asked' at hasked ⊢
    obtain ⟨available, w⟩ := asked
    obtain ⟨available', w'⟩ := asked'
    obtain ⟨havailable, hw⟩ := hasked
    cases havailable
    cases available with
    | error e => exact ⟨rfl, rfl, hw, rfl⟩
    | ok available =>
      dsimp only
      split <;> exact ⟨rfl, rfl, hw, rfl⟩

end Core

end Passes

/-! ## Calls -/

theorem Outcome.Alike.map {out : Outcome W σ α} {out' : Outcome W' σ α} (h : out.Alike R out')
    (f : α → β) : (out.map f).Alike R (out'.map f) :=
  ⟨congrArg (Except.map f) h.result, h.scene, h.events⟩

namespace Scene.Alike

variable {scene : Scene W σ} {scene' : Scene W' σ} (h : scene.Alike R scene')

include h

theorem channel (abort : AbortRef) : scene.channel abort = scene'.channel abort := by
  cases abort with
  | own => exact congrArg Engine.ownAbort h.engine
  | shared index => exact congrArg (·.getD index .fresh) h.channels

theorem setChannel (c : AbortChannel) (abort : AbortRef) :
    (scene.setChannel c abort).Alike R (scene'.setChannel c abort) := by
  cases abort with
  | own => exact ⟨congrArg ({ · with ownAbort := c }) h.engine, h.channels, h.world⟩
  | shared index => exact ⟨h.engine, congrArg (·.set index c) h.channels, h.world⟩

theorem withCore {f : Core σ → W → CoreOutcome W σ α} {f' : Core σ → W' → CoreOutcome W' σ α}
    (hf : ∀ core w w', R w w' → (f core w).Alike R (f' core w')) :
    (scene.withCore f).Alike R (scene'.withCore f') := by
  obtain ⟨engine, channels, w⟩ := scene
  obtain ⟨engine', channels', w'⟩ := scene'
  obtain ⟨hengine, hchannels, hw⟩ := h
  cases hengine
  cases hchannels
  rw [Scene.withCore, Scene.withCore]
  dsimp only
  cases engine.lifecycle.core with
  | error e => exact ⟨rfl, ⟨rfl, rfl, hw⟩, rfl⟩
  | ok core =>
    have hout := hf core w w' hw
    refine ⟨hout.result, ⟨?_, rfl, hout.world⟩, hout.events⟩
    exact congrArg (fun core ↦ { engine with lifecycle := .created core }) hout.core

theorem abortWait (mishaps : Mishaps := []) :
    (scene.abortWait mishaps).Alike R (scene'.abortWait mishaps) := by
  rw [Scene.abortWait, Scene.abortWait, ← h.engine]
  cases scene.engine.activeAbort with
  | none => exact ⟨rfl, h, rfl⟩
  | some abort =>
    dsimp only
    rw [← h.channel abort]
    exact ⟨rfl, h.setChannel _ abort, rfl⟩

theorem concludeWait (ticket : WaitTicket σ) (answer : Readiness) (mishaps : Mishaps) :
    (scene.concludeWait ticket answer mishaps).Alike R
      (scene'.concludeWait ticket answer mishaps) := by
  rw [Scene.concludeWait, Scene.concludeWait, ← h.channel ticket.abort]
  split
  · split <;> exact ⟨rfl, h.setChannel _ _, rfl⟩
  · exact ⟨rfl, h, rfl⟩

theorem survey : scene.survey = scene'.survey := by
  rw [Scene.survey, Scene.survey, ← h.engine]
  cases scene.engine.lifecycle.core with
  | error e => rfl
  | ok core =>
    dsimp only
    rw [h.channel core.abort]

theorem leaveWait : scene.leaveWait.Alike R scene'.leaveWait :=
  ⟨congrArg ({ · with waiting := false }) h.engine, h.channels, h.world⟩

theorem enterWait : Agree (Scene.Alike R) scene.enterWait scene'.enterWait :=
  ⟨congrArg Engine.waiting h.engine, congrArg ({ · with waiting := true }) h.engine, h.channels,
    h.world⟩

theorem beginWait : Agree (Scene.Alike R) scene.beginWait scene'.beginWait := by
  have hentered := h.enterWait
  rw [Scene.beginWait, Scene.beginWait]
  generalize scene.enterWait = entered at hentered ⊢
  generalize scene'.enterWait = entered' at hentered ⊢
  obtain ⟨busy, scene⟩ := entered
  obtain ⟨busy', scene'⟩ := entered'
  obtain ⟨hbusy, h⟩ := hentered
  cases hbusy
  cases busy with
  | true => exact ⟨rfl, h⟩
  | false =>
    have hsurvey : scene.survey = scene'.survey := survey h
    dsimp only
    rw [hsurvey]
    cases scene'.survey with
    | decided result => exact ⟨rfl, leaveWait h⟩
    | asking ticket => exact ⟨rfl, h⟩

/-! ### Stages -/

theorem init (threadSafe : Bool) (mishaps : Mishaps := []) :
    (scene.init threadSafe mishaps).Alike R (scene'.init threadSafe mishaps) := by
  rw [Scene.init, Scene.init, ← h.engine]
  split
  · split
    · exact ⟨rfl, ⟨rfl, h.channels, h.world⟩, rfl⟩
    · exact ⟨rfl, ⟨rfl, h.channels, h.world⟩, rfl⟩
  · exact ⟨rfl, h, rfl⟩

theorem create (size : Nat) (params : CreationParams) :
    (scene.create size params).Alike R (scene'.create size params) := by
  rw [Scene.create, Scene.create, ← h.engine]
  split
  · exact ⟨rfl, h, rfl⟩
  · exact ⟨rfl, h, rfl⟩
  · dsimp only
    rw [← h.channel]
    split
    · exact ⟨rfl, h, rfl⟩
    · exact ⟨rfl, ⟨rfl, h.channels, h.world⟩, rfl⟩

theorem clearDestinations : scene.clearDestinations.Alike R scene'.clearDestinations := by
  rw [Scene.clearDestinations, Scene.clearDestinations, ← h.engine]
  split
  · refine h.withCore fun core _ _ hw ↦ ?_
    exact ⟨rfl, rfl, hw, rfl⟩
  · exact ⟨rfl, h, rfl⟩

theorem takeLifecycle : Agree (Scene.Alike R) scene.takeLifecycle scene'.takeLifecycle := by
  rw [Scene.takeLifecycle, Scene.takeLifecycle, ← h.engine]
  exact ⟨rfl, rfl, h.channels, h.world⟩

theorem detachAbort : scene.detachAbort.Alike R scene'.detachAbort := by
  rw [Scene.detachAbort, Scene.detachAbort, ← h.engine]
  exact ⟨rfl, h.channels, h.world⟩

theorem withdraw (mishaps : Mishaps := []) :
    (scene.withdraw mishaps).1 = (scene'.withdraw mishaps).1 ∧
      (scene.withdraw mishaps).2.1.Alike R (scene'.withdraw mishaps).2.1 ∧
      (scene.withdraw mishaps).2.2 = (scene'.withdraw mishaps).2.2 := by
  have htaken := h.takeLifecycle
  rw [Scene.withdraw, Scene.withdraw]
  generalize scene.takeLifecycle = taken at htaken ⊢
  generalize scene'.takeLifecycle = taken' at htaken ⊢
  obtain ⟨former, scene⟩ := taken
  obtain ⟨former', scene'⟩ := taken'
  obtain ⟨hformer, h⟩ := htaken
  have h : scene.Alike R scene' := h
  cases hformer
  dsimp only
  rw [← h.engine]
  split
  · have hwoken := h.abortWait mishaps
    exact ⟨rfl, hwoken.scene.detachAbort, hwoken.events⟩
  · exact ⟨rfl, h.detachAbort, rfl⟩

theorem release (former : Lifecycle σ) :
    (scene.release former).1.Alike R (scene'.release former).1 ∧
      (scene.release former).2 = (scene'.release former).2 := by
  obtain ⟨engine, channels, w⟩ := scene
  obtain ⟨engine', channels', w'⟩ := scene'
  obtain ⟨hengine, hchannels, hw⟩ := h
  cases hengine
  cases former with
  | uninitialized => exact ⟨⟨rfl, hchannels, hw⟩, rfl⟩
  | initialized | created core => exact ⟨⟨rfl, hchannels, hw⟩, rfl⟩

theorem destroy (mishaps : Mishaps := []) :
    (scene.destroy mishaps).Alike R (scene'.destroy mishaps) := by
  have hwithdrawn := h.withdraw mishaps
  rw [Scene.destroy, Scene.destroy]
  generalize scene.withdraw mishaps = withdrawn at hwithdrawn ⊢
  generalize scene'.withdraw mishaps = withdrawn' at hwithdrawn ⊢
  obtain ⟨former, scene, woke⟩ := withdrawn
  obtain ⟨former', scene', woke'⟩ := withdrawn'
  obtain ⟨hformer, hscene, hwoke⟩ := hwithdrawn
  cases hformer
  cases hwoke
  obtain ⟨hreleased, hlog⟩ := Scene.Alike.release hscene former
  exact ⟨rfl, hreleased, congrArg (woke ++ ·) hlog⟩

/-! ### Waits and everything -/

section Network

variable [Network W σ] [Network W' σ] (hR : Lookalikes R)

include hR

theorem finishWait (ticket : WaitTicket σ) (timeout : Duration) (mishaps : Mishaps) :
    (scene.finishWait ticket timeout mishaps).Alike R
      (scene'.finishWait ticket timeout mishaps) := by
  have hhandles : scene.handlesOf ticket = scene'.handlesOf ticket := by
    rw [handlesOf, handlesOf, h.channel]
  have hasked := hR.waitReady (scene.handlesOf ticket) timeout h.world
  rw [Scene.finishWait, Scene.finishWait, askPoller, askPoller, ← hhandles]
  dsimp only
  generalize Network.waitReady (scene.handlesOf ticket) timeout scene.world = asked at hasked ⊢
  generalize Network.waitReady (scene.handlesOf ticket) timeout scene'.world = asked' at hasked ⊢
  obtain ⟨answer, w⟩ := asked
  obtain ⟨answer', w'⟩ := asked'
  obtain ⟨hanswer, hw⟩ := hasked
  cases hanswer
  have hafter : Scene.Alike R { scene with world := w } { scene' with world := w' } :=
    ⟨h.engine, h.channels, hw⟩
  cases answer with
  | error e => exact ⟨rfl, hafter.leaveWait, rfl⟩
  | ok answer =>
    have hout := hafter.concludeWait ticket answer mishaps
    exact ⟨hout.result, hout.scene.leaveWait, congrArg (List.cons _) hout.events⟩

theorem wait (timeout : Duration) (mishaps : Mishaps := []) :
    (scene.wait timeout mishaps).Alike R (scene'.wait timeout mishaps) := by
  have hbegun := h.beginWait
  rw [Scene.wait, Scene.wait]
  generalize scene.beginWait = begun at hbegun ⊢
  generalize scene'.beginWait = begun' at hbegun ⊢
  obtain ⟨entry, scene⟩ := begun
  obtain ⟨entry', scene'⟩ := begun'
  obtain ⟨hentry, h⟩ := hbegun
  cases hentry
  cases entry with
  | decided result => exact ⟨rfl, h, rfl⟩
  | asking ticket => exact finishWait h hR ticket timeout mishaps

/-- Engines that cannot tell their surroundings apart answer a call alike. -/
theorem perform (call : Call σ) (mishaps : Mishaps := []) :
    (scene.perform call mishaps).Alike R (scene'.perform call mishaps) := by
  cases call with
  | wait timeout => exact (h.wait hR timeout mishaps).map _
  | abortWait => exact (h.abortWait mishaps).map _
  | addDestination stream =>
    exact (h.withCore fun core _ _ hw ↦ core.addDestination_alike hR stream hw).map _
  | poll => exact (h.withCore fun core _ _ hw ↦ core.poll_alike hR hw).map _
  | sendRtp payload | sendRtcp payload =>
    exact (h.withCore fun core _ _ hw ↦ core.send_alike hR payload hw).map _
  | deleteDestination id =>
    refine (h.withCore fun core _ _ hw ↦ ?_).map _
    rw [Core.deleteDestination, Core.deleteDestination]
    split <;> exact ⟨rfl, rfl, hw, rfl⟩
  | nextPacket =>
    refine (h.withCore fun core _ _ hw ↦ ?_).map _
    rw [Core.nextPacket, Core.nextPacket]
    split <;> exact ⟨rfl, rfl, hw, rfl⟩
  | deleteIgnored id =>
    refine (h.withCore fun core _ _ hw ↦ ?_).map _
    rw [Core.deleteIgnored, Core.deleteIgnored]
    split <;> exact ⟨rfl, rfl, hw, rfl⟩
  | deleteAccepted id =>
    refine (h.withCore fun core _ _ hw ↦ ?_).map _
    rw [Core.deleteAccepted, Core.deleteAccepted]
    split <;> exact ⟨rfl, rfl, hw, rfl⟩
  | setMaxPacketSize _ | setReceiveMode _ | addIgnored _ | addAccepted _ =>
    refine (h.withCore fun core _ _ hw ↦ ?_).map _
    exact ⟨rfl, rfl, hw, rfl⟩
  | destinations | clearIgnored | clearAccepted =>
    refine (h.withCore fun core _ _ hw ↦ ?_).map _
    exact ⟨rfl, rfl, hw, rfl⟩
  | maxPacketSize | droppedPackets =>
    rw [Scene.perform, Scene.perform]
    refine h.withCore fun core _ _ hw ↦ ?_
    exact ⟨rfl, rfl, hw, rfl⟩
  | clearDestinations => exact h.clearDestinations.map _
  | init threadSafe => exact (h.init threadSafe mishaps).map _
  | create size params => exact (h.create size params).map _
  | destroy => exact (h.destroy mishaps).map _
  | isThreadSafe =>
    rw [Scene.perform, Scene.perform, h.engine]
    exact ⟨rfl, h, rfl⟩
  | newDataAvailable =>
    rw [Scene.perform, Scene.perform, Scene.newDataAvailable, h.engine]
    exact ⟨rfl, h, rfl⟩
  | supportsMulticasting | leaveAllGroups | headerOverhead => exact ⟨rfl, h, rfl⟩
  | joinGroup address | leaveGroup address => exact ⟨rfl, h, rfl⟩

end Network

end Scene.Alike

end StreamRtp
