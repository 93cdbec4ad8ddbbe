import StreamRtp.Engine.Call
import StreamRtp.Proofs.Passes

/-!
# What a call makes of the connections

A call may do four things to the connections of an engine. It walks over them, reading, writing and
giving some of them up; it sets up an engine without any; it gives all of them a new limit; or it
registers one more. `CallEffect` says this once, with the frames that were completed and the bytes
that were read by it, and `perform_effect` shows it of every call. What holds along runs of an
engine is derived from it and does not look into the calls again.
-/

namespace StreamRtp

variable {W σ α : Type}

namespace Lifecycle

/-- The connections with their keys. There are none before creation. -/
def entries : Lifecycle σ → List (ConnectionId × Connection σ)
  | created core => core.destinations.toList
  | _ => []

/-- The limit of packets. There is none before creation. -/
def limit? : Lifecycle σ → Option Nat
  | created core => some core.maxPacketSize
  | _ => none

theorem nodup_entries (l : Lifecycle σ) : (l.entries.map (·.1)).Nodup := by
  cases l with
  | created core => exact core.destinations.nodup_keys
  | _ => exact List.nodup_nil

end Lifecycle

namespace Performed

/-- The limit that a call puts in force. -/
def limit? (p : Performed σ) : Option Nat :=
  match p.call, p.result with
  | .create size _, .ok _ => some size
  | .setMaxPacketSize size, .ok _ => some size
  | _, _ => none

/-- The connection that a call registers. -/
def registered? (p : Performed σ) : Option ConnectionId :=
  match p.call, p.result with
  | .addDestination _, .ok (.id id) => some id
  | _, _ => none

/-- The frames that a call completes for a connection, whatever the filter says of them. -/
def frames (id : ConnectionId) (p : Performed σ) : List Bytes := framesOf id p.events

/-- What a call gives to the assembler of a connection: a receive pass what it reads there, a change
of the limit the limit. -/
def feedings (W : Type) [Network W σ] (id : ConnectionId) (p : Performed σ) : List Feeding :=
  match p.call, p.result with
  | .poll, _ => readsOf W id p.events
  | .setMaxPacketSize size, .ok _ => [.limit size]
  | _, _ => []

end Performed

/-- Whether a call neither sets a limit, nor registers a connection, nor reads. -/
def Call.IsPlain : Call σ → Prop
  | .create .. | .addDestination _ | .poll | .setMaxPacketSize _ => False
  | _ => True

/-- Connections under a new limit. -/
def relimit (size : Nat) (entries : List (ConnectionId × Connection σ)) :
    List (ConnectionId × Connection σ) :=
  entries.map fun e ↦ (e.1, { e.2 with assembler := e.2.assembler.setLimit size })

/-- What a call that was performed makes of the connections of an engine and of its limit. -/
inductive CallEffect (W : Type) [Network W σ] (before : Lifecycle σ) (p : Performed σ)
    (after : Lifecycle σ) : Prop where
  /-- Connections are walked over. Some of them may be given up. -/
  | pass (hlimit : p.limit? = none) (hregistered : p.registered? = none)
    (hfeedings : ∀ id, p.feedings W id = readsOf W id p.events)
    (hpasses : Passes W before.entries after.entries p.events)
    (hafter : ∀ n, after.limit? = some n → before.limit? = some n)
  /-- There were no connections, and there is an engine without any. -/
  | create (n : Nat) (hlimit : p.limit? = some n) (hregistered : p.registered? = none)
    (hfeedings : ∀ id, p.feedings W id = []) (hframes : ∀ id, p.frames id = [])
    (hbefore : before.entries = []) (hentries : after.entries = []) (hafter : after.limit? = some n)
  /-- All connections are given a new limit. -/
  | limit (n : Nat) (hlimit : p.limit? = some n) (hregistered : p.registered? = none)
    (hfeedings : ∀ id, p.feedings W id = [.limit n]) (hframes : ∀ id, p.frames id = [])
    (hentries : after.entries = relimit n before.entries) (hafter : after.limit? = some n)
  /-- A connection is registered, with an assembler that has the limit of the engine. -/
  | register (n : Nat) (stream : σ) (hlimit : p.limit? = none)
    (hregistered : p.registered? = some (Network.id W stream))
    (hfeedings : ∀ id, p.feedings W id = []) (hframes : ∀ id, p.frames id = [])
    (hnew : Network.id W stream ∉ before.entries.map (·.1))
    (hentries : after.entries
      = before.entries ++ [(Network.id W stream, ⟨stream, .ofLimit n⟩)])
    (hbefore : before.limit? = some n) (hafter : after.limit? = some n)

namespace CallEffect

variable [Network W σ] {before after : Lifecycle σ} {p : Performed σ}

/-! ## What follows from an effect -/

theorem keyed (h : CallEffect W before p after) (hkeyed : Keyed W before.entries) :
    Keyed W after.entries := by
  cases h with
  | pass _ _ _ hpasses _ => exact hpasses.keyed hkeyed
  | create n _ _ _ _ _ hentries _ => exact hentries ▸ List.forall_mem_nil _
  | limit n _ _ _ _ hentries _ =>
    -- A new limit leaves the keys and the streams alone.
    rw [hentries]
    intro e' he'
    obtain ⟨e, he, rfl⟩ := List.mem_map.1 he'
    exact hkeyed e he
  | register n stream _ _ _ _ _ hentries _ _ =>
    rw [hentries]
    exact List.forall_mem_append.2 ⟨hkeyed, List.forall_mem_singleton.2 rfl⟩

/-- The limit is the one that was put in force last. -/
theorem limit_eq (h : CallEffect W before p after) {limit : Nat}
    (hbefore : ∀ n, before.limit? = some n → n = limit) {n : Nat} (hn : after.limit? = some n) :
    n = p.limit?.getD limit := by
  cases h with
  | pass hlimit _ _ _ hafter =>
    rw [hlimit]
    exact hbefore n (hafter n hn)
  | create m hlimit _ _ _ _ _ hafter | limit m hlimit _ _ _ _ hafter =>
    rw [hlimit]
    exact (Option.some.inj (hafter.symm.trans hn)).symm
  | register m _ hlimit _ _ _ _ _ hlast hafter =>
    rw [hlimit]
    exact hbefore n (hlast.trans (hafter.symm.trans hn))

/-! ## Calls that do little -/

/-- A call that is refused in silence changes nothing. -/
theorem of_refused {call : Call σ} {events : List (Event σ)} (e : TransmitError)
    (hsilent : Silent W events) : CallEffect W before ⟨call, .error e, events⟩ before := by
  refine .pass ?_ ?_ (fun id ↦ ?_)
    (.of_sublist before.nodup_entries (List.Sublist.refl _) hsilent) fun _ hn ↦ hn
  · cases call <;> rfl
  · cases call <;> rfl
  · rw [(hsilent id).2]
    cases call with
    | poll => exact (hsilent id).2
    | _ => rfl

/-- A plain call walks over the connections, if it does anything to them. -/
theorem of_plain {call : Call σ} {result : Except TransmitError (Reply σ)}
    {events : List (Event σ)} (hplain : call.IsPlain)
    (hpasses : Passes W before.entries after.entries events)
    (hreads : ∀ id, readsOf W id events = [])
    (hafter : ∀ n, after.limit? = some n → before.limit? = some n) :
    CallEffect W before ⟨call, result, events⟩ after := by
  refine .pass ?_ ?_ (fun id ↦ ?_) hpasses hafter
  · cases call <;> first | rfl | exact hplain.elim
  · cases call <;> first | rfl | exact hplain.elim
  · rw [hreads]
    cases call <;> first | rfl | exact hplain.elim

/-- A plain call that is silent may give connections up. -/
theorem of_silent {call : Call σ} {result : Except TransmitError (Reply σ)}
    {events : List (Event σ)} (hplain : call.IsPlain) (hsilent : Silent W events)
    (hentries : after.entries.Sublist before.entries)
    (hafter : ∀ n, after.limit? = some n → before.limit? = some n) :
    CallEffect W before ⟨call, result, events⟩ after :=
  of_plain hplain (.of_sublist before.nodup_entries hentries hsilent) (fun id ↦ (hsilent id).2)
    hafter

end CallEffect

/-! ## Calls of a core -/

/-- A call of a core that registers nothing, reads nothing and leaves the limit alone. -/
structure CoreOutcome.Steady (W : Type) [Network W σ] (core : Core σ) (out : CoreOutcome W σ α) :
    Prop where
  passes : Passes W core.destinations.toList out.core.destinations.toList out.events
  reads : ∀ id, readsOf W id out.events = []
  limit : out.core.maxPacketSize = core.maxPacketSize

namespace Core

variable [Network W σ] (core : Core σ)

theorem steady_done {changed : Core σ} (w : W) (a : α) (log : List LogEntry)
    (hentries : changed.destinations.toList.Sublist core.destinations.toList)
    (hlimit : changed.maxPacketSize = core.maxPacketSize) :
    (changed.done w a log).Steady W core where
  passes := .of_sublist core.destinations.nodup_keys hentries (.logged log)
  reads id := (Silent.logged log id).2
  limit := hlimit

theorem steady_refused (w : W) (e : TransmitError) :
    (core.refused w e : CoreOutcome W σ α).Steady W core where
  passes := core.passes_refl fun _ ↦ ⟨rfl, rfl⟩
  reads _ := rfl
  limit := rfl

theorem steady_deleteDestination (id : ConnectionId) (w : W) :
    (core.deleteDestination id w).Steady W core := by
  rw [deleteDestination]
  split
  · rename_i hremove
    refine core.steady_done w _ _ ?_ rfl
    rw [Registry.toList_of_remove hremove]
    exact List.filter_sublist
  · exact core.steady_refused w _
  · exact core.steady_refused w _

theorem steady_deleteIgnored (id : ConnectionId) (w : W) :
    (core.deleteIgnored id w).Steady W core := by
  rw [deleteIgnored]
  split
  · exact core.steady_done w () [] (List.Sublist.refl _) rfl
  · exact core.steady_refused w _

theorem steady_deleteAccepted (id : ConnectionId) (w : W) :
    (core.deleteAccepted id w).Steady W core := by
  rw [deleteAccepted]
  split
  · exact core.steady_done w () [] (List.Sublist.refl _) rfl
  · exact core.steady_refused w _

theorem steady_nextPacket (w : W) : (core.nextPacket w).Steady W core := by
  rw [nextPacket]
  split
  · exact core.steady_refused w _
  · exact core.steady_done w _ [] (List.Sublist.refl _) rfl

theorem steady_send (payload : Bytes) (w : W) (hkeyed : Keyed W core.destinations.toList) :
    (core.send payload w).Steady W core where
  passes := (passes_send payload hkeyed w).1
  reads := (passes_send payload hkeyed w).2
  limit := by
    rw [send]
    split
    · rfl
    · split <;> rfl

theorem maxPacketSize_poll (w : W) : (core.poll w).core.maxPacketSize = core.maxPacketSize := by
  rw [poll]
  split
  · rfl
  dsimp only
  split
  · rfl
  · split <;> rfl

theorem effect_poll (w : W) (hkeyed : Keyed W core.destinations.toList)
    {result : Except TransmitError (Reply σ)} :
    CallEffect W (.created core) ⟨.poll, result, (core.poll w).events⟩
      (.created (core.poll w).core) := by
  refine .pass rfl rfl (fun _ ↦ rfl) (passes_poll hkeyed w) fun n hn ↦ ?_
  rw [Lifecycle.limit?, maxPacketSize_poll] at hn
  exact hn

omit [Network W σ] in
/-- A new limit keeps every connection. -/
theorem toList_setMaxPacketSize (size : Nat) (w : W) :
    (core.setMaxPacketSize size w).core.destinations.toList
      = relimit size core.destinations.toList := by
  have hwalk := (Registry.scan_eq_sweep (fun _ c (_ : Unit) ↦
    (some { c with assembler := c.assembler.setLimit size }, ())) core.destinations ()).1
  exact hwalk.trans (congrArg Prod.fst (sweep_map _ _ ()))

theorem effect_setMaxPacketSize (size : Nat) (w : W) :
    CallEffect W (.created core)
      ⟨.setMaxPacketSize size, (core.setMaxPacketSize size w).result.map fun _ ↦ .done,
        (core.setMaxPacketSize size w).events⟩
      (.created (core.setMaxPacketSize size w).core) := by
  exact .limit size rfl rfl (fun _ ↦ rfl) (fun id ↦ (Silent.logged (W := W) _ id).1)
    (core.toList_setMaxPacketSize size w) rfl

theorem effect_addDestination (stream : σ) (w : W) :
    CallEffect W (.created core)
      ⟨.addDestination stream, (core.addDestination stream w).result.map .id,
        (core.addDestination stream w).events⟩
      (.created (core.addDestination stream w).core) := by
  rw [addDestination]
  dsimp only
  split
  · exact .of_refused _ fun _ ↦ ⟨rfl, rfl⟩
  · split
    · exact .of_refused _ fun _ ↦ ⟨rfl, rfl⟩
    · split
      · exact .of_refused _ fun _ ↦ ⟨rfl, rfl⟩
      · rename_i hadd
        obtain ⟨hnew, hlist⟩ := Registry.toList_of_add hadd
        exact .register core.maxPacketSize stream rfl rfl (fun _ ↦ rfl) (fun _ ↦ rfl) hnew hlist rfl
          rfl

end Core

/-! ## Calls of an engine -/

namespace Scene

variable [Network W σ] (scene : Scene W σ)

/-- A call with its answer and its history. -/
def performed (call : Call σ) (mishaps : Mishaps := []) : Performed σ :=
  ⟨call, (scene.perform call mishaps).result, (scene.perform call mishaps).events⟩

theorem run_cons (call : Call σ) (calls : List (Call σ)) :
    scene.run (call :: calls) = (scene.performed call :: ((scene.perform call).scene.run calls).1,
      ((scene.perform call).scene.run calls).2) := rfl

/-- A plain call that needs a core. -/
theorem effect_withCore {call : Call σ} (f : Core σ → W → CoreOutcome W σ α)
    {result : Except TransmitError (Reply σ)} (hplain : call.IsPlain)
    (hkeyed : Keyed W scene.engine.lifecycle.entries)
    (hsteady : ∀ core w, Keyed W core.destinations.toList → (f core w).Steady W core) :
    CallEffect W scene.engine.lifecycle ⟨call, result, (scene.withCore f).events⟩
      (scene.withCore f).scene.engine.lifecycle := by
  obtain ⟨⟨lifecycle, ownAbort, activeAbort, threadSafe, waiting⟩, channels, world⟩ := scene
  cases lifecycle with
  | created core =>
    obtain ⟨hpasses, hreads, hlimit⟩ := hsteady core world hkeyed
    refine .of_plain hplain hpasses hreads fun n hn ↦ ?_
    rw [← hn]
    exact congrArg some hlimit.symm
  | _ =>
    exact .of_silent hplain (fun _ ↦ ⟨rfl, rfl⟩) (List.Sublist.refl _) fun _ hn ↦ hn

/-- A call that needs a core and is not plain. -/
theorem effect_map_withCore {call : Call σ} {f : Core σ → W → CoreOutcome W σ α} {g : α → Reply σ}
    (hkeyed : Keyed W scene.engine.lifecycle.entries)
    (heffect : ∀ core w, Keyed W core.destinations.toList → CallEffect W (.created core)
      ⟨call, (f core w).result.map g, (f core w).events⟩ (.created (f core w).core)) :
    CallEffect W scene.engine.lifecycle
      ⟨call, ((scene.withCore f).map g).result, ((scene.withCore f).map g).events⟩
      ((scene.withCore f).map g).scene.engine.lifecycle := by
  obtain ⟨⟨lifecycle, ownAbort, activeAbort, threadSafe, waiting⟩, channels, world⟩ := scene
  cases lifecycle with
  | created core => exact heffect core world hkeyed
  | _ => exact .of_refused _ fun _ ↦ ⟨rfl, rfl⟩

omit [Network W σ] in
theorem lifecycle_setChannel (c : AbortChannel) (abort : AbortRef) :
    (scene.setChannel c abort).engine.lifecycle = scene.engine.lifecycle := by
  cases abort <;> rfl

theorem abortWait_frame (mishaps : Mishaps := []) :
    (scene.abortWait mishaps).scene.engine.lifecycle = scene.engine.lifecycle ∧
      Silent W (scene.abortWait mishaps).events := by
  rw [abortWait]
  split
  · exact ⟨rfl, fun _ ↦ ⟨rfl, rfl⟩⟩
  · exact ⟨scene.lifecycle_setChannel _ _, .logged _⟩

theorem concludeWait_frame (ticket : WaitTicket σ) (answer : Readiness) (mishaps : Mishaps) :
    (scene.concludeWait ticket answer mishaps).scene.engine.lifecycle = scene.engine.lifecycle ∧
      Silent W (scene.concludeWait ticket answer mishaps).events := by
  rw [concludeWait]
  split
  · split
    · exact ⟨scene.lifecycle_setChannel _ _, .logged _⟩
    · exact ⟨scene.lifecycle_setChannel _ _, .logged _⟩
  · exact ⟨rfl, .logged _⟩

theorem finishWait_frame (ticket : WaitTicket σ) (timeout : Duration) (mishaps : Mishaps := []) :
    (scene.finishWait ticket timeout mishaps).scene.engine.lifecycle = scene.engine.lifecycle ∧
      Silent W (scene.finishWait ticket timeout mishaps).events := by
  rw [finishWait, askPoller]
  dsimp only
  generalize Network.waitReady (scene.handlesOf ticket) timeout scene.world = out
  obtain ⟨answer, world⟩ := out
  cases answer with
  | error e => exact ⟨rfl, fun _ ↦ ⟨rfl, rfl⟩⟩
  | ok answer =>
    obtain ⟨hlifecycle, hsilent⟩ :=
      ({ scene with world } : Scene W σ).concludeWait_frame ticket answer mishaps
    have hasked : Silent W
        [Event.waitReady (scene.handlesOf ticket) timeout (.ok answer)] := fun _ ↦ ⟨rfl, rfl⟩
    exact ⟨hlifecycle, hasked.append hsilent⟩

theorem wait_frame (timeout : Duration) (mishaps : Mishaps := []) :
    (scene.wait timeout mishaps).scene.engine.lifecycle = scene.engine.lifecycle ∧
      Silent W (scene.wait timeout mishaps).events := by
  -- Beginning a wait only touches the mark.
  have hbegin : scene.beginWait.2.engine.lifecycle = scene.engine.lifecycle := by
    rw [beginWait, enterWait]
    cases scene.engine.waiting with
    | true => rfl
    | false =>
      dsimp only
      split <;> rfl
  rw [wait]
  generalize scene.beginWait = begun at hbegin
  obtain ⟨entry, begun⟩ := begun
  cases entry with
  | decided result => exact ⟨hbegin, fun _ ↦ ⟨rfl, rfl⟩⟩
  | asking ticket =>
    obtain ⟨hlifecycle, hsilent⟩ := begun.finishWait_frame ticket timeout mishaps
    exact ⟨hlifecycle.trans hbegin, hsilent⟩

/-- A plain call that leaves the stage alone. -/
theorem effect_of_frame {call : Call σ} {result : Except TransmitError (Reply σ)}
    (out : Outcome W σ α) (hplain : call.IsPlain)
    (hframe : out.scene.engine.lifecycle = scene.engine.lifecycle ∧ Silent W out.events) :
    CallEffect W scene.engine.lifecycle ⟨call, result, out.events⟩ out.scene.engine.lifecycle := by
  rw [hframe.1]
  exact .of_silent hplain hframe.2 (List.Sublist.refl _) fun _ hn ↦ hn

theorem effect_init (threadSafe : Bool) (mishaps : Mishaps) :
    CallEffect W scene.engine.lifecycle (scene.performed (.init threadSafe) mishaps)
      (scene.init threadSafe mishaps).scene.engine.lifecycle := by
  obtain ⟨⟨lifecycle, ownAbort, activeAbort, wasSafe, waiting⟩, channels, world⟩ := scene
  cases lifecycle with
  | uninitialized =>
    rw [performed, perform, init]
    dsimp only
    split
    · exact .of_refused _ (.logged _)
    · exact .of_silent trivial (.logged _) (List.Sublist.refl _) nofun
  | _ => exact .of_refused _ fun _ ↦ ⟨rfl, rfl⟩

theorem effect_create (maxPacketSize : Nat) (params : CreationParams) :
    CallEffect W scene.engine.lifecycle (scene.performed (.create maxPacketSize params))
      (scene.create maxPacketSize params).scene.engine.lifecycle := by
  obtain ⟨⟨lifecycle, ownAbort, activeAbort, threadSafe, waiting⟩, channels, world⟩ := scene
  cases lifecycle with
  | initialized =>
    rw [performed, perform, create]
    dsimp only
    split
    · exact .of_refused _ fun _ ↦ ⟨rfl, rfl⟩
    · exact .create maxPacketSize rfl rfl (fun _ ↦ rfl) (fun _ ↦ rfl) rfl rfl rfl
  | _ => exact .of_refused _ fun _ ↦ ⟨rfl, rfl⟩

theorem withdraw_frame (mishaps : Mishaps := []) :
    (scene.withdraw mishaps).2.1.engine.lifecycle = .uninitialized ∧
      Silent W (scene.withdraw mishaps).2.2 := by
  rw [withdraw]
  dsimp only
  split
  · exact scene.takeLifecycle.2.abortWait_frame mishaps
  · exact ⟨rfl, fun _ ↦ ⟨rfl, rfl⟩⟩

theorem release_frame (former : Lifecycle σ) :
    (scene.release former).1.engine.lifecycle = scene.engine.lifecycle ∧
      Silent W (scene.release former).2 := by
  cases former with
  | uninitialized => exact ⟨rfl, fun _ ↦ ⟨rfl, rfl⟩⟩
  | initialized => exact ⟨rfl, .logged _⟩
  | created core => exact ⟨rfl, .logged _⟩

theorem effect_destroy (mishaps : Mishaps) :
    CallEffect W scene.engine.lifecycle (scene.performed .destroy mishaps)
      (scene.destroy mishaps).scene.engine.lifecycle := by
  obtain ⟨htaken, hwoke⟩ := scene.withdraw_frame mishaps
  obtain ⟨hkept, hreleased⟩ :=
    (scene.withdraw mishaps).2.1.release_frame (scene.withdraw mishaps).1
  -- There is no core left, hence no connection and no limit.
  have hafter : (scene.destroy mishaps).scene.engine.lifecycle = .uninitialized :=
    hkept.trans htaken
  rw [hafter]
  exact .of_silent trivial (hwoke.append hreleased) (List.nil_sublist _) nofun

theorem effect_clearDestinations : CallEffect W scene.engine.lifecycle
    (scene.performed .clearDestinations) scene.clearDestinations.scene.engine.lifecycle := by
  obtain ⟨⟨lifecycle, ownAbort, activeAbort, threadSafe, waiting⟩, channels, world⟩ := scene
  cases lifecycle with
  | created core => exact .of_silent trivial (.logged _) (List.nil_sublist _) fun _ hn ↦ hn
  | _ => exact .of_silent trivial (fun _ ↦ ⟨rfl, rfl⟩) (List.Sublist.refl _) fun _ hn ↦ hn

/-- What any call makes of the connections. -/
theorem perform_effect (hkeyed : Keyed W scene.engine.lifecycle.entries) (call : Call σ)
    (mishaps : Mishaps := []) :
    CallEffect W scene.engine.lifecycle (scene.performed call mishaps)
      (scene.perform call mishaps).scene.engine.lifecycle := by
  have hanswer : ∀ {call : Call σ} (reply : Except TransmitError (Reply σ)), call.IsPlain →
      CallEffect W scene.engine.lifecycle ⟨call, reply, []⟩ scene.engine.lifecycle :=
    fun _ hplain ↦ .of_silent hplain (fun _ ↦ ⟨rfl, rfl⟩) (List.Sublist.refl _) fun _ hn ↦ hn
  cases call with
  | init threadSafe => exact scene.effect_init threadSafe mishaps
  | create size params => exact scene.effect_create size params
  | destroy => exact scene.effect_destroy mishaps
  | isThreadSafe => exact hanswer _ trivial
  | addDestination stream =>
    exact scene.effect_map_withCore hkeyed fun core w _ ↦ core.effect_addDestination stream w
  | deleteDestination id =>
    exact scene.effect_withCore (·.deleteDestination id) trivial hkeyed fun core w _ ↦
      core.steady_deleteDestination id w
  | clearDestinations => exact scene.effect_clearDestinations
  | destinations =>
    exact scene.effect_withCore Core.listDestinations trivial hkeyed fun core w _ ↦
      core.steady_done w _ [] (List.Sublist.refl _) rfl
  | poll => exact scene.effect_map_withCore hkeyed fun core w h ↦ core.effect_poll w h
  | wait timeout =>
    exact scene.effect_of_frame (scene.wait timeout mishaps) trivial
      (scene.wait_frame timeout mishaps)
  | abortWait =>
    exact scene.effect_of_frame (scene.abortWait mishaps) trivial (scene.abortWait_frame mishaps)
  | sendRtp payload | sendRtcp payload =>
    exact scene.effect_withCore (·.send payload) trivial hkeyed fun core w ↦
      core.steady_send payload w
  | nextPacket =>
    exact scene.effect_withCore Core.nextPacket trivial hkeyed fun core w _ ↦
      core.steady_nextPacket w
  | newDataAvailable | supportsMulticasting | leaveAllGroups | headerOverhead =>
    exact hanswer _ trivial
  | joinGroup address | leaveGroup address => exact hanswer _ trivial
  | setReceiveMode mode =>
    exact scene.effect_withCore (·.setReceiveMode mode) trivial hkeyed fun core w _ ↦
      core.steady_done w () _ (List.Sublist.refl _) rfl
  | addIgnored id =>
    exact scene.effect_withCore (·.addIgnored id) trivial hkeyed fun core w _ ↦
      core.steady_done w () [] (List.Sublist.refl _) rfl
  | deleteIgnored id =>
    exact scene.effect_withCore (·.deleteIgnored id) trivial hkeyed fun core w _ ↦
      core.steady_deleteIgnored id w
  | clearIgnored =>
    exact scene.effect_withCore Core.clearIgnored trivial hkeyed fun core w _ ↦
      core.steady_done w () [] (List.Sublist.refl _) rfl
  | addAccepted id =>
    exact scene.effect_withCore (·.addAccepted id) trivial hkeyed fun core w _ ↦
      core.steady_done w () [] (List.Sublist.refl _) rfl
  | deleteAccepted id =>
    exact scene.effect_withCore (·.deleteAccepted id) trivial hkeyed fun core w _ ↦
      core.steady_deleteAccepted id w
  | clearAccepted =>
    exact scene.effect_withCore Core.clearAccepted trivial hkeyed fun core w _ ↦
      core.steady_done w () [] (List.Sublist.refl _) rfl
  | setMaxPacketSize size =>
    exact scene.effect_map_withCore hkeyed fun core w _ ↦ core.effect_setMaxPacketSize size w
  | maxPacketSize =>
    exact scene.effect_withCore (fun core w ↦ core.done w (Reply.number core.maxPacketSize) [])
      trivial hkeyed fun core w _ ↦ core.steady_done w _ [] (List.Sublist.refl _) rfl
  | droppedPackets =>
    exact scene.effect_withCore (fun core w ↦ core.done w (Reply.number core.dropped) [])
      trivial hkeyed fun core w _ ↦ core.steady_done w _ [] (List.Sublist.refl _) rfl

end Scene

end StreamRtp
