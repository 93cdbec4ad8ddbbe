import StreamRtp.Proofs.SignalEnds
import StreamRtp.Proofs.Visits

/-!
# Calls that leave the connections alone

Most calls of a created engine neither change which connections there are nor ask anything of a
stream. They may change the queue or the settings, and a wait may put a question to the poller. All
of them are dealt with together in `perform_quiet`.

The settings are what calls have made of them. They depend neither on the network nor on what became
of the connections, which `Settings.after` says by being a function of the call alone.
-/

namespace StreamRtp

variable {W σ α : Type}

/-! ## Settings -/

/-- What is set by calls and by nothing else. -/
structure Settings where
  filter : ReceiveFilter ConnectionId
  maxPacketSize : Nat
  hasHook : Bool

/-- The settings of an engine. -/
def Core.settings (core : Core σ) : Settings := ⟨core.filter, core.maxPacketSize, core.hasHook⟩

/-- The settings after a call, whatever else comes of the call. -/
def Settings.after (s : Settings) : Call σ → Settings
  | .setReceiveMode mode => { s with filter := s.filter.setMode mode }
  | .addIgnored id => { s with filter := (s.filter.ignore id).2 }
  | .deleteIgnored id => { s with filter := (s.filter.unignore id).2 }
  | .clearIgnored => { s with filter := s.filter.clearIgnored }
  | .addAccepted id => { s with filter := (s.filter.allow id).2 }
  | .deleteAccepted id => { s with filter := (s.filter.disallow id).2 }
  | .clearAccepted => { s with filter := s.filter.clearAccepted }
  | .setMaxPacketSize size => { s with maxPacketSize := size }
  | _ => s

/-! ## Calls that have nothing to do with connections -/

/-- Whether a call neither changes which connections there are nor asks anything of a stream. -/
def Call.IsQuiet : Call σ → Prop
  | .destroy | .addDestination _ | .deleteDestination _ | .clearDestinations | .poll | .sendRtp _
  | .sendRtcp _ | .setMaxPacketSize _ => False
  | _ => True

/-- The payload that a call has sent, as far as the caller knows. -/
def Performed.sent? (p : Performed σ) : Option Bytes :=
  match p.call, p.result with
  | .sendRtp payload, .ok _ | .sendRtcp payload, .ok _ => some payload
  | _, _ => none

theorem Call.IsQuiet.sent?_eq_none {call : Call σ} (h : call.IsQuiet)
    (result : Except TransmitError (Reply σ)) (events : List (Event σ)) :
    (⟨call, result, events⟩ : Performed σ).sent? = none := by
  cases call <;> first | rfl | exact h.elim

section Logs

variable [Network W σ]

/-- Whether an entry reports that a connection is dropped. -/
def LogEntry.IsDrop : LogEntry → Prop
  | droppingConnection _ _ => True
  | _ => False

theorem impersonal_logged {log : List LogEntry} (h : ∀ entry ∈ log, ¬entry.IsDrop) :
    Impersonal W (logged log : List (Event σ)) := by
  intro event hevent
  obtain ⟨entry, hentry, rfl⟩ := List.mem_map.1 hevent
  cases entry with
  | droppingConnection id reason => exact absurd trivial (h _ hentry)
  | _ => rfl

theorem AbortChannel.init_log (c : AbortChannel) (mishap : Option IoError) :
    ∀ entry ∈ (c.init mishap).2.2, ¬entry.IsDrop := by
  have hends := c.initEnds mishap
  generalize c.init mishap = out at hends
  cases hends with
  | again | failed => exact List.forall_mem_nil _
  | made => exact List.forall_mem_singleton.2 id

theorem AbortChannel.signal_log (c : AbortChannel) (mishap : Option IoError) :
    ∀ entry ∈ (c.signal mishap).2.2, ¬entry.IsDrop := by
  have hends := c.signalEnds mishap
  generalize c.signal mishap = out at hends
  cases hends with
  | mute | rang | failed => exact List.forall_mem_nil _
  | coalesced | full => exact List.forall_mem_singleton.2 id

theorem AbortChannel.clearPendingSignals_log (c : AbortChannel) (mishaps : Mishaps) :
    ∀ entry ∈ (c.clearPendingSignals mishaps).2.2, ¬entry.IsDrop := by
  have hends := c.drainEnds mishaps
  generalize c.clearPendingSignals mishaps = out at hends
  cases hends with
  | mute | failed => exact List.forall_mem_nil _
  | drained d d' n =>
    dsimp only
    split
    · exact List.forall_mem_nil _
    · exact List.forall_mem_singleton.2 id

end Logs

/-- The world after at most one question to the poller. -/
def Polled [Network W σ] (w w' : W) : Prop :=
  w' = w ∨ ∃ (handles : List (Handle σ)) (timeout : Duration),
    w' = (Network.waitReady handles timeout w).2

/-- A call of a core that leaves the connections and the streams alone. -/
structure CoreOutcome.Quiet [Network W σ] (core : Core σ) (call : Call σ) (w : W)
    (out : CoreOutcome W σ α) : Prop where
  destinations : out.core.destinations = core.destinations
  settings : out.core.settings = core.settings.after call
  world : out.world = w
  impersonal : Impersonal W out.events

namespace Core

variable [Network W σ] (core : Core σ) {call : Call σ} (w : W)

theorem quiet_nextPacket : (core.nextPacket w).Quiet core .nextPacket w := by
  rw [nextPacket]
  split
  · exact ⟨rfl, rfl, rfl, List.forall_mem_nil _⟩
  · exact ⟨rfl, rfl, rfl, List.forall_mem_nil _⟩

theorem quiet_deleteIgnored (id : ConnectionId) :
    (core.deleteIgnored id w).Quiet core (.deleteIgnored id) w := by
  rw [deleteIgnored]
  have hsettings : core.settings.after (.deleteIgnored id : Call σ)
      = ⟨(core.filter.unignore id).2, core.maxPacketSize, core.hasHook⟩ := rfl
  by_cases hlisted : id ∈ core.filter.ignored
  · have hfilter : core.filter.unignore id = (true, _) := if_pos hlisted
    rw [hfilter] at hsettings ⊢
    exact ⟨rfl, hsettings.symm, rfl, List.forall_mem_nil _⟩
  · have hfilter : core.filter.unignore id = (false, core.filter) := if_neg hlisted
    rw [hfilter] at hsettings ⊢
    exact ⟨rfl, hsettings.symm, rfl, List.forall_mem_nil _⟩

theorem quiet_deleteAccepted (id : ConnectionId) :
    (core.deleteAccepted id w).Quiet core (.deleteAccepted id) w := by
  rw [deleteAccepted]
  have hsettings : core.settings.after (.deleteAccepted id : Call σ)
      = ⟨(core.filter.disallow id).2, core.maxPacketSize, core.hasHook⟩ := rfl
  by_cases hlisted : id ∈ core.filter.accepted
  · have hfilter : core.filter.disallow id = (true, _) := if_pos hlisted
    rw [hfilter] at hsettings ⊢
    exact ⟨rfl, hsettings.symm, rfl, List.forall_mem_nil _⟩
  · have hfilter : core.filter.disallow id = (false, core.filter) := if_neg hlisted
    rw [hfilter] at hsettings ⊢
    exact ⟨rfl, hsettings.symm, rfl, List.forall_mem_nil _⟩

end Core

/-- An outcome that leaves the connections and the streams alone. -/
structure Outcome.Quiet [Network W σ] (scene : Scene W σ) (core : Core σ) (call : Call σ)
    (out : Outcome W σ α) : Prop where
  created : ∃ after, out.scene.engine.lifecycle = .created after ∧
    after.destinations = core.destinations ∧ after.settings = core.settings.after call
  world : Polled scene.world out.scene.world
  impersonal : Impersonal W out.events

theorem Outcome.Quiet.map [Network W σ] {scene : Scene W σ} {core : Core σ} {call : Call σ}
    {out : Outcome W σ α} (h : Outcome.Quiet scene core call out) (f : α → Reply σ) :
    Outcome.Quiet scene core call (out.map f) :=
  ⟨h.created, h.world, h.impersonal⟩

namespace Scene

variable [Network W σ] (scene : Scene W σ) {core : Core σ} {call : Call σ}

omit [Network W σ] in
theorem world_setChannel (c : AbortChannel) (abort : AbortRef) :
    (scene.setChannel c abort).world = scene.world := by
  cases abort <;> rfl

theorem concludeWait_quiet (ticket : WaitTicket σ) (answer : Readiness) (mishaps : Mishaps) :
    (scene.concludeWait ticket answer mishaps).scene.world = scene.world ∧
      Impersonal W (scene.concludeWait ticket answer mishaps).events := by
  rw [concludeWait]
  have hlog := (scene.channel ticket.abort).clearPendingSignals_log mishaps
  split
  · split
    · rename_i hclear
      rw [hclear] at hlog
      exact ⟨scene.world_setChannel .., impersonal_logged hlog⟩
    · rename_i hclear
      rw [hclear] at hlog
      exact ⟨scene.world_setChannel ..,
        impersonal_logged (List.forall_mem_append.2 ⟨hlog, List.forall_mem_singleton.2 id⟩)⟩
  · exact ⟨rfl, impersonal_logged (List.forall_mem_singleton.2 id)⟩

theorem finishWait_quiet (ticket : WaitTicket σ) (timeout : Duration) (mishaps : Mishaps) :
    Polled scene.world (scene.finishWait ticket timeout mishaps).scene.world ∧
      Impersonal W (scene.finishWait ticket timeout mishaps).events := by
  rw [finishWait, askPoller]
  dsimp only
  have hpolled : Polled scene.world
      (Network.waitReady (scene.handlesOf ticket) timeout scene.world).2 := .inr ⟨_, _, rfl⟩
  generalize Network.waitReady (scene.handlesOf ticket) timeout scene.world = out at hpolled
  obtain ⟨answer, world⟩ := out
  cases answer with
  | error e => exact ⟨hpolled, List.forall_mem_singleton.2 rfl⟩
  | ok answer =>
    obtain ⟨hworld, himpersonal⟩ :=
      ({ scene with world } : Scene W σ).concludeWait_quiet ticket answer mishaps
    refine ⟨?_, List.forall_mem_cons.2 ⟨rfl, himpersonal⟩⟩
    change Polled scene.world (concludeWait _ ticket answer mishaps).scene.world
    rw [hworld]
    exact hpolled

theorem wait_quiet (timeout : Duration) (mishaps : Mishaps) :
    Polled scene.world (scene.wait timeout mishaps).scene.world ∧
      Impersonal W (scene.wait timeout mishaps).events := by
  have hbegin : scene.beginWait.2.world = scene.world := by
    rw [beginWait, enterWait]
    cases scene.engine.waiting with
    | true => rfl
    | false =>
      dsimp only
      split <;> rfl
  rw [wait]
  generalize scene.beginWait = begun at hbegin
  obtain ⟨entry, begun⟩ := begun
  cases entry with
  | decided result => exact ⟨.inl hbegin, List.forall_mem_nil _⟩
  | asking ticket =>
    rw [← hbegin]
    exact begun.finishWait_quiet ticket timeout mishaps

theorem abortWait_quiet (mishaps : Mishaps) :
    (scene.abortWait mishaps).scene.world = scene.world ∧
      Impersonal W (scene.abortWait mishaps).events := by
  rw [abortWait]
  split
  · exact ⟨rfl, List.forall_mem_nil _⟩
  · exact ⟨scene.world_setChannel .., impersonal_logged (AbortChannel.signal_log _ _)⟩

section Created

variable (hcreated : scene.engine.lifecycle = .created core)

include hcreated

/-- A call that is answered at once. -/
theorem quiet_answer (hsettings : core.settings.after call = core.settings)
    (result : Except TransmitError α) :
    Outcome.Quiet scene core call (⟨result, scene, []⟩ : Outcome W σ α) where
  created := ⟨core, hcreated, rfl, hsettings.symm⟩
  world := .inl rfl
  impersonal := List.forall_mem_nil _

/-- A call that needs a core. -/
theorem quiet_withCore (f : Core σ → W → CoreOutcome W σ α)
    (hquiet : (f core scene.world).Quiet core call scene.world) :
    Outcome.Quiet scene core call (scene.withCore f) := by
  obtain ⟨hdestinations, hsettings, hworld, himpersonal⟩ := hquiet
  rw [scene.withCore_of_created hcreated]
  exact ⟨⟨_, rfl, hdestinations, hsettings⟩, .inl hworld, himpersonal⟩

/-- What a quiet call comes to. -/
theorem perform_quiet (hquiet : call.IsQuiet) (mishaps : Mishaps := []) :
    Outcome.Quiet scene core call (scene.perform call mishaps) := by
  have hnone : Impersonal W ([] : List (Event σ)) := List.forall_mem_nil _
  cases call with
  | destroy | addDestination stream | deleteDestination id | clearDestinations | poll
  | sendRtp payload | sendRtcp payload | setMaxPacketSize size => exact hquiet.elim
  | init threadSafe =>
    rw [perform, init, hcreated]
    exact scene.quiet_answer hcreated rfl _
  | create size params =>
    rw [perform, create, hcreated]
    exact scene.quiet_answer hcreated rfl _
  | wait timeout =>
    obtain ⟨hworld, himpersonal⟩ := scene.wait_quiet timeout mishaps
    have hframe := scene.wait_frame timeout mishaps
    exact ⟨⟨core, hframe.1.trans hcreated, rfl, rfl⟩, hworld, himpersonal⟩
  | abortWait =>
    obtain ⟨hworld, himpersonal⟩ := scene.abortWait_quiet mishaps
    have hframe := scene.abortWait_frame mishaps
    exact ⟨⟨core, hframe.1.trans hcreated, rfl, rfl⟩, .inl hworld, himpersonal⟩
  | isThreadSafe | newDataAvailable | supportsMulticasting | leaveAllGroups | headerOverhead =>
    exact scene.quiet_answer hcreated rfl _
  | joinGroup address | leaveGroup address => exact scene.quiet_answer hcreated rfl _
  | nextPacket => exact (scene.quiet_withCore hcreated _ (core.quiet_nextPacket _)).map _
  | destinations | clearIgnored | clearAccepted =>
    exact (scene.quiet_withCore hcreated _ ⟨rfl, rfl, rfl, hnone⟩).map _
  | maxPacketSize =>
    exact scene.quiet_withCore hcreated
      (fun core w ↦ core.done w (Reply.number core.maxPacketSize) []) ⟨rfl, rfl, rfl, hnone⟩
  | droppedPackets =>
    exact scene.quiet_withCore hcreated (fun core w ↦ core.done w (Reply.number core.dropped) [])
      ⟨rfl, rfl, rfl, hnone⟩
  | addIgnored id | addAccepted id =>
    exact (scene.quiet_withCore hcreated _ ⟨rfl, rfl, rfl, hnone⟩).map _
  | setReceiveMode mode =>
    exact (scene.quiet_withCore hcreated (·.setReceiveMode mode)
      ⟨rfl, rfl, rfl, List.forall_mem_singleton.2 rfl⟩).map _
  | deleteIgnored id =>
    exact (scene.quiet_withCore hcreated _ (core.quiet_deleteIgnored _ id)).map _
  | deleteAccepted id =>
    exact (scene.quiet_withCore hcreated _ (core.quiet_deleteAccepted _ id)).map _

end Created

end Scene

end StreamRtp
