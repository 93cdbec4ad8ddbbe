import StreamRtp.Proofs.Episodes
import StreamRtp.Proofs.Reassembly
import StreamRtp.Proofs.StreamGrammar

/-!
# From one engine to another

One engine writes to a connection, and what it writes arrives at a connection of another engine. The
receiver then hands out the payloads that the sender has sent, in their order, up to the first one
that is longer than the receiver admits; that one ends the connection.

## The argument

The two halves meet at the stream of bytes. The sender writes the frames of the payloads it has
sent and nothing else, which is `Uplink.departures_eq`. The receiver's connection takes the bytes
that are read there, in whatever pieces they come, as one string: `Digest` says what has become of
them, and `run_digest` keeps it along a run. What an assembler makes of the frames of payloads is
known from the decomposition of streams.
-/

namespace StreamRtp

variable {W V σ τ : Type}

/-! ## What goes through a connection -/

/-- The bytes that an event has read. -/
def Event.bytesRead : Event σ → Bytes
  | read _ _ (.ok data) => data
  | _ => []

/-- The bytes that an event has written. -/
def Event.bytesWritten : Event σ → Bytes
  | write _ data (.ok _) => data
  | _ => []

/-- Whether an event reports that a connection is dropped. -/
def Event.isDrop : Event σ → Bool
  | hook _ _ | log (.droppingConnection _ _) => true
  | _ => false

section Projections

variable (W) [Network W σ] (id : ConnectionId) (events : List (Event σ))

/-- The bytes that have been read at a connection. -/
def arrivals : Bytes := (about W id events).flatMap Event.bytesRead

/-- The bytes that have been written to a connection. -/
def departures : Bytes := (about W id events).flatMap Event.bytesWritten

/-- The reports that a connection is dropped. -/
def drops : List (Event σ) := (about W id events).filter Event.isDrop

end Projections

/-- The payloads that have been sent, in order, whether as media or as control packets. -/
def sent (history : List (Performed σ)) : List Bytes := history.filterMap (·.sent?)

theorem departures_append [Network W σ] (id : ConnectionId) (first second : List (Event σ)) :
    departures W id (first ++ second) = departures W id first ++ departures W id second := by
  rw [departures, about_append, List.flatMap_append]
  rfl

/-! ## The sender -/

/-- A stretch of a run in which a connection stays registered and no fan-out fails. -/
structure Uplink (W : Type) [Network W σ] (id : ConnectionId) (scene : Scene W σ)
    (calls : List (Call σ)) : Prop where
  /-- Connections are registered under their own identities. -/
  keyed : Keyed W scene.engine.lifecycle.entries
  /-- The connection is there at the end. -/
  standing : id ∈ (scene.run calls).2.engine.lifecycle.entries.map (·.1)
  /-- It is not registered in between. -/
  once : ∀ p ∈ (scene.run calls).1, p.registered? ≠ some id
  /-- No payload failed to be written. Payloads may have been refused as too big. -/
  unfailing : ∀ p ∈ (scene.run calls).1, ∀ first e, p.result ≠ .error (.send first e)

namespace Scene

variable [Network W σ] {scene : Scene W σ} {id : ConnectionId}

/-- A connection that is not there does not come back without being registered. -/
theorem notMem_run (hkeyed : Keyed W scene.engine.lifecycle.entries)
    (hid : id ∉ scene.engine.lifecycle.entries.map (·.1)) (calls : List (Call σ))
    (honce : ∀ p ∈ (scene.run calls).1, p.registered? ≠ some id) :
    id ∉ (scene.run calls).2.engine.lifecycle.entries.map (·.1) := by
  induction calls generalizing scene with
  | nil => exact hid
  | cons call calls ih =>
    obtain ⟨hcall, honce⟩ := List.forall_mem_cons.1 honce
    have heffect := scene.perform_effect hkeyed call
    exact ih (heffect.keyed hkeyed) ((heffect.evolves hcall).absent hid).1 honce

end Scene

section Sender

variable [Network W σ] {core : Core σ} {id : ConnectionId} {c : Connection σ} {p : Performed σ}
  {kept : Option (Connection σ)}

omit [Network W σ] in
/-- Nothing is written in a receive pass. -/
theorem bytesWritten_receipt {got : Reception W σ} (h : c.Reads got) :
    ∀ event ∈ core.receipt id got, event.bytesWritten = [] := by
  have hreport : ∀ reason, ∀ event ∈ core.reportDrop id reason, event.bytesWritten = [] := by
    intro reason
    rw [Core.reportDrop]
    split
    · exact List.forall_mem_cons.2 ⟨rfl, List.forall_mem_singleton.2 rfl⟩
    · exact List.forall_mem_singleton.2 rfl
  rw [Core.receipt]
  refine List.forall_mem_append.2 ⟨?_, List.forall_mem_append.2 ⟨?_, ?_⟩⟩
  · cases h with
    | unavailable => exact List.forall_mem_singleton.2 rfl
    | unreadable | notYet => exact List.forall_mem_cons.2 ⟨rfl, List.forall_mem_singleton.2 rfl⟩
    | data n bytes log =>
      refine List.forall_mem_append.2
        ⟨List.forall_mem_cons.2 ⟨rfl, List.forall_mem_singleton.2 rfl⟩, fun event hevent ↦ ?_⟩
      obtain ⟨entry, -, rfl⟩ := List.mem_map.1 hevent
      rfl
  · intro event hevent
    obtain ⟨payload, -, rfl⟩ := List.mem_map.1 hevent
    rfl
  · split
    · exact List.forall_mem_nil _
    · exact hreport _

/-- A call that does not fail writes the frame of the payload that it has sent. -/
theorem Episode.departures_eq (h : Episode W core id c p kept) (hkey : Network.id W c.stream = id)
    (hunfailing : ∀ first e, p.result ≠ .error (.send first e)) :
    departures W id p.events = p.sent?.toList.flatMap Frame.wire ∧
      ∀ payload ∈ p.sent?.toList, payload.length ≤ Frame.maxPayload := by
  cases h with
  | rest habout hsent =>
    rw [departures, habout, hsent]
    exact ⟨rfl, nofun⟩
  | relimit size hcall habout =>
    have hsent : p.sent? = none := by rw [Performed.sent?, hcall]
    rw [departures, habout, hsent]
    exact ⟨rfl, nofun⟩
  | leave hcall habout =>
    have hsent : p.sent? = none := by
      rw [Performed.sent?]
      rcases hcall with hcall | hcall | hcall <;> rw [hcall]
    rw [departures, habout, hsent]
    exact ⟨rfl, nofun⟩
  | receive hcall buffer w habout =>
    have hsent : p.sent? = none := by rw [Performed.sent?, hcall]
    have hwritten : departures W id p.events = [] := by
      rw [departures, habout]
      exact List.flatMap_eq_nil_iff.2 fun event hevent ↦
        bytesWritten_receipt (c.reads_receive buffer w) event (List.mem_of_mem_filter hevent)
    rw [hwritten, hsent]
    exact ⟨rfl, nofun⟩
  | write payload hcall hle habout hresult =>
    have hok : p.result = .ok .done := hresult.resolve_right fun ⟨first, e, h⟩ ↦
      hunfailing first e h
    have hsent : p.sent? = some payload := by
      rw [Performed.sent?, hok]
      rcases hcall with hcall | hcall <;> rw [hcall]
    have hsaid : about W id [Event.write c.stream (Frame.wire payload) (.ok ())]
        = [.write c.stream (Frame.wire payload) (.ok ())] :=
      about_eq_self (List.forall_mem_singleton.2 (congrArg some hkey))
    have hwritten : departures W id p.events = Frame.wire payload := by
      rw [departures, habout, Core.postage, hsaid]
      exact List.append_nil _
    rw [hwritten, hsent]
    exact ⟨(List.append_nil _).symm, List.forall_mem_singleton.2 hle⟩
  | lose payload hcall e habout hresult =>
    obtain ⟨first, cause, hresult⟩ := hresult
    exact absurd hresult (hunfailing first cause)

namespace Uplink

variable {scene : Scene W σ} {call : Call σ} {calls : List (Call σ)}

/-- The connection is there from the beginning. -/
theorem mem_entries (h : Uplink W id scene calls) :
    ∃ core c, scene.engine.lifecycle = .created core ∧ (id, c) ∈ core.destinations.toList := by
  have hid : id ∈ scene.engine.lifecycle.entries.map (·.1) := by
    by_contra hid
    exact Scene.notMem_run h.keyed hid calls h.once h.standing
  obtain ⟨⟨_, c⟩, hc, rfl⟩ := List.mem_map.1 hid
  cases hcreated : scene.engine.lifecycle with
  | created core =>
    rw [hcreated] at hc
    exact ⟨core, c, rfl, hc⟩
  | _ =>
    rw [hcreated] at hc
    cases hc

theorem tail (h : Uplink W id scene (call :: calls)) :
    Uplink W id (scene.perform call).scene calls where
  keyed := (scene.perform_effect h.keyed call).keyed h.keyed
  standing := h.standing
  once := (List.forall_mem_cons.1 h.once).2
  unfailing := (List.forall_mem_cons.1 h.unfailing).2

/-- What is written to the connection is the frames of the payloads that are sent. -/
theorem departures_eq (h : Uplink W id scene calls) :
    departures W id ((scene.run calls).1.flatMap (·.events))
        = (sent (scene.run calls).1).flatMap Frame.wire ∧
      ∀ payload ∈ sent (scene.run calls).1, payload.length ≤ Frame.maxPayload := by
  induction calls generalizing scene with
  | nil => exact ⟨rfl, nofun⟩
  | cons call calls ih =>
    obtain ⟨core, c, hcreated, hc⟩ := h.mem_entries
    have hkeyed : Keyed W core.destinations.toList := by
      have hkeyed := h.keyed
      rwa [hcreated] at hkeyed
    obtain ⟨kept, hepisode, -⟩ := scene.perform_episode hcreated hkeyed hc call
    obtain ⟨hwritten, hle⟩ := hepisode.departures_eq (hkeyed _ hc)
      (List.forall_mem_cons.1 h.unfailing).1
    obtain ⟨hlater, hlaterLe⟩ := ih h.tail
    have hsent : sent (scene.run (call :: calls)).1 = (scene.performed call).sent?.toList
        ++ sent ((scene.perform call).scene.run calls).1 := by
      rw [Scene.run_cons, sent, List.filterMap_cons]
      cases (scene.performed call).sent? <;> rfl
    rw [hsent, List.flatMap_append, Scene.run_cons, List.flatMap_cons, departures_append, hwritten,
      hlater]
    exact ⟨rfl, List.forall_mem_append.2 ⟨hle, hlaterLe⟩⟩

end Uplink

end Sender

/-! ## The receiver -/

/-- Whether an event shows no fault of a stream: bytes wait, a read gives some or says that there
are none yet, and a write goes through. -/
def Event.isFaultless : Event σ → Bool
  | bytesAvailable _ (.ok n) => 0 < n
  | read _ _ (.ok data) => !data.isEmpty
  | read _ _ (.error e) => e.isTransient
  | bytesAvailable _ (.error _) | write _ _ (.error _) => false
  | _ => true

/-- Whether the stream of a connection shows no fault in a call. To offer another stream under the
same identity is no use of the connection. -/
def Performed.showsNoFault (W : Type) [Network W σ] (id : ConnectionId) (p : Performed σ) : Bool :=
  match p.call with
  | .addDestination _ => true
  | _ => (about W id p.events).all Event.isFaultless

/-- Whether a call neither gives up a connection nor changes the limit, nor has the filter reject
anything. -/
def Call.Spares (id : ConnectionId) (limit : Nat) : Call σ → Prop
  | .destroy | .clearDestinations => False
  | .deleteDestination removed => removed ≠ id
  | .setMaxPacketSize size => size = limit
  | .setReceiveMode mode => mode = .acceptAll
  | _ => True

theorem Assembler.limit_push (a : Assembler) (x : Bytes) : (a.push x).2.limit = a.limit := by
  induction a, x using push_induction with
  | nil a => rw [push_nil]
  | refused a x e a' hx h =>
    rw [push_of_error hx h]
    exact (feed_eq_iff.1 h).2
  | delivered a x d a' hx h ih =>
    rw [push_of_ok hx h]
    exact ih.trans (feed_eq_iff.1 h).2

theorem Assembler.setLimit_self (a : Assembler) : a.setLimit a.limit = a := rfl

/-- What has become of a connection, by what is said of it: its assembler has been given the bytes
that were read, and all frames were accepted. The connection is left with the assembler, or dropped
because of a length that was refused. -/
structure Digest (core : Core σ) (id : ConnectionId) (a : Assembler) (said : List (Event σ))
    (left : Option Assembler) : Prop where
  accepted : accepted said = (a.push (said.flatMap Event.bytesRead)).1.frames.map (id, ·)
  drops : said.filter Event.isDrop =
    match (a.push (said.flatMap Event.bytesRead)).1.error with
    | none => []
    | some e => core.reportDrop id (.assembly e)
  left : left =
    match (a.push (said.flatMap Event.bytesRead)).1.error with
    | none => some (a.push (said.flatMap Event.bytesRead)).2
    | some _ => none

namespace Digest

variable {core after : Core σ} {id : ConnectionId} {a b : Assembler} {said later : List (Event σ)}
  {left : Option Assembler}

/-- Bytes are read, and what is said besides fits to what comes of them. -/
theorem of_data {bytes : Bytes} (hread : said.flatMap Event.bytesRead = bytes)
    (haccepted : StreamRtp.accepted said = (a.push bytes).1.frames.map (id, ·))
    (hdrops : said.filter Event.isDrop =
      match (a.push bytes).1.error with
      | none => []
      | some e => core.reportDrop id (.assembly e)) :
    Digest core id a said
      (match (a.push bytes).1.error with
      | none => some (a.push bytes).2
      | some _ => none) := by
  subst hread
  exact ⟨haccepted, hdrops, rfl⟩

/-- Something is said that says nothing of bytes, frames and reports. -/
theorem of_idle (core : Core σ) (id : ConnectionId) (a : Assembler)
    (haccepted : StreamRtp.accepted said = []) (hread : said.flatMap Event.bytesRead = [])
    (hdrops : said.filter Event.isDrop = []) : Digest core id a said (some a) := by
  refine ⟨?_, ?_, ?_⟩
  all_goals rw [hread, Assembler.push_nil]
  · exact haccepted
  · exact hdrops

theorem congr (h : Digest after id a said left) (hhook : after.hasHook = core.hasHook) :
    Digest core id a said left := by
  have hreport : after.reportDrop id = core.reportDrop id := by
    funext reason
    rw [Core.reportDrop, Core.reportDrop, hhook]
  exact ⟨h.accepted, hreport ▸ h.drops, h.left⟩

theorem limit_eq (h : Digest core id a said (some b)) : b.limit = a.limit := by
  have hleft := h.left
  split at hleft
  · cases hleft
    exact a.limit_push _
  · cases hleft

/-- Of a connection that is left more can be said. -/
theorem trans (h₁ : Digest core id a said (some b)) (h₂ : Digest core id b later left) :
    Digest core id a (said ++ later) left := by
  obtain ⟨haccepted₁, hdrops₁, hleft₁⟩ := h₁
  obtain ⟨haccepted₂, hdrops₂, hleft₂⟩ := h₂
  have hpush := a.push_append (said.flatMap Event.bytesRead) (later.flatMap Event.bytesRead)
  cases herror : (a.push (said.flatMap Event.bytesRead)).1.error with
  | some e =>
    rw [herror] at hleft₁
    cases hleft₁
  | none =>
    rw [herror] at hleft₁ hdrops₁ hpush
    cases hleft₁
    refine ⟨?_, ?_, ?_⟩
    all_goals rw [List.flatMap_append, hpush]
    · rw [accepted_append, haccepted₁, haccepted₂, List.map_append]
    · rw [List.filter_append, hdrops₁, hdrops₂, List.nil_append]
    · exact hleft₂

/-- Of a connection that was dropped nothing more is said that matters. -/
theorem append_of_dropped (h : Digest core id a said none)
    (haccepted : StreamRtp.accepted later = []) (hread : later.flatMap Event.bytesRead = [])
    (hdrops : later.filter Event.isDrop = []) : Digest core id a (said ++ later) none := by
  refine ⟨?_, ?_, ?_⟩
  all_goals rw [List.flatMap_append, hread, List.append_nil]
  · rw [accepted_append, haccepted, List.append_nil, h.accepted]
  · rw [List.filter_append, hdrops, List.append_nil, h.drops]
  · exact h.left

end Digest

section Receiver

variable [Network W σ] {core : Core σ} {id : ConnectionId} {c : Connection σ} {p : Performed σ}
  {kept : Option (Connection σ)}

omit [Network W σ] in
/-- The report that follows a read, if there is one, says nothing of bytes and frames. -/
theorem said_report (core : Core σ) (id : ConnectionId) (failure : Option DropReason) :
    let report := match failure with
      | none => []
      | some reason => core.reportDrop id reason
    accepted report = [] ∧ report.flatMap Event.bytesRead = [] ∧
      report.filter Event.isDrop = report := by
  cases failure with
  | none => exact ⟨rfl, rfl, rfl⟩
  | some reason =>
    dsimp only
    rw [Core.reportDrop]
    split <;> exact ⟨rfl, rfl, rfl⟩

omit [Network W σ] in
/-- A read, the accepted frames that it completes, and a report if there is one. -/
theorem said_data (id : ConnectionId) (s : σ) (n : Nat) (bytes : Bytes) (frames : List Bytes)
    {report : List (Event σ)} (haccepted : accepted report = [])
    (hread : report.flatMap Event.bytesRead = []) (hdrops : report.filter Event.isDrop = report) :
    let said := [.bytesAvailable s (.ok n), .read s n (.ok bytes)]
      ++ (frames.map (.frame id · .accept) ++ report)
    accepted said = frames.map (id, ·) ∧ said.flatMap Event.bytesRead = bytes ∧
      said.filter Event.isDrop = report := by
  have hframes : ∀ event ∈ (frames.map (.frame id · .accept) : List (Event σ)),
      event.bytesRead = [] ∧ ¬event.isDrop = true := by
    intro event hevent
    obtain ⟨payload, -, rfl⟩ := List.mem_map.1 hevent
    exact ⟨rfl, nofun⟩
  refine ⟨?_, ?_, ?_⟩
  · rw [accepted_append, accepted_append, accepted_map_frame, if_pos rfl, haccepted,
      List.append_nil]
    rfl
  · rw [List.flatMap_append, List.flatMap_append, hread, List.append_nil,
      List.flatMap_eq_nil_iff.2 fun event hevent ↦ (hframes event hevent).1, List.append_nil]
    exact List.append_nil bytes
  · rw [List.filter_append, List.filter_append, hdrops,
      List.filter_eq_nil_iff.2 fun event hevent ↦ (hframes event hevent).2]
    rfl

omit [Network W σ] in
/-- That a stream was offered says nothing of bytes, frames and reports. -/
theorem said_of_offers {said : List (Event σ)}
    (h : ∀ event ∈ said, ∃ stream answer, event = .bytesAvailable stream answer) :
    accepted said = [] ∧ said.flatMap Event.bytesRead = [] ∧ said.filter Event.isDrop = [] := by
  induction said with
  | nil => exact ⟨rfl, rfl, rfl⟩
  | cons event said ih =>
    obtain ⟨⟨stream, answer, rfl⟩, hsaid⟩ := List.forall_mem_cons.1 h
    exact ih hsaid

/-- What a read without a fault comes to. -/
theorem digest_receipt (hkey : Network.id W c.stream = id) (hmode : core.filter.mode = .acceptAll)
    {got : Reception W σ} (h : c.Reads got)
    (hfaultless : ∀ event ∈ about W id (core.receipt id got), event.isFaultless = true) : ∃ left,
      Digest core id c.assembler (about W id (core.receipt id got)) left ∧
        c.afterReading got = left.map fun a ↦ { c with assembler := a } := by
  have hverdict : core.filter.decision id = .accept := by
    rw [ReceiveFilter.decision, hmode]
    rfl
  have hasked : ∀ answer, (Event.bytesAvailable c.stream answer).subject? W = some id :=
    fun _ ↦ congrArg some hkey
  have hread : ∀ n answer, (Event.read c.stream n answer).subject? W = some id :=
    fun _ _ ↦ congrArg some hkey
  rw [core.about_receipt, hverdict] at hfaultless ⊢
  cases h with
  | unavailable answer reason buffer w hanswer =>
    have hfault := hfaultless (.bytesAvailable c.stream answer) <| List.mem_append_left _ <|
      List.mem_filter.2 ⟨List.mem_singleton_self _, decide_eq_true (hasked _)⟩
    rcases hanswer with rfl | ⟨e, rfl⟩
    · cases hfault
    · cases hfault
  | unreadable n answer reason buffer w hanswer =>
    have hfault := hfaultless (.read c.stream n answer) <| List.mem_append_left _ <|
      List.mem_filter.2 ⟨List.mem_cons_of_mem _ (List.mem_singleton_self _),
        decide_eq_true (hread _ _)⟩
    rcases hanswer with rfl | ⟨e, hlasting, rfl⟩
    · cases hfault
    · exact absurd hfault (Bool.eq_false_iff.1 hlasting)
  | notYet n e buffer w htransient =>
    refine ⟨some c.assembler, ?_, rfl⟩
    rw [about_eq_self (List.forall_mem_cons.2 ⟨hasked _, List.forall_mem_singleton.2 (hread _ _)⟩)]
    exact .of_idle core id c.assembler rfl rfl rfl
  | data n bytes log buffer w hlog =>
    have hlogged : about W id (logged log : List (Event σ)) = [] := by
      refine Impersonal.about_eq_nil (impersonal_logged fun entry hentry ↦ ?_) id
      obtain ⟨declared, limit, rfl⟩ := hlog entry hentry
      exact not_false
    dsimp only
    rw [about_append, hlogged, List.append_nil,
      about_eq_self (List.forall_mem_cons.2 ⟨hasked _, List.forall_mem_singleton.2 (hread _ _)⟩),
      Connection.afterReading]
    obtain ⟨hnone, hnothing, hall⟩ :=
      said_report core id ((c.assembler.push bytes).1.error.map .assembly)
    obtain ⟨haccepted, hbytes, hdrops⟩ :=
      said_data id c.stream n bytes (c.assembler.push bytes).1.frames hnone hnothing hall
    refine ⟨_, .of_data hbytes haccepted (hdrops.trans ?_), ?_⟩
    · cases (c.assembler.push bytes).1.error <;> rfl
    · cases (c.assembler.push bytes).1.error <;> rfl

/-- What a call does to a connection that is spared and whose stream shows no fault. -/
theorem Episode.digest (h : Episode W core id c p kept) (hkey : Network.id W c.stream = id)
    (hmode : core.filter.mode = .acceptAll) (hspares : p.call.Spares id c.assembler.limit)
    (hfaultless : p.showsNoFault W id = true) : ∃ left,
      Digest core id c.assembler (about W id p.events) left ∧
        kept = left.map fun a ↦ { c with assembler := a } := by
  cases h with
  | rest habout hsent =>
    refine ⟨some c.assembler, ?_, rfl⟩
    rw [habout]
    exact .of_idle core id c.assembler rfl rfl rfl
  | relimit size hcall habout =>
    rw [hcall] at hspares
    refine ⟨some c.assembler, ?_, ?_⟩
    · rw [habout]
      exact .of_idle core id c.assembler rfl rfl rfl
    · rw [(hspares : size = _), Assembler.setLimit_self]
      rfl
  | leave hcall habout =>
    rcases hcall with hcall | hcall | hcall
    all_goals rw [hcall] at hspares
    · exact absurd rfl hspares
    · exact hspares.elim
    · exact hspares.elim
  | receive hcall buffer w habout =>
    rw [Performed.showsNoFault, hcall, List.all_eq_true, habout] at hfaultless
    rw [habout]
    exact digest_receipt hkey hmode (c.reads_receive buffer w) hfaultless
  | write payload hcall hle habout hresult =>
    refine ⟨some c.assembler, ?_, rfl⟩
    have hself : about W id [Event.write c.stream (Frame.wire payload) (.ok ())]
        = [.write c.stream (Frame.wire payload) (.ok ())] :=
      about_eq_self (List.forall_mem_singleton.2 (congrArg some hkey))
    rw [habout, Core.postage, hself]
    exact .of_idle core id c.assembler rfl rfl rfl
  | lose payload hcall e habout hresult =>
    -- The failed write would be a fault.
    have hmem : Event.write c.stream (Frame.wire payload) (.error e) ∈ about W id p.events := by
      rw [habout]
      exact List.mem_filter.2 ⟨List.mem_cons_self, decide_eq_true (congrArg some hkey)⟩
    rcases hcall with hcall | hcall
    all_goals
      rw [Performed.showsNoFault, hcall, List.all_eq_true] at hfaultless
      cases hfaultless _ hmem

omit [Network W σ] in
/-- Calls that spare a connection leave the filter open, and no call touches the hook. -/
theorem Settings.mode_after (s : Settings) {call : Call σ} {limit : Nat}
    (hmode : s.filter.mode = .acceptAll) (hspares : call.Spares id limit) :
    (s.after call).filter.mode = .acceptAll ∧ (s.after call).hasHook = s.hasHook := by
  cases call with
  | setReceiveMode mode => exact ⟨hspares, rfl⟩
  | addIgnored source =>
    refine ⟨?_, rfl⟩
    rw [after, ReceiveFilter.ignore]
    split <;> exact hmode
  | deleteIgnored source =>
    refine ⟨?_, rfl⟩
    rw [after, ReceiveFilter.unignore]
    split <;> exact hmode
  | addAccepted source =>
    refine ⟨?_, rfl⟩
    rw [after, ReceiveFilter.allow]
    split <;> exact hmode
  | deleteAccepted source =>
    refine ⟨?_, rfl⟩
    rw [after, ReceiveFilter.disallow]
    split <;> exact hmode
  | _ => exact ⟨hmode, rfl⟩

omit [Network W σ] in
theorem Call.Spares.ne_destroy {call : Call σ} {limit : Nat} (h : call.Spares id limit) :
    call ≠ .destroy := by
  rintro rfl
  exact h

namespace Scene

variable {scene : Scene W σ}

/-- Of a connection that is not registered a run only says that streams were offered. -/
theorem about_run_of_notMem (hcreated : scene.engine.lifecycle = .created core)
    (hkeyed : Keyed W core.destinations.toList) (hid : id ∉ core.destinations.keys)
    (calls : List (Call σ)) (hcalls : ∀ call ∈ calls, call ≠ .destroy)
    (honce : ∀ p ∈ (scene.run calls).1, p.registered? ≠ some id) :
    ∀ event ∈ about W id ((scene.run calls).1.flatMap (·.events)),
      ∃ stream answer, event = .bytesAvailable stream answer := by
  induction calls generalizing scene core with
  | nil => exact List.forall_mem_nil _
  | cons call calls ih =>
    obtain ⟨hcall, hcalls⟩ := List.forall_mem_cons.1 hcalls
    obtain ⟨hfirst, honce⟩ := List.forall_mem_cons.1 honce
    obtain ⟨after, hafter, -⟩ := scene.perform_settings hcreated hcall
    have hentries : scene.engine.lifecycle.entries = core.destinations.toList := by
      rw [hcreated]
      rfl
    have heffect := scene.perform_effect (hentries ▸ hkeyed) call
    have hkeyedAfter := heffect.keyed (hentries ▸ hkeyed)
    have hidAfter := ((heffect.evolves hfirst).absent (hentries ▸ hid)).1
    rw [hafter] at hkeyedAfter hidAfter
    rw [run_cons, List.flatMap_cons, about_append]
    exact List.forall_mem_append.2 ⟨scene.about_perform_of_notMem hcreated hkeyed hid call,
      ih hafter hkeyedAfter hidAfter hcalls honce⟩

/-- What has become of a connection along a run in which it is spared. -/
theorem run_digest (hcreated : scene.engine.lifecycle = .created core)
    (hkeyed : Keyed W core.destinations.toList) (hc : (id, c) ∈ core.destinations.toList)
    (hmode : core.filter.mode = .acceptAll) (calls : List (Call σ))
    (hspares : ∀ call ∈ calls, call.Spares id c.assembler.limit)
    (honce : ∀ p ∈ (scene.run calls).1, p.registered? ≠ some id)
    (hfaultless : ∀ p ∈ (scene.run calls).1, p.showsNoFault W id = true) : ∃ left,
      Digest core id c.assembler (about W id ((scene.run calls).1.flatMap (·.events))) left ∧
        Enrolled (scene.run calls).2.engine.lifecycle.entries id
          (left.map fun a ↦ { c with assembler := a }) := by
  induction calls generalizing scene core c with
  | nil =>
    refine ⟨some c.assembler, .of_idle core id c.assembler rfl rfl rfl, ?_⟩
    rw [run, hcreated]
    exact .of_mem core.destinations.nodup_keys hc
  | cons call calls ih =>
    obtain ⟨hcall, hspares⟩ := List.forall_mem_cons.1 hspares
    obtain ⟨hfirst, honce⟩ := List.forall_mem_cons.1 honce
    obtain ⟨hfault, hfaultless⟩ := List.forall_mem_cons.1 hfaultless
    obtain ⟨after, hafter, hsettings⟩ := scene.perform_settings hcreated hcall.ne_destroy
    obtain ⟨hmodeAfter, hhook⟩ := core.settings.mode_after hmode hcall
    rw [← hsettings] at hmodeAfter hhook
    obtain ⟨kept, hepisode, hkept⟩ := scene.perform_episode hcreated hkeyed hc call
    obtain ⟨left, hdigest, rfl⟩ := hepisode.digest (hkeyed _ hc) hmode hcall hfault
    have hentries : scene.engine.lifecycle.entries = core.destinations.toList := by
      rw [hcreated]
      rfl
    have heffect := scene.perform_effect (hentries ▸ hkeyed) call
    have hkeyedAfter := heffect.keyed (hentries ▸ hkeyed)
    rw [run_cons, List.flatMap_cons, about_append]
    cases left with
    | none =>
      -- It was dropped by this call, and nothing brings it back.
      have hid : id ∉ (scene.perform call).scene.engine.lifecycle.entries.map (·.1) :=
        enrolled_none_iff.1 hkept
      have hlast := notMem_run hkeyedAfter hid calls honce
      rw [hafter] at hid hkeyedAfter
      obtain ⟨haccepted, hread, hdrops⟩ := said_of_offers <| about_run_of_notMem hafter hkeyedAfter
        hid calls (fun call hmem ↦ (hspares call hmem).ne_destroy) honce
      exact ⟨none, hdigest.append_of_dropped haccepted hread hdrops, enrolled_none_iff.2 hlast⟩
    | some a =>
      have hc' := (hkept { c with assembler := a }).2 rfl
      rw [hafter] at hc' hkeyedAfter
      obtain ⟨left, hlater, hlast⟩ := ih hafter hkeyedAfter hc' hmodeAfter
        (fun call hmem ↦ hdigest.limit_eq ▸ hspares call hmem) honce hfaultless
      exact ⟨left, hdigest.trans (hlater.congr hhook), hlast⟩

end Scene

/-- A stretch of a run in which a connection is registered and then spared, by an engine that
accepts what arrives there. -/
structure Downlink (W : Type) [Network W σ] (core : Core σ) (stream : σ) (scene : Scene W σ)
    (calls : List (Call σ)) : Prop where
  created : scene.engine.lifecycle = .created core
  /-- Connections are registered under their own identities. -/
  keyed : Keyed W core.destinations.toList
  mode : core.filter.mode = .acceptAll
  added : (scene.perform (.addDestination stream)).result = .ok (.id (Network.id W stream))
  /-- It is not given up on demand, and neither the limit nor the mode is changed. -/
  spares : ∀ call ∈ calls, call.Spares (Network.id W stream) core.maxPacketSize
  /-- It is not registered again. -/
  once : ∀ p ∈ ((scene.perform (.addDestination stream)).scene.run calls).1,
    p.registered? ≠ some (Network.id W stream)
  /-- Its stream neither fails nor ends. -/
  faultless : ∀ p ∈ ((scene.perform (.addDestination stream)).scene.run calls).1,
    p.showsNoFault W (Network.id W stream) = true

namespace Downlink

variable {stream : σ} {scene : Scene W σ} {calls : List (Call σ)}

/-- The engine right after the registration. -/
theorem exists_registered (h : Downlink W core stream scene calls) : ∃ after,
    (scene.perform (.addDestination stream)).scene.engine.lifecycle = .created after ∧
      after.destinations.toList = core.destinations.toList
          ++ [(Network.id W stream, ⟨stream, .ofLimit core.maxPacketSize⟩)] ∧
      after.settings = core.settings ∧ after.queue = core.queue := by
  have hadded := h.added
  have hquiet : ¬(Call.addDestination stream).IsQuiet := not_false
  rw [scene.perform_eq_respond h.created hquiet nofun] at hadded ⊢
  simp only [Core.respond] at hadded ⊢
  by_cases hid : Network.id W stream ∈ core.destinations.keys
  · rw [core.addDestination_of_mem hid] at hadded
    cases hadded
  cases hasked : Network.bytesAvailable stream scene.world with
  | mk answer w' =>
    cases answer with
    | error e =>
      rw [core.addDestination_of_error hid hasked] at hadded
      cases hadded
    | ok n =>
      obtain ⟨destinations, hlist, hadd⟩ := core.addDestination_of_ok hid hasked
      rw [hadd]
      exact ⟨_, rfl, hlist, rfl, rfl⟩

/-- The receiver hands out the frames of the bytes that were read, and keeps the connection unless
a length is refused. -/
theorem received (h : Downlink W core stream scene calls) :
    let id := Network.id W stream
    let start := (scene.perform (.addDestination stream)).scene
    let incoming := (start.run calls).1
    let last := (start.run calls).2.engine.lifecycle
    let out := (Assembler.ofLimit core.maxPacketSize).push
      (arrivals W id (incoming.flatMap (·.events)))
    ∃ packets,
      (handedOut incoming ++ last.queue).filter (·.source = id)
          = core.queue.filter (·.source = id) ++ packets ∧
        packets.map Packet.origin = out.1.frames.map (id, ·) ∧
        match out.1.error with
        | none => drops W id (incoming.flatMap (·.events)) = [] ∧
            ∃ c, (id, c) ∈ last.entries ∧ c.assembler = out.2
        | some e => drops W id (incoming.flatMap (·.events)) = core.reportDrop id (.assembly e) ∧
            id ∉ last.entries.map (·.1) := by
  intro id start incoming last out
  obtain ⟨registered, hregistered, hlist, hsettings, hqueue⟩ := h.exists_registered
  have hkeyed : Keyed W registered.destinations.toList := by
    rw [hlist]
    exact List.forall_mem_append.2 ⟨h.keyed, List.forall_mem_singleton.2 rfl⟩
  have hc : (id, (⟨stream, .ofLimit core.maxPacketSize⟩ : Connection σ))
      ∈ registered.destinations.toList := by
    rw [hlist]
    exact List.mem_append_right _ (List.mem_singleton_self _)
  have hmode : registered.filter.mode = .acceptAll :=
    (congrArg (·.filter.mode) hsettings).trans h.mode
  obtain ⟨left, hdigest, hlast⟩ := start.run_digest hregistered hkeyed hc hmode calls h.spares
    h.once h.faultless
  obtain ⟨haccepted, hdrops, hleft⟩ : Digest core id _ _ left :=
    hdigest.congr (congrArg (·.hasHook) hsettings)
  change accepted _ = out.1.frames.map (id, ·) at haccepted
  obtain ⟨after, arrived, hafter, hbooked, horigin, -⟩ := start.run_booked hregistered calls
    fun call hcall ↦ (h.spares call hcall).ne_destroy
  refine ⟨arrived.filter (·.source = id), ?_, ?_, ?_⟩
  · change (_ ++ (start.run calls).2.engine.lifecycle.queue).filter _ = _
    rw [hafter, Lifecycle.queue, hbooked, hqueue, List.filter_append]
  · -- The packets of the connection are the accepted frames of the connection.
    rw [← haccepted, accepted_about, ← horigin, List.filter_map]
    rfl
  · change left = match out.1.error with
      | none => some out.2
      | some _ => none at hleft
    change drops W id _ = match out.1.error with
      | none => []
      | some e => core.reportDrop id (.assembly e) at hdrops
    cases herror : out.1.error with
    | none =>
      rw [herror] at hleft hdrops
      exact ⟨hdrops, _, (hlast _).2 (congrArg _ hleft), rfl⟩
    | some e =>
      rw [herror] at hleft hdrops
      rw [hleft] at hlast
      exact ⟨hdrops, enrolled_none_iff.1 hlast⟩

end Downlink

end Receiver

/-! ## The stream in between -/

/-- The frames of payloads are read as the payloads up to the first one that is too long. -/
theorem Frame.reading_flatMap_wire {payloads : List Bytes} (limit : Nat)
    (h : ∀ payload ∈ payloads, payload.length ≤ maxPayload) :
    Reading limit (payloads.flatMap wire)
      ⟨payloads.takeWhile (·.length ≤ limit),
        (payloads.find? (limit < ·.length)).map fun payload ↦ .frameTooLarge payload.length limit⟩
      (payloads.find? (limit < ·.length)).isNone := by
  induction payloads with
  | nil => exact .accepted [] [] [] (List.forall_mem_nil _) rfl .nothing rfl
  | cons payload payloads ih =>
    obtain ⟨hmax, h⟩ := List.forall_mem_cons.1 h
    by_cases hle : payload.length ≤ limit
    · rw [List.takeWhile_cons_of_pos (by simpa using hle),
        List.find?_cons_of_neg (by simpa using hle), List.flatMap_cons]
      exact (ih h).cons hle hmax
    · have hlt : limit < payload.length := Nat.lt_of_not_le hle
      have hrefuses : Refuses limit (bigEndian lengthFieldSize payload.length)
          (.frameTooLarge payload.length limit) :=
        ⟨length_bigEndian .., (ofBigEndian_bigEndian hmax).symm ▸ hlt,
          by rw [ofBigEndian_bigEndian hmax]⟩
      rw [List.takeWhile_cons_of_neg (by simpa using hle),
        List.find?_cons_of_pos (by simpa using hlt)]
      refine .refused [] [] _ (payload ++ payloads.flatMap wire) _ (List.forall_mem_nil _) rfl
        hrefuses ?_
      rw [List.flatMap_cons, wire, List.append_assoc, List.nil_append]

namespace Scene

/-- What one engine sends arrives at another one. Let what is read at a connection of the receiver
be the beginning of what was written to a connection of the sender, and all of it as long as the
connection is there. Then the receiver has handed out, or has in its queue, exactly the payloads
that were sent, up to the first one that is longer than it admits. If there is none, the connection
waits for the next frame; if there is one, the connection was dropped because of its length. -/
theorem payloads_delivered [Network W σ] [Network V τ] {sender : Scene W σ}
    {sending : List (Call σ)} {a : ConnectionId} (hup : Uplink W a sender sending)
    {receiver : Scene V τ} {core : Core τ} {stream : τ} {receiving : List (Call τ)}
    (hdown : Downlink V core stream receiver receiving) :
    let id := Network.id V stream
    let start := (receiver.perform (.addDestination stream)).scene
    let outgoing := (sender.run sending).1
    let incoming := (start.run receiving).1
    let last := (start.run receiving).2.engine.lifecycle
    arrivals V id (incoming.flatMap (·.events)) <+: departures W a (outgoing.flatMap (·.events)) →
    (id ∈ last.entries.map (·.1) → arrivals V id (incoming.flatMap (·.events))
      = departures W a (outgoing.flatMap (·.events))) →
    ∃ packets,
      (handedOut incoming ++ last.queue).filter (·.source = id)
          = core.queue.filter (·.source = id) ++ packets ∧
        packets.map (fun p ↦ (p.data, p.source, p.kind))
          = ((sent outgoing).takeWhile (·.length ≤ core.maxPacketSize)).map
              (fun payload ↦ (payload, id, PacketKind.classify payload)) ∧
        match (sent outgoing).find? (core.maxPacketSize < ·.length) with
        | none => drops V id (incoming.flatMap (·.events)) = [] ∧
            ∃ c, (id, c) ∈ last.entries ∧ c.assembler.isIdle = true
        | some payload => drops V id (incoming.flatMap (·.events)) = core.reportDrop id
              (.assembly (.frameTooLarge payload.length core.maxPacketSize)) ∧
            id ∉ last.entries.map (·.1) := by
  intro id start outgoing incoming last hprefix hall
  obtain ⟨hwritten, hmax⟩ := hup.departures_eq
  obtain ⟨packets, hqueue, horigin, hend⟩ := hdown.received
  -- The bytes that were not read would have made no difference.
  have hpush : (Assembler.ofLimit core.maxPacketSize).push
        (arrivals V id (incoming.flatMap (·.events)))
      = (Assembler.ofLimit core.maxPacketSize).push ((sent outgoing).flatMap Frame.wire) := by
    rw [← hwritten]
    cases herror : ((Assembler.ofLimit core.maxPacketSize).push
        (arrivals V id (incoming.flatMap (·.events)))).1.error with
    | none =>
      rw [herror] at hend
      obtain ⟨-, c, hc, -⟩ := hend
      rw [hall (List.mem_map_of_mem hc)]
    | some e =>
      obtain ⟨rest, hrest⟩ := hprefix
      rw [← hrest, Assembler.push_append, herror]
  obtain ⟨hintake, hidle⟩ :=
    Assembler.push_of_reading (Frame.reading_flatMap_wire core.maxPacketSize hmax)
  rw [hpush, hintake] at horigin hend
  refine ⟨packets, hqueue, ?_, ?_⟩
  · have hshape : packets.map (fun p ↦ (p.data, p.source, p.kind))
        = (packets.map Packet.origin).map fun o ↦ (o.2, o.1, PacketKind.classify o.2) := by
      rw [List.map_map]
      rfl
    rw [hshape, horigin, List.map_map]
    rfl
  · cases hfind : (sent outgoing).find? (core.maxPacketSize < ·.length) with
    | none =>
      rw [hfind] at hend hidle
      obtain ⟨hdrops, c, hc, hassembler⟩ := hend
      exact ⟨hdrops, c, hc, hassembler ▸ hidle⟩
    | some payload =>
      rw [hfind] at hend
      exact hend

/-- A stream that goes out. -/
def outgoingWorld : Scripted.World := ⟨[("out", .fresh)], []⟩

/-- A stream that comes in with the bytes of three frames in three pieces. The last piece ends
behind a length. -/
def incomingWorld : Scripted.World :=
  ⟨[("in", ⟨[.data [0, 2, 1] none, .data [2, 0] none, .data [0, 0, 3] none], false, [], none⟩)], []⟩

/-- An engine with one connection. -/
def sendingScene : Scene Scripted.World Scripted.Stream :=
  ((⟨.new, [], outgoingWorld⟩ : Scene Scripted.World Scripted.Stream).run
    [.init false, .create 10 .default, .addDestination ⟨"out", ⟨1⟩⟩]).2

/-- An engine without connections. -/
def receivingScene : Scene Scripted.World Scripted.Stream :=
  ((⟨.new, [], incomingWorld⟩ : Scene Scripted.World Scripted.Stream).run
    [.init false, .create 2 .default]).2

/-- Three payloads, the last of which is longer than the receiver admits. -/
def sendingCalls : List (Call Scripted.Stream) :=
  [.sendRtp [1, 2], .sendRtcp [], .sendRtp [3, 4, 5]]

/-- A receive pass for each piece. -/
def receivingCalls : List (Call Scripted.Stream) := [.poll, .poll, .nextPacket, .poll]

theorem uplink_sendingCalls : Uplink Scripted.World ⟨1⟩ sendingScene sendingCalls where
  keyed := by
    change ∀ e ∈ sendingScene.engine.lifecycle.entries,
      Network.id Scripted.World e.2.stream = e.1
    decide +kernel
  standing := by decide +kernel
  once := by decide +kernel
  unfailing p hp first e h := by
    have hok : ∀ p ∈ (sendingScene.run sendingCalls).1, p.result.isOk = true := by decide +kernel
    have hp := hok p hp
    rw [h] at hp
    cases hp

theorem downlink_receivingCalls : Downlink Scripted.World (.ofParams 2 .own .default)
    ⟨"in", ⟨2⟩⟩ receivingScene receivingCalls where
  created := rfl
  keyed := List.forall_mem_nil _
  mode := rfl
  added := rfl
  spares := by
    simp only [receivingCalls, List.forall_mem_cons, List.not_mem_nil, false_imp_iff, implies_true,
      Call.Spares, and_self]
  once := by decide +kernel
  faultless := by decide +kernel

theorem payloads_delivered_receivingCalls :
    let start := (receivingScene.perform (.addDestination ⟨"in", ⟨2⟩⟩)).scene
    let incoming := (start.run receivingCalls).1
    let last := (start.run receivingCalls).2.engine.lifecycle
    ∃ packets, (handedOut incoming ++ last.queue).filter (·.source = ⟨2⟩) = packets ∧
      packets.map (fun p ↦ (p.data, p.source, p.kind))
        = [([1, 2], ⟨2⟩, .rtp), ([], ⟨2⟩, .rtp)] ∧
      drops Scripted.World ⟨2⟩ (incoming.flatMap (·.events))
        = [.log (.droppingConnection ⟨2⟩ (.assembly (.frameTooLarge 3 2)))] ∧
      ⟨2⟩ ∉ last.entries.map (·.1) := by
  intro start incoming last
  have hsent : sent (sendingScene.run sendingCalls).1 = [[1, 2], [], [3, 4, 5]] := by
    decide +kernel
  have hprefix : arrivals Scripted.World ⟨2⟩ (incoming.flatMap (·.events))
      <+: departures Scripted.World ⟨1⟩ ((sendingScene.run sendingCalls).1.flatMap (·.events)) := by
    decide +kernel
  have hgone : ⟨2⟩ ∉ last.entries.map (·.1) := by decide +kernel
  have hdelivered := payloads_delivered uplink_sendingCalls downlink_receivingCalls hprefix
    fun h ↦ absurd h hgone
  rw [hsent] at hdelivered
  exact hdelivered

end Scene

end StreamRtp
