import StreamRtp.Proofs.Outline

/-!
# An engine seen from one connection

What a call means for a connection is a function of few things: the settings of the engine, what is
registered under the identity of the connection, whether the poller calls it ready, and what its own
stream answers. `Core.fate` is that function, and `perform_fate` says that every call of a created
engine looks like it from the connection. Other connections are not among the arguments.

`Connection.settle` is the part of it that reads: what a connection makes of the answers of its
stream, whatever the buffer held that the engine lends to all of them.
-/

namespace StreamRtp

variable {W σ : Type}

/-! ## What answers come to -/

/-- What a stream answers in one call. -/
structure Answers where
  available : Except IoError Nat
  data : Except IoError Bytes
  written : Except IoError Unit

/-- The answers of a stream that is asked nothing, where some have to be named. -/
def Answers.idle : Answers := ⟨.ok 0, .ok [], .ok ()⟩

/-- What a connection makes of the answers of its stream. The buffer and the world have no part in
it. -/
def Connection.settle (c : Connection σ) (answers : Answers) : Reception Unit σ :=
  match answers.available with
  | .error e =>
    ⟨[], some (.receive e), c.assembler, [], (), [.bytesAvailable c.stream (.error e)]⟩
  | .ok 0 => ⟨[], some .closed, c.assembler, [], (), [.bytesAvailable c.stream (.ok 0)]⟩
  | .ok available =>
    let asked := [.bytesAvailable c.stream (.ok available), .read c.stream available answers.data]
    match answers.data with
    | .error e =>
      ⟨[], if e.isTransient then none else some (.receive e), c.assembler, [], (), asked⟩
    | .ok [] => ⟨[], some .closed, c.assembler, [], (), asked⟩
    | .ok bytes =>
      let (intake, assembler) := c.assembler.push bytes
      ⟨intake.frames, intake.error.map .assembly, assembler, [], (), asked⟩

/-- What a call means for the connections with one identity: what is said about them, and what is
registered afterwards. -/
def Core.fate (W : Type) [Network W σ] (core : Core σ) (id : ConnectionId) (picked : Bool)
    (answers : Answers) :
    Option (Connection σ) → Call σ → List (Event σ) × Option (Connection σ)
  | none, .addDestination stream =>
    if Network.id W stream = id then
      ([.bytesAvailable stream answers.available],
        match answers.available with
        | .ok _ => some ⟨stream, .ofLimit core.maxPacketSize⟩
        | .error _ => none)
    else ([], none)
  | some c, .deleteDestination removed => ([], if id = removed then none else some c)
  | some _, .clearDestinations | some _, .destroy => ([], none)
  | some c, .setMaxPacketSize size =>
    ([], some { c with assembler := c.assembler.setLimit size })
  | some c, .poll =>
    if picked then (core.receipt id (c.settle answers), c.afterReading (c.settle answers))
    else ([], some c)
  | some c, .sendRtp payload | some c, .sendRtcp payload =>
    if core.sendLimit < payload.length then ([], some c)
    else
      (core.postage id c.stream (Frame.wire payload) answers.written,
        match answers.written with
        | .ok _ => some c
        | .error _ => none)
  | c?, _ => ([], c?)

section Reading

variable [Network W σ]

/-- Reading a connection comes to what it makes of the answers. -/
theorem Connection.receive_settle (c : Connection σ) (buffer : Bytes) (w : W) : ∃ answers,
    (c.receive buffer w).frames = (c.settle answers).frames ∧
      (c.receive buffer w).failure = (c.settle answers).failure ∧
      (c.receive buffer w).assembler = (c.settle answers).assembler ∧
      about W (Network.id W c.stream) (c.receive buffer w).events = (c.settle answers).events := by
  have hfirst : ∀ answer, about W (Network.id W c.stream) [Event.bytesAvailable c.stream answer]
      = [.bytesAvailable c.stream answer] :=
    fun _ ↦ about_eq_self (List.forall_mem_singleton.2 rfl)
  have hboth : ∀ n answer, about W (Network.id W c.stream)
        [Event.bytesAvailable c.stream (.ok n), .read c.stream n answer]
      = [.bytesAvailable c.stream (.ok n), .read c.stream n answer] :=
    fun _ _ ↦ about_eq_self (List.forall_mem_cons.2 ⟨rfl, List.forall_mem_singleton.2 rfl⟩)
  rw [receive]
  split
  · exact ⟨⟨.error _, .ok [], .ok ()⟩, rfl, rfl, rfl, hfirst _⟩
  · exact ⟨⟨.ok 0, .ok [], .ok ()⟩, rfl, rfl, rfl, hfirst _⟩
  · rename_i available w' hpos _
    obtain ⟨n, rfl⟩ := Nat.exists_eq_succ_of_ne_zero hpos
    dsimp only
    split
    · exact ⟨⟨.ok (n + 1), .error _, .ok ()⟩, rfl, rfl, rfl, hboth _ _⟩
    · exact ⟨⟨.ok (n + 1), .ok [], .ok ()⟩, rfl, rfl, rfl, hboth _ _⟩
    · rename_i bytes w'' hbytes hread
      have hle : bytes.length ≤ (resize (n + 1) buffer).length := by
        rw [length_resize]
        exact Network.read_le c.stream (n + 1) w' bytes (congrArg Prod.fst hread)
      rw [take_overwrite hle]
      obtain ⟨b, bytes, rfl⟩ := List.exists_cons_of_ne_nil hbytes
      refine ⟨⟨.ok (n + 1), .ok (b :: bytes), .ok ()⟩, rfl, rfl, rfl, ?_⟩
      -- What is logged about a length is about no connection.
      rw [about_append, hboth]
      split <;> rfl

/-- What the visit of a ready connection says of it. -/
theorem Core.about_receipt_settle (core : Core σ) {c : Connection σ} {id : ConnectionId}
    (hkey : Network.id W c.stream = id) (buffer : Bytes) (w : W) : ∃ answers,
      about W id (core.receipt id (c.receive buffer w)) = core.receipt id (c.settle answers) ∧
        c.afterReading (c.receive buffer w) = c.afterReading (c.settle answers) := by
  obtain ⟨answers, hframes, hfailure, hassembler, hevents⟩ := c.receive_settle buffer w
  rw [hkey] at hevents
  refine ⟨answers, ?_, ?_⟩
  · rw [about_receipt, hframes, hfailure, hevents, receipt]
  · rw [Connection.afterReading, Connection.afterReading, hfailure, hassembler]

end Reading

/-! ## Calls -/

namespace Core

variable [Network W σ] {core : Core σ} {id : ConnectionId} {c? : Option (Connection σ)}
  {picked : Bool}

/-- Fates are the same under the same settings. -/
theorem fate_congr {first second : Core σ} (h : first.settings = second.settings) :
    first.fate W id = second.fate W id := by
  obtain ⟨destinations, queue, filter, size, abort, hasHook, dropped, buffer⟩ := first
  obtain ⟨destinations', queue', filter', size', abort', hasHook', dropped', buffer'⟩ := second
  cases h
  rfl

theorem fate_poll (hkeyed : Keyed W core.destinations.toList)
    (hc : Enrolled core.destinations.toList id c?) (w : W)
    (hpicked : c?.isSome = true → (picked = true ↔ core.Picks w id)) : ∃ answers,
      about W id (core.poll w).events = (core.fate W id picked answers c? .poll).1 ∧
        Enrolled (core.poll w).core.destinations.toList id
          (core.fate W id picked answers c? .poll).2 := by
  cases c? with
  | none =>
    have hid := enrolled_none_iff.1 hc
    refine ⟨.idle, about_poll_of_notMem hkeyed hid w, ?_⟩
    exact enrolled_none_iff.2 ((core.passes_poll hkeyed w).notMem_kept hid)
  | some c =>
    have hmem := (hc c).2 rfl
    obtain ⟨kept, hkept, hvisit⟩ := poll_at hkeyed hmem w
    rcases hvisit with ⟨hrest, rfl, habout⟩ | ⟨hread, buffer, w', rfl, habout⟩
    · refine ⟨.idle, ?_⟩
      rw [fate, if_neg (mt (hpicked rfl).1 hrest)]
      exact ⟨habout, hkept⟩
    · obtain ⟨answers, hreceipt, hafter⟩ :=
        core.about_receipt_settle (hkeyed _ hmem) buffer w'
      refine ⟨answers, ?_⟩
      rw [fate, if_pos ((hpicked rfl).2 hread), ← hreceipt, ← hafter]
      exact ⟨habout, hkept⟩

theorem fate_send (hkeyed : Keyed W core.destinations.toList)
    (hc : Enrolled core.destinations.toList id c?) (picked : Bool) (payload : Bytes) (w : W) :
    ∃ answers, about W id (core.send payload w).events
          = (core.fate W id picked answers c? (.sendRtp payload)).1 ∧
        Enrolled (core.send payload w).core.destinations.toList id
          (core.fate W id picked answers c? (.sendRtp payload)).2 := by
  cases c? with
  | none =>
    have hid := enrolled_none_iff.1 hc
    refine ⟨.idle, about_send_of_notMem hkeyed hid payload w, ?_⟩
    exact enrolled_none_iff.2 ((core.passes_send payload hkeyed w).1.notMem_kept hid)
  | some c =>
    have hmem := (hc c).2 rfl
    obtain ⟨kept, hkept, hvisit⟩ := send_at hkeyed hmem payload w
    rcases hvisit with ⟨hlimit, rfl, habout, -⟩ | ⟨hlimit, answer, habout, hanswer⟩
    · refine ⟨.idle, ?_⟩
      rw [fate, if_pos hlimit]
      exact ⟨habout, hkept⟩
    · refine ⟨⟨.ok 0, .ok [], answer⟩, ?_⟩
      have hpostage : about W id (core.postage id c.stream (Frame.wire payload) answer)
          = core.postage id c.stream (Frame.wire payload) answer := by
        refine about_eq_self ?_
        rw [postage.eq_def]
        refine List.forall_mem_cons.2 ⟨congrArg some (hkeyed _ hmem), ?_⟩
        split
        · exact List.forall_mem_nil _
        · exact core.subject?_reportDrop id _
      rw [fate, if_neg (Nat.not_lt_of_le hlimit), habout, hpostage]
      refine ⟨rfl, ?_⟩
      rcases hanswer with ⟨rfl, rfl, -⟩ | ⟨⟨e, rfl⟩, rfl, -⟩
      · exact hkept
      · exact hkept

theorem fate_addDestination (hc : Enrolled core.destinations.toList id c?) (picked : Bool)
    (stream : σ) (w : W) : ∃ answers, about W id (core.addDestination stream w).events
          = (core.fate W id picked answers c? (.addDestination stream)).1 ∧
        Enrolled (core.addDestination stream w).core.destinations.toList id
          (core.fate W id picked answers c? (.addDestination stream)).2 := by
  by_cases hmem : Network.id W stream ∈ core.destinations.keys
  · -- A stream that is refused is asked nothing.
    rw [core.addDestination_of_mem hmem]
    refine ⟨.idle, ?_⟩
    cases c? with
    | some c => exact ⟨rfl, hc⟩
    | none =>
      have hne : Network.id W stream ≠ id := by
        rintro rfl
        exact enrolled_none_iff.1 hc hmem
      rw [fate, if_neg hne]
      exact ⟨rfl, hc⟩
  obtain ⟨answer, w', hasked⟩ : ∃ answer w', Network.bytesAvailable stream w = (answer, w') :=
    ⟨_, _, rfl⟩
  refine ⟨⟨answer, .ok [], .ok ()⟩, ?_⟩
  by_cases hid : Network.id W stream = id
  · rcases c? with - | c
    · have habout : about W id [Event.bytesAvailable stream answer]
          = [.bytesAvailable stream answer] :=
        about_eq_self (List.forall_mem_singleton.2 (congrArg some hid))
      rw [fate, if_pos hid]
      cases answer with
      | error e =>
        rw [core.addDestination_of_error hmem hasked]
        exact ⟨habout, hc⟩
      | ok n =>
        obtain ⟨destinations, hlist, hadd⟩ := core.addDestination_of_ok hmem hasked
        rw [hadd]
        refine ⟨(about_append [_] [_]).trans (by rw [habout]; rfl), ?_⟩
        dsimp only
        rw [hlist, hid]
        exact hc.append_self _
    · exact absurd (hid ▸ List.mem_map_of_mem ((hc c).2 rfl)) hmem
  · have habout : about W id [Event.bytesAvailable stream answer] = [] :=
      about_eq_nil (List.forall_mem_singleton.2 fun h ↦ hid (Option.some.inj h))
    have hfate : core.fate W id picked ⟨answer, .ok [], .ok ()⟩ c? (.addDestination stream)
        = ([], c?) := by
      cases c? with
      | none => rw [fate, if_neg hid]
      | some c => rfl
    rw [hfate]
    cases answer with
    | error e =>
      rw [core.addDestination_of_error hmem hasked]
      exact ⟨habout, hc⟩
    | ok n =>
      obtain ⟨destinations, hlist, hadd⟩ := core.addDestination_of_ok hmem hasked
      rw [hadd]
      refine ⟨(about_append [_] [_]).trans (by rw [habout]; rfl), ?_⟩
      dsimp only
      rw [hlist]
      exact hc.append_of_ne hid _

/-- What a call that concerns connections means for one of them. -/
theorem respond_fate (hkeyed : Keyed W core.destinations.toList)
    (hc : Enrolled core.destinations.toList id c?) (w : W) (call : Call σ)
    (hpicked : call = .poll → c?.isSome = true → (picked = true ↔ core.Picks w id))
    (hquiet : ¬call.IsQuiet) (hcall : call ≠ .destroy) : ∃ answers,
      about W id (core.respond w call).events = (core.fate W id picked answers c? call).1 ∧
        Enrolled (core.respond w call).core.destinations.toList id
          (core.fate W id picked answers c? call).2 := by
  cases call with
  | destroy => exact absurd rfl hcall
  | addDestination stream => exact fate_addDestination hc picked stream w
  | poll => exact fate_poll hkeyed hc w (hpicked rfl)
  | sendRtp payload => exact fate_send hkeyed hc picked payload w
  | sendRtcp payload =>
    obtain ⟨answers, hsend⟩ := fate_send hkeyed hc picked payload w
    refine ⟨answers, ?_⟩
    cases c? <;> exact hsend
  | clearDestinations =>
    refine ⟨.idle, ?_⟩
    cases c? <;> exact ⟨rfl, enrolled_nil σ id⟩
  | deleteDestination removed =>
    have habout : about W id (core.deleteDestination removed w).events = [] :=
      (core.impersonal_deleteDestination removed w).about_eq_nil id
    have hkept := hc.filter_ne removed
    rw [← core.toList_deleteDestination removed w] at hkept
    refine ⟨.idle, habout.trans ?_, ?_⟩
    · cases c? <;> rfl
    · cases c? with
      | none =>
        rw [ite_self] at hkept
        exact hkept
      | some c => exact hkept
  | setMaxPacketSize size =>
    have hkept := hc.relimit size
    rw [← core.toList_setMaxPacketSize size w] at hkept
    refine ⟨.idle, ?_⟩
    cases c? <;> exact ⟨rfl, hkept⟩
  | _ => exact absurd trivial hquiet

end Core

namespace Scene

variable [Network W σ] (scene : Scene W σ) {core : Core σ} {id : ConnectionId}
  {c? : Option (Connection σ)} {picked : Bool}

/-- What any call of a created engine means for one connection. -/
theorem perform_fate (hcreated : scene.engine.lifecycle = .created core)
    (hkeyed : Keyed W core.destinations.toList) (hc : Enrolled core.destinations.toList id c?)
    (call : Call σ)
    (hpicked : call = .poll → c?.isSome = true → (picked = true ↔ core.Picks scene.world id)) :
    ∃ answers,
      about W id (scene.perform call).events = (core.fate W id picked answers c? call).1 ∧
        Enrolled (scene.perform call).scene.engine.lifecycle.entries id
          (core.fate W id picked answers c? call).2 := by
  by_cases hquiet : call.IsQuiet
  · obtain ⟨⟨after, hafter, hsame, -⟩, -, himpersonal⟩ := scene.perform_quiet hcreated hquiet
    have hfate : core.fate W id picked .idle c? call = ([], c?) := by
      cases call <;> first | exact hquiet.elim | cases c? <;> rfl
    refine ⟨.idle, ?_⟩
    rw [hfate, hafter, Lifecycle.entries, hsame]
    exact ⟨himpersonal.about_eq_nil id, hc⟩
  by_cases hcall : call = .destroy
  · have hgone : (scene.perform .destroy).scene.engine.lifecycle = .uninitialized :=
      scene.lifecycle_destroy
    refine ⟨.idle, ?_⟩
    rw [hcall, hgone]
    cases c? <;> exact ⟨scene.destroy_impersonal.about_eq_nil id, enrolled_nil σ id⟩
  · rw [scene.perform_eq_respond hcreated hquiet hcall]
    exact Core.respond_fate hkeyed hc scene.world call hpicked hquiet hcall

end Scene

end StreamRtp
