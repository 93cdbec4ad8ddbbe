import StreamRtp.Proofs.QuietCalls

/-!
# One connection in one call

`Episode` says what one call can do to one registered connection and what the history of the call
then says of it, and `perform_episode` shows it of every call. Whatever else the call does is of no
concern to the connection.

A call that concerns connections is answered by the core alone, so it is looked at there: `respond`
is the answer, and an engine only puts it back in its place.
-/

namespace StreamRtp

variable {W σ α : Type}

/-! ## Calls that concern connections -/

/-- The same outcome with another form of the answer. -/
def CoreOutcome.map {β : Type} (f : α → β) (out : CoreOutcome W σ α) : CoreOutcome W σ β :=
  ⟨out.result.map f, out.core, out.world, out.events⟩

/-- What a core makes of the calls that concern connections. -/
def Core.respond [Network W σ] (core : Core σ) (w : W) : Call σ → CoreOutcome W σ (Reply σ)
  | .addDestination stream => (core.addDestination stream w).map .id
  | .deleteDestination id => (core.deleteDestination id w).map .stream
  | .clearDestinations => (core.clearDestinations w).map fun _ ↦ .done
  | .poll => (core.poll w).map fun _ ↦ .done
  | .sendRtp payload | .sendRtcp payload => (core.send payload w).map fun _ ↦ .done
  | .setMaxPacketSize size => (core.setMaxPacketSize size w).map fun _ ↦ .done
  | _ => core.done w .done []

/-- A call that concerns connections is answered by the core. -/
theorem Scene.perform_eq_respond [Network W σ] (scene : Scene W σ) {core : Core σ} {call : Call σ}
    (hcreated : scene.engine.lifecycle = .created core) (hquiet : ¬call.IsQuiet)
    (hcall : call ≠ .destroy) (mishaps : Mishaps := []) :
    scene.perform call mishaps = ⟨(core.respond scene.world call).result,
      { scene with
        engine := { scene.engine with lifecycle := .created (core.respond scene.world call).core }
        world := (core.respond scene.world call).world },
      (core.respond scene.world call).events⟩ := by
  cases call with
  | destroy => exact absurd rfl hcall
  | clearDestinations =>
    rw [perform, clearDestinations, hcreated, Outcome.reply, scene.withCore_of_created hcreated]
    rfl
  | addDestination stream | deleteDestination removed | poll | sendRtp payload | sendRtcp payload
  | setMaxPacketSize size =>
    rw [perform]
    first
    | rw [Outcome.reply, scene.withCore_of_created hcreated]; rfl
    | rw [scene.withCore_of_created hcreated]; rfl
  | _ => exact absurd trivial hquiet

namespace Core

section Destinations

variable [Network W σ] (core : Core σ) {stream : σ}

omit [Network W σ] in
theorem toList_deleteDestination (id : ConnectionId) (w : W) :
    (core.deleteDestination id w).core.destinations.toList
      = core.destinations.toList.filter (·.1 ≠ id) := by
  rw [deleteDestination]
  by_cases hid : id ∈ core.destinations.keys
  · obtain ⟨c, destinations, hremove, -, hlist, -⟩ := Registry.remove_of_mem hid
    rw [hremove]
    exact hlist
  · have hother : core.destinations.toList = core.destinations.toList.filter (·.1 ≠ id) := by
      refine (List.filter_eq_self.2 fun e he ↦ decide_eq_true ?_).symm
      rintro rfl
      exact hid (List.mem_map_of_mem he)
    split
    · rename_i hremove
      exact Registry.toList_of_remove hremove
    · exact hother
    · exact hother

theorem impersonal_deleteDestination (id : ConnectionId) (w : W) :
    Impersonal W (core.deleteDestination id w).events := by
  rw [deleteDestination]
  split
  · exact List.forall_mem_singleton.2 rfl
  · exact List.forall_mem_nil _
  · exact List.forall_mem_nil _

/-- A stream whose identity is registered is refused and asked nothing. -/
theorem addDestination_of_mem (h : Network.id W stream ∈ core.destinations.keys) (w : W) :
    core.addDestination stream w = core.refused w (.duplicateDestination (Network.id W stream)) :=
  if_pos (Registry.contains_iff.2 h)

/-- A stream that cannot say how many bytes wait is refused. -/
theorem addDestination_of_error (h : Network.id W stream ∉ core.destinations.keys) {w w' : W}
    {e : IoError} (hasked : Network.bytesAvailable stream w = (.error e, w')) :
    core.addDestination stream w
      = ⟨.error (.invalidTransport (Network.id W stream) e), core, w',
          [.bytesAvailable stream (.error e)]⟩ := by
  rw [addDestination, if_neg (mt Registry.contains_iff.1 h), hasked]

/-- Every other stream is registered, with a new assembler. -/
theorem addDestination_of_ok (h : Network.id W stream ∉ core.destinations.keys) {w w' : W}
    {n : Nat} (hasked : Network.bytesAvailable stream w = (.ok n, w')) : ∃ destinations,
      destinations.toList = core.destinations.toList
          ++ [(Network.id W stream, ⟨stream, .ofLimit core.maxPacketSize⟩)] ∧
        core.addDestination stream w = ⟨.ok (Network.id W stream), { core with destinations }, w',
          [.bytesAvailable stream (.ok n),
            .log (.destinationAdded (Network.id W stream) destinations.size)]⟩ := by
  -- Every number has a remainder.
  have hbucket : destinationBuckets.bucket (Network.id W stream) = .ok _ :=
    BucketTable.bucket_eq_ok_iff.2 ⟨rfl, Nat.mod_lt _ (by decide)⟩
  obtain ⟨destinations, hadd, hlist, -⟩ := Registry.add_of_notMem
    (v := (⟨stream, .ofLimit core.maxPacketSize⟩ : Connection σ)) hbucket h
  refine ⟨destinations, hlist, ?_⟩
  rw [addDestination, if_neg (mt Registry.contains_iff.1 h), hasked]
  dsimp only
  rw [hadd]

end Destinations

/-! ## Settings along a call -/

section Settings

variable [Network W σ] (core : Core σ)

theorem settings_poll (w : W) : (core.poll w).core.settings = core.settings := by
  rcases core.poll_cases w with ⟨hcore, -⟩ | ⟨answer, w', -, -, hpoll⟩
  · rw [hcore]
  · rw [hpoll]
    rfl

theorem settings_send (payload : Bytes) (w : W) :
    (core.send payload w).core.settings = core.settings := by
  rw [send]
  split
  · rfl
  · split <;> rfl

/-- Settings are what calls have made of them. -/
theorem settings_respond (w : W) (call : Call σ) (hquiet : ¬call.IsQuiet) :
    (core.respond w call).core.settings = core.settings.after call := by
  cases call with
  | addDestination stream =>
    by_cases hid : Network.id W stream ∈ core.destinations.keys
    · rw [respond, core.addDestination_of_mem hid]
      rfl
    · rw [respond]
      cases hasked : Network.bytesAvailable stream w with
      | mk answer w' =>
        cases answer with
        | error e =>
          rw [core.addDestination_of_error hid hasked]
          rfl
        | ok n =>
          obtain ⟨destinations, -, hadd⟩ := core.addDestination_of_ok hid hasked
          rw [hadd]
          rfl
  | deleteDestination id =>
    rw [respond, deleteDestination]
    split <;> rfl
  | destroy | clearDestinations | setMaxPacketSize size => rfl
  | poll => exact core.settings_poll w
  | sendRtp payload | sendRtcp payload => exact core.settings_send payload w
  | _ => exact absurd trivial hquiet

end Settings

end Core

/-! ## Episodes -/

/-- What one call makes of a registered connection, with what its history then says of it. -/
inductive Episode (W : Type) [Network W σ] (core : Core σ) (id : ConnectionId) (c : Connection σ)
    (p : Performed σ) : Option (Connection σ) → Prop
  /-- Nothing happens to it. A payload that was to be sent was refused. -/
  | rest (habout : about W id p.events = []) (hsent : p.sent? = none) :
    Episode W core id c p (some c)
  /-- It is given a new limit. -/
  | relimit (size : Nat) (hcall : p.call = .setMaxPacketSize size)
    (habout : about W id p.events = []) :
    Episode W core id c p (some { c with assembler := c.assembler.setLimit size })
  /-- It is given up on demand. -/
  | leave (hcall : p.call = .deleteDestination id ∨ p.call = .clearDestinations ∨ p.call = .destroy)
    (habout : about W id p.events = []) : Episode W core id c p none
  /-- It is read. -/
  | receive (hcall : p.call = .poll) (buffer : Bytes) (w : W)
    (habout : about W id p.events = about W id (core.receipt id (c.receive buffer w))) :
    Episode W core id c p (c.afterReading (c.receive buffer w))
  /-- A frame is written to it. -/
  | write (payload : Bytes) (hcall : p.call = .sendRtp payload ∨ p.call = .sendRtcp payload)
    (hle : payload.length ≤ Frame.maxPayload)
    (habout : about W id p.events
      = about W id (core.postage id c.stream (Frame.wire payload) (.ok ())))
    (hresult : p.result = .ok .done ∨ ∃ first cause, p.result = .error (.send first cause)) :
    Episode W core id c p (some c)
  /-- A frame cannot be written to it. -/
  | lose (payload : Bytes) (hcall : p.call = .sendRtp payload ∨ p.call = .sendRtcp payload)
    (e : IoError) (habout : about W id p.events
      = about W id (core.postage id c.stream (Frame.wire payload) (.error e)))
    (hresult : ∃ first cause, p.result = .error (.send first cause)) : Episode W core id c p none

namespace Core

variable [Network W σ] {core : Core σ} {id : ConnectionId} {c : Connection σ}

theorem episode_addDestination (hc : (id, c) ∈ core.destinations.toList) (stream : σ) (w : W)
    {result : Except TransmitError (Reply σ)} :
    Episode W core id c ⟨.addDestination stream, result, (core.addDestination stream w).events⟩
        (some c) ∧
      Enrolled (core.addDestination stream w).core.destinations.toList id (some c) := by
  have hstay : Enrolled core.destinations.toList id (some c) :=
    .of_mem core.destinations.nodup_keys hc
  by_cases hid : Network.id W stream ∈ core.destinations.keys
  · rw [core.addDestination_of_mem hid]
    exact ⟨.rest rfl rfl, hstay⟩
  -- The stream has another identity, so what it is asked is not about the connection.
  have hne : Network.id W stream ≠ id := by
    rintro rfl
    exact hid (List.mem_map_of_mem hc)
  have hasked : ∀ answer, about W id [Event.bytesAvailable stream answer] = [] := fun answer ↦
    about_eq_nil (List.forall_mem_singleton.2 fun h ↦ hne (Option.some.inj h))
  obtain ⟨answer, w', hanswer⟩ : ∃ answer w', Network.bytesAvailable stream w = (answer, w') :=
    ⟨_, _, rfl⟩
  cases answer with
  | error e =>
    rw [core.addDestination_of_error hid hanswer]
    exact ⟨.rest (hasked _) rfl, hstay⟩
  | ok n =>
    obtain ⟨destinations, hlist, hadd⟩ := core.addDestination_of_ok hid hanswer
    rw [hadd]
    refine ⟨.rest ?_ rfl, ?_⟩
    · exact (about_append [_] [_]).trans (by rw [hasked]; rfl)
    · rw [hlist]
      exact hstay.append_of_ne hne _

/-- The episode of a fan-out. -/
theorem episode_send (hkeyed : Keyed W core.destinations.toList)
    (hc : (id, c) ∈ core.destinations.toList) {call : Call σ} {payload : Bytes}
    (hcall : call = .sendRtp payload ∨ call = .sendRtcp payload) (w : W) : ∃ kept,
      Episode W core id c ⟨call, (core.send payload w).result.map fun _ ↦ .done,
          (core.send payload w).events⟩ kept ∧
        Enrolled (core.send payload w).core.destinations.toList id kept := by
  obtain ⟨kept, hkept, hwritten⟩ := send_at hkeyed hc payload w
  refine ⟨kept, ?_, hkept⟩
  rcases hwritten with ⟨-, rfl, habout, e, herror⟩ | ⟨hlimit, answer, habout, hanswer⟩
  · refine .rest habout ?_
    rw [herror]
    rcases hcall with rfl | rfl <;> rfl
  · have hle : payload.length ≤ Frame.maxPayload := Nat.le_trans hlimit (Nat.min_le_right ..)
    rcases hanswer with ⟨rfl, rfl, hresult⟩ | ⟨⟨e, rfl⟩, rfl, first, cause, herror⟩
    · refine .write payload hcall hle habout ?_
      rcases hresult with hok | ⟨first, cause, herror⟩
      · exact .inl (by rw [hok]; rfl)
      · exact .inr ⟨first, cause, by rw [herror]; rfl⟩
    · exact .lose payload hcall e habout ⟨first, cause, by rw [herror]; rfl⟩

/-- What any call that concerns connections makes of a registered one. -/
theorem respond_episode (hkeyed : Keyed W core.destinations.toList)
    (hc : (id, c) ∈ core.destinations.toList) (w : W) (call : Call σ) (hquiet : ¬call.IsQuiet)
    (hcall : call ≠ .destroy) : ∃ kept,
      Episode W core id c ⟨call, (core.respond w call).result, (core.respond w call).events⟩ kept ∧
        Enrolled (core.respond w call).core.destinations.toList id kept := by
  have hstay : Enrolled core.destinations.toList id (some c) :=
    .of_mem core.destinations.nodup_keys hc
  cases call with
  | destroy => exact absurd rfl hcall
  | addDestination stream => exact ⟨_, episode_addDestination hc stream w⟩
  | deleteDestination removed =>
    have habout : about W id (core.deleteDestination removed w).events = [] :=
      (core.impersonal_deleteDestination removed w).about_eq_nil id
    have hkept := hstay.filter_ne removed
    rw [← core.toList_deleteDestination removed w] at hkept
    refine ⟨_, ?_, hkept⟩
    by_cases hid : id = removed
    · rw [if_pos hid]
      exact .leave (.inl (hid ▸ rfl)) habout
    · rw [if_neg hid]
      exact .rest habout rfl
  | clearDestinations => exact ⟨none, .leave (.inr (.inl rfl)) rfl, enrolled_nil σ id⟩
  | setMaxPacketSize size =>
    have hkept := hstay.relimit size
    rw [← core.toList_setMaxPacketSize size w] at hkept
    exact ⟨_, .relimit size rfl rfl, hkept⟩
  | poll =>
    obtain ⟨kept, hkept, hvisit⟩ := poll_at hkeyed hc w
    refine ⟨kept, ?_, hkept⟩
    rcases hvisit with ⟨-, rfl, habout⟩ | ⟨-, buffer, w', rfl, habout⟩
    · exact .rest habout rfl
    · exact .receive rfl buffer w' habout
  | sendRtp payload => exact episode_send hkeyed hc (.inl rfl) w
  | sendRtcp payload => exact episode_send hkeyed hc (.inr rfl) w
  | _ => exact absurd trivial hquiet

/-- Of a connection that is not registered a history only says that a stream was offered. -/
theorem about_respond_of_notMem (hkeyed : Keyed W core.destinations.toList)
    (hid : id ∉ core.destinations.keys) (w : W) (call : Call σ) (hquiet : ¬call.IsQuiet) :
    ∀ event ∈ about W id (core.respond w call).events,
      ∃ stream answer, event = .bytesAvailable stream answer := by
  have hnone : ∀ {events : List (Event σ)}, about W id events = [] →
      ∀ event ∈ about W id events, ∃ stream answer, event = .bytesAvailable stream answer :=
    fun h ↦ h ▸ List.forall_mem_nil _
  cases call with
  | addDestination stream =>
    by_cases hstream : Network.id W stream ∈ core.destinations.keys
    · rw [respond, core.addDestination_of_mem hstream]
      exact List.forall_mem_nil _
    · rw [respond]
      intro event hevent
      obtain ⟨hmem, hsubject⟩ := List.mem_filter.1 hevent
      cases hasked : Network.bytesAvailable stream w with
      | mk answer w' =>
        cases answer with
        | error e =>
          rw [core.addDestination_of_error hstream hasked] at hmem
          exact ⟨_, _, List.mem_singleton.1 hmem⟩
        | ok n =>
          obtain ⟨destinations, -, hadd⟩ := core.addDestination_of_ok hstream hasked
          rw [hadd] at hmem
          rcases List.mem_cons.1 hmem with rfl | hmem
          · exact ⟨_, _, rfl⟩
          · -- The log entry is about nobody.
            rw [List.mem_singleton.1 hmem] at hsubject
            cases of_decide_eq_true hsubject
  | destroy | clearDestinations | setMaxPacketSize size => exact hnone rfl
  | deleteDestination removed =>
    exact hnone ((core.impersonal_deleteDestination removed w).about_eq_nil id)
  | poll => exact hnone (about_poll_of_notMem hkeyed hid w)
  | sendRtp payload | sendRtcp payload => exact hnone (about_send_of_notMem hkeyed hid payload w)
  | _ => exact absurd trivial hquiet

end Core

namespace Scene

variable [Network W σ] (scene : Scene W σ) {core : Core σ} {id : ConnectionId} {c : Connection σ}

theorem destroy_impersonal (mishaps : Mishaps := []) :
    Impersonal W (scene.destroy mishaps).events := by
  have hwoke : Impersonal W (scene.withdraw mishaps).2.2 := by
    rw [withdraw]
    dsimp only
    split
    · exact (scene.takeLifecycle.2.abortWait_quiet mishaps).2
    · exact List.forall_mem_nil _
  have hdestroyed : ∀ channel : AbortChannel, ∀ entry ∈ channel.destroy.2, ¬entry.IsDrop := by
    intro channel
    rw [AbortChannel.destroy]
    split
    · exact List.forall_mem_singleton.2 id
    · exact List.forall_mem_nil _
  have hreleased : ∀ (scene : Scene W σ) (former : Lifecycle σ),
      Impersonal W (scene.release former).2 := by
    intro scene former
    have hlog := hdestroyed scene.engine.ownAbort
    cases former with
    | uninitialized => exact List.forall_mem_nil _
    | initialized =>
      exact impersonal_logged (List.forall_mem_append.2 ⟨hlog, List.forall_mem_singleton.2 id⟩)
    | created core =>
      exact impersonal_logged (List.forall_mem_append.2
        ⟨List.forall_mem_cons.2 ⟨id, hlog⟩, List.forall_mem_singleton.2 id⟩)
  exact List.forall_mem_append.2 ⟨hwoke, hreleased _ _⟩

theorem lifecycle_destroy (mishaps : Mishaps := []) :
    (scene.destroy mishaps).scene.engine.lifecycle = .uninitialized :=
  ((scene.withdraw mishaps).2.1.release_frame _).1.trans (scene.withdraw_frame mishaps).1

/-- What any call makes of a registered connection. -/
theorem perform_episode (hcreated : scene.engine.lifecycle = .created core)
    (hkeyed : Keyed W core.destinations.toList) (hc : (id, c) ∈ core.destinations.toList)
    (call : Call σ) (mishaps : Mishaps := []) :
    ∃ kept, Episode W core id c (scene.performed call mishaps) kept ∧
      Enrolled (scene.perform call mishaps).scene.engine.lifecycle.entries id kept := by
  by_cases hquiet : call.IsQuiet
  · obtain ⟨⟨after, hafter, hsame, -⟩, -, himpersonal⟩ :=
      scene.perform_quiet hcreated hquiet mishaps
    refine ⟨_, .rest (himpersonal.about_eq_nil id) (hquiet.sent?_eq_none ..), ?_⟩
    rw [hafter, Lifecycle.entries, hsame]
    exact .of_mem core.destinations.nodup_keys hc
  by_cases hcall : call = .destroy
  · have hgone : (scene.perform .destroy mishaps).scene.engine.lifecycle = .uninitialized :=
      scene.lifecycle_destroy mishaps
    rw [hcall, hgone]
    exact ⟨none, .leave (.inr (.inr rfl)) ((scene.destroy_impersonal mishaps).about_eq_nil id),
      enrolled_nil σ id⟩
  · rw [performed, scene.perform_eq_respond hcreated hquiet hcall mishaps]
    exact Core.respond_episode hkeyed hc scene.world call hquiet hcall

/-- What any call but the destruction makes of the settings of a created engine. -/
theorem perform_settings (hcreated : scene.engine.lifecycle = .created core) {call : Call σ}
    (hcall : call ≠ .destroy) : ∃ after,
      (scene.perform call).scene.engine.lifecycle = .created after ∧
        after.settings = core.settings.after call := by
  by_cases hquiet : call.IsQuiet
  · obtain ⟨after, hafter, -, hsettings⟩ := (scene.perform_quiet hcreated hquiet).created
    exact ⟨after, hafter, hsettings⟩
  · rw [scene.perform_eq_respond hcreated hquiet hcall]
    exact ⟨_, rfl, core.settings_respond scene.world call hquiet⟩

/-- Of a connection that is not registered a history only says that a stream was offered. -/
theorem about_perform_of_notMem (hcreated : scene.engine.lifecycle = .created core)
    (hkeyed : Keyed W core.destinations.toList) (hid : id ∉ core.destinations.keys)
    (call : Call σ) (mishaps : Mishaps := []) :
    ∀ event ∈ about W id (scene.perform call mishaps).events,
      ∃ stream answer, event = .bytesAvailable stream answer := by
  by_cases hquiet : call.IsQuiet
  · rw [(scene.perform_quiet hcreated hquiet mishaps).impersonal.about_eq_nil]
    exact List.forall_mem_nil _
  by_cases hcall : call = .destroy
  · rw [hcall]
    have hnone : about W id (scene.perform .destroy mishaps).events = [] :=
      (scene.destroy_impersonal mishaps).about_eq_nil id
    rw [hnone]
    exact List.forall_mem_nil _
  · rw [scene.perform_eq_respond hcreated hquiet hcall mishaps]
    exact Core.about_respond_of_notMem hkeyed hid scene.world call hquiet

end Scene

end StreamRtp
