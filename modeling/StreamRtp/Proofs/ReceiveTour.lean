import StreamRtp.Proofs.AbortedWaits

/-!
# A receive pass as a tour

A receive pass goes from one connection to the next, in the order of registration, and stops to read
where the poller has raised a flag. A `Stop` is a connection that the pass comes to with what was
read there, and a `Tour` is a list of stops, each read in the world that the stops before have left.
Everything that a pass does is computed from its stops: what is queued and what is rejected, which
connections are kept, and who is reported.

## The argument

The flags belong to the connections that were registered when the poller was asked, and the registry
shrinks during the pass. A walk over the registry is a walk over the list of entries, so a visit
always has the flag of its own connection in front: `visitReady_stop` is one visit, and
`exists_rounds` goes over the entries and the flags side by side.
-/

namespace StreamRtp

variable {W σ : Type}

/-! ## Questions and reports -/

/-- The stream that is asked how many bytes wait. Every reading begins with this question. -/
def Event.queried? : Event σ → Option σ
  | bytesAvailable s _ => some s
  | _ => none

/-- The call of the error hook. -/
def Event.hookCall? : Event σ → Option (ConnectionId × DropReason)
  | hook id reason => some (id, reason)
  | _ => none

section Histories

variable (first second events : List (Event σ))

/-- The streams that are asked how many bytes wait, in order. -/
def queries : List σ := events.filterMap Event.queried?

/-- The calls of the error hook, in order. -/
def hookCalls : List (ConnectionId × DropReason) := events.filterMap Event.hookCall?

theorem queries_append : queries (first ++ second) = queries first ++ queries second :=
  List.filterMap_append

theorem hookCalls_append : hookCalls (first ++ second) = hookCalls first ++ hookCalls second :=
  List.filterMap_append

end Histories

namespace Core

variable (core : Core σ) (id : ConnectionId)

theorem queries_reportDrop (reason : DropReason) : queries (core.reportDrop id reason) = [] := by
  rw [reportDrop]
  split <;> rfl

theorem hookCalls_reportDrop (reason : DropReason) :
    hookCalls (core.reportDrop id reason) = if core.hasHook then [(id, reason)] else [] := by
  rw [reportDrop]
  split <;> rfl

end Core

/-! ## Readings -/

/-- What is logged of a chunk that was refused. -/
def AssemblyError.entry : AssemblyError → LogEntry
  | frameTooLarge declared limit => .oversizedFrame declared limit

/-- What a reading of a connection comes to in a world. The buffer can be any. -/
inductive Connection.Yields [Network W σ] (c : Connection σ) (w : W) : Reception W σ → Prop
  /-- The stream cannot say how many bytes wait. -/
  | unanswered (e : IoError) (buffer : Bytes) (w' : W)
    (hasked : Network.bytesAvailable c.stream w = (.error e, w')) :
    Yields c w ⟨[], some (.receive e), c.assembler, buffer, w',
      [.bytesAvailable c.stream (.error e)]⟩
  /-- No bytes wait, and none ever will. -/
  | closed (buffer : Bytes) (w' : W) (hasked : Network.bytesAvailable c.stream w = (.ok 0, w')) :
    Yields c w ⟨[], some .closed, c.assembler, buffer, w', [.bytesAvailable c.stream (.ok 0)]⟩
  /-- The read fails. That is the end of the connection unless it only says "not now". -/
  | unread (n : Nat) (e : IoError) (buffer : Bytes) (w₁ w₂ : W) (hpos : 0 < n)
    (hasked : Network.bytesAvailable c.stream w = (.ok n, w₁))
    (hread : Network.read c.stream n w₁ = (.error e, w₂)) :
    Yields c w ⟨[], if e.isTransient then none else some (.receive e), c.assembler, buffer, w₂,
      [.bytesAvailable c.stream (.ok n), .read c.stream n (.error e)]⟩
  /-- The read comes to the end of the stream. -/
  | ended (n : Nat) (buffer : Bytes) (w₁ w₂ : W) (hpos : 0 < n)
    (hasked : Network.bytesAvailable c.stream w = (.ok n, w₁))
    (hread : Network.read c.stream n w₁ = (.ok [], w₂)) :
    Yields c w ⟨[], some .closed, c.assembler, buffer, w₂,
      [.bytesAvailable c.stream (.ok n), .read c.stream n (.ok [])]⟩
  /-- The assembler is given what was read. -/
  | data (n : Nat) (bytes buffer : Bytes) (w₁ w₂ : W) (hpos : 0 < n) (hne : bytes ≠ [])
    (hasked : Network.bytesAvailable c.stream w = (.ok n, w₁))
    (hread : Network.read c.stream n w₁ = (.ok bytes, w₂)) :
    Yields c w ⟨(c.assembler.push bytes).1.frames,
      (c.assembler.push bytes).1.error.map .assembly, (c.assembler.push bytes).2, buffer, w₂,
      [.bytesAvailable c.stream (.ok n), .read c.stream n (.ok bytes)]
        ++ logged ((c.assembler.push bytes).1.error.toList.map AssemblyError.entry)⟩

/-- Whatever the buffer held, a reading comes to what the stream answers. -/
theorem Connection.yields_receive [Network W σ] (c : Connection σ) (buffer : Bytes) (w : W) :
    c.Yields w (c.receive buffer w) := by
  rw [receive]
  split
  · rename_i hasked
    exact .unanswered _ _ _ hasked
  · rename_i hasked
    exact .closed _ _ hasked
  · rename_i available w₁ hzero hasked
    have hpos : 0 < available := Nat.pos_of_ne_zero hzero
    dsimp only
    split
    · rename_i hread
      exact .unread _ _ _ _ _ hpos hasked hread
    · rename_i hread
      exact .ended _ _ _ _ hpos hasked hread
    · rename_i bytes w₂ hne hread
      -- What the read has filled is all that is taken out of the buffer.
      have hle : bytes.length ≤ (resize available buffer).length := by
        rw [length_resize]
        exact Network.read_le c.stream available w₁ bytes (congrArg Prod.fst hread)
      have hdata := Yields.data available bytes (overwrite bytes (resize available buffer)) w₁ w₂
        hpos hne hasked hread
      rw [take_overwrite hle]
      cases herror : (c.assembler.push bytes).1.error with
      | none =>
        rw [herror] at hdata
        exact hdata
      | some e =>
        rw [herror] at hdata
        exact hdata

namespace Connection.Yields

variable [Network W σ] {c : Connection σ} {w : W} {got : Reception W σ}

theorem queries_eq (h : c.Yields w got) : queries got.events = [c.stream] := by
  cases h with
  | data n bytes buffer w₁ w₂ hpos hne hasked hread =>
    rw [queries_append]
    cases (c.assembler.push bytes).1.error <;> rfl
  | _ => rfl

theorem hookCalls_eq_nil (h : c.Yields w got) : hookCalls got.events = [] := by
  cases h with
  | data n bytes buffer w₁ w₂ hpos hne hasked hread =>
    rw [hookCalls_append]
    cases (c.assembler.push bytes).1.error <;> rfl
  | _ => rfl

end Connection.Yields

/-! ## Stops -/

/-- A connection that a receive pass comes to, with what was read there if it was ready. -/
structure Stop (W σ : Type) where
  id : ConnectionId
  connection : Connection σ
  got : Option (Reception W σ)

namespace Stop

/-- A connection that is passed without reading. -/
def unread (e : ConnectionId × Connection σ) : Stop W σ := ⟨e.1, e.2, none⟩

variable (stop : Stop W σ)

/-- The connection with its identity, as it is registered. -/
def entry : ConnectionId × Connection σ := (stop.id, stop.connection)

/-- Whether the connection was read. -/
def isReady : Bool := stop.got.isSome

/-- The frames that were completed. -/
def frames : List Bytes := stop.got.elim [] (·.frames)

/-- The failure of the reading, with the identity of the connection. -/
def failure? : Option (ConnectionId × DropReason) :=
  (stop.got.bind (·.failure)).map (stop.id, ·)

/-- What is kept of the connection: all of it if it was not read, and nothing after a failure. -/
def kept? : Option (ConnectionId × Connection σ) :=
  (stop.got.elim (some stop.connection) stop.connection.afterReading).map (stop.id, ·)

end Stop

namespace Core

variable (core : Core σ) (stop : Stop W σ)

/-- The packets that a stop puts into the queue. -/
def packets (now : Nat) : List Packet :=
  match core.filter.decision stop.id with
  | .accept => stop.frames.map (⟨·, stop.id, now⟩)
  | .reject => []

/-- The frames of a stop that the filter rejects. -/
def rejects : List Bytes :=
  match core.filter.decision stop.id with
  | .accept => []
  | .reject => stop.frames

/-- What a stop adds to the history. -/
def account : List (Event σ) := stop.got.elim [] (core.receipt stop.id)

variable {core stop} [Network W σ] {w : W}

theorem queries_account (h : ∀ got ∈ stop.got, stop.connection.Yields w got) :
    queries (core.account stop) = if stop.isReady then [stop.connection.stream] else [] := by
  obtain ⟨id, c, _ | got⟩ := stop
  · rfl
  · have hframes : ∀ verdict,
        queries (got.frames.map (.frame id · verdict) : List (Event σ)) = [] := by
      intro verdict
      rw [queries, List.filterMap_map]
      exact List.filterMap_eq_nil_iff.2 fun _ _ ↦ rfl
    change queries (core.receipt id got) = [c.stream]
    rw [receipt, queries_append, queries_append, (h got rfl).queries_eq, hframes]
    cases got.failure with
    | none => rfl
    | some reason =>
      rw [core.queries_reportDrop]
      rfl

theorem hookCalls_account (h : ∀ got ∈ stop.got, stop.connection.Yields w got) :
    hookCalls (core.account stop) = if core.hasHook then stop.failure?.toList else [] := by
  obtain ⟨id, c, _ | got⟩ := stop
  · exact (ite_self _).symm
  · have hframes : ∀ verdict,
        hookCalls (got.frames.map (.frame id · verdict) : List (Event σ)) = [] := by
      intro verdict
      rw [hookCalls, List.filterMap_map]
      exact List.filterMap_eq_nil_iff.2 fun _ _ ↦ rfl
    change hookCalls (core.receipt id got)
      = if core.hasHook then (got.failure.map (id, ·)).toList else []
    rw [receipt, hookCalls_append, hookCalls_append, (h got rfl).hookCalls_eq_nil, hframes]
    cases got.failure with
    | none => exact (ite_self _).symm
    | some reason => exact core.hookCalls_reportDrop id reason

end Core

/-! ## Tours -/

/-- Stops one after the other. Each reading takes place in the world that the ones before have left,
and where nothing is read nothing happens. -/
inductive Tour [Network W σ] : W → List (Stop W σ) → W → Prop
  | nil (w : W) : Tour w [] w
  | passed {w w' : W} {stop : Stop W σ} {stops : List (Stop W σ)} (hgot : stop.got = none)
    (hlater : Tour w stops w') : Tour w (stop :: stops) w'
  | read {w w' : W} {stop : Stop W σ} {stops : List (Stop W σ)} {got : Reception W σ}
    (hgot : stop.got = some got) (hyields : stop.connection.Yields w got)
    (hlater : Tour got.world stops w') : Tour w (stop :: stops) w'

namespace Tour

variable [Network W σ] {w w' : W} {stops : List (Stop W σ)}

/-- Every ready connection is asked once, and no other one. -/
theorem queries_eq (core : Core σ) (h : Tour w stops w') :
    queries (stops.flatMap core.account)
      = (stops.filter (·.isReady)).map (·.connection.stream) := by
  induction h with
  | nil w => rfl
  | @passed w w' stop stops hgot hlater ih =>
    have hnone : stop.isReady = false := by rw [Stop.isReady, hgot]; rfl
    rw [List.flatMap_cons, queries_append, ih, List.filter_cons_of_neg (by simp [hnone]),
      Core.account, hgot]
    rfl
  | @read w w' stop stops got hgot hyields hlater ih =>
    have hready : stop.isReady = true := by rw [Stop.isReady, hgot]; rfl
    have hthis : ∀ other ∈ stop.got, stop.connection.Yields w other := by
      rw [hgot]
      rintro other ⟨⟩
      exact hyields
    rw [List.flatMap_cons, queries_append, ih, List.filter_cons_of_pos hready,
      Core.queries_account hthis, if_pos hready]
    rfl

/-- The hook is told of every failure once, in the order of the stops. -/
theorem hookCalls_eq (core : Core σ) (h : Tour w stops w') :
    hookCalls (stops.flatMap core.account)
      = if core.hasHook then stops.filterMap Stop.failure? else [] := by
  induction h with
  | nil w => exact (ite_self _).symm
  | @passed w w' stop stops hgot hlater ih =>
    have hnone : stop.failure? = none := by rw [Stop.failure?, hgot]; rfl
    rw [List.flatMap_cons, hookCalls_append, ih, List.filterMap_cons_none hnone, Core.account, hgot]
    rfl
  | @read w w' stop stops got hgot hyields hlater ih =>
    have hthis : ∀ other ∈ stop.got, stop.connection.Yields w other := by
      rw [hgot]
      rintro other ⟨⟩
      exact hyields
    rw [List.flatMap_cons, hookCalls_append, ih, Core.hookCalls_account hthis]
    split
    · cases hfailure : stop.failure? with
      | none => rw [List.filterMap_cons_none hfailure]; rfl
      | some failure => rw [List.filterMap_cons_some hfailure]; rfl
    · rfl

theorem append {first second : List (Stop W σ)} {middle : W} (h₁ : Tour w first middle)
    (h₂ : Tour middle second w') : Tour w (first ++ second) w' := by
  induction h₁ with
  | nil w => exact h₂
  | passed hgot _ ih => exact .passed hgot (ih h₂)
  | read hgot hyields _ ih => exact .read hgot hyields (ih h₂)

end Tour

/-! ## Receive passes -/

/-- How a receive pass gets from one state to another by its stops. -/
structure Rounds [Network W σ] (core : Core σ) (now : Nat) (stops : List (Stop W σ))
    (before after : ReceivePass W σ) : Prop where
  tour : Tour before.world stops after.world
  queue_eq : after.queue = before.queue ++ stops.flatMap (core.packets · now)
  dropped_eq : after.dropped = before.dropped + (stops.flatMap core.rejects).length
  events_eq : after.events = before.events ++ stops.flatMap core.account

namespace Rounds

variable [Network W σ] {core : Core σ} {now : Nat} {before middle after : ReceivePass W σ}
  {first second : List (Stop W σ)}

theorem nil (pass : ReceivePass W σ) : Rounds core now [] pass pass :=
  ⟨.nil _, (List.append_nil _).symm, rfl, (List.append_nil _).symm⟩

/-- Nothing happens where nothing is read. -/
theorem unread (e : ConnectionId × Connection σ) (pass : ReceivePass W σ) :
    Rounds core now [.unread e] pass pass where
  tour := .passed rfl (.nil _)
  queue_eq := by
    rw [List.flatMap_singleton, Core.packets]
    split <;> exact (List.append_nil _).symm
  dropped_eq := by
    rw [List.flatMap_singleton, Core.rejects]
    split <;> rfl
  events_eq := (List.append_nil _).symm

theorem append (h₁ : Rounds core now first before middle)
    (h₂ : Rounds core now second middle after) :
    Rounds core now (first ++ second) before after where
  tour := h₁.tour.append h₂.tour
  queue_eq := by rw [h₂.queue_eq, h₁.queue_eq, List.flatMap_append, List.append_assoc]
  dropped_eq := by
    rw [h₂.dropped_eq, h₁.dropped_eq, List.flatMap_append, List.length_append, Nat.add_assoc]
  events_eq := by rw [h₂.events_eq, h₁.events_eq, List.flatMap_append, List.append_assoc]

/-- A stop that reads is a way to go: the frames are put to the filter, and a failure is
reported. -/
theorem of_reading {stop : Stop W σ} {got : Reception W σ} (hgot : stop.got = some got)
    (hyields : stop.connection.Yields before.world got) (hworld : after.world = got.world)
    (hqueue : after.queue = (before.deliver core.filter now stop.id got.frames).queue)
    (hdropped : after.dropped = (before.deliver core.filter now stop.id got.frames).dropped)
    (hevents : after.events = before.events ++ core.receipt stop.id got) :
    Rounds core now [stop] before after where
  tour := .read hgot hyields (hworld ▸ .nil _)
  queue_eq := by
    rw [hqueue, List.flatMap_singleton, Core.packets, Stop.frames, hgot, ReceivePass.deliver]
    cases core.filter.decision stop.id with
    | accept => rfl
    | reject => exact (List.append_nil _).symm
  dropped_eq := by
    rw [hdropped, List.flatMap_singleton, Core.rejects, Stop.frames, hgot, ReceivePass.deliver]
    cases core.filter.decision stop.id with
    | accept => rfl
    | reject => rfl
  events_eq := by
    rw [hevents, List.flatMap_singleton, Core.account, hgot]
    rfl

end Rounds

namespace Core

variable [Network W σ] (core : Core σ) (now : Nat)

/-- One visit of a receive pass is one stop. -/
theorem visitReady_stop (id : ConnectionId) (c : Connection σ) (flag : Bool) (flags : List Bool)
    (pass : ReceivePass W σ) : ∃ (stop : Stop W σ) (after : ReceivePass W σ),
      stop.entry = (id, c) ∧ stop.isReady = flag ∧ Rounds core now [stop] pass after ∧
        (core.visitReady now id c (flag :: flags, pass)).1.map (id, ·) = stop.kept? ∧
        (core.visitReady now id c (flag :: flags, pass)).2 = (flags, after) := by
  cases flag with
  | false => exact ⟨.unread (id, c), pass, rfl, rfl, .unread (id, c) pass, rfl, rfl⟩
  | true =>
    rcases core.visitReady_cases now id c (true :: flags, pass) with
      ⟨hflag, -, -⟩ | ⟨-, hkept, hevents⟩
    · exact absurd rfl hflag
    · refine ⟨⟨id, c, some (c.receive pass.buffer pass.world)⟩,
        (core.visitReady now id c (true :: flags, pass)).2.2, rfl, rfl,
        .of_reading rfl (c.yields_receive ..) ?_ ?_ ?_ hevents, congrArg _ hkept,
        Prod.ext (core.flags_visitReady now id c _) rfl⟩
      all_goals
        rw [visitReady]
        cases (c.receive pass.buffer pass.world).failure <;>
          simp only [ReceivePass.deliver] <;>
          cases core.filter.decision id <;> rfl

/-- A walk with one flag for each entry is a tour of the entries, with stops where a flag is
raised. -/
theorem exists_rounds (entries : List (ConnectionId × Connection σ)) (flags : List Bool)
    (hlength : flags.length = entries.length) (pass : ReceivePass W σ) : ∃ stops : List (Stop W σ),
      stops.map Stop.entry = entries ∧ stops.map Stop.isReady = flags ∧
        Rounds core now stops pass (sweep (core.visitReady now) entries (flags, pass)).2.2 ∧
        (sweep (core.visitReady now) entries (flags, pass)).1 = stops.filterMap Stop.kept? := by
  induction entries generalizing flags pass with
  | nil => exact ⟨[], rfl, (List.length_eq_zero_iff.1 hlength).symm, .nil _, rfl⟩
  | cons e entries ih =>
    obtain ⟨flag, flags, rfl⟩ := List.exists_cons_of_length_eq_add_one hlength
    obtain ⟨stop, middle, hentry, hready, hvisit, hkept, hnext⟩ :=
      core.visitReady_stop now e.1 e.2 flag flags pass
    obtain ⟨stops, hentries, hflags, hlater, hrest⟩ :=
      ih flags (Nat.succ.inj hlength) middle
    refine ⟨stop :: stops, List.cons_eq_cons.2 ⟨hentry, hentries⟩,
      List.cons_eq_cons.2 ⟨hready, hflags⟩, ?_, ?_⟩
    · rw [sweep, hnext]
      exact hvisit.append hlater
    · rw [sweep, hnext, hrest, hkept]
      cases hstop : stop.kept? with
      | none => rw [List.filterMap_cons_none hstop]; rfl
      | some kept => rw [List.filterMap_cons_some hstop]; rfl

/-- Without a flag the tour passes everybody. -/
theorem sweep_of_unready (entries : List (ConnectionId × Connection σ)) {flags : List Bool}
    (h : flags.count true = 0) (pass : ReceivePass W σ) :
    (sweep (core.visitReady now) entries (flags, pass)).1 = entries ∧
      (sweep (core.visitReady now) entries (flags, pass)).2.2 = pass := by
  induction entries generalizing flags with
  | nil => exact ⟨rfl, rfl⟩
  | cons e entries ih =>
    have hvisit : core.visitReady now e.1 e.2 (flags, pass) = (some e.2, flags.tail, pass) := by
      cases flags with
      | nil => rfl
      | cons flag flags =>
        cases flag with
        | false => rfl
        | true =>
          rw [List.count_cons_self] at h
          cases h
    have htail : flags.tail.count true = 0 :=
      Nat.eq_zero_of_le_zero (h ▸ (List.tail_sublist flags).count_le true)
    obtain ⟨hkept, hpass⟩ := ih htail
    rw [sweep, hvisit]
    exact ⟨congrArg (e :: ·) hkept, hpass⟩

end Core

/-- How a receive pass changes a core that reads where flags are raised, by its stops. -/
structure PollTour [Network W σ] (core : Core σ) (w : W) (flags : List Bool)
    (stops : List (Stop W σ)) (after : Core σ) (w' : W) : Prop where
  /-- The stops are the connections in the order of registration. -/
  everyone : stops.map Stop.entry = core.destinations.toList
  /-- Exactly those are read whose flag is raised. -/
  ready : stops.map Stop.isReady = flags
  tour : Tour w stops w'
  kept : after.destinations.toList = stops.filterMap Stop.kept?
  queue_eq : after.queue = core.queue ++ stops.flatMap (core.packets · (Network.now w))
  dropped_eq : after.dropped = core.dropped + (stops.flatMap core.rejects).length
  untouched : after = { core with
    destinations := after.destinations, queue := after.queue, dropped := after.dropped,
    readBuffer := after.readBuffer }

namespace Core

variable [Network W σ] {core : Core σ} {w₀ w : W} {answer : Readiness}

/-- A receive pass whose question is answered with a flag for each connection, and with their
number, is a tour. -/
theorem exists_pollTour (hne : core.destinations.toList ≠ [])
    (hasked : Network.waitReady (core.streams.map .stream) .zero w₀ = (.ok answer, w))
    (hlength : answer.flags.length = core.destinations.toList.length)
    (hcount : answer.count = answer.flags.count true) : ∃ stops after w',
      PollTour core w answer.flags stops after w' ∧ core.poll w₀ = ⟨.ok (), after, w',
        .waitReady (core.streams.map .stream) .zero (.ok answer)
          :: stops.flatMap core.account⟩ := by
  obtain ⟨stops, heveryone, hready, hrounds, hkept⟩ := core.exists_rounds (Network.now w)
    core.destinations.toList answer.flags hlength ⟨w, core.readBuffer, core.queue, core.dropped, []⟩
  have hempty : core.destinations.isEmpty = false :=
    Bool.eq_false_iff.2 (mt core.destinations.isEmpty_iff.1 hne)
  have hfit :
      Readiness.fit (core.streams.map Handle.stream).length answer.flags = answer.flags := by
    rw [List.length_map, streams, List.length_map, ← hlength, Readiness.fit_length]
  rw [poll, hempty, if_neg Bool.false_ne_true]
  dsimp only
  rw [hasked]
  dsimp only
  split
  · -- No flag is raised, so the tour changes nothing.
    rename_i hzero
    obtain ⟨hall, hpass⟩ := core.sweep_of_unready (Network.now w) core.destinations.toList
      (hcount.symm.trans hzero) ⟨w, core.readBuffer, core.queue, core.dropped, []⟩
    rw [hpass] at hrounds
    rw [hall] at hkept
    exact ⟨stops, _, _, ⟨heveryone, hready, hrounds.tour, hkept, hrounds.queue_eq,
      hrounds.dropped_eq, rfl⟩, congrArg (CoreOutcome.mk _ _ _ <| _ :: ·) hrounds.events_eq⟩
  · obtain ⟨hlist, hlast⟩ := Registry.scan_eq_sweep (core.visitReady (Network.now w))
      core.destinations (answer.flags, ⟨w, core.readBuffer, core.queue, core.dropped, []⟩)
    rw [hfit, receiveReady]
    rw [← hlast] at hrounds
    rw [← hlist] at hkept
    exact ⟨stops, _, _, ⟨heveryone, hready, hrounds.tour, hkept, hrounds.queue_eq,
      hrounds.dropped_eq, rfl⟩, congrArg (CoreOutcome.mk _ _ _ <| _ :: ·) hrounds.events_eq⟩

end Core

namespace Scene

variable [Network W σ] {scene : Scene W σ} {core : Core σ}

/-- **One receive pass.** Nothing is asked if nobody is registered. Otherwise, when the poller has
answered, every connection with a raised flag is read once and no other one, in the order of
registration. What the readings come to decides all the rest: the packets that are queued, the
number of frames that are rejected, the connections that are kept, and the calls of the hook. -/
theorem poll_reads_ready (hcreated : scene.engine.lifecycle = .created core) :
    (core.destinations.toList = [] → scene.perform .poll = ⟨.ok .done, scene, []⟩) ∧
      ∀ answer w, core.destinations.toList ≠ [] →
        Network.waitReady (core.streams.map .stream) .zero scene.world = (.ok answer, w) →
        answer.flags.length = core.destinations.toList.length →
        answer.count = answer.flags.count true →
        ∃ stops after w', PollTour core w answer.flags stops after w' ∧
          scene.perform .poll = ⟨.ok .done,
            { scene with engine := { scene.engine with lifecycle := .created after }, world := w' },
            .waitReady (core.streams.map .stream) .zero (.ok answer)
              :: stops.flatMap core.account⟩ ∧
          queries (scene.perform .poll).events
            = ((core.destinations.toList.zip answer.flags).filter (·.2)).map (·.1.2.stream) ∧
          hookCalls (scene.perform .poll).events
            = if core.hasHook then stops.filterMap Stop.failure? else [] := by
  constructor
  · intro hnobody
    have hpoll : core.poll scene.world = ⟨.ok (), core, scene.world, []⟩ := by
      rw [Core.poll, if_pos (core.destinations.isEmpty_iff.2 hnobody)]
    rw [perform, scene.withCore_of_created hcreated, hpoll, ← hcreated]
    rfl
  · intro answer w hne hasked hlength hcount
    obtain ⟨stops, after, w', htour, hpoll⟩ := Core.exists_pollTour hne hasked hlength hcount
    have hperform : scene.perform .poll = ⟨.ok .done,
        { scene with engine := { scene.engine with lifecycle := .created after }, world := w' },
        .waitReady (core.streams.map .stream) .zero (.ok answer)
          :: stops.flatMap core.account⟩ := by
      rw [perform, scene.withCore_of_created hcreated, hpoll]
      rfl
    refine ⟨stops, after, w', htour, hperform, ?_, ?_⟩
    · rw [hperform, ← htour.everyone, ← htour.ready, List.zip_map', List.filter_map, List.map_map]
      exact htour.tour.queries_eq core
    · rw [hperform]
      exact htour.tour.hookCalls_eq core

/-- A core with three registered streams and a hook. -/
def threeStreams : Core Scripted.Stream :=
  [⟨"a", ⟨1⟩⟩, ⟨"b", ⟨2⟩⟩, ⟨"c", ⟨3⟩⟩].foldl
    (fun core stream ↦ (core.addDestination stream Scripted.World.empty).core)
    (.ofParams 10 .own ⟨none, true, .acceptAll⟩)

/-- The first stream has ended, on the second one a frame waits, and on the third one nothing. -/
def closedFirst : Scene Scripted.World Scripted.Stream :=
  ⟨⟨.created threeStreams, .fresh, some .own, false, false⟩, [],
    ⟨[("a", ⟨[], true, [], none⟩), ("b", ⟨[.data [0, 1, 7] none], false, [], none⟩)], []⟩⟩

/-- The stream behind the one that is dropped is read all the same. -/
theorem poll_reads_ready_closedFirst :
    queries (closedFirst.perform .poll).events = [⟨"a", ⟨1⟩⟩, ⟨"b", ⟨2⟩⟩] ∧
      (closedFirst.perform .poll).result = .ok .done := by
  have hanswer : closedFirst.world.readiness (threeStreams.streams.map .stream)
      = ⟨2, [true, true, false]⟩ := by decide +kernel
  have hne : threeStreams.destinations.size ≠ 0 := by decide +kernel
  rw [Registry.size_eq] at hne
  have hcreated : closedFirst.engine.lifecycle = .created threeStreams := rfl
  obtain ⟨-, hready⟩ := poll_reads_ready hcreated
  obtain ⟨stops, after, w', -, hperform, hqueries, -⟩ := hready ⟨2, [true, true, false]⟩
    closedFirst.world (fun hnil ↦ hne (congrArg List.length hnil))
    (Prod.ext (congrArg Except.ok hanswer) rfl) (by decide +kernel) rfl
  rw [hqueries, hperform]
  exact ⟨by decide +kernel, rfl⟩

end Scene

end StreamRtp
