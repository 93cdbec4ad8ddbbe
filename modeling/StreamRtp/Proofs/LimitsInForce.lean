import StreamRtp.Proofs.EngineParts
import StreamRtp.Proofs.Isolation
import StreamRtp.Proofs.EndToEnd
import StreamRtp.Proofs.Refusals
import StreamRtp.Proofs.StampedStreams

/-!
# One limit everywhere

The limit of an engine is written down once for the engine and once for each connection. The copies
agree after every call: `CallEffect.level` derives it from what a call can do to the connections.

So every byte that a receive pass reads is judged under the limit that calls have put in force last,
and what becomes of a connection is what becomes of a stream whose bytes carry these limits. A call
takes the beginning of such a stream off: `Stretch` says so of what one call tells of a connection,
and `recount_tenure` follows a connection from its registration to the next one under its identity.
-/

namespace StreamRtp

open StreamRtp.Frame (cut)

variable {W σ : Type}

/-! ## The limit of the engine and those of the connections -/

/-- The engine and every connection have the given limit, as far as they are there. -/
structure Lifecycle.Level (l : Lifecycle σ) (limit : Nat) : Prop where
  engine : ∀ n, l.limit? = some n → n = limit
  connections : ∀ e ∈ l.entries, e.2.assembler.limit = limit

/-- Bytes leave the limit alone. -/
theorem Assembler.limit_replay {feedings : List Feeding} (a : Assembler)
    (h : ∀ feeding ∈ feedings, ∃ data, feeding = .bytes data) :
    (a.replay feedings).2.limit = a.limit := by
  induction feedings generalizing a with
  | nil => rfl
  | cons feeding feedings ih =>
    obtain ⟨⟨data, rfl⟩, hlater⟩ := List.forall_mem_cons.1 h
    rw [replay_cons, ih _ hlater]
    exact a.limit_push data

/-- A read gives bytes to an assembler and nothing else. -/
theorem exists_bytes_of_mem_readsOf [Network W σ] {id : ConnectionId} {events : List (Event σ)} :
    ∀ feeding ∈ readsOf W id events, ∃ data, feeding = .bytes data := by
  intro feeding hmem
  obtain ⟨event, -, hread⟩ := List.mem_filterMap.1 hmem
  match event, hread with
  | .read s _ (.ok data), hread =>
    rw [Event.readOf] at hread
    split at hread
    · exact ⟨data, (Option.some.inj hread).symm⟩
    · cases hread

/-- A call leaves the engine and the connections with the limit that is in force after it. -/
theorem CallEffect.level [Network W σ] {before after : Lifecycle σ} {p : Performed σ} {limit : Nat}
    (h : CallEffect W before p after) (hlevel : before.Level limit) :
    after.Level (p.limit?.getD limit) := by
  refine ⟨fun n ↦ h.limit_eq hlevel.engine, fun e' he' ↦ ?_⟩
  cases h with
  | pass hlimit _ _ hpasses _ =>
    obtain ⟨e, he, hkey, -⟩ := hpasses.origin e' he'
    rw [hlimit, (hpasses.own e he).2 e' he' hkey.symm,
      Assembler.limit_replay _ exists_bytes_of_mem_readsOf]
    exact hlevel.connections e he
  | create n _ _ _ _ _ hentries _ =>
    rw [hentries] at he'
    cases he'
  | limit n hlimit _ _ _ hentries _ =>
    rw [hentries] at he'
    obtain ⟨e, -, rfl⟩ := List.mem_map.1 he'
    rw [hlimit]
    rfl
  | register n stream hlimit _ _ _ _ hentries hbefore _ =>
    -- The new assembler is made with the limit of the engine.
    rw [hentries] at he'
    rw [hlimit]
    rcases List.mem_append.1 he' with he' | he'
    · exact hlevel.connections e' he'
    · rw [List.mem_singleton.1 he']
      exact hlevel.engine n hbefore

namespace Engine

variable [Network W σ] {engine : Engine σ} {limit : Nat}

/-- Along any calls, connections are registered under their own identities, and all limits are the
one that was put in force last. -/
theorem level_live (occasions : List (Occasion W σ)) (hkeyed : Keyed W engine.lifecycle.entries)
    (hlevel : engine.lifecycle.Level limit) :
    Keyed W (engine.live occasions).2.lifecycle.entries ∧
      (engine.live occasions).2.lifecycle.Level (limitAfter limit (engine.history occasions)) := by
  induction occasions generalizing engine limit with
  | nil => exact ⟨hkeyed, hlevel⟩
  | cons o occasions ih =>
    have heffect :=
      (⟨engine, o.channels, o.world⟩ : Scene W σ).perform_effect hkeyed o.call o.mishaps
    exact ih (heffect.keyed hkeyed) (heffect.level hlevel)

omit [Network W σ] in
/-- A new engine has neither a limit nor connections. -/
theorem level_new (limit : Nat) : (new : Engine σ).lifecycle.Level limit :=
  ⟨nofun, List.forall_mem_nil _⟩

end Engine

/-! ## What histories tell of a stream -/

/-- The length on account of which a connection is dropped, if that is the reason. -/
def DropReason.refusal? : DropReason → Option AssemblyError
  | assembly e => some e
  | _ => none

/-- The length on account of which an event reports that a connection is dropped. -/
def Event.refusal? : Event σ → Option AssemblyError
  | .log (.droppingConnection _ reason) => reason.refusal?
  | _ => none

section Histories

variable (W) [Network W σ] (id : ConnectionId)

/-- The lengths on account of which a connection is dropped. -/
def refusals (events : List (Event σ)) : List AssemblyError :=
  (about W id events).filterMap Event.refusal?

/-- What is read at a connection from when a limit is in force on. Every byte carries the limit that
is in force when it is read. -/
def readings : (limit : Nat) → List (Performed σ) → List Stamped
  | _, [] => []
  | limit, p :: later =>
    stamp limit (arrivals W id p.events) ++ readings (p.limit?.getD limit) later

end Histories

/-- The frames that a history completes for a connection are part of what it says of it. -/
theorem framesOf_about [Network W σ] (id : ConnectionId) (events : List (Event σ)) :
    framesOf id (about W id events) = framesOf id events := by
  rw [framesOf, about, List.filterMap_filter]
  refine List.filterMap_congr fun event _ ↦ ?_
  by_cases hsubject : event.subject? W = some id
  · rw [if_pos (decide_eq_true hsubject)]
  · rw [if_neg (by simpa using hsubject)]
    cases event with
    | frame source payload verdict =>
      exact (if_neg fun hsource ↦ hsubject (congrArg some hsource)).symm
    | _ => rfl

/-! ## One call -/

/-- What is said of a connection tells of the beginning of its stream: the frames that come off, and
what is held of the rest if the connection is kept. If it is not, the stream has come to its end. -/
inductive Stretch (stream : List Stamped) (id : ConnectionId) (said : List (Event σ)) :
    Option (Connection σ) → Prop
  | kept (c : Connection σ) (held : List Stamped) (hheld : c.assembler.phase.Holds held)
    (hquiet : said.filterMap Event.refusal? = [])
    (hcut : ∀ later, cut (stream ++ later) = (cut (held ++ later)).behind (framesOf id said)) :
    Stretch stream id said (some c)
  | ended (hframes : framesOf id said = (cut stream).frames)
    (hrefused : said.filterMap Event.refusal? = (cut stream).error.toList) :
    Stretch stream id said none

namespace Stretch

variable {id : ConnectionId} {said : List (Event σ)} {held : List Stamped} {c : Connection σ}

/-- What is said tells of no bytes, frames and refusals. -/
theorem of_idle (limit : Nat) (hheld : c.assembler.phase.Holds held)
    (hread : said.flatMap Event.bytesRead = []) (hframes : framesOf id said = [])
    (hquiet : said.filterMap Event.refusal? = []) :
    Stretch (held ++ stamp limit (said.flatMap Event.bytesRead)) id said (some c) := by
  refine .kept c held hheld hquiet fun later ↦ ?_
  rw [hread, hframes, stamp, List.map_nil, List.append_nil]
  rfl

/-- What is said tells of no bytes, frames and refusals, and the connection is given up. -/
theorem of_idle_ended (limit : Nat) (hheld : c.assembler.phase.Holds held)
    (hread : said.flatMap Event.bytesRead = []) (hframes : framesOf id said = [])
    (hquiet : said.filterMap Event.refusal? = []) :
    Stretch (held ++ stamp limit (said.flatMap Event.bytesRead)) id said none := by
  have hcut := hheld.cut_eq c.assembler.sound
  rw [hread, stamp, List.map_nil, List.append_nil]
  refine .ended ?_ ?_
  · rw [hframes, hcut]
  · rw [hquiet, hcut]
    rfl

end Stretch

section Calls

variable {core : Core σ} {id : ConnectionId} {c : Connection σ} {held : List Stamped}

/-- The report that a connection is given up says at most that a length was refused. -/
theorem Core.said_reportDrop (core : Core σ) (id : ConnectionId) (reason : DropReason) :
    framesOf id (core.reportDrop id reason) = [] ∧
      (core.reportDrop id reason).flatMap Event.bytesRead = [] ∧
      (core.reportDrop id reason).filterMap Event.refusal? = reason.refusal?.toList := by
  rw [reportDrop]
  refine ⟨?_, ?_, ?_⟩
  · split <;> rfl
  · split <;> rfl
  · cases hrefusal : reason.refusal? <;> split <;> simp [Event.refusal?, hrefusal]

/-- What the visit of a ready connection says besides its reads. -/
theorem Core.said_receipt (core : Core σ) (id : ConnectionId) {got : Reception W σ}
    (hframes : framesOf id got.events = []) (hquiet : got.events.filterMap Event.refusal? = []) :
    framesOf id (core.receipt id got) = got.frames ∧
      (core.receipt id got).flatMap Event.bytesRead = got.events.flatMap Event.bytesRead ∧
      (core.receipt id got).filterMap Event.refusal?
        = (got.failure.bind DropReason.refusal?).toList := by
  have hdelivered : ∀ verdict, (got.frames.map (.frame id · verdict) : List (Event σ)).flatMap
      Event.bytesRead = [] := by
    intro verdict
    rw [List.flatMap_map]
    exact List.flatMap_eq_nil_iff.2 fun _ _ ↦ rfl
  have hunrefused : ∀ verdict, (got.frames.map (.frame id · verdict) : List (Event σ)).filterMap
      Event.refusal? = [] := by
    intro verdict
    rw [List.filterMap_map]
    exact List.filterMap_eq_nil_iff.2 fun _ _ ↦ rfl
  rw [receipt, framesOf_append, framesOf_append, hframes, framesOf_map_frame, if_pos rfl,
    List.flatMap_append, List.flatMap_append, hdelivered, List.filterMap_append,
    List.filterMap_append, hquiet, hunrefused]
  cases got.failure with
  | none => exact ⟨List.append_nil _, List.append_nil _, rfl⟩
  | some reason =>
    obtain ⟨hnone, hnothing, hrefused⟩ := core.said_reportDrop id reason
    dsimp only
    rw [hnone, hnothing, hrefused]
    exact ⟨List.append_nil _, List.append_nil _, rfl⟩

theorem Connection.said_settle (c : Connection σ) (id : ConnectionId) (answers : Answers) :
    framesOf id (c.settle answers).events = [] ∧
      (c.settle answers).events.filterMap Event.refusal? = [] := by
  rw [c.events_settle]
  split <;> exact ⟨rfl, rfl⟩

/-- What the visit of a ready connection tells of its stream. -/
theorem Core.stretch_receipt (core : Core σ) (id : ConnectionId)
    (hheld : c.assembler.phase.Holds held) (answers : Answers) :
    Stretch (held ++ stamp c.assembler.limit
        ((core.receipt id (c.settle answers)).flatMap Event.bytesRead)) id
      (core.receipt id (c.settle answers)) (c.afterReading (c.settle answers)) := by
  obtain ⟨hnone, hquiet⟩ := c.said_settle id answers
  obtain ⟨hframes, hread, hrefused⟩ := core.said_receipt id hnone hquiet
  obtain ⟨available, data, written⟩ := answers
  match available, data with
  | .error e, data => exact .of_idle_ended _ hheld hread hframes hrefused
  | .ok 0, data => exact .of_idle_ended _ hheld hread hframes hrefused
  | .ok (n + 1), .ok [] => exact .of_idle_ended _ hheld hread hframes hrefused
  | .ok (n + 1), .error e =>
    have hafter : c.afterReading (c.settle ⟨.ok (n + 1), .error e, written⟩)
        = if e.isTransient then some c else none := by
      simp only [Connection.afterReading, Connection.settle]
      cases e.isTransient <;> rfl
    have hnothing : ((c.settle ⟨.ok (n + 1), .error e, written⟩).failure.bind
        DropReason.refusal?).toList = [] := by
      simp only [Connection.settle]
      cases e.isTransient <;> rfl
    rw [hnothing] at hrefused
    rw [hafter]
    cases e.isTransient with
    | true => exact .of_idle _ hheld hread hframes hrefused
    | false => exact .of_idle_ended _ hheld hread hframes hrefused
  | .ok (n + 1), .ok (b :: bytes) =>
    have hbytes : (core.receipt id (c.settle ⟨.ok (n + 1), .ok (b :: bytes), written⟩)).flatMap
        Event.bytesRead = b :: bytes := hread.trans (List.append_nil _)
    have hfailure : (c.settle ⟨.ok (n + 1), .ok (b :: bytes), written⟩).failure
        = (c.assembler.push (b :: bytes)).1.error.map .assembly := rfl
    rw [hfailure] at hrefused
    rw [hbytes, Connection.afterReading, hfailure]
    cases c.assembler.cutsOff_push hheld (b :: bytes) with
    | held held' hnone hheld' hcut =>
      rw [hnone] at hrefused ⊢
      refine .kept _ held' hheld' hrefused fun later ↦ ?_
      rw [hcut, hframes]
      rfl
    | refused e herror hcut =>
      have hstream := hcut []
      rw [List.append_nil] at hstream
      rw [herror] at hrefused ⊢
      refine .ended ?_ ?_
      · rw [hframes, hstream]
        rfl
      · rw [hrefused, hstream, herror]
        rfl

/-- A fan-out tells of no stream. -/
theorem Core.said_postage (core : Core σ) (id : ConnectionId) (stream : σ) (frame : Bytes)
    (answer : Except IoError Unit) :
    framesOf id (core.postage id stream frame answer) = [] ∧
      (core.postage id stream frame answer).flatMap Event.bytesRead = [] ∧
      (core.postage id stream frame answer).filterMap Event.refusal? = [] := by
  rw [postage.eq_def]
  cases answer with
  | ok _ => exact ⟨rfl, rfl, rfl⟩
  | error e => exact core.said_reportDrop id (.send e.duplicate)

variable [Network W σ] {p : Performed σ} {kept : Option (Connection σ)}

/-- What any call tells of the stream of a registered connection. -/
theorem Episode.stretch (h : Episode W core id c p kept) (hkey : Network.id W c.stream = id)
    (hheld : c.assembler.phase.Holds held) :
    Stretch (held ++ stamp c.assembler.limit (arrivals W id p.events)) id (about W id p.events)
      kept := by
  have hwrite : ∀ frame answer, about W id (core.postage id c.stream frame answer)
      = core.postage id c.stream frame answer := by
    intro frame answer
    refine about_eq_self ?_
    rw [Core.postage.eq_def]
    refine List.forall_mem_cons.2 ⟨congrArg some hkey, ?_⟩
    split
    · exact List.forall_mem_nil _
    · exact core.subject?_reportDrop id _
  rw [arrivals]
  cases h with
  | rest habout hsent =>
    rw [habout]
    exact .of_idle _ hheld rfl rfl rfl
  | relimit size hcall habout =>
    rw [habout]
    exact .of_idle _ hheld rfl rfl rfl
  | leave hcall habout =>
    rw [habout]
    exact .of_idle_ended _ hheld rfl rfl rfl
  | receive hcall buffer w habout =>
    obtain ⟨answers, hreceipt, hafter⟩ := core.about_receipt_settle hkey buffer w
    rw [habout, hreceipt, hafter]
    exact core.stretch_receipt id hheld answers
  | write payload hcall hle habout hresult =>
    obtain ⟨hframes, hread, hquiet⟩ := core.said_postage id c.stream (Frame.wire payload) (.ok ())
    rw [habout, hwrite]
    exact .of_idle _ hheld hread hframes hquiet
  | lose payload hcall e habout hresult =>
    obtain ⟨hframes, hread, hquiet⟩ :=
      core.said_postage id c.stream (Frame.wire payload) (.error e)
    rw [habout, hwrite]
    exact .of_idle_ended _ hheld hread hframes hquiet

end Calls

/-! ## From one registration to the next -/

section Tenure

variable {id : ConnectionId} {p : Performed σ} {later : List (Performed σ)}

theorem tenure_cons_of_registered (h : p.registered? = some id) : tenure id (p :: later) = [] :=
  List.takeWhile_cons_of_neg (by simpa using h)

theorem tenure_cons (h : p.registered? ≠ some id) :
    tenure id (p :: later) = p :: tenure id later :=
  List.takeWhile_cons_of_pos (by simpa using h)

variable (W) [Network W σ]

/-- A call tells nothing of the stream of a connection. -/
structure Performed.Untold (id : ConnectionId) (p : Performed σ) : Prop where
  unread : arrivals W id p.events = []
  frames : p.frames id = []
  unrefused : refusals W id p.events = []

/-- What calls tell of a connection is what becomes of what was held and what they read. -/
structure Recount (id : ConnectionId) (limit : Nat) (held : List Stamped)
    (later : List (Performed σ)) : Prop where
  frames : later.flatMap (·.frames id) = (cut (held ++ readings W id limit later)).frames
  refused : later.flatMap (fun p ↦ refusals W id p.events)
    = (cut (held ++ readings W id limit later)).error.toList

variable {W}

theorem readings_eq_nil (h : ∀ p ∈ later, p.Untold W id) (limit : Nat) :
    readings W id limit later = [] := by
  induction later generalizing limit with
  | nil => rfl
  | cons p later ih =>
    obtain ⟨hp, hlater⟩ := List.forall_mem_cons.1 h
    rw [readings, hp.unread, ih hlater]
    rfl

namespace Recount

variable {limit : Nat} {held : List Stamped}

/-- So far nothing has been told. -/
theorem nil (hcut : cut held = ⟨[], none⟩) : Recount W id limit held [] := by
  constructor <;> rw [readings, List.append_nil, hcut] <;> rfl

/-- A call after which the connection is still there, and then others. -/
theorem cons_kept {c : Connection σ}
    (h : Stretch (held ++ stamp limit (arrivals W id p.events)) id (about W id p.events) (some c))
    (hlater : ∀ held, c.assembler.phase.Holds held →
      Recount W id (p.limit?.getD limit) held later) : Recount W id limit held (p :: later) := by
  cases h with
  | kept _ held' hheld hquiet hcut =>
    obtain ⟨hframes, hrefused⟩ := hlater held' hheld
    rw [framesOf_about] at hcut
    constructor
    all_goals rw [List.flatMap_cons, readings, ← List.append_assoc, hcut]
    · rw [hframes]
      rfl
    · rw [hrefused, refusals, hquiet]
      rfl

/-- A call with which the connection is gone, and then others that tell nothing of it. -/
theorem cons_ended
    (h : Stretch (held ++ stamp limit (arrivals W id p.events)) id (about W id p.events)
      (none : Option (Connection σ)))
    (hlater : ∀ p ∈ later, p.Untold W id) : Recount W id limit held (p :: later) := by
  cases h with
  | ended hframes hrefused =>
    rw [framesOf_about] at hframes
    constructor
    all_goals rw [List.flatMap_cons, readings, readings_eq_nil hlater, List.append_nil]
    · rw [List.flatMap_eq_nil_iff.2 fun p hp ↦ (hlater p hp).frames, List.append_nil]
      exact hframes
    · rw [List.flatMap_eq_nil_iff.2 fun p hp ↦ (hlater p hp).unrefused, List.append_nil]
      exact hrefused

end Recount

end Tenure

namespace Scene

variable [Network W σ] {scene : Scene W σ} {id : ConnectionId}

/-- Nothing is told of the stream of a connection that is not registered. -/
theorem untold_of_notMem (hkeyed : Keyed W scene.engine.lifecycle.entries)
    (hid : id ∉ scene.engine.lifecycle.entries.map (·.1)) (call : Call σ) (mishaps : Mishaps) :
    (scene.performed call mishaps).Untold W id := by
  have hoffers : ∀ event ∈ about W id (scene.perform call mishaps).events,
      ∃ stream answer, event = .bytesAvailable stream answer := by
    obtain ⟨core, hcreated⟩ | hidle := scene.engine.lifecycle.created_or_idle
    · rw [hcreated] at hkeyed hid
      exact scene.about_perform_of_notMem hcreated hkeyed hid call mishaps
    · rw [(scene.perform_impersonal_of_idle hidle call mishaps).about_eq_nil]
      exact List.forall_mem_nil _
  refine ⟨(said_of_offers hoffers).2.1, ?_, List.filterMap_eq_nil_iff.2 fun event hevent ↦ ?_⟩
  · refine (framesOf_about (W := W) id _).symm.trans
      (List.filterMap_eq_nil_iff.2 fun event hevent ↦ ?_)
    obtain ⟨stream, answer, rfl⟩ := hoffers event hevent
    rfl
  · obtain ⟨stream, answer, rfl⟩ := hoffers event hevent
    rfl

end Scene

namespace Engine

variable [Network W σ] {engine : Engine σ} {limit : Nat} {id : ConnectionId} {c : Connection σ}
  {held : List Stamped}

theorem history_cons (engine : Engine σ) (o : Occasion W σ) (occasions : List (Occasion W σ)) :
    engine.history (o :: occasions)
      = (⟨engine, o.channels, o.world⟩ : Scene W σ).performed o.call o.mishaps
        :: (engine.meet o).scene.engine.history occasions := rfl

/-- Nothing is told of a connection until it is registered. -/
theorem untold_tenure (hkeyed : Keyed W engine.lifecycle.entries)
    (hid : id ∉ engine.lifecycle.entries.map (·.1)) (occasions : List (Occasion W σ)) :
    ∀ p ∈ tenure id (engine.history occasions), p.Untold W id := by
  induction occasions generalizing engine with
  | nil => exact List.forall_mem_nil _
  | cons o occasions ih =>
    let scene : Scene W σ := ⟨engine, o.channels, o.world⟩
    have heffect := scene.perform_effect hkeyed o.call o.mishaps
    rw [history_cons]
    by_cases hp : (scene.performed o.call o.mishaps).registered? = some id
    · rw [tenure_cons_of_registered hp]
      exact List.forall_mem_nil _
    · rw [tenure_cons hp]
      refine List.forall_mem_cons.2 ⟨scene.untold_of_notMem hkeyed hid o.call o.mishaps, ?_⟩
      exact ih (heffect.keyed hkeyed) ((heffect.evolves hp).absent hid).1

/-- What calls tell of a registered connection is what becomes of its stream. -/
theorem recount_tenure (hkeyed : Keyed W engine.lifecycle.entries)
    (hlevel : engine.lifecycle.Level limit) (hc : (id, c) ∈ engine.lifecycle.entries)
    (hheld : c.assembler.phase.Holds held) (occasions : List (Occasion W σ)) :
    Recount W id limit held (tenure id (engine.history occasions)) := by
  have hcut := hheld.cut_eq c.assembler.sound
  induction occasions generalizing engine limit c held with
  | nil => exact .nil hcut
  | cons o occasions ih =>
    let scene : Scene W σ := ⟨engine, o.channels, o.world⟩
    have heffect := scene.perform_effect hkeyed o.call o.mishaps
    have hkeyedAfter := heffect.keyed hkeyed
    rw [history_cons]
    by_cases hp : (scene.performed o.call o.mishaps).registered? = some id
    · rw [tenure_cons_of_registered hp]
      exact .nil hcut
    rw [tenure_cons hp]
    have hlimit := hlevel.connections _ hc
    obtain ⟨core, hcreated⟩ | hidle := engine.lifecycle.created_or_idle
    · rw [hcreated] at hkeyed hc
      obtain ⟨kept, hepisode, hkept⟩ :=
        scene.perform_episode hcreated hkeyed hc o.call o.mishaps
      have hstretch := hepisode.stretch (hkeyed _ hc) hheld
      rw [hlimit] at hstretch
      cases kept with
      | some c' =>
        refine .cons_kept hstretch fun held' hheld' ↦ ?_
        exact ih hkeyedAfter (heffect.level hlevel) ((hkept c').2 rfl) hheld'
          (hheld'.cut_eq c'.assembler.sound)
      | none =>
        exact .cons_ended hstretch
          (untold_tenure hkeyedAfter (enrolled_none_iff.1 hkept) occasions)
    · cases hstage : engine.lifecycle with
      | created core => exact absurd hstage (hidle core)
      | _ =>
        rw [hstage] at hc
        cases hc

/-- A history in two parts with a call in between. -/
theorem exists_of_history_eq {occasions : List (Occasion W σ)} {before after : List (Performed σ)}
    {p : Performed σ} (h : engine.history occasions = before ++ p :: after) :
    ∃ (first : List (Occasion W σ)) (o : Occasion W σ) (second : List (Occasion W σ)),
      engine.history first = before ∧
      p = (⟨(engine.live first).2, o.channels, o.world⟩ : Scene W σ).performed o.call o.mishaps ∧
      after = ((engine.live first).2.meet o).scene.engine.history second := by
  induction before generalizing engine occasions with
  | nil =>
    cases occasions with
    | nil => cases h
    | cons o occasions =>
      obtain ⟨hp, hafter⟩ := List.cons_eq_cons.1 h
      exact ⟨[], o, occasions, rfl, hp.symm, hafter.symm⟩
  | cons q before ih =>
    cases occasions with
    | nil => cases h
    | cons o occasions =>
      obtain ⟨hq, hrest⟩ := List.cons_eq_cons.1 h
      obtain ⟨first, o', second, hbefore, hp, hafter⟩ := ih hrest
      refine ⟨o :: first, o', second, ?_, hp, hafter⟩
      rw [history_cons, ← hbefore, ← hq]
      rfl

/-- A connection that is registered begins with nothing, under the limit of the engine. -/
theorem recount_registered (hkeyed : Keyed W engine.lifecycle.entries)
    (hlevel : engine.lifecycle.Level limit) (o : Occasion W σ)
    (hp : ((⟨engine, o.channels, o.world⟩ : Scene W σ).performed o.call o.mishaps).registered?
      = some id)
    (occasions : List (Occasion W σ)) :
    Recount W id limit [] (tenure id ((engine.meet o).scene.engine.history occasions)) := by
  have heffect :=
    (⟨engine, o.channels, o.world⟩ : Scene W σ).perform_effect hkeyed o.call o.mishaps
  have hkeyedAfter := heffect.keyed hkeyed
  have hlevelAfter := heffect.level hlevel
  cases heffect with
  | pass _ hregistered _ _ _ | create _ _ hregistered _ _ _ _ _ | limit _ _ hregistered _ _ _ _ =>
    cases hregistered.symm.trans hp
  | register n stream hlimit hregistered _ _ _ hentries hbefore _ =>
    have hid : Network.id W stream = id := Option.some.inj (hregistered.symm.trans hp)
    rw [hlimit] at hlevelAfter
    have hmem : (id, (⟨stream, .ofLimit n⟩ : Connection σ))
        ∈ (engine.meet o).scene.engine.lifecycle.entries := by
      refine hentries ▸ List.mem_append_right _ ?_
      rw [hid]
      exact List.mem_singleton_self _
    exact recount_tenure hkeyedAfter hlevelAfter hmem Phase.holds_start occasions

/-! ## The main result -/

/-- A payload is refused as too big if and only if it is longer than the engine sends. -/
theorem packetTooBig_iff {core : Core σ} (hcreated : engine.lifecycle = .created core)
    (channels : List AbortChannel) (w : W) (mishaps : Mishaps) (payload : Bytes) {call : Call σ}
    (hcall : call = .sendRtp payload ∨ call = .sendRtcp payload) :
    (∃ length limit, (engine.meet ⟨channels, w, call, mishaps⟩).result
        = .error (.packetTooBig length limit)) ↔
      min core.maxPacketSize Frame.maxPayload < payload.length := by
  have hquiet : ¬call.IsQuiet := by rcases hcall with rfl | rfl <;> exact not_false
  have hlives : call ≠ .destroy := by rcases hcall with rfl | rfl <;> nofun
  have hresult : (engine.meet ⟨channels, w, call, mishaps⟩).result
      = (core.send payload w).result.map fun _ ↦ .done := by
    rw [meet, Scene.perform_eq_respond _ hcreated hquiet hlives mishaps]
    rcases hcall with rfl | rfl <;> rfl
  rw [hresult]
  constructor
  · rintro ⟨length, limit, h⟩
    cases hsend : (core.send payload w).result with
    | ok _ =>
      rw [hsend] at h
      cases h
    | error e =>
      rw [hsend] at h
      cases h
      exact (core.send_error hsend).resolve_right fun ⟨_, _, h⟩ ↦ by cases h
  · intro h
    rw [core.send_of_lt h]
    exact ⟨_, _, rfl⟩

/-- **One limit everywhere.** Whatever calls an engine has answered and whatever happened around it
in between: once it is created, its limit is the one that was put in force last, every connection
has the same, and a payload is refused as too big if and only if it exceeds this limit or what a
length field can say. From the registration of a connection to the next one under its identity, what
is completed there and what is refused is what becomes of the bytes that are read there, each under
the limit in force at its reading. A length is judged by the limit of its second byte, and a frame
whose length was admitted completes with this length under whatever limits its payload arrives. -/
theorem limits_in_force (occasions : List (Occasion W σ)) :
    let engine := ((new : Engine σ).live occasions).2
    let history := (new : Engine σ).history occasions
    (∀ core, engine.lifecycle = .created core →
      core.maxPacketSize = limitAfter 0 history ∧
        (∀ e ∈ core.destinations.toList, e.2.assembler.limit = core.maxPacketSize) ∧
        ∀ (channels : List AbortChannel) (w : W) (mishaps : Mishaps) (payload : Bytes)
          (call : Call σ), call = .sendRtp payload ∨ call = .sendRtcp payload →
            ((∃ length limit, (engine.meet ⟨channels, w, call, mishaps⟩).result
                = .error (.packetTooBig length limit)) ↔
              min core.maxPacketSize Frame.maxPayload < payload.length)) ∧
      ∀ before p after id, history = before ++ p :: after → p.registered? = some id →
        let later := tenure id after
        let stream := readings W id (limitAfter 0 before) later
        later.flatMap (·.frames id) = (cut stream).frames ∧
          later.flatMap (fun p ↦ refusals W id p.events) = (cut stream).error.toList := by
  intro engine history
  have hkeyed : Keyed W (new : Engine σ).lifecycle.entries := List.forall_mem_nil _
  constructor
  · intro core hcreated
    obtain ⟨-, hlevel⟩ := level_live occasions hkeyed (level_new 0)
    change engine.lifecycle.Level _ at hlevel
    have hsize : core.maxPacketSize = limitAfter 0 history :=
      hlevel.engine _ (by rw [hcreated]; rfl)
    have hconnections := hlevel.connections
    rw [hcreated, ← hsize] at hconnections
    exact ⟨hsize, hconnections, fun channels w mishaps payload call ↦
      packetTooBig_iff hcreated channels w mishaps payload⟩
  · intro before p after id hhistory hp later stream
    obtain ⟨first, o, second, rfl, rfl, rfl⟩ := exists_of_history_eq hhistory
    obtain ⟨hkeyed, hlevel⟩ := level_live first hkeyed (level_new 0)
    obtain ⟨hframes, hrefused⟩ := recount_registered hkeyed hlevel o hp second
    exact ⟨hframes, hrefused⟩

/-- Two streams on which the given bytes have arrived. -/
def twoStreams (first second : Bytes) : Scripted.World :=
  ⟨[("a", ⟨[.data first none], false, [], none⟩),
    ("b", ⟨[.data second none], false, [], none⟩)], []⟩

/-- The limit is lowered while a payload and a length are under way. -/
def loweredOccasions : List (Occasion Scripted.World Scripted.Stream) :=
  [⟨[], .empty, .init false, []⟩, ⟨[], .empty, .create 4 .default, []⟩,
    ⟨[], .empty, .addDestination ⟨"a", ⟨1⟩⟩, []⟩, ⟨[], .empty, .addDestination ⟨"b", ⟨2⟩⟩, []⟩,
    ⟨[], twoStreams [0, 3, 1] [0], .poll, []⟩, ⟨[], .empty, .setMaxPacketSize 2, []⟩,
    ⟨[], twoStreams [2, 3] [3, 9], .poll, []⟩]

/-- The payload completes. The length of the other stream, whose first byte came under the old
limit, is refused. -/
theorem limits_in_force_lowered :
    let history := (new : Engine Scripted.Stream).history loweredOccasions
    (tenure ⟨1⟩ (history.drop 3)).flatMap (·.frames ⟨1⟩) = [[1, 2, 3]] ∧
      (tenure ⟨2⟩ (history.drop 4)).flatMap (fun p ↦ refusals Scripted.World ⟨2⟩ p.events)
        = [.frameTooLarge 3 2] := by
  intro history
  have hregistered : ∀ n id, (history[n]?.bind (·.registered?)) = some id → ∃ p,
      history = history.take n ++ p :: history.drop (n + 1) ∧ p.registered? = some id := by
    intro n id h
    obtain ⟨p, hp, hid⟩ := Option.bind_eq_some_iff.1 h
    obtain ⟨hlt, rfl⟩ := List.getElem?_eq_some_iff.1 hp
    refine ⟨_, ?_, hid⟩
    rw [List.getElem_cons_drop, List.take_append_drop]
  obtain ⟨first, hfirst, hone⟩ := hregistered 2 ⟨1⟩ (by decide +kernel)
  obtain ⟨second, hsecond, htwo⟩ := hregistered 3 ⟨2⟩ (by decide +kernel)
  obtain ⟨-, hlaw⟩ := limits_in_force loweredOccasions
  have hread : readings Scripted.World ⟨1⟩ (limitAfter 0 (history.take 2))
      (tenure ⟨1⟩ (history.drop 3)) = stamp 4 [0, 3, 1] ++ stamp 2 [2, 3] := by decide +kernel
  have hrefused : readings Scripted.World ⟨2⟩ (limitAfter 0 (history.take 3))
      (tenure ⟨2⟩ (history.drop 4)) = stamp 4 [0] ++ stamp 2 [3, 9] := by decide +kernel
  have hframes := (hlaw _ _ _ _ hfirst hone).1
  have hrefusals := (hlaw _ _ _ _ hsecond htwo).2
  rw [hread] at hframes
  rw [hrefused] at hrefusals
  exact ⟨hframes.trans (by decide +kernel), hrefusals.trans (by decide +kernel)⟩

end Engine

end StreamRtp
