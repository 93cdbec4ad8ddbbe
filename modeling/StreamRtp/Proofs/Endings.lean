import StreamRtp.Proofs.Reassembly
import StreamRtp.Proofs.RegistrationOrder
import StreamRtp.Proofs.StreamUses
import StreamRtp.Proofs.WalkMoments
import StreamRtp.Scripted.Stream

/-!
# Every registration ends once

A stream that an engine has accepted stays registered until it is asked back, until all are dropped,
or until it fails. There is no other way, and there are not two of them: `Course` follows one
registration through the calls after it, and `Scene.course` shows that every registration has one.

## Failures

What counts as a failure is said of the answers of a stream, by `Connection.Fails`, and not of what
the engine does about them. A registered connection that gives such an answer is dropped by the same
call, after one report to the hook if there is one, and no further use is made of its stream. A
connection that gives none is not dropped.

## The argument

One call is looked at from the connection: its episode leaves it registered or does not, and what
the history says of it is then known. What is known is carried over to the whole history of the call
by `about`, and to the calls that follow because a stream that is not registered is not used.
-/

namespace StreamRtp

variable {W σ : Type}

/-! ## Failing answers -/

/-- An answer of its stream that a connection is dropped for, with the reason. A read that says "not
now" is none. -/
inductive Connection.Fails (c : Connection σ) : Event σ → DropReason → Prop
  | unavailable (e : IoError) : Fails c (.bytesAvailable c.stream (.error e)) (.receive e)
  | exhausted : Fails c (.bytesAvailable c.stream (.ok 0)) .closed
  | unreadable (want : Nat) (e : IoError) (hlasting : e.isTransient = false) :
    Fails c (.read c.stream want (.error e)) (.receive e)
  | ended (want : Nat) : Fails c (.read c.stream want (.ok [])) .closed
  | malformed (want : Nat) (bytes : Bytes) (e : AssemblyError)
    (herror : (c.assembler.push bytes).1.error = some e) :
    Fails c (.read c.stream want (.ok bytes)) (.assembly e)
  | unwritten (frame : Bytes) (e : IoError) :
    Fails c (.write c.stream frame (.error e)) (.send e.duplicate)

theorem Connection.Fails.subject? [Network W σ] {c : Connection σ} {event : Event σ}
    {reason : DropReason} (h : c.Fails event reason) :
    event.subject? W = some (Network.id W c.stream) := by
  cases h <;> rfl

/-- Reading a connection fails with its last answer only, or with none. -/
theorem Connection.receive_fails [Network W σ] (c : Connection σ) (buffer : Bytes) (w : W) :
    ((c.receive buffer w).failure = none ∧
        ∀ event ∈ (c.receive buffer w).events, ∀ reason, ¬c.Fails event reason) ∨
      ∃ reason before event log, (c.receive buffer w).failure = some reason ∧
        (c.receive buffer w).events = before ++ event :: logged log ∧
        (∀ earlier ∈ before, ∀ reason, ¬c.Fails earlier reason) ∧ c.Fails event reason := by
  rw [receive]
  split
  · exact .inr ⟨_, [], _, [], rfl, rfl, List.forall_mem_nil _, .unavailable _⟩
  · exact .inr ⟨_, [], _, [], rfl, rfl, List.forall_mem_nil _, .exhausted⟩
  · rename_i available w' hpositive _
    have hasked : ∀ reason, ¬c.Fails (.bytesAvailable c.stream (.ok available)) reason := by
      intro reason hfails
      cases hfails
      exact hpositive rfl
    dsimp only
    split
    · rename_i e _ _
      by_cases htransient : e.isTransient = true
      · rw [if_pos htransient]
        refine .inl ⟨rfl, List.forall_mem_cons.2 ⟨hasked,
          List.forall_mem_singleton.2 fun reason hfails ↦ ?_⟩⟩
        cases hfails with
        | unreadable _ _ hlasting => cases htransient.symm.trans hlasting
      · rw [if_neg htransient]
        exact .inr ⟨_, [_], _, [], rfl, rfl, List.forall_mem_singleton.2 hasked,
          .unreadable _ _ (Bool.eq_false_iff.2 htransient)⟩
    · exact .inr ⟨_, [_], _, [], rfl, rfl, List.forall_mem_singleton.2 hasked, .ended _⟩
    · rename_i bytes w'' hne hread
      have hle : bytes.length ≤ (resize available buffer).length := by
        rw [length_resize]
        exact Network.read_le c.stream available w' bytes (congrArg Prod.fst hread)
      rw [take_overwrite hle]
      cases herror : (c.assembler.push bytes).1.error with
      | none =>
        refine .inl ⟨rfl, ?_⟩
        refine List.forall_mem_cons.2 ⟨hasked, List.forall_mem_singleton.2 fun reason hfails ↦ ?_⟩
        cases hfails with
        | ended => exact hne rfl
        | malformed _ _ e hsome => cases herror.symm.trans hsome
      | some e =>
        exact .inr ⟨_, [_], _, [_], rfl, rfl, List.forall_mem_singleton.2 hasked,
          .malformed _ _ e herror⟩

/-! ## What the hook is told -/

/-- What the hook is told of a connection by an event. -/
def Event.told? (id : ConnectionId) : Event σ → Option DropReason
  | hook source reason => if source = id then some reason else none
  | _ => none

/-- What the hook is told of a connection, in order. -/
def toldOf (id : ConnectionId) (events : List (Event σ)) : List DropReason :=
  events.filterMap (Event.told? id)

section Told

variable {id : ConnectionId} {reason : DropReason} {events : List (Event σ)}

theorem toldOf_append (first second : List (Event σ)) :
    toldOf id (first ++ second) = toldOf id first ++ toldOf id second :=
  List.filterMap_append

theorem mem_toldOf : reason ∈ toldOf id events ↔ .hook id reason ∈ events := by
  constructor
  · intro h
    obtain ⟨event, hevent, htold⟩ := List.mem_filterMap.1 h
    cases event with
    | hook source r =>
      rw [Event.told?] at htold
      split at htold
      · rename_i hsource
        cases htold
        rwa [← hsource]
      · cases htold
    | _ => cases htold
  · exact fun h ↦ List.mem_filterMap.2 ⟨_, h, if_pos rfl⟩

/-- What the hook is told of a connection is about it. -/
theorem toldOf_about [Network W σ] (id : ConnectionId) (events : List (Event σ)) :
    toldOf id (about W id events) = toldOf id events := by
  rw [toldOf, about, List.filterMap_filter]
  refine List.filterMap_congr fun event _ ↦ ?_
  by_cases hsubject : event.subject? W = some id
  · rw [if_pos (decide_eq_true hsubject)]
  · rw [if_neg (by simpa using hsubject)]
    cases event with
    | hook source reason => exact (if_neg fun hsource ↦ hsubject (congrArg some hsource)).symm
    | _ => rfl

theorem Core.toldOf_reportDrop (core : Core σ) (id : ConnectionId) (reason : DropReason) :
    toldOf id (core.reportDrop id reason) = if core.hasHook then [reason] else [] := by
  rw [reportDrop]
  cases core.hasHook with
  | false => rfl
  | true =>
    have htold : Event.told? id (.hook id reason : Event σ) = some reason := if_pos rfl
    rw [if_pos rfl, if_pos rfl, toldOf, List.filterMap_cons_none rfl,
      List.filterMap_cons_some htold, List.filterMap_nil]

/-- The hook is not told of reads. -/
theorem Connection.Reads.toldOf_eq_nil {c : Connection σ} {got : Reception W σ} (h : c.Reads got)
    (id : ConnectionId) : toldOf id got.events = [] := by
  refine List.filterMap_eq_nil_iff.2 ?_
  cases h with
  | unavailable => exact List.forall_mem_singleton.2 rfl
  | unreadable | notYet => exact List.forall_mem_cons.2 ⟨rfl, List.forall_mem_singleton.2 rfl⟩
  | data n bytes log =>
    refine List.forall_mem_append.2
      ⟨List.forall_mem_cons.2 ⟨rfl, List.forall_mem_singleton.2 rfl⟩, fun event hevent ↦ ?_⟩
    obtain ⟨entry, -, rfl⟩ := List.mem_map.1 hevent
    rfl

theorem Core.toldOf_receipt (core : Core σ) {c : Connection σ} {got : Reception W σ}
    (h : c.Reads got) (id : ConnectionId) : toldOf id (core.receipt id got) =
      match got.failure with
      | none => []
      | some reason => if core.hasHook then [reason] else [] := by
  have hframes : toldOf id
      (got.frames.map (.frame id · (core.filter.decision id)) : List (Event σ)) = [] := by
    refine List.filterMap_eq_nil_iff.2 fun event hevent ↦ ?_
    obtain ⟨payload, -, rfl⟩ := List.mem_map.1 hevent
    rfl
  rw [receipt, toldOf_append, toldOf_append, h.toldOf_eq_nil, hframes]
  cases got.failure with
  | none => rfl
  | some reason => exact core.toldOf_reportDrop id reason

/-- The receipt of a reading fails with its last answer only, or with none. -/
theorem Core.receipt_fails [Network W σ] (core : Core σ) (id : ConnectionId) (c : Connection σ)
    (buffer : Bytes) (w : W) :
    ((c.receive buffer w).failure = none ∧
        (∀ event ∈ core.receipt id (c.receive buffer w), ∀ reason, ¬c.Fails event reason) ∧
        toldOf id (core.receipt id (c.receive buffer w)) = []) ∨
      ∃ reason before event after, (c.receive buffer w).failure = some reason ∧
        core.receipt id (c.receive buffer w) = before ++ event :: after ∧
        (∀ earlier ∈ before, ∀ r, ¬c.Fails earlier r) ∧ c.Fails event reason ∧
        (∀ later ∈ after, later.Within []) ∧
        toldOf id (core.receipt id (c.receive buffer w))
          = if core.hasHook then [reason] else [] := by
  have htold := core.toldOf_receipt (c.reads_receive buffer w) id
  rcases c.receive_fails buffer w with ⟨hnone, hsound⟩ |
    ⟨reason, before, event, log, hsome, hevents, hbefore, hfails⟩
  · rw [hnone] at htold
    refine .inl ⟨hnone, ?_, htold⟩
    -- Besides the reads there are frames only.
    rw [Core.receipt, hnone, List.append_nil]
    refine List.forall_mem_append.2 ⟨hsound, fun event hevent reason hfails ↦ ?_⟩
    obtain ⟨payload, -, rfl⟩ := List.mem_map.1 hevent
    cases hfails
  · rw [hsome] at htold
    obtain ⟨rest, hreceipt, hrest⟩ := core.exists_receipt_eq id (c.receive buffer w)
    refine .inr ⟨reason, before, event, logged log ++ rest, hsome, ?_, hbefore, hfails,
      List.forall_mem_append.2 ⟨within_logged [] log, hrest []⟩, htold⟩
    rw [hreceipt, hevents, List.append_assoc, List.cons_append]

end Told

/-! ## Endings -/

/-- Whether a call reads or writes. -/
def Call.IsTransfer : Call σ → Prop
  | .poll | .sendRtp _ | .sendRtcp _ => True
  | _ => False

/-- Whether there is a hook. There is none before creation. -/
def Lifecycle.hasHook : Lifecycle σ → Bool
  | created core => core.hasHook
  | _ => false

theorem Call.IsTransfer.not_quiet {call : Call σ} (h : call.IsTransfer) :
    ¬call.IsQuiet ∧ call ≠ .destroy := by
  cases call with
  | poll | sendRtp payload | sendRtcp payload => exact ⟨id, nofun⟩
  | _ => exact h.elim

/-- A call in which a connection fails. After the first failing answer no use is made of its stream,
and the hook is told once, if there is one. -/
structure Failure (hasHook : Bool) (id : ConnectionId) (c : Connection σ) (p : Performed σ)
    (reason : DropReason) : Prop where
  call : p.call.IsTransfer
  last : ∃ before event after, p.events = before ++ event :: after ∧
    (∀ earlier ∈ before, ∀ r, ¬c.Fails earlier r) ∧ c.Fails event reason ∧
    ∀ later ∈ after, ¬later.Uses c.stream
  told : toldOf id p.events = if hasHook then [reason] else []

/-- How a call ends a registration. -/
inductive Ending (hasHook : Bool) (id : ConnectionId) (c : Connection σ) (p : Performed σ) : Prop
  /-- The stream is asked back, and returned. -/
  | returned (hcall : p.call = .deleteDestination id) (hresult : p.result = .ok (.stream c.stream))
    (huntold : toldOf id p.events = [])
  /-- All streams are dropped. -/
  | cleared (hcall : p.call = .clearDestinations) (huntold : toldOf id p.events = [])
  /-- The engine is destroyed. -/
  | destroyed (hcall : p.call = .destroy) (huntold : toldOf id p.events = [])
  /-- The stream fails. -/
  | failed (reason : DropReason) (hfailure : Failure hasHook id c p reason)

/-- A call that does nothing that would end a registration. -/
structure Survives (id : ConnectionId) (c : Connection σ) (p : Performed σ) : Prop where
  call : p.call ≠ .deleteDestination id ∧ p.call ≠ .clearDestinations ∧ p.call ≠ .destroy
  sound : ∀ event ∈ p.events, ∀ reason, ¬c.Fails event reason
  untold : toldOf id p.events = []

section Calls

variable [Network W σ] {id : ConnectionId} {c : Connection σ} {p : Performed σ}

/-- A connection survives if nothing is said of it that ends its registration. -/
theorem Survives.of_about (said : List (Event σ)) (hkey : Network.id W c.stream = id)
    (hcall : p.call ≠ .deleteDestination id ∧ p.call ≠ .clearDestinations ∧ p.call ≠ .destroy)
    (habout : about W id p.events = about W id said)
    (hsound : ∀ event ∈ said, ∀ reason, ¬c.Fails event reason) (htold : toldOf id said = []) :
    Survives id c p where
  call := hcall
  sound event hevent reason hfails := by
    have hmem : event ∈ about W id p.events :=
      List.mem_filter.2 ⟨hevent, decide_eq_true (hkey ▸ hfails.subject?)⟩
    rw [habout] at hmem
    exact hsound event (List.mem_of_mem_filter hmem) reason hfails
  untold := by rw [← toldOf_about (W := W), habout, toldOf_about, htold]

/-- A history can be split where what it says of a connection can. -/
theorem exists_append_of_about {events before after : List (Event σ)} {event : Event σ}
    (habout : about W id events = about W id (before ++ event :: after))
    (hsubject : event.subject? W = some id) : ∃ past later, events = past ++ event :: later ∧
      about W id past = about W id before ∧ about W id later = about W id after := by
  have hsaid : about W id events = about W id before ++ event :: about W id after := by
    rw [habout, about_append]
    exact congrArg _ (List.filter_cons_of_pos (decide_eq_true hsubject))
  obtain ⟨past, rest, hevents, hpast, hrest⟩ := List.filter_eq_append_iff.1 hsaid
  obtain ⟨between, later, rfl, hbetween, -, hlater⟩ := List.filter_eq_cons_iff.1 hrest
  refine ⟨past ++ between, later, ?_, ?_, hlater⟩
  · rw [hevents, List.append_assoc]
  · have hnone : about W id between = [] := List.filter_eq_nil_iff.2 hbetween
    rw [about_append, hnone, List.append_nil]
    exact hpast

/-- A connection fails if that is what is said of it, and if the poller is not asked in between. -/
theorem Failure.of_about {hasHook : Bool} {reason : DropReason} {streams : List σ}
    (before : List (Event σ)) {after : List (Event σ)} {event : Event σ}
    (hkey : Network.id W c.stream = id) (hcall : p.call.IsTransfer)
    (htail : ∀ event ∈ p.events.tail, event.Within streams)
    (habout : about W id p.events = about W id (before ++ event :: after))
    (hbefore : ∀ earlier ∈ before, ∀ r, ¬c.Fails earlier r) (hfails : c.Fails event reason)
    (hafter : ∀ later ∈ after, later.Within [])
    (htold : toldOf id (before ++ event :: after) = if hasHook then [reason] else []) :
    Failure hasHook id c p reason where
  call := hcall
  last := by
    have hsaid : ∀ {event r events}, c.Fails event r → event ∈ events →
        event ∈ about W id events :=
      fun h hmem ↦ List.mem_filter.2 ⟨hmem, decide_eq_true (hkey ▸ h.subject?)⟩
    obtain ⟨past, later, hevents, hpast, hlater⟩ := exists_append_of_about habout
      (hkey ▸ hfails.subject?)
    refine ⟨past, event, later, hevents, fun earlier hearlier r h ↦ ?_, hfails,
      fun use huse huses ↦ ?_⟩
    · have hmem : earlier ∈ about W id before := hpast ▸ hsaid h hearlier
      exact hbefore earlier (List.mem_of_mem_filter hmem) r h
    have hlate : use ∈ p.events.tail := by
      rw [hevents]
      cases past with
      | nil => exact huse
      | cons => exact List.mem_append_right _ (List.mem_cons_of_mem _ huse)
    -- A question to the stream would be about the connection.
    have hquestion : use.subject? W = some id → False := fun hsame ↦ by
      have hmem : use ∈ about W id later := List.mem_filter.2 ⟨huse, decide_eq_true hsame⟩
      rw [hlater] at hmem
      have hnone := usesOnly_of_within hafter use (List.mem_of_mem_filter hmem) c.stream huses
      cases hnone
    have hwithin := htail use hlate
    cases use with
    | bytesAvailable s | read s | write s =>
      obtain rfl : s = c.stream := huses
      exact hquestion (congrArg some hkey)
    | waitReady => exact hwithin
    | _ => exact huses
  told := by rw [← toldOf_about (W := W), habout, toldOf_about, htold]

end Calls

namespace Scene

variable [Network W σ] {scene : Scene W σ} {core : Core σ} {id : ConnectionId} {c : Connection σ}
  {call : Call σ}

/-- A call that reads or writes asks the poller first if at all. -/
theorem within_tail_perform (hcreated : scene.engine.lifecycle = .created core)
    (hcall : call.IsTransfer) :
    ∀ event ∈ (scene.performed call).events.tail, event.Within core.streams := by
  obtain ⟨hquiet, hstays⟩ := hcall.not_quiet
  rw [performed, scene.perform_eq_respond hcreated hquiet hstays]
  cases call with
  | poll => exact (core.uses_poll scene.world).2
  | sendRtp payload | sendRtcp payload =>
    exact fun event hevent ↦
      core.within_send payload scene.world event (List.mem_of_mem_tail hevent)
  | _ => exact hcall.elim

/-- Three calls leave nothing registered under an identity. -/
theorem notMem_ids_of_leave (hcreated : scene.engine.lifecycle = .created core)
    (hcall : call = .deleteDestination id ∨ call = .clearDestinations ∨ call = .destroy) :
    id ∉ (scene.perform call).scene.engine.lifecycle.ids := by
  rcases hcall with rfl | rfl | rfl
  · have hquiet : ¬(Call.deleteDestination id : Call σ).IsQuiet := fun h ↦ h
    rw [scene.perform_eq_respond hcreated hquiet nofun]
    intro hid
    obtain ⟨e, he, hkey⟩ := List.mem_map.1 hid
    change e ∈ (core.deleteDestination id scene.world).core.destinations.toList at he
    rw [core.toList_deleteDestination] at he
    exact of_decide_eq_true (List.mem_filter.1 he).2 hkey
  · have hquiet : ¬(Call.clearDestinations : Call σ).IsQuiet := fun h ↦ h
    rw [scene.perform_eq_respond hcreated hquiet nofun]
    exact List.not_mem_nil
  · have hgone : (scene.perform .destroy).scene.engine.lifecycle = .uninitialized :=
      scene.lifecycle_destroy
    rw [hgone]
    exact List.not_mem_nil

end Scene

/-- A stream that is asked back is returned. -/
theorem Core.result_deleteDestination {core : Core σ} {id : ConnectionId} {c : Connection σ}
    (hc : (id, c) ∈ core.destinations.toList) (w : W) :
    (core.deleteDestination id w).result = .ok c.stream := by
  obtain ⟨removed, destinations, hremove, hget, -⟩ :=
    Registry.remove_of_mem (List.mem_map_of_mem hc : id ∈ core.destinations.keys)
  obtain ⟨i, hi⟩ := Registry.mem_toList.1 hc
  rw [Registry.get?_eq, Registry.find?_toList hi] at hget
  cases hget
  rw [deleteDestination, hremove]
  rfl

namespace Scene

variable [Network W σ] {scene : Scene W σ} {core : Core σ} {id : ConnectionId} {c : Connection σ}

theorem result_deleteDestination (hcreated : scene.engine.lifecycle = .created core)
    (hc : (id, c) ∈ core.destinations.toList) :
    (scene.performed (.deleteDestination id)).result = .ok (.stream c.stream) := by
  have hquiet : ¬(Call.deleteDestination id : Call σ).IsQuiet := fun h ↦ h
  rw [performed, scene.perform_eq_respond hcreated hquiet (fun h ↦ by cases h), Core.respond,
    CoreOutcome.map, Core.result_deleteDestination hc]
  rfl

/-- One call lets a registered connection survive, or ends its registration. -/
theorem perform_survives_or_ends (hcreated : scene.engine.lifecycle = .created core)
    (hkeyed : Keyed W core.destinations.toList) (hc : (id, c) ∈ core.destinations.toList)
    (call : Call σ) :
    (Survives id c (scene.performed call) ∧ ∃ c', c'.stream = c.stream ∧
        (id, c') ∈ (scene.perform call).scene.engine.lifecycle.entries) ∨
      Ending core.hasHook id c (scene.performed call) ∧
        id ∉ (scene.perform call).scene.engine.lifecycle.ids := by
  have hkey : Network.id W c.stream = id := hkeyed _ hc
  obtain ⟨kept, hepisode, hkept⟩ := scene.perform_episode hcreated hkeyed hc call
  -- Whoever is registered afterwards has not been asked to leave.
  have hcall : ∀ {c'}, kept = some c' →
      call ≠ .deleteDestination id ∧ call ≠ .clearDestinations ∧ call ≠ .destroy := by
    intro c' hc'
    have hid := hkept.mem_keys_iff.2 (hc' ▸ rfl)
    exact ⟨fun h ↦ notMem_ids_of_leave hcreated (.inl h) hid,
      fun h ↦ notMem_ids_of_leave hcreated (.inr (.inl h)) hid,
      fun h ↦ notMem_ids_of_leave hcreated (.inr (.inr h)) hid⟩
  have hgone : kept = none → id ∉ (scene.perform call).scene.engine.lifecycle.ids := by
    rintro rfl
    exact enrolled_none_iff.1 hkept
  have hnothing : about W id (scene.performed call).events = [] →
      ∀ {c'}, kept = some c' → Survives id c (scene.performed call) :=
    fun habout _ hc' ↦ .of_about [] hkey (hcall hc') habout (List.forall_mem_nil _) rfl
  cases hepisode with
  | rest habout => exact .inl ⟨hnothing habout rfl, c, rfl, (hkept c).2 rfl⟩
  | relimit size _ habout =>
    exact .inl ⟨hnothing habout rfl, { c with assembler := c.assembler.setLimit size }, rfl,
      (hkept _).2 rfl⟩
  | leave hleave habout =>
    have huntold : toldOf id (scene.performed call).events = [] := by
      rw [← toldOf_about (W := W), habout]
      rfl
    refine .inr ⟨?_, hgone rfl⟩
    rcases hleave with rfl | rfl | rfl
    · exact .returned rfl (result_deleteDestination hcreated hc) huntold
    · exact .cleared rfl huntold
    · exact .destroyed rfl huntold
  | receive hpoll buffer w habout =>
    rcases core.receipt_fails id c buffer w with ⟨hnone, hsound, huntold⟩ |
      ⟨reason, before, event, after, hsome, hsaid, hbefore, hfails, hafter, htold⟩
    · rw [Connection.afterReading, hnone] at hkept hcall
      exact .inl ⟨.of_about _ hkey (hcall rfl) habout hsound huntold,
        { c with assembler := (c.receive buffer w).assembler }, rfl, (hkept _).2 rfl⟩
    · rw [Connection.afterReading, hsome] at hgone
      rw [hsaid] at habout htold
      have htransfer : call.IsTransfer := by
        cases hpoll
        trivial
      have htail := within_tail_perform hcreated htransfer
      exact .inr ⟨.failed reason
        (.of_about before hkey htransfer htail habout hbefore hfails hafter htold), hgone rfl⟩
  | write payload hsend hle habout =>
    refine .inl ⟨.of_about _ hkey (hcall rfl) habout ?_ rfl, c, rfl, (hkept c).2 rfl⟩
    refine List.forall_mem_singleton.2 fun reason hfails ↦ ?_
    cases hfails
  | lose payload hsend e habout =>
    have htransfer : call.IsTransfer := by
      rcases hsend with rfl | rfl <;> trivial
    have htail := within_tail_perform hcreated htransfer
    exact .inr ⟨.failed (.send e.duplicate) (Failure.of_about [] hkey htransfer htail habout
      (List.forall_mem_nil _) (.unwritten _ e) (core.within_reportDrop [] id _)
      (core.toldOf_reportDrop id _)), hgone rfl⟩

/-- The hook is told of a registered connection that fails, and of nothing else. -/
theorem perform_told (hkeyed : Keyed W scene.engine.lifecycle.entries) {call : Call σ}
    {reason : DropReason} (htold : .hook id reason ∈ (scene.performed call).events) :
    ∃ c, (id, c) ∈ scene.engine.lifecycle.entries ∧
      Failure scene.engine.lifecycle.hasHook id c (scene.performed call) reason ∧
      id ∉ (scene.perform call).scene.engine.lifecycle.ids := by
  have habout : .hook id reason ∈ about W id (scene.performed call).events :=
    List.mem_filter.2 ⟨htold, decide_eq_true rfl⟩
  have hreason : reason ∈ toldOf id (scene.performed call).events := mem_toldOf.2 htold
  obtain ⟨core, hcreated⟩ | hidle := scene.engine.lifecycle.created_or_idle
  · rw [hcreated] at hkeyed ⊢
    by_cases hid : id ∈ core.destinations.keys
    · obtain ⟨⟨_, c⟩, hc, rfl⟩ := List.mem_map.1 hid
      refine ⟨c, hc, ?_⟩
      rcases perform_survives_or_ends hcreated hkeyed hc call with ⟨hsurvives, -⟩ | ⟨hending, hgone⟩
      · rw [hsurvives.untold] at hreason
        cases hreason
      · refine ⟨?_, hgone⟩
        cases hending with
        | returned _ _ huntold | cleared _ huntold | destroyed _ huntold =>
          rw [huntold] at hreason
          cases hreason
        | failed told hfailure =>
          rw [hfailure.told] at hreason
          split at hreason
          · rwa [List.mem_singleton.1 hreason]
          · cases hreason
    · obtain ⟨stream, answer, hoffered⟩ :=
        scene.about_perform_of_notMem hcreated hkeyed hid call [] _ habout
      cases hoffered
  · cases (scene.perform_impersonal_of_idle hidle call).about_eq_nil id ▸ habout

end Scene

/-! ## The course of a registration -/

/-- The course of a registration along a run. It lasts, or one call ends it. After that nothing is
registered under its identity, and its stream is not used again unless it is offered again. -/
inductive Course (W : Type) [Network W σ] (id : ConnectionId) (stream : σ) :
    Scene W σ → List (Call σ) → Prop
  | lasts {scene : Scene W σ} (c : Connection σ) (hc : (id, c) ∈ scene.engine.lifecycle.entries)
    (hstream : c.stream = stream) : Course W id stream scene []
  | goesOn {scene : Scene W σ} {call : Call σ} {calls : List (Call σ)} (c : Connection σ)
    (hc : (id, c) ∈ scene.engine.lifecycle.entries) (hstream : c.stream = stream)
    (hsurvives : Survives id c (scene.performed call))
    (hcourse : Course W id stream (scene.perform call).scene calls) :
    Course W id stream scene (call :: calls)
  | ends {scene : Scene W σ} {call : Call σ} {calls : List (Call σ)} (c : Connection σ)
    (hc : (id, c) ∈ scene.engine.lifecycle.entries) (hstream : c.stream = stream)
    (hending : Ending scene.engine.lifecycle.hasHook id c (scene.performed call))
    (hgone : id ∉ (scene.perform call).scene.engine.lifecycle.ids)
    (hunused : .addDestination stream ∉ calls →
      ∀ p ∈ ((scene.perform call).scene.run calls).1, ∀ event ∈ p.events, ¬event.Uses stream) :
    Course W id stream scene (call :: calls)

namespace Scene

variable [Network W σ] {scene : Scene W σ} {id : ConnectionId} {c : Connection σ}

/-- Every registration has a course, whatever calls are made. -/
theorem course (hkeyed : Keyed W scene.engine.lifecycle.entries)
    (hc : (id, c) ∈ scene.engine.lifecycle.entries) (calls : List (Call σ)) :
    Course W id c.stream scene calls := by
  induction calls generalizing scene c with
  | nil => exact .lasts c hc rfl
  | cons call calls ih =>
    have hlater := (scene.perform_effect hkeyed call).keyed hkeyed
    obtain ⟨core, hcreated⟩ : ∃ core, scene.engine.lifecycle = .created core := by
      cases hstage : scene.engine.lifecycle with
      | created core => exact ⟨core, rfl⟩
      | _ =>
        rw [hstage] at hc
        cases hc
    have hkeyedCore : Keyed W core.destinations.toList := by
      rw [hcreated] at hkeyed
      exact hkeyed
    have hcCore : (id, c) ∈ core.destinations.toList := by
      rw [hcreated] at hc
      exact hc
    rcases perform_survives_or_ends hcreated hkeyedCore hcCore call with
      ⟨hsurvives, c', hstream, hc'⟩ | ⟨hending, hgone⟩
    · exact .goesOn c hc rfl hsurvives (hstream ▸ ih hlater hc')
    · have habsent : c.stream ∉ (scene.perform call).scene.engine.lifecycle.streams := by
        -- It would be registered under its own identity.
        intro hmem
        obtain ⟨e, he, hsame⟩ := List.mem_map.1 hmem
        refine hgone (List.mem_map.2 ⟨e, he, ?_⟩)
        rw [← hlater e he, hsame]
        exact hkeyed _ hc
      refine .ends c hc rfl ?_ hgone fun hcalls ↦ unused_run hlater habsent calls hcalls
      rw [hcreated]
      exact hending

/-! ## The main result -/

/-- A stream that is accepted is registered under its own identity. -/
theorem mem_entries_of_accepted {stream : σ}
    (h : (scene.performed (.addDestination stream)).result = .ok (.id id)) :
    ∃ c, c.stream = stream ∧
      (id, c) ∈ (scene.perform (.addDestination stream)).scene.engine.lifecycle.entries := by
  obtain ⟨⟨lifecycle, ownAbort, activeAbort, threadSafe, waiting⟩, channels, world⟩ := scene
  cases lifecycle with
  | created core =>
    change (core.addDestination stream world).result.map Reply.id = .ok (.id id) at h
    change ∃ c, _ ∧ (id, c) ∈ (core.addDestination stream world).core.destinations.toList
    by_cases hid : Network.id W stream ∈ core.destinations.keys
    · rw [core.addDestination_of_mem hid] at h
      cases h
    cases hasked : Network.bytesAvailable stream world with
    | mk answer w' =>
      cases answer with
      | error e =>
        rw [core.addDestination_of_error hid hasked] at h
        cases h
      | ok n =>
        obtain ⟨destinations, hlist, hadd⟩ := core.addDestination_of_ok hid hasked
        rw [hadd] at h ⊢
        cases h
        refine ⟨⟨stream, .ofLimit core.maxPacketSize⟩, rfl, ?_⟩
        rw [hlist]
        exact List.mem_append_right _ (List.mem_singleton_self _)
  | uninitialized | initialized => cases h

/-- What a call gives up on its own is reported right before. -/
theorem perform_announces {core : Core σ} (hcreated : scene.engine.lifecycle = .created core)
    {call : Call σ} (hcall : call.IsTransfer) :
    (scene.perform call).scene.engine.lifecycle.ids = core.destinations.keys ∨
      core.Announces (core.moments scene.world call)
        (scene.perform call).scene.engine.lifecycle.ids (scene.performed call).events := by
  obtain ⟨hquiet, hstays⟩ := hcall.not_quiet
  rw [performed, scene.perform_eq_respond hcreated hquiet hstays]
  cases call with
  | poll =>
    refine (core.announces_poll scene.world).imp_left fun hnone ↦ ?_
    exact congrArg (·.destinations.keys) hnone.2
  | sendRtp payload | sendRtcp payload =>
    refine (core.announces_send payload scene.world).imp_left fun hnone ↦ ?_
    exact congrArg (·.destinations.keys) hnone.2
  | _ => exact hcall.elim

theorem ids_of_destinations {ids : List ConnectionId}
    (h : (scene.performed .destinations).result = .ok (.ids ids)) :
    ids = scene.engine.lifecycle.ids := by
  obtain ⟨⟨lifecycle, ownAbort, activeAbort, threadSafe, waiting⟩, channels, world⟩ := scene
  cases lifecycle with
  | created core =>
    cases h
    rfl
  | uninitialized | initialized => cases h

/-- **Every registration ends once.** Let a new engine answer any calls, and look at it then.

A stream that it accepts has a course, whatever calls follow: it stays registered until it is asked
back and returned, until all are dropped, or until it fails in a call that reads or writes. If it
fails, the hook is told once, and from the failing answer on the stream is not used any more. The
hook is told of nothing else.

A call that reads or writes gives up an identity only right after the report, as the moments of its
walk show. The identities that can be listed are distinct and in the order of registration. -/
theorem registrations_end_once (channels : List AbortChannel) (w : W) (calls : List (Call σ)) :
    let history := ((⟨.new, channels, w⟩ : Scene W σ).run calls).1
    let scene := ((⟨.new, channels, w⟩ : Scene W σ).run calls).2
    (∀ stream id, (scene.performed (.addDestination stream)).result = .ok (.id id) →
        ∀ later, Course W id stream (scene.perform (.addDestination stream)).scene later) ∧
      (∀ call id reason, .hook id reason ∈ (scene.performed call).events →
        ∃ c, (id, c) ∈ scene.engine.lifecycle.entries ∧
          Failure scene.engine.lifecycle.hasHook id c (scene.performed call) reason ∧
          id ∉ (scene.perform call).scene.engine.lifecycle.ids) ∧
      (∀ core, scene.engine.lifecycle = .created core → ∀ call, call.IsTransfer →
        (scene.perform call).scene.engine.lifecycle.ids = core.destinations.keys ∨
          core.Announces (core.moments scene.world call)
            (scene.perform call).scene.engine.lifecycle.ids (scene.performed call).events) ∧
      (∀ ids, (scene.performed .destinations).result = .ok (.ids ids) →
        ids = scene.engine.lifecycle.ids) ∧
      scene.engine.lifecycle.ids.Nodup ∧ InOrder history scene.engine.lifecycle.ids := by
  intro history scene
  obtain ⟨hkeyed, -⟩ : Keyed W scene.engine.lifecycle.entries ∧ _ :=
    standing_run (⟨.new, channels, w⟩ : Scene W σ) calls 0 (List.forall_mem_nil _) nofun
  refine ⟨fun stream id haccepted later ↦ ?_, fun call id reason ↦ perform_told hkeyed,
    fun core hcreated call ↦ perform_announces hcreated, fun ids ↦ ids_of_destinations,
    scene.engine.lifecycle.nodup_entries, ?_⟩
  · obtain ⟨c, rfl, hc⟩ := mem_entries_of_accepted haccepted
    exact course ((scene.perform_effect hkeyed _).keyed hkeyed) hc later
  · have hnone : InOrder ([] : List (Performed σ)) [] :=
      ⟨[], rfl, .nil, List.forall_mem_nil _⟩
    exact (⟨.new, channels, w⟩ : Scene W σ).inOrder_run hnone calls

/-- A stream whose first write fails. -/
def lossyWorld : Scripted.World :=
  ⟨[("peer", ⟨[], false, [some (.bare .brokenPipe)], none⟩)], []⟩

/-- The calls that set up an engine with a hook. -/
def hookedCalls : List (Call Scripted.Stream) := [.init false, .create 4 ⟨none, true, .acceptAll⟩]

/-- A stream is accepted, fails at the first write, is reported once, and is gone. -/
theorem registrations_end_once_lossyWorld :
    let start := ((⟨.new, [], lossyWorld⟩ : Scene Scripted.World Scripted.Stream).run hookedCalls).2
    let added := (start.perform (.addDestination ⟨"peer", ⟨7⟩⟩)).scene
    let reason := DropReason.send (IoError.bare .brokenPipe).duplicate
    Course Scripted.World ⟨7⟩ ⟨"peer", ⟨7⟩⟩ added [.sendRtp [1], .poll, .sendRtp [2]] ∧
      added.engine.lifecycle.ids = [⟨7⟩] ∧
      toldOf ⟨7⟩ (added.performed (.sendRtp [1])).events = [reason] ∧
      (∃ c, Failure true ⟨7⟩ c (added.performed (.sendRtp [1])) reason) ∧
      (added.perform (.sendRtp [1])).scene.engine.lifecycle.ids = [] ∧
      ∃ core, added.engine.lifecycle = .created core ∧
        core.Announces (core.moments added.world (.sendRtp [1]))
          (added.perform (.sendRtp [1])).scene.engine.lifecycle.ids
          (added.performed (.sendRtp [1])).events := by
  intro start added reason
  obtain ⟨hcourse, -⟩ := registrations_end_once [] lossyWorld hookedCalls
  obtain ⟨-, htold, hannounces, -⟩ :=
    registrations_end_once [] lossyWorld (hookedCalls ++ [.addDestination ⟨"peer", ⟨7⟩⟩])
  have hthere : added.engine.lifecycle.ids = [⟨7⟩] := by decide +kernel
  have hgone : (added.perform (.sendRtp [1])).scene.engine.lifecycle.ids = [] := by decide +kernel
  have hreason : toldOf ⟨7⟩ (added.performed (.sendRtp [1])).events = [reason] := by
    decide +kernel
  obtain ⟨c, -, hfailure, -⟩ := htold (.sendRtp [1]) ⟨7⟩ reason
    (mem_toldOf.1 (hreason ▸ List.mem_singleton_self _))
  obtain ⟨core, hcreated⟩ : ∃ core, added.engine.lifecycle = .created core := ⟨_, rfl⟩
  refine ⟨hcourse _ _ rfl _, hthere, hreason, ⟨c, hfailure⟩, hgone, core, hcreated, ?_⟩
  refine (hannounces core hcreated (.sendRtp [1]) trivial).resolve_left fun hsame ↦ ?_
  rw [hcreated] at hthere
  cases hgone.symm.trans (hsame.trans hthere)

end Scene

end StreamRtp
