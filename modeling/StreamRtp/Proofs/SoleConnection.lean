import StreamRtp.Proofs.EndToEnd
import StreamRtp.Proofs.ReceiveLoop
import StreamRtp.Proofs.ReceiveTour

/-!
# An engine with one connection

Where there is one connection only, everything that is read is read there, and everything that is
written is written there. A receive pass gives the assembler what it has read and queues the frames;
afterwards the connection is as it was but for the assembler, or it was given up, and then a report
says why. `Core.Hears` states this without flags, stops and buffers. What a fan-out does is said by
`Dispatch`.

A history is `Undisturbed` if no wait, no read and no write has failed in it. The other side may
have ended the connection, and a length may have been refused: these are no failures of the stream,
so where they cannot happen, or when, has to be shown.
-/

namespace StreamRtp

variable {W σ : Type}

/-! ## Histories -/

/-- All bytes that a history has read. -/
def incoming (events : List (Event σ)) : Bytes := events.flatMap Event.bytesRead

/-- No wait has failed, and no connection was given up because a read or a write has failed. -/
structure Undisturbed (events : List (Event σ)) : Prop where
  waits : outages events = []
  droppings : ∀ d ∈ droppings events, d.2 = .closed ∨ ∃ e, d.2 = .assembly e

section Histories

variable (first second : List (Event σ))

theorem incoming_append : incoming (first ++ second) = incoming first ++ incoming second :=
  List.flatMap_append

theorem droppings_append : droppings (first ++ second) = droppings first ++ droppings second := by
  rw [droppings, milestones_append, List.filterMap_append]
  rfl

variable {first second}

theorem Undisturbed.left (h : Undisturbed (first ++ second)) : Undisturbed first where
  waits := by
    have hwaits := h.waits
    rw [outages_append] at hwaits
    exact (List.append_eq_nil_iff.1 hwaits).1
  droppings d hd := h.droppings d (by rw [droppings_append]; exact List.mem_append_left _ hd)

theorem Undisturbed.right (h : Undisturbed (first ++ second)) : Undisturbed second where
  waits := by
    have hwaits := h.waits
    rw [outages_append] at hwaits
    exact (List.append_eq_nil_iff.1 hwaits).2
  droppings d hd := h.droppings d (by rw [droppings_append]; exact List.mem_append_right _ hd)

/-- Of a connection that was given up because of a failed write more is said than an undisturbed
history says. -/
theorem Undisturbed.not_send {events : List (Event σ)} (h : Undisturbed events)
    {id : ConnectionId} {cause : IoError} (hmem : (id, .send cause) ∈ StreamRtp.droppings events) :
    False := by
  rcases h.droppings _ hmem with hclosed | ⟨e, he⟩
  · cases hclosed
  · cases he

end Histories

/-- A history that is about no connection reads nothing. -/
theorem Impersonal.incoming_eq_nil [Network W σ] {events : List (Event σ)}
    (h : Impersonal W events) : incoming events = [] := by
  refine List.flatMap_eq_nil_iff.2 fun event hevent ↦ ?_
  have hnobody := h event hevent
  cases event with
  | read s want answer => cases hnobody
  | _ => rfl

/-- A history that is about no connection gives none up. -/
theorem Impersonal.droppings_eq_nil [Network W σ] {events : List (Event σ)}
    (h : Impersonal W events) : droppings events = [] := by
  rw [droppings, milestones, List.filterMap_filterMap]
  refine List.filterMap_eq_nil_iff.2 fun event hevent ↦ ?_
  have hnobody := h event hevent
  cases event with
  | log entry =>
    cases entry with
    | droppingConnection id reason => cases hnobody
    | _ => rfl
  | waitReady handles timeout answer => cases answer <;> rfl
  | _ => rfl

/-! ## Assemblers -/

namespace Assembler

variable {a : Assembler} {x : Bytes}

/-- Bytes that were accepted may be followed by others. -/
theorem push_append_of_accepted (h : (a.push x).1.error = none) (y : Bytes) :
    a.push (x ++ y) = (⟨(a.push x).1.frames ++ ((a.push x).2.push y).1.frames,
      ((a.push x).2.push y).1.error⟩, ((a.push x).2.push y).2) := by
  rw [push_append, h]

/-- If some bytes are accepted, so is every beginning of them. -/
theorem accepted_of_append {y : Bytes} (h : (a.push (x ++ y)).1.error = none) :
    (a.push x).1.error = none := by
  rw [push_append] at h
  cases herror : (a.push x).1.error with
  | none => rfl
  | some e =>
    rw [herror] at h
    exact herror.symm.trans h

end Assembler

/-! ## What is read in a call -/

theorem Core.incoming_reportDrop (core : Core σ) (id : ConnectionId) (reason : DropReason) :
    incoming (core.reportDrop id reason) = [] := by
  rw [reportDrop]
  split <;> rfl

theorem incoming_map_frame (id : ConnectionId) (frames : List Bytes) (verdict : Verdict) :
    incoming (frames.map (.frame id · verdict) : List (Event σ)) = [] := by
  rw [incoming, List.flatMap_map]
  exact List.flatMap_eq_nil_iff.2 fun _ _ ↦ rfl

/-- A fan-out reads nothing. -/
theorem Core.incoming_send [Network W σ] (core : Core σ) {payload : Bytes}
    (hle : payload.length ≤ core.sendLimit) (w : W) :
    incoming (core.send payload w).events = [] := by
  obtain ⟨routes, hout, -⟩ := core.exists_fanOut hle w
  rw [hout.events_eq, incoming, List.flatMap_assoc]
  refine List.flatMap_eq_nil_iff.2 fun route _ ↦ ?_
  rw [postage.eq_def]
  cases route.2 with
  | ok _ => rfl
  | error e => exact core.incoming_reportDrop _ _

/-! ## Readings -/

/-- An assembler is given what was read. If it refuses a length, that is the failure; any other
failure is one of the stream. Nothing is read when the stream ends. -/
structure Reception.Feeds (got : Reception W σ) (a : Assembler) : Prop where
  frames : got.frames = (a.push (incoming got.events)).1.frames
  assembler : got.assembler = (a.push (incoming got.events)).2
  accepted : got.failure = none → (a.push (incoming got.events)).1.error = none
  refused : ∀ e, got.failure = some (.assembly e) →
    (a.push (incoming got.events)).1.error = some e
  ended : got.failure = some .closed → incoming got.events = []

/-- Where no bytes come, the assembler is left alone. -/
theorem Reception.Feeds.of_idle {got : Reception W σ} (hread : incoming got.events = [])
    (hframes : got.frames = []) (hfailure : ∀ e, got.failure ≠ some (.assembly e)) :
    got.Feeds got.assembler := by
  have hpush : got.assembler.push (incoming got.events) = (⟨[], none⟩, got.assembler) := by
    rw [hread, Assembler.push_nil]
  refine ⟨?_, ?_, ?_, fun e he ↦ absurd he (hfailure e), fun _ ↦ hread⟩
  all_goals rw [hpush]
  · exact hframes
  · exact fun _ ↦ rfl

namespace Connection.Yields

variable [Network W σ] {c : Connection σ} {w : W} {got : Reception W σ}

/-- A reading that comes to something in a world is one of those that can come to pass. -/
theorem reads (h : c.Yields w got) : c.Reads got := by
  cases h with
  | unanswered e => exact .unavailable _ _ _ _ (.inr ⟨e, rfl⟩)
  | closed => exact .unavailable _ _ _ _ (.inl rfl)
  | unread n e buffer w₁ w₂ =>
    by_cases htransient : e.isTransient = true
    · rw [if_pos htransient]
      exact .notYet n e buffer w₂ htransient
    · rw [if_neg htransient]
      exact .unreadable n _ _ _ _ (.inr ⟨e, Bool.eq_false_iff.2 htransient, rfl⟩)
  | ended n => exact .unreadable n _ _ _ _ (.inl rfl)
  | data n bytes buffer w₁ w₂ =>
    refine .data n bytes _ buffer w₂ fun entry hentry ↦ ?_
    obtain ⟨⟨declared, limit⟩, -, rfl⟩ := List.mem_map.1 hentry
    exact ⟨declared, limit, rfl⟩

theorem feeds (h : c.Yields w got) : got.Feeds c.assembler := by
  cases h with
  | unanswered | closed | ended => exact .of_idle rfl rfl nofun
  | unread n e =>
    refine .of_idle rfl rfl fun e' he' ↦ ?_
    dsimp only at he'
    split at he' <;> cases he'
  | data n bytes buffer w₁ w₂ =>
    have hread : incoming ([.bytesAvailable c.stream (.ok n), .read c.stream n (.ok bytes)]
        ++ logged ((c.assembler.push bytes).1.error.toList.map AssemblyError.entry)) = bytes := by
      rw [incoming_append]
      cases (c.assembler.push bytes).1.error <;> simp [incoming, logged, Event.bytesRead]
    have hrefused : ∀ reason : DropReason,
        (c.assembler.push bytes).1.error.map .assembly = some reason →
          ∃ e, (c.assembler.push bytes).1.error = some e ∧ .assembly e = reason :=
      fun reason ↦ Option.map_eq_some_iff.1
    refine ⟨?_, ?_, ?_, fun e he ↦ ?_, fun hclosed ↦ ?_⟩
    · rw [hread]
    · rw [hread]
    · rw [hread]
      exact Option.map_eq_none_iff.1
    · obtain ⟨e', he', heq⟩ := hrefused _ he
      cases heq
      rw [hread]
      exact he'
    · obtain ⟨e, -, heq⟩ := hrefused _ hclosed
      cases heq

end Connection.Yields

/-! ## Receive passes -/

/-- What becomes of the only connection in a receive pass. -/
inductive Core.Fate (id : ConnectionId) (c : Connection σ) (out : CoreOutcome W σ Unit) : Prop
  /-- It is kept, with its assembler. -/
  | kept (hlist : out.core.destinations.toList
        = [(id, ⟨c.stream, (c.assembler.push (incoming out.events)).2⟩)])
    (haccepted : (c.assembler.push (incoming out.events)).1.error = none)
    (hdroppings : droppings out.events = [])
  /-- It is given up. -/
  | lost (reason : DropReason) (hlist : out.core.destinations.toList = [])
    (hdroppings : droppings out.events = [(id, reason)])
    (hrefused : ∀ e, reason = .assembly e →
      (c.assembler.push (incoming out.events)).1.error = some e)
    (hended : reason = .closed → incoming out.events = [])

/-- What a receive pass makes of an engine with one connection: the frames of what was read wait in
the queue. -/
structure Core.Hears (core : Core σ) (id : ConnectionId) (c : Connection σ)
    (out : CoreOutcome W σ Unit) : Prop where
  queue : core.filter.mode = .acceptAll → out.core.queue.map (·.data) = core.queue.map (·.data)
    ++ (c.assembler.push (incoming out.events)).1.frames
  fate : Fate id c out

namespace Core

variable {core : Core σ} {id : ConnectionId} {c : Connection σ}

theorem incoming_account (core : Core σ) (stop : Stop W σ) :
    incoming (core.account stop) = stop.got.elim [] fun got ↦ incoming got.events := by
  obtain ⟨id, c, _ | got⟩ := stop
  · rfl
  · change incoming (core.receipt id got) = incoming got.events
    rw [receipt, incoming_append, incoming_append, incoming_map_frame, List.nil_append]
    cases got.failure with
    | none => exact List.append_nil _
    | some reason => rw [core.incoming_reportDrop, List.append_nil]

/-- Where every source is accepted, the frames of a stop are what its packets carry. -/
theorem data_packets (hmode : core.filter.mode = .acceptAll) (stop : Stop W σ) (now : Nat) :
    (core.packets stop now).map (·.data) = stop.frames := by
  rw [packets, ReceiveFilter.decision_of_acceptAll hmode]
  exact (List.map_map ..).trans (List.map_id _)

variable [Network W σ]

/-- A receive pass over one connection leaves everything as it is, or it makes one stop. -/
theorem exists_stop_poll (h : core.destinations.toList = [(id, c)]) (w : W) :
    ((core.poll w).core = core ∧ Impersonal W (core.poll w).events) ∨
      ∃ (stop : Stop W σ) (now : Nat) (answer : Readiness), stop.entry = (id, c) ∧
        (∀ got ∈ stop.got, ∃ w', c.Yields w' got) ∧
        (core.poll w).core.destinations.toList = stop.kept?.toList ∧
        (core.poll w).core.queue = core.queue ++ core.packets stop now ∧
        (core.poll w).events
          = [.waitReady (core.streams.map .stream) .zero (.ok answer)] ++ core.account stop := by
  rcases core.poll_cases w with ⟨hcore, himpersonal, -⟩ | ⟨answer, w', -, -, hpoll⟩
  · exact .inl ⟨hcore, himpersonal⟩
  have hlength : core.streams.length = 1 := by
    rw [streams, List.length_map, h]
    rfl
  obtain ⟨flag, hflag⟩ := List.length_eq_one_iff.1
    ((Readiness.length_fit core.streams.length answer.flags).trans hlength)
  obtain ⟨hlist, hlast⟩ := Registry.scan_eq_sweep (core.visitReady (Network.now w'))
    core.destinations ([flag], ⟨w', core.readBuffer, core.queue, core.dropped, []⟩)
  obtain ⟨stop, after, hentry, -, hrounds, hkept, hnext⟩ := core.visitReady_stop (Network.now w')
    id c flag [] ⟨w', core.readBuffer, core.queue, core.dropped, []⟩
  rw [h, sweep, sweep, List.append_nil, hkept] at hlist
  rw [h, sweep, sweep, hnext] at hlast
  obtain rfl := congrArg Prod.snd hlast
  have hqueue := hrounds.queue_eq
  have hevents := hrounds.events_eq
  rw [List.flatMap_singleton] at hqueue hevents
  rw [hpoll, hflag, receiveReady]
  refine .inr ⟨stop, _, answer, hentry, fun got hgot ↦ ?_, hlist, hqueue,
    congrArg (_ :: ·) hevents⟩
  cases hrounds.tour with
  | passed hnone => cases hnone.symm.trans hgot
  | read hread hyields =>
    cases hread.symm.trans hgot
    obtain rfl : stop.connection = c := congrArg Prod.snd hentry
    exact ⟨_, hyields⟩

theorem hears_poll (h : core.destinations.toList = [(id, c)]) (w : W) :
    core.Hears id c (core.poll w) := by
  rcases core.exists_stop_poll h w with
    ⟨hcore, himpersonal⟩ | ⟨⟨id, c, got⟩, now, answer, hentry, hgot, hlist, hqueue, hevents⟩
  · -- Nothing was read.
    have hpush : c.assembler.push (incoming (core.poll w).events) = (⟨[], none⟩, c.assembler) := by
      rw [himpersonal.incoming_eq_nil, Assembler.push_nil]
    constructor
    · intro _
      rw [hpush, hcore, List.append_nil]
    · refine .kept ?_ ?_ himpersonal.droppings_eq_nil
      · rw [hpush, hcore]
        exact h
      · rw [hpush]
  · cases hentry
    have hread : incoming (core.poll w).events = got.elim [] fun got ↦ incoming got.events := by
      rw [hevents, incoming_append, core.incoming_account]
      rfl
    have hdrops : droppings (core.poll w).events = droppings (core.account ⟨id, c, got⟩) := by
      rw [hevents, droppings_append]
      rfl
    cases got with
    | none =>
      have hpush : c.assembler.push (incoming (core.poll w).events)
          = (⟨[], none⟩, c.assembler) := by
        rw [hread]
        exact c.assembler.push_nil
      constructor
      · intro hmode
        rw [hpush, hqueue, List.map_append, data_packets hmode]
        rfl
      · refine .kept ?_ ?_ hdrops
        · rw [hpush, hlist]
          rfl
        · rw [hpush]
    | some got =>
      obtain ⟨_, hyields⟩ := hgot got rfl
      have hfeeds : got.Feeds c.assembler := hyields.feeds
      have hread : incoming (core.poll w).events = incoming got.events := hread
      have hreceipt : droppings (core.poll w).events = got.failure.toList.map (id, ·) := by
        rw [hdrops]
        change droppings (core.receipt id got) = _
        rw [droppings, core.milestones_receipt id hyields.reads]
        cases got.failure <;> rfl
      have hkept : (core.poll w).core.destinations.toList
          = ((c.afterReading got).map (id, ·)).toList := hlist
      rw [Connection.afterReading] at hkept
      constructor
      · intro hmode
        rw [hqueue, List.map_append, data_packets hmode, hread]
        exact congrArg (_ ++ ·) hfeeds.frames
      · cases hfailure : got.failure with
        | none =>
          rw [hfailure] at hkept hreceipt
          refine .kept ?_ ?_ hreceipt
          · rw [hkept, hread, ← hfeeds.assembler]
            rfl
          · rw [hread]
            exact hfeeds.accepted hfailure
        | some reason =>
          rw [hfailure] at hkept hreceipt
          refine .lost reason hkept hreceipt ?_ ?_
          · rintro e rfl
            rw [hread]
            exact hfeeds.refused e hfailure
          · rintro rfl
            rw [hread]
            exact hfeeds.ended hfailure

end Core

end StreamRtp
