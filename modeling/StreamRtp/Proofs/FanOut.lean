import StreamRtp.Proofs.Refusals

/-!
# What a fan-out writes

A fan-out writes one frame to every connection, in the order of registration, and gives those up
whose write fails. `FanOut` says this of all connections at once, with an answer for each of them;
`Core.exists_fanOut` shows it of every payload that is not refused. It is derived from one visit by
the recursion of the walk.

What a history says of writes, of dropped connections and of failures of the poller are its
milestones. Nothing but a fan-out writes.
-/

namespace StreamRtp

variable {W σ : Type}

/-! ## Milestones -/

/-- One write: the stream, the bytes, and the answer. -/
structure Posting (σ : Type) where
  stream : σ
  data : Bytes
  answer : Except IoError Unit

/-- The bytes of a write that did not fail. -/
def Posting.delivered? (posting : Posting σ) : Option Bytes :=
  match posting.answer with
  | .ok _ => some posting.data
  | .error _ => none

/-- What shows how sending fares. -/
inductive Milestone (σ : Type) where
  | wrote (posting : Posting σ)
  /-- The engine reports that it drops a connection. -/
  | dropped (id : ConnectionId) (reason : DropReason)
  /-- The poller has failed. -/
  | outage (cause : IoError)

namespace Milestone

/-- The write. -/
def posting? : Milestone σ → Option (Posting σ)
  | wrote posting => some posting
  | _ => none

/-- The connection that is dropped, and why. -/
def dropping? : Milestone σ → Option (ConnectionId × DropReason)
  | dropped id reason => some (id, reason)
  | _ => none

/-- The failure of the poller. -/
def outage? : Milestone σ → Option IoError
  | outage cause => some cause
  | _ => none

end Milestone

/-- The milestone that an event is, if it is one. -/
def Event.milestone? : Event σ → Option (Milestone σ)
  | write s data answer => some (.wrote ⟨s, data, answer⟩)
  | log (.droppingConnection id reason) => some (.dropped id reason)
  | waitReady _ _ (.error e) => some (.outage e)
  | _ => none

section Histories

variable (first second events : List (Event σ))

/-- The milestones of a history, in order. -/
def milestones : List (Milestone σ) := events.filterMap Event.milestone?

/-- The writes of a history. -/
def postings : List (Posting σ) := (milestones events).filterMap Milestone.posting?

/-- What a history has written without a failure. -/
def delivered : List Bytes := (postings events).filterMap Posting.delivered?

/-- The connections that a history drops. -/
def droppings : List (ConnectionId × DropReason) :=
  (milestones events).filterMap Milestone.dropping?

/-- The failures of the poller in a history. -/
def outages : List IoError := (milestones events).filterMap Milestone.outage?

@[simp] theorem milestones_append :
    milestones (first ++ second) = milestones first ++ milestones second := List.filterMap_append

theorem milestones_drop (id : ConnectionId) (reason : DropReason) :
    milestones (first ++ .log (.droppingConnection id reason) :: second)
      = milestones first ++ .dropped id reason :: milestones second := milestones_append ..

@[simp] theorem postings_append :
    postings (first ++ second) = postings first ++ postings second := by
  rw [postings, milestones_append, List.filterMap_append]
  rfl

theorem milestones_logged {log : List LogEntry} (h : ∀ entry ∈ log, ¬entry.IsDrop) :
    milestones (logged log : List (Event σ)) = [] := by
  refine List.filterMap_eq_nil_iff.2 fun event hevent ↦ ?_
  obtain ⟨entry, hentry, rfl⟩ := List.mem_map.1 hevent
  cases entry with
  | droppingConnection id reason => exact absurd trivial (h _ hentry)
  | _ => rfl

end Histories

namespace Core

variable (core : Core σ) (id : ConnectionId)

@[simp] theorem milestones_reportDrop (reason : DropReason) :
    milestones (core.reportDrop id reason) = [.dropped id reason] := by
  rw [reportDrop]
  split <;> rfl

theorem milestones_postage (stream : σ) (frame : Bytes) (answer : Except IoError Unit) :
    milestones (core.postage id stream frame answer) = .wrote ⟨stream, frame, answer⟩ ::
      match answer with
      | .ok _ => []
      | .error e => [.dropped id (.send e.duplicate)] := by
  rw [postage.eq_def]
  cases answer with
  | ok _ => rfl
  | error e => exact congrArg (_ :: ·) (core.milestones_reportDrop id _)

/-- All that a receive pass can do to a connection is to give it up. -/
theorem milestones_receipt {c : Connection σ} {got : Reception W σ} (h : c.Reads got) :
    milestones (core.receipt id got) = got.failure.toList.map (.dropped id) := by
  have hread : milestones got.events = [] := by
    cases h with
    | unavailable | unreadable | notYet => rfl
    | data n bytes log _ _ hlog =>
      rw [milestones_append, milestones_logged fun entry hentry hdrop ↦ ?_]
      · rfl
      · obtain ⟨declared, limit, rfl⟩ := hlog entry hentry
        exact hdrop
  have hframes : ∀ verdict, milestones
      (got.frames.map (.frame id · verdict) : List (Event σ)) = [] := by
    intro verdict
    rw [milestones, List.filterMap_map]
    exact List.filterMap_eq_nil_iff.2 fun _ _ ↦ rfl
  rw [receipt, milestones_append, milestones_append, hread, hframes]
  cases got.failure with
  | none => rfl
  | some reason => exact core.milestones_reportDrop id reason

end Core

/-! ## Fan-outs -/

/-- A connection with what came of writing to it. -/
abbrev Route (σ : Type) := (ConnectionId × Connection σ) × Except IoError Unit

namespace Route

/-- The failure of the write, with the identity of the connection. -/
def failure? (route : Route σ) : Option (ConnectionId × IoError) :=
  match route.2 with
  | .ok _ => none
  | .error e => some (route.1.1, e)

/-- The write. -/
def posting (frame : Bytes) (route : Route σ) : Posting σ := ⟨route.1.2.stream, frame, route.2⟩

/-- The call of the hook that reports the failure. It is told of a second report of the error. -/
def hookCall? (route : Route σ) : Option (ConnectionId × DropReason) :=
  route.failure?.map fun failure ↦ (failure.1, .send failure.2.duplicate)

end Route

/-- A frame is written to one connection after the other, each time in the world that the writes
before have left. -/
inductive Mailing [Network W σ] (frame : Bytes) : W → List (Route σ) → W → Prop
  | nil (w : W) : Mailing frame w [] w
  | cons {w w₁ w' : W} {route : Route σ} {routes : List (Route σ)}
    (hwrite : Network.writeAll route.1.2.stream frame w = (route.2, w₁))
    (hlater : Mailing frame w₁ routes w') : Mailing frame w (route :: routes) w'

/-- One frame is written to every connection. Those whose write fails are reported and given up, and
the first of them is the result. Nothing else is touched. -/
structure FanOut (core : Core σ) (frame : Bytes) (routes : List (Route σ))
    (out : CoreOutcome W σ Unit) : Prop where
  everyone : routes.map (·.1) = core.destinations.toList
  events_eq : out.events = routes.flatMap fun r ↦ core.postage r.1.1 r.1.2.stream frame r.2
  kept : out.core.destinations.toList = (routes.filter (·.failure?.isNone)).map (·.1)
  result_eq : out.result =
    match routes.findSome? Route.failure? with
    | none => .ok ()
    | some (id, e) => .error (.send id e)
  untouched : out.core = { core with destinations := out.core.destinations }

namespace Core

variable [Network W σ] (core : Core σ)

/-- The walk of a fan-out, from any point on. -/
theorem sweep_visitWrite (frame : Bytes) (entries : List (ConnectionId × Connection σ))
    (pass : SendPass W σ) : ∃ routes : List (Route σ), routes.map (·.1) = entries ∧
      Mailing frame pass.world routes (sweep (core.visitWrite frame) entries pass).2.world ∧
      (sweep (core.visitWrite frame) entries pass).1
        = (routes.filter (·.failure?.isNone)).map (·.1) ∧
      (sweep (core.visitWrite frame) entries pass).2.events = pass.events
        ++ routes.flatMap (fun r ↦ core.postage r.1.1 r.1.2.stream frame r.2) ∧
      (sweep (core.visitWrite frame) entries pass).2.failure
        = pass.failure.or (routes.findSome? Route.failure?) := by
  induction entries generalizing pass with
  | nil => exact ⟨[], rfl, .nil _, rfl, (List.append_nil _).symm, (Option.or_none).symm⟩
  | cons e entries ih =>
    obtain ⟨id, c⟩ := e
    rw [sweep]
    obtain ⟨routes, hall, hmailing, hkept, hevents, hfailure⟩ :=
      ih (core.visitWrite frame id c pass).2
    rcases hwrite : Network.writeAll c.stream frame pass.world with ⟨⟨e⟩ | ⟨⟨⟩⟩, w⟩
    · have hvisit : core.visitWrite frame id c pass = (none, ⟨w, pass.failure.or (some (id, e)),
          pass.events ++ core.postage id c.stream frame (.error e)⟩) := by
        rw [visitWrite, hwrite]
        rfl
      rw [hvisit] at hmailing hkept hevents hfailure ⊢
      refine ⟨((id, c), .error e) :: routes, congrArg (_ :: ·) hall, .cons hwrite hmailing, hkept,
        ?_, ?_⟩
      · rw [hevents, List.flatMap_cons, List.append_assoc]
      · rw [hfailure, Option.or_assoc, Option.some_or]
        rfl
    · have hvisit : core.visitWrite frame id c pass = (some c, ⟨w, pass.failure,
          pass.events ++ core.postage id c.stream frame (.ok ())⟩) := by
        rw [visitWrite, hwrite]
        rfl
      rw [hvisit] at hmailing hkept hevents hfailure ⊢
      refine ⟨((id, c), .ok ()) :: routes, congrArg (_ :: ·) hall, .cons hwrite hmailing,
        congrArg (_ :: ·) hkept, ?_, hfailure⟩
      rw [hevents, List.flatMap_cons, List.append_assoc]

/-- A payload that is not refused is framed and written to every connection. -/
theorem exists_fanOut {payload : Bytes} (hle : payload.length ≤ core.sendLimit) (w : W) :
    ∃ routes, FanOut core (Frame.wire payload) routes (core.send payload w) ∧
      Mailing (Frame.wire payload) w routes (core.send payload w).world := by
  obtain ⟨hlist, hlast⟩ := Registry.scan_eq_sweep (core.visitWrite (Frame.wire payload))
    core.destinations ⟨w, none, []⟩
  obtain ⟨routes, hall, hmailing, hkept, hevents, hfailure⟩ :=
    core.sweep_visitWrite (Frame.wire payload) core.destinations.toList ⟨w, none, []⟩
  rw [List.nil_append] at hevents
  rw [Option.none_or] at hfailure
  rw [send, if_neg (Nat.not_lt.2 hle),
    Frame.encode_of_le (Nat.le_trans hle (Nat.min_le_right ..))]
  dsimp only
  rw [hlast]
  refine ⟨routes, ⟨hall, hevents, hlist.trans hkept, ?_, rfl⟩, hmailing⟩
  dsimp only
  rw [hfailure]
  rcases routes.findSome? Route.failure? with - | ⟨id, e⟩ <;> rfl

end Core

namespace FanOut

variable {core : Core σ} {frame : Bytes} {routes : List (Route σ)} {out : CoreOutcome W σ Unit}

theorem postings_eq (h : FanOut core frame routes out) :
    postings out.events = routes.map (Route.posting frame) := by
  have hroute : ∀ r : Route σ, postings (core.postage r.1.1 r.1.2.stream frame r.2)
      = [r.posting frame] := by
    rintro ⟨⟨id, c⟩, answer⟩
    rw [postings, core.milestones_postage]
    cases answer <;> rfl
  rw [h.events_eq, postings, milestones, List.filterMap_flatMap, List.filterMap_flatMap,
    List.map_eq_flatMap]
  exact List.flatMap_congr fun r _ ↦ hroute r

end FanOut

/-! ## Receive passes -/

theorem Impersonal.postings_eq_nil [Network W σ] {events : List (Event σ)}
    (h : Impersonal W events) : postings events = [] := by
  rw [postings, milestones, List.filterMap_filterMap]
  refine List.filterMap_eq_nil_iff.2 fun event hevent ↦ ?_
  have hnobody := h event hevent
  cases event with
  | write s data answer => cases hnobody
  | log entry => cases entry <;> rfl
  | waitReady handles timeout answer => cases answer <;> rfl
  | _ => rfl

/-- A receive pass writes nothing. -/
@[simp] theorem Core.postings_poll [Network W σ] (core : Core σ) (w : W) :
    postings (core.poll w).events = [] := by
  rcases core.poll_cases w with ⟨-, himpersonal, -⟩ | ⟨answer, w', -, -, hpoll⟩
  · exact himpersonal.postings_eq_nil
  · obtain ⟨-, -, hlast⟩ :=
      core.receiveReady_eq_walk (Readiness.fit core.streams.length answer.flags) w'
    have hvisit : ∀ id c (s : List Bool × ReceivePass W σ), postings s.2.events = [] →
        postings (core.visitReady (Network.now w') id c s).2.2.events = [] := by
      intro id c s h
      rcases core.visitReady_cases (Network.now w') id c s with ⟨-, -, hevents⟩ | ⟨-, -, hevents⟩
      · rw [hevents, List.append_nil, h]
      · rw [hevents, postings_append, h, postings,
          core.milestones_receipt id (c.reads_receive ..)]
        cases (c.receive s.2.buffer s.2.world).failure <;> rfl
    rw [hpoll, hlast]
    -- The question to the poller is no write either.
    exact sweep_induction hvisit core.destinations.toList rfl

end StreamRtp
