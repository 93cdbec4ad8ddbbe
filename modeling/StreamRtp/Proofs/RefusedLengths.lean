import StreamRtp.Proofs.StreamGrammar

/-!
# Lengths that were refused

A length that the limit refuses is kept, and so is the assembler's place in the stream. Everything
that is fed or pushed afterwards is refused in the same way and forgotten, until the limit admits
the length. Then the next bytes are the payload that the length announces, in however many pieces
they come, and with its end the assembler is a new one.

The bytes that stood behind the length when it was refused are lost: had they been others, nothing
would be different.

## The argument

`Phase.Withholds` names the state in which an assembler is after a refusal. Each request either
keeps it or, under a limit that admits the length, does what it would do to an assembler that has
just accepted the length. From there on `Collects` counts the bytes that have come.
-/

namespace StreamRtp

namespace Assembler

/-! ## Requests -/

/-- What an assembler is asked to do. -/
inductive Request where
  | feed (data : Bytes)
  | push (data : Bytes)
  | setLimit (limit : Nat)
  deriving DecidableEq, Repr

/-- What an assembler answers to a request. -/
inductive Answer where
  | fed (result : Except AssemblyError Delivery)
  | pushed (intake : Intake)
  | done

namespace Answer

/-- The frames that a request completes. -/
def frames : Answer → List Bytes
  | fed (.ok d) => d.frame.toList
  | pushed intake => intake.frames
  | _ => []

/-- The error of a request. -/
def error : Answer → Option AssemblyError
  | fed (.error e) => some e
  | pushed intake => intake.error
  | _ => none

end Answer

namespace Request

/-- The bytes that come with a request. -/
def data : Request → Bytes
  | feed data | push data => data
  | setLimit _ => []

/-- The same request with other bytes. -/
def withData (data : Bytes) : Request → Request
  | feed _ => feed data
  | push _ => push data
  | setLimit limit => setLimit limit

/-- Whether a request has a complete length judged. A push of no bytes does not. -/
def Judges : Request → Prop
  | feed _ => True
  | push data => data ≠ []
  | setLimit _ => False

/-- The answer to a request whose bytes are all taken and complete nothing. -/
def absorbed : Request → Answer
  | feed data => .fed (.ok ⟨data.length, none⟩)
  | push _ => .pushed ⟨[], none⟩
  | setLimit _ => .done

end Request

/-- Carry a request out. -/
def perform (a : Assembler) : Request → Answer × Assembler
  | .feed data => (.fed (a.feed data).1, (a.feed data).2)
  | .push data => (.pushed (a.push data).1, (a.push data).2)
  | .setLimit limit => (.done, a.setLimit limit)

/-- Carry requests out one after the other. -/
def run (a : Assembler) : List Request → List Answer × Assembler
  | [] => ([], a)
  | r :: requests =>
    ((a.perform r).1 :: ((a.perform r).2.run requests).1, ((a.perform r).2.run requests).2)

/-- Whether requests have a length of `n` bytes judged only under limits that refuse it. -/
def Declines (n : Nat) (a : Assembler) : List Request → Prop
  | [] => True
  | r :: requests => (r.Judges → a.limit < n) ∧ (a.perform r).2.Declines n requests

end Assembler

/-! ## The state after a refusal -/

/-- A complete length of `n` bytes has not been accepted. -/
def Phase.Withholds (n : Nat) : Phase → Prop
  | .awaitingLength field => field.length = Frame.lengthFieldSize ∧ ofBigEndian field = n
  | .awaitingPayload .. => False

/-- A call that is refused has completed a length, and has not looked at what follows it. -/
theorem Phase.exists_taken_of_feed_error {limit : Nat} {p p' : Phase} {x : Bytes}
    {e : AssemblyError} (hp : p.Sound) (h : p.feed limit x = (.error e, p')) :
    ∃ taken lost, x = taken ++ lost ∧ Frame.Refuses limit (p.wire ++ taken) e ∧
      p' = .awaitingLength (p.wire ++ taken) ∧
      ∀ other, p.feed limit (taken ++ other) = (.error e, p') := by
  cases p with
  | awaitingPayload arrived missing => exact absurd h feed_awaitingPayload_ne_error
  | awaitingLength held =>
    obtain ⟨field, lost, hwire, hrefuses, rfl⟩ := wire_feed_of_error hp h
    -- The field begins with what was held.
    have hle : held.length ≤ field.length := hrefuses.complete.symm ▸ hp.1
    obtain ⟨taken, rfl⟩ : held <+: field :=
      List.prefix_of_prefix_length_le ⟨x, hwire⟩ ⟨lost, rfl⟩ hle
    rw [List.append_assoc] at hwire
    have hcomplete : held.length + taken.length = Frame.lengthFieldSize :=
      List.length_append ▸ hrefuses.complete
    refine ⟨taken, lost, List.append_cancel_left hwire, hrefuses, rfl, fun other ↦ ?_⟩
    have hfield : fill Frame.lengthFieldSize held (taken ++ other) = held ++ taken := by
      rw [fill, List.take_left' (by omega)]
    rw [feed_awaitingLength_of_le (by rw [List.length_append]; omega) hp.1 hfield,
      if_pos hrefuses.lt, hrefuses.error_eq]

namespace Assembler

variable {a a' : Assembler} {n limit : Nat} {x y : Bytes} {e : AssemblyError} {r : Request}
  {requests : List Request}

/-- The part of a chunk that ends behind the refused length is refused as the whole chunk is. -/
theorem error_push_of_le {taken lost field : Bytes} (htaken : taken ≠ [])
    (h : (a.push (taken ++ lost)).1.error = some e) (hfield : field.length = Frame.lengthFieldSize)
    (hle : ((a.push (taken ++ lost)).1.frames.flatMap Frame.wire ++ field).length
      ≤ (a.phase.wire ++ taken).length) : (a.push taken).1.error = some e := by
  by_cases hlost : lost = []
  · rwa [hlost, List.append_nil] at h
  · have hpieces : [taken, lost].flatten = taken ++ lost := by
      rw [List.flatten_cons, List.flatten_singleton]
    have hne : ∀ piece ∈ [taken, lost], piece ≠ [] :=
      List.forall_mem_cons.2 ⟨htaken, List.forall_mem_singleton.2 hlost⟩
    have herrors := pushAll_errors hne (hpieces ▸ h) hfield
    rw [hpieces] at herrors
    have hfirst := congrArg List.head? herrors
    rw [pushAll_cons, List.map_cons, List.head?_cons, List.length_cons, List.range_succ_eq_map,
      List.map_cons, List.head?_cons, Option.some_inj] at hfirst
    rw [hfirst, if_pos]
    rwa [List.take_succ_cons, List.take_zero, List.flatten_singleton]

/-- A chunk that is refused holds the frames that it completes and the length, and what follows the
length has not been looked at. -/
theorem exists_taken_of_push_error (h : (a.push x).1.error = some e) :
    ∃ taken lost field, x = taken ++ lost ∧
      a.phase.wire ++ taken = (a.push x).1.frames.flatMap Frame.wire ++ field ∧
      Frame.Refuses a.limit field e ∧
      ((a.push x).2.phase = .awaitingLength field ∧ (a.push x).2.limit = a.limit) ∧
      ∀ other, taken ++ other ≠ [] → a.push (taken ++ other) = a.push x := by
  obtain ⟨field, rest, hwire, hrefuses, hlast⟩ := wire_push_of_error h
  -- The length lies behind what was held before, or it is a complete one that was held.
  have hplace : a.phase.wire.length < ((a.push x).1.frames.flatMap Frame.wire ++ field).length ∨
      a.phase = .awaitingLength a.phase.wire ∧ a.phase.wire.length = Frame.lengthFieldSize := by
    by_cases hopen : a.phase.IsOpen
    · exact .inl (length_wire_lt_of_error hopen h hrefuses.complete)
    · cases hphase : a.phase with
      | awaitingPayload arrived missing => exact absurd (hphase ▸ trivial) hopen
      | awaitingLength held =>
        rw [hphase] at hopen
        exact .inr ⟨rfl, Nat.le_antisymm (hphase ▸ a.sound).1 (Nat.le_of_not_lt hopen)⟩
  have hle : a.phase.wire.length ≤ ((a.push x).1.frames.flatMap Frame.wire ++ field).length := by
    rw [List.length_append, hrefuses.complete] at hplace ⊢
    omega
  obtain ⟨taken, htaken⟩ := List.prefix_of_prefix_length_le ⟨x, rfl⟩ ⟨rest, hwire.symm⟩ hle
  have hsplit : x = taken ++ rest := by
    rw [← htaken, List.append_assoc] at hwire
    exact List.append_cancel_left hwire
  refine ⟨taken, rest, field, hsplit, htaken, hrefuses, hlast, fun other hother ↦ ?_⟩
  by_cases hnone : taken = []
  · -- The assembler has held the length from the beginning.
    have hx : x ≠ [] := by
      rintro rfl
      rw [push_nil] at h
      cases h
    rw [hnone, List.append_nil] at htaken
    obtain ⟨hphase, hsize⟩ := hplace.resolve_left (by rw [htaken]; exact Nat.lt_irrefl _)
    have hfield : a.phase = .awaitingLength field := by
      rw [htaken, List.length_append, hrefuses.complete] at hsize
      have hframes : (a.push x).1.frames.flatMap Frame.wire = [] :=
        List.length_eq_zero_iff.1 (by omega)
      rw [hphase, htaken, hframes, List.nil_append]
    have hrefused : ∀ y : Bytes, y ≠ [] → a.push y = (⟨[], some e⟩, a) := fun y hy ↦
      push_of_error hy (feed_eq_iff.2 ⟨by rw [hfield, Phase.feed_of_refuses hrefuses], rfl⟩)
    rw [hrefused _ hother, hrefused x hx]
  · have herror : (a.push taken).1.error = some e :=
      error_push_of_le hnone (hsplit ▸ h) hrefuses.complete
        (Nat.le_of_eq (by rw [← hsplit, htaken]))
    rw [hsplit, push_append, push_append, herror]

/-- A request that is refused leaves the assembler with the length, and would have come to the same
with other bytes behind it. -/
theorem exists_taken_of_error
    (h : (a.perform r).1.error = some (.frameTooLarge n limit)) :
    (a.perform r).2.phase.Withholds n ∧ (a.perform r).2.limit = a.limit ∧ limit = a.limit ∧
      a.limit < n ∧ ∃ taken lost, r.data = taken ++ lost ∧
        a.phase.wire ++ taken = (a.perform r).1.frames.flatMap Frame.wire
          ++ bigEndian Frame.lengthFieldSize n ∧
        ∀ other, (r.withData (taken ++ other)).Judges →
          a.perform (r.withData (taken ++ other)) = a.perform r := by
  cases r with
  | setLimit limit => cases h
  | feed x =>
    rcases hfeed : a.feed x with ⟨⟨e⟩ | ⟨d⟩, a'⟩
    · have he : e = .frameTooLarge n limit := by
        simp only [perform, hfeed] at h
        exact Option.some.inj h
      obtain ⟨hphase, hlimit⟩ := feed_eq_iff.1 hfeed
      obtain ⟨taken, lost, hsplit, hrefuses, hlast, hothers⟩ :=
        Phase.exists_taken_of_feed_error a.sound hphase
      obtain ⟨rfl, rfl⟩ := AssemblyError.frameTooLarge.inj (he.symm.trans hrefuses.error_eq)
      rw [perform, hfeed]
      refine ⟨?_, hlimit, rfl, hrefuses.lt, taken, lost, hsplit, ?_, fun other _ ↦ ?_⟩
      · rw [hlast]
        exact ⟨hrefuses.complete, rfl⟩
      · rw [bigEndian_ofBigEndian hrefuses.complete]
        rfl
      · have hother : a.feed (taken ++ other) = (.error e, a') :=
          feed_eq_iff.2 ⟨hothers other, hlimit⟩
        rw [Request.withData, perform, hother]
    · simp only [perform, hfeed] at h
      cases h
  | push x =>
    obtain ⟨taken, lost, field, hsplit, hwire, hrefuses, ⟨hlast, hlimit⟩, hothers⟩ :=
      exists_taken_of_push_error h
    obtain ⟨rfl, rfl⟩ := AssemblyError.frameTooLarge.inj hrefuses.error_eq
    refine ⟨?_, hlimit, rfl, hrefuses.lt, taken, lost, hsplit, ?_, fun other hother ↦ ?_⟩
    · simp only [perform, hlast]
      exact ⟨hrefuses.complete, rfl⟩
    · rw [bigEndian_ofBigEndian hrefuses.complete]
      exact hwire
    · simp only [Request.withData, perform, hothers other hother]

/-! ## While the length is refused -/

theorem feed_of_withholds (h : a.phase.Withholds n) (hlt : a.limit < n) (x : Bytes) :
    a.feed x = (.error (.frameTooLarge n a.limit), a) := by
  cases hphase : a.phase with
  | awaitingPayload arrived missing =>
    rw [hphase] at h
    cases h
  | awaitingLength field =>
    rw [hphase] at h
    have hrefuses : Frame.Refuses a.limit field (.frameTooLarge n a.limit) :=
      ⟨h.1, h.2.symm ▸ hlt, by rw [h.2]⟩
    exact feed_eq_iff.2 ⟨by rw [hphase, Phase.feed_of_refuses hrefuses], rfl⟩

theorem push_of_withholds (h : a.phase.Withholds n) (hlt : a.limit < n) (hx : x ≠ []) :
    a.push x = (⟨[], some (.frameTooLarge n a.limit)⟩, a) :=
  push_of_error hx (feed_of_withholds h hlt x)

theorem isIdle_of_withholds (h : a.phase.Withholds n) : a.isIdle = false := by
  refine decide_eq_false fun hstart ↦ ?_
  rw [hstart] at h
  cases h.1

/-- A request that does not have the length judged under a limit that admits it keeps the
length. -/
theorem perform_of_withholds (h : a.phase.Withholds n) (hr : r.Judges → a.limit < n) :
    (a.perform r).1.frames = [] ∧ (a.perform r).2.phase = a.phase := by
  cases r with
  | setLimit limit => exact ⟨rfl, rfl⟩
  | feed x =>
    rw [perform, feed_of_withholds h (hr trivial)]
    exact ⟨rfl, rfl⟩
  | push x =>
    by_cases hx : x = []
    · rw [hx, perform, push_nil]
      exact ⟨rfl, rfl⟩
    · rw [perform, push_of_withholds h (hr hx) hx]
      exact ⟨rfl, rfl⟩

theorem run_of_withholds (h : a.phase.Withholds n) (hdeclines : a.Declines n requests) :
    (∀ answer ∈ (a.run requests).1, answer.frames = []) ∧ (a.run requests).2.phase = a.phase := by
  induction requests generalizing a with
  | nil => exact ⟨List.forall_mem_nil _, rfl⟩
  | cons r requests ih =>
    obtain ⟨hframes, hphase⟩ := perform_of_withholds h hdeclines.1
    obtain ⟨hlater, hlast⟩ := ih (hphase.symm ▸ h) hdeclines.2
    exact ⟨List.forall_mem_cons.2 ⟨hframes, hlater⟩, hlast.trans hphase⟩

/-! ## Once the length is admitted -/

/-- A length of `n` bytes has been accepted, and `given` is what has come of its payload. -/
structure Collects (n : Nat) (given : Bytes) (a : Assembler) : Prop where
  lt : given.length < n
  phase_eq : a.phase = .awaitingPayload given.reverse (n - given.length)

/-- The first bytes that are fed under a limit that admits the length are taken for the payload. -/
theorem exists_collects_of_withholds (h : a.phase.Withholds n) (hpos : 0 < n) (hle : n ≤ a.limit) :
    ∃ e : Assembler, e.Collects n [] ∧ e.limit = a.limit ∧ ∀ x, a.feed x = e.feed x := by
  cases hphase : a.phase with
  | awaitingPayload arrived missing =>
    rw [hphase] at h
    cases h
  | awaitingLength field =>
    rw [hphase] at h
    obtain ⟨hcomplete, rfl⟩ := h
    have hsound : (Phase.awaitingPayload [] (ofBigEndian field)).Sound :=
      ⟨hpos, by simpa [Frame.maxPayload] using ofBigEndian_le hcomplete⟩
    refine ⟨⟨_, a.limit, hsound⟩, ⟨hpos, rfl⟩, rfl, fun x ↦ feed_eq_iff.2 ⟨?_, rfl⟩⟩
    -- The complete field takes nothing, so all bytes are left for the payload.
    have hfill : fill Frame.lengthFieldSize field x = field := by
      rw [fill, hcomplete, Nat.sub_self, List.take_zero, List.append_nil]
    rw [hphase, Phase.feed_awaitingLength_of_le (by omega) (Nat.le_of_eq hcomplete) hfill,
      if_neg (Nat.not_lt.2 hle), if_neg (Nat.ne_of_gt hpos), hcomplete, Nat.sub_self,
      List.drop_zero]
    rfl

theorem push_congr {b : Assembler} (h : ∀ x, a.feed x = b.feed x) (hx : x ≠ []) :
    a.push x = b.push x := by
  cases hfeed : b.feed x with
  | mk out last =>
    cases out with
    | error e => rw [push_of_error hx ((h x).trans hfeed), push_of_error hx hfeed]
    | ok d => rw [push_of_ok hx ((h x).trans hfeed), push_of_ok hx hfeed]

theorem perform_congr {b : Assembler} (h : ∀ x, a.feed x = b.feed x) (hr : r.Judges) :
    a.perform r = b.perform r := by
  cases r with
  | feed x => rw [perform, perform, h]
  | push x => rw [perform, perform, push_congr h hr]
  | setLimit limit => exact absurd hr id

namespace Collects

variable {given : Bytes}

/-- Bytes that do not reach the end of the payload are taken, whatever the limit is. -/
theorem feed_of_lt (h : a.Collects n given) (hlt : given.length + x.length < n) :
    (a.feed x).1 = .ok ⟨x.length, none⟩ ∧ (a.feed x).2.Collects n (given ++ x) := by
  have hmissing : x.length < n - given.length := by omega
  have hphase : a.phase.feed a.limit x = (.ok ⟨x.length, none⟩,
      .awaitingPayload (x.reverse ++ given.reverse) (n - given.length - x.length)) := by
    rw [h.phase_eq, Phase.feed_awaitingPayload_of_lt hmissing]
  obtain ⟨a', hfeed, hlast⟩ := exists_feed_eq hphase
  rw [hfeed]
  refine ⟨rfl, ⟨by rwa [List.length_append], ?_⟩⟩
  rw [hlast, List.reverse_append, List.length_append, Nat.sub_sub]

/-- The last byte of the payload completes it and leaves a new assembler. -/
theorem feed_of_le (h : a.Collects n given) (hle : n ≤ given.length + x.length) :
    a.feed x = (.ok ⟨n - given.length, some ((given ++ x).take n)⟩, ofLimit a.limit) := by
  have hmissing : n - given.length ≤ x.length := by omega
  refine feed_eq_iff.2 ⟨?_, rfl⟩
  rw [h.phase_eq, Phase.feed_awaitingPayload_of_le hmissing, List.reverse_reverse,
    List.take_append, List.take_of_length_le (Nat.le_of_lt h.lt)]
  rfl

theorem push_of_le (h : a.Collects n given) (hle : n ≤ given.length + x.length) :
    a.push x = (⟨(given ++ x).take n
        :: ((ofLimit a.limit).push (x.drop (n - given.length))).1.frames,
      ((ofLimit a.limit).push (x.drop (n - given.length))).1.error⟩,
      ((ofLimit a.limit).push (x.drop (n - given.length))).2) := by
  have hx : x ≠ [] := by
    rintro rfl
    exact absurd h.lt (Nat.not_lt.2 hle)
  rw [push_of_ok hx (h.feed_of_le hle)]
  rfl

theorem perform_of_lt (h : a.Collects n given) (hlt : given.length + r.data.length < n) :
    (a.perform r).1 = r.absorbed ∧ (a.perform r).2.Collects n (given ++ r.data) := by
  cases r with
  | setLimit limit => exact ⟨rfl, (List.append_nil given).symm ▸ ⟨h.lt, h.phase_eq⟩⟩
  | feed x =>
    obtain ⟨hout, hlast⟩ := h.feed_of_lt hlt
    exact ⟨congrArg Answer.fed hout, hlast⟩
  | push x =>
    by_cases hx : x = []
    · rw [hx, perform, push_nil]
      exact ⟨rfl, (List.append_nil given).symm ▸ h⟩
    · obtain ⟨hout, hlast⟩ := h.feed_of_lt hlt
      rw [perform, push_of_none hx (Prod.ext hout rfl) rfl]
      exact ⟨rfl, hlast⟩

theorem run_of_lt (h : a.Collects n given)
    (hlt : given.length + (requests.flatMap Request.data).length < n) :
    (a.run requests).1 = requests.map Request.absorbed ∧
      (a.run requests).2.Collects n (given ++ requests.flatMap Request.data) := by
  induction requests generalizing a given with
  | nil => exact ⟨rfl, (List.append_nil given).symm ▸ h⟩
  | cons r requests ih =>
    rw [List.flatMap_cons, List.length_append] at hlt
    obtain ⟨hanswer, hnext⟩ := h.perform_of_lt (r := r) (by omega)
    obtain ⟨hanswers, hlast⟩ := ih hnext (by rw [List.length_append]; omega)
    rw [List.flatMap_cons, ← List.append_assoc]
    exact ⟨List.cons_eq_cons.2 ⟨hanswer, hanswers⟩, hlast⟩

end Collects

/-! ## What a refusal leads to -/

/-- Whatever comes is refused for a length of `n` bytes, and leaves no trace. -/
def Stuck (n : Nat) (a : Assembler) : Prop :=
  ∀ x, a.feed x = (.error (.frameTooLarge n a.limit), a) ∧
    (x ≠ [] → a.push x = (⟨[], some (.frameTooLarge n a.limit)⟩, a))

/-- The next `n` bytes are the payload of a frame. Requests with fewer bytes are absorbed, also if
they lower the limit, and the request that brings the last byte completes the frame and goes on as a
new assembler under the limit that is then in force. -/
def Awaits (n : Nat) (a : Assembler) : Prop :=
  ∀ requests : List Request, (∀ first ∈ requests.head?, first.Judges) →
    (requests.flatMap Request.data).length < n →
    (a.run requests).1 = requests.map Request.absorbed ∧
      ∀ x, n ≤ (requests.flatMap Request.data).length + x.length →
        (a.run requests).2.feed x
            = (.ok ⟨n - (requests.flatMap Request.data).length,
                some ((requests.flatMap Request.data ++ x).take n)⟩,
              ofLimit (a.run requests).2.limit) ∧
          (a.run requests).2.push x
            = (⟨(requests.flatMap Request.data ++ x).take n
                :: ((ofLimit (a.run requests).2.limit).push
                  (x.drop (n - (requests.flatMap Request.data).length))).1.frames,
              ((ofLimit (a.run requests).2.limit).push
                  (x.drop (n - (requests.flatMap Request.data).length))).1.error⟩,
              ((ofLimit (a.run requests).2.limit).push
                  (x.drop (n - (requests.flatMap Request.data).length))).2)

theorem stuck_of_withholds (h : a.phase.Withholds n) (hlt : a.limit < n) : a.Stuck n :=
  fun x ↦ ⟨feed_of_withholds h hlt x, push_of_withholds h hlt⟩

theorem awaits_of_withholds (h : a.phase.Withholds n) (hpos : 0 < n) (hle : n ≤ a.limit) :
    a.Awaits n := by
  obtain ⟨e, hcollects, hlimit, hfeed⟩ := exists_collects_of_withholds h hpos hle
  intro requests hfirst hlt
  cases requests with
  | nil =>
    refine ⟨rfl, fun x hx ↦ ?_⟩
    have hne : x ≠ [] := by
      rintro rfl
      exact absurd hpos (Nat.not_lt.2 hx)
    rw [run, hfeed, push_congr hfeed hne, ← hlimit]
    exact ⟨hcollects.feed_of_le hx, hcollects.push_of_le hx⟩
  | cons first requests =>
    -- From the first request on the assembler is one that has accepted the length.
    have hsame : a.run (first :: requests) = e.run (first :: requests) := by
      rw [run, run, perform_congr hfeed (hfirst first rfl)]
    rw [hsame]
    have hshort : ([] : Bytes).length + ((first :: requests).flatMap Request.data).length < n := by
      rwa [List.length_nil, Nat.zero_add]
    obtain ⟨hanswers, hlast⟩ := hcollects.run_of_lt hshort
    exact ⟨hanswers, fun x hx ↦ ⟨hlast.feed_of_le hx, hlast.push_of_le hx⟩⟩

/-- A length that is refused is kept without the bytes behind it. As long as it is judged under
limits that do not admit it, nothing comes of what is fed or pushed; as soon as it is judged under
one that does, the bytes from there on are its payload. -/
theorem refused_length_waits (h : (a.perform r).1.error = some (.frameTooLarge n limit)) :
    limit = a.limit ∧
      (∃ taken lost, r.data = taken ++ lost ∧
        a.phase.wire ++ taken = (a.perform r).1.frames.flatMap Frame.wire
          ++ bigEndian Frame.lengthFieldSize n ∧
        ∀ other, (r.withData (taken ++ other)).Judges →
          a.perform (r.withData (taken ++ other)) = a.perform r) ∧
      ∀ between, (a.perform r).2.Declines n between →
        (∀ answer ∈ ((a.perform r).2.run between).1, answer.frames = []) ∧
          ((a.perform r).2.run between).2.phase = (a.perform r).2.phase ∧
          ((a.perform r).2.run between).2.isIdle = false ∧
          (((a.perform r).2.run between).2.limit < n → ((a.perform r).2.run between).2.Stuck n) ∧
          (n ≤ ((a.perform r).2.run between).2.limit →
            ((a.perform r).2.run between).2.Awaits n) := by
  obtain ⟨hwithholds, -, hlimit, hlt, htaken⟩ := exists_taken_of_error h
  refine ⟨hlimit, htaken, fun between hbetween ↦ ?_⟩
  obtain ⟨hframes, hphase⟩ := run_of_withholds hwithholds hbetween
  have hheld : ((a.perform r).2.run between).2.phase.Withholds n := hphase.symm ▸ hwithholds
  exact ⟨hframes, hphase, isIdle_of_withholds hheld, stuck_of_withholds hheld,
    awaits_of_withholds hheld (Nat.zero_lt_of_lt hlt)⟩

/-- A length of four bytes is refused under a limit of three, also with other bytes behind it, and
with four it waits for its payload. -/
theorem refused_length_waits_four :
    ((ofLimit 3).perform (.push [0, 1, 9, 0, 4, 7])).1.error = some (.frameTooLarge 4 3) ∧
      (((ofLimit 3).perform (.push [0, 1, 9, 0, 4, 7])).2.run [.feed [5], .push [6]]).2.Stuck 4 ∧
      (((ofLimit 3).perform (.push [0, 1, 9, 0, 4, 7])).2.run
        [.feed [5], .setLimit 4, .push []]).2.Awaits 4 := by
  have h : ((ofLimit 3).perform (.push [0, 1, 9, 0, 4, 7])).1.error
      = some (.frameTooLarge 4 3) := by decide +kernel
  obtain ⟨-, -, hwaits⟩ := refused_length_waits h
  have hstuck := hwaits [.feed [5], .push [6]]
    ⟨fun _ ↦ (by decide +kernel), fun _ ↦ (by decide +kernel), trivial⟩
  have hawaits := hwaits [.feed [5], .setLimit 4, .push []]
    ⟨fun _ ↦ (by decide +kernel), fun hjudges ↦ absurd hjudges id,
      fun hjudges ↦ absurd rfl hjudges, trivial⟩
  exact ⟨h, hstuck.2.2.2.1 (by decide +kernel), hawaits.2.2.2.2 (by decide +kernel)⟩

end Assembler

end StreamRtp
