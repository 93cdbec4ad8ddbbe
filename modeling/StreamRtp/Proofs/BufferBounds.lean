import Mathlib.Data.Nat.PSub
import StreamRtp.Proofs.EndToEnd
import StreamRtp.Proofs.RefusedLengths

/-!
# An assembler in memory

In memory a length field is a buffer of two bytes with a count of those that have come, and a call
finds its way through its input by indices: it looks at the bytes behind those that it has consumed,
takes as many as it misses or as there are, and writes them behind those that it has. None of this
may go wrong. `Memory` is an assembler of this kind. An index that is out of range or a difference
below zero leaves it without an answer, and so does a call that goes on for too long.

## The argument

`Phase` keeps the bytes without the buffer, and what is missing instead of the size. So a phase can
be read off the buffers. As long as these are `InBounds`, all ranges of a round are there, and the
round comes to the same as it does to the phase, in bounds again. A call has at most two rounds, as
only the first one can find a length field in progress. Since a call that is not refused takes at
least one byte, a chunk has no more calls than bytes.

## What a call depends on

The beginning of an input is taken as a whole until the place where the call ends, and beyond that
nothing is looked at if a frame was completed. Both follow from what a call does with more input.
-/

namespace StreamRtp

/-! ## Checked ranges -/

/-- The bytes from one index to another, if there is such a range. -/
def slice? (bytes : Bytes) (start stop : Nat) : Option Bytes :=
  if start ≤ stop ∧ stop ≤ bytes.length then some ((bytes.take stop).drop start) else none

/-- Bytes with others written over a range, if there is such a range and it is of that size. -/
def overwrite? (bytes : Bytes) (start stop : Nat) (part : Bytes) : Option Bytes :=
  if start ≤ stop ∧ stop ≤ bytes.length ∧ part.length = stop - start then
    some (bytes.take start ++ part ++ bytes.drop stop)
  else none

/-- The bytes at the beginning of an input that something of a given size misses if it has so many,
or all that there are. -/
def portion? (input : Bytes) (size held : Nat) : Option Bytes := do
  let missing ← Nat.psub size held
  slice? input 0 (min missing input.length)

section Ranges

variable {bytes part : Bytes} {n size held : Nat}

theorem slice?_to_end (h : n ≤ bytes.length) :
    slice? bytes n bytes.length = some (bytes.drop n) := by
  rw [slice?, if_pos ⟨h, Nat.le_refl _⟩, List.take_length]

theorem slice?_from_start (h : n ≤ bytes.length) : slice? bytes 0 n = some (bytes.take n) := by
  rw [slice?, if_pos ⟨Nat.zero_le n, h⟩, List.drop_zero]

theorem overwrite?_of_le (h : n + part.length ≤ bytes.length) :
    overwrite? bytes n (n + part.length) part
      = some (bytes.take n ++ part ++ bytes.drop (n + part.length)) := by
  rw [overwrite?, if_pos ⟨Nat.le_add_right _ _, h, (Nat.add_sub_cancel_left ..).symm⟩]

theorem portion?_of_le (h : held ≤ size) (input : Bytes) :
    portion? input size held = some (input.take (size - held)) := by
  have hmissing : Nat.psub size held = some (size - held) :=
    Nat.psub_eq_some.2 (Nat.sub_add_cancel h)
  rw [portion?, hmissing]
  change slice? input 0 (min (size - held) input.length) = _
  rw [slice?_from_start (Nat.min_le_right _ _), ← List.take_eq_take_min]

end Ranges

/-! ## Buffers -/

/-- The frame in progress, as it lies in memory. -/
inductive Buffers where
  /-- A buffer for the length field, and how much of it is filled. -/
  | awaitingLength (field : Bytes) (filled : Nat)
  /-- The bytes of the payload that have arrived, and how many it will have. -/
  | awaitingPayload (payload : Bytes) (expected : Nat)
  deriving DecidableEq, Repr

namespace Buffers

/-- Nothing of the next frame has arrived. -/
def start : Buffers := .awaitingLength (List.replicate Frame.lengthFieldSize 0) 0

/-- What lies in the buffers. -/
def phase : Buffers → Phase
  | .awaitingLength field filled => .awaitingLength (field.take filled)
  | .awaitingPayload payload expected =>
    .awaitingPayload payload.reverse (expected - payload.length)

/-- The buffers are of the right size, and not fuller than that. -/
def InBounds : Buffers → Prop
  | .awaitingLength field filled =>
    field.length = Frame.lengthFieldSize ∧ filled ≤ Frame.lengthFieldSize
  | .awaitingPayload payload expected =>
    payload.length < expected ∧ expected ≤ Frame.maxPayload

/-- Go on with a call that has consumed some bytes of its input. There is no answer if a range is
not there, or if the call does not end within so many rounds. -/
def feedWithin? (limit : Nat) (bytes : Bytes) :
    (rounds consumed : Nat) → Buffers → Option (Except AssemblyError Delivery × Buffers)
  | 0, _, _ => none
  | rounds + 1, consumed, .awaitingLength field filled => do
    let rest ← slice? bytes consumed bytes.length
    let part ← portion? rest Frame.lengthFieldSize filled
    let field ← overwrite? field filled (filled + part.length) part
    if filled + part.length < Frame.lengthFieldSize then
      some (.ok ⟨consumed + part.length, none⟩, .awaitingLength field (filled + part.length))
    else if limit < ofBigEndian field then
      some (.error (.frameTooLarge (ofBigEndian field) limit),
        .awaitingLength field (filled + part.length))
    else if ofBigEndian field = 0 then some (.ok ⟨consumed + part.length, some []⟩, start)
    else
      feedWithin? limit bytes rounds (consumed + part.length)
        (.awaitingPayload [] (ofBigEndian field))
  | _ + 1, consumed, .awaitingPayload payload expected => do
    let rest ← slice? bytes consumed bytes.length
    let part ← portion? rest expected payload.length
    if (payload ++ part).length < expected then
      some (.ok ⟨consumed + part.length, none⟩, .awaitingPayload (payload ++ part) expected)
    else some (.ok ⟨consumed + part.length, some (payload ++ part)⟩, start)

/-- Feed what is left of a chunk, with the frames completed before it at hand. There is no answer
if one of the calls has none, if what a call has consumed is not there, or if the chunk takes more
than so many calls. Each call has two rounds. -/
def pushWithin? (limit calls : Nat) (done : List Bytes) (bytes : Bytes) (b : Buffers) :
    Option (Intake × Buffers) :=
  if bytes = [] then some (⟨done, none⟩, b)
  else
    match calls with
    | 0 => none
    | calls + 1 => do
      let (result, b) ← b.feedWithin? limit bytes 2 0
      match result with
      | .error e => some (⟨done, some e⟩, b)
      | .ok d =>
        let rest ← slice? bytes d.consumed bytes.length
        pushWithin? limit calls (done ++ d.frame.toList) rest b

/-- There is an answer, it is the one that phases give, and it leaves the buffers in bounds. -/
def Mirrors {α : Type} (out : Option (α × Buffers)) (answer : α) (p : Phase) : Prop :=
  ∃ b, out = some (answer, b) ∧ b.phase = p ∧ b.InBounds

theorem mirrors_some {α : Type} {answer : α} {b : Buffers} {p : Phase} (hp : b.phase = p)
    (hb : b.InBounds) : Mirrors (some (answer, b)) answer p := ⟨b, rfl, hp, hb⟩

theorem inBounds_start : start.InBounds := ⟨List.length_replicate, Nat.zero_le _⟩

/-! ## Calls -/

section Calls

variable {limit consumed rounds : Nat} {bytes : Bytes} {b : Buffers}

/-- The round of the payload, which ends the call. -/
theorem mirrors_feedWithin?_awaitingPayload {payload : Bytes} {expected : Nat}
    (hb : (awaitingPayload payload expected).InBounds) (hle : consumed ≤ bytes.length) :
    Mirrors (feedWithin? limit bytes (rounds + 1) consumed (.awaitingPayload payload expected))
      ((awaitingPayload payload expected).phase.feedFrom limit consumed (bytes.drop consumed)).1
      ((awaitingPayload payload expected).phase.feedFrom limit consumed
        (bytes.drop consumed)).2 := by
  obtain ⟨hlt, hmax⟩ := hb
  rw [feedWithin?, slice?_to_end hle, phase, Phase.feedFrom_eq]
  generalize bytes.drop consumed = rest
  simp only [Option.bind_eq_bind, Option.bind_some, portion?_of_le (Nat.le_of_lt hlt)]
  by_cases hrest : rest.length < expected - payload.length
  · have hshort : (payload ++ rest).length < expected := by
      rw [List.length_append]
      omega
    rw [List.take_of_length_le (Nat.le_of_lt hrest), if_pos hshort,
      Phase.feed_awaitingPayload_of_lt hrest]
    refine mirrors_some ?_ ⟨hshort, hmax⟩
    rw [phase, List.reverse_append, List.length_append, Nat.sub_add_eq]
  · have hpart : (rest.take (expected - payload.length)).length = expected - payload.length :=
      List.length_take_of_le (Nat.le_of_not_lt hrest)
    have hfull : ¬ (payload ++ rest.take (expected - payload.length)).length < expected := by
      rw [List.length_append]
      omega
    rw [if_neg hfull, hpart, Phase.feed_awaitingPayload_of_le (Nat.le_of_not_lt hrest),
      List.reverse_reverse]
    exact mirrors_some rfl inBounds_start

/-- What the round of the length field leaves in the buffer. -/
theorem exists_overwrite?_fill {field : Bytes} {filled : Nat}
    (hb : (awaitingLength field filled).InBounds) (input : Bytes) :
    ∃ field', overwrite? field filled
        (filled + (input.take (Frame.lengthFieldSize - filled)).length)
        (input.take (Frame.lengthFieldSize - filled)) = some field' ∧
      field'.length = Frame.lengthFieldSize ∧
      field'.take (filled + (input.take (Frame.lengthFieldSize - filled)).length)
        = fill Frame.lengthFieldSize (field.take filled) input := by
  obtain ⟨hfield, hfilled⟩ := hb
  have hheld : (field.take filled).length = filled := List.length_take_of_le (hfield ▸ hfilled)
  have hpart := List.length_take_le (Frame.lengthFieldSize - filled) input
  rw [fill, hheld]
  generalize input.take (Frame.lengthFieldSize - filled) = part at hpart
  refine ⟨_, overwrite?_of_le (by omega), ?_, List.take_left' ?_⟩
  · rw [List.length_append, List.length_append, List.length_drop, hheld]
    omega
  · rw [List.length_append, hheld]

/-- A call comes to the same as it does to the phase, in two rounds. -/
theorem mirrors_feedWithin? (limit : Nat) (bytes : Bytes) (hb : b.InBounds) :
    Mirrors (b.feedWithin? limit bytes 2 0) (b.phase.feed limit bytes).1
      (b.phase.feed limit bytes).2 := by
  cases b with
  | awaitingPayload payload expected =>
    exact mirrors_feedWithin?_awaitingPayload hb (Nat.zero_le _)
  | awaitingLength field filled =>
    obtain ⟨field', hwritten, hsize, hfill⟩ := exists_overwrite?_fill hb bytes
    obtain ⟨hfield, hfilled⟩ := hb
    have hheld : (field.take filled).length = filled := List.length_take_of_le (hfield ▸ hfilled)
    have hpart : (bytes.take (Frame.lengthFieldSize - filled)).length
        = min (Frame.lengthFieldSize - filled) bytes.length := List.length_take
    rw [feedWithin?, slice?_to_end (Nat.zero_le _), phase]
    simp only [Option.bind_eq_bind, Option.bind_some, List.drop_zero, portion?_of_le hfilled,
      hwritten, Nat.zero_add]
    by_cases hlt : (field.take filled).length + bytes.length < Frame.lengthFieldSize
    · rw [fill_of_lt hlt] at hfill
      rw [Phase.feed_awaitingLength_of_lt hlt, if_pos (by omega), hpart,
        Nat.min_eq_right (by omega)]
      rw [hpart, Nat.min_eq_right (by omega)] at hfill
      exact mirrors_some (congrArg Phase.awaitingLength hfill) ⟨hsize, by omega⟩
    · -- The buffer is full, so all of it is the field.
      have hfull : filled + (bytes.take (Frame.lengthFieldSize - filled)).length
          = Frame.lengthFieldSize := by omega
      have hall : field'.take Frame.lengthFieldSize = field' :=
        List.take_of_length_le (Nat.le_of_eq hsize)
      rw [hfull, hall] at hfill
      rw [Phase.feed_awaitingLength_of_le (by omega) (by omega) hfill.symm, hfull, hheld,
        if_neg (Nat.lt_irrefl _)]
      have hconsumed : (bytes.take (Frame.lengthFieldSize - filled)).length
          = Frame.lengthFieldSize - filled := by omega
      rw [hconsumed]
      split
      · exact mirrors_some (congrArg Phase.awaitingLength hall) ⟨hsize, Nat.le_refl _⟩
      · split
        · exact mirrors_some rfl inBounds_start
        · rename_i hzero
          have hnew : (awaitingPayload [] (ofBigEndian field')).InBounds :=
            ⟨Nat.pos_of_ne_zero hzero, ofBigEndian_le hsize⟩
          exact mirrors_feedWithin?_awaitingPayload hnew (by omega)

end Calls

/-! ## Chunks -/

section Chunks

variable {limit calls : Nat} {done : List Bytes} {x : Bytes} {b b' : Buffers}

theorem pushWithin?_nil : pushWithin? limit calls done [] b = some (⟨done, none⟩, b) := by
  cases calls <;> rfl

theorem pushWithin?_of_error {e : AssemblyError} (hx : x ≠ [])
    (h : b.feedWithin? limit x 2 0 = some (.error e, b')) :
    pushWithin? limit (calls + 1) done x b = some (⟨done, some e⟩, b') := by
  rw [pushWithin?, if_neg hx]
  simp only [h, Option.bind_eq_bind, Option.bind_some]

theorem pushWithin?_of_ok {d : Delivery} (hx : x ≠ []) (hle : d.consumed ≤ x.length)
    (h : b.feedWithin? limit x 2 0 = some (.ok d, b')) :
    pushWithin? limit (calls + 1) done x b
      = pushWithin? limit calls (done ++ d.frame.toList) (x.drop d.consumed) b' := by
  rw [pushWithin?, if_neg hx]
  simp only [h, slice?_to_end hle, Option.bind_eq_bind, Option.bind_some]

/-- A chunk comes to the same as it does to the assembler, in one call for each byte at most. -/
theorem mirrors_pushWithin? (a : Assembler) (x : Bytes) (hcalls : x.length ≤ calls)
    (done : List Bytes) (hb : b.InBounds) (hphase : b.phase = a.phase) :
    Mirrors (pushWithin? a.limit calls done x b)
      ⟨done ++ (a.push x).1.frames, (a.push x).1.error⟩ (a.push x).2.phase := by
  induction a, x using Assembler.push_induction generalizing calls done b with
  | nil a =>
    rw [pushWithin?_nil, Assembler.push_nil, List.append_nil]
    exact mirrors_some hphase hb
  | refused a x e a' hx h =>
    obtain ⟨b', hfeed, hphase', hb'⟩ := mirrors_feedWithin? a.limit x hb
    rw [hphase, (Assembler.feed_eq_iff.1 h).1] at hfeed hphase'
    cases calls with
    | zero => exact absurd (List.length_eq_zero_iff.1 (Nat.le_zero.1 hcalls)) hx
    | succ calls =>
      rw [pushWithin?_of_error hx hfeed, Assembler.push_of_error hx h, List.append_nil]
      exact mirrors_some hphase' hb'
  | delivered a x d a' hx h ih =>
    obtain ⟨hle, hpos, -⟩ := Assembler.fits_feed (congrArg Prod.fst h)
    obtain ⟨hcall, hlimit⟩ := Assembler.feed_eq_iff.1 h
    obtain ⟨b', hfeed, hphase', hb'⟩ := mirrors_feedWithin? a.limit x hb
    rw [hphase, hcall] at hfeed hphase'
    cases calls with
    | zero => exact absurd (List.length_eq_zero_iff.1 (Nat.le_zero.1 hcalls)) hx
    | succ calls =>
      -- The call has taken a byte, so the bytes that are left need no more calls than are left.
      have hrest : (x.drop d.consumed).length ≤ calls := by
        have htaken := hpos hx
        rw [List.length_drop]
        omega
      have hlater := ih hrest (done ++ d.frame.toList) hb' hphase'
      rw [hlimit, List.append_assoc] at hlater
      rwa [pushWithin?_of_ok hx hle hfeed, Assembler.push_of_ok hx h]

end Chunks

end Buffers

/-! ## Histories -/

/-- An assembler in memory. -/
structure Memory where
  buffers : Buffers
  limit : Nat
  deriving DecidableEq, Repr

namespace Memory

/-- An assembler at the start of a stream. -/
def ofLimit (limit : Nat) : Memory := ⟨.start, limit⟩

/-- Carry a request out, with two rounds for a call and one call for each byte of a chunk. -/
def perform? (m : Memory) : Assembler.Request → Option (Assembler.Answer × Memory)
  | .feed data => do
    let (result, buffers) ← m.buffers.feedWithin? m.limit data 2 0
    some (.fed result, ⟨buffers, m.limit⟩)
  | .push data => do
    let (intake, buffers) ← Buffers.pushWithin? m.limit data.length [] data m.buffers
    some (.pushed intake, ⟨buffers, m.limit⟩)
  | .setLimit limit => some (.done, ⟨m.buffers, limit⟩)

/-- Carry requests out one after the other. -/
def run? (m : Memory) : List Assembler.Request → Option (List Assembler.Answer × Memory)
  | [] => some ([], m)
  | r :: requests => do
    let (answer, m) ← m.perform? r
    let (answers, m) ← m.run? requests
    some (answer :: answers, m)

/-- What lies in memory is an assembler, and it lies there as it should. -/
structure Holds (m : Memory) (a : Assembler) : Prop where
  inBounds : m.buffers.InBounds
  phase_eq : m.buffers.phase = a.phase
  limit_eq : m.limit = a.limit

theorem holds_ofLimit (limit : Nat) : (ofLimit limit).Holds (.ofLimit limit) :=
  ⟨Buffers.inBounds_start, rfl, rfl⟩

variable {m : Memory} {a : Assembler}

/-- A request is carried out in memory with the same answer. -/
theorem exists_perform? (h : m.Holds a) (r : Assembler.Request) :
    ∃ m', m.perform? r = some ((a.perform r).1, m') ∧ m'.Holds (a.perform r).2 := by
  obtain ⟨hb, hphase, hlimit⟩ := h
  cases r with
  | feed data =>
    obtain ⟨b', hfeed, hphase', hb'⟩ := Buffers.mirrors_feedWithin? m.limit data hb
    rw [hphase, hlimit] at hfeed hphase'
    refine ⟨⟨b', a.limit⟩, ?_, hb', hphase', rfl⟩
    rw [perform?, hlimit, hfeed]
    rfl
  | push data =>
    obtain ⟨b', hpush, hphase', hb'⟩ :=
      Buffers.mirrors_pushWithin? a data (Nat.le_refl _) [] hb hphase
    refine ⟨⟨b', a.limit⟩, ?_, hb', hphase', (a.limit_push data).symm⟩
    rw [perform?, hlimit, hpush]
    rfl
  | setLimit limit => exact ⟨⟨m.buffers, limit⟩, rfl, hb, hphase, rfl⟩

theorem exists_run? (h : m.Holds a) (requests : List Assembler.Request) :
    ∃ m', m.run? requests = some ((a.run requests).1, m') ∧ m'.Holds (a.run requests).2 := by
  induction requests generalizing m a with
  | nil => exact ⟨m, rfl, h⟩
  | cons r requests ih =>
    obtain ⟨m₁, hfirst, hheld⟩ := exists_perform? h r
    obtain ⟨m₂, hlater, hlast⟩ := ih hheld
    refine ⟨m₂, ?_, hlast⟩
    rw [run?, hfirst]
    simp only [Option.bind_eq_bind, Option.bind_some, hlater]
    rfl

end Memory

/-! ## The beginning of an input -/

namespace Assembler

variable {a a' : Assembler} {x : Bytes} {d : Delivery}

/-- A call takes all of an input that does not reach to where the longer one was taken. -/
theorem exists_feed_take (h : a.feed x = (.ok d, a')) {n : Nat} (hn : n < d.consumed) :
    ∃ p, a.feed (x.take n) = (.ok ⟨n, none⟩, p) := by
  have hle := (fits_feed (congrArg Prod.fst h)).le
  have hlen : (x.take n).length = n := List.length_take_of_le (by omega)
  cases hfeed : a.feed (x.take n) with
  | mk out p =>
    cases out with
    | error e =>
      have hwhole := feed_append_of_error hfeed (x.drop n)
      rw [List.take_append_drop, h] at hwhole
      cases hwhole
    | ok d₁ =>
      have hfits := fits_feed (congrArg Prod.fst hfeed)
      by_cases hframe : d₁.frame = none
      · obtain ⟨consumed, frame⟩ := d₁
        cases hframe
        have hconsumed : consumed = n := (hfits.all rfl).trans hlen
        exact ⟨p, by rw [hconsumed]⟩
      · have hwhole := feed_append_of_frame hfeed hframe (x.drop n)
        rw [List.take_append_drop, h] at hwhole
        cases hwhole
        exact absurd (hlen ▸ hfits.le) (Nat.not_le.2 hn)

/-- A call that completes a frame does not depend on what is behind the frame. -/
theorem feed_take_append (h : a.feed x = (.ok d, a')) (hframe : d.frame ≠ none) (rest : Bytes) :
    a.feed (x.take d.consumed ++ rest) = (.ok d, a') := by
  have hle := (fits_feed (congrArg Prod.fst h)).le
  refine feed_append_of_frame ?_ hframe rest
  by_cases hall : d.consumed = x.length
  · rwa [hall, List.take_length]
  cases hfeed : a.feed (x.take d.consumed) with
  | mk out p =>
    cases out with
    | error e =>
      have hwhole := feed_append_of_error hfeed (x.drop d.consumed)
      rw [List.take_append_drop, h] at hwhole
      cases hwhole
    | ok d₁ =>
      by_cases hnone : d₁.frame = none
      · -- All is taken without a frame, so the call goes on, and takes more than it did.
        have hwhole := feed_append_of_none hfeed hnone (x.drop d.consumed)
        rw [List.take_append_drop, h, (fits_feed (congrArg Prod.fst hfeed)).all hnone,
          List.length_take_of_le hle] at hwhole
        cases hmore : p.feed (x.drop d.consumed) with
        | mk out' p' =>
          rw [hmore] at hwhole
          cases out' with
          | error e => cases hwhole
          | ok d₂ =>
            have hsum : d.consumed = d.consumed + d₂.consumed :=
              congrArg Delivery.consumed (Except.ok.inj (congrArg Prod.fst hwhole))
            have hbehind : x.drop d.consumed ≠ [] := fun hend ↦
              hall (Nat.le_antisymm hle (List.drop_eq_nil_iff.1 hend))
            have hpos := (fits_feed (congrArg Prod.fst hmore)).pos hbehind
            omega
      · have hwhole := feed_append_of_frame hfeed hnone (x.drop d.consumed)
        rw [List.take_append_drop, h] at hwhole
        exact hwhole.symm

/-! ## The main result -/

/-- **Progress of an assembler.** After any requests the assembler in memory has given the answers
of the assembler, with all ranges in range, in two rounds a call and one call a byte, and it lies in
memory as it should. A call that is given bytes and not refused takes at least one, and all of them
if it brings no frame. No shorter beginning of its input brings a frame, and if it brings one,
nothing behind that makes a difference. -/
theorem feed_progress (limit : Nat) (requests : List Request) :
    let a := ((ofLimit limit).run requests).2
    (∃ m, (Memory.ofLimit limit).run? requests = some (((ofLimit limit).run requests).1, m) ∧
      m.Holds a) ∧
    ∀ x d a', x ≠ [] → a.feed x = (.ok d, a') →
      1 ≤ d.consumed ∧ d.consumed ≤ x.length ∧ (d.frame = none → d.consumed = x.length) ∧
      (∀ n < d.consumed, ∃ p, a.feed (x.take n) = (.ok ⟨n, none⟩, p)) ∧
      (d.frame ≠ none → ∀ rest, a.feed (x.take d.consumed ++ rest) = (.ok d, a')) := by
  intro a
  refine ⟨Memory.exists_run? (Memory.holds_ofLimit limit) requests, fun x d a' hx h ↦ ?_⟩
  obtain ⟨hle, hpos, hall⟩ := fits_feed (congrArg Prod.fst h)
  exact ⟨hpos hx, hle, hall, fun n hn ↦ exists_feed_take h hn, feed_take_append h⟩

/-- A length of two bytes that was refused is in the buffer when the limit is raised. The next call
finds the buffer full and takes nothing for it, but it goes on with the payload. -/
theorem feed_progress_raised :
    (∃ m, (Memory.ofLimit 1).run? [.push [0, 2, 7], .setLimit 2]
        = some (((ofLimit 1).run [.push [0, 2, 7], .setLimit 2]).1, m) ∧
      m.Holds ((ofLimit 1).run [.push [0, 2, 7], .setLimit 2]).2) ∧
    ((ofLimit 1).run [.push [0, 2, 7], .setLimit 2]).2.feed [8, 9, 0]
      = (.ok ⟨2, some [8, 9]⟩, ofLimit 2) ∧
    ∀ rest, ((ofLimit 1).run [.push [0, 2, 7], .setLimit 2]).2.feed ([8, 9] ++ rest)
      = (.ok ⟨2, some [8, 9]⟩, ofLimit 2) := by
  obtain ⟨hmemory, hcalls⟩ := feed_progress 1 [.push [0, 2, 7], .setLimit 2]
  have h : ((ofLimit 1).run [.push [0, 2, 7], .setLimit 2]).2.feed [8, 9, 0]
      = (.ok ⟨2, some [8, 9]⟩, ofLimit 2) := by decide +kernel
  obtain ⟨-, -, -, -, hbehind⟩ := hcalls [8, 9, 0] _ _ (List.cons_ne_nil _ _) h
  exact ⟨hmemory, h, hbehind (Option.some_ne_none _)⟩

end Assembler

end StreamRtp
