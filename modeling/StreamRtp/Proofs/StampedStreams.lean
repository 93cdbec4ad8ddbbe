import StreamRtp.Proofs.FrameSizes
import StreamRtp.Proofs.StreamGrammar

/-!
# Streams that are read under changing limits

The limit on the length of a frame may change while the frame is arriving. Which limit decides is
said here without an assembler: every byte of a stream carries the limit that was in force when it
was read, and `Frame.cut` compares a length with the limit of its second byte, which completes it.
The limit of the first byte and those of the payload have no part in it.

## The argument

`Phase.Holds` says which bytes an assembler has of the frame in progress, with their limits, and
that a length among them was admitted. A call that is not refused keeps this, or completes the frame
with which the bytes begin; a call that is refused has completed a length that its own limit
refuses. So a chunk takes the beginning of a stream off, and what is held afterwards is the
beginning of the rest: `Frame.CutsOff`.
-/

namespace StreamRtp

/-- A byte of a stream, with the limit that was in force when it was read. -/
structure Stamped where
  byte : UInt8
  limit : Nat
  deriving DecidableEq, Repr

/-- Bytes that are read under one limit. -/
def stamp (limit : Nat) (data : Bytes) : List Stamped := data.map (⟨·, limit⟩)

/-- The bytes alone. -/
def unstamp (stream : List Stamped) : Bytes := stream.map (·.byte)

section Stamps

variable {limit : Nat} {field body data : Bytes} {stream held : List Stamped}

@[simp] theorem unstamp_stamp (limit : Nat) (data : Bytes) : unstamp (stamp limit data) = data := by
  rw [unstamp, stamp, List.map_map]
  exact List.map_id data

@[simp] theorem unstamp_append (first second : List Stamped) :
    unstamp (first ++ second) = unstamp first ++ unstamp second := List.map_append

@[simp] theorem length_unstamp (stream : List Stamped) :
    (unstamp stream).length = stream.length := List.length_map _

theorem stamp_append (limit : Nat) (first second : Bytes) :
    stamp limit (first ++ second) = stamp limit first ++ stamp limit second := List.map_append

/-- A stream that begins with a length field. -/
theorem exists_of_unstamp_eq (hfield : field.length = Frame.lengthFieldSize)
    (h : unstamp stream = field ++ body) : ∃ high low rest,
      stream = high :: low :: rest ∧ field = [high.byte, low.byte] ∧ unstamp rest = body := by
  match field, hfield with
  | [_, _], _ =>
    match stream, h with
    | high :: low :: rest, h =>
      simp only [unstamp, List.map_cons, List.cons_append, List.nil_append, List.cons.injEq] at h
      obtain ⟨rfl, rfl, hrest⟩ := h
      exact ⟨high, low, rest, rfl, rfl, hrest⟩

/-- A length that was not complete is completed under the limit of the moment. -/
theorem limit_of_append_stamp {high low : Stamped} {rest : List Stamped}
    (hlt : held.length < Frame.lengthFieldSize)
    (h : held ++ stamp limit data = high :: low :: rest) : low.limit = limit := by
  match held, hlt with
  | [], _ =>
    match data, h with
    | _ :: _ :: _, h =>
      simp only [stamp, List.nil_append, List.map_cons, List.cons.injEq] at h
      exact (congrArg Stamped.limit h.2.1).symm
  | [_], _ =>
    match data, h with
    | _ :: _, h =>
      simp only [stamp, List.cons_append, List.nil_append, List.map_cons, List.cons.injEq] at h
      exact (congrArg Stamped.limit h.2.1).symm

end Stamps

/-- What a chunk completes after other frames. -/
def Intake.behind (frames : List Bytes) (intake : Intake) : Intake :=
  ⟨frames ++ intake.frames, intake.error⟩

theorem Intake.behind_behind (first second : List Bytes) (intake : Intake) :
    (intake.behind second).behind first = intake.behind (first ++ second) := by
  simp [behind, List.append_assoc]

namespace Frame

/-! ## What becomes of a stream -/

/-- The frames of a stream, and the error of the length that ends it. A length is judged by the
limit under which its second byte was read. -/
def cut : List Stamped → Intake
  | high :: low :: rest =>
    let declared := ofBigEndian [high.byte, low.byte]
    if low.limit < declared then ⟨[], some (.frameTooLarge declared low.limit)⟩
    else if rest.length < declared then ⟨[], none⟩
    else (cut (rest.drop declared)).behind [unstamp (rest.take declared)]
  | _ => ⟨[], none⟩
termination_by stream => stream.length
decreasing_by
  simp only [List.length_drop, List.length_cons]
  omega

/-- The length with which a stream begins was admitted, if it is complete. -/
def Admitted : List Stamped → Prop
  | high :: low :: _ => ofBigEndian [high.byte, low.byte] ≤ low.limit
  | _ => True

section Cut

variable {limit : Nat} {payload data : Bytes} {high low : Stamped}
  {stream held whole rest : List Stamped}

theorem Admitted.append (h : Admitted held) (hle : lengthFieldSize ≤ held.length)
    (more : List Stamped) : Admitted (held ++ more) := by
  match held, hle with
  | _ :: _ :: _, _ => exact h

/-- Whoever shows the first two bytes of a stream to be admitted has shown all of it. -/
theorem admitted_of_forall (h : ∀ high low rest, stream = high :: low :: rest →
    ofBigEndian [high.byte, low.byte] ≤ low.limit) : Admitted stream := by
  cases stream with
  | nil => trivial
  | cons high stream =>
    cases stream with
    | nil => trivial
    | cons low rest => exact h high low rest rfl

/-- Of a length that is completed with the given bytes only the judgement of the moment matters. -/
theorem Admitted.append_stamp (hlt : held.length < lengthFieldSize) (n : Nat)
    (h : lengthFieldSize ≤ held.length + data.length →
      ofBigEndian (fill lengthFieldSize (unstamp held) data) ≤ limit) :
    Admitted (held ++ stamp limit (data.take n)) := by
  refine admitted_of_forall fun high low rest hsplit ↦ ?_
  have hbytes : unstamp held ++ data.take n = high.byte :: low.byte :: unstamp rest := by
    rw [← unstamp_stamp limit (data.take n), ← unstamp_append, hsplit]
    rfl
  have hlength : held.length + min n data.length = rest.length + lengthFieldSize := by
    have hsame := congrArg List.length hbytes
    rwa [List.length_append, length_unstamp, List.length_take, List.length_cons, List.length_cons,
      length_unstamp] at hsame
  have hheld : (unstamp held).take lengthFieldSize = unstamp held :=
    List.take_of_length_le (by rw [length_unstamp]; omega)
  have hfill : fill lengthFieldSize (unstamp held) data = [high.byte, low.byte] := by
    calc fill lengthFieldSize (unstamp held) data
      _ = (unstamp held ++ data.take n).take lengthFieldSize := by
        rw [fill, List.take_append, List.take_take, hheld, length_unstamp,
          Nat.min_eq_left (by omega)]
      _ = [high.byte, low.byte] := by
        rw [hbytes]
        rfl
  rw [limit_of_append_stamp hlt hsplit, ← hfill]
  exact h (by omega)

/-- A frame whose length was admitted comes off, whatever follows it. -/
theorem cut_append_of_wire (hbytes : unstamp whole = wire payload)
    (hmax : payload.length ≤ maxPayload) (hadmitted : Admitted whole) (later : List Stamped) :
    cut (whole ++ later) = (cut later).behind [payload] := by
  obtain ⟨high, low, body, rfl, hfield, hbody⟩ :=
    exists_of_unstamp_eq (length_bigEndian ..) hbytes
  have hdeclared : ofBigEndian [high.byte, low.byte] = payload.length := by
    rw [← hfield, ofBigEndian_bigEndian hmax]
  have hlength : body.length = payload.length := by rw [← hbody, length_unstamp]
  have hle : payload.length ≤ low.limit := hdeclared ▸ hadmitted
  have hall : payload.length ≤ (body ++ later).length := by
    rw [List.length_append]
    omega
  rw [List.cons_append, List.cons_append, cut, hdeclared, if_neg (Nat.not_lt.2 hle),
    if_neg (Nat.not_lt.2 hall), List.drop_left' hlength, List.take_left' hlength, hbody]

/-- A length is refused by the limit of its second byte, whatever follows it. -/
theorem cut_of_refuses {e : AssemblyError} (h : Refuses low.limit [high.byte, low.byte] e) :
    cut (high :: low :: rest) = ⟨[], some e⟩ := by
  rw [cut, if_pos h.lt, h.error_eq]

/-- A frame that was admitted and has not arrived completely. -/
theorem cut_of_short (h : rest.length < ofBigEndian [high.byte, low.byte])
    (hadmitted : ofBigEndian [high.byte, low.byte] ≤ low.limit) :
    cut (high :: low :: rest) = ⟨[], none⟩ := by
  rw [cut, if_neg (Nat.not_lt.2 hadmitted), if_pos h]

end Cut

end Frame

/-! ## What an assembler holds -/

namespace Phase

open StreamRtp.Frame (Admitted cut)

variable {limit : Nat} {x payload : Bytes} {p p' : Phase} {d : Delivery} {e : AssemblyError}
  {held : List Stamped}

/-- The bytes of the frame in progress with the limits under which they were read. None of them
belongs to a length that was refused. -/
structure Holds (p : Phase) (held : List Stamped) : Prop where
  wire : unstamp held = p.wire
  isOpen : p.IsOpen
  admitted : Admitted held

theorem holds_start : start.Holds [] := ⟨rfl, Nat.zero_lt_two, trivial⟩

/-- What is held is no frame yet. -/
theorem Holds.cut_eq (h : p.Holds held) (hp : p.Sound) : cut held = ⟨[], none⟩ := by
  obtain ⟨hwire, hopen, hadmitted⟩ := h
  cases p with
  | awaitingLength field =>
    have hlt : held.length < Frame.lengthFieldSize := by
      rw [← length_unstamp, hwire]
      exact hopen
    match held, hlt with
    | [], _ => rw [cut]; simp
    | [_], _ => rw [cut]; simp
  | awaitingPayload arrived missing =>
    obtain ⟨high, low, rest, rfl, hfield, hrest⟩ :=
      exists_of_unstamp_eq (length_bigEndian ..) hwire
    have hdeclared : ofBigEndian [high.byte, low.byte] = arrived.length + missing := by
      rw [← hfield, ofBigEndian_bigEndian hp.2]
    have hlength : rest.length = arrived.length := by
      rw [← length_unstamp, hrest, List.length_reverse]
    refine Frame.cut_of_short ?_ hadmitted
    have hpos := hp.1
    omega

/-- The bytes that a call takes belong to an admitted length, if it is not refused. -/
theorem Holds.admitted_feed (h : p.Holds held) (hp : p.Sound)
    (hfeed : p.feed limit x = (.ok d, p')) (n : Nat) :
    Admitted (held ++ stamp limit (x.take n)) := by
  obtain ⟨hwire, hopen, hadmitted⟩ := h
  have hlength : held.length = List.length p.wire := by rw [← hwire, length_unstamp]
  cases p with
  | awaitingPayload arrived missing =>
    refine hadmitted.append ?_ _
    rw [hlength, Phase.wire, List.length_append, length_bigEndian]
    exact Nat.le_add_right _ _
  | awaitingLength field =>
    rw [Phase.wire] at hwire hlength
    refine .append_stamp (hlength ▸ hopen) n fun hle ↦ ?_
    rw [hlength] at hle
    rw [hwire]
    -- Otherwise the call would have been refused.
    refine Nat.le_of_not_lt fun hlt ↦ ?_
    rw [feed_awaitingLength_of_le hle hp.1 rfl, if_pos hlt] at hfeed
    cases hfeed

/-- A call that brings no frame holds what it has taken. -/
theorem Holds.feed_none (h : p.Holds held) (hp : p.Sound)
    (hfeed : p.feed limit x = (.ok d, p')) (hnone : d.frame = none) :
    p'.Holds (held ++ stamp limit (x.take d.consumed)) := by
  obtain ⟨hwire, hopen⟩ := wire_feed hp hfeed
  refine ⟨?_, hopen, h.admitted_feed hp hfeed _⟩
  rw [unstamp_append, unstamp_stamp, h.wire, hwire, hnone]
  rfl

/-- A call that brings a frame takes it off. -/
theorem Holds.cut_feed (h : p.Holds held) (hp : p.Sound)
    (hfeed : p.feed limit x = (.ok d, p')) (hframe : d.frame = some payload)
    (later : List Stamped) :
    cut (held ++ stamp limit (x.take d.consumed) ++ later) = (cut later).behind [payload] := by
  obtain ⟨hwire, -⟩ := wire_feed hp hfeed
  obtain ⟨rfl, hmax⟩ := eq_start_of_frame hp hfeed hframe
  refine Frame.cut_append_of_wire ?_ hmax (h.admitted_feed hp hfeed _) later
  rw [unstamp_append, unstamp_stamp, h.wire, hwire, hframe]
  simp [start, Phase.wire]

/-- A call that is refused has completed a length that its limit refuses. -/
theorem Holds.cut_error (h : p.Holds held) (hp : p.Sound)
    (hfeed : p.feed limit x = (.error e, p')) (later : List Stamped) :
    cut (held ++ stamp limit x ++ later) = ⟨[], some e⟩ := by
  obtain ⟨hwire, hopen, -⟩ := h
  cases p with
  | awaitingPayload arrived missing => exact absurd hfeed feed_awaitingPayload_ne_error
  | awaitingLength field =>
    have hlt : held.length < Frame.lengthFieldSize := by
      rw [← length_unstamp, hwire]
      exact hopen
    obtain ⟨field', rest', hbytes, hrefuses, -⟩ := wire_feed_of_error hp hfeed
    have hstream : unstamp (held ++ stamp limit x) = field' ++ rest' := by
      rw [unstamp_append, unstamp_stamp, hwire, hbytes]
    obtain ⟨high, low, rest, hsplit, rfl, -⟩ := exists_of_unstamp_eq hrefuses.complete hstream
    rw [hsplit]
    refine Frame.cut_of_refuses ?_
    rwa [limit_of_append_stamp hlt hsplit]

end Phase

/-! ## Chunks -/

namespace Frame

/-- What a chunk makes of the beginning of a stream: its frames come off, and what is held is the
beginning of the rest, or a length ends the stream. -/
inductive CutsOff (stream : List Stamped) (out : Intake × Assembler) : Prop
  | held (held : List Stamped) (hnone : out.1.error = none) (hheld : out.2.phase.Holds held)
    (hcut : ∀ later, cut (stream ++ later) = (cut (held ++ later)).behind out.1.frames)
  | refused (e : AssemblyError) (herror : out.1.error = some e)
    (hcut : ∀ later, cut (stream ++ later) = out.1)

end Frame

open StreamRtp.Frame (cut CutsOff) in
/-- A chunk cuts off what was held and what it brings. -/
theorem Assembler.cutsOff_push {a : Assembler} {held : List Stamped} (h : a.phase.Holds held)
    (x : Bytes) : CutsOff (held ++ stamp a.limit x) (a.push x) := by
  induction a, x using push_induction generalizing held with
  | nil a =>
    rw [push_nil]
    exact .held held rfl h fun later ↦ by simp [stamp, Intake.behind]
  | refused a x e a' hx hfeed =>
    rw [push_of_error hx hfeed]
    exact .refused e rfl (h.cut_error a.sound (feed_eq_iff.1 hfeed).1)
  | delivered a x d a' hx hfeed ih =>
    obtain ⟨hphase, hlimit⟩ := feed_eq_iff.1 hfeed
    by_cases hnone : d.frame = none
    · rw [push_of_none hx hfeed hnone]
      have hheld := h.feed_none a.sound hphase hnone
      rw [(fits_feed (congrArg Prod.fst hfeed)).all hnone, List.take_length] at hheld
      exact .held _ rfl hheld fun later ↦ rfl
    · -- A frame comes off, and the rest of the chunk begins a new one.
      obtain ⟨payload, hframe⟩ := Option.ne_none_iff_exists'.1 hnone
      obtain ⟨hstart, -⟩ := Phase.eq_start_of_frame a.sound hphase hframe
      have hcut : ∀ later, cut (held ++ stamp a.limit x ++ later)
          = (cut (stamp a'.limit (x.drop d.consumed) ++ later)).behind [payload] := by
        intro later
        have hsplit := stamp_append a.limit (x.take d.consumed) (x.drop d.consumed)
        rw [List.take_append_drop] at hsplit
        rw [← h.cut_feed a.sound hphase hframe, hlimit, hsplit]
        simp only [List.append_assoc]
      have hrest := ih (hstart ▸ Phase.holds_start)
      rw [List.nil_append] at hrest
      rw [push_of_ok hx hfeed, hframe]
      cases hrest with
      | held held' hnone hheld hlater =>
        refine .held held' hnone hheld fun later ↦ ?_
        rw [hcut, hlater, Intake.behind_behind]
        rfl
      | refused e herror hlater =>
        refine .refused e herror fun later ↦ ?_
        rw [hcut, hlater]
        rfl

end StreamRtp
