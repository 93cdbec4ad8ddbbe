import StreamRtp.Frame.Assembler

/-!
# Cutting a stream into chunks

How a stream is cut into chunks is no part of its meaning: pushing the chunks one after the other
completes the same frames and leaves the same assembler as pushing the whole stream at once. This
holds for every assembler, hence also in the middle of a frame and after a length was refused.

## The argument

A call that runs out of bytes has put all of them into the phase, and a later call goes on as if it
had been given both inputs: `Phase.feed_append_of_none`. A call that completes a frame or is refused
has not looked at what follows. Both are said of `feed` first, and carried over to `push` by the
recursion of `push` itself.

## Where a stream is refused

`Phase.wire` gives back the bytes of the frame in progress. With it, nothing of a stream is lost or
made up: what was held and what is pushed are the frames, as they are written on the wire, and what
is held afterwards. So the length that is refused has a place in the stream, and a chunk fails if
and only if the stream up to its end holds that length completely.
-/

namespace StreamRtp

namespace Phase

variable {limit missing : Nat} {arrived held x y : Bytes} {p : Phase}

/-! ## A call with more input -/

theorem feed_awaitingPayload_append_of_lt (h : x.length < missing) :
    (awaitingPayload arrived missing).feed limit (x ++ y)
      = (awaitingPayload (x.reverse ++ arrived) (missing - x.length)).feedFrom limit x.length
          y := by
  rw [feedFrom_eq]
  by_cases hlt : (x ++ y).length < missing
  · have hy : y.length < missing - x.length := by
      rw [List.length_append] at hlt
      omega
    rw [feed_awaitingPayload_of_lt hlt, feed_awaitingPayload_of_lt hy, List.length_append,
      List.reverse_append, List.append_assoc, Nat.sub_sub]
    rfl
  · have hy : missing - x.length ≤ y.length := by
      rw [List.length_append] at hlt
      omega
    rw [feed_awaitingPayload_of_le (by omega), feed_awaitingPayload_of_le hy, List.take_append,
      List.take_of_length_le (Nat.le_of_lt h), List.reverse_append, List.reverse_reverse,
      List.append_assoc]
    simp only [Except.map, Delivery.after]
    rw [show x.length + (missing - x.length) = missing by omega]

theorem feed_awaitingPayload_append_of_le (h : missing ≤ x.length) :
    (awaitingPayload arrived missing).feed limit (x ++ y)
      = (awaitingPayload arrived missing).feed limit x := by
  have hall : missing ≤ (x ++ y).length := by
    rw [List.length_append]
    omega
  rw [feed_awaitingPayload_of_le h, feed_awaitingPayload_of_le hall,
    List.take_append_of_le_length h]

theorem feed_awaitingLength_append_of_lt (h : held.length + x.length < Frame.lengthFieldSize) :
    (awaitingLength held).feed limit (x ++ y)
      = (awaitingLength (held ++ x)).feedFrom limit x.length y := by
  rw [feedFrom_eq]
  have hlen : (held ++ x).length = held.length + x.length := List.length_append
  by_cases hlt : held.length + (x ++ y).length < Frame.lengthFieldSize
  · have hy : (held ++ x).length + y.length < Frame.lengthFieldSize := by
      rw [List.length_append] at hlt
      omega
    rw [feed_awaitingLength_of_lt hlt, feed_awaitingLength_of_lt hy, List.length_append,
      List.append_assoc]
    rfl
  · have hy : Frame.lengthFieldSize ≤ (held ++ x).length + y.length := by
      rw [List.length_append] at hlt
      omega
    have hcount : x.length + (Frame.lengthFieldSize - (held ++ x).length)
        = Frame.lengthFieldSize - held.length := by omega
    have hdrop : (x ++ y).drop (Frame.lengthFieldSize - held.length)
        = y.drop (Frame.lengthFieldSize - (held ++ x).length) := by
      rw [← hcount, List.drop_append, List.drop_of_length_le (Nat.le_add_right _ _),
        List.nil_append, Nat.add_sub_cancel_left]
    rw [feed_awaitingLength_of_le (by omega) (by omega) (fill_append_of_lt y h),
      feed_awaitingLength_of_le hy (by omega) rfl]
    split
    · rfl
    · split
      · simp only [Except.map, Delivery.after, hcount]
      · rw [← hcount, feedFrom_add, hcount, hdrop]

theorem feed_awaitingLength_append_of_le (h : Frame.lengthFieldSize ≤ held.length + x.length)
    (hheld : held.length ≤ Frame.lengthFieldSize) {field : Bytes}
    (hfield : fill Frame.lengthFieldSize held x = field) :
    (awaitingLength held).feed limit (x ++ y)
      = if limit < ofBigEndian field then
          (.error (.frameTooLarge (ofBigEndian field) limit), .awaitingLength field)
        else if ofBigEndian field = 0 then
          (.ok ⟨Frame.lengthFieldSize - held.length, some []⟩, start)
        else
          (awaitingPayload [] (ofBigEndian field)).feedFrom limit
            (Frame.lengthFieldSize - held.length)
            (x.drop (Frame.lengthFieldSize - held.length) ++ y) := by
  have hall : Frame.lengthFieldSize ≤ held.length + (x ++ y).length := by
    rw [List.length_append]
    omega
  rw [feed_awaitingLength_of_le hall hheld ((fill_append_of_le y h).trans hfield),
    List.drop_append_of_le_length (by omega)]

/-- A call that is given more input comes to the same, if it has completed a frame or was refused.
Otherwise it goes on as a later call does. -/
theorem feed_append (hp : p.Sound) : p.feed limit (x ++ y) =
    match p.feed limit x with
    | (.ok ⟨n, none⟩, p') => p'.feedFrom limit n y
    | out => out := by
  cases p with
  | awaitingPayload arrived missing =>
    by_cases hlt : x.length < missing
    · rw [feed_awaitingPayload_append_of_lt hlt, feed_awaitingPayload_of_lt hlt]
    · rw [feed_awaitingPayload_append_of_le (by omega), feed_awaitingPayload_of_le (by omega)]
  | awaitingLength held =>
    by_cases hlt : held.length + x.length < Frame.lengthFieldSize
    · rw [feed_awaitingLength_append_of_lt hlt, feed_awaitingLength_of_lt hlt]
    · rw [feed_awaitingLength_append_of_le (by omega) hp.1 rfl,
        feed_awaitingLength_of_le (by omega) hp.1 rfl]
      split
      · rfl
      · split
        · rfl
        · -- The payload is collected from what is left of the input.
          rename_i hzero
          generalize x.drop (Frame.lengthFieldSize - held.length) = rest
          rw [feedFrom_eq, feedFrom_eq]
          by_cases hrest : rest.length < ofBigEndian (fill Frame.lengthFieldSize held x)
          · rw [feed_awaitingPayload_append_of_lt hrest, feed_awaitingPayload_of_lt hrest]
            simp only [Except.map, Delivery.after]
            rw [feedFrom_add]
            rfl
          · rw [feed_awaitingPayload_append_of_le (by omega),
              feed_awaitingPayload_of_le (by omega)]
            rfl

end Phase

/-! ## The place of a length in the stream -/

namespace Frame

/-- A limit refuses a length field with the given error. -/
structure Refuses (limit : Nat) (field : Bytes) (e : AssemblyError) : Prop where
  complete : field.length = lengthFieldSize
  lt : limit < ofBigEndian field
  error_eq : e = .frameTooLarge (ofBigEndian field) limit

end Frame

namespace Phase

variable {limit missing : Nat} {arrived x : Bytes} {p p' : Phase} {d : Delivery}
  {e : AssemblyError}

/-- The bytes of the frame in progress, as they have arrived. -/
def wire : Phase → Bytes
  | .awaitingLength field => field
  | .awaitingPayload arrived missing =>
    bigEndian Frame.lengthFieldSize (arrived.length + missing) ++ arrived.reverse

/-- No length has been refused. -/
def IsOpen : Phase → Prop
  | .awaitingLength field => field.length < Frame.lengthFieldSize
  | .awaitingPayload .. => True

theorem wire_feed_awaitingPayload
    (h : (awaitingPayload arrived missing).feed limit x = (.ok d, p')) :
    (awaitingPayload arrived missing).wire ++ x.take d.consumed
      = d.frame.toList.flatMap Frame.wire ++ p'.wire ∧ p'.IsOpen := by
  by_cases hlt : x.length < missing
  · rw [feed_awaitingPayload_of_lt hlt] at h
    cases h
    have hsize : (x.reverse ++ arrived).length + (missing - x.length)
        = arrived.length + missing := by
      rw [List.length_append, List.length_reverse]
      omega
    refine ⟨?_, trivial⟩
    simp only [wire, hsize, List.reverse_append, List.reverse_reverse, List.take_length]
    exact List.append_assoc ..
  · rw [feed_awaitingPayload_of_le (by omega)] at h
    cases h
    have hsize : (arrived.reverse ++ x.take missing).length = arrived.length + missing := by
      rw [List.length_append, List.length_reverse, List.length_take_of_le (by omega)]
    refine ⟨?_, Nat.zero_lt_two⟩
    simp only [wire, start, Option.toList, List.flatMap_singleton, Frame.wire, hsize,
      List.append_assoc, List.append_nil]

/-- A call that is not refused loses no bytes and makes none up. -/
theorem wire_feed (hp : p.Sound) (h : p.feed limit x = (.ok d, p')) :
    p.wire ++ x.take d.consumed = d.frame.toList.flatMap Frame.wire ++ p'.wire ∧ p'.IsOpen := by
  cases p with
  | awaitingPayload arrived missing => exact wire_feed_awaitingPayload h
  | awaitingLength held =>
    by_cases hlt : held.length + x.length < Frame.lengthFieldSize
    · rw [feed_awaitingLength_of_lt hlt] at h
      cases h
      refine ⟨?_, by rwa [IsOpen, List.length_append]⟩
      rw [List.take_length]
      rfl
    · -- A complete field is the two bytes that its number is written in.
      have hfull : (fill Frame.lengthFieldSize held x).length = Frame.lengthFieldSize :=
        length_fill_of_le hp.1 (by omega)
      have hfield := bigEndian_ofBigEndian hfull
      rw [feed_awaitingLength_of_le (by omega) hp.1 rfl] at h
      split at h
      · cases h
      · split at h
        · rename_i hzero
          cases h
          rw [hzero] at hfield
          refine ⟨?_, Nat.zero_lt_two⟩
          simp only [wire, start, Option.toList, List.flatMap_singleton, Frame.wire,
            List.append_nil, List.length_nil, hfield]
          rfl
        · rw [feedFrom_eq] at h
          generalize hrest : (awaitingPayload []
            (ofBigEndian (fill Frame.lengthFieldSize held x))).feed limit
              (x.drop (Frame.lengthFieldSize - held.length)) = out at h
          obtain ⟨out, p''⟩ := out
          cases out with
          | error e => cases h
          | ok d' =>
            cases h
            -- The bytes of the field and those of the payload are taken one after the other.
            obtain ⟨hwire, hopen⟩ := wire_feed_awaitingPayload hrest
            rw [wire, List.length_nil, Nat.zero_add, List.reverse_nil, List.append_nil,
              hfield] at hwire
            refine ⟨?_, hopen⟩
            simp only [Delivery.after, wire, List.take_add, ← List.append_assoc]
            exact hwire

/-- While a payload is collected nothing is refused. -/
theorem feed_awaitingPayload_ne_error :
    (awaitingPayload arrived missing).feed limit x ≠ (.error e, p') := by
  by_cases hlt : x.length < missing
  · rw [feed_awaitingPayload_of_lt hlt]
    nofun
  · rw [feed_awaitingPayload_of_le (by omega)]
    nofun

/-- A call is refused on account of a length field, which is kept. -/
theorem wire_feed_of_error (hp : p.Sound) (h : p.feed limit x = (.error e, p')) :
    ∃ field rest, p.wire ++ x = field ++ rest ∧ Frame.Refuses limit field e ∧
      p' = .awaitingLength field := by
  cases p with
  | awaitingPayload arrived missing => exact absurd h feed_awaitingPayload_ne_error
  | awaitingLength held =>
    by_cases hlt : held.length + x.length < Frame.lengthFieldSize
    · rw [feed_awaitingLength_of_lt hlt] at h
      cases h
    · rw [feed_awaitingLength_of_le (by omega) hp.1 rfl] at h
      split at h
      · rename_i hlimit
        cases h
        refine ⟨_, x.drop (Frame.lengthFieldSize - held.length), ?_,
          ⟨length_fill_of_le hp.1 (by omega), hlimit, rfl⟩, rfl⟩
        rw [wire, fill, List.append_assoc, List.take_append_drop]
      · split at h
        · cases h
        · rename_i hzero
          rw [feedFrom_eq] at h
          generalize hrest : (awaitingPayload []
            (ofBigEndian (fill Frame.lengthFieldSize held x))).feed limit
              (x.drop (Frame.lengthFieldSize - held.length)) = out at h
          obtain ⟨out, p''⟩ := out
          cases out with
          | error e => exact absurd hrest feed_awaitingPayload_ne_error
          | ok d => cases h

/-- A length that was refused is refused by every later call. -/
theorem feed_of_refuses {field : Bytes} (h : Frame.Refuses limit field e) :
    (awaitingLength field).feed limit x = (.error e, .awaitingLength field) := by
  have hfill : fill Frame.lengthFieldSize field x = field := by
    rw [fill, h.complete, Nat.sub_self, List.take_zero, List.append_nil]
  rw [feed_awaitingLength_of_le (by rw [h.complete]; omega) (Nat.le_of_eq h.complete) hfill,
    if_pos h.lt, h.error_eq]

end Phase

namespace Assembler

variable {a a' : Assembler} {x y : Bytes} {e : AssemblyError} {d : Delivery}

/-! ## A chunk call by call -/

theorem pushOnto_nil (done : List Bytes) (a : Assembler) :
    a.pushOnto done [] = (⟨done.reverse, none⟩, a) := by
  rw [pushOnto, dif_pos rfl]

theorem pushOnto_of_error (done : List Bytes) (hx : x ≠ []) (h : a.feed x = (.error e, a')) :
    a.pushOnto done x = (⟨done.reverse, some e⟩, a') := by
  rw [pushOnto, dif_neg hx]
  split <;> rename_i h'
  · rw [h] at h'
    cases h'
    rfl
  · rw [h] at h'
    cases h'

theorem pushOnto_of_ok (done : List Bytes) (hx : x ≠ []) (h : a.feed x = (.ok d, a')) :
    a.pushOnto done x = a'.pushOnto (d.frame.toList ++ done) (x.drop d.consumed) := by
  rw [pushOnto, dif_neg hx]
  split <;> rename_i h'
  · rw [h] at h'
    cases h'
  · rw [h] at h'
    cases h'
    rfl

/-- The frames that were completed before only stand in front. -/
theorem pushOnto_append (new done : List Bytes) (a : Assembler) (x : Bytes) :
    a.pushOnto (new ++ done) x =
      (⟨done.reverse ++ (a.pushOnto new x).1.frames, (a.pushOnto new x).1.error⟩,
        (a.pushOnto new x).2) := by
  fun_induction pushOnto new a x with
  | case1 new a => rw [pushOnto_nil, List.reverse_append]
  | case2 new a x hx e a' h => rw [pushOnto_of_error _ hx h, List.reverse_append]
  | case3 new a x hx d a' h hlt ih => rw [pushOnto_of_ok _ hx h, ← List.append_assoc, ih]

@[simp] theorem push_nil (a : Assembler) : a.push [] = (⟨[], none⟩, a) := pushOnto_nil [] a

theorem push_of_error (hx : x ≠ []) (h : a.feed x = (.error e, a')) :
    a.push x = (⟨[], some e⟩, a') := pushOnto_of_error [] hx h

theorem push_of_ok (hx : x ≠ []) (h : a.feed x = (.ok d, a')) :
    a.push x = (⟨d.frame.toList ++ (a'.push (x.drop d.consumed)).1.frames,
      (a'.push (x.drop d.consumed)).1.error⟩, (a'.push (x.drop d.consumed)).2) := by
  have hone : d.frame.toList.reverse = d.frame.toList := by cases d.frame <;> rfl
  rw [push, pushOnto_of_ok [] hx h, List.append_nil]
  have hfront := pushOnto_append [] d.frame.toList a' (x.drop d.consumed)
  rw [List.nil_append, hone] at hfront
  exact hfront

/-- A call that brings no frame uses the chunk up. -/
theorem push_of_none (hx : x ≠ []) (h : a.feed x = (.ok d, a')) (hnone : d.frame = none) :
    a.push x = (⟨[], none⟩, a') := by
  have hall := (fits_feed (congrArg Prod.fst h)).all hnone
  rw [push_of_ok hx h, hnone, hall, List.drop_length, push_nil]
  rfl

/-! ## A chunk in two parts -/

theorem feed_eq_iff {out : Except AssemblyError Delivery} :
    a.feed x = (out, a') ↔ a.phase.feed a.limit x = (out, a'.phase) ∧ a'.limit = a.limit := by
  obtain ⟨phase, limit, sound⟩ := a'
  rw [feed, Prod.mk.injEq, Assembler.mk.injEq, Prod.ext_iff, eq_comm (a := limit), and_assoc]

theorem feed_append_of_error (h : a.feed x = (.error e, a')) (y : Bytes) :
    a.feed (x ++ y) = (.error e, a') := by
  rw [feed_eq_iff] at h ⊢
  rw [Phase.feed_append a.sound, h.1]
  exact ⟨rfl, h.2⟩

theorem feed_append_of_frame (h : a.feed x = (.ok d, a')) (hframe : d.frame ≠ none) (y : Bytes) :
    a.feed (x ++ y) = (.ok d, a') := by
  rw [feed_eq_iff] at h ⊢
  rw [Phase.feed_append a.sound, h.1]
  obtain ⟨consumed, frame⟩ := d
  cases frame with
  | none => exact absurd rfl hframe
  | some frame => exact ⟨rfl, h.2⟩

theorem feed_append_of_none (h : a.feed x = (.ok d, a')) (hnone : d.frame = none) (y : Bytes) :
    a.feed (x ++ y) = ((a'.feed y).1.map (·.after d.consumed), (a'.feed y).2) := by
  rw [feed_eq_iff] at h ⊢
  obtain ⟨consumed, frame⟩ := d
  cases hnone
  rw [Phase.feed_append a.sound, h.1, ← h.2]
  exact ⟨Phase.feedFrom_eq .., rfl⟩

/-- A chunk is used up call by call. -/
theorem push_induction {motive : Assembler → Bytes → Prop} (nil : ∀ a, motive a [])
    (refused : ∀ a x e a', x ≠ [] → a.feed x = (.error e, a') → motive a x)
    (delivered : ∀ a x d a', x ≠ [] → a.feed x = (.ok d, a') →
      motive a' (x.drop d.consumed) → motive a x)
    (a : Assembler) (x : Bytes) : motive a x := by
  -- On the length of the chunk: a call that is not refused leaves fewer bytes.
  induction hlen : x.length using Nat.strongRecOn generalizing a x with
  | ind length ih =>
    by_cases hx : x = []
    · exact hx ▸ nil a
    cases h : a.feed x with
    | mk out a' =>
      cases out with
      | error e => exact refused a x e a' hx h
      | ok d =>
        have hfits := fits_feed (congrArg Prod.fst h)
        refine delivered a x d a' hx h (ih _ ?_ a' _ rfl)
        have hpos := hfits.pos hx
        have hle := hfits.le
        rw [List.length_drop]
        omega

/-- A chunk in two parts: the second part is not looked at if the first one is refused. -/
theorem push_append (a : Assembler) (x y : Bytes) : a.push (x ++ y) =
    match (a.push x).1.error with
    | none =>
      (⟨(a.push x).1.frames ++ ((a.push x).2.push y).1.frames, ((a.push x).2.push y).1.error⟩,
        ((a.push x).2.push y).2)
    | some _ => a.push x := by
  induction a, x using push_induction with
  | nil a =>
    rw [push_nil]
    rfl
  | refused a x e a' hx h =>
    have hxy : x ++ y ≠ [] := fun h ↦ hx (List.append_eq_nil_iff.1 h).1
    rw [push_of_error hx h, push_of_error hxy (feed_append_of_error h y)]
  | delivered a x d a' hx h ih =>
    have hxy : x ++ y ≠ [] := fun h ↦ hx (List.append_eq_nil_iff.1 h).1
    have hfits := fits_feed (congrArg Prod.fst h)
    -- Without a frame the call has run out of bytes and goes on in `y`. With one it has not
    -- looked at `y`.
    by_cases hnone : d.frame = none
    · rw [push_of_none hx h hnone]
      have hfeed := feed_append_of_none h hnone y
      by_cases hy : y = []
      · rw [hy, List.append_nil, push_of_none hx h hnone, push_nil]
        rfl
      cases hrest : a'.feed y with
      | mk out a'' =>
        rw [hrest] at hfeed
        cases out with
        | error e =>
          rw [push_of_error hxy hfeed, push_of_error hy hrest]
          rfl
        | ok d' =>
          rw [push_of_ok hxy hfeed, push_of_ok hy hrest]
          simp only [Delivery.after, hfits.all hnone, List.drop_append, List.nil_append,
            List.drop_of_length_le (Nat.le_add_right _ _), Nat.add_sub_cancel_left]
    · rw [push_of_ok hx h, push_of_ok hxy (feed_append_of_frame h hnone y),
        List.drop_append_of_le_length hfits.le, ih]
      obtain ⟨⟨frames, error⟩, a''⟩ := a'.push (x.drop d.consumed)
      cases error with
      | none => simp only [List.append_assoc]
      | some e => rfl

/-! ## The bytes of a chunk -/

/-- A chunk that is not refused is used up: no byte of it is lost, and none is made up. -/
theorem wire_push (h : (a.push x).1.error = none) :
    a.phase.wire ++ x = (a.push x).1.frames.flatMap Frame.wire ++ (a.push x).2.phase.wire ∧
      (x ≠ [] → (a.push x).2.phase.IsOpen) := by
  induction a, x using push_induction with
  | nil a =>
    rw [push_nil]
    exact ⟨List.append_nil _, fun hne ↦ absurd rfl hne⟩
  | refused a x e a' hx hfeed =>
    rw [push_of_error hx hfeed] at h
    cases h
  | delivered a x d a' hx hfeed ih =>
    rw [push_of_ok hx hfeed] at h ⊢
    obtain ⟨hwire, hopen⟩ := Phase.wire_feed a.sound (feed_eq_iff.1 hfeed).1
    obtain ⟨hrest, hlater⟩ := ih h
    refine ⟨?_, fun _ ↦ ?_⟩
    · rw [← List.take_append_drop d.consumed x, ← List.append_assoc, hwire, List.append_assoc,
        List.take_append_drop, hrest, List.flatMap_append, List.append_assoc]
    · by_cases hdrop : x.drop d.consumed = []
      · rw [hdrop, push_nil]
        exact hopen
      · exact hlater hdrop

/-- A chunk that is refused holds the frames that it completes, and then the length on account of
which it is refused. -/
theorem wire_push_of_error (h : (a.push x).1.error = some e) : ∃ field rest,
    a.phase.wire ++ x = (a.push x).1.frames.flatMap Frame.wire ++ field ++ rest ∧
      Frame.Refuses a.limit field e ∧ (a.push x).2.phase = .awaitingLength field ∧
      (a.push x).2.limit = a.limit := by
  induction a, x using push_induction with
  | nil a =>
    rw [push_nil] at h
    cases h
  | refused a x e' a' hx hfeed =>
    rw [push_of_error hx hfeed] at h ⊢
    cases h
    obtain ⟨hfeed, hlimit⟩ := feed_eq_iff.1 hfeed
    obtain ⟨field, rest, hwire, hrefuses, hphase⟩ := Phase.wire_feed_of_error a.sound hfeed
    exact ⟨field, rest, hwire, hrefuses, hphase, hlimit⟩
  | delivered a x d a' hx hfeed ih =>
    rw [push_of_ok hx hfeed] at h ⊢
    obtain ⟨hfeed, hlimit⟩ := feed_eq_iff.1 hfeed
    obtain ⟨field, rest, hwire, hrefuses, hphase, hlater⟩ := ih h
    refine ⟨field, rest, ?_, hlimit ▸ hrefuses, hphase, hlater.trans hlimit⟩
    rw [← List.take_append_drop d.consumed x, ← List.append_assoc,
      (Phase.wire_feed a.sound hfeed).1, List.append_assoc, List.take_append_drop, hwire,
      List.flatMap_append]
    simp only [List.append_assoc]

/-- A chunk is refused on account of a length that lies behind everything that was held before. -/
theorem length_wire_lt_of_error {field : Bytes} (hopen : a.phase.IsOpen)
    (h : (a.push x).1.error = some e) (hfield : field.length = Frame.lengthFieldSize) :
    a.phase.wire.length < ((a.push x).1.frames.flatMap Frame.wire ++ field).length := by
  obtain ⟨phase, limit, sound⟩ := a
  rw [List.length_append, hfield]
  cases phase with
  | awaitingLength held => exact Nat.lt_of_lt_of_le hopen (Nat.le_add_left _ _)
  | awaitingPayload arrived missing =>
    -- The payload is completed first.
    have hx : x ≠ [] := by
      rintro rfl
      rw [push_nil] at h
      cases h
    cases hfeed : feed ⟨.awaitingPayload arrived missing, limit, sound⟩ x with
    | mk out a' =>
      cases out with
      | error e => exact absurd (feed_eq_iff.1 hfeed).1 Phase.feed_awaitingPayload_ne_error
      | ok d =>
        have hphase := (feed_eq_iff.1 hfeed).1
        by_cases hlt : x.length < missing
        · rw [Phase.feed_awaitingPayload_of_lt hlt] at hphase
          cases (Prod.mk.inj hphase).1
          rw [push_of_none hx hfeed rfl] at h
          cases h
        · rw [Phase.feed_awaitingPayload_of_le (by omega)] at hphase
          cases (Prod.mk.inj hphase).1
          rw [push_of_ok hx hfeed]
          have htake : (x.take missing).length = missing := List.length_take_of_le (by omega)
          simp only [Option.toList, List.cons_append, List.nil_append, List.flatMap_cons,
            List.length_append, Frame.length_wire, Phase.wire, length_bigEndian,
            List.length_reverse, htake, Frame.lengthFieldSize]
          omega

/-! ## Any number of chunks -/

theorem pushAll_cons (a : Assembler) (piece : Bytes) (pieces : List Bytes) :
    a.pushAll (piece :: pieces) = ((a.push piece).1 :: ((a.push piece).2.pushAll pieces).1,
      ((a.push piece).2.pushAll pieces).2) := rfl

/-- After a refusal nothing but the limit can help: every later chunk is refused in the same way. -/
theorem pushAll_of_refuses {field : Bytes} {pieces : List Bytes}
    (hphase : a.phase = .awaitingLength field) (h : Frame.Refuses a.limit field e)
    (hne : ∀ piece ∈ pieces, piece ≠ []) :
    a.pushAll pieces = (List.replicate pieces.length ⟨[], some e⟩, a) := by
  induction pieces with
  | nil => rfl
  | cons piece pieces ih =>
    obtain ⟨hpiece, hpieces⟩ := List.forall_mem_cons.1 hne
    have hfeed : a.feed piece = (.error e, a) :=
      feed_eq_iff.2 ⟨by rw [hphase, Phase.feed_of_refuses h], rfl⟩
    rw [pushAll_cons, push_of_error hpiece hfeed]
    simp only [ih hpieces, List.length_cons, List.replicate_succ]

/-- Chunks complete the same frames and leave the same assembler as the whole stream. -/
theorem pushAll_frames {pieces : List Bytes} (hne : ∀ piece ∈ pieces, piece ≠ []) :
    (a.pushAll pieces).1.flatMap (·.frames) = (a.push pieces.flatten).1.frames ∧
      (a.pushAll pieces).2 = (a.push pieces.flatten).2 := by
  induction pieces generalizing a with
  | nil =>
    rw [List.flatten_nil, push_nil]
    exact ⟨rfl, rfl⟩
  | cons piece pieces ih =>
    obtain ⟨hpiece, hpieces⟩ := List.forall_mem_cons.1 hne
    rw [List.flatten_cons, push_append, pushAll_cons]
    cases herror : (a.push piece).1.error with
    | none =>
      obtain ⟨hframes, hlast⟩ := ih (a := (a.push piece).2) hpieces
      simp only [List.flatMap_cons, hframes, hlast]
      exact ⟨trivial, trivial⟩
    | some e =>
      -- The later chunks are refused without a frame, and the one push has not looked at them.
      obtain ⟨field, rest, -, hrefuses, hphase, hlimit⟩ := wire_push_of_error herror
      rw [pushAll_of_refuses hphase (hlimit ▸ hrefuses) hpieces]
      simp [List.flatMap_replicate]

/-- If the stream is not refused, no chunk is. -/
theorem pushAll_error_eq_none {pieces : List Bytes} (hne : ∀ piece ∈ pieces, piece ≠ [])
    (h : (a.push pieces.flatten).1.error = none) :
    ∀ intake ∈ (a.pushAll pieces).1, intake.error = none := by
  induction pieces generalizing a with
  | nil => nofun
  | cons piece pieces ih =>
    obtain ⟨hpiece, hpieces⟩ := List.forall_mem_cons.1 hne
    rw [List.flatten_cons, push_append] at h
    cases herror : (a.push piece).1.error with
    | some e =>
      rw [herror] at h
      cases herror.symm.trans h
    | none =>
      rw [herror] at h
      rw [pushAll_cons]
      exact List.forall_mem_cons.2 ⟨herror, ih hpieces h⟩

/-- A chunk is refused if and only if the stream up to its end holds the frames and the length on
account of which the whole stream is refused. -/
theorem pushAll_errors {pieces : List Bytes} {field : Bytes} (hne : ∀ piece ∈ pieces, piece ≠ [])
    (h : (a.push pieces.flatten).1.error = some e)
    (hfield : field.length = Frame.lengthFieldSize) :
    (a.pushAll pieces).1.map (·.error) = (List.range pieces.length).map fun n ↦
      if ((a.push pieces.flatten).1.frames.flatMap Frame.wire ++ field).length
          ≤ (a.phase.wire ++ (pieces.take (n + 1)).flatten).length
      then some e else none := by
  induction pieces generalizing a with
  | nil => rfl
  | cons piece pieces ih =>
    obtain ⟨hpiece, hpieces⟩ := List.forall_mem_cons.1 hne
    rw [pushAll_cons, List.length_cons]
    rw [List.flatten_cons, push_append] at h ⊢
    cases herror : (a.push piece).1.error with
    | some e' =>
      -- The first chunk is refused, and so are all later ones.
      rw [herror] at h
      cases herror.symm.trans h
      obtain ⟨field', rest, hwire, hrefuses, hphase, hlimit⟩ := wire_push_of_error herror
      have hholds : ∀ n ∈ List.range (pieces.length + 1),
          (if ((a.push piece).1.frames.flatMap Frame.wire ++ field).length
              ≤ (a.phase.wire ++ ((piece :: pieces).take (n + 1)).flatten).length
            then some e else none) = some e := by
        intro n _
        refine if_pos ?_
        have hlength := congrArg List.length hwire
        simp only [List.length_append, hrefuses.complete] at hlength
        simp only [List.take_succ_cons, List.flatten_cons, List.length_append, hfield]
        omega
      rw [pushAll_of_refuses hphase (hlimit ▸ hrefuses) hpieces, List.map_congr_left hholds,
        List.map_const', List.length_range, List.replicate_succ, List.map_cons, List.map_replicate,
        herror]
    | none =>
      -- The length comes after the first chunk, and the later chunks are a shorter stream.
      rw [herror] at h
      obtain ⟨hwire, hopen⟩ := wire_push herror
      have hlater := length_wire_lt_of_error (hopen hpiece) h hfield
      have hlength := congrArg List.length hwire
      simp only [List.length_append] at hlength hlater
      rw [List.range_succ_eq_map, List.map_cons, List.map_cons, List.map_map, ih hpieces h, herror]
      congr 1
      · refine (if_neg ?_).symm
        simp only [List.flatMap_append, List.length_append, Nat.zero_add, List.take_succ_cons,
          List.take_zero, List.flatten_cons, List.flatten_nil, List.append_nil]
        omega
      · refine List.map_congr_left fun n _ ↦ ?_
        simp only [Function.comp, List.flatMap_append, List.length_append, List.take_succ_cons,
          List.flatten_cons]
        congr 1
        rw [eq_iff_iff]
        omega

/-- The result of pushing does not depend on how the bytes are cut. A chunk in two parts is the one
part and then the other, unless the first part is refused. Any number of chunks complete the frames
of the whole stream and leave the assembler that the whole stream leaves; and if the stream is
refused, it holds its frames and then a length that the limit refuses, and the chunks at whose end
that length is complete are refused with that error. -/
theorem push_chunk_invariant (a : Assembler) :
    (∀ x y, a.push (x ++ y) =
      match (a.push x).1.error with
      | none =>
        (⟨(a.push x).1.frames ++ ((a.push x).2.push y).1.frames, ((a.push x).2.push y).1.error⟩,
          ((a.push x).2.push y).2)
      | some _ => a.push x) ∧
    ∀ pieces : List Bytes, (∀ piece ∈ pieces, piece ≠ []) →
      (a.pushAll pieces).1.flatMap (·.frames) = (a.push pieces.flatten).1.frames ∧
      (a.pushAll pieces).2 = (a.push pieces.flatten).2 ∧
      match (a.push pieces.flatten).1.error with
      | none => ∀ intake ∈ (a.pushAll pieces).1, intake.error = none
      | some e => ∃ field rest,
        a.phase.wire ++ pieces.flatten
            = (a.push pieces.flatten).1.frames.flatMap Frame.wire ++ field ++ rest ∧
          Frame.Refuses a.limit field e ∧
          (a.pushAll pieces).1.map (·.error) = (List.range pieces.length).map fun n ↦
            if ((a.push pieces.flatten).1.frames.flatMap Frame.wire ++ field).length
                ≤ (a.phase.wire ++ (pieces.take (n + 1)).flatten).length
            then some e else none := by
  refine ⟨a.push_append, fun pieces hne ↦ ?_⟩
  obtain ⟨hframes, hlast⟩ := pushAll_frames hne (a := a)
  refine ⟨hframes, hlast, ?_⟩
  cases herror : (a.push pieces.flatten).1.error with
  | none => exact pushAll_error_eq_none hne herror
  | some e =>
    obtain ⟨field, rest, hwire, hrefuses, -, -⟩ := wire_push_of_error herror
    exact ⟨field, rest, hwire, hrefuses, pushAll_errors hne herror hrefuses.complete⟩

/-- Three chunks that cut a length in the middle, the second of them refused. -/
theorem pushAll_three_chunks :
    (∀ piece ∈ ([[0], [1, 7, 0, 9], [5]] : List Bytes), piece ≠ []) ∧
      ((ofLimit 4).pushAll [[0], [1, 7, 0, 9], [5]]).1.flatMap (·.frames)
        = ((ofLimit 4).push [0, 1, 7, 0, 9, 5]).1.frames ∧
      ((ofLimit 4).pushAll [[0], [1, 7, 0, 9], [5]]).1
        = [⟨[], none⟩, ⟨[[7]], some (.frameTooLarge 9 4)⟩, ⟨[], some (.frameTooLarge 9 4)⟩] := by
  have hne : ∀ piece ∈ ([[0], [1, 7, 0, 9], [5]] : List Bytes), piece ≠ [] := by decide
  exact ⟨hne, ((push_chunk_invariant (ofLimit 4)).2 _ hne).1, by decide +kernel⟩

end Assembler

end StreamRtp
