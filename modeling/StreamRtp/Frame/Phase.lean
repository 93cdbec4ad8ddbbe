import StreamRtp.Frame

/-!
# The frame in progress

A `Phase` is what has arrived of the frame in progress: bytes of the length field, or an accepted
length with bytes of the payload. `Phase.feed` takes bytes until one frame completes or the bytes
run out.

## Rounds

`feed` goes in rounds. A round takes from the input what the field in progress still misses; it
stops the call, or it has accepted a length and another round collects the payload. A length that
is refused stays where it is, as a complete length field, and the next call judges it again, also
if it is given no bytes.

## Sound phases

`Sound` is what all phases of a stream have in common: a length field has at most two bytes, a
complete one that is still there was refused, and hence is not zero; a payload is as long as a
length field can say, and some of it is missing. A sound phase makes progress: with bytes at hand, a
call that is not refused takes at least one.
-/

namespace StreamRtp

/-- How much of the frame in progress has arrived. -/
inductive Phase where
  /-- Some bytes of the length field. They are all there if the length was refused. -/
  | awaitingLength (field : Bytes)
  /-- The length was accepted: the bytes of the payload that have arrived, newest first, and how
  many are missing. -/
  | awaitingPayload (arrived : Bytes) (missing : Nat)
  deriving DecidableEq, Repr

/-- What a call took from its input: how many bytes, and perhaps a completed frame. -/
structure Delivery where
  consumed : Nat
  frame : Option Bytes
  deriving DecidableEq, Repr

/-- A delivery of a call that had consumed some bytes before. -/
def Delivery.after (n : Nat) (d : Delivery) : Delivery := { d with consumed := n + d.consumed }

/-- What a round came to. -/
inductive Round where
  /-- The call is over. -/
  | stop (taken : Nat) (result : Except AssemblyError (Option Bytes)) (phase : Phase)
  /-- A length was accepted, and the payload is collected next. -/
  | again (taken : Nat) (phase : Phase)

namespace Phase

/-- Nothing of the next frame has arrived. -/
def start : Phase := .awaitingLength []

/-- Take from the input what the field in progress misses, and judge a complete length. -/
def round (limit : Nat) (input : Bytes) : Phase → Round
  | .awaitingLength held =>
    let field := fill Frame.lengthFieldSize held input
    let taken := field.length - held.length
    if field.length < Frame.lengthFieldSize then .stop taken (.ok none) (.awaitingLength field)
    else
      let declared := ofBigEndian field
      if limit < declared then
        .stop taken (.error (.frameTooLarge declared limit)) (.awaitingLength field)
      else if declared = 0 then .stop taken (.ok (some [])) start
      else .again taken (.awaitingPayload [] declared)
  | .awaitingPayload arrived missing =>
    let part := input.take missing
    let arrived := part.reverse ++ arrived
    if part.length < missing then
      .stop part.length (.ok none) (.awaitingPayload arrived (missing - part.length))
    else .stop part.length (.ok (some arrived.reverse)) start

/-- How many more rounds a call can need after the present one. -/
def roundsAhead : Phase → Nat
  | .awaitingLength _ => 1
  | .awaitingPayload .. => 0

theorem roundsAhead_lt_of_again {limit taken : Nat} {input : Bytes} {p p' : Phase}
    (h : p.round limit input = .again taken p') : p'.roundsAhead < p.roundsAhead := by
  cases p with
  | awaitingLength held =>
    simp only [round] at h
    repeat' split at h
    all_goals cases h
    exact Nat.zero_lt_one
  | awaitingPayload arrived missing =>
    simp only [round] at h
    split at h <;> cases h

/-- Go on with a call that has consumed some bytes and has the others left. -/
def feedFrom (limit consumed : Nat) (input : Bytes) (p : Phase) :
    Except AssemblyError Delivery × Phase :=
  match h : p.round limit input with
  | .stop taken result p' => (result.map (⟨consumed + taken, ·⟩), p')
  | .again taken p' =>
    have : p'.roundsAhead < p.roundsAhead := roundsAhead_lt_of_again h
    feedFrom limit (consumed + taken) (input.drop taken) p'
termination_by p.roundsAhead

/-- Take bytes until one frame completes or the bytes run out. Bytes after a completed frame are
left for the next call. -/
def feed (limit : Nat) (input : Bytes) (p : Phase) : Except AssemblyError Delivery × Phase :=
  p.feedFrom limit 0 input

/-! ## Calls in closed form -/

section Calls

variable {limit consumed taken : Nat} {input : Bytes} {p p' : Phase}

theorem feedFrom_of_stop {result : Except AssemblyError (Option Bytes)}
    (h : p.round limit input = .stop taken result p') :
    p.feedFrom limit consumed input = (result.map (⟨consumed + taken, ·⟩), p') := by
  rw [feedFrom]
  split <;> rename_i h'
  · rw [h] at h'
    cases h'
    rfl
  · rw [h] at h'
    cases h'

theorem feedFrom_of_again (h : p.round limit input = .again taken p') :
    p.feedFrom limit consumed input
      = p'.feedFrom limit (consumed + taken) (input.drop taken) := by
  rw [feedFrom]
  split <;> rename_i h'
  · rw [h] at h'
    cases h'
  · rw [h] at h'
    cases h'
    rfl

/-- What a call has consumed before is only counted. -/
theorem feedFrom_add (limit m n : Nat) (input : Bytes) (p : Phase) :
    p.feedFrom limit (m + n) input
      = ((p.feedFrom limit n input).1.map (·.after m), (p.feedFrom limit n input).2) := by
  fun_induction feedFrom limit n input p with
  | case1 n input p taken result p' h =>
    rw [feedFrom_of_stop h]
    cases result <;> simp [Except.map, Delivery.after, Nat.add_assoc]
  | case2 n input p taken p' h hlt ih => rw [feedFrom_of_again h, Nat.add_assoc, ih]

theorem feedFrom_eq (limit n : Nat) (input : Bytes) (p : Phase) :
    p.feedFrom limit n input
      = ((p.feed limit input).1.map (·.after n), (p.feed limit input).2) :=
  feedFrom_add limit n 0 input p

theorem feed_awaitingPayload_of_lt {arrived : Bytes} {missing : Nat}
    (h : input.length < missing) :
    (awaitingPayload arrived missing).feed limit input
      = (.ok ⟨input.length, none⟩,
          .awaitingPayload (input.reverse ++ arrived) (missing - input.length)) := by
  have hround : (awaitingPayload arrived missing).round limit input
      = .stop input.length (.ok none)
          (.awaitingPayload (input.reverse ++ arrived) (missing - input.length)) := by
    simp only [round, List.take_of_length_le (Nat.le_of_lt h), if_pos h]
  rw [feed, feedFrom_of_stop hround, Nat.zero_add]
  rfl

theorem feed_awaitingPayload_of_le {arrived : Bytes} {missing : Nat}
    (h : missing ≤ input.length) :
    (awaitingPayload arrived missing).feed limit input
      = (.ok ⟨missing, some (arrived.reverse ++ input.take missing)⟩, start) := by
  have hround : (awaitingPayload arrived missing).round limit input
      = .stop missing (.ok (some (arrived.reverse ++ input.take missing))) start := by
    simp only [round, List.length_take_of_le h, if_neg (Nat.lt_irrefl missing),
      List.reverse_append, List.reverse_reverse]
  rw [feed, feedFrom_of_stop hround, Nat.zero_add]
  rfl

theorem feed_awaitingLength_of_lt {held : Bytes}
    (h : held.length + input.length < Frame.lengthFieldSize) :
    (awaitingLength held).feed limit input
      = (.ok ⟨input.length, none⟩, .awaitingLength (held ++ input)) := by
  have hround : (awaitingLength held).round limit input
      = .stop input.length (.ok none) (.awaitingLength (held ++ input)) := by
    simp only [round, fill_of_lt h, List.length_append, if_pos h, Nat.add_sub_cancel_left]
  rw [feed, feedFrom_of_stop hround, Nat.zero_add]
  rfl

/-- A call that completes the length field judges the length, and goes on with the payload if there
is one. -/
theorem feed_awaitingLength_of_le {held field : Bytes}
    (h : Frame.lengthFieldSize ≤ held.length + input.length)
    (hle : held.length ≤ Frame.lengthFieldSize)
    (hfield : fill Frame.lengthFieldSize held input = field) :
    (awaitingLength held).feed limit input
      = if limit < ofBigEndian field then
          (.error (.frameTooLarge (ofBigEndian field) limit), .awaitingLength field)
        else if ofBigEndian field = 0 then
          (.ok ⟨Frame.lengthFieldSize - held.length, some []⟩, start)
        else
          (awaitingPayload [] (ofBigEndian field)).feedFrom limit
            (Frame.lengthFieldSize - held.length)
            (input.drop (Frame.lengthFieldSize - held.length)) := by
  have hlen : field.length = Frame.lengthFieldSize := hfield ▸ length_fill_of_le hle h
  have hfull : ¬ Frame.lengthFieldSize < Frame.lengthFieldSize := Nat.lt_irrefl _
  rw [feed]
  by_cases hlimit : limit < ofBigEndian field
  · have hround : (awaitingLength held).round limit input
        = .stop (Frame.lengthFieldSize - held.length)
            (.error (.frameTooLarge (ofBigEndian field) limit)) (.awaitingLength field) := by
      simp only [round, hfield, hlen, if_neg hfull, if_pos hlimit]
    rw [feedFrom_of_stop hround, if_pos hlimit]
    rfl
  · by_cases hzero : ofBigEndian field = 0
    · have hround : (awaitingLength held).round limit input
          = .stop (Frame.lengthFieldSize - held.length) (.ok (some [])) start := by
        simp only [round, hfield, hlen, if_neg hfull, if_neg hlimit, if_pos hzero]
      rw [feedFrom_of_stop hround, if_neg hlimit, if_pos hzero, Nat.zero_add]
      rfl
    · have hround : (awaitingLength held).round limit input
          = .again (Frame.lengthFieldSize - held.length)
              (.awaitingPayload [] (ofBigEndian field)) := by
        simp only [round, hfield, hlen, if_neg hfull, if_neg hlimit, if_neg hzero]
      rw [feedFrom_of_again hround, if_neg hlimit, if_neg hzero, Nat.zero_add]

end Calls

/-! ## Sound phases -/

/-- What all phases of a stream have in common. -/
def Sound : Phase → Prop
  | .awaitingLength field =>
    field.length ≤ Frame.lengthFieldSize
      ∧ (field.length = Frame.lengthFieldSize → ofBigEndian field ≠ 0)
  | .awaitingPayload arrived missing =>
    0 < missing ∧ arrived.length + missing ≤ Frame.maxPayload

theorem sound_start : start.Sound := ⟨Nat.zero_le _, nofun⟩

theorem sound_feed_awaitingPayload {limit missing : Nat} {arrived : Bytes} (input : Bytes)
    (h : arrived.length + missing ≤ Frame.maxPayload) :
    ((awaitingPayload arrived missing).feed limit input).2.Sound := by
  by_cases hlt : input.length < missing
  · rw [feed_awaitingPayload_of_lt hlt]
    refine ⟨Nat.sub_pos_of_lt hlt, ?_⟩
    rw [List.length_append, List.length_reverse]
    omega
  · rw [feed_awaitingPayload_of_le (by omega)]
    exact sound_start

/-- A call keeps a phase sound. -/
theorem sound_feed {p : Phase} (limit : Nat) (input : Bytes) (hp : p.Sound) :
    (p.feed limit input).2.Sound := by
  cases p with
  | awaitingPayload arrived missing => exact sound_feed_awaitingPayload input hp.2
  | awaitingLength held =>
    by_cases hlt : held.length + input.length < Frame.lengthFieldSize
    · rw [feed_awaitingLength_of_lt hlt]
      have hlen : (held ++ input).length < Frame.lengthFieldSize := by rwa [List.length_append]
      exact ⟨Nat.le_of_lt hlen, fun heq ↦ absurd heq (Nat.ne_of_lt hlen)⟩
    · have hlen : (fill Frame.lengthFieldSize held input).length = Frame.lengthFieldSize :=
        length_fill_of_le hp.1 (by omega)
      rw [feed_awaitingLength_of_le (by omega) hp.1 rfl]
      split
      · rename_i hlimit
        exact ⟨Nat.le_of_eq hlen, fun _ hzero ↦ by omega⟩
      · split
        · exact sound_start
        · rename_i hzero
          rw [feedFrom_eq]
          exact sound_feed_awaitingPayload _ (by simpa [Frame.maxPayload] using ofBigEndian_le hlen)

/-! ## What a call takes -/

/-- What is true of every delivery. -/
structure Fits (input : Bytes) (d : Delivery) : Prop where
  /-- It takes no more than there is. -/
  le : d.consumed ≤ input.length
  /-- It takes something if there is something. -/
  pos : input ≠ [] → 0 < d.consumed
  /-- It takes everything if it brings no frame. -/
  all : d.frame = none → d.consumed = input.length

theorem fits_length (input : Bytes) : Fits input ⟨input.length, none⟩ :=
  ⟨Nat.le_refl _, List.length_pos_iff.2, fun _ ↦ rfl⟩

theorem fits_feed_awaitingPayload {limit missing : Nat} {arrived input : Bytes} {d : Delivery}
    (hpos : 0 < missing)
    (h : ((awaitingPayload arrived missing).feed limit input).1 = .ok d) : Fits input d := by
  by_cases hlt : input.length < missing
  · rw [feed_awaitingPayload_of_lt hlt] at h
    cases h
    exact fits_length input
  · rw [feed_awaitingPayload_of_le (by omega)] at h
    cases h
    exact ⟨by simp only; omega, fun _ ↦ hpos, nofun⟩

/-- A call that is not refused makes progress. In the round of the length field this is so because a
complete field that was still held is not zero, so the payload is collected from the same input. -/
theorem fits_feed {limit : Nat} {p : Phase} {input : Bytes} {d : Delivery} (hp : p.Sound)
    (h : (p.feed limit input).1 = .ok d) : Fits input d := by
  cases p with
  | awaitingPayload arrived missing => exact fits_feed_awaitingPayload hp.1 h
  | awaitingLength held =>
    obtain ⟨hlen, hfull⟩ := hp
    by_cases hlt : held.length + input.length < Frame.lengthFieldSize
    · rw [feed_awaitingLength_of_lt hlt] at h
      cases h
      exact fits_length input
    · rw [feed_awaitingLength_of_le (by omega) hlen rfl] at h
      split at h
      · cases h
      · split at h
        · rename_i hzero
          cases h
          have hpart : held.length ≠ Frame.lengthFieldSize := by
            intro heq
            rw [fill, heq, Nat.sub_self, List.take_zero, List.append_nil] at hzero
            exact hfull heq hzero
          have hsome : (some [] : Option Bytes) ≠ none := Option.some_ne_none []
          exact ⟨by simp only; omega, fun _ ↦ by simp only; omega, fun hnone ↦ absurd hnone hsome⟩
        · rename_i hzero
          rw [feedFrom_eq] at h
          cases hd : (feed limit (input.drop (Frame.lengthFieldSize - held.length))
              (awaitingPayload [] (ofBigEndian (fill Frame.lengthFieldSize held input)))).1 with
          | error e =>
            rw [hd] at h
            cases h
          | ok d' =>
            rw [hd] at h
            cases h
            obtain ⟨hle, hpos, hall⟩ := fits_feed_awaitingPayload (Nat.pos_of_ne_zero hzero) hd
            rw [List.length_drop] at hle hall
            refine ⟨?_, fun hne ↦ ?_, fun hnone ↦ ?_⟩
            · simp only [Delivery.after]
              omega
            · simp only [Delivery.after]
              by_cases heq : held.length = Frame.lengthFieldSize
              · rw [heq, Nat.sub_self, List.drop_zero] at hpos
                exact Nat.lt_of_lt_of_le (hpos hne) (Nat.le_add_left _ _)
              · omega
            · simp only [Delivery.after] at hnone ⊢
              have := hall hnone
              omega

end Phase

end StreamRtp
