import StreamRtp.Proofs.Chunks

/-!
# The streams that an assembler takes

What an assembler makes of a stream is said here without the assembler. Under a limit a stream is
frames one after the other, and then either the beginning of a frame that the limit admits, or a
length that the limit refuses with anything behind it. `Frame.Reading` states this decomposition
with what it means for the one who reads the stream: the payloads, the error, and whether nothing is
left over. A new assembler finds the decomposition, and there is no other one.

## The argument

Every stream has a decomposition, by its length alone: a stream of two bytes begins with a length,
which is refused, or has its payload behind it, or has not. In the other direction the assembler is
run on a decomposition: a frame is taken in one call that leaves a new assembler, so the frames come
off one by one until the end of the stream decides. A stream with two decompositions would make one
run come out in two ways.
-/

namespace StreamRtp

/-- A number of at most sixteen bits is written in two bytes without loss. -/
theorem ofBigEndian_bigEndian {n : Nat} (h : n ≤ Frame.maxPayload) :
    ofBigEndian (bigEndian Frame.lengthFieldSize n) = n := by
  have hhigh : (UInt8.ofNat (n / 256)).toNat = n / 256 := by
    rw [UInt8.toNat_ofNat']
    simp only [Frame.maxPayload] at h
    omega
  have hlow : (UInt8.ofNat n).toNat = n % 256 := UInt8.toNat_ofNat'
  simp only [Frame.lengthFieldSize, bigEndian, ofBigEndian, List.nil_append, List.singleton_append,
    List.foldl_cons, List.foldl_nil, hhigh, hlow]
  omega

namespace Frame

variable {limit : Nat} {stream rest bytes : Bytes} {payload : Bytes} {payloads : List Bytes}
  {intake : Intake} {idle : Bool} {e : AssemblyError}

/-! ## Frames one after the other -/

/-- The frames of payloads, one after the other. -/
def encodeAll (payloads : List Bytes) : Except TransmitError Bytes :=
  (payloads.mapM encode).map List.flatten

theorem encodeAll_cons (h : payload.length ≤ maxPayload) (hbytes : encodeAll payloads = .ok bytes) :
    encodeAll (payload :: payloads) = .ok (wire payload ++ bytes) := by
  rw [encodeAll] at hbytes ⊢
  cases hparts : payloads.mapM encode with
  | error e =>
    rw [hparts] at hbytes
    cases hbytes
  | ok parts =>
    rw [hparts] at hbytes
    cases hbytes
    rw [List.mapM_cons, encode_of_le h, hparts]
    rfl

theorem exists_of_encodeAll_cons (h : encodeAll (payload :: payloads) = .ok bytes) :
    payload.length ≤ maxPayload ∧ ∃ later, encodeAll payloads = .ok later ∧
      bytes = wire payload ++ later := by
  rw [encodeAll, List.mapM_cons] at h
  by_cases hle : payload.length ≤ maxPayload
  · rw [encode_of_le hle] at h
    rw [encodeAll]
    cases hparts : payloads.mapM encode with
    | error e =>
      rw [hparts] at h
      cases h
    | ok parts =>
      rw [hparts] at h
      cases h
      exact ⟨hle, _, rfl, rfl⟩
  · rw [encode, if_neg hle] at h
    cases h

theorem append_ne_nil {field : Bytes} (hfield : field.length = lengthFieldSize) (rest : Bytes) :
    field ++ rest ≠ [] := by
  intro h
  rw [(List.append_eq_nil_iff.1 h).1] at hfield
  cases hfield

/-! ## The decomposition of a stream -/

/-- The beginnings of a frame that a limit admits: nothing, half a length, or an admitted length
with less than it announces. -/
inductive Unfinished (limit : Nat) : Bytes → Prop
  | nothing : Unfinished limit []
  | halfLength (b : UInt8) : Unfinished limit [b]
  | payload (field body : Bytes) (hfield : field.length = lengthFieldSize)
    (hpos : 1 ≤ ofBigEndian field) (hle : ofBigEndian field ≤ limit)
    (hlt : body.length < ofBigEndian field) : Unfinished limit (field ++ body)

/-- How a stream is read under a limit: the payloads with the error, and whether nothing is left
over. -/
inductive Reading (limit : Nat) (stream : Bytes) : Intake → Bool → Prop
  /-- The stream is frames and the beginning of one. -/
  | accepted (payloads : List Bytes) (frames rest : Bytes)
    (hle : ∀ payload ∈ payloads, payload.length ≤ limit)
    (hframes : encodeAll payloads = .ok frames) (hrest : Unfinished limit rest)
    (hstream : stream = frames ++ rest) : Reading limit stream ⟨payloads, none⟩ rest.isEmpty
  /-- Behind the frames there is a length that the limit refuses, and then anything. -/
  | refused (payloads : List Bytes) (frames field rest : Bytes) (e : AssemblyError)
    (hle : ∀ payload ∈ payloads, payload.length ≤ limit)
    (hframes : encodeAll payloads = .ok frames) (hrefuses : Refuses limit field e)
    (hstream : stream = frames ++ field ++ rest) : Reading limit stream ⟨payloads, some e⟩ false

namespace Reading

/-- A frame in front of a stream comes out in front of its payloads. -/
theorem cons (hlimit : payload.length ≤ limit) (hmax : payload.length ≤ maxPayload)
    (h : Reading limit stream intake idle) :
    Reading limit (wire payload ++ stream) ⟨payload :: intake.frames, intake.error⟩ idle := by
  cases h with
  | accepted payloads frames rest hle hframes hrest hstream =>
    refine accepted _ _ rest (List.forall_mem_cons.2 ⟨hlimit, hle⟩) (encodeAll_cons hmax hframes)
      hrest ?_
    rw [hstream, List.append_assoc]
  | refused payloads frames field rest e hle hframes hrefuses hstream =>
    refine refused _ _ field rest e (List.forall_mem_cons.2 ⟨hlimit, hle⟩)
      (encodeAll_cons hmax hframes) hrefuses ?_
    simp only [hstream, List.append_assoc]

/-- Every stream can be read. -/
theorem exists_reading (limit : Nat) (stream : Bytes) :
    ∃ intake idle, Reading limit stream intake idle := by
  -- On the length of the stream: a frame that comes off leaves a shorter one.
  induction hlen : stream.length using Nat.strongRecOn generalizing stream with
  | ind length ih =>
    match stream with
    | [] => exact ⟨_, _, accepted [] [] [] (List.forall_mem_nil _) rfl .nothing rfl⟩
    | [b] => exact ⟨_, _, accepted [] [] [b] (List.forall_mem_nil _) rfl (.halfLength b) rfl⟩
    | high :: low :: body =>
      have hfield : [high, low].length = lengthFieldSize := rfl
      have hmax : ofBigEndian [high, low] ≤ maxPayload := ofBigEndian_le hfield
      have hwhole : high :: low :: body = [high, low] ++ body := rfl
      rw [hwhole]
      generalize [high, low] = field at hfield hmax hwhole ⊢
      by_cases hrefuses : limit < ofBigEndian field
      · exact ⟨_, _, refused [] [] field body _ (List.forall_mem_nil _) rfl
          ⟨hfield, hrefuses, rfl⟩ rfl⟩
      · by_cases hshort : body.length < ofBigEndian field
        · exact ⟨_, _, accepted [] [] (field ++ body) (List.forall_mem_nil _) rfl
            (.payload field body hfield (by omega) (by omega) hshort) rfl⟩
        · -- The payload is there, and what is behind it is a stream again.
          have htake : (body.take (ofBigEndian field)).length = ofBigEndian field :=
            List.length_take_of_le (by omega)
          have hwire : wire (body.take (ofBigEndian field)) ++ body.drop (ofBigEndian field)
              = field ++ body := by
            rw [wire, htake, bigEndian_ofBigEndian hfield, List.append_assoc,
              List.take_append_drop]
          have hlt : (body.drop (ofBigEndian field)).length < length := by
            rw [← hlen, List.length_drop, List.length_cons, List.length_cons]
            omega
          obtain ⟨intake, idle, hread⟩ := ih _ hlt _ rfl
          have hcons : Reading limit
              (wire (body.take (ofBigEndian field)) ++ body.drop (ofBigEndian field)) _ idle :=
            hread.cons (by omega) (by omega)
          rw [hwire] at hcons
          exact ⟨_, _, hcons⟩

end Reading

end Frame

/-- A new phase with a whole length at hand judges it, and goes on with the payload if there is
one. -/
theorem Phase.feed_start_append {limit : Nat} {field : Bytes}
    (hfield : field.length = Frame.lengthFieldSize) (rest : Bytes) :
    start.feed limit (field ++ rest)
      = if limit < ofBigEndian field then
          (.error (.frameTooLarge (ofBigEndian field) limit), .awaitingLength field)
        else if ofBigEndian field = 0 then (.ok ⟨Frame.lengthFieldSize, some []⟩, start)
        else
          (awaitingPayload [] (ofBigEndian field)).feedFrom limit Frame.lengthFieldSize rest := by
  have hfill : fill Frame.lengthFieldSize [] (field ++ rest) = field := by
    rw [fill, List.nil_append, List.length_nil, Nat.sub_zero, List.take_left' hfield]
  have hlong : Frame.lengthFieldSize ≤ ([] : Bytes).length + (field ++ rest).length := by
    rw [List.length_append, hfield]
    omega
  refine (feed_awaitingLength_of_le hlong (Nat.zero_le _) hfill).trans ?_
  rw [List.length_nil, Nat.sub_zero, List.drop_left' hfield]

namespace Assembler

open StreamRtp.Frame (Reading Unfinished Refuses)

variable {limit : Nat} {payload bytes rest field : Bytes} {payloads : List Bytes} {intake : Intake}
  {idle : Bool} {e : AssemblyError}

/-! ## The assembler on a decomposition -/

/-- A call of an assembler is a call of its phase. -/
theorem exists_feed_eq {a : Assembler} {x : Bytes} {out : Except AssemblyError Delivery} {p : Phase}
    (h : a.phase.feed a.limit x = (out, p)) : ∃ a', a.feed x = (out, a') ∧ a'.phase = p := by
  have hout : (a.feed x).1 = out := (congrArg Prod.fst h :)
  exact ⟨(a.feed x).2, Prod.ext hout rfl, congrArg Prod.snd h⟩

/-- A frame that the limit admits is taken in one call, which leaves a new assembler. -/
theorem feed_wire_append (hlimit : payload.length ≤ limit)
    (hmax : payload.length ≤ Frame.maxPayload) (rest : Bytes) :
    (ofLimit limit).feed (Frame.wire payload ++ rest)
      = (.ok ⟨(Frame.wire payload).length, some payload⟩, ofLimit limit) := by
  refine feed_eq_iff.2 ⟨?_, rfl⟩
  rw [Frame.length_wire, Frame.wire, List.append_assoc]
  change Phase.start.feed limit _ = _
  rw [Phase.feed_start_append (length_bigEndian ..), ofBigEndian_bigEndian hmax,
    if_neg (Nat.not_lt.2 hlimit)]
  -- An empty payload is complete with its length.
  split
  · rename_i hzero
    rw [List.length_eq_zero_iff.1 hzero]
    rfl
  · rw [Phase.feedFrom_eq,
      Phase.feed_awaitingPayload_of_le (by rw [List.length_append]; omega), List.reverse_nil,
      List.nil_append, List.take_left]
    rfl

/-- A frame in front of a stream comes out in front of its payloads. -/
theorem push_wire_append (hlimit : payload.length ≤ limit)
    (hmax : payload.length ≤ Frame.maxPayload) (rest : Bytes) :
    (ofLimit limit).push (Frame.wire payload ++ rest)
      = (⟨payload :: ((ofLimit limit).push rest).1.frames, ((ofLimit limit).push rest).1.error⟩,
          ((ofLimit limit).push rest).2) := by
  have hne : Frame.wire payload ++ rest ≠ [] := by
    rw [Frame.wire, List.append_assoc]
    exact Frame.append_ne_nil (length_bigEndian ..) _
  rw [push_of_ok hne (feed_wire_append hlimit hmax rest)]
  simp only [List.drop_left, Option.toList, List.singleton_append]

theorem push_encodeAll_append (hle : ∀ payload ∈ payloads, payload.length ≤ limit)
    (hbytes : Frame.encodeAll payloads = .ok bytes) (rest : Bytes) :
    (ofLimit limit).push (bytes ++ rest)
      = (⟨payloads ++ ((ofLimit limit).push rest).1.frames, ((ofLimit limit).push rest).1.error⟩,
          ((ofLimit limit).push rest).2) := by
  induction payloads generalizing bytes with
  | nil =>
    cases hbytes
    rfl
  | cons payload payloads ih =>
    obtain ⟨hpayload, hpayloads⟩ := List.forall_mem_cons.1 hle
    obtain ⟨hmax, later, hlater, rfl⟩ := Frame.exists_of_encodeAll_cons hbytes
    rw [List.append_assoc, push_wire_append hpayload hmax, ih hpayloads hlater]
    rfl

/-- The beginning of a frame is kept. -/
theorem push_of_unfinished (h : Unfinished limit rest) :
    ((ofLimit limit).push rest).1 = ⟨[], none⟩ ∧
      ((ofLimit limit).push rest).2.isIdle = rest.isEmpty := by
  cases h with
  | nothing =>
    rw [push_nil]
    exact ⟨rfl, rfl⟩
  | halfLength b =>
    have hphase : Phase.start.feed limit [b] = (.ok ⟨1, none⟩, .awaitingLength [b]) :=
      Phase.feed_awaitingLength_of_lt Nat.one_lt_two
    obtain ⟨a', hfeed, hlast⟩ := exists_feed_eq (a := ofLimit limit) hphase
    rw [push_of_none (List.cons_ne_nil b []) hfeed rfl, isIdle, hlast]
    exact ⟨rfl, rfl⟩
  | payload field body hfield hpos hle hlt =>
    have hphase : Phase.start.feed limit (field ++ body)
        = (.ok ⟨Frame.lengthFieldSize + body.length, none⟩,
            .awaitingPayload (body.reverse ++ []) (ofBigEndian field - body.length)) := by
      rw [Phase.feed_start_append hfield, if_neg (Nat.not_lt.2 hle), if_neg (by omega),
        Phase.feedFrom_eq, Phase.feed_awaitingPayload_of_lt hlt]
      rfl
    have hne : field ++ body ≠ [] := Frame.append_ne_nil hfield body
    obtain ⟨a', hfeed, hlast⟩ := exists_feed_eq (a := ofLimit limit) hphase
    rw [push_of_none hne hfeed rfl, isIdle, hlast, List.isEmpty_eq_false_iff.2 hne]
    exact ⟨rfl, rfl⟩

/-- A length that the limit refuses is kept, whatever follows it. -/
theorem push_of_refuses (h : Refuses limit field e) (rest : Bytes) :
    ((ofLimit limit).push (field ++ rest)).1 = ⟨[], some e⟩ ∧
      ((ofLimit limit).push (field ++ rest)).2.isIdle = false := by
  have hphase : Phase.start.feed limit (field ++ rest) = (.error e, .awaitingLength field) := by
    rw [Phase.feed_start_append h.complete, if_pos h.lt, h.error_eq]
  obtain ⟨a', hfeed, hlast⟩ := exists_feed_eq (a := ofLimit limit) hphase
  rw [push_of_error (Frame.append_ne_nil h.complete rest) hfeed, isIdle, hlast]
  refine ⟨rfl, decide_eq_false ?_⟩
  rintro heq
  cases heq
  cases h.complete

/-- A new assembler reads a stream as it is decomposed. -/
theorem push_of_reading {stream : Bytes} (h : Frame.Reading limit stream intake idle) :
    ((ofLimit limit).push stream).1 = intake ∧
      ((ofLimit limit).push stream).2.isIdle = idle := by
  cases h with
  | accepted payloads frames rest hle hframes hrest hstream =>
    obtain ⟨hintake, hidle⟩ := push_of_unfinished hrest
    rw [hstream, push_encodeAll_append hle hframes, hintake, List.append_nil]
    exact ⟨rfl, hidle⟩
  | refused payloads frames field rest e hle hframes hrefuses hstream =>
    obtain ⟨hintake, hidle⟩ := push_of_refuses hrefuses rest
    rw [hstream, List.append_assoc, push_encodeAll_append hle hframes, hintake, List.append_nil]
    exact ⟨rfl, hidle⟩

/-- An assembler that is given a stream reports the payloads, the error and the rest of the
decomposition of the stream, and of nothing else: the frames of the payloads are the stream up to an
admitted beginning of a frame, or up to a refused length. -/
theorem push_ofLimit_iff_reading (limit : Nat) (stream : Bytes) (intake : Intake) (idle : Bool) :
    (((ofLimit limit).push stream).1 = intake ∧ ((ofLimit limit).push stream).2.isIdle = idle) ↔
      Reading limit stream intake idle := by
  constructor
  · rintro ⟨rfl, rfl⟩
    obtain ⟨intake, idle, h⟩ := Reading.exists_reading limit stream
    obtain ⟨hintake, hidle⟩ := push_of_reading h
    rwa [hintake, hidle]
  · exact push_of_reading

/-- A payload, an empty one, and a length that is refused under the limit. -/
example : ((ofLimit 2).push [0, 1, 7, 0, 0, 0, 3, 9]).1
    = ⟨[[7], []], some (.frameTooLarge 3 2)⟩ := by
  decide +kernel

end Assembler

end StreamRtp
