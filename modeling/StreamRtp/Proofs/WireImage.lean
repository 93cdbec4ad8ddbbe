import StreamRtp.Proofs.Errands

/-!
# What a sender writes

The packets of a sender are known in advance: `SendOptions.packet` gives the bytes of each by its
number. Both counters of a source wrap, so the source after so many packets is known as well, and
`packets_eq` follows by induction on the packets that remain.

A sender writes the frames of a first part of its packets. How long this part is depends on how the
sender fares, which `Errand` tells.
-/

namespace StreamRtp

variable {W σ : Type}

namespace CommandLine

namespace SendOptions

variable (options : SendOptions) (ssrc : UInt32)

/-! ## The packets -/

/-- The packet with the given number: the header, with the marker in the last packet and the clock
ticks of as many intervals, and bytes that count up. -/
def packet (n : Nat) : Bytes :=
  [0x80, (options.payloadType &&& 0x7f) ||| (if n + 1 = options.count then 0x80 else 0)]
    ++ bigEndian 2 (n % 65536)
    ++ bigEndian 4 (n * 90 * options.interval.toNat % 4294967296)
    ++ bigEndian 4 ssrc.toNat
    ++ (List.range options.payloadSize).map fun i ↦ UInt8.ofNat (i % 256)

/-- The source before the packet with the given number. -/
def sourceAt (n : Nat) : Rtp.Source :=
  ⟨options.payloadType &&& 0x7f, ssrc, .ofNat n, .ofNat (n * 90 * options.interval.toNat)⟩

/-- The ticks of an interval, if the product with the clock rate fits into 64 bits. -/
theorem timestampStep_eq {interval : UInt64} (h : 90000 * interval.toNat < 18446744073709551616) :
    timestampStep interval = some (.ofNat (90 * interval.toNat)) := by
  have hfits : clockRate.toNat * interval.toNat < UInt64.size := h
  have hproduct : (clockRate * interval).toNat = 90000 * interval.toNat := by
    rw [UInt64.toNat_mul]
    exact Nat.mod_eq_of_lt h
  have hthousand : 90000 * interval.toNat / 1000 = 90 * interval.toNat := by omega
  rw [timestampStep, if_pos hfits, Option.some_inj, ← UInt32.toNat_inj, UInt64.toNat_toUInt32,
    UInt64.toNat_div, hproduct, UInt32.toNat_ofNat', ← hthousand]
  rfl

variable {options} {ssrc} {n : Nat}

/-- The source builds the packet with its number. -/
theorem packet_sourceAt (marker : Bool) (hmarker : marker = decide (n + 1 = options.count)) :
    ((options.sourceAt ssrc n).packet marker (payload options.payloadSize)).1
      = options.packet ssrc n := by
  have hbytes : payload options.payloadSize
      = (List.range options.payloadSize).map fun i ↦ UInt8.ofNat (i % 256) := by
    refine List.map_congr_left fun i _ ↦ UInt8.toNat_inj.1 ?_
    rw [UInt8.toNat_ofNat', UInt8.toNat_ofNat', Nat.mod_mod]
  have hsequence : (UInt16.ofNat n).toNat = n % 65536 := UInt16.toNat_ofNat'
  have htimestamp : (UInt32.ofNat (n * 90 * options.interval.toNat)).toNat
      = n * 90 * options.interval.toNat % 4294967296 := UInt32.toNat_ofNat'
  rw [Rtp.Source.packet, Rtp.Source.header, packet, sourceAt, hsequence, htimestamp, hbytes,
    hmarker, UInt8.or_comm]
  simp only [decide_eq_true_eq]
  rfl

/-- Then its clock moves on to the next packet. -/
theorem advance_sourceAt (marker : Bool) (payload : Bytes) :
    ((options.sourceAt ssrc n).packet marker payload).2.advance
        (.ofNat (90 * options.interval.toNat))
      = options.sourceAt ssrc (n + 1) := by
  have hsequence : UInt16.ofNat n + 1 = .ofNat (n + 1) := (UInt16.ofNat_add ..).symm
  have htimestamp : UInt32.ofNat (n * 90 * options.interval.toNat)
      + .ofNat (90 * options.interval.toNat) = .ofNat ((n + 1) * 90 * options.interval.toNat) := by
    rw [← UInt32.ofNat_add, Nat.add_one_mul n, Nat.add_mul]
  rw [Rtp.Source.packet, Rtp.Source.advance, sourceAt, sourceAt, ← hsequence, ← htimestamp]

/-- The packets that remain from some packet on. -/
theorem upcoming_sourceAt {remaining : Nat} (hcount : n + remaining = options.count) :
    (options.sourceAt ssrc n).upcoming (payload options.payloadSize)
        (.ofNat (90 * options.interval.toNat)) remaining
      = (List.range' n remaining).map (options.packet ssrc) := by
  induction remaining generalizing n with
  | zero => rfl
  | succ remaining ih =>
    rw [Rtp.Source.upcoming, List.range'_succ, List.map_cons]
    dsimp only
    rw [packet_sourceAt _ (decide_eq_decide.2 (by omega)), advance_sourceAt, ih (by omega)]

/-- The packets of a sender are known in advance. -/
theorem packets_eq (options : SendOptions) (ssrc : UInt32) :
    options.packets ssrc (.ofNat (90 * options.interval.toNat))
      = (List.range options.count).map (options.packet ssrc) := by
  have hstart : Rtp.Source.new options.payloadType ssrc = options.sourceAt ssrc 0 := by
    rw [sourceAt, Nat.zero_mul]
    rfl
  rw [packets, hstart, upcoming_sourceAt (Nat.zero_add _), List.range_eq_range']

end SendOptions

end CommandLine

/-! ## How far a sender comes -/

/-- The writes of packets that did not fail, and perhaps of one more that did. -/
inductive Posted (id : ConnectionId) (stream : σ) (done rest : List Bytes) :
    List (Posting σ) → Except TransmitError Unit → Prop
  | all (result : Except TransmitError Unit) :
    Posted id stream done rest (done.map (.sent stream)) result
  | failing (packet : Bytes) (later : List Bytes) (cause : IoError)
    (hrest : rest = packet :: later) : Posted id stream done rest
      (done.map (.sent stream) ++ [⟨stream, Frame.wire packet, .error cause⟩])
      (.error (.send id cause))

namespace Posted

variable {id : ConnectionId} {stream : σ} {done rest : List Bytes} {posted : List (Posting σ)}
  {result : Except TransmitError Unit}

theorem delivered_eq (h : Posted id stream done rest posted result) :
    posted.filterMap Posting.delivered? = done.map Frame.wire := by
  cases h with
  | all => exact Errand.delivered_sent stream done
  | failing packet later cause =>
    rw [List.filterMap_append, Errand.delivered_sent]
    exact List.append_nil _

/-- A sender writes to its connection. -/
theorem stream_eq (h : Posted id stream done rest posted result) :
    ∀ posting ∈ posted, posting.stream = stream := by
  have hdone : ∀ posting ∈ done.map (Posting.sent stream), posting.stream = stream := by
    intro posting hposting
    obtain ⟨packet, -, rfl⟩ := List.mem_map.1 hposting
    rfl
  cases h with
  | all => exact hdone
  | failing packet later cause =>
    exact List.forall_mem_append.2 ⟨hdone, List.forall_mem_singleton.2 rfl⟩

/-- The write that fails is the last one, and the sender fails with it. -/
theorem of_failed (h : Posted id stream done rest posted result) {n : Nat} {posting : Posting σ}
    {cause : IoError} (hposting : posted[n]? = some posting)
    (hfailed : posting.answer = .error cause) :
    done.length = n ∧ result = .error (.send id cause) := by
  have hdone : ∀ {n : Nat}, (done.map (Posting.sent stream))[n]? ≠ some posting := by
    intro n h
    obtain ⟨packet, -, rfl⟩ := List.mem_map.1 (List.mem_of_getElem? h)
    cases hfailed
  cases h with
  | all => exact absurd hposting hdone
  | failing packet later cause' =>
    rw [List.getElem?_append] at hposting
    split at hposting
    · exact absurd hposting hdone
    · rename_i hle
      rw [List.length_map] at hle hposting
      rw [List.getElem?_singleton] at hposting
      split at hposting
      · cases hposting
        cases hfailed
        exact ⟨by omega, rfl⟩
      · cases hposting

end Posted

namespace Errand

variable {id dropped : ConnectionId} {stream : σ} {packets : List Bytes}
  {marks before after : List (Milestone σ)} {result : Except TransmitError Unit}
  {reason : DropReason}

/-- The writes of a sender are those of a first part of its packets. -/
theorem posted (h : Errand id stream packets marks result) : ∃ done rest,
    packets = done ++ rest ∧
      Posted id stream done rest (marks.filterMap Milestone.posting?) result := by
  have hlast : ∀ (done : List Bytes) (last : Milestone σ), last.posting? = none →
      (done.map (Milestone.sent stream) ++ [last]).filterMap Milestone.posting?
        = done.map (.sent stream) := by
    intro done last hnone
    rw [List.filterMap_append, postings_sent, List.filterMap_cons_none hnone]
    exact List.append_nil _
  cases h with
  | complete =>
    rw [postings_sent]
    exact ⟨packets, [], (List.append_nil _).symm, .all _⟩
  | unwritten done packet rest cause hpackets =>
    rw [List.filterMap_append, postings_sent]
    exact ⟨done, packet :: rest, hpackets, .failing packet rest cause rfl⟩
  | outage done rest cause hpackets =>
    rw [hlast done _ rfl]
    exact ⟨done, rest, hpackets, .all _⟩
  | lost done rest reason hreason hpackets =>
    rw [hlast done _ rfl]
    exact ⟨done, rest, hpackets, .all _⟩

/-- A sender that neither loses its connection nor is let down by the poller writes everything. -/
theorem of_steady (h : Errand id stream packets marks result)
    (hkept : marks.filterMap Milestone.dropping? = [])
    (hpolled : marks.filterMap Milestone.outage? = []) :
    marks = packets.map (.sent stream) ∧ result = .ok () := by
  cases h with
  | complete => exact ⟨rfl, rfl⟩
  | unwritten => simp [Milestone.dropping?] at hkept
  | outage => simp [Milestone.outage?] at hpolled
  | lost => simp [Milestone.dropping?] at hkept

/-- A connection that is lost other than by a write is lost after the writes. -/
theorem of_lost (h : Errand id stream packets marks result)
    (hmarks : marks = before ++ .dropped dropped reason :: after)
    (hreason : ∀ cause, reason ≠ .send cause) :
    ∃ done : List Bytes, before = done.map (.sent stream) ∧
      marks.filterMap Milestone.posting? = done.map (.sent stream) := by
  obtain rfl := h.of_dropped hmarks
  cases h with
  | complete =>
    refine absurd ?_ (dropped_notMem_sent dropped reason stream packets)
    rw [hmarks]
    exact List.mem_append_right _ (List.mem_singleton_self _)
  | outage done => cases (List.append_inj' hmarks rfl).2
  | unwritten done packet rest cause =>
    rw [List.append_cons] at hmarks
    cases (List.append_inj' hmarks rfl).2
    exact absurd rfl (hreason _)
  | lost done rest reason' =>
    obtain ⟨rfl, -⟩ := List.append_inj' hmarks rfl
    refine ⟨done, rfl, ?_⟩
    rw [List.filterMap_append, postings_sent]
    exact List.append_nil _

end Errand

/-! ## The main result -/

/-- Frames of payloads that are short enough. -/
theorem Frame.mapM_encode {f : Nat → Bytes} {numbers : List Nat}
    (h : ∀ n ∈ numbers, (f n).length ≤ maxPayload) :
    (numbers.mapM fun n ↦ encode (f n)) = .ok (numbers.map fun n ↦ wire (f n)) := by
  induction numbers with
  | nil => rfl
  | cons n numbers ih =>
    obtain ⟨hn, hnumbers⟩ := List.forall_mem_cons.1 h
    rw [List.mapM_cons, encode_of_le hn, ih hnumbers]
    rfl

namespace CommandLine

theorem SendOptions.length_packet (options : SendOptions) (ssrc : UInt32) (n : Nat) :
    (options.packet ssrc n).length = options.payloadSize + 12 := by
  simp [packet]
  omega

/-- A first part of the packets has the first numbers. -/
theorem SendOptions.eq_of_packets_eq {options : SendOptions} {ssrc : UInt32}
    {done rest : List Bytes}
    (h : options.packets ssrc (.ofNat (90 * options.interval.toNat)) = done ++ rest) :
    done.length ≤ options.count ∧ done = (List.range done.length).map (options.packet ssrc) := by
  have hlength := options.length_packets ssrc (.ofNat (90 * options.interval.toNat))
  rw [h, List.length_append] at hlength
  have hle : done.length ≤ options.count := by omega
  refine ⟨hle, ?_⟩
  have hdone : done = (options.packets ssrc (.ofNat (90 * options.interval.toNat))).take
      done.length := by rw [h, List.take_left]
  rw [packets_eq, ← List.map_take, List.take_range, Nat.min_eq_left hle] at hdone
  exact hdone

namespace Sender

variable [Network W σ]

/-- **What a sender writes.** If the stream is refused, or the packets are too big, nothing is
written. Otherwise the frames of the first packets are written, to the stream and to nobody else:
of all packets, if neither the connection is dropped nor the poller fails; of those before the one
whose write fails; and of those up to the one after which the connection is lost. -/
theorem wire_image (options : SendOptions) (ssrc : UInt32) (stream : σ) (w : W)
    (hinterval : 90000 * options.interval.toNat < 18446744073709551616) :
    let out := run options ssrc (.ok stream) w
    let history := out.journal.history
    let id := Network.id W stream
    (∀ cause, (Network.bytesAvailable stream w).1 = .error cause →
      out.result = .error (.failed (.invalidTransport id cause)) ∧ postings history = []) ∧
    ∀ available, (Network.bytesAvailable stream w).1 = .ok available →
      (1400 < options.payloadSize + 12 → 0 < options.count →
        out.result = .error (.failed (.packetTooBig (options.payloadSize + 12) 1400)) ∧
          postings history = []) ∧
      (options.payloadSize + 12 ≤ 1400 ∨ options.count = 0 → ∃ k ≤ options.count,
        ((List.range k).mapM fun n ↦ Frame.encode (options.packet ssrc n))
            = .ok (delivered history) ∧
          (∀ posting ∈ postings history, posting.stream = stream) ∧
          (droppings history = [] → outages history = [] →
            k = options.count ∧ out.result = .ok ()) ∧
          (∀ n posting cause, (postings history)[n]? = some posting →
            posting.answer = .error cause → k = n ∧
              out.result = .error (.failed (.send id cause))) ∧
          ∀ n before dropped reason after,
            history = before ++ .log (.droppingConnection dropped reason) :: after →
              (∀ cause, reason ≠ .send cause) → (postings before).length = n + 1 → k = n + 1) := by
  intro out history id
  have hout : out = overStream options ssrc stream w := rfl
  have hstep := SendOptions.timestampStep_eq hinterval
  have hunwritten : milestones history = [] → postings history = [] := by
    intro hnothing
    rw [postings, hnothing]
    rfl
  refine ⟨fun cause havailable ↦ ?_, fun available havailable ↦ ?_⟩
  · obtain ⟨hresult, hnothing⟩ := overStream_of_error options ssrc (Prod.ext havailable rfl)
    exact ⟨hresult, hunwritten hnothing⟩
  have hasked : Network.bytesAvailable stream w = (.ok available, _) := Prod.ext havailable rfl
  have hsum : options.payloadSize + 12 = Rtp.headerLength + options.payloadSize := Nat.add_comm ..
  refine ⟨fun hlt hsome ↦ ?_, fun hfits ↦ ?_⟩
  · obtain ⟨hresult, hnothing⟩ := overStream_of_lt options ssrc hstep hasked hsome (hsum ▸ hlt)
    rw [hsum]
    exact ⟨hresult, hunwritten hnothing⟩
  obtain ⟨result, hended, herrand⟩ :=
    overStream_errand options ssrc hstep hasked (hfits.symm.imp_right (hsum ▸ ·))
  change out.result = _ at hended
  change Errand id stream _ (milestones history) result at herrand
  obtain ⟨done, rest, hpackets, hposted⟩ := herrand.posted
  obtain ⟨hle, hdone⟩ := SendOptions.eq_of_packets_eq hpackets
  have hdelivered : delivered history = done.map Frame.wire := hposted.delivered_eq
  have hcount : ∀ written : List Bytes, postings history = written.map (.sent stream) →
      done.length = written.length := by
    intro written hwritten
    have heq := congrArg List.length hdelivered
    rw [delivered, hwritten, Errand.delivered_sent, List.length_map, List.length_map] at heq
    exact heq.symm
  refine ⟨done.length, hle, ?_, hposted.stream_eq, fun hkept hpolled ↦ ?_,
    fun n posting cause hposting hanswer ↦ ?_, ?_⟩
  · rw [Frame.mapM_encode fun n hn ↦ ?_]
    · rw [hdelivered]
      nth_rewrite 2 [hdone]
      rw [List.map_map]
      rfl
    · rw [options.length_packet]
      have hpos := List.mem_range.1 hn
      rcases hfits with hfits | hnone
      · exact Nat.le_trans hfits (by decide)
      · omega
  · obtain ⟨hall, rfl⟩ := herrand.of_steady hkept hpolled
    have hwritten : postings history
        = (options.packets ssrc (.ofNat (90 * options.interval.toNat))).map (.sent stream) := by
      rw [postings, hall, Errand.postings_sent]
    exact ⟨(hcount _ hwritten).trans (options.length_packets ..), hended⟩
  · obtain ⟨hk, rfl⟩ := hposted.of_failed hposting hanswer
    exact ⟨hk, hended⟩
  · intro n before dropped reason after hsplit hreason hn
    obtain ⟨written, hbefore, hall⟩ :=
      herrand.of_lost (hsplit ▸ milestones_drop before after dropped reason) hreason
    rw [hcount written hall, ← hn, postings, hbefore, Errand.postings_sent, List.length_map]

open Socket

/-- Two packets of one byte, twenty milliseconds apart. The payload type has its top bit set. -/
def twoPackets : SendOptions := ⟨"peer:5004", 2, 20, 1, 224⟩

/-- Both packets are written, the second one with the marker and a stamp of 1800 ticks. -/
theorem wire_image_twoPackets :
    let out := run twoPackets 7 (.ok (⟨0⟩ : Stream)) (⟨[.fresh]⟩ : World)
    90000 * twoPackets.interval.toNat < 18446744073709551616 ∧ out.result = .ok () ∧
      ((List.range 2).mapM fun n ↦ Frame.encode (twoPackets.packet 7 n))
        = .ok (delivered out.journal.history) ∧
      twoPackets.packet 7 1 = [0x80, 0xe0, 0, 1, 0, 0, 7, 8, 0, 0, 0, 7, 0] := by
  have hinterval : 90000 * twoPackets.interval.toNat < 18446744073709551616 := by decide
  obtain ⟨-, hlaw⟩ :=
    wire_image twoPackets 7 (⟨0⟩ : Stream) (⟨[.fresh]⟩ : World) hinterval
  obtain ⟨-, hfits⟩ := hlaw 0 (by decide +kernel)
  obtain ⟨k, -, hframes, -, hall, -, -⟩ := hfits (.inl (by decide))
  obtain ⟨hcount, hresult⟩ := hall (by decide +kernel) (by decide +kernel)
  have htwo : k = 2 := hcount
  rw [htwo] at hframes
  exact ⟨hinterval, hresult, hframes, by decide +kernel⟩

end Sender

end CommandLine

end StreamRtp
