import Mathlib.Data.List.TakeWhile
import StreamRtp.Proofs.EchoServer
import StreamRtp.Proofs.WireImage

/-!
# From a sender to a listener and back

A sender writes its packets to a listener that sends them back. What comes back is what was sent,
except that the last packet may be missing: its second byte holds the marker and the payload type,
and with the marker some payload types read as the type of a control packet. Without the marker none
does, so only the last packet can be taken for one.

## The argument

What a listener writes is known from what it reads, and it reads what the sender has written. The
sender, for its part, writes all of its packets unless it loses its connection. It may lose it
because of what comes back, and only then: `Assembler.Explains` says that the assembler has refused
a length in this case. But nothing comes back that is longer than what was sent.
-/

namespace StreamRtp

variable {W V σ τ : Type}

/-! ## What a sender reads -/

/-- If a connection was given up because of a length, the assembler that was given the bytes that
were read has refused it. -/
def Assembler.Explains (a : Assembler) (events : List (Event σ)) : Prop :=
  ∀ id e, (id, .assembly e) ∈ droppings events → (a.push (incoming events)).1.error = some e

namespace Assembler.Explains

variable {a : Assembler} {first second : List (Event σ)}

/-- If nobody is given up, there is nothing to explain. -/
theorem of_nil (h : droppings second = []) : a.Explains second := by
  intro id e hmem
  rw [h] at hmem
  cases hmem

/-- What is read later goes to the assembler that is left. -/
theorem append (hkept : droppings first = []) (haccepted : (a.push (incoming first)).1.error = none)
    (h : (a.push (incoming first)).2.Explains second) : a.Explains (first ++ second) := by
  intro id e hmem
  rw [droppings_append, hkept, List.nil_append] at hmem
  rw [incoming_append, push_append_of_accepted haccepted]
  exact h id e hmem

/-- Before, nothing was read and nobody was given up. -/
theorem idle_append (hread : incoming first = []) (hkept : droppings first = [])
    (h : a.Explains second) : a.Explains (first ++ second) := by
  refine append hkept ?_ ?_
  all_goals rw [hread, push_nil]
  exact h

/-- Nothing is read any more, and nobody is given up. -/
theorem append_idle (h : a.Explains first) (hread : incoming second = [])
    (hkept : droppings second = []) : a.Explains (first ++ second) := by
  intro id e hmem
  rw [droppings_append, hkept, List.append_nil] at hmem
  rw [incoming_append, hread, List.append_nil]
  exact h id e hmem

/-- If every length is accepted, nobody is given up because of one. -/
theorem not_refused (h : a.Explains first)
    (haccepted : (a.push (incoming first)).1.error = none) (id : ConnectionId) (e : AssemblyError) :
    (id, .assembly e) ∉ droppings first := by
  intro hmem
  cases haccepted.symm.trans (h id e hmem)

end Assembler.Explains

/-- A receive pass over one connection. -/
theorem Core.Fate.explains {id : ConnectionId} {c : Connection σ} {out : CoreOutcome W σ Unit}
    (h : Fate id c out) : c.assembler.Explains out.events := by
  cases h with
  | kept hlist haccepted hdroppings => exact .of_nil hdroppings
  | lost reason hlist hdroppings hrefused hended =>
    intro id' e hmem
    rw [hdroppings] at hmem
    cases List.mem_singleton.1 hmem
    exact hrefused e rfl

namespace CommandLine.Sender

variable [Network W σ] (s : State W σ) {id : ConnectionId} {c : Connection σ}

/-- One packet: what was read goes to the assembler, as long as there is a connection. -/
theorem State.next_explains (last : Bool) {payload : Bytes} (step : UInt32)
    (h : s.Serves [(id, c)])
    (hle : Rtp.headerLength + payload.length ≤ defaultMaxPacketSize) :
    let out := s.next last payload step
    ∃ events, out.2.journal.history = s.journal.history ++ events ∧ c.assembler.Explains events ∧
      (out.1 = .ok () → out.2.Serves [] ∨
        out.2.Serves [(id, ⟨c.stream, (c.assembler.push (incoming events)).2⟩)] ∧
          (c.assembler.push (incoming events)).1.error = none ∧ droppings events = []) := by
  intro out
  obtain ⟨core, hcreated, hsize, hlist, hfits⟩ := s.fits last h hle
  cases core.dispatch_send hlist hfits s.scene.world with
  | unwritten cause hsent hevents =>
    obtain ⟨hresult, hhistory⟩ := s.next_of_error last step hcreated hsent
    refine ⟨_, hhistory, ?_, fun hok ↦ ?_⟩
    · intro id' e hmem
      rw [droppings, hevents] at hmem
      cases List.mem_singleton.1 hmem
    · cases hresult.symm.trans hok
  | written hsent hsentList hsentEvents =>
    obtain ⟨hresult, hhistory, hafter⟩ := s.next_of_ok last step hcreated hsize hsent
    have hread := core.incoming_send hfits s.scene.world
    have hkept := congrArg (List.filterMap Milestone.dropping?) hsentEvents
    change droppings (core.send (s.source.packet last payload).1 s.scene.world).events = [] at hkept
    generalize core.send (s.source.packet last payload).1 s.scene.world = sent
      at hsentList hresult hhistory hafter hread hkept
    have hfate := (Core.hears_poll hsentList sent.world).fate
    refine ⟨_, hhistory, .idle_append hread hkept hfate.explains, fun hok ↦ ?_⟩
    have hserves := (hafter (hresult.symm.trans hok)).1
    rw [incoming_append, hread, droppings_append, hkept, List.nil_append, List.nil_append]
    cases hfate with
    | kept hleft haccepted hnone =>
      rw [hleft] at hserves
      exact .inr ⟨hserves, haccepted, hnone⟩
    | lost reason hleft =>
      rw [hleft] at hserves
      exact .inl hserves

/-- All packets. -/
theorem State.packets_explains {payload : Bytes} (step : UInt32) (h : s.Serves [(id, c)])
    (hle : Rtp.headerLength + payload.length ≤ defaultMaxPacketSize) (count : Nat) :
    ∃ events, (s.packets payload step count).2.journal.history = s.journal.history ++ events ∧
      c.assembler.Explains events := by
  induction count generalizing s c with
  | zero => exact ⟨[], (List.append_nil _).symm, .of_nil rfl⟩
  | succ count ih =>
    obtain ⟨events, hhistory, hexplains, hafter⟩ := s.next_explains (count = 0) step h hle
    rw [packets]
    generalize s.next (count = 0) payload step = out at hhistory hafter
    obtain ⟨⟨e⟩ | ⟨⟨⟩⟩, s'⟩ := out
    · exact ⟨events, hhistory, hexplains⟩
    · rcases hafter rfl with hdeserted | ⟨hserves, haccepted, hnone⟩
      · obtain ⟨-, hlater⟩ := s'.packets_of_deserted step hdeserted hle count
        exact ⟨events, hlater.trans hhistory, hexplains⟩
      · obtain ⟨later, hlater, hexplainsLater⟩ := ih s' hserves
        refine ⟨events ++ later, ?_, .append hnone haccepted hexplainsLater⟩
        dsimp only
        rw [hlater, hhistory, List.append_assoc]

variable (options : SendOptions) (ssrc : UInt32) {stream : σ} {w w' : W}

/-- The end of a sender neither reads nor writes. -/
theorem finish_impersonal (sent : Except TransmitError Unit × State W σ) :
    ∃ ending, (finish options sent).journal.history = sent.2.journal.history ++ ending ∧
      Impersonal W ending := by
  obtain ⟨⟨e⟩ | ⟨⟨⟩⟩, s⟩ := sent
  · refine ⟨s.scene.abandon, Journal.history_events .., ?_⟩
    exact impersonal_logged s.scene.engine.ownAbort.destroy_log
  · refine ⟨s.scene.destroy.events, ?_, s.scene.destroy_impersonal⟩
    rw [finish, Journal.history_events, Journal.history_notice]

variable {step : UInt32} (hstep : timestampStep options.interval = some step)

include hstep

/-- Nothing is read before the first packet. -/
theorem overStream_unread {n : Nat} (hasked : Network.bytesAvailable stream w = (.ok n, w')) :
    ∃ start : State W σ,
      start.Serves [(Network.id W stream, ⟨stream, .ofLimit defaultMaxPacketSize⟩)] ∧
        incoming start.journal.history = [] ∧ droppings start.journal.history = [] ∧
        overStream options ssrc stream w = finish options (start.packets
          (payload options.payloadSize) step options.count) := by
  obtain ⟨destinations, hlist, hadded⟩ :=
    (Core.ofParams defaultMaxPacketSize .own .default).addDestination_of_ok List.not_mem_nil hasked
  rw [overStream_eq options ssrc hadded, hstep]
  exact ⟨_, ⟨_, rfl, rfl, hlist⟩, rfl, rfl, rfl⟩

/-- A sender loses its connection because of a length only if the length is refused. -/
theorem overStream_explains {n : Nat} (hasked : Network.bytesAvailable stream w = (.ok n, w'))
    (hle : Rtp.headerLength + options.payloadSize ≤ defaultMaxPacketSize) :
    (Assembler.ofLimit defaultMaxPacketSize).Explains
      (overStream options ssrc stream w).journal.history := by
  obtain ⟨start, hserves, hunread, hnone, hout⟩ := overStream_unread options ssrc hstep hasked
  rw [← length_payload options.payloadSize] at hle
  obtain ⟨events, hevents, hexplains⟩ := start.packets_explains step hserves hle options.count
  obtain ⟨ending, hending, himpersonal⟩ := finish_impersonal options (start.packets
    (payload options.payloadSize) step options.count)
  rw [hout, hending, hevents]
  exact .append_idle (.idle_append hunread hnone hexplains) himpersonal.incoming_eq_nil
    himpersonal.droppings_eq_nil

end CommandLine.Sender

/-- A sender whose connection is neither disturbed nor given up because of a length, nor ended
before all packets are written, writes all packets. -/
theorem Errand.of_undisturbed {id : ConnectionId} {stream : σ} {packets : List Bytes}
    {history : List (Event σ)} {result : Except TransmitError Unit}
    (h : Errand id stream packets (milestones history) result) (hundisturbed : Undisturbed history)
    (haccepted : ∀ id e, (id, .assembly e) ∉ droppings history)
    (hlate : ∀ before id after, history = before ++ .log (.droppingConnection id .closed) :: after →
      (delivered before).length = packets.length) :
    result = .ok () ∧ delivered history = packets.map Frame.wire := by
  have hdropped : ∀ {id reason}, .dropped id reason ∈ milestones history →
      (id, reason) ∈ droppings history := fun hmem ↦ List.mem_filterMap.2 ⟨_, hmem, rfl⟩
  have hbefore : ∀ before id after,
      history = before ++ .log (.droppingConnection id .closed) :: after →
        ∃ done : List Bytes, milestones before = done.map (.sent stream) ∧
          postings history = done.map (.sent stream) := by
    intro before id after hsplit
    have hmarks : milestones history
        = milestones before ++ .dropped id .closed :: milestones after := by
      rw [hsplit, milestones_drop]
    exact h.of_lost hmarks fun cause hcause ↦ by cases hcause
  have hwaits := hundisturbed.waits
  generalize hmarks : milestones history = marks at h
  cases h with
  | complete =>
    rw [delivered, postings, hmarks, postings_sent, delivered_sent]
    exact ⟨rfl, rfl⟩
  | unwritten done packet rest cause =>
    have hmem : .dropped id (.send cause.duplicate) ∈ milestones history :=
      hmarks ▸ List.mem_append_right _ (.tail _ (.head _))
    exact (hundisturbed.not_send (hdropped hmem)).elim
  | outage done rest cause =>
    rw [outages, hmarks, List.filterMap_append] at hwaits
    cases (List.append_eq_nil_iff.1 hwaits).2
  | lost done rest reason hreason hpackets =>
    have hmem : .dropped id reason ∈ milestones history :=
      hmarks ▸ List.mem_append_right _ (List.mem_singleton_self _)
    rcases hundisturbed.droppings _ (hdropped hmem) with rfl | ⟨e, rfl⟩
    · -- The connection was ended after the last packet.
      obtain ⟨before, after, hsplit⟩ := exists_log_of_dropped hmem
      obtain ⟨written, hwritten, hall⟩ := hbefore before id after hsplit
      have hcount := hlate before id after hsplit
      have hdone : done.map (Posting.sent stream) = written.map (.sent stream) := by
        rw [← hall, postings, hmarks, List.filterMap_append, postings_sent]
        exact (List.append_nil _).symm
      have hlength := congrArg List.length hdone
      rw [delivered, postings, hwritten, postings_sent, delivered_sent, List.length_map, hpackets,
        List.length_append] at hcount
      rw [List.length_map, List.length_map] at hlength
      have hrest : rest = [] := List.length_eq_zero_iff.1 (by omega)
      rw [delivered, hall, ← hdone, delivered_sent, hpackets, hrest, List.append_nil]
      exact ⟨rfl, rfl⟩
    · exact absurd (hdropped hmem) (haccepted id e)

/-! ## What comes back -/

namespace Assembler

/-- Frames of payloads that are short enough come out as the payloads. -/
theorem push_flatMap_wire {limit : Nat} {payloads : List Bytes}
    (hle : ∀ payload ∈ payloads, payload.length ≤ limit)
    (hmax : ∀ payload ∈ payloads, payload.length ≤ Frame.maxPayload) :
    ((Assembler.ofLimit limit).push (payloads.flatMap Frame.wire)).1 = ⟨payloads, none⟩ := by
  obtain ⟨hintake, -⟩ := push_of_reading (Frame.reading_flatMap_wire limit hmax)
  have hall : payloads.takeWhile (·.length ≤ limit) = payloads :=
    List.takeWhile_eq_self_iff.2 fun payload hpayload ↦ decide_eq_true (hle payload hpayload)
  have hnone : payloads.find? (limit < ·.length) = none :=
    List.find?_eq_none.2 fun payload hpayload ↦ by
      simpa using hle payload hpayload
  rw [hintake, hall, hnone]
  rfl

end Assembler

namespace CommandLine

namespace SendOptions

variable (options : SendOptions) (ssrc : UInt32)

/-- The payload types that read as the type of a control packet when the marker is set. -/
def MarkerCollides : Prop :=
  72 ≤ options.payloadType &&& 0x7f ∧ options.payloadType &&& 0x7f ≤ 76

instance : Decidable options.MarkerCollides := inferInstanceAs (Decidable (_ ∧ _))

/-- Without the marker, no payload type is the type of a control packet. With the marker some
are. -/
theorem isControlType_or : ∀ i : Fin 256,
    PacketKind.isControlType ((UInt8.ofNat i &&& 0x7f) ||| 0) = false ∧
      (PacketKind.isControlType ((UInt8.ofNat i &&& 0x7f) ||| 0x80) = true ↔
        72 ≤ UInt8.ofNat i &&& 0x7f ∧ UInt8.ofNat i &&& 0x7f ≤ 76) := by
  decide +kernel

/-- Only the packet with the marker can be taken for a control packet. -/
theorem classify_packet (n : Nat) : PacketKind.classify (options.packet ssrc n)
    = if n + 1 = options.count ∧ options.MarkerCollides then .rtcp else .rtp := by
  have hbyte : PacketKind.classify (options.packet ssrc n)
      = if PacketKind.isControlType ((options.payloadType &&& 0x7f)
          ||| (if n + 1 = options.count then 0x80 else 0)) then .rtcp else .rtp := rfl
  obtain ⟨hplain, hmarked⟩ :=
    isControlType_or ⟨options.payloadType.toNat, options.payloadType.toNat_lt⟩
  have htype : UInt8.ofNat (⟨options.payloadType.toNat, options.payloadType.toNat_lt⟩ : Fin 256)
      = options.payloadType := UInt8.ofNat_toNat
  rw [htype] at hplain hmarked
  rw [hbyte]
  by_cases hlast : n + 1 = options.count
  · rw [if_pos hlast]
    simp only [hlast, true_and, MarkerCollides, hmarked]
  · rw [if_neg hlast, hplain, if_neg Bool.false_ne_true, if_neg (fun h ↦ hlast h.1)]

variable {options} {ssrc}

/-- A packet without the marker is a media packet. -/
theorem classify_packet_of_ne {n : Nat} (h : n + 1 ≠ options.count) :
    PacketKind.classify (options.packet ssrc n) = .rtp := by
  rw [classify_packet, if_neg fun hlast ↦ h hlast.1]

/-- The media packets are all packets, or all but the last one. -/
theorem filter_packets :
    let packets := (List.range options.count).map (options.packet ssrc)
    packets.filter (PacketKind.classify · = .rtp)
      = if options.MarkerCollides then packets.dropLast else packets := by
  cases hcount : options.count with
  | zero => exact (ite_self _).symm
  | succ m =>
    have hfirst : ((List.range m).map (options.packet ssrc)).filter
        (PacketKind.classify · = .rtp) = (List.range m).map (options.packet ssrc) := by
      refine List.filter_eq_self.2 fun packet hpacket ↦ decide_eq_true ?_
      obtain ⟨n, hn, rfl⟩ := List.mem_map.1 hpacket
      have hlt := List.mem_range.1 hn
      exact classify_packet_of_ne (by omega)
    have hlast : PacketKind.classify (options.packet ssrc m)
        = if options.MarkerCollides then .rtcp else .rtp := by
      rw [classify_packet, hcount]
      simp only [true_and]
    dsimp only
    rw [List.range_succ, List.map_append, List.filter_append, hfirst, List.map_singleton,
      List.filter_singleton, hlast]
    split
    · rw [List.dropLast_concat]
      exact List.append_nil _
    · rfl

end SendOptions

/-! ## The main result -/

variable [Network W σ] [Network V τ]

/-- A listener that reads the frames of packets it admits sends the media packets back. -/
theorem Listener.postings_of_frames {listening : ListenOptions}
    {arrivals : List (List (AcceptStep τ))} {client : τ} (hecho : listening.echo = true)
    (halone : clients arrivals.flatten = [client]) (rounds : Nat) (input : Bytes) (v : V)
    {packets : List Bytes} (hle : ∀ packet ∈ packets, packet.length ≤ listening.maxPacketSize)
    (hmax : ∀ packet ∈ packets, packet.length ≤ Frame.maxPayload) :
    let history := (run listening (.ok ()) arrivals rounds input v).journal.history
    Undisturbed history → incoming history = packets.flatMap Frame.wire →
      postings history = echoes client packets := by
  intro history hundisturbed hread
  have hpush := Assembler.push_flatMap_wire hle hmax
  have hbenign : Benign listening.maxPacketSize history := by
    refine ⟨hundisturbed, ?_⟩
    rw [hread, hpush]
  have hwritten := postings_run hecho halone rounds input v hbenign
  change postings history = echoes client (Assembler.push _ (incoming history)).1.frames at hwritten
  rw [hwritten, hread, hpush]

/-- **There and back.** Let a sender write packets to a listener that sends them back and that both
of them admit. Let nothing be lost in between: the sender is not cut off before it has written all
packets, the listener has read what the sender has written, in whatever pieces, and what the sender
reads is the beginning of what the listener has written. Let the client be the only one, and let no
wait, no read and no write fail. Then the sender succeeds, and everything that it has written comes
back to it, in the same order, but for the last packet if its payload type collides with the marker.
All other packets are media packets. -/
theorem echoes_come_back (options : SendOptions) (ssrc : UInt32) {stream : σ} {w w' : W} {n : Nat}
    (hasked : Network.bytesAvailable stream w = (.ok n, w')) {listening : ListenOptions}
    (hecho : listening.echo = true) {arrivals : List (List (AcceptStep τ))} {client : τ}
    (halone : Listener.clients arrivals.flatten = [client])
    (hfits : options.payloadSize + 12 ≤ min 1400 listening.maxPacketSize)
    (hinterval : 90000 * options.interval.toNat < 18446744073709551616)
    (rounds : Nat) (input : Bytes) (v : V) :
    let sender := Sender.run options ssrc (.ok stream) w
    let listener := Listener.run listening (.ok ()) arrivals rounds input v
    let there := sender.journal.history
    let back := listener.journal.history
    Undisturbed there → Undisturbed back →
    (∀ before id after, there = before ++ .log (.droppingConnection id .closed) :: after →
      (delivered before).length = options.count) →
    incoming back = (delivered there).flatten →
    incoming there <+: (delivered back).flatten →
      sender.result = .ok () ∧
      delivered there
        = (List.range options.count).map (fun n ↦ Frame.wire (options.packet ssrc n)) ∧
      delivered back = (if options.MarkerCollides then (delivered there).dropLast
        else delivered there) ∧
      (∀ posting ∈ postings back, posting.stream = client) ∧
      ∀ n, PacketKind.classify (options.packet ssrc n)
        = if n + 1 = options.count ∧ options.MarkerCollides then .rtcp else .rtp := by
  intro sender listener there back hthere hback hlate hread hreturned
  have hsmall := Nat.le_trans hfits (Nat.min_le_left ..)
  have hle : Rtp.headerLength + options.payloadSize ≤ defaultMaxPacketSize :=
    Nat.add_comm .. ▸ hsmall
  have hstep := SendOptions.timestampStep_eq hinterval
  obtain ⟨result, hended, herrand⟩ := Sender.overStream_errand options ssrc hstep hasked (.inr hle)
  change sender.result = _ at hended
  change Errand (Network.id W stream) stream _ (milestones there) result at herrand
  have hpackets := options.packets_eq ssrc
  obtain ⟨done, rest, hsplit, hposted⟩ := herrand.posted
  have hdelivered : delivered there = done.map Frame.wire := hposted.delivered_eq
  have hlength : ∀ packet ∈ done, packet.length = options.payloadSize + 12 := by
    intro packet hpacket
    have hmem := List.mem_append_left rest hpacket
    rw [← hsplit, hpackets] at hmem
    obtain ⟨n, -, rfl⟩ := List.mem_map.1 hmem
    exact options.length_packet ssrc n
  have hmax : ∀ packet ∈ done, packet.length ≤ Frame.maxPayload := fun packet hpacket ↦
    hlength packet hpacket ▸ Nat.le_trans hsmall (by decide)
  -- What the sender has written is accepted by the listener and comes back.
  have hread : incoming back = done.flatMap Frame.wire := by
    rw [hread, hdelivered, List.flatMap_def]
  have hwritten : postings back = Listener.echoes client done :=
    Listener.postings_of_frames hecho halone rounds input v
      (fun packet hpacket ↦ hlength packet hpacket ▸ Nat.le_trans hfits (Nat.min_le_right ..)) hmax
      hback hread
  have hechoed : delivered back
      = (done.filter (PacketKind.classify · = .rtp)).map Frame.wire := by
    rw [delivered, hwritten, Listener.echoes, Errand.delivered_sent]
  -- What comes back is accepted by the sender, which writes everything then.
  have hexplains : (Assembler.ofLimit defaultMaxPacketSize).Explains there :=
    Sender.overStream_explains options ssrc hstep hasked hle
  have haccepted :
      ((Assembler.ofLimit defaultMaxPacketSize).push (incoming there)).1.error = none := by
    obtain ⟨unread, hall⟩ := hreturned
    refine Assembler.accepted_of_append (y := unread) ?_
    rw [hall, hechoed, ← List.flatMap_def, Assembler.push_flatMap_wire]
    · intro packet hpacket
      exact hlength packet (List.mem_filter.1 hpacket).1 ▸ hsmall
    · exact fun packet hpacket ↦ hmax packet (List.mem_filter.1 hpacket).1
  obtain ⟨rfl, hall⟩ := herrand.of_undisturbed hthere (hexplains.not_refused haccepted)
    fun before id after hclosed ↦ (hlate before id after hclosed).trans
      (options.length_packets ssrc _).symm
  have hdone : done = (List.range options.count).map (options.packet ssrc) := by
    have hcount := congrArg List.length (hdelivered.symm.trans hall)
    rw [hsplit, List.length_map, List.length_map, List.length_append] at hcount
    have hrest : rest = [] := List.length_eq_zero_iff.1 (by omega)
    rw [← hpackets, hsplit, hrest, List.append_nil]
  refine ⟨hended, ?_, ?_, ?_, options.classify_packet ssrc⟩
  · rw [hdelivered, hdone, List.map_map]
    rfl
  · rw [hechoed, hdelivered, hdone, SendOptions.filter_packets]
    split
    · exact List.map_dropLast ..
    · rfl
  · rw [hwritten]
    intro posting hposting
    obtain ⟨packet, -, rfl⟩ := List.mem_map.1 hposting
    rfl

/-- Two packets of one byte. With the marker, their payload type reads as a sender report. -/
def collidingPackets : SendOptions := ⟨"peer:5004", 2, 20, 1, 72⟩

/-- The bytes of the two packets. -/
def collidingFrames : Bytes :=
  Frame.wire (collidingPackets.packet 7 0) ++ Frame.wire (collidingPackets.packet 7 1)

/-- The world of the sender, in which the first packet comes back. -/
def collidingPeer : Scripted.World :=
  ⟨[("out", ⟨[.data (collidingFrames.take 15) none], false, [], none⟩)], []⟩

/-- The world of the listener: the bytes come in three pieces, and then the client leaves. -/
def collidingClient : Scripted.World :=
  ⟨[("in", ⟨[.data (collidingFrames.take 1) none, .data ((collidingFrames.drop 1).take 20) none,
    .data (collidingFrames.drop 21) none], true, [], none⟩)], []⟩

/-- The sender of the two packets. -/
def collidingSender : CommandOutcome Sender.Failure Scripted.World Scripted.Stream :=
  Sender.run collidingPackets 7 (.ok ⟨"out", ⟨1⟩⟩) collidingPeer

/-- A listener that admits packets of thirteen bytes. -/
def narrowListener : ListenOptions := ⟨"0.0.0.0:5004", true, 13⟩

/-- One client arrives before the first round, and the receive loop is woken while it waits. -/
def oneArrival : List (List (AcceptStep Scripted.Stream)) :=
  [[.arrive (.ok (⟨"in", ⟨2⟩⟩, "client"))], [.wake]]

/-- The listener of the client. -/
def collidingListener : Listener.Outcome Scripted.World Scripted.Stream :=
  Listener.run narrowListener (.ok ()) oneArrival 4 [] collidingClient

/-- The second packet does not come back. -/
theorem echoes_come_back_colliding :
    collidingSender.result = .ok () ∧
      (delivered collidingSender.journal.history).length = 2 ∧
      delivered collidingListener.journal.history
        = (delivered collidingSender.journal.history).dropLast := by
  have hasked : (Network.bytesAvailable (⟨"out", ⟨1⟩⟩ : Scripted.Stream) collidingPeer).1
      = .ok 15 := by decide +kernel
  have hnone : droppings collidingSender.journal.history = [] := by decide +kernel
  have hthere : Undisturbed collidingSender.journal.history := by
    refine ⟨by decide +kernel, ?_⟩
    rw [hnone]
    exact List.forall_mem_nil _
  have hleft : droppings collidingListener.journal.history = [(⟨2⟩, .closed)] := by decide +kernel
  have hback : Undisturbed collidingListener.journal.history := by
    refine ⟨by decide +kernel, ?_⟩
    rw [hleft]
    exact List.forall_mem_singleton.2 (.inl rfl)
  have hlate : ∀ before id after,
      collidingSender.journal.history = before ++ .log (.droppingConnection id .closed) :: after →
        (delivered before).length = 2 := by
    intro before id after hsplit
    rw [droppings, hsplit, milestones_drop, List.filterMap_append] at hnone
    cases (List.append_eq_nil_iff.1 hnone).2
  have hecho : narrowListener.echo = true := rfl
  have halone : Listener.clients oneArrival.flatten = [⟨"in", ⟨2⟩⟩] := rfl
  have hread : incoming collidingListener.journal.history
      = (delivered collidingSender.journal.history).flatten := by decide +kernel
  have hreturned : incoming collidingSender.journal.history
      <+: (delivered collidingListener.journal.history).flatten := by decide +kernel
  rw [collidingListener] at hback hread hreturned ⊢
  obtain ⟨hresult, hall, hechoed, -, -⟩ := echoes_come_back collidingPackets 7
    (Prod.ext hasked rfl : _ = (Except.ok 15, _)) hecho halone (by decide) (by decide) 4 []
    collidingClient hthere hback hlate hread hreturned
  refine ⟨hresult, ?_, hechoed⟩
  rw [collidingSender, hall]
  rfl

end CommandLine

end StreamRtp
