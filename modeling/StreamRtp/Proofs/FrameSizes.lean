import StreamRtp.Proofs.Chunks

/-!
# How long frames become

A length is judged when its field is complete, and a payload is collected only after that. So no
frame becomes longer than the lengths that are accepted. `Phase.Within` says what makes this true of
the frame in progress, for any bound on the accepted lengths: what a length field can say is one,
and the limit of an assembler is another one as long as it stays.
-/

namespace StreamRtp

namespace Phase

variable {limit bound : Nat} {p p' : Phase} {x payload : Bytes} {d : Delivery}

/-- Whether the payload in progress, if there is one, will have at most so many bytes. -/
def Within (bound : Nat) : Phase → Prop
  | .awaitingLength _ => True
  | .awaitingPayload arrived missing => arrived.length + missing ≤ bound

theorem within_start (bound : Nat) : start.Within bound := trivial

theorem Sound.within (h : p.Sound) : p.Within Frame.maxPayload := by
  cases p with
  | awaitingLength field => trivial
  | awaitingPayload arrived missing => exact h.2

theorem Within.min {limit : Nat} (h : p.Within limit) (hbound : p.Within bound) :
    p.Within (min limit bound) := by
  cases p with
  | awaitingLength field => trivial
  | awaitingPayload arrived missing => exact Nat.le_min.2 ⟨h, hbound⟩

/-- A call that stays within a bound. A frame that it completes leaves a new phase. -/
structure FeedsWithin (bound : Nat) (out : Except AssemblyError Delivery × Phase) : Prop where
  phase : out.2.Within bound
  frame : ∀ d payload, out.1 = .ok d → d.frame = some payload →
    out.2 = start ∧ payload.length ≤ bound

theorem feedsWithin_awaitingPayload {arrived : Bytes} {missing : Nat}
    (h : arrived.length + missing ≤ bound) (x : Bytes) :
    FeedsWithin bound ((awaitingPayload arrived missing).feed limit x) := by
  by_cases hlt : x.length < missing
  · rw [feed_awaitingPayload_of_lt hlt]
    refine ⟨?_, ?_⟩
    · rw [Within, List.length_append, List.length_reverse]
      omega
    · rintro _ payload ⟨⟩ hframe
      cases hframe
  · rw [feed_awaitingPayload_of_le (by omega)]
    refine ⟨within_start bound, ?_⟩
    rintro _ _ ⟨⟩ ⟨⟩
    refine ⟨rfl, ?_⟩
    rw [List.length_append, List.length_reverse, List.length_take]
    omega

/-- A bound on the lengths that are accepted is one on the frames. -/
theorem feedsWithin (hp : p.Sound) (h : p.Within bound)
    (hbound : ∀ n ≤ Frame.maxPayload, n ≤ limit → n ≤ bound) (x : Bytes) :
    FeedsWithin bound (p.feed limit x) := by
  cases p with
  | awaitingPayload arrived missing => exact feedsWithin_awaitingPayload h x
  | awaitingLength field =>
    by_cases hlt : field.length + x.length < Frame.lengthFieldSize
    · rw [feed_awaitingLength_of_lt hlt]
      refine ⟨trivial, ?_⟩
      rintro _ payload ⟨⟩ hframe
      cases hframe
    · have hfull : (fill Frame.lengthFieldSize field x).length = Frame.lengthFieldSize :=
        length_fill_of_le hp.1 (by omega)
      rw [feed_awaitingLength_of_le (by omega) hp.1 rfl]
      split
      · refine ⟨trivial, ?_⟩
        rintro d payload hout
        cases hout
      · rename_i haccepted
        split
        · refine ⟨within_start bound, ?_⟩
          rintro _ _ ⟨⟩ ⟨⟩
          exact ⟨rfl, Nat.zero_le _⟩
        · -- The length is accepted, and the rest of the call collects the payload.
          have hdeclared : List.length ([] : Bytes)
              + ofBigEndian (fill Frame.lengthFieldSize field x) ≤ bound := by
            rw [List.length_nil, Nat.zero_add]
            exact hbound _ (ofBigEndian_le hfull) (Nat.not_lt.1 haccepted)
          have hrest : FeedsWithin bound ((awaitingPayload [] _).feed limit _) :=
            feedsWithin_awaitingPayload hdeclared (x.drop (Frame.lengthFieldSize - field.length))
          rw [feedFrom_eq]
          generalize (awaitingPayload []
            (ofBigEndian (fill Frame.lengthFieldSize field x))).feed limit
              (x.drop (Frame.lengthFieldSize - field.length)) = out at hrest
          obtain ⟨⟨e⟩ | ⟨d'⟩, p'⟩ := out
          · refine ⟨hrest.phase, ?_⟩
            rintro d payload hout
            cases hout
          · refine ⟨hrest.phase, ?_⟩
            rintro _ payload ⟨⟩ hframe
            exact hrest.frame d' payload rfl hframe

/-- A frame that completes leaves a new phase, and is as long as a length field can say. -/
theorem eq_start_of_frame (hp : p.Sound) (h : p.feed limit x = (.ok d, p'))
    (hframe : d.frame = some payload) : p' = start ∧ payload.length ≤ Frame.maxPayload := by
  have hwithin := feedsWithin hp hp.within (fun n hn (_ : n ≤ limit) ↦ hn) x
  rw [h] at hwithin
  exact hwithin.frame d payload rfl hframe

end Phase

namespace Assembler

variable {a : Assembler} {bound : Nat}

/-- Bytes leave an assembler within a bound on the lengths that it accepts, and complete only frames
within the bound. -/
theorem push_within (h : a.phase.Within bound)
    (hbound : ∀ n ≤ Frame.maxPayload, n ≤ a.limit → n ≤ bound) (x : Bytes) :
    (a.push x).2.phase.Within bound ∧ ∀ frame ∈ (a.push x).1.frames, frame.length ≤ bound := by
  induction a, x using push_induction with
  | nil a =>
    rw [push_nil]
    exact ⟨h, List.forall_mem_nil _⟩
  | refused a x e a' hx hfeed =>
    have hwithin := Phase.feedsWithin a.sound h hbound x
    rw [(feed_eq_iff.1 hfeed).1] at hwithin
    rw [push_of_error hx hfeed]
    exact ⟨hwithin.phase, List.forall_mem_nil _⟩
  | delivered a x d a' hx hfeed ih =>
    obtain ⟨hphase, hlimit⟩ := feed_eq_iff.1 hfeed
    have hwithin := Phase.feedsWithin a.sound h hbound x
    rw [hphase] at hwithin
    rw [← hlimit] at hbound
    obtain ⟨hlast, hlater⟩ := ih hwithin.phase hbound
    rw [push_of_ok hx hfeed]
    refine ⟨hlast, List.forall_mem_append.2 ⟨fun frame hframe ↦ ?_, hlater⟩⟩
    exact (hwithin.frame d frame rfl (Option.mem_toList.1 hframe)).2

end Assembler

end StreamRtp
