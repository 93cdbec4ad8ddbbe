import StreamRtp.Proofs.WireImage

/-!
# The clock ticks of an interval

The media clock of a sender moves on by the ticks of one interval, 90 for each millisecond, and its
stamps wrap at 32 bits. The ticks are a product and a quotient of 64 bits, which are cut to 32 bits
last. The arguments may ask for any interval of 64 bits, and for more than 204963823041217
milliseconds the product does not fit, although its last 32 bits are all that anybody wants of it.

The main statement says what comes of an interval: the right number of ticks if the product fits,
and a sender that panics over its new connection if not.
-/

namespace StreamRtp.CommandLine

variable {W σ : Type}

/-! ## The product -/

theorem clockRate_mul_lt_iff (interval : UInt64) :
    clockRate.toNat * interval.toNat < UInt64.size ↔ interval.toNat ≤ 204963823041217 := by
  have hrate : clockRate.toNat = 90000 := rfl
  rw [hrate, UInt64.size]
  omega

theorem timestampStep_eq_none_iff (interval : UInt64) :
    timestampStep interval = none ↔ 204963823041217 < interval.toNat := by
  rw [← Nat.not_le, ← clockRate_mul_lt_iff, timestampStep]
  split <;> simp_all

/-- Where there are ticks, they are the right ones. -/
theorem toNat_of_timestampStep {interval : UInt64} {step : UInt32}
    (h : timestampStep interval = some step) : step.toNat = 90 * interval.toNat % 4294967296 := by
  have hfits : 90000 * interval.toNat < 18446744073709551616 := by
    by_contra hlong
    have hnone : timestampStep interval = none := if_neg hlong
    cases h.symm.trans hnone
  rw [SendOptions.timestampStep_eq hfits] at h
  cases h
  exact UInt32.toNat_ofNat'

/-! ## The panic -/

section Panic

variable [Network W σ]

/-- A sender only panics over a connection that was made, and before anything is written. -/
theorem Sender.of_panicked (options : SendOptions) (ssrc : UInt32) (stream : σ) (w : W)
    (h : (Sender.run options ssrc (.ok stream) w).result = .error .panicked) :
    timestampStep options.interval = none ∧
      (∃ available, (Network.bytesAvailable stream w).1 = .ok available) ∧
      postings (Sender.run options ssrc (.ok stream) w).journal.history = [] := by
  rw [run] at h ⊢
  rcases hasked : Network.bytesAvailable stream w with ⟨⟨cause⟩ | ⟨n⟩, w'⟩
  · cases (overStream_of_error options ssrc hasked).1.symm.trans h
  cases hstep : timestampStep options.interval with
  | none =>
    obtain ⟨-, hnothing⟩ := overStream_of_none options ssrc hasked hstep
    refine ⟨rfl, ⟨n, rfl⟩, ?_⟩
    rw [postings, hnothing]
    rfl
  | some step =>
    obtain ⟨start, -, -, -, hout⟩ := overStream_of_ok options ssrc hstep hasked
    obtain ⟨hresult, -, -⟩ := finish_frame options (start.packets
      (payload options.payloadSize) step options.count)
    rw [hout, hresult] at h
    generalize (start.packets (payload options.payloadSize) step options.count).1 = result at h
    cases result <;> cases h

/-! ## The main result -/

/-- **The ticks of an interval.** The product with the clock rate fits in 64 bits for intervals of
up to 204963823041217 milliseconds and for no others. If it fits, the stamps move on by 90 ticks for
each millisecond, modulo their range. If it does not, there are no ticks, and a sender that has its
stream registered panics and writes nothing. It does so for no other reason. -/
theorem timestampStep_exact_iff (options : SendOptions) (ssrc : UInt32) (stream : σ) (w : W) :
    let interval := options.interval
    let out := Sender.run options ssrc (.ok stream) w
    (clockRate.toNat * interval.toNat < UInt64.size ↔ interval.toNat ≤ 204963823041217) ∧
      ((∃ step, timestampStep interval = some step ∧
        step.toNat = 90 * interval.toNat % 4294967296) ↔ interval.toNat ≤ 204963823041217) ∧
      (timestampStep interval = none ↔ 204963823041217 < interval.toNat) ∧
      (out.result = .error .panicked ↔ 204963823041217 < interval.toNat ∧
        ∃ available, (Network.bytesAvailable stream w).1 = .ok available) ∧
      (out.result = .error .panicked → postings out.journal.history = []) := by
  intro interval out
  have hnone := timestampStep_eq_none_iff interval
  refine ⟨clockRate_mul_lt_iff interval, ?_, hnone, ?_, fun h ↦ ?_⟩
  · rw [← Nat.not_lt, ← hnone, ← ne_eq, Option.ne_none_iff_exists']
    exact exists_congr fun step ↦ ⟨fun h ↦ h.1, fun h ↦ ⟨h, toNat_of_timestampStep h⟩⟩
  · rw [← hnone]
    constructor
    · intro h
      obtain ⟨hstep, havailable, -⟩ := Sender.of_panicked options ssrc stream w h
      exact ⟨hstep, havailable⟩
    · rintro ⟨hstep, n, havailable⟩
      exact (Sender.overStream_of_none options ssrc (Prod.ext havailable rfl) hstep).1
  · exact (Sender.of_panicked options ssrc stream w h).2.2

end Panic

example : timestampStep 20 = some 1800 := by decide

open Socket

/-- Two empty packets, 204963823041218 milliseconds apart. -/
def farApart : SendOptions := ⟨"peer:5004", 2, 204963823041218, 0, 96⟩

/-- The arguments are accepted and the connection is made, and then the sender panics. The ticks of
the interval would not have been too many for a stamp. -/
theorem panicked_farApart :
    let out := Sender.run farApart 7 (.ok (⟨0⟩ : Stream)) (⟨[.fresh]⟩ : World)
    Invocation.ofArguments ["send", "--connect", "peer:5004", "--count", "2",
        "--interval-ms", "204963823041218", "--payload-size", "0"] = .ok (.send farApart) ∧
      timestampStep farApart.interval = none ∧ out.result = .error .panicked ∧
      delivered out.journal.history = [] ∧
      90 * farApart.interval.toNat % 4294967296 = 1271310388 :=
  ⟨rfl, by decide, by decide +kernel, by decide +kernel, rfl⟩

end StreamRtp.CommandLine
