import Mathlib.Order.Bounds.Basic
import StreamRtp.Readiness

/-!
# How timeouts are rounded

The system waits for a whole number of milliseconds, so a timeout has to be rounded, and up, because
a wait of no time at all turns a loop of waits into a spin. `Duration.wholeMilliseconds` is what
rounding up comes to. `Duration.pollMilliseconds` rounds twice: it cuts a timeout to whole
microseconds, and rounds those up.

## What the cut loses

The second rounding is right for the timeout that was cut. So the two come to the same as rounding
up once, unless the cut takes away all that a timeout has beyond a whole number of milliseconds,
which is the case if that is less than a microsecond. Such a timeout overhangs: its wait is a
millisecond too short, and if there are no milliseconds in it, it is no wait.
-/

namespace StreamRtp.Duration

/-! ## Rounding up -/

/-- The least whole number of milliseconds that is not shorter than a duration. -/
def wholeMilliseconds (d : Duration) : Nat := (d.nanoseconds + 999999) / 1000000

theorem isLeast_wholeMilliseconds (d : Duration) :
    IsLeast {n | d.nanoseconds ≤ (ofMilliseconds n).nanoseconds} d.wholeMilliseconds := by
  constructor
  · change d.nanoseconds ≤ 1000000 * ((d.nanoseconds + 999999) / 1000000)
    omega
  · intro n (hn : d.nanoseconds ≤ 1000000 * n)
    rw [wholeMilliseconds]
    omega

theorem wholeMilliseconds_mono {d d' : Duration} (h : d.nanoseconds ≤ d'.nanoseconds) :
    d.wholeMilliseconds ≤ d'.wholeMilliseconds :=
  Nat.div_le_div_right (Nat.add_le_add_right h 999999)

/-! ## The cut -/

/-- A duration without what it has beyond whole microseconds. -/
def cut (d : Duration) : Duration := .ofMicroseconds d.microseconds

/-- A duration is longer than a whole number of milliseconds, but by less than a microsecond. -/
def Overhangs (d : Duration) : Prop :=
  0 < d.nanoseconds % 1000000 ∧ d.nanoseconds % 1000000 < 1000

instance (d : Duration) : Decidable d.Overhangs := inferInstanceAs (Decidable (_ ∧ _))

theorem cut_mono {d d' : Duration} (h : d.nanoseconds ≤ d'.nanoseconds) :
    d.cut.nanoseconds ≤ d'.cut.nanoseconds :=
  Nat.mul_le_mul_left 1000 (Nat.div_le_div_right h)

/-- Whole microseconds are rounded up to milliseconds without loss. -/
theorem wholeMilliseconds_cut (d : Duration) :
    d.cut.wholeMilliseconds = (d.microseconds + 999) / 1000 := by
  change (1000 * d.microseconds + 999999) / 1000000 = _
  omega

theorem pollMilliseconds_eq (d : Duration) :
    d.pollMilliseconds = min d.cut.wholeMilliseconds maxPollMilliseconds := by
  rw [pollMilliseconds, wholeMilliseconds_cut]

/-- The cut makes a difference of a millisecond, and only to durations that overhang. -/
theorem wholeMilliseconds_eq_cut (d : Duration) :
    d.wholeMilliseconds = if d.Overhangs then d.cut.wholeMilliseconds + 1
      else d.cut.wholeMilliseconds := by
  rw [wholeMilliseconds_cut, wholeMilliseconds, microseconds]
  split <;> rename_i h <;> rw [Overhangs] at h <;> omega

/-- Of a duration that overhangs the cut leaves the whole milliseconds. -/
theorem wholeMilliseconds_cut_of_overhangs {d : Duration} (h : d.Overhangs) :
    d.cut.wholeMilliseconds = d.milliseconds := by
  rw [Overhangs] at h
  rw [wholeMilliseconds_cut, microseconds, milliseconds]
  omega

/-! ## The main result -/

/-- **The rounding of timeouts.** The timeout handed to the system is the least number of
milliseconds that is not shorter, or the largest one that the system takes, if and only if the
duration does not overhang or the system could not take it anyway. Otherwise it is a millisecond
less. It is zero for all durations below a microsecond, and a longer duration never gets a smaller
timeout. -/
theorem pollMilliseconds_exact_iff (d : Duration) :
    IsLeast {n | d.nanoseconds ≤ (ofMilliseconds n).nanoseconds} d.wholeMilliseconds ∧
    (d.pollMilliseconds = min d.wholeMilliseconds maxPollMilliseconds ↔
      ¬ d.Overhangs ∨ maxPollMilliseconds ≤ d.milliseconds) ∧
    (d.Overhangs → d.milliseconds < maxPollMilliseconds →
      d.pollMilliseconds + 1 = d.wholeMilliseconds) ∧
    (d.pollMilliseconds = 0 ↔ d.nanoseconds < 1000) ∧
    ∀ d' : Duration, d.nanoseconds ≤ d'.nanoseconds →
      d.pollMilliseconds ≤ d'.pollMilliseconds := by
  have hwhole := d.wholeMilliseconds_eq_cut
  refine ⟨d.isLeast_wholeMilliseconds, ?_, fun h hlt ↦ ?_, ?_, fun d' h ↦ ?_⟩
  · rw [pollMilliseconds_eq, hwhole]
    by_cases h : d.Overhangs
    · rw [if_pos h, wholeMilliseconds_cut_of_overhangs h]
      simp only [h, not_true_eq_false, false_or]
      omega
    · simp only [h, if_false, not_false_eq_true, true_or]
  · rw [pollMilliseconds_eq, hwhole, if_pos h, wholeMilliseconds_cut_of_overhangs h,
      Nat.min_eq_left (Nat.le_of_lt hlt)]
  · rw [pollMilliseconds, microseconds, maxPollMilliseconds]
    omega
  · rw [pollMilliseconds_eq, pollMilliseconds_eq]
    have hle := wholeMilliseconds_mono (cut_mono h)
    omega

example : (ofMicroseconds 1).pollMilliseconds = 1 := by decide

/-- A timeout of one nanosecond is longer than zero, so it should be rounded up to a millisecond.
It is no wait at all. -/
theorem pollMilliseconds_oneNanosecond :
    (⟨1⟩ : Duration) ≠ zero ∧
    IsLeast {n | (⟨1⟩ : Duration).nanoseconds ≤ (ofMilliseconds n).nanoseconds} 1 ∧
    min 1 maxPollMilliseconds = 1 ∧ (⟨1⟩ : Duration).pollMilliseconds = 0 :=
  ⟨by decide, isLeast_wholeMilliseconds ⟨1⟩, rfl, rfl⟩

end StreamRtp.Duration
