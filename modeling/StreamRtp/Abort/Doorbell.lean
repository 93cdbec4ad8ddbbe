import StreamRtp.Io.Error

/-!
# The doorbell

A connected pair of streams that carries single bytes without meaning: a byte that waits at the read
end makes it readable, and that is all anybody looks at. Neither end ever blocks.

## Mishaps

What the system answers to a call on a pair is an argument. It does what it is asked, or it has an
error to report. How many bytes a pair holds is up to the system, too: a full pair is one that
answers a write with the error of a call that would block.

An operation that makes several calls takes their answers as a list, in the order of the calls. Once
the list is used up, every call goes well, so that the empty list is a system without failures.
-/

namespace StreamRtp

/-- The errors that the system has for the calls of an operation, and `none` for a call that goes
well. -/
abbrev Mishaps := List (Option IoError)

namespace Mishaps

/-- The error of the next call. -/
def first (mishaps : Mishaps) : Option IoError := mishaps.head?.join

/-- What the system answers after the next call. -/
def rest (mishaps : Mishaps) : Mishaps := mishaps.tail

@[simp] theorem first_nil : first [] = none := rfl

@[simp] theorem rest_nil : rest [] = [] := rfl

/-- A mishap uses the list up. -/
theorem length_rest_lt {mishaps : Mishaps} {e : IoError} (h : mishaps.first = some e) :
    mishaps.rest.length < mishaps.length := by
  cases mishaps with
  | nil => cases h
  | cons mishap mishaps => exact Nat.lt_succ_self _

theorem length_rest_le (mishaps : Mishaps) : mishaps.rest.length ≤ mishaps.length := by
  rw [rest, List.length_tail]
  exact Nat.sub_le ..

end Mishaps

/-- A pair of connected streams, as the number of bytes between its ends. -/
structure Doorbell where
  /-- The bytes that were written and not read. -/
  buffered : Nat
  deriving DecidableEq, Repr

namespace Doorbell

/-- A new pair. -/
def fresh : Doorbell := ⟨0⟩

/-- Write a byte. It says whether the byte was written, which it is not if the pair is full. -/
def ring (d : Doorbell) (mishap : Option IoError := none) : Except IoError Bool × Doorbell :=
  match mishap with
  | none => (.ok true, ⟨d.buffered + 1⟩)
  | some e => (if e.kind = .wouldBlock then .ok false else .error e, d)

/-- Whether a byte waits at the read end. -/
def isReadable (d : Doorbell) : Bool := 0 < d.buffered

/-- Ask whether a byte waits at the read end. An interrupted question counts as answered with no. -/
def look (d : Doorbell) (mishap : Option IoError := none) : Except IoError Bool :=
  match mishap with
  | none => .ok d.isReadable
  | some e => if e.kind = .interrupted then .ok false else .error e

/-- Read at most one byte. -/
def answer (d : Doorbell) (mishap : Option IoError := none) : Except IoError Unit × Doorbell :=
  match mishap with
  | none => (.ok (), ⟨d.buffered - 1⟩)
  | some e => (if e.isTransient then .ok () else .error e, d)

@[simp] theorem look_none (d : Doorbell) : d.look = .ok d.isReadable := rfl

/-- A byte that was seen is read, or the system had an error for the read. -/
theorem answer_decreases {d : Doorbell} (h : d.isReadable = true) (mishaps : Mishaps) :
    mishaps.rest.length + (d.answer mishaps.first).2.buffered < mishaps.length + d.buffered := by
  rw [isReadable, decide_eq_true_eq] at h
  have hrest := mishaps.length_rest_le
  cases hfirst : mishaps.first with
  | none =>
    dsimp only [answer]
    omega
  | some e =>
    have hlt := Mishaps.length_rest_lt hfirst
    dsimp only [answer]
    omega

theorem isReadable_of_look {d : Doorbell} {mishap : Option IoError}
    (h : d.look mishap = .ok true) : d.isReadable = true := by
  cases mishap with
  | none => exact Except.ok.inj h
  | some e =>
    rw [look] at h
    split at h <;> cases h

/-- Read a byte as long as one waits. The number of reads is returned, unless a call fails. -/
def drain (d : Doorbell) (mishaps : Mishaps := []) : Except IoError Nat × Doorbell :=
  match _hlook : d.look mishaps.first with
  | .error e => (.error e, d)
  | .ok false => (.ok 0, d)
  | .ok true =>
    let read := d.answer mishaps.rest.first
    match read.1 with
    | .error e => (.error e, read.2)
    | .ok () =>
      let emptied := read.2.drain mishaps.rest.rest
      (emptied.1.map (· + 1), emptied.2)
termination_by mishaps.length + d.buffered
decreasing_by
  have hanswer := answer_decreases (isReadable_of_look ‹_›) mishaps.rest
  have hrest := mishaps.length_rest_le
  omega

section Drain

variable {d d' : Doorbell} {mishaps : Mishaps} {e : IoError}

theorem drain_of_blind (hlook : d.look mishaps.first = .error e) :
    d.drain mishaps = (.error e, d) := by
  rw [drain]
  split <;> simp_all

theorem drain_of_silent (hlook : d.look mishaps.first = .ok false) :
    d.drain mishaps = (.ok 0, d) := by
  rw [drain]
  split <;> simp_all

theorem drain_of_stuck (hlook : d.look mishaps.first = .ok true)
    (hread : d.answer mishaps.rest.first = (.error e, d')) : d.drain mishaps = (.error e, d') := by
  rw [drain]
  split <;> simp_all

theorem drain_of_read (hlook : d.look mishaps.first = .ok true)
    (hread : d.answer mishaps.rest.first = (.ok (), d')) :
    d.drain mishaps
      = ((d'.drain mishaps.rest.rest).1.map (· + 1), (d'.drain mishaps.rest.rest).2) := by
  rw [drain]
  split <;> simp_all

end Drain

end Doorbell

end StreamRtp
