import StreamRtp.Proofs.Chunks

/-!
# Replaying the input of an assembler

In the course of its life an assembler is given bytes and new limits. A replay gives them to an
assembler again and collects the frames. Bytes that come one after the other count as one string, so
a replay depends only on the limits and on all the bytes between one limit and the next.
-/

namespace StreamRtp

/-- What an assembler is given. -/
inductive Feeding where
  | bytes (data : Bytes)
  | limit (size : Nat)
  deriving DecidableEq, Repr

/-- Put bytes together that come one after the other. -/
def Feeding.merge : List Feeding → List Feeding
  | [] => []
  | .bytes x :: feedings =>
    match merge feedings with
    | .bytes y :: rest => .bytes (x ++ y) :: rest
    | rest => .bytes x :: rest
  | .limit size :: feedings => .limit size :: merge feedings

namespace Assembler

variable {a : Assembler} {x y : Bytes} {e : AssemblyError}

/-- The frames that one feeding completes, and the assembler after it. -/
def take (a : Assembler) : Feeding → List Bytes × Assembler
  | .bytes data => ((a.push data).1.frames, (a.push data).2)
  | .limit size => ([], a.setLimit size)

/-- The frames that feedings complete, and the assembler after them. -/
def replay (a : Assembler) : List Feeding → List Bytes × Assembler
  | [] => ([], a)
  | feeding :: feedings =>
    ((a.take feeding).1 ++ ((a.take feeding).2.replay feedings).1,
      ((a.take feeding).2.replay feedings).2)

@[simp] theorem replay_nil (a : Assembler) : a.replay [] = ([], a) := rfl

theorem replay_cons (a : Assembler) (feeding : Feeding) (feedings : List Feeding) :
    a.replay (feeding :: feedings) = ((a.take feeding).1 ++ ((a.take feeding).2.replay feedings).1,
      ((a.take feeding).2.replay feedings).2) := rfl

theorem replay_append (a : Assembler) (first second : List Feeding) :
    a.replay (first ++ second) = ((a.replay first).1 ++ ((a.replay first).2.replay second).1,
      ((a.replay first).2.replay second).2) := by
  induction first generalizing a with
  | nil => rfl
  | cons feeding first ih => rw [List.cons_append, replay_cons, ih, replay_cons, List.append_assoc]

/-- An assembler that has refused a chunk takes nothing from a later one. -/
theorem push_of_refused (h : (a.push x).1.error = some e) (y : Bytes) :
    ((a.push x).2.push y).1.frames = [] ∧ ((a.push x).2.push y).2 = (a.push x).2 := by
  obtain ⟨field, -, -, hrefuses, hphase, hlimit⟩ := wire_push_of_error h
  by_cases hy : y = []
  · rw [hy, push_nil]
    exact ⟨rfl, rfl⟩
  · -- The length that was refused is still there, and so is the limit.
    have hfeed : (a.push x).2.feed y = (.error e, (a.push x).2) :=
      feed_eq_iff.2 ⟨by rw [hphase, hlimit, Phase.feed_of_refuses hrefuses], rfl⟩
    rw [push_of_error hy hfeed]
    exact ⟨rfl, rfl⟩

/-- Bytes in two parts complete the frames of all of them. -/
theorem take_append (a : Assembler) (x y : Bytes) : a.take (.bytes (x ++ y)) =
    ((a.take (.bytes x)).1 ++ ((a.take (.bytes x)).2.take (.bytes y)).1,
      ((a.take (.bytes x)).2.take (.bytes y)).2) := by
  simp only [take]
  rw [push_append]
  cases herror : (a.push x).1.error with
  | none => rfl
  | some e =>
    obtain ⟨hframes, hlast⟩ := push_of_refused herror y
    simp only [hframes, hlast, List.append_nil]

theorem replay_merge (a : Assembler) (feedings : List Feeding) :
    a.replay (Feeding.merge feedings) = a.replay feedings := by
  induction feedings generalizing a with
  | nil => rfl
  | cons feeding feedings ih =>
    cases feeding with
    | limit size => rw [Feeding.merge, replay_cons, ih, replay_cons]
    | bytes x =>
      rw [Feeding.merge, replay_cons, ← ih]
      -- Bytes are put together if what follows begins with bytes, too.
      split
      · rename_i y rest heq
        rw [replay_cons, take_append, heq, replay_cons]
        simp only [List.append_assoc]
      · rw [replay_cons]

end Assembler

end StreamRtp
