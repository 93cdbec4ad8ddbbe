import StreamRtp.Frame.Phase

/-!
# Reassembly of frames

Reads of a stream end anywhere, also inside a length field. An assembler keeps what has arrived of
the frame in progress and hands out each payload when its last byte comes in. Its phase is sound, so
every call makes progress, and pushing a chunk ends.

## The judgement of a length

A complete length is compared with the limit that is in force at that moment. If it is too large,
the assembler keeps it and judges it again at the start of every later call, so a stream that
announced too much stays refused until the limit is raised. Once a length is accepted the frame is
completed whatever the limit becomes. A length of zero is never too large and completes an empty
frame at once.

## Calls

`feed` takes bytes until one frame completes or the bytes run out; `push` repeats it over a whole
chunk. A `push` of no bytes is nothing at all, while a `feed` of no bytes still judges a length that
was refused.
-/

namespace StreamRtp

/-- The reassembly state of one connection. -/
structure Assembler where
  /-- The frame in progress. -/
  phase : Phase
  /-- The largest payload length that is accepted. -/
  limit : Nat
  sound : phase.Sound
  deriving DecidableEq

/-- What became of a chunk: the completed frames in order, and the error that stopped it. -/
structure Intake where
  frames : List Bytes
  error : Option AssemblyError
  deriving DecidableEq, Repr

namespace Assembler

/-- An assembler at the start of a stream. -/
def ofLimit (limit : Nat) : Assembler := ⟨.start, limit, Phase.sound_start⟩

/-- Change the limit for lengths that have not been accepted yet. -/
def setLimit (a : Assembler) (limit : Nat) : Assembler := { a with limit }

/-- Whether no byte of an unfinished frame is held. -/
def isIdle (a : Assembler) : Bool := a.phase = .start

/-- Take bytes until one frame completes or the bytes run out. Bytes after a completed frame are
left for the next call. -/
def feed (a : Assembler) (bytes : Bytes) : Except AssemblyError Delivery × Assembler :=
  ((a.phase.feed a.limit bytes).1,
    ⟨(a.phase.feed a.limit bytes).2, a.limit, Phase.sound_feed a.limit bytes a.sound⟩)

/-- What is true of the delivery of a call. -/
theorem fits_feed {a : Assembler} {bytes : Bytes} {d : Delivery} (h : (a.feed bytes).1 = .ok d) :
    Phase.Fits bytes d := Phase.fits_feed a.sound h

/-- Feed a chunk until it is used up or refused, with the frames completed before it at hand,
newest first. -/
def pushOnto (done : List Bytes) (a : Assembler) (bytes : Bytes) : Intake × Assembler :=
  if hne : bytes = [] then (⟨done.reverse, none⟩, a)
  else
    match h : a.feed bytes with
    | (.error e, a') => (⟨done.reverse, some e⟩, a')
    | (.ok d, a') =>
      have : bytes.length - d.consumed < bytes.length :=
        Nat.sub_lt (List.length_pos_iff.2 hne) ((fits_feed (congrArg Prod.fst h)).pos hne)
      pushOnto (d.frame.toList ++ done) a' (bytes.drop d.consumed)
termination_by bytes.length

/-- Feed a whole chunk and collect every frame it completes. The frames completed before an error
are returned along with it; the rest of the chunk is lost. -/
def push (a : Assembler) (bytes : Bytes) : Intake × Assembler := a.pushOnto [] bytes

/-- Push the consecutive pieces of a stream one after the other, going on after errors. -/
def pushAll (a : Assembler) : List Bytes → List Intake × Assembler
  | [] => ([], a)
  | piece :: pieces =>
    let (intake, a) := a.push piece
    let (intakes, a) := a.pushAll pieces
    (intake :: intakes, a)

end Assembler

/-- Cut bytes into pieces whose sizes are taken from a list over and over again, the last piece
being what is left. A size of zero stands for an empty piece, and empty pieces are left out; with no
other sizes, all bytes are one piece. -/
def cutCyclically (sizes : List Nat) (bytes : Bytes) : List Bytes :=
  go (sizes.filter (0 < ·)) [] bytes
where
  /-- Cut with the sizes that are still to be used in the present round. -/
  go (sizes pending : List Nat) (bytes : Bytes) : List Bytes :=
    if h : bytes = [] then []
    else
      let size := max 1 ((pending.head?.or sizes.head?).getD bytes.length)
      let later := if pending.isEmpty then sizes.tail else pending.tail
      bytes.take size :: go sizes later (bytes.drop size)
  termination_by bytes.length
  decreasing_by
    have : 0 < bytes.length := List.length_pos_iff.2 h
    simp only [List.length_drop]
    omega

end StreamRtp
