import StreamRtp.Registry.Basic

/-!
# The cursor of a registry

A registry has one cursor. It points at an element of the order or is empty, and it is moved by the
operations of this module only, with one exception: removing the element it points at moves it to
the element that follows. That is what makes it possible to drop elements in the middle of a walk,
see `Registry.scan`.
-/

namespace StreamRtp

namespace Registry

variable {κ ν : Type} {table : BucketTable κ}

/-! ## Movement -/

/-- Point at the first element. -/
def first (r : Registry κ ν table) : Registry κ ν table :=
  ⟨{ r.arena with cursor := r.arena.first }, r.sound.withCursor r.sound.isSome_first⟩

/-- Point at the last element. -/
def last (r : Registry κ ν table) : Registry κ ν table :=
  ⟨{ r.arena with cursor := r.arena.last }, r.sound.withCursor r.sound.isSome_last⟩

/-- Move to the element that follows. After the last element the cursor is empty, and it stays
so. -/
def next (r : Registry κ ν table) : Registry κ ν table :=
  ⟨{ r.arena with cursor := r.arena.cursor.bind r.arena.orderNext },
    r.sound.withCursor r.sound.isSome_orderNext⟩

/-- Move to the element before. -/
def previous (r : Registry κ ν table) : Registry κ ν table :=
  ⟨{ r.arena with cursor := r.arena.cursor.bind r.arena.orderPrev },
    r.sound.withCursor r.sound.isSome_orderPrev⟩

/-- Point at no element. -/
def leave (r : Registry κ ν table) : Registry κ ν table :=
  ⟨{ r.arena with cursor := none }, r.sound.withCursor nofun⟩

/-- Point at the element of a key. If there is none, the cursor is empty afterwards. -/
def goTo [DecidableEq κ] (r : Registry κ ν table) (k : κ) :
    Except RegistryError Unit × Registry κ ν table :=
  match hb : table.bucket k with
  | .error e => (.error e, r.leave)
  | .ok bucket =>
    match hi : r.arena.findIn bucket k with
    | none => (.error .keyNotFound, r.leave)
    | some i =>
      (.ok (), ⟨{ r.arena with cursor := some i },
        r.sound.withCursor (hi ▸ r.sound.isSome_findIn hb)⟩)

/-! ## The current element -/

/-- The element under the cursor. -/
def current? (r : Registry κ ν table) : Option (κ × ν) := r.arena.cursor.bind r.entryAt?

/-- Change the value of the element under the cursor, if there is one. -/
def modifyCurrent (r : Registry κ ν table) (f : ν → ν) : Registry κ ν table :=
  r.modifySlot r.arena.cursor f

/-- Remove the element under the cursor and move on to the element that followed it. -/
def removeCurrent (r : Registry κ ν table) :
    Except RegistryError ((κ × ν) × Registry κ ν table) :=
  match r.arena.cursor.bind r.unlink with
  | some removed => .ok removed
  | none => .error .noCurrentElement

/-! ## Walks -/

section Scan

variable {ς : Type}

/-- Walk on from the element under the cursor for at most the given number of steps, see `scan`. -/
def scanFrom (visit : κ → ν → ς → Option ν × ς) :
    Nat → Registry κ ν table → ς → Registry κ ν table × ς
  | 0, r, s => (r, s)
  | steps + 1, r, s =>
    match r.current? with
    | none => (r, s)
    | some (k, v) =>
      match visit k v s with
      | (some v, s) => scanFrom visit steps (r.modifyCurrent fun _ ↦ v).next s
      | (none, s) =>
        match r.removeCurrent with
        | .ok (_, r) => scanFrom visit steps r s
        | .error _ => (r, s)

/-- Walk over all elements from the first to the last. The visitor sees each key and value once,
with what it has made of the elements before; it keeps the element with a new value or has it
removed. The number of elements bounds the walk, since every step leaves one of them behind. -/
def scan (visit : κ → ν → ς → Option ν × ς) (r : Registry κ ν table) (s : ς) :
    Registry κ ν table × ς :=
  scanFrom visit r.size r.first s

/-- The keys that a walk from the last element to the first meets. -/
def keysBackwards (r : Registry κ ν table) : List κ :=
  go r.size r.last
where
  /-- Walk back from the element under the cursor for at most the given number of steps. -/
  go : Nat → Registry κ ν table → List κ
    | 0, _ => []
    | steps + 1, r =>
      match r.current? with
      | none => []
      | some (k, _) => k :: go steps r.previous

end Scan

end Registry

end StreamRtp
