import StreamRtp.Registry.Sound

/-!
# Keyed registry

A registry holds entries under distinct keys, finds an entry through a table of buckets, and keeps
the order in which the entries were added. It is an arena together with the proof that the arena is
sound, so no operation has to be told that the links it follows lead somewhere. The cursor belongs
to the order; its operations are in `StreamRtp.Registry.Cursor`.

## View

`toList` is the content: the entries in the order they were added. Keys occur once in it, and
everything but the order is found through it.
-/

namespace StreamRtp

/-- Entries under distinct keys, found by bucket and kept in the order they were added. -/
structure Registry (κ ν : Type) (table : BucketTable κ) where
  arena : Arena κ ν
  sound : arena.Sound table

namespace Registry

variable {κ ν : Type} {table : BucketTable κ}

/-- The registry without entries. -/
def empty : Registry κ ν table := ⟨.empty table.size, Arena.sound_empty⟩

/-- The entry in a slot. -/
def entryAt? (r : Registry κ ν table) (slot : Nat) : Option (κ × ν) :=
  (r.arena.slot? slot).map fun s ↦ (s.key, s.value)

/-- The entries in the order they were added. -/
def toList (r : Registry κ ν table) : List (κ × ν) := r.arena.order.filterMap r.entryAt?

/-- The keys in the order they were added. -/
def keys (r : Registry κ ν table) : List κ := r.toList.map (·.1)

/-- The number of entries. -/
def size (r : Registry κ ν table) : Nat := r.arena.size

/-- Whether there is no entry. -/
def isEmpty (r : Registry κ ν table) : Bool := r.size = 0

/-! ## Lookup -/

section Lookup

variable [DecidableEq κ]

/-- The slot of a key. It fails for a key without a bucket. -/
def find (r : Registry κ ν table) (k : κ) : Except RegistryError (Option Nat) :=
  (table.bucket k).map fun bucket ↦ r.arena.findIn bucket k

/-- The slot of a key, if it has one. -/
def slot? (r : Registry κ ν table) (k : κ) : Option Nat :=
  match r.find k with
  | .ok slot => slot
  | .error _ => none

/-- Whether a key has an entry. -/
def contains (r : Registry κ ν table) (k : κ) : Bool := (r.slot? k).isSome

/-- The value of a key. -/
def get? (r : Registry κ ν table) (k : κ) : Option ν :=
  ((r.slot? k).bind r.entryAt?).map (·.2)

end Lookup

/-! ## Change -/

/-- Replace the value in a slot. -/
def modifySlot (r : Registry κ ν table) (slot : Option Nat) (f : ν → ν) : Registry κ ν table :=
  ⟨r.arena.modifyValue slot f, r.sound.modifyValue slot f⟩

/-- Give up a slot, whose content is known. A cursor that points at it moves on to the element that
follows. -/
def release (r : Registry κ ν table) {slot : Nat} {s : Slot κ ν}
    (hs : r.arena.slot? slot = some s) : Registry κ ν table :=
  ⟨r.arena.release slot s, r.sound.release hs⟩

/-- Take the entry out of a slot. -/
def unlink (r : Registry κ ν table) (slot : Nat) : Option ((κ × ν) × Registry κ ν table) :=
  match hs : r.arena.slot? slot with
  | none => none
  | some s => some ((s.key, s.value), r.release hs)

/-- Remove every entry. -/
def clear (_ : Registry κ ν table) : Registry κ ν table := empty

section Keyed

variable [DecidableEq κ]

/-- Change the value of a key, if it has one. -/
def modify (r : Registry κ ν table) (k : κ) (f : ν → ν) : Registry κ ν table :=
  r.modifySlot (r.slot? k) f

/-- Add an entry at the end of the order. -/
def add (r : Registry κ ν table) (k : κ) (v : ν) : Except RegistryError (Registry κ ν table) :=
  match hb : table.bucket k with
  | .error e => .error e
  | .ok bucket =>
    if hk : (r.arena.findIn bucket k).isSome then .error .duplicateKey
    else .ok ⟨r.arena.add bucket k v, r.sound.add hb hk⟩

/-- Remove the entry of a key and return its value. -/
def remove (r : Registry κ ν table) (k : κ) : Except RegistryError (ν × Registry κ ν table) := do
  match ← r.find k with
  | none => throw .keyNotFound
  | some slot =>
    match r.unlink slot with
    | none => throw .keyNotFound
    | some (e, r) => return (e.2, r)

end Keyed

end Registry

end StreamRtp
