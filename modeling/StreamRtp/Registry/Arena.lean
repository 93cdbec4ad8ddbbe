import StreamRtp.Error
import StreamRtp.Registry.Links

/-!
# The arena of a registry

The entries of a registry live in numbered slots. Each slot is linked into two chains by the numbers
of its neighbours: the chain of its bucket, through which it is looked up, and the order in which
the entries were added. A slot that is given up goes to a free list and is used again before a new
one is made. The cursor is the number of a slot.

This module has the steps as they are carried out, on slots and links. Which arenas are sound, and
that the steps keep them so, is in `StreamRtp.Registry.Sound`; a registry is a sound arena.

## Links

Adding and removing change links by four setters. Each of them is given the slot that holds the link
to be changed; if there is none, the link is the one by which the chain begins or ends.
-/

namespace StreamRtp

/-- Where keys are looked up: the number of buckets and the bucket of each key. A key whose bucket
lies outside the table cannot be entered. -/
structure BucketTable (κ : Type) where
  /-- The number of buckets. -/
  size : Nat
  /-- The bucket of a key. -/
  index : κ → Nat

namespace BucketTable

/-- Numbers spread over the buckets by remainder. -/
def modulo (size : Nat) : BucketTable UInt64 := ⟨size, fun k ↦ k.toNat % size⟩

/-- Each number in the bucket of its own index, as far as there are buckets. -/
def direct (size : Nat) : BucketTable UInt64 := ⟨size, fun k ↦ k.toNat⟩

variable {κ : Type}

/-- The bucket of a key, if the table has it. -/
def bucket (table : BucketTable κ) (k : κ) : Except RegistryError Nat :=
  if table.index k < table.size then .ok (table.index k)
  else .error (.invalidBucketIndex (table.index k) table.size)

theorem bucket_eq_ok_iff {table : BucketTable κ} {k : κ} {b : Nat} :
    table.bucket k = .ok b ↔ table.index k = b ∧ b < table.size := by
  rw [bucket]
  split
  · rename_i h
    exact ⟨fun heq ↦ by cases heq; exact ⟨rfl, h⟩, fun heq ↦ by rw [heq.1]⟩
  · rename_i h
    exact iff_of_false nofun fun heq ↦ h (heq.1 ▸ heq.2)

end BucketTable

/-- An entry with its links. -/
structure Slot (κ ν : Type) where
  key : κ
  value : ν
  bucket : Nat
  bucketPrev : Option Nat
  bucketNext : Option Nat
  orderPrev : Option Nat
  orderNext : Option Nat

/-- Slots linked into the chains of buckets and into one order. -/
structure Arena (κ ν : Type) where
  slots : Array (Option (Slot κ ν))
  /-- The vacant slots, the one given up last first. -/
  free : List Nat
  /-- For each bucket the first slot of its chain. -/
  buckets : Array (Option Nat)
  /-- The first slot of the order. -/
  first : Option Nat
  /-- The last slot of the order. -/
  last : Option Nat
  cursor : Option Nat
  /-- The number of occupied slots. -/
  size : Nat

namespace Arena

variable {κ ν : Type}

/-- An arena without entries. -/
def empty (buckets : Nat) : Arena κ ν :=
  ⟨#[], [], Array.replicate buckets none, none, none, none, 0⟩

/-! ## Slots and links -/

/-- The content of a slot, if it is occupied. -/
def slot? (a : Arena κ ν) (i : Nat) : Option (Slot κ ν) := a.slots[i]?.join

/-- The first slot of the chain of a bucket. -/
def head? (a : Arena κ ν) (bucket : Nat) : Option Nat := a.buckets[bucket]?.join

def bucketNext (a : Arena κ ν) (i : Nat) : Option Nat := (a.slot? i).bind (·.bucketNext)

def bucketPrev (a : Arena κ ν) (i : Nat) : Option Nat := (a.slot? i).bind (·.bucketPrev)

def orderNext (a : Arena κ ν) (i : Nat) : Option Nat := (a.slot? i).bind (·.orderNext)

def orderPrev (a : Arena κ ν) (i : Nat) : Option Nat := (a.slot? i).bind (·.orderPrev)

/-- Change the content of a slot, if there is one and it is occupied. -/
def modifySlot (a : Arena κ ν) (i : Option Nat) (f : Slot κ ν → Slot κ ν) : Arena κ ν :=
  match i with
  | some i => { a with slots := a.slots.modify i (Option.map f) }
  | none => a

/-- Set the link to the rest of a bucket's chain after a slot, or to the whole chain. -/
def setBucketNext (a : Arena κ ν) (bucket : Nat) (prev target : Option Nat) : Arena κ ν :=
  match prev with
  | some _ => a.modifySlot prev fun s ↦ { s with bucketNext := target }
  | none => { a with buckets := a.buckets.setIfInBounds bucket target }

/-- Set the link of a slot to the one before it in its bucket. -/
def setBucketPrev (a : Arena κ ν) (next target : Option Nat) : Arena κ ν :=
  a.modifySlot next fun s ↦ { s with bucketPrev := target }

/-- Set the link to the rest of the order after a slot, or to the whole order. -/
def setOrderNext (a : Arena κ ν) (prev target : Option Nat) : Arena κ ν :=
  match prev with
  | some _ => a.modifySlot prev fun s ↦ { s with orderNext := target }
  | none => { a with first := target }

/-- Set the link to the part of the order before a slot, or to the end of the order. -/
def setOrderPrev (a : Arena κ ν) (next target : Option Nat) : Arena κ ν :=
  match next with
  | some _ => a.modifySlot next fun s ↦ { s with orderPrev := target }
  | none => { a with last := target }

/-! ## Steps -/

/-- The slot of a key in a bucket. -/
def findIn [DecidableEq κ] (a : Arena κ ν) (bucket : Nat) (k : κ) : Option Nat :=
  (walk a.bucketNext a.slots.size (a.head? bucket)).find? fun i ↦ (a.slot? i).any (·.key = k)

/-- The occupied slots in the order their entries were added. -/
def order (a : Arena κ ν) : List Nat := walk a.orderNext a.size a.first

/-- The slot that is taken next: a used one if there is any. -/
def vacant (a : Arena κ ν) : Nat := a.free.headD a.slots.size

/-- Put content into the vacant slot that is taken next. -/
def allocate (a : Arena κ ν) (s : Slot κ ν) : Arena κ ν :=
  match a.free with
  | i :: free => { a with slots := a.slots.setIfInBounds i (some s), free }
  | [] => { a with slots := a.slots.push (some s) }

/-- Add an entry in front of its bucket's chain and at the end of the order. -/
def add (a : Arena κ ν) (bucket : Nat) (k : κ) (v : ν) : Arena κ ν :=
  let i := a.vacant
  let head := a.head? bucket
  let last := a.last
  let a := a.allocate ⟨k, v, bucket, none, head, last, none⟩
  let a := a.setBucketPrev head (some i)
  let a := a.setBucketNext bucket none (some i)
  let a := a.setOrderNext last (some i)
  let a := a.setOrderPrev none (some i)
  { a with size := a.size + 1 }

/-- Join the neighbours of a slot with the given content and give the slot up. A cursor that points
at it moves on to the slot that follows. -/
def release (a : Arena κ ν) (i : Nat) (s : Slot κ ν) : Arena κ ν :=
  let a := { a with slots := a.slots.setIfInBounds i none }
  let a := a.setBucketNext s.bucket s.bucketPrev s.bucketNext
  let a := a.setBucketPrev s.bucketNext s.bucketPrev
  let a := a.setOrderNext s.orderPrev s.orderNext
  let a := a.setOrderPrev s.orderNext s.orderPrev
  { a with
    cursor := if a.cursor = some i then s.orderNext else a.cursor
    free := i :: a.free
    size := a.size - 1 }

/-- Replace the value in a slot. -/
def modifyValue (a : Arena κ ν) (i : Option Nat) (f : ν → ν) : Arena κ ν :=
  a.modifySlot i fun s ↦ { s with value := f s.value }

/-! ## What the steps do to slots -/

section Setters

variable (a : Arena κ ν) (bucket c i : Nat) (j target : Option Nat)

theorem slot?_modifySlot (f : Slot κ ν → Slot κ ν) :
    (a.modifySlot j f).slot? i = (a.slot? i).map fun s ↦ if j = some i then f s else s := by
  cases j with
  | none => simp [modifySlot]
  | some j =>
    rw [modifySlot, slot?, slot?, Array.getElem?_modify]
    by_cases hij : j = i
    · subst hij
      rw [if_pos rfl]
      simp only [↓reduceIte]
      cases a.slots[j]? with
      | none => rfl
      | some s => cases s <;> rfl
    · simp [hij]

@[simp] theorem slot?_setBucketNext : (a.setBucketNext bucket j target).slot? i =
    (a.slot? i).map fun s ↦ if j = some i then { s with bucketNext := target } else s := by
  cases j with
  | none => simp [setBucketNext, slot?]
  | some j => rw [setBucketNext, slot?_modifySlot]

@[simp] theorem slot?_setBucketPrev : (a.setBucketPrev j target).slot? i =
    (a.slot? i).map fun s ↦ if j = some i then { s with bucketPrev := target } else s := by
  rw [setBucketPrev, slot?_modifySlot]

@[simp] theorem slot?_setOrderNext : (a.setOrderNext j target).slot? i =
    (a.slot? i).map fun s ↦ if j = some i then { s with orderNext := target } else s := by
  cases j with
  | none => simp [setOrderNext, slot?]
  | some j => rw [setOrderNext, slot?_modifySlot]

@[simp] theorem slot?_setOrderPrev : (a.setOrderPrev j target).slot? i =
    (a.slot? i).map fun s ↦ if j = some i then { s with orderPrev := target } else s := by
  cases j with
  | none => simp [setOrderPrev, slot?]
  | some j => rw [setOrderPrev, slot?_modifySlot]

/-- A change of one slot leaves all the rest alone. -/
@[simp] theorem modifySlot_frame (f : Slot κ ν → Slot κ ν) :
    (a.modifySlot j f).slots.size = a.slots.size ∧ (a.modifySlot j f).free = a.free ∧
      (a.modifySlot j f).buckets = a.buckets ∧ (a.modifySlot j f).first = a.first ∧
      (a.modifySlot j f).last = a.last ∧ (a.modifySlot j f).cursor = a.cursor ∧
      (a.modifySlot j f).size = a.size := by
  cases j <;> simp [modifySlot]

@[simp] theorem setBucketPrev_frame :
    (a.setBucketPrev j target).slots.size = a.slots.size ∧
      (a.setBucketPrev j target).free = a.free ∧ (a.setBucketPrev j target).buckets = a.buckets ∧
      (a.setBucketPrev j target).first = a.first ∧ (a.setBucketPrev j target).last = a.last ∧
      (a.setBucketPrev j target).cursor = a.cursor ∧ (a.setBucketPrev j target).size = a.size :=
  a.modifySlot_frame j _

@[simp] theorem setBucketNext_frame :
    (a.setBucketNext bucket j target).slots.size = a.slots.size ∧
      (a.setBucketNext bucket j target).free = a.free ∧
      (a.setBucketNext bucket j target).buckets =
        (if j = none then a.buckets.setIfInBounds bucket target else a.buckets) ∧
      (a.setBucketNext bucket j target).first = a.first ∧
      (a.setBucketNext bucket j target).last = a.last ∧
      (a.setBucketNext bucket j target).cursor = a.cursor ∧
      (a.setBucketNext bucket j target).size = a.size := by
  cases j <;> simp [setBucketNext]

@[simp] theorem setOrderNext_frame :
    (a.setOrderNext j target).slots.size = a.slots.size ∧
      (a.setOrderNext j target).free = a.free ∧ (a.setOrderNext j target).buckets = a.buckets ∧
      (a.setOrderNext j target).first = (if j = none then target else a.first) ∧
      (a.setOrderNext j target).last = a.last ∧ (a.setOrderNext j target).cursor = a.cursor ∧
      (a.setOrderNext j target).size = a.size := by
  cases j <;> simp [setOrderNext]

@[simp] theorem setOrderPrev_frame :
    (a.setOrderPrev j target).slots.size = a.slots.size ∧
      (a.setOrderPrev j target).free = a.free ∧ (a.setOrderPrev j target).buckets = a.buckets ∧
      (a.setOrderPrev j target).first = a.first ∧
      (a.setOrderPrev j target).last = (if j = none then target else a.last) ∧
      (a.setOrderPrev j target).cursor = a.cursor ∧ (a.setOrderPrev j target).size = a.size := by
  cases j <;> simp [setOrderPrev]

end Setters

section Steps

variable (a : Arena κ ν) (bucket c i j : Nat) (k : κ) (v : ν) (s : Slot κ ν)

theorem slot?_of_size_le (h : a.slots.size ≤ i) : a.slot? i = none := by
  rw [slot?, Array.getElem?_eq_none h]
  rfl

/-- Taking a vacant slot fills it and leaves the other ones alone. -/
theorem slot?_allocate (hfree : ∀ i ∈ a.free, i < a.slots.size) :
    (a.allocate s).slot? j = if j = a.vacant then some s else a.slot? j := by
  rw [allocate, vacant]
  cases h : a.free with
  | nil =>
    rw [List.headD_nil, slot?, slot?, Array.getElem?_push]
    split <;> rfl
  | cons i free =>
    have hi : i < a.slots.size := hfree i (h ▸ List.mem_cons_self)
    rw [List.headD_cons, slot?, slot?, Array.getElem?_setIfInBounds, if_pos hi]
    by_cases hij : i = j
    · rw [if_pos hij, if_pos hij.symm]
      rfl
    · rw [if_neg hij, if_neg (Ne.symm hij)]

/-- Adding fills a slot and changes one link of each of the two slots next to it. -/
theorem slot?_add (hfree : ∀ i ∈ a.free, i < a.slots.size) (hhead : a.head? bucket ≠ some a.vacant)
    (hlast : a.last ≠ some a.vacant) : (a.add bucket k v).slot? j =
      if j = a.vacant then some ⟨k, v, bucket, none, a.head? bucket, a.last, none⟩
      else (a.slot? j).map fun s ↦ { s with
        bucketPrev := if a.head? bucket = some j then some a.vacant else s.bucketPrev
        orderNext := if a.last = some j then some a.vacant else s.orderNext } := by
  have hadd : (a.add bucket k v).slot? j = (((((a.allocate _).setBucketPrev (a.head? bucket)
      (some a.vacant)).setBucketNext bucket none (some a.vacant)).setOrderNext a.last
        (some a.vacant)).setOrderPrev none (some a.vacant)).slot? j := rfl
  rw [hadd, slot?_setOrderPrev, slot?_setOrderNext, slot?_setBucketNext, slot?_setBucketPrev,
    slot?_allocate a j _ hfree]
  by_cases hj : j = a.vacant
  · subst hj
    rw [if_pos rfl, if_pos rfl]
    simp [hhead, hlast]
  · rw [if_neg hj, if_neg hj]
    cases a.slot? j with
    | none => rfl
    | some s => by_cases hh : a.head? bucket = some j <;> by_cases hl : a.last = some j <;>
        simp [hh, hl]

theorem allocate_frame : (a.allocate s).free = a.free.tail ∧
    (a.allocate s).buckets = a.buckets ∧ (a.allocate s).first = a.first ∧
    (a.allocate s).last = a.last ∧ (a.allocate s).cursor = a.cursor ∧
    (a.allocate s).size = a.size := by
  rw [allocate]
  cases a.free <;> simp

theorem slots_size_allocate : (a.allocate s).slots.size =
    if a.free = [] then a.slots.size + 1 else a.slots.size := by
  rw [allocate]
  cases a.free <;> simp

/-- What adding makes of everything but the slots. -/
theorem add_frame :
    (a.add bucket k v).slots.size = (if a.free = [] then a.slots.size + 1 else a.slots.size) ∧
      (a.add bucket k v).free = a.free.tail ∧
      (a.add bucket k v).buckets = a.buckets.setIfInBounds bucket (some a.vacant) ∧
      (a.add bucket k v).first = (if a.last = none then some a.vacant else a.first) ∧
      (a.add bucket k v).last = some a.vacant ∧ (a.add bucket k v).cursor = a.cursor ∧
      (a.add bucket k v).size = a.size + 1 := by
  simp [add, allocate_frame, slots_size_allocate]

/-- Giving a slot up empties it and changes the links of its neighbours. -/
theorem slot?_release (hi : a.slot? i ≠ none) : (a.release i s).slot? j =
    if j = i then none
    else (a.slot? j).map fun t ↦ { t with
      bucketNext := if s.bucketPrev = some j then s.bucketNext else t.bucketNext
      bucketPrev := if s.bucketNext = some j then s.bucketPrev else t.bucketPrev
      orderNext := if s.orderPrev = some j then s.orderNext else t.orderNext
      orderPrev := if s.orderNext = some j then s.orderPrev else t.orderPrev } := by
  have hrelease : (a.release i s).slot? j =
      ((((({ a with slots := a.slots.setIfInBounds i none } : Arena κ ν).setBucketNext s.bucket
        s.bucketPrev s.bucketNext).setBucketPrev s.bucketNext s.bucketPrev).setOrderNext s.orderPrev
          s.orderNext).setOrderPrev s.orderNext s.orderPrev).slot? j := rfl
  have hsize : i < a.slots.size :=
    Nat.lt_of_not_le fun hle ↦ hi (slot?_of_size_le a i hle)
  have hempty : ({ a with slots := a.slots.setIfInBounds i none } : Arena κ ν).slot? j =
      if j = i then none else a.slot? j := by
    rw [slot?, slot?, Array.getElem?_setIfInBounds, if_pos hsize]
    by_cases hij : i = j
    · rw [if_pos hij, if_pos hij.symm]
      rfl
    · rw [if_neg hij, if_neg (Ne.symm hij)]
  rw [hrelease, slot?_setOrderPrev, slot?_setOrderNext, slot?_setBucketPrev, slot?_setBucketNext,
    hempty]
  by_cases hj : j = i
  · rw [if_pos hj, if_pos hj]
    rfl
  · rw [if_neg hj, if_neg hj]
    cases a.slot? j with
    | none => rfl
    | some t =>
      simp only [Option.map_some, Option.some.injEq]
      split <;> split <;> split <;> split <;> rfl

/-- What giving a slot up makes of everything but the slots. -/
theorem release_frame :
    (a.release i s).slots.size = a.slots.size ∧ (a.release i s).free = i :: a.free ∧
      (a.release i s).buckets = (if s.bucketPrev = none then
        a.buckets.setIfInBounds s.bucket s.bucketNext else a.buckets) ∧
      (a.release i s).first = (if s.orderPrev = none then s.orderNext else a.first) ∧
      (a.release i s).last = (if s.orderNext = none then s.orderPrev else a.last) ∧
      (a.release i s).cursor = (if a.cursor = some i then s.orderNext else a.cursor) ∧
      (a.release i s).size = a.size - 1 := by
  simp [release]

theorem modifyValue_frame (j : Option Nat) (f : ν → ν) :
    (a.modifyValue j f).slots.size = a.slots.size ∧ (a.modifyValue j f).free = a.free ∧
      (a.modifyValue j f).buckets = a.buckets ∧ (a.modifyValue j f).first = a.first ∧
      (a.modifyValue j f).last = a.last ∧ (a.modifyValue j f).cursor = a.cursor ∧
      (a.modifyValue j f).size = a.size :=
  a.modifySlot_frame j _

theorem slot?_modifyValue (j : Option Nat) (f : ν → ν) : (a.modifyValue j f).slot? i =
    (a.slot? i).map fun s ↦ if j = some i then { s with value := f s.value } else s := by
  rw [modifyValue, slot?_modifySlot]

theorem links_modifyValue (j : Option Nat) (f : ν → ν) :
    (a.modifyValue j f).orderNext i = a.orderNext i ∧
      (a.modifyValue j f).orderPrev i = a.orderPrev i ∧
      (a.modifyValue j f).bucketNext i = a.bucketNext i ∧
      (a.modifyValue j f).bucketPrev i = a.bucketPrev i := by
  rw [orderNext, orderPrev, bucketNext, bucketPrev, slot?_modifyValue]
  simp only [orderNext, orderPrev, bucketNext, bucketPrev]
  cases a.slot? i with
  | none => exact ⟨rfl, rfl, rfl, rfl⟩
  | some s =>
    simp only [Option.map_some, Option.bind_some]
    split <;> exact ⟨rfl, rfl, rfl, rfl⟩

end Steps

end Arena

end StreamRtp
