import Mathlib.Data.List.Induction
import Mathlib.Data.List.Nodup
import Mathlib.Order.Bounds.Basic
import StreamRtp.Proofs.RegistryContent
import StreamRtp.Registry.Request

/-!
# How many slots a registry needs

An entry that is removed leaves its slot on the free list, and a new slot is made only if that list
is empty. So a registry has as many slots as it has had entries at the same time, and no more. The
count starts again when the registry is cleared, since that drops the slots as well.

## The argument

Every slot is in the order or on the free list, once and not on both, so slots are counted by adding
the lengths. From this a request that makes a slot has found all of them occupied, and afterwards
there are as many slots as entries. A request that makes none leaves at least as many slots as
entries. Both cases are one equation about the larger of two numbers, `Thrifty`, and along a history
it yields the largest number of all.
-/

namespace StreamRtp

/-! ## Occupied slots and vacant ones -/

namespace Arena

variable {κ ν : Type} {table : BucketTable κ} {a : Arena κ ν} {order : List Nat}
  {chain : Nat → List Nat} {i : Nat}

theorem lt_size_of_isSome (h : (a.slot? i).isSome) : i < a.slots.size := by
  refine Nat.lt_of_not_le fun hle ↦ ?_
  rw [slot?_of_size_le a i hle] at h
  cases h

/-- The order and the free list together have every slot once. -/
theorem Represents.perm_range (h : Represents table a order chain) :
    (order ++ a.free).Perm (List.range a.slots.size) := by
  have hdisjoint : order.Disjoint a.free := by
    intro i hi hfree
    rw [h.mem_order, ((h.mem_free i).1 hfree).2] at hi
    cases hi
  have hnodup := h.order_linked.nodup.append h.free_nodup hdisjoint
  rw [List.perm_ext_iff_of_nodup hnodup List.nodup_range]
  intro i
  rw [List.mem_append, List.mem_range, h.mem_order, h.mem_free]
  constructor
  · rintro (hi | hi)
    · exact lt_size_of_isSome hi
    · exact hi.1
  · intro hi
    cases hs : a.slot? i with
    | none => exact .inr ⟨hi, rfl⟩
    | some s => exact .inl rfl

end Arena

namespace Registry

variable {κ ν : Type} {table : BucketTable κ} {r r' : Registry κ ν table} {e : κ × ν} {i : Nat}

/-- The number of slots, occupied or vacant. -/
def slotCount (r : Registry κ ν table) : Nat := r.arena.slots.size

theorem slotCount_eq (r : Registry κ ν table) : r.slotCount = r.size + r.arena.free.length := by
  obtain ⟨order, chain, h⟩ := r.sound
  have hlen := h.perm_range.length_eq
  rw [List.length_append, List.length_range] at hlen
  rw [slotCount, size, h.size_eq, hlen]

theorem size_le_slotCount (r : Registry κ ν table) : r.size ≤ r.slotCount := by
  rw [slotCount_eq]
  exact Nat.le_add_right _ _

/-! ## What a request makes of the slots -/

/-- From one registry to the other there are more slots only if there are more entries than there
were slots, and then as many as entries. -/
def Thrifty (r r' : Registry κ ν table) : Prop := r'.slotCount = max r.slotCount r'.size

theorem thrifty_of_eq (hslots : r'.slotCount = r.slotCount) : r.Thrifty r' := by
  rw [Thrifty, ← hslots, Nat.max_eq_left r'.size_le_slotCount]

theorem thrifty_modifySlot (r : Registry κ ν table) (c : Option Nat) (f : ν → ν) :
    r.Thrifty (r.modifySlot c f) := thrifty_of_eq (r.arena.modifyValue_frame c f).1

theorem thrifty_unlink (h : r.unlink i = some (e, r')) : r.Thrifty r' := by
  rw [unlink] at h
  split at h
  · cases h
  · cases h
    exact thrifty_of_eq (r.arena.release_frame i _).1

theorem thrifty_removeCurrent (h : r.removeCurrent = .ok (e, r')) : r.Thrifty r' := by
  rw [removeCurrent] at h
  split at h
  · rename_i removed hremoved
    cases h
    obtain ⟨i, -, hunlink⟩ := Option.bind_eq_some_iff.1 hremoved
    exact thrifty_unlink hunlink
  · cases h

section Keyed

variable [DecidableEq κ] {k : κ} {v : ν}

/-- A slot is made only if the free list is empty, which means that all of them are occupied. -/
theorem thrifty_add (h : r.add k v = .ok r') : r.Thrifty r' := by
  rw [add] at h
  split at h
  · cases h
  · split at h
    · cases h
    · cases h
      rename_i b hb hk
      obtain ⟨hslots, -, -, -, -, -, hsize⟩ := r.arena.add_frame b k v
      have hcount := r.slotCount_eq
      rw [Thrifty, slotCount, hslots, size, hsize]
      rw [slotCount, size] at hcount
      by_cases hfree : r.arena.free = []
      · rw [hfree, List.length_nil] at hcount
        rw [if_pos hfree, slotCount]
        omega
      · have hpos := List.length_pos_iff.2 hfree
        rw [if_neg hfree, slotCount]
        omega

theorem thrifty_remove (h : r.remove k = .ok (v, r')) : r.Thrifty r' := by
  rw [remove] at h
  cases hfind : r.find k with
  | error e =>
    rw [hfind] at h
    cases h
  | ok slot =>
    rw [hfind] at h
    cases slot with
    | none => cases h
    | some i =>
      cases hunlink : r.unlink i with
      | none =>
        simp only [bind, Except.bind, hunlink] at h
        cases h
      | some removed =>
        simp only [bind, Except.bind, hunlink] at h
        cases h
        exact thrifty_unlink hunlink

theorem thrifty_goTo (r : Registry κ ν table) (k : κ) : r.Thrifty (r.goTo k).2 := by
  rw [goTo]
  split
  · exact thrifty_of_eq rfl
  · split <;> exact thrifty_of_eq rfl

/-- All requests are thrifty, but for the one that drops the slots. -/
theorem thrifty_perform (r : Registry κ ν table) {q : RegistryRequest κ ν} (hq : q ≠ .clear) :
    r.Thrifty (r.perform q).2 := by
  cases q with
  | add k v =>
    rw [perform]
    cases hadd : r.add k v with
    | ok r' => exact thrifty_add hadd
    | error e => exact thrifty_of_eq rfl
  | remove k =>
    rw [perform]
    cases hremove : r.remove k with
    | ok removed => exact thrifty_remove hremove
    | error e => exact thrifty_of_eq rfl
  | removeCurrent =>
    rw [perform]
    cases hremove : r.removeCurrent with
    | ok removed => exact thrifty_removeCurrent hremove
    | error e => exact thrifty_of_eq rfl
  | goTo k => exact r.thrifty_goTo k
  | modify k f => exact r.thrifty_modifySlot _ f
  | modifyCurrent f => exact r.thrifty_modifySlot _ f
  | clear => exact absurd rfl hq
  | contains _ | get _ | first | last | next | previous | current | iterate | keys =>
    exact thrifty_of_eq rfl

/-! ## Histories -/

/-- The registry that requests leave. -/
def after (r : Registry κ ν table) (requests : List (RegistryRequest κ ν)) : Registry κ ν table :=
  requests.foldl (fun r q ↦ (r.perform q).2) r

@[simp] theorem after_nil (r : Registry κ ν table) : r.after [] = r := rfl

theorem after_concat (r : Registry κ ν table) (requests : List (RegistryRequest κ ν))
    (q : RegistryRequest κ ν) : r.after (requests ++ [q]) = ((r.after requests).perform q).2 := by
  rw [after, after, List.foldl_append]
  rfl

/-- The numbers of entries that there have been at some moment since the registry was cleared for
the last time. A moment is given by the requests up to then. -/
def sizesSinceClear (r : Registry κ ν table) (requests : List (RegistryRequest κ ν)) : Set Nat :=
  {n | ∃ past later, requests = past ++ later ∧ .clear ∉ later ∧ (r.after past).toList.length = n}

theorem sizesSinceClear_nil (r : Registry κ ν table) :
    r.sizesSinceClear [] = {r.toList.length} := by
  ext n
  constructor
  · rintro ⟨past, later, hsplit, -, rfl⟩
    obtain ⟨rfl, -⟩ := List.append_eq_nil_iff.1 hsplit.symm
    rfl
  · rintro rfl
    exact ⟨[], [], rfl, List.not_mem_nil, rfl⟩

/-- The moments after one more request are those before it, unless it clears, and a new one. -/
theorem mem_sizesSinceClear_concat {requests : List (RegistryRequest κ ν)}
    {q : RegistryRequest κ ν} {n : Nat} : n ∈ r.sizesSinceClear (requests ++ [q]) ↔
      (r.after (requests ++ [q])).toList.length = n ∨
        q ≠ .clear ∧ n ∈ r.sizesSinceClear requests := by
  constructor
  · rintro ⟨past, later, hsplit, hclear, rfl⟩
    cases later using List.reverseRecOn with
    | nil =>
      rw [List.append_nil] at hsplit
      exact .inl (hsplit ▸ rfl)
    | append_singleton later q' =>
      rw [← List.append_assoc] at hsplit
      obtain ⟨hpast, hq⟩ := List.append_inj' hsplit rfl
      obtain rfl := List.singleton_inj.1 hq
      rw [List.mem_append, not_or, List.mem_singleton] at hclear
      exact .inr ⟨Ne.symm hclear.2, past, later, hpast, hclear.1, rfl⟩
  · rintro (rfl | ⟨hq, past, later, rfl, hclear, rfl⟩)
    · exact ⟨_, [], (List.append_nil _).symm, List.not_mem_nil, rfl⟩
    · refine ⟨past, later ++ [q], List.append_assoc .., ?_, rfl⟩
      rw [List.mem_append, not_or, List.mem_singleton]
      exact ⟨hclear, Ne.symm hq⟩

/-- A registry without vacant slots to begin with has as many as it had entries at most. -/
theorem isGreatest_slotCount (hr : r.slotCount = r.size)
    (requests : List (RegistryRequest κ ν)) :
    IsGreatest (r.sizesSinceClear requests) (r.after requests).slotCount := by
  induction requests using List.reverseRecOn with
  | nil =>
    rw [sizesSinceClear_nil, after_nil, hr, size_eq]
    exact isGreatest_singleton
  | append_singleton requests q ih =>
    by_cases hq : q = .clear
    · have hsizes : r.sizesSinceClear (requests ++ [q]) = {0} := by
        ext n
        rw [mem_sizesSinceClear_concat, after_concat, hq]
        simp [perform, clear, empty, toList, Arena.order, Arena.empty, walk, eq_comm]
      rw [hsizes, after_concat, hq]
      exact isGreatest_singleton
    · have hsizes : r.sizesSinceClear (requests ++ [q])
          = insert (r.after (requests ++ [q])).size (r.sizesSinceClear requests) := by
        ext n
        rw [mem_sizesSinceClear_concat, Set.mem_insert_iff, size_eq, eq_comm (b := n)]
        simp only [ne_eq, hq, not_false_eq_true, true_and]
      have hthrifty := thrifty_perform (r.after requests) hq
      rw [← after_concat, Thrifty, Nat.max_comm] at hthrifty
      rw [hsizes, hthrifty]
      exact ih.insert _

/-- As long as no bound on the entries is exceeded that holds for the slots, it goes on to hold for
the slots. -/
theorem slotCount_after_le {bound : Nat} {churn : List (RegistryRequest κ ν)}
    (hslots : r.slotCount ≤ bound)
    (hsize : ∀ recent, recent <+: churn → (r.after recent).size ≤ bound) :
    (r.after churn).slotCount ≤ bound := by
  induction churn using List.reverseRecOn with
  | nil => exact hslots
  | append_singleton churn q ih =>
    have hbefore := ih fun recent hrecent ↦ hsize recent (hrecent.trans (List.prefix_append _ _))
    have hnow := hsize _ (List.prefix_refl _)
    by_cases hq : q = .clear
    · rw [after_concat, hq]
      exact Nat.zero_le _
    · have hthrifty := thrifty_perform (r.after churn) hq
      rw [← after_concat] at hthrifty
      rw [hthrifty]
      exact Nat.max_le.2 ⟨hbefore, hnow⟩

/-! ## The main result -/

/-- **The slots of a registry.** After any requests every slot is occupied or on the free list, and
not on it twice. There are as many slots as there were entries at the same time since the registry
was new or cleared. The slot that is taken next is a vacant one, and taking it leaves the others as
they are. As long as there are never more entries than slots, no slot is added. -/
theorem slots_reused (κ ν : Type) [DecidableEq κ] (table : BucketTable κ)
    (requests : List (RegistryRequest κ ν)) :
    let r := (empty : Registry κ ν table).after requests
    (∀ i < r.slotCount, i ∈ r.arena.free ↔ ¬ (r.arena.slot? i).isSome) ∧
    (∀ i ∈ r.arena.free, i < r.slotCount) ∧ r.arena.free.Nodup ∧
    IsGreatest ((empty : Registry κ ν table).sizesSinceClear requests) r.slotCount ∧
    (∀ s, r.arena.slot? r.arena.vacant = none ∧ ∀ i, (r.arena.allocate s).slot? i =
      if i = r.arena.vacant then some s else r.arena.slot? i) ∧
    ∀ churn, (∀ recent, recent <+: churn → (r.after recent).toList.length ≤ r.slotCount) →
      (r.after churn).slotCount ≤ r.slotCount := by
  intro r
  obtain ⟨order, chain, h⟩ := r.sound
  refine ⟨fun i hi ↦ ?_, h.free_lt, h.free_nodup, isGreatest_slotCount rfl requests, fun s ↦ ?_,
    fun churn hchurn ↦ ?_⟩
  · rw [h.mem_free, Option.not_isSome_iff_eq_none]
    exact and_iff_right hi
  · exact ⟨h.slot?_vacant, fun i ↦ r.arena.slot?_allocate i s h.free_lt⟩
  · refine slotCount_after_le (Nat.le_refl _) fun recent hrecent ↦ ?_
    rw [size_eq]
    exact hchurn recent hrecent

example : ((empty : Registry UInt64 Nat (.modulo 4)).after
    [.add 1 10, .add 2 20, .remove 1, .add 3 30]).slotCount = 2 := by decide +kernel

end Keyed

end Registry

end StreamRtp
