import StreamRtp.Registry.Arena

/-!
# Sound arenas

An arena is sound if its slots can be read as one list, the order, and as one list for each bucket:
the links are those of the lists, every occupied slot is in the order and in the chain of its
bucket, no key occurs twice, and what is not occupied is on the free list. `Arena.Represents` says
so for given lists. Adding puts a slot at the end of the order and in front of a chain, and giving a
slot up erases it from both.
-/

namespace StreamRtp

namespace Arena

variable {κ ν : Type} {table : BucketTable κ} {a : Arena κ ν} {order : List Nat}
  {chain : Nat → List Nat} {i j b : Nat} {k : κ} {v : ν} {s t : Slot κ ν}

/-- The slots of an arena form the given order and the given chains, one for each bucket. -/
structure Represents (table : BucketTable κ) (a : Arena κ ν) (order : List Nat)
    (chain : Nat → List Nat) : Prop where
  order_linked : Linked a.orderNext a.orderPrev order
  first_eq : a.first = order.head?
  last_eq : a.last = order.getLast?
  size_eq : a.size = order.length
  mem_order : ∀ i, i ∈ order ↔ (a.slot? i).isSome
  chain_linked : ∀ b, Linked a.bucketNext a.bucketPrev (chain b)
  head_eq : ∀ b, a.head? b = (chain b).head?
  mem_chain : ∀ b i, i ∈ chain b ↔ ∃ s, a.slot? i = some s ∧ s.bucket = b
  buckets_size : a.buckets.size = table.size
  bucket_eq : ∀ i s, a.slot? i = some s → table.bucket s.key = .ok s.bucket
  key_inj : ∀ i j s t, a.slot? i = some s → a.slot? j = some t → s.key = t.key → i = j
  free_nodup : a.free.Nodup
  mem_free : ∀ i, i ∈ a.free ↔ i < a.slots.size ∧ a.slot? i = none
  cursor_mem : ∀ i, a.cursor = some i → i ∈ order

/-- The slots of an arena can be read as an order and chains. -/
def Sound (table : BucketTable κ) (a : Arena κ ν) : Prop :=
  ∃ order chain, Represents table a order chain

theorem represents_empty :
    Represents table (empty table.size : Arena κ ν) [] fun _ ↦ [] where
  order_linked := .nil
  first_eq := rfl
  last_eq := rfl
  size_eq := rfl
  mem_order i := by simp [empty, slot?]
  chain_linked _ := .nil
  head_eq b := by
    rw [head?, empty, Array.getElem?_replicate]
    split <;> rfl
  mem_chain b i := by simp [empty, slot?]
  buckets_size := Array.size_replicate
  bucket_eq i s h := by simp [empty, slot?] at h
  key_inj i j s t h := by simp [empty, slot?] at h
  free_nodup := List.nodup_nil
  mem_free i := by simp [empty]
  cursor_mem i h := by cases h

theorem sound_empty : Sound table (empty table.size : Arena κ ν) := ⟨[], _, represents_empty⟩

/-! ## Links of an occupied slot -/

theorem orderNext_eq (h : a.slot? i = some s) : a.orderNext i = s.orderNext := by
  rw [orderNext, h]
  rfl

theorem orderPrev_eq (h : a.slot? i = some s) : a.orderPrev i = s.orderPrev := by
  rw [orderPrev, h]
  rfl

theorem bucketNext_eq (h : a.slot? i = some s) : a.bucketNext i = s.bucketNext := by
  rw [bucketNext, h]
  rfl

theorem bucketPrev_eq (h : a.slot? i = some s) : a.bucketPrev i = s.bucketPrev := by
  rw [bucketPrev, h]
  rfl

/-- A slot that is occupied after another one is given up was so before. -/
theorem slot?_release_iff (hs : a.slot? i = some s) : (a.release i s).slot? j = some t ↔
    j ≠ i ∧ ∃ u, a.slot? j = some u ∧ t = { u with
      bucketNext := if s.bucketPrev = some j then s.bucketNext else u.bucketNext
      bucketPrev := if s.bucketNext = some j then s.bucketPrev else u.bucketPrev
      orderNext := if s.orderPrev = some j then s.orderNext else u.orderNext
      orderPrev := if s.orderNext = some j then s.orderPrev else u.orderPrev } := by
  rw [slot?_release a i j s (by rw [hs]; exact Option.some_ne_none s)]
  by_cases hj : j = i
  · simp [hj]
  · rw [if_neg hj, Option.map_eq_some_iff]
    simp [hj, eq_comm (b := t)]

theorem slot?_release_eq_none_iff (hs : a.slot? i = some s) :
    (a.release i s).slot? j = none ↔ j = i ∨ a.slot? j = none := by
  rw [slot?_release a i j s (by rw [hs]; exact Option.some_ne_none s)]
  by_cases hj : j = i
  · simp [hj]
  · rw [if_neg hj, Option.map_eq_none_iff]
    simp [hj]

/-- The links of the slots that stay: those to the one given up go to its neighbours. -/
theorem links_release (hs : a.slot? i = some s) (hj : j ≠ i) (ht : a.slot? j = some t) :
    (a.release i s).orderNext j =
        (if a.orderPrev i = some j then a.orderNext i else a.orderNext j) ∧
      (a.release i s).orderPrev j =
        (if a.orderNext i = some j then a.orderPrev i else a.orderPrev j) ∧
      (a.release i s).bucketNext j =
        (if a.bucketPrev i = some j then a.bucketNext i else a.bucketNext j) ∧
      (a.release i s).bucketPrev j =
        (if a.bucketNext i = some j then a.bucketPrev i else a.bucketPrev j) := by
  have ht' := (slot?_release_iff hs).2 ⟨hj, t, ht, rfl⟩
  rw [orderPrev_eq ht', orderNext_eq ht', bucketNext_eq ht', bucketPrev_eq ht', orderPrev_eq ht,
    orderNext_eq ht, bucketNext_eq ht, bucketPrev_eq ht, orderPrev_eq hs, orderNext_eq hs,
    bucketNext_eq hs, bucketPrev_eq hs]
  exact ⟨rfl, rfl, rfl, rfl⟩

namespace Represents

variable (h : Represents table a order chain)

include h

/-- The order is what following the links meets. -/
theorem order_eq : a.order = order := by
  rw [Arena.order, h.first_eq, h.size_eq]
  exact h.order_linked.walk_eq (Nat.le_refl _)

theorem exists_slot (hi : i ∈ order) : ∃ s, a.slot? i = some s :=
  Option.isSome_iff_exists.1 ((h.mem_order i).1 hi)

theorem mem_order_of_slot (hs : a.slot? i = some s) : i ∈ order :=
  (h.mem_order i).2 (hs ▸ rfl)

theorem exists_slot_of_mem_chain (hi : i ∈ chain b) : ∃ s, a.slot? i = some s ∧ s.bucket = b :=
  (h.mem_chain b i).1 hi

theorem mem_chain_of_slot (hs : a.slot? i = some s) : i ∈ chain s.bucket :=
  (h.mem_chain s.bucket i).2 ⟨s, hs, rfl⟩

theorem free_lt : ∀ i ∈ a.free, i < a.slots.size := fun i hi ↦ ((h.mem_free i).1 hi).1

/-- A bucket that has a member is one of the table. -/
theorem bucket_lt (hs : a.slot? i = some s) : s.bucket < table.size :=
  (BucketTable.bucket_eq_ok_iff.1 (h.bucket_eq i s hs)).2

theorem slot?_vacant : a.slot? a.vacant = none := by
  rw [vacant]
  cases hfree : a.free with
  | nil => exact slot?_of_size_le a _ (Nat.le_refl _)
  | cons i free => exact ((h.mem_free i).1 (hfree ▸ List.mem_cons_self)).2

theorem vacant_notMem : a.vacant ∉ order := fun hmem ↦ by
  obtain ⟨s, hs⟩ := h.exists_slot hmem
  rw [h.slot?_vacant] at hs
  cases hs

theorem vacant_notMem_chain : a.vacant ∉ chain b := fun hmem ↦ by
  obtain ⟨s, hs, -⟩ := h.exists_slot_of_mem_chain hmem
  rw [h.slot?_vacant] at hs
  cases hs

/-- Chains of different buckets have no member in common. -/
theorem chain_disjoint {c : Nat} (hb : i ∈ chain b) (hc : i ∈ chain c) : b = c := by
  obtain ⟨s, hs, rfl⟩ := h.exists_slot_of_mem_chain hb
  obtain ⟨t, ht, rfl⟩ := h.exists_slot_of_mem_chain hc
  rw [hs] at ht
  cases ht
  rfl

/-! ## Adding -/

/-- A slot that is occupied after adding is the new one or was occupied before. -/
theorem slot?_add_iff : (a.add b k v).slot? i = some t ↔
    (i = a.vacant ∧ t = ⟨k, v, b, none, a.head? b, a.last, none⟩) ∨
      (i ≠ a.vacant ∧ ∃ s, a.slot? i = some s ∧ t = { s with
        bucketPrev := if a.head? b = some i then some a.vacant else s.bucketPrev
        orderNext := if a.last = some i then some a.vacant else s.orderNext }) := by
  -- Both links that adding changes are those of other slots than the new one.
  have hhead : a.head? b ≠ some a.vacant := fun heq ↦
    h.vacant_notMem_chain (List.mem_of_mem_head? (h.head_eq b ▸ heq))
  have hlast : a.last ≠ some a.vacant := fun heq ↦
    h.vacant_notMem (List.mem_of_getLast? (h.last_eq ▸ heq))
  rw [slot?_add a b i k v h.free_lt hhead hlast]
  by_cases hi : i = a.vacant
  · simp [hi, eq_comm]
  · rw [if_neg hi, Option.map_eq_some_iff]
    simp [hi, eq_comm (b := t)]

theorem slot?_add_vacant :
    (a.add b k v).slot? a.vacant = some ⟨k, v, b, none, a.head? b, a.last, none⟩ :=
  h.slot?_add_iff.2 (.inl ⟨rfl, rfl⟩)

theorem slot?_add_of_slot (hs : a.slot? i = some s) : (a.add b k v).slot? i = some { s with
    bucketPrev := if a.head? b = some i then some a.vacant else s.bucketPrev
    orderNext := if a.last = some i then some a.vacant else s.orderNext } := by
  refine h.slot?_add_iff.2 (.inr ⟨?_, s, hs, rfl⟩)
  rintro rfl
  rw [h.slot?_vacant] at hs
  cases hs

theorem slot?_add_eq_none_iff :
    (a.add b k v).slot? i = none ↔ i ≠ a.vacant ∧ a.slot? i = none := by
  rw [Option.eq_none_iff_forall_ne_some, Option.eq_none_iff_forall_ne_some]
  constructor
  · intro hall
    exact ⟨fun hi ↦ hall _ (hi ▸ h.slot?_add_vacant), fun s hs ↦ hall _ (h.slot?_add_of_slot hs)⟩
  · rintro ⟨hi, hall⟩ t ht
    rcases h.slot?_add_iff.1 ht with ⟨rfl, -⟩ | ⟨-, s, hs, -⟩
    · exact hi rfl
    · exact hall s hs

/-- The links of a slot that was occupied before adding. -/
theorem links_add (hs : a.slot? i = some s) :
    (a.add b k v).orderPrev i = a.orderPrev i ∧
      (a.add b k v).orderNext i =
        (if order.getLast? = some i then some a.vacant else a.orderNext i) ∧
      (a.add b k v).bucketNext i = a.bucketNext i ∧
      (a.add b k v).bucketPrev i =
        (if (chain b).head? = some i then some a.vacant else a.bucketPrev i) := by
  have hs' := h.slot?_add_of_slot (b := b) (k := k) (v := v) hs
  rw [orderPrev_eq hs', orderNext_eq hs', bucketNext_eq hs', bucketPrev_eq hs', orderPrev_eq hs,
    orderNext_eq hs, bucketNext_eq hs, bucketPrev_eq hs, h.last_eq, h.head_eq]
  exact ⟨rfl, rfl, rfl, rfl⟩

theorem order_linked_add :
    Linked (a.add b k v).orderNext (a.add b k v).orderPrev (order ++ [a.vacant]) := by
  have hnew := h.slot?_add_vacant (b := b) (k := k) (v := v)
  refine h.order_linked.concat h.vacant_notMem ?_ (orderNext_eq hnew) ?_ ?_
  · rw [orderPrev_eq hnew, h.last_eq]
  · intro i hi
    obtain ⟨s, hs⟩ := h.exists_slot hi
    exact (h.links_add hs).1
  · intro i hi
    obtain ⟨s, hs⟩ := h.exists_slot hi
    exact (h.links_add hs).2.1

theorem chain_linked_add (c : Nat) :
    Linked (a.add b k v).bucketNext (a.add b k v).bucketPrev
      (if c = b then a.vacant :: chain c else chain c) := by
  have hnew := h.slot?_add_vacant (b := b) (k := k) (v := v)
  have hnext : ∀ i ∈ chain c, (a.add b k v).bucketNext i = a.bucketNext i := by
    intro i hi
    obtain ⟨s, hs, -⟩ := h.exists_slot_of_mem_chain hi
    exact (h.links_add hs).2.2.1
  have hprev : ∀ i ∈ chain c, (a.add b k v).bucketPrev i =
      if (chain b).head? = some i then some a.vacant else a.bucketPrev i := by
    intro i hi
    obtain ⟨s, hs, -⟩ := h.exists_slot_of_mem_chain hi
    exact (h.links_add hs).2.2.2
  by_cases hc : c = b
  · subst hc
    rw [if_pos rfl]
    refine (h.chain_linked c).cons h.vacant_notMem_chain ?_ (bucketPrev_eq hnew) hnext hprev
    rw [bucketNext_eq hnew, h.head_eq]
  · -- The former first member of the other chain is not in this one.
    rw [if_neg hc]
    refine (h.chain_linked c).congr hnext fun i hi ↦ ?_
    rw [hprev i hi, if_neg]
    exact fun heq ↦ hc (h.chain_disjoint hi (List.mem_of_mem_head? heq))

theorem head_add (hb : b < table.size) (c : Nat) : (a.add b k v).head? c =
    (if c = b then a.vacant :: chain c else chain c).head? := by
  have hbuckets := (add_frame a b k v).2.2.1
  rw [head?, hbuckets, Array.getElem?_setIfInBounds]
  by_cases hc : b = c
  · subst hc
    rw [if_pos rfl, if_pos rfl, if_pos (h.buckets_size.symm ▸ hb)]
    rfl
  · rw [if_neg hc, if_neg (Ne.symm hc), ← h.head_eq]
    rfl

theorem mem_chain_add (c i : Nat) : i ∈ (if c = b then a.vacant :: chain c else chain c) ↔
    ∃ t, (a.add b k v).slot? i = some t ∧ t.bucket = c := by
  constructor
  · intro hi
    have hcases : (i = a.vacant ∧ c = b) ∨ i ∈ chain c := by
      split at hi
      · rename_i hc
        exact (List.mem_cons.1 hi).imp_left fun heq ↦ ⟨heq, hc⟩
      · exact .inr hi
    rcases hcases with ⟨rfl, rfl⟩ | hi
    · exact ⟨_, h.slot?_add_vacant, rfl⟩
    · obtain ⟨s, hs, hsc⟩ := h.exists_slot_of_mem_chain hi
      exact ⟨_, h.slot?_add_of_slot hs, hsc⟩
  · rintro ⟨t, ht, rfl⟩
    rcases h.slot?_add_iff.1 ht with ⟨rfl, rfl⟩ | ⟨-, s, hs, rfl⟩
    · rw [if_pos rfl]
      exact List.mem_cons_self
    · have hi := h.mem_chain_of_slot hs
      show i ∈ if s.bucket = b then a.vacant :: chain s.bucket else chain s.bucket
      split
      · exact List.mem_cons_of_mem _ hi
      · exact hi

theorem mem_free_add (i : Nat) : i ∈ (a.add b k v).free ↔
    i < (a.add b k v).slots.size ∧ (a.add b k v).slot? i = none := by
  obtain ⟨hsize, hfree, -⟩ := add_frame a b k v
  have hmem := h.mem_free i
  have hnodup := h.free_nodup
  rw [hfree, hsize, h.slot?_add_eq_none_iff, vacant]
  -- With a free list its first slot is filled; without one the slots grow by the new one.
  cases hlist : a.free with
  | nil =>
    rw [hlist] at hmem
    rw [if_pos rfl, List.headD_nil]
    refine iff_of_false List.not_mem_nil ?_
    rintro ⟨hlt, hne, hi⟩
    exact List.not_mem_nil (hmem.2 ⟨by omega, hi⟩)
  | cons f free =>
    rw [hlist] at hmem hnodup
    rw [if_neg (List.cons_ne_nil f free), List.headD_cons, List.tail_cons]
    constructor
    · intro hi
      have hold := hmem.1 (List.mem_cons_of_mem f hi)
      exact ⟨hold.1, fun heq ↦ (List.nodup_cons.1 hnodup).1 (heq ▸ hi), hold.2⟩
    · rintro ⟨hlt, hne, hi⟩
      exact (List.mem_cons.1 (hmem.2 ⟨hlt, hi⟩)).resolve_left hne

/-- Adding puts a slot at the end of the order and in front of the chain of its bucket. -/
theorem add (hb : table.bucket k = .ok b) (hk : ∀ i s, a.slot? i = some s → s.key ≠ k) :
    Represents table (a.add b k v) (order ++ [a.vacant])
      fun c ↦ if c = b then a.vacant :: chain c else chain c := by
  obtain ⟨-, hfree, hbuckets, hfirst, hlast, hcursor, hsize⟩ := add_frame a b k v
  constructor
  case order_linked => exact h.order_linked_add
  case first_eq =>
    rw [hfirst, h.last_eq, h.first_eq]
    cases order <;> simp
  case last_eq => rw [hlast, List.getLast?_concat]
  case size_eq => rw [hsize, h.size_eq, List.length_append, List.length_singleton]
  case mem_order =>
    intro i
    have hnone := h.slot?_add_eq_none_iff (b := b) (k := k) (v := v) (i := i)
    rw [List.mem_append, List.mem_singleton, h.mem_order, Option.isSome_iff_ne_none,
      Option.isSome_iff_ne_none, ne_eq, ne_eq, hnone, Decidable.not_and_iff_or_not, or_comm]
    simp
  case chain_linked => exact h.chain_linked_add
  case head_eq => exact h.head_add (BucketTable.bucket_eq_ok_iff.1 hb).2
  case mem_chain => exact h.mem_chain_add
  case buckets_size => rw [hbuckets, Array.size_setIfInBounds, h.buckets_size]
  case bucket_eq =>
    intro i t ht
    rcases h.slot?_add_iff.1 ht with ⟨-, rfl⟩ | ⟨-, s, hs, rfl⟩
    · exact hb
    · exact h.bucket_eq i s hs
  case key_inj =>
    intro i j t t' ht ht' heq
    rcases h.slot?_add_iff.1 ht with ⟨rfl, rfl⟩ | ⟨-, s, hs, rfl⟩ <;>
      rcases h.slot?_add_iff.1 ht' with ⟨rfl, rfl⟩ | ⟨-, s', hs', rfl⟩
    · rfl
    · exact absurd heq.symm (hk j s' hs')
    · exact absurd heq (hk i s hs)
    · exact h.key_inj i j s s' hs hs' heq
  case free_nodup => rw [hfree]; exact h.free_nodup.tail
  case mem_free => exact h.mem_free_add
  case cursor_mem =>
    intro i hi
    rw [hcursor] at hi
    exact List.mem_append_left _ (h.cursor_mem i hi)

/-! ## Giving up -/

section Release

variable (hs : a.slot? i = some s)

include hs

theorem mem_order_of_orderNext (hj : s.orderNext = some j) : j ∈ order :=
  h.order_linked.mem_of_next (h.mem_order_of_slot hs) ((orderNext_eq hs).trans hj)

theorem chain_linked_release (c : Nat) :
    Linked (a.release i s).bucketNext (a.release i s).bucketPrev ((chain c).erase i) := by
  have hi := h.mem_chain_of_slot hs
  have hlinks : ∀ j ∈ chain c, j ≠ i →
      (a.release i s).bucketNext j =
          (if a.bucketPrev i = some j then a.bucketNext i else a.bucketNext j) ∧
        (a.release i s).bucketPrev j =
          (if a.bucketNext i = some j then a.bucketPrev i else a.bucketPrev j) := by
    intro j hj hji
    obtain ⟨t, ht, -⟩ := h.exists_slot_of_mem_chain hj
    exact (links_release hs hji ht).2.2
  by_cases hc : c = s.bucket
  · subst hc
    exact (h.chain_linked _).erase hi (fun j hj hji ↦ (hlinks j hj hji).1)
      fun j hj hji ↦ (hlinks j hj hji).2
  · -- The neighbours of the slot are members of its own chain, so this one keeps its links.
    have hnot : ∀ j ∈ chain c, j ∉ chain s.bucket := fun j hj hj' ↦ hc (h.chain_disjoint hj hj')
    have hnext : ∀ j ∈ chain c, a.bucketNext i ≠ some j := fun j hj heq ↦
      hnot j hj ((h.chain_linked _).mem_of_next hi heq)
    have hprev : ∀ j ∈ chain c, a.bucketPrev i ≠ some j := fun j hj heq ↦
      hnot j hj (List.mem_reverse.1 ((h.chain_linked _).reverse.mem_of_next
        (List.mem_reverse.2 hi) heq))
    have hji : ∀ j ∈ chain c, j ≠ i := fun j hj heq ↦ hnot j hj (heq ▸ hi)
    rw [List.erase_of_not_mem fun hic ↦ hji i hic rfl]
    refine (h.chain_linked c).congr ?_ ?_
    · intro j hj
      rw [(hlinks j hj (hji j hj)).1, if_neg (hprev j hj)]
    · intro j hj
      rw [(hlinks j hj (hji j hj)).2, if_neg (hnext j hj)]

theorem head_release (c : Nat) : (a.release i s).head? c = ((chain c).erase i).head? := by
  have hi := h.mem_chain_of_slot hs
  have hbuckets := (release_frame a i s).2.2.1
  rw [head?, hbuckets]
  by_cases hc : c = s.bucket
  · subst hc
    rw [(h.chain_linked _).head?_erase hi, bucketPrev_eq hs, bucketNext_eq hs, ← h.head_eq]
    split
    · rw [Array.getElem?_setIfInBounds, if_pos rfl, if_pos (h.buckets_size.symm ▸ h.bucket_lt hs)]
      rfl
    · rfl
  · have hnot : i ∉ chain c := fun hic ↦ hc (h.chain_disjoint hic hi)
    rw [List.erase_of_not_mem hnot, ← h.head_eq]
    split
    · rw [Array.getElem?_setIfInBounds, if_neg (Ne.symm hc)]
      rfl
    · rfl

/-- Giving a slot up erases it from the order and from its chain. -/
theorem release : Represents table (a.release i s) (order.erase i) fun c ↦ (chain c).erase i := by
  obtain ⟨hslots, hfree, hbuckets, hfirst, hlast, hcursor, hsize⟩ := release_frame a i s
  have hi := h.mem_order_of_slot hs
  constructor
  case order_linked =>
    refine h.order_linked.erase hi ?_ ?_
    · intro j hj hji
      obtain ⟨t, ht⟩ := h.exists_slot hj
      exact (links_release hs hji ht).1
    · intro j hj hji
      obtain ⟨t, ht⟩ := h.exists_slot hj
      exact (links_release hs hji ht).2.1
  case first_eq =>
    rw [hfirst, h.order_linked.head?_erase hi, orderPrev_eq hs, orderNext_eq hs, h.first_eq]
  case last_eq =>
    rw [hlast, h.order_linked.getLast?_erase hi, orderPrev_eq hs, orderNext_eq hs, h.last_eq]
  case size_eq => rw [hsize, h.size_eq, List.length_erase_of_mem hi]
  case mem_order =>
    intro j
    rw [h.order_linked.nodup.mem_erase_iff, h.mem_order, Option.isSome_iff_ne_none,
      Option.isSome_iff_ne_none, ne_eq, ne_eq, ne_eq, slot?_release_eq_none_iff hs, not_or]
  case chain_linked => exact h.chain_linked_release hs
  case head_eq => exact h.head_release hs
  case mem_chain =>
    intro c j
    rw [(h.chain_linked c).nodup.mem_erase_iff, h.mem_chain]
    constructor
    · rintro ⟨hji, t, ht, htc⟩
      exact ⟨_, (slot?_release_iff hs).2 ⟨hji, t, ht, rfl⟩, htc⟩
    · rintro ⟨t, ht, rfl⟩
      obtain ⟨hji, u, hu, rfl⟩ := (slot?_release_iff hs).1 ht
      exact ⟨hji, u, hu, rfl⟩
  case buckets_size =>
    rw [hbuckets]
    split
    · rw [Array.size_setIfInBounds, h.buckets_size]
    · exact h.buckets_size
  case bucket_eq =>
    intro j t ht
    obtain ⟨-, u, hu, rfl⟩ := (slot?_release_iff hs).1 ht
    exact h.bucket_eq j u hu
  case key_inj =>
    intro j j' t t' ht ht' heq
    obtain ⟨-, u, hu, rfl⟩ := (slot?_release_iff hs).1 ht
    obtain ⟨-, u', hu', rfl⟩ := (slot?_release_iff hs).1 ht'
    exact h.key_inj j j' u u' hu hu' heq
  case free_nodup =>
    rw [hfree]
    refine List.nodup_cons.2 ⟨fun hmem ↦ ?_, h.free_nodup⟩
    rw [((h.mem_free i).1 hmem).2] at hs
    cases hs
  case mem_free =>
    intro j
    rw [hfree, hslots, slot?_release_eq_none_iff hs, List.mem_cons, h.mem_free]
    -- A slot that was occupied lies within the bounds, so it may be put on the free list.
    have hlt : i < a.slots.size := Nat.lt_of_not_le fun hle ↦ by
      rw [slot?_of_size_le a i hle] at hs
      cases hs
    by_cases hji : j = i
    · simp [hji, hlt]
    · simp [hji]
  case cursor_mem =>
    intro j hj
    rw [hcursor] at hj
    rw [h.order_linked.nodup.mem_erase_iff]
    -- A cursor on the slot has moved on, and never back to the slot itself.
    split at hj
    · exact ⟨h.order_linked.ne_of_next hi ((orderNext_eq hs).trans hj),
        h.mem_order_of_orderNext hs hj⟩
    · rename_i hne
      exact ⟨fun heq ↦ hne (heq ▸ hj), h.cursor_mem j hj⟩

end Release

/-! ## Steps that change no link -/

/-- The cursor may point at any occupied slot. -/
theorem withCursor {cursor : Option Nat} (hcursor : ∀ i ∈ cursor, (a.slot? i).isSome) :
    Represents table { a with cursor } order chain :=
  { h with cursor_mem := fun i hi ↦ (h.mem_order i).2 (hcursor i hi) }

theorem modifyValue (c : Option Nat) (f : ν → ν) :
    Represents table (a.modifyValue c f) order chain := by
  obtain ⟨hslots, hfree, hbuckets, hfirst, hlast, hcursor, hsize⟩ := a.modifyValue_frame c f
  have hslot := fun i ↦ a.slot?_modifyValue i c f
  -- Every slot was there before, with the same key and in the same bucket.
  have hback : ∀ {i t}, (a.modifyValue c f).slot? i = some t →
      ∃ s, a.slot? i = some s ∧ t.key = s.key ∧ t.bucket = s.bucket := by
    intro i t ht
    rw [hslot, Option.map_eq_some_iff] at ht
    obtain ⟨s, hs, rfl⟩ := ht
    refine ⟨s, hs, ?_⟩
    split <;> exact ⟨rfl, rfl⟩
  have hlinks := fun i ↦ a.links_modifyValue i c f
  constructor
  case order_linked =>
    exact h.order_linked.congr (fun i _ ↦ (hlinks i).1) fun i _ ↦ (hlinks i).2.1
  case first_eq => rw [hfirst, h.first_eq]
  case last_eq => rw [hlast, h.last_eq]
  case size_eq => rw [hsize, h.size_eq]
  case mem_order =>
    intro i
    rw [hslot, Option.isSome_map, h.mem_order]
  case chain_linked =>
    intro b
    exact (h.chain_linked b).congr (fun i _ ↦ (hlinks i).2.2.1) fun i _ ↦ (hlinks i).2.2.2
  case head_eq =>
    intro b
    rw [head?, hbuckets, ← h.head_eq, head?]
  case mem_chain =>
    intro b i
    rw [h.mem_chain]
    constructor
    · rintro ⟨s, hs, rfl⟩
      refine ⟨_, (hslot i).trans (congrArg _ hs), ?_⟩
      dsimp only
      split <;> rfl
    · rintro ⟨t, ht, rfl⟩
      obtain ⟨s, hs, -, hb⟩ := hback ht
      exact ⟨s, hs, hb.symm⟩
  case buckets_size => rw [hbuckets, h.buckets_size]
  case bucket_eq =>
    intro i t ht
    obtain ⟨s, hs, hk, hb⟩ := hback ht
    rw [hk, hb]
    exact h.bucket_eq i s hs
  case key_inj =>
    intro i j t t' ht ht' heq
    obtain ⟨s, hs, hk, -⟩ := hback ht
    obtain ⟨s', hs', hk', -⟩ := hback ht'
    exact h.key_inj i j s s' hs hs' (hk.symm.trans (heq.trans hk'))
  case free_nodup => rw [hfree]; exact h.free_nodup
  case mem_free =>
    intro i
    rw [hfree, hslots, hslot, Option.map_eq_none_iff, h.mem_free]
  case cursor_mem => exact fun i hi ↦ h.cursor_mem i (hcursor ▸ hi)

/-! ## Lookup -/

/-- Walking a bucket meets its whole chain. -/
theorem walk_chain (b : Nat) : walk a.bucketNext a.slots.size (a.head? b) = chain b := by
  -- The chain has no repetitions, so there are enough steps to see all of it.
  have hsub : chain b ⊆ List.range a.slots.size := by
    intro i hi
    obtain ⟨s, hs, -⟩ := h.exists_slot_of_mem_chain hi
    refine List.mem_range.2 (Nat.lt_of_not_le fun hle ↦ ?_)
    rw [slot?_of_size_le a i hle] at hs
    cases hs
  have hlen := (h.chain_linked b).nodup.length_le_of_subset hsub
  rw [List.length_range] at hlen
  rw [h.head_eq]
  exact (h.chain_linked b).walk_eq hlen

/-- Lookup in the right bucket finds exactly the slot that holds the key. -/
theorem findIn_eq_some_iff [DecidableEq κ] (hb : table.bucket k = .ok b) :
    a.findIn b k = some i ↔ ∃ s, a.slot? i = some s ∧ s.key = k := by
  have hfound : ∀ {j}, (a.slot? j).any (·.key = k) = true ↔
      ∃ s, a.slot? j = some s ∧ s.key = k := by
    intro j
    cases a.slot? j <;> simp
  rw [findIn, h.walk_chain]
  constructor
  · intro hfind
    have hholds := List.find?_some hfind
    exact hfound.1 hholds
  · rintro ⟨s, hs, rfl⟩
    have hmem : i ∈ chain b := by
      rw [h.bucket_eq i s hs] at hb
      cases hb
      exact h.mem_chain_of_slot hs
    -- Another slot may be found only if it has the same key, and then it is the same slot.
    have hsome : ((chain b).find? fun j ↦ (a.slot? j).any (·.key = s.key)).isSome :=
      List.find?_isSome.2 ⟨i, hmem, hfound.2 ⟨s, hs, rfl⟩⟩
    obtain ⟨j, hj⟩ := Option.isSome_iff_exists.1 hsome
    have hholds := List.find?_some hj
    obtain ⟨t, ht, hkey⟩ := hfound.1 hholds
    rw [hj, h.key_inj j i t s ht hs hkey]

theorem findIn_eq_none_iff [DecidableEq κ] (hb : table.bucket k = .ok b) :
    a.findIn b k = none ↔ ∀ i s, a.slot? i = some s → s.key ≠ k := by
  rw [Option.eq_none_iff_forall_ne_some]
  constructor
  · intro hnone i s hs hkey
    exact hnone i ((h.findIn_eq_some_iff hb).2 ⟨s, hs, hkey⟩)
  · intro hall i hfind
    obtain ⟨s, hs, hkey⟩ := (h.findIn_eq_some_iff hb).1 hfind
    exact hall i s hs hkey

end Represents

namespace Sound

theorem add [DecidableEq κ] (h : Sound table a) (hb : table.bucket k = .ok b)
    (hk : ¬(a.findIn b k).isSome) : Sound table (a.add b k v) := by
  obtain ⟨order, chain, h⟩ := h
  rw [Option.not_isSome_iff_eq_none, h.findIn_eq_none_iff hb] at hk
  exact ⟨_, _, h.add hb hk⟩

theorem release (h : Sound table a) (hs : a.slot? i = some s) : Sound table (a.release i s) := by
  obtain ⟨order, chain, h⟩ := h
  exact ⟨_, _, h.release hs⟩

theorem withCursor (h : Sound table a) {cursor : Option Nat}
    (hcursor : ∀ i ∈ cursor, (a.slot? i).isSome) : Sound table { a with cursor } := by
  obtain ⟨order, chain, h⟩ := h
  exact ⟨order, chain, h.withCursor hcursor⟩

theorem modifyValue (h : Sound table a) (c : Option Nat) (f : ν → ν) :
    Sound table (a.modifyValue c f) := by
  obtain ⟨order, chain, h⟩ := h
  exact ⟨order, chain, h.modifyValue c f⟩

/-! The links that the cursor is moved along lead to occupied slots. -/

theorem isSome_first (h : Sound table a) : ∀ i ∈ a.first, (a.slot? i).isSome := by
  obtain ⟨order, chain, h⟩ := h
  intro i hi
  exact (h.mem_order i).1 (List.mem_of_mem_head? (h.first_eq ▸ hi))

theorem isSome_last (h : Sound table a) : ∀ i ∈ a.last, (a.slot? i).isSome := by
  obtain ⟨order, chain, h⟩ := h
  intro i hi
  exact (h.mem_order i).1 (List.mem_of_getLast? (h.last_eq ▸ hi))

theorem isSome_orderNext (h : Sound table a) :
    ∀ j ∈ a.cursor.bind a.orderNext, (a.slot? j).isSome := by
  obtain ⟨order, chain, h⟩ := h
  intro j hj
  obtain ⟨i, hi, hj⟩ := Option.bind_eq_some_iff.1 hj
  exact (h.mem_order j).1 (h.order_linked.mem_of_next (h.cursor_mem i hi) hj)

theorem isSome_orderPrev (h : Sound table a) :
    ∀ j ∈ a.cursor.bind a.orderPrev, (a.slot? j).isSome := by
  obtain ⟨order, chain, h⟩ := h
  intro j hj
  obtain ⟨i, hi, hj⟩ := Option.bind_eq_some_iff.1 hj
  have hmem := h.order_linked.reverse.mem_of_next (List.mem_reverse.2 (h.cursor_mem i hi)) hj
  exact (h.mem_order j).1 (List.mem_reverse.1 hmem)

theorem isSome_findIn [DecidableEq κ] (h : Sound table a) (hb : table.bucket k = .ok b) :
    ∀ i ∈ a.findIn b k, (a.slot? i).isSome := by
  obtain ⟨order, chain, h⟩ := h
  intro i hi
  obtain ⟨s, hs, -⟩ := (h.findIn_eq_some_iff hb).1 hi
  exact Option.isSome_iff_exists.2 ⟨s, hs⟩

end Sound

end Arena

end StreamRtp
