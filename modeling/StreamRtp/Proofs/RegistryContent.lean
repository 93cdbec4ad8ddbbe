import Mathlib.Data.List.Nodup
import StreamRtp.Registry.Cursor

/-!
# The content of a registry

What an operation of a registry does to the entries in their order and to the key under the cursor.
After this module nothing has to be said about slots and links any more.

The laws are read off an order that represents the arena. Its members are occupied, so the entries
are the image of the order, and distinct slots hold distinct keys, so the neighbours in the order
are the neighbours among the keys.
-/

namespace StreamRtp

/-! ## Lists of optional images -/

section Lists

variable {α β : Type} {f : α → Option β} {l : List α}

theorem map_some_filterMap (h : ∀ a ∈ l, (f a).isSome) : (l.filterMap f).map some = l.map f := by
  induction l with
  | nil => rfl
  | cons a l ih =>
    obtain ⟨ha, hl⟩ := List.forall_mem_cons.1 h
    obtain ⟨b, hb⟩ := Option.isSome_iff_exists.1 ha
    rw [List.filterMap_cons_some hb, List.map_cons, List.map_cons, ih hl, hb]

theorem following_map [DecidableEq α] [DecidableEq β] {f : α → β} {a : α}
    (hf : ∀ b ∈ l, f b = f a → b = a) : following (f a) (l.map f) = (following a l).map f := by
  induction l with
  | nil => rfl
  | cons b l ih =>
    obtain ⟨hb, hl⟩ := List.forall_mem_cons.1 hf
    rw [List.map_cons, following_cons, following_cons]
    by_cases hba : b = a
    · rw [if_pos hba, if_pos (congrArg f hba), List.head?_map]
    · rw [if_neg hba, if_neg fun h ↦ hba (hb h), ih hl]

/-- The neighbour among the images is the image of the neighbour. -/
theorem following_filterMap [DecidableEq α] [DecidableEq β] {a : α} {b : β}
    (h : ∀ a ∈ l, (f a).isSome) (hf : ∀ c ∈ l, f c = f a → c = a) (hb : f a = some b) :
    following b (l.filterMap f) = (following a l).bind f := by
  -- No image is missing, so `filterMap` is a `map` up to `some`.
  have hmap := following_map (l := l.filterMap f) (f := some) (a := b) fun c _ ↦ Option.some.inj
  rw [map_some_filterMap h, ← hb, following_map hf] at hmap
  cases hfollow : following a l with
  | none =>
    rw [hfollow] at hmap
    exact Option.map_eq_none_iff.1 hmap.symm
  | some c =>
    rw [hfollow] at hmap
    obtain ⟨d, hd, hc⟩ := Option.map_eq_some_iff.1 hmap.symm
    rw [hd, Option.bind_some, ← hc]

theorem head?_filterMap_of_isSome (h : ∀ a ∈ l, (f a).isSome) :
    (l.filterMap f).head? = l.head?.bind f := by
  cases l with
  | nil => rfl
  | cons a l =>
    obtain ⟨b, hb⟩ := Option.isSome_iff_exists.1 (h a List.mem_cons_self)
    rw [List.filterMap_cons_some hb, List.head?_cons, List.head?_cons, Option.bind_some, hb]

end Lists

namespace Registry

variable {κ ν : Type} {table : BucketTable κ} {r : Registry κ ν table} {order : List Nat}
  {chain : Nat → List Nat} {i j : Nat} {k : κ} {e : κ × ν}

/-! ## Entries and keys -/

/-- The key in a slot. -/
def key? (r : Registry κ ν table) (slot : Nat) : Option κ := (r.arena.slot? slot).map (·.key)

/-- The key under the cursor. -/
def cursorKey? (r : Registry κ ν table) : Option κ := r.arena.cursor.bind r.key?

theorem key?_eq (r : Registry κ ν table) (i : Nat) : r.key? i = (r.entryAt? i).map (·.1) := by
  rw [key?, entryAt?, Option.map_map]
  rfl

theorem key?_inj (hi : r.key? i = some k) (hj : r.key? j = some k) : i = j := by
  obtain ⟨order, chain, h⟩ := r.sound
  obtain ⟨s, hs, rfl⟩ := Option.map_eq_some_iff.1 hi
  obtain ⟨t, ht, hkey⟩ := Option.map_eq_some_iff.1 hj
  exact h.key_inj i j s t hs ht hkey.symm

section Represents

variable (h : r.arena.Represents table order chain)

include h

theorem toList_eq : r.toList = order.filterMap r.entryAt? := by
  rw [toList, h.order_eq]

theorem isSome_entryAt? : ∀ i ∈ order, (r.entryAt? i).isSome := by
  intro i hi
  rw [entryAt?, Option.isSome_map]
  exact (h.mem_order i).1 hi

theorem isSome_key? : ∀ i ∈ order, (r.key? i).isSome := by
  intro i hi
  rw [key?, Option.isSome_map]
  exact (h.mem_order i).1 hi

theorem keys_eq : r.keys = order.filterMap r.key? := by
  rw [keys, toList_eq h, List.map_filterMap]
  exact congrArg (List.filterMap · order) (funext fun i ↦ (r.key?_eq i).symm)

/-- The neighbour of a slot in the order holds the neighbour of its key. -/
theorem following_keys [DecidableEq κ] (hi : r.key? i = some k) :
    following k r.keys = (following i order).bind r.key? := by
  rw [keys_eq h]
  refine following_filterMap (isSome_key? h) (fun j hj heq ↦ ?_) hi
  exact key?_inj (heq.trans hi) hi

theorem following_keys_reverse [DecidableEq κ] (hi : r.key? i = some k) :
    following k r.keys.reverse = (following i order.reverse).bind r.key? := by
  rw [keys_eq h, ← List.filterMap_reverse]
  refine following_filterMap (fun j hj ↦ isSome_key? h j (List.mem_reverse.1 hj))
    (fun j hj heq ↦ ?_) hi
  exact key?_inj (heq.trans hi) hi

theorem head?_keys : r.keys.head? = order.head?.bind r.key? := by
  rw [keys_eq h, head?_filterMap_of_isSome (isSome_key? h)]

theorem getLast?_keys : r.keys.getLast? = order.getLast?.bind r.key? := by
  rw [← List.head?_reverse, ← List.head?_reverse, keys_eq h, ← List.filterMap_reverse,
    head?_filterMap_of_isSome fun j hj ↦ isSome_key? h j (List.mem_reverse.1 hj)]

end Represents

theorem mem_toList : e ∈ r.toList ↔ ∃ i, r.entryAt? i = some e := by
  obtain ⟨order, chain, h⟩ := r.sound
  rw [toList_eq h, List.mem_filterMap]
  constructor
  · rintro ⟨i, -, hi⟩
    exact ⟨i, hi⟩
  · rintro ⟨i, hi⟩
    obtain ⟨s, hs, -⟩ := Option.map_eq_some_iff.1 hi
    exact ⟨i, h.mem_order_of_slot hs, hi⟩

theorem mem_keys : k ∈ r.keys ↔ ∃ i, r.key? i = some k := by
  rw [keys, List.mem_map]
  constructor
  · rintro ⟨e, he, rfl⟩
    obtain ⟨i, hi⟩ := mem_toList.1 he
    exact ⟨i, by rw [key?_eq, hi]; rfl⟩
  · rintro ⟨i, hi⟩
    rw [key?_eq, Option.map_eq_some_iff] at hi
    obtain ⟨e, he, hk⟩ := hi
    exact ⟨e, mem_toList.2 ⟨i, he⟩, hk⟩

/-- No key occurs twice. -/
theorem nodup_keys (r : Registry κ ν table) : r.keys.Nodup := by
  obtain ⟨order, chain, h⟩ := r.sound
  rw [keys_eq h]
  exact h.order_linked.nodup.filterMap fun i j k hi hj ↦ key?_inj hi hj

theorem size_eq (r : Registry κ ν table) : r.size = r.toList.length := by
  obtain ⟨order, chain, h⟩ := r.sound
  have hlength := congrArg List.length (map_some_filterMap (isSome_entryAt? h))
  rw [List.length_map, List.length_map] at hlength
  rw [size, h.size_eq, toList_eq h, hlength]

theorem isEmpty_iff (r : Registry κ ν table) : r.isEmpty = true ↔ r.toList = [] := by
  rw [isEmpty, decide_eq_true_iff, size_eq, List.length_eq_zero_iff]

/-- A key leads to its entry. -/
theorem find?_toList [DecidableEq κ] (hi : r.entryAt? i = some e) :
    r.toList.find? (·.1 = e.1) = some e := by
  have hsome : (r.toList.find? (·.1 = e.1)).isSome :=
    List.find?_isSome.2 ⟨e, mem_toList.2 ⟨i, hi⟩, decide_eq_true rfl⟩
  obtain ⟨e', he'⟩ := Option.isSome_iff_exists.1 hsome
  -- The entry that is found has the same key, so it is in the same slot.
  obtain ⟨j, hj⟩ := mem_toList.1 (List.mem_of_find?_eq_some he')
  have hholds := List.find?_some he'
  have hkey : e'.1 = e.1 := of_decide_eq_true hholds
  have hij : j = i := key?_inj (k := e.1) (by rw [key?_eq, hj]; exact congrArg some hkey)
    (by rw [key?_eq, hi]; rfl)
  rw [he', ← hj, hij, hi]

theorem find?_toList_eq_none [DecidableEq κ] (hk : k ∉ r.keys) :
    r.toList.find? (·.1 = k) = none := by
  rw [List.find?_eq_none]
  intro e he hkey
  exact hk (List.mem_map.2 ⟨e, he, of_decide_eq_true hkey⟩)

/-! ## Lookup -/

section Lookup

variable [DecidableEq κ]

theorem findIn_eq_some_iff {b : Nat} (hb : table.bucket k = .ok b) :
    r.arena.findIn b k = some i ↔ r.key? i = some k := by
  obtain ⟨order, chain, h⟩ := r.sound
  rw [h.findIn_eq_some_iff hb, key?, Option.map_eq_some_iff]

theorem isSome_findIn {b : Nat} (hb : table.bucket k = .ok b) :
    (r.arena.findIn b k).isSome ↔ k ∈ r.keys := by
  rw [Option.isSome_iff_exists, mem_keys]
  simp only [findIn_eq_some_iff hb]

omit [DecidableEq κ] in
/-- Only keys with a bucket are in a registry. -/
theorem bucket_ne_error_of_mem {e : RegistryError} (hk : k ∈ r.keys) :
    table.bucket k ≠ .error e := by
  obtain ⟨order, chain, h⟩ := r.sound
  obtain ⟨i, hi⟩ := mem_keys.1 hk
  obtain ⟨s, hs, rfl⟩ := Option.map_eq_some_iff.1 hi
  rw [h.bucket_eq i s hs]
  nofun

theorem slot?_eq_some_iff : r.slot? k = some i ↔ r.key? i = some k := by
  rw [slot?, find]
  cases hb : table.bucket k with
  | ok b => exact findIn_eq_some_iff hb
  | error e => exact iff_of_false nofun fun hi ↦ bucket_ne_error_of_mem (mem_keys.2 ⟨i, hi⟩) hb

theorem contains_iff : r.contains k = true ↔ k ∈ r.keys := by
  rw [contains, Option.isSome_iff_exists, mem_keys]
  simp only [slot?_eq_some_iff]

theorem slot?_eq_none_iff : r.slot? k = none ↔ k ∉ r.keys := by
  rw [← contains_iff, contains, Bool.not_eq_true, Option.isSome_eq_false_iff,
    Option.isNone_iff_eq_none]

theorem get?_eq : r.get? k = (r.toList.find? (·.1 = k)).map (·.2) := by
  rw [get?]
  cases hslot : r.slot? k with
  | none =>
    rw [find?_toList_eq_none (slot?_eq_none_iff.1 hslot)]
    rfl
  | some i =>
    have hi := slot?_eq_some_iff.1 hslot
    rw [key?_eq, Option.map_eq_some_iff] at hi
    obtain ⟨e, he, rfl⟩ := hi
    rw [Option.bind_some, find?_toList he, he]

theorem find_eq : r.find k = (table.bucket k).map fun _ ↦ r.slot? k := by
  rw [slot?, find]
  cases table.bucket k <;> rfl

end Lookup

theorem current?_eq [DecidableEq κ] :
    r.current? = r.cursorKey?.bind fun k ↦ r.toList.find? (·.1 = k) := by
  rw [current?, cursorKey?]
  cases hcursor : r.arena.cursor with
  | none => rfl
  | some i =>
    obtain ⟨order, chain, h⟩ := r.sound
    obtain ⟨e, he⟩ := Option.isSome_iff_exists.1 (isSome_entryAt? h i (h.cursor_mem i hcursor))
    rw [Option.bind_some, Option.bind_some, key?_eq, he, Option.map_some, Option.bind_some,
      find?_toList he]

theorem cursorKey?_eq (r : Registry κ ν table) : r.cursorKey? = r.current?.map (·.1) := by
  rw [cursorKey?, current?, Option.map_bind]
  exact congrArg r.arena.cursor.bind (funext r.key?_eq)

/-! ## Change -/

/-! Moving the cursor leaves the entries alone. -/

@[simp] theorem toList_first (r : Registry κ ν table) : r.first.toList = r.toList := rfl

@[simp] theorem toList_last (r : Registry κ ν table) : r.last.toList = r.toList := rfl

@[simp] theorem toList_next (r : Registry κ ν table) : r.next.toList = r.toList := rfl

@[simp] theorem toList_previous (r : Registry κ ν table) : r.previous.toList = r.toList := rfl

theorem cursorKey?_first (r : Registry κ ν table) : r.first.cursorKey? = r.keys.head? := by
  obtain ⟨order, chain, h⟩ := r.sound
  rw [head?_keys h, ← h.first_eq]
  rfl

theorem cursorKey?_last (r : Registry κ ν table) : r.last.cursorKey? = r.keys.getLast? := by
  obtain ⟨order, chain, h⟩ := r.sound
  rw [getLast?_keys h, ← h.last_eq]
  rfl

section Moves

variable [DecidableEq κ]

theorem cursorKey?_next (r : Registry κ ν table) :
    r.next.cursorKey? = r.cursorKey?.bind (following · r.keys) := by
  obtain ⟨order, chain, h⟩ := r.sound
  have hnext : r.next.cursorKey? = (r.arena.cursor.bind r.arena.orderNext).bind r.key? := rfl
  rw [hnext, cursorKey?]
  cases hcursor : r.arena.cursor with
  | none => rfl
  | some i =>
    have hi := h.cursor_mem i hcursor
    obtain ⟨k, hk⟩ := Option.isSome_iff_exists.1 (isSome_key? h i hi)
    rw [Option.bind_some, Option.bind_some, hk, Option.bind_some, following_keys h hk,
      h.order_linked.next_eq i hi]

theorem cursorKey?_previous (r : Registry κ ν table) :
    r.previous.cursorKey? = r.cursorKey?.bind (following · r.keys.reverse) := by
  obtain ⟨order, chain, h⟩ := r.sound
  have hprevious :
      r.previous.cursorKey? = (r.arena.cursor.bind r.arena.orderPrev).bind r.key? := rfl
  rw [hprevious, cursorKey?]
  cases hcursor : r.arena.cursor with
  | none => rfl
  | some i =>
    have hi := h.cursor_mem i hcursor
    obtain ⟨k, hk⟩ := Option.isSome_iff_exists.1 (isSome_key? h i hi)
    rw [Option.bind_some, Option.bind_some, hk, Option.bind_some, following_keys_reverse h hk,
      h.order_linked.prev_eq i hi]

theorem goTo_of_bucket_error {e : RegistryError} (hb : table.bucket k = .error e) :
    r.goTo k = (.error e, r.leave) := by
  rw [goTo]
  split <;> rename_i hb'
  · rw [hb] at hb'
    cases hb'
    rfl
  · rw [hb] at hb'
    cases hb'

theorem goTo_of_notMem {b : Nat} (hb : table.bucket k = .ok b) (hk : k ∉ r.keys) :
    r.goTo k = (.error .keyNotFound, r.leave) := by
  rw [goTo]
  split <;> rename_i hb'
  · rw [hb] at hb'
    cases hb'
  · split <;> rename_i hi
    · rfl
    · exact absurd (mem_keys.2 ⟨_, (findIn_eq_some_iff hb').1 hi⟩) hk

theorem goTo_of_mem (hk : k ∈ r.keys) : (r.goTo k).1 = .ok () ∧
    (r.goTo k).2.toList = r.toList ∧ (r.goTo k).2.cursorKey? = some k := by
  rw [goTo]
  split <;> rename_i hb
  · exact absurd hb (bucket_ne_error_of_mem hk)
  · split <;> rename_i hi
    · rw [← isSome_findIn hb, hi] at hk
      cases hk
    · exact ⟨rfl, rfl, (findIn_eq_some_iff hb).1 hi⟩

end Moves

/-! Adding and removing. -/

section Changes

variable [DecidableEq κ] {v : ν}

theorem add_of_bucket_error {e : RegistryError} (hb : table.bucket k = .error e) :
    r.add k v = .error e := by
  rw [add]
  split <;> rename_i hb'
  · rw [hb] at hb'
    cases hb'
    rfl
  · rw [hb] at hb'
    cases hb'

theorem add_of_mem (hk : k ∈ r.keys) : r.add k v = .error .duplicateKey := by
  rw [add]
  split <;> rename_i hb
  · exact absurd hb (bucket_ne_error_of_mem hk)
  · rw [dif_pos ((isSome_findIn hb).2 hk)]

/-- A new entry comes last, and the cursor stays. -/
theorem add_of_notMem {b : Nat} (hb : table.bucket k = .ok b) (hk : k ∉ r.keys) :
    ∃ r', r.add k v = .ok r' ∧ r'.toList = r.toList ++ [(k, v)] ∧
      r'.cursorKey? = r.cursorKey? := by
  have hfind : ¬(r.arena.findIn b k).isSome := mt (isSome_findIn hb).1 hk
  refine ⟨⟨r.arena.add b k v, r.sound.add hb hfind⟩, ?_, ?_, ?_⟩
  · rw [add]
    split <;> rename_i hb'
    · rw [hb] at hb'
      cases hb'
    · rw [hb] at hb'
      cases hb'
      rw [dif_neg hfind]
  -- The other two are read off the order that now ends with the new slot.
  all_goals
    obtain ⟨order, chain, h⟩ := r.sound
    have hnone := (h.findIn_eq_none_iff hb).1 (Option.not_isSome_iff_eq_none.1 hfind)
  · have hnew := h.slot?_add_vacant (b := b) (k := k) (v := v)
    rw [toList_eq (h.add hb hnone), toList_eq h, List.filterMap_append]
    congr 1
    · refine List.filterMap_congr fun i hi ↦ ?_
      obtain ⟨s, hs⟩ := h.exists_slot hi
      rw [entryAt?, entryAt?, h.slot?_add_of_slot hs, hs]
      rfl
    · rw [List.filterMap_cons_some (b := (k, v)), List.filterMap_nil]
      rw [entryAt?, hnew]
      rfl
  · rw [cursorKey?, cursorKey?, (r.arena.add_frame b k v).2.2.2.2.2.1]
    cases hcursor : r.arena.cursor with
    | none => rfl
    | some i =>
      obtain ⟨s, hs⟩ := h.exists_slot (h.cursor_mem i hcursor)
      rw [Option.bind_some, Option.bind_some, key?, key?, h.slot?_add_of_slot hs, hs]
      rfl

/-- An entry that was added was not there, and is now the last one. -/
theorem toList_of_add {r' : Registry κ ν table} (h : r.add k v = .ok r') :
    k ∉ r.keys ∧ r'.toList = r.toList ++ [(k, v)] := by
  have hk : k ∉ r.keys := fun hk ↦ nomatch (add_of_mem hk).symm.trans h
  refine ⟨hk, ?_⟩
  cases hb : table.bucket k with
  | error e => cases (add_of_bucket_error hb).symm.trans h
  | ok b =>
    obtain ⟨r'', hadd, hlist, -⟩ := add_of_notMem (v := v) hb hk
    cases hadd.symm.trans h
    exact hlist

section Release

variable {s : Slot κ ν} (hs : r.arena.slot? i = some s)

omit [DecidableEq κ] in
/-- The other slots keep their entries. -/
theorem entryAt?_release (hj : j ≠ i) : (r.release hs).entryAt? j = r.entryAt? j := by
  rw [entryAt?, entryAt?, release, Arena.slot?_release _ _ _ _ (by rw [hs]; nofun), if_neg hj,
    Option.map_map]
  rfl

omit [DecidableEq κ] in
theorem key?_release (hj : j ≠ i) : (r.release hs).key? j = r.key? j := by
  rw [key?_eq, key?_eq, entryAt?_release hs hj]

/-- Of a slot that is given up the entry goes away. -/
theorem toList_release : (r.release hs).toList = r.toList.filter (·.1 ≠ s.key) := by
  obtain ⟨order, chain, h⟩ := r.sound
  rw [toList_eq (h.release hs), toList_eq h, h.order_linked.nodup.erase_eq_filter,
    List.filterMap_filter, List.filter_filterMap]
  -- Erasing the slot and filtering by the key leave out the same member of the order.
  refine List.filterMap_congr fun j hj ↦ ?_
  by_cases hji : j = i
  · subst hji
    have hent : r.entryAt? j = some (s.key, s.value) := by rw [entryAt?, hs]; rfl
    rw [hent, Option.filter_some, if_neg (by simp), if_neg (by simp)]
  · obtain ⟨t, ht⟩ := h.exists_slot hj
    have hkey : t.key ≠ s.key := fun heq ↦ hji (h.key_inj j i t s ht hs heq)
    rw [if_pos (by simpa using hji), entryAt?_release hs hji, entryAt?, ht, Option.map_some,
      Option.filter_some, if_pos (by simpa using hkey)]

/-- A cursor on a slot that is given up moves on. -/
theorem cursorKey?_release : (r.release hs).cursorKey? =
    if r.cursorKey? = some s.key then following s.key r.keys else r.cursorKey? := by
  obtain ⟨order, chain, h⟩ := r.sound
  have hki : r.key? i = some s.key := by
    rw [key?, hs]
    rfl
  have hnext := h.order_linked.next_eq i (h.mem_order_of_slot hs)
  rw [Arena.orderNext_eq hs] at hnext
  rw [cursorKey?, release, (r.arena.release_frame i s).2.2.2.2.2.1]
  -- The cursor is on the slot if and only if it is on the key.
  by_cases hcursor : r.arena.cursor = some i
  · have hkey : r.cursorKey? = some s.key := by rw [cursorKey?, hcursor, Option.bind_some, hki]
    rw [if_pos hcursor, if_pos hkey, following_keys h hki, ← hnext]
    cases hfollow : s.orderNext with
    | none => rfl
    | some j =>
      exact key?_release hs (h.order_linked.ne_of_next (h.mem_order_of_slot hs)
        ((Arena.orderNext_eq hs).trans hfollow))
  · rw [if_neg hcursor, cursorKey?]
    cases hj : r.arena.cursor with
    | none => rfl
    | some j =>
      have hji : j ≠ i := fun heq ↦ hcursor (heq ▸ hj)
      have hne : r.key? j ≠ some s.key := fun heq ↦ hji (key?_inj heq hki)
      rw [Option.bind_some, Option.bind_some, if_neg hne]
      exact key?_release hs hji

end Release

theorem unlink_eq (he : r.entryAt? i = some e) :
    ∃ r', r.unlink i = some (e, r') ∧ r'.toList = r.toList.filter (·.1 ≠ e.1) ∧
      r'.cursorKey? =
        if r.cursorKey? = some e.1 then following e.1 r.keys else r.cursorKey? := by
  obtain ⟨s, hs, rfl⟩ := Option.map_eq_some_iff.1 he
  refine ⟨r.release hs, ?_, toList_release hs, cursorKey?_release hs⟩
  rw [unlink]
  split <;> rename_i hs'
  · rw [hs] at hs'
    cases hs'
  · rw [hs] at hs'
    cases hs'
    rfl

theorem remove_of_bucket_error {e : RegistryError} (hb : table.bucket k = .error e) :
    r.remove k = .error e := by
  rw [remove, find_eq, hb]
  rfl

theorem remove_of_notMem {b : Nat} (hb : table.bucket k = .ok b) (hk : k ∉ r.keys) :
    r.remove k = .error .keyNotFound := by
  rw [remove, find_eq, hb, slot?_eq_none_iff.2 hk]
  rfl

/-- The entry of a key goes away, and a cursor on it moves on. -/
theorem remove_of_mem (hk : k ∈ r.keys) : ∃ v r', r.remove k = .ok (v, r') ∧ r.get? k = some v ∧
    r'.toList = r.toList.filter (·.1 ≠ k) ∧
    r'.cursorKey? = if r.cursorKey? = some k then following k r.keys else r.cursorKey? := by
  obtain ⟨i, hi⟩ := mem_keys.1 hk
  obtain ⟨b, hb⟩ : ∃ b, table.bucket k = .ok b := by
    cases hb : table.bucket k with
    | ok b => exact ⟨b, rfl⟩
    | error e => exact absurd hb (bucket_ne_error_of_mem hk)
  have hslot := slot?_eq_some_iff.2 hi
  rw [key?_eq, Option.map_eq_some_iff] at hi
  obtain ⟨e, he, rfl⟩ := hi
  obtain ⟨r', hunlink, hlist, hcursor⟩ := unlink_eq he
  refine ⟨e.2, r', ?_, by rw [get?_eq, find?_toList he]; rfl, hlist, hcursor⟩
  rw [remove, find_eq, hb, hslot]
  simp only [Except.map, bind, Except.bind, hunlink]
  rfl

/-- An entry that was removed was there, and the others are left. -/
theorem toList_of_remove {r' : Registry κ ν table} (h : r.remove k = .ok (v, r')) :
    r'.toList = r.toList.filter (·.1 ≠ k) := by
  by_cases hk : k ∈ r.keys
  · obtain ⟨w, r'', hremove, -, hlist, -⟩ := remove_of_mem hk
    cases hremove.symm.trans h
    exact hlist
  · cases hb : table.bucket k with
    | error e => cases (remove_of_bucket_error hb).symm.trans h
    | ok b => cases (remove_of_notMem hb hk).symm.trans h

omit [DecidableEq κ] in
theorem removeCurrent_of_none (h : r.cursorKey? = none) :
    r.removeCurrent = .error .noCurrentElement := by
  obtain ⟨order, chain, hr⟩ := r.sound
  cases hcursor : r.arena.cursor with
  | none =>
    rw [removeCurrent, hcursor]
    rfl
  | some i =>
    have hi := isSome_key? hr i (hr.cursor_mem i hcursor)
    rw [cursorKey?, hcursor, Option.bind_some] at h
    rw [h] at hi
    cases hi

/-- The element under the cursor goes away, and the cursor moves on. -/
theorem removeCurrent_of_some (h : r.current? = some e) : ∃ r', r.removeCurrent = .ok (e, r') ∧
    r'.toList = r.toList.filter (·.1 ≠ e.1) ∧ r'.cursorKey? = following e.1 r.keys := by
  obtain ⟨i, hcursor, he⟩ := Option.bind_eq_some_iff.1 h
  obtain ⟨r', hunlink, hlist, hnext⟩ := unlink_eq he
  refine ⟨r', ?_, hlist, ?_⟩
  · rw [removeCurrent, hcursor, Option.bind_some, hunlink]
  · rw [hnext, if_pos]
    rw [cursorKey?_eq, h]
    rfl

/-! Changing a value. -/

/-- Change the value of an entry, if it is the one of the given key. -/
def changeAt (k : κ) (f : ν → ν) (e : κ × ν) : κ × ν := if e.1 = k then (e.1, f e.2) else e

omit [DecidableEq κ] in
theorem modifySlot_none (f : ν → ν) : r.modifySlot none f = r := rfl

omit [DecidableEq κ] in
theorem key?_modifySlot (c : Option Nat) (f : ν → ν) : (r.modifySlot c f).key? = r.key? := by
  funext i
  rw [key?, key?, modifySlot, Arena.slot?_modifyValue, Option.map_map]
  exact congrArg (Option.map · (r.arena.slot? i)) (funext fun s ↦ by
    rw [Function.comp]
    split <;> rfl)

omit [DecidableEq κ] in
theorem cursorKey?_modifySlot (c : Option Nat) (f : ν → ν) :
    (r.modifySlot c f).cursorKey? = r.cursorKey? := by
  rw [cursorKey?, cursorKey?, key?_modifySlot, modifySlot,
    (r.arena.modifyValue_frame c f).2.2.2.2.2.1]

omit [DecidableEq κ] in
theorem keys_modifySlot (c : Option Nat) (f : ν → ν) : (r.modifySlot c f).keys = r.keys := by
  obtain ⟨order, chain, h⟩ := r.sound
  have hkey := key?_modifySlot (r := r) c f
  rw [keys_eq h, ← hkey]
  exact keys_eq (h.modifyValue c f)

theorem toList_modifySlot (hi : r.key? i = some k) (f : ν → ν) :
    (r.modifySlot (some i) f).toList = r.toList.map (changeAt k f) := by
  obtain ⟨order, chain, h⟩ := r.sound
  rw [toList_eq (h.modifyValue (some i) f), toList_eq h, List.map_filterMap]
  refine List.filterMap_congr fun j hj ↦ ?_
  obtain ⟨s, hs⟩ := h.exists_slot hj
  rw [entryAt?, entryAt?, modifySlot, Arena.slot?_modifyValue, hs]
  simp only [Option.map_some, changeAt]
  have hkey : some i = some j ↔ s.key = k := by
    have hj : r.key? j = some s.key := by rw [key?, hs]; rfl
    constructor
    · rintro ⟨⟩
      exact Option.some.inj (hj.symm.trans hi)
    · rintro rfl
      rw [key?_inj hi hj]
  by_cases hk : s.key = k
  · rw [if_pos (hkey.2 hk), if_pos hk]
  · rw [if_neg (mt hkey.1 hk), if_neg hk]

theorem toList_modify (k : κ) (f : ν → ν) :
    (r.modify k f).toList = r.toList.map (changeAt k f) := by
  rw [modify]
  cases hslot : r.slot? k with
  | some i => exact toList_modifySlot (slot?_eq_some_iff.1 hslot) f
  | none =>
    -- No entry has the key, so none is changed on the right hand side either.
    have hk := slot?_eq_none_iff.1 hslot
    rw [modifySlot_none, eq_comm]
    refine (List.map_congr_left fun e he ↦ ?_).trans (List.map_id _)
    have hne : e.1 ≠ k := fun heq ↦ hk (heq ▸ List.mem_map_of_mem he)
    exact if_neg hne

theorem toList_modifyCurrent (f : ν → ν) : (r.modifyCurrent f).toList =
    match r.cursorKey? with
    | some k => r.toList.map (changeAt k f)
    | none => r.toList := by
  obtain ⟨order, chain, h⟩ := r.sound
  rw [modifyCurrent, cursorKey?]
  cases hcursor : r.arena.cursor with
  | none => rfl
  | some i =>
    obtain ⟨k, hk⟩ := Option.isSome_iff_exists.1 (isSome_key? h i (h.cursor_mem i hcursor))
    rw [Option.bind_some, hk]
    exact toList_modifySlot hk f

end Changes

end Registry

end StreamRtp
