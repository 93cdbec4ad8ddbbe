import StreamRtp.Proofs.RegistryWalk
import StreamRtp.Registry.Request

/-!
# Loops with the cursor

A loop goes on while the cursor is on an element, and at each element either moves on or removes it.
Nothing bounds such a loop in advance. `Loop` is the relation between the state it starts from, what
it looks at and the state it ends in, so that a loop ends if there is anything it is related to, and
what it comes to is unique.

The invariant is the one of the bounded walk: the entries are split into those that are done and
those that are still to come, with the cursor on the first of the latter. Going backwards, those
that are still to come stand in front, and the cursor is on the last of them.

A walk that keeps and removes, and has as many steps as there are entries, comes to what the loop
comes to. So the bound is never what ends it.
-/

namespace StreamRtp

/-! ## Loops -/

section Loops

variable {τ ε : Type}

/-- As long as there is something to look at, act on it. In between is what was looked at. -/
inductive Loop (look : τ → Option ε) (act : ε → τ → τ) : τ → List ε → τ → Prop
  | stop {t : τ} (h : look t = none) : Loop look act t [] t
  | turn {t t' : τ} {x : ε} {seen : List ε} (h : look t = some x)
    (hrest : Loop look act (act x t) seen t') : Loop look act t (x :: seen) t'

variable {look : τ → Option ε} {act : ε → τ → τ} {t t' t'' : τ} {seen seen' : List ε}

/-- A loop has one course only. -/
theorem Loop.unique (h : Loop look act t seen t') (h' : Loop look act t seen' t'') :
    seen = seen' ∧ t' = t'' := by
  induction h generalizing seen' with
  | stop h =>
    rcases h' with _ | ⟨h', -⟩
    · exact ⟨rfl, rfl⟩
    · cases h.symm.trans h'
  | turn h _ ih =>
    rcases h' with h' | ⟨h', hrest'⟩
    · cases h.symm.trans h'
    · obtain rfl := Option.some.inj (h.symm.trans h')
      obtain ⟨hseen, hend⟩ := ih hrest'
      exact ⟨congrArg _ hseen, hend⟩

/-- There is nothing left to look at. -/
theorem Loop.look_eq_none (h : Loop look act t seen t') : look t' = none := by
  induction h with
  | stop h => exact h
  | turn _ _ ih => exact ih

end Loops

/-! ## Choices -/

/-- What is done at an element. -/
inductive Choice where
  | keep
  | remove
  deriving DecidableEq, Repr

namespace Choice

variable {κ ν : Type}

/-- The request that carries a choice out. An element is kept by moving on. -/
def request : Choice → RegistryRequest κ ν
  | keep => .next
  | remove => .removeCurrent

/-- The entries that were kept. -/
def kept (visits : List ((κ × ν) × Choice)) : List (κ × ν) := (visits.filter (·.2 = keep)).map (·.1)

theorem kept_cons (e : κ × ν) (choice : Choice) (visits : List ((κ × ν) × Choice)) :
    kept ((e, choice) :: visits) = (if choice = keep then [e] else []) ++ kept visits := by
  cases choice <;> rfl

end Choice

/-- A value that takes its own place changes nothing. -/
theorem Arena.modifyValue_self {κ ν : Type} {a : Arena κ ν} {i : Nat} {s : Slot κ ν}
    (h : a.slot? i = some s) : a.modifyValue (some i) (fun _ ↦ s.value) = a := by
  have hslots : a.slots.modify i (Option.map fun t ↦ { t with value := s.value }) = a.slots := by
    refine Array.ext_getElem? fun j ↦ ?_
    rw [Array.getElem?_modify]
    by_cases hij : i = j
    · subst hij
      rw [slot?, Option.join_eq_some_iff] at h
      rw [if_pos rfl, h]
      rfl
    · rw [if_neg hij]
  rw [modifyValue, modifySlot, hslots]

namespace Registry

variable {κ ν ς : Type} {table : BucketTable κ} [DecidableEq κ] {r : Registry κ ν table}
  {done todo : List (κ × ν)} {k : κ} {v : ν}

theorem get?_of_mem (h : (k, v) ∈ r.toList) : r.get? k = some v := by
  obtain ⟨i, hi⟩ := mem_toList.1 h
  rw [get?_eq, find?_toList hi]
  rfl

theorem get?_of_notMem (h : k ∉ r.keys) : r.get? k = none := by
  rw [get?_eq, find?_toList_eq_none h]
  rfl

/-! ## Scans with removal -/

/-- The element under the cursor with what is chosen for it. The choice may depend on the registry
and on a state of its own. -/
def lookChoosing (choose : κ × ν → Registry κ ν table × ς → Choice × ς)
    (t : Registry κ ν table × ς) : Option ((κ × ν) × Choice) :=
  t.1.current?.map fun e ↦ (e, (choose e t).1)

/-- Carry a choice out. -/
def actChoosing (choose : κ × ν → Registry κ ν table × ς → Choice × ς)
    (visit : (κ × ν) × Choice) (t : Registry κ ν table × ς) : Registry κ ν table × ς :=
  ((t.1.perform visit.2.request).2, (choose visit.1 t).2)

omit [DecidableEq κ] in
/-- The cursor is on an element unless it is empty. -/
theorem cursor_eq_none (h : r.current? = none) : r.arena.cursor = none := by
  have hkey := r.cursorKey?_eq
  rw [h] at hkey
  cases hcursor : r.arena.cursor with
  | none => rfl
  | some i =>
    obtain ⟨order, chain, hr⟩ := r.sound
    have hi := isSome_key? hr i (hr.cursor_mem i hcursor)
    rw [cursorKey?, hcursor, Option.bind_some] at hkey
    rw [hkey] at hi
    cases hi

theorem current?_of_cursorKey? (h : r.cursorKey? = none) : r.current? = none := by
  rw [current?_eq, h]
  rfl

/-- Whatever is chosen, the element is done and the cursor is on the one that follows it. -/
theorem perform_choice (h : r.toList = done ++ (k, v) :: todo) (hcursor : r.cursorKey? = some k)
    (choice : Choice) :
    (r.perform choice.request).2.toList
        = (done ++ if choice = .keep then [(k, v)] else []) ++ todo ∧
      (r.perform choice.request).2.cursorKey? = todo.head?.map (·.1) := by
  cases choice with
  | keep =>
    refine ⟨(toList_next r).trans (h.trans (List.append_cons ..)), (cursorKey?_next r).trans ?_⟩
    rw [hcursor]
    exact following_of_toList h
  | remove =>
    obtain ⟨rest, hremove, hlist, hnext⟩ := removeCurrent_of_some (current?_of_toList h hcursor)
    rw [Choice.request, perform, hremove, if_neg (by decide), List.append_nil]
    exact ⟨hlist.trans (filter_of_toList h), hnext.trans (following_of_toList h)⟩

/-- From the first entry that is still to come the loop goes over all of those, and ends. -/
theorem loop_choosing (choose : κ × ν → Registry κ ν table × ς → Choice × ς)
    (done : List (κ × ν)) (h : r.toList = done ++ todo)
    (hcursor : r.cursorKey? = todo.head?.map (·.1)) (s : ς) : ∃ visits r' s',
      Loop (lookChoosing choose) (actChoosing choose) (r, s) visits (r', s') ∧
      visits.map (·.1) = todo ∧ r'.toList = done ++ Choice.kept visits := by
  induction todo generalizing r done s with
  | nil =>
    refine ⟨[], r, s, .stop ?_, rfl, h⟩
    rw [lookChoosing, current?_of_cursorKey? hcursor]
    rfl
  | cons e todo ih =>
    have hcurrent := current?_of_toList h hcursor
    obtain ⟨hlist, hnext⟩ := perform_choice h hcursor (choose e (r, s)).1
    obtain ⟨visits, r', s', hloop, hvisits, hkept⟩ := ih _ hlist hnext (choose e (r, s)).2
    refine ⟨(e, (choose e (r, s)).1) :: visits, r', s', .turn ?_ hloop, ?_, ?_⟩
    · rw [lookChoosing, hcurrent]
      rfl
    · rw [List.map_cons, hvisits]
    · rw [hkept, Choice.kept_cons, List.append_assoc]

omit [DecidableEq κ] in
theorem cursorKey?_first_eq_head? (r : Registry κ ν table) :
    r.first.cursorKey? = r.toList.head?.map (·.1) := by
  rw [cursorKey?_first, keys, List.head?_map]

/-- A scan visits the entries in their order, and leaves those that it keeps. -/
theorem visits_of_loop {choose : κ × ν → Registry κ ν table × ς → Choice × ς} {s : ς}
    {visits : List ((κ × ν) × Choice)} {t : Registry κ ν table × ς}
    (h : Loop (lookChoosing choose) (actChoosing choose) (r.first, s) visits t) :
    visits.map (·.1) = r.toList ∧ t.1.toList = Choice.kept visits := by
  obtain ⟨seen, r', s', hloop, hseen, hkept⟩ :=
    loop_choosing choose [] r.toList_first r.cursorKey?_first_eq_head? s
  obtain ⟨rfl, rfl⟩ := hloop.unique h
  exact ⟨hseen, hkept⟩

/-! ## The way back -/

/-- Move back, whatever the element is. -/
def actBackwards (_ : κ × ν) (r : Registry κ ν table) : Registry κ ν table :=
  (r.perform .previous).2

theorem preceding_of_toList (h : r.toList = done ++ (k, v) :: todo) :
    following k r.keys.reverse = done.getLast?.map (·.1) := by
  have hk : k ∉ (todo.map (·.1)).reverse := mt List.mem_reverse.1 (notMem_done_of_toList h).2
  rw [keys, h, List.map_append, List.map_cons, List.reverse_append, List.reverse_cons,
    List.append_assoc, List.singleton_append, following_append_self hk, List.head?_reverse,
    List.getLast?_map]

/-- From the last entry that is still to come the loop goes back over all of those, and ends. -/
theorem loop_previous (h : r.toList = todo.reverse ++ done)
    (hcursor : r.cursorKey? = todo.head?.map (·.1)) :
    ∃ r', Loop current? actBackwards r todo r' ∧ r'.toList = r.toList := by
  induction todo generalizing r done with
  | nil => exact ⟨r, .stop (current?_of_cursorKey? hcursor), rfl⟩
  | cons e todo ih =>
    have h : r.toList = todo.reverse ++ e :: done := by
      rw [h, List.reverse_cons, List.append_assoc, List.singleton_append]
    have hback : r.previous.cursorKey? = todo.head?.map (·.1) := by
      rw [cursorKey?_previous, hcursor, List.head?_cons, Option.map_some, Option.bind_some,
        preceding_of_toList h, List.getLast?_reverse]
    obtain ⟨r', hrest, hlist⟩ := ih (r := r.previous) h hback
    exact ⟨r', .turn (current?_of_toList h hcursor) hrest, hlist⟩

theorem loop_from_last (r : Registry κ ν table) : ∃ r',
    Loop current? actBackwards r.last r.toList.reverse r' ∧
      r'.toList = r.toList := by
  have hsplit : r.last.toList = r.toList.reverse.reverse ++ [] := by
    rw [toList_last, List.reverse_reverse, List.append_nil]
  have hcursor : r.last.cursorKey? = r.toList.reverse.head?.map (·.1) := by
    rw [cursorKey?_last, keys, List.getLast?_map, List.head?_reverse]
  exact loop_previous hsplit hcursor

/-! ## Lookup after a scan -/

section Lookup

variable {r' : Registry κ ν table} {visits : List ((κ × ν) × Choice)}
  (hvisits : visits.map (·.1) = r.toList) (hkept : r'.toList = Choice.kept visits)

include hvisits

omit [DecidableEq κ] in
theorem nodup_visits : (visits.map (·.1.1)).Nodup := by
  have hkeys := r.nodup_keys
  rw [keys, ← hvisits, List.map_map] at hkeys
  exact hkeys

include hkept

/-- An entry that was kept is found as before. -/
theorem lookup_of_keep (h : ((k, v), Choice.keep) ∈ visits) :
    r'.contains k = true ∧ r'.get? k = r.get? k ∧ r.get? k = some v := by
  have hbefore : (k, v) ∈ r.toList := hvisits ▸ List.mem_map_of_mem h
  have hafter : (k, v) ∈ r'.toList :=
    hkept ▸ List.mem_map_of_mem (List.mem_filter.2 ⟨h, decide_eq_true rfl⟩)
  have hget := get?_of_mem hbefore
  exact ⟨contains_iff.2 (List.mem_map_of_mem hafter), (get?_of_mem hafter).trans hget.symm, hget⟩

/-- The key of an entry that was removed is gone. -/
theorem lookup_of_remove (h : ((k, v), Choice.remove) ∈ visits) :
    r'.contains k = false ∧ r'.get? k = none := by
  -- The keys are met once, so no other visit can have kept this one.
  have hgone : k ∉ r'.keys := by
    rw [keys, hkept, Choice.kept, List.map_map, List.mem_map]
    rintro ⟨visit, hvisit, hk⟩
    obtain ⟨hvisit, hkeep⟩ := List.mem_filter.1 hvisit
    rw [List.inj_on_of_nodup_map (nodup_visits hvisits) hvisit h hk] at hkeep
    cases of_decide_eq_true hkeep
  exact ⟨Bool.eq_false_iff.2 (mt contains_iff.1 hgone), get?_of_notMem hgone⟩

end Lookup

/-! ## Both loops -/

/-- A scan that removes what it chooses to remove ends. It meets every entry once and in order,
whatever it chooses, and those that it kept are left. Going backwards, a loop meets every entry once
in the reverse order. -/
theorem full_scan (choose : κ × ν → Registry κ ν table × ς → Choice × ς)
    (r : Registry κ ν table) (s : ς) :
    (∃ visits t, Loop (lookChoosing choose) (actChoosing choose) (r.first, s) visits t) ∧
    (∀ visits r' s',
      Loop (lookChoosing choose) (actChoosing choose) (r.first, s) visits (r', s') →
        visits.map (·.1) = r.toList ∧ (visits.map (·.1.1)).Nodup ∧
        r'.toList = Choice.kept visits ∧ r'.arena.cursor = none ∧
        (∀ k v, ((k, v), Choice.keep) ∈ visits →
          r'.contains k = true ∧ r'.get? k = r.get? k ∧ r.get? k = some v) ∧
        ∀ k v, ((k, v), Choice.remove) ∈ visits → r'.contains k = false ∧ r'.get? k = none) ∧
    (∃ seen r', Loop current? actBackwards r.last seen r') ∧
    ∀ seen r', Loop current? actBackwards r.last seen r' →
      seen = r.toList.reverse ∧ (seen.map (·.1)).Nodup ∧ r'.toList = r.toList ∧
        r'.arena.cursor = none := by
  obtain ⟨visits, r', s', hloop, -⟩ :=
    loop_choosing choose [] r.toList_first r.cursorKey?_first_eq_head? s
  obtain ⟨back, hback, hsame⟩ := r.loop_from_last
  refine ⟨⟨_, _, hloop⟩, fun visits r' s' h ↦ ?_, ⟨_, _, hback⟩, fun seen r' h ↦ ?_⟩
  · obtain ⟨hvisits, hkept⟩ := visits_of_loop h
    have hcurrent := Option.map_eq_none_iff.1 h.look_eq_none
    exact ⟨hvisits, nodup_visits hvisits, hkept, cursor_eq_none hcurrent,
      fun k v ↦ lookup_of_keep hvisits hkept, fun k v ↦ lookup_of_remove hvisits hkept⟩
  · obtain ⟨rfl, rfl⟩ := hback.unique h
    have hnodup : (r.toList.reverse.map (·.1)).Nodup := by
      rw [List.map_reverse]
      exact List.nodup_reverse.2 r.nodup_keys
    exact ⟨rfl, hnodup, hsame, cursor_eq_none h.look_eq_none⟩

/-! ## The bounded walk -/

/-- The visitor that carries choices out in a bounded walk. -/
def visitChoosing (choose : κ → ν → ς → Choice × ς) (k : κ) (v : ν) (s : ς) : Option ν × ς :=
  (if (choose k v s).1 = .keep then some v else none, (choose k v s).2)

omit [DecidableEq κ] in
theorem modifyCurrent_self (h : r.current? = some (k, v)) : r.modifyCurrent (fun _ ↦ v) = r := by
  obtain ⟨i, hcursor, hi⟩ := Option.bind_eq_some_iff.1 h
  obtain ⟨s, hs, he⟩ := Option.map_eq_some_iff.1 hi
  obtain ⟨rfl, rfl⟩ := Prod.mk.inj he
  have harena := Arena.modifyValue_self hs
  rw [modifyCurrent, hcursor, modifySlot]
  congr 1

/-- A walk with enough steps comes to what the loop comes to. -/
theorem scanFrom_of_loop (choose : κ → ν → ς → Choice × ς) {t t' : Registry κ ν table × ς}
    {visits : List ((κ × ν) × Choice)}
    (h : Loop (lookChoosing fun e t ↦ choose e.1 e.2 t.2)
      (actChoosing fun e t ↦ choose e.1 e.2 t.2) t visits t') {steps : Nat}
    (hsteps : visits.length ≤ steps) : scanFrom (visitChoosing choose) steps t.1 t.2 = t' := by
  induction h generalizing steps with
  | stop h =>
    have hcurrent := Option.map_eq_none_iff.1 h
    cases steps with
    | zero => rfl
    | succ steps => rw [scanFrom, hcurrent]
  | @turn t t' x seen h hrest ih =>
    obtain ⟨e, hcurrent, rfl⟩ := Option.map_eq_some_iff.1 h
    cases steps with
    | zero => cases hsteps
    | succ steps =>
      have ih := ih (Nat.le_of_succ_le_succ hsteps)
      rw [actChoosing] at ih
      rw [scanFrom, hcurrent]
      dsimp only at ih ⊢
      rw [visitChoosing]
      generalize choose e.1 e.2 t.2 = out at ih ⊢
      obtain ⟨choice, s'⟩ := out
      cases choice with
      | keep =>
        rw [if_pos rfl]
        dsimp only
        rw [modifyCurrent_self hcurrent]
        exact ih
      | remove =>
        obtain ⟨rest, hremove, -, -⟩ := removeCurrent_of_some hcurrent
        have hremoved : Choice.remove ≠ .keep := by decide
        rw [Choice.request, perform, hremove] at ih
        rw [if_neg hremoved]
        dsimp only
        rw [hremove]
        exact ih

/-- The walk that is bounded by the number of entries comes to what the loop comes to. -/
theorem scan_of_loop (choose : κ → ν → ς → Choice × ς) (r : Registry κ ν table) (s : ς)
    {visits : List ((κ × ν) × Choice)} {t : Registry κ ν table × ς}
    (h : Loop (lookChoosing fun e t ↦ choose e.1 e.2 t.2)
      (actChoosing fun e t ↦ choose e.1 e.2 t.2) (r.first, s) visits t) :
    r.scan (visitChoosing choose) s = t := by
  refine scanFrom_of_loop choose h (Nat.le_of_eq ?_)
  rw [size_eq, ← (visits_of_loop h).1, List.length_map]

theorem go_of_loop {r' : Registry κ ν table} {seen : List (κ × ν)}
    (h : Loop current? actBackwards r seen r') {steps : Nat}
    (hsteps : seen.length ≤ steps) : keysBackwards.go steps r = seen.map (·.1) := by
  induction h generalizing steps with
  | stop h =>
    cases steps with
    | zero => rfl
    | succ steps =>
      rw [keysBackwards.go, h]
      rfl
  | turn h hrest ih =>
    cases steps with
    | zero => cases hsteps
    | succ steps =>
      rw [keysBackwards.go, h, List.map_cons]
      exact congrArg _ (ih (Nat.le_of_succ_le_succ hsteps))

/-- The bounded walk backwards meets all keys. -/
theorem keysBackwards_eq (r : Registry κ ν table) : r.keysBackwards = r.keys.reverse := by
  obtain ⟨r', hloop, -⟩ := r.loop_from_last
  rw [keysBackwards, go_of_loop hloop (Nat.le_of_eq (by rw [List.length_reverse, size_eq])),
    List.map_reverse, keys]

end Registry

end StreamRtp
