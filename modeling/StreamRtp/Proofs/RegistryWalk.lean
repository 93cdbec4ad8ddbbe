import StreamRtp.Proofs.RegistryContent

/-!
# Walks over a registry

A walk with the cursor, which may change or remove the element it is at, is a pass over the list of
entries. The invariant of the walk splits the entries into those that are done and those that are
still to come, with the cursor on the first one to come.
-/

namespace StreamRtp

/-- The first member behind a given one. -/
theorem following_append_self {α : Type} [DecidableEq α] {a : α} {l m : List α} (h : a ∉ l) :
    following a (l ++ a :: m) = m.head? := by
  induction l with
  | nil => exact following_cons_self a m
  | cons b l ih =>
    obtain ⟨hb, hl⟩ := not_or.1 (mt List.mem_cons.2 h)
    rw [List.cons_append, following_cons, if_neg (Ne.symm hb), ih hl]

variable {κ ν ς : Type}

/-- Visit entries one after the other. The visitor sees what it has made of the entries before; it
keeps an entry with a new value or leaves it out. -/
def sweep (visit : κ → ν → ς → Option ν × ς) : List (κ × ν) → ς → List (κ × ν) × ς
  | [], s => ([], s)
  | (k, v) :: entries, s =>
    let out := visit k v s
    let rest := sweep visit entries out.2
    ((out.1.map (k, ·)).toList ++ rest.1, rest.2)

/-- What every visit preserves is preserved by the walk. -/
theorem sweep_induction {visit : κ → ν → ς → Option ν × ς} {P : ς → Prop}
    (hvisit : ∀ k v s, P s → P (visit k v s).2) (entries : List (κ × ν)) {s : ς} (h : P s) :
    P (sweep visit entries s).2 := by
  induction entries generalizing s with
  | nil => exact h
  | cons e entries ih => exact ih (hvisit e.1 e.2 s h)

/-- A walk that gives every entry a new value. -/
theorem sweep_map (f : ν → ν) (entries : List (κ × ν)) (s : ς) :
    sweep (fun _ v s ↦ (some (f v), s)) entries s = (entries.map fun e ↦ (e.1, f e.2), s) := by
  induction entries with
  | nil => rfl
  | cons e entries ih =>
    rw [sweep, ih]
    rfl

namespace Registry

variable {table : BucketTable κ} [DecidableEq κ] {r : Registry κ ν table} {done todo : List (κ × ν)}
  {k : κ} {v : ν}

/-! ## An entry in the middle -/

section Middle

variable (h : r.toList = done ++ (k, v) :: todo)

include h

omit [DecidableEq κ] in
theorem notMem_done_of_toList : k ∉ done.map (·.1) ∧ k ∉ todo.map (·.1) := by
  have hnodup := r.nodup_keys
  rw [keys, h, List.map_append, List.map_cons, List.nodup_append] at hnodup
  obtain ⟨-, htodo, hdone⟩ := hnodup
  exact ⟨fun hk ↦ hdone k hk k List.mem_cons_self rfl, (List.nodup_cons.1 htodo).1⟩

theorem following_of_toList : following k r.keys = todo.head?.map (·.1) := by
  rw [keys, h, List.map_append, List.map_cons, following_append_self (notMem_done_of_toList h).1,
    List.head?_map]

theorem current?_of_toList (hcursor : r.cursorKey? = some k) : r.current? = some (k, v) := by
  obtain ⟨i, hi⟩ := mem_toList.1 (h ▸ List.mem_append_right done List.mem_cons_self)
  rw [current?_eq, hcursor, Option.bind_some]
  exact find?_toList hi

theorem filter_of_toList : r.toList.filter (·.1 ≠ k) = done ++ todo := by
  obtain ⟨hdone, htodo⟩ := notMem_done_of_toList h
  have hkeep : ∀ {l : List (κ × ν)}, k ∉ l.map (·.1) → l.filter (·.1 ≠ k) = l := fun hk ↦
    List.filter_eq_self.2 fun e he ↦ decide_eq_true fun heq ↦ hk (heq ▸ List.mem_map_of_mem he)
  rw [h, List.filter_append, List.filter_cons_of_neg (by simp), hkeep hdone, hkeep htodo]

theorem map_changeAt_of_toList (f : ν → ν) :
    r.toList.map (changeAt k f) = done ++ (k, f v) :: todo := by
  obtain ⟨hdone, htodo⟩ := notMem_done_of_toList h
  have hkeep : ∀ {l : List (κ × ν)}, k ∉ l.map (·.1) → l.map (changeAt k f) = l := by
    intro l hk
    refine (List.map_congr_left fun e he ↦ ?_).trans (List.map_id l)
    have hne : e.1 ≠ k := fun heq ↦ hk (heq ▸ List.mem_map_of_mem he)
    exact if_neg hne
  rw [h, List.map_append, List.map_cons, hkeep hdone, hkeep htodo, changeAt, if_pos rfl]

end Middle

/-! ## The walk -/

/-- From the first entry that is still to come the walk goes over all of those. -/
theorem scanFrom_eq_sweep (visit : κ → ν → ς → Option ν × ς) {steps : Nat} {s : ς}
    (done : List (κ × ν)) (h : r.toList = done ++ todo)
    (hcursor : r.cursorKey? = todo.head?.map (·.1)) (hsteps : todo.length ≤ steps) :
    (scanFrom visit steps r s).1.toList = done ++ (sweep visit todo s).1 ∧
      (scanFrom visit steps r s).2 = (sweep visit todo s).2 := by
  induction todo generalizing r done steps s with
  | nil =>
    have hcurrent : r.current? = none := by rw [current?_eq, hcursor]; rfl
    -- The cursor has run off the end, and the walk stops whatever is left of its steps.
    cases steps with
    | zero => exact ⟨h, rfl⟩
    | succ steps =>
      rw [scanFrom, hcurrent]
      exact ⟨h, rfl⟩
  | cons e todo ih =>
    obtain ⟨k, v⟩ := e
    cases steps with
    | zero => cases hsteps
    | succ steps =>
      have hsteps := Nat.le_of_succ_le_succ hsteps
      have hcurrent := current?_of_toList h hcursor
      rw [scanFrom, hcurrent, sweep]
      dsimp only
      -- What the visitor makes of the entry goes to the end of the entries that are done.
      generalize visit k v s = out
      obtain ⟨kept, s'⟩ := out
      cases kept with
      | none =>
        obtain ⟨r', hremove, hlist, hnext⟩ := removeCurrent_of_some hcurrent
        simp only [hremove]
        rw [filter_of_toList h] at hlist
        exact ih _ hlist (hnext.trans (following_of_toList h)) hsteps
      | some v' =>
        have hlist : (r.modifyCurrent fun _ ↦ v').next.toList = (done ++ [(k, v')]) ++ todo := by
          rw [toList_next, toList_modifyCurrent, hcursor]
          exact (map_changeAt_of_toList h _).trans (List.append_cons ..)
        have hnext : (r.modifyCurrent fun _ ↦ v').next.cursorKey? = todo.head?.map (·.1) := by
          have hkeys : (r.modifyCurrent fun _ ↦ v').keys = r.keys := keys_modifySlot _ _
          rw [cursorKey?_next, hkeys, modifyCurrent, cursorKey?_modifySlot, hcursor]
          exact following_of_toList h
        obtain ⟨hall, hlast⟩ := ih (s := s') _ hlist hnext hsteps
        exact ⟨hall.trans (List.append_assoc ..), hlast⟩

/-- A walk over a registry is a pass over its entries. -/
theorem scan_eq_sweep (visit : κ → ν → ς → Option ν × ς) (r : Registry κ ν table) (s : ς) :
    (r.scan visit s).1.toList = (sweep visit r.toList s).1 ∧
      (r.scan visit s).2 = (sweep visit r.toList s).2 := by
  refine scanFrom_eq_sweep visit [] r.toList_first ?_ (Nat.le_of_eq r.size_eq.symm)
  rw [cursorKey?_first, keys, List.head?_map]

end Registry

end StreamRtp
