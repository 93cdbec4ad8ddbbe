/-!
# Chains of links

A chain is a list without repetitions whose members know their neighbours: a function says for each
member which one follows, another one which one precedes. `Linked` joins the two functions to the
list. Both families of chains of a registry, the buckets and the order, are of this kind, so what
adding and removing a member does to the links is said here once.

## Neighbours

`following` finds the neighbour of a member in a list. The neighbour before is the one that follows
in the reversed list, which is why a statement about the links forwards is one about the links
backwards, too: see `Linked.reverse`.
-/

namespace StreamRtp

/-! ## Neighbours in a list -/

section Following

variable {α : Type} [DecidableEq α] {a b x : α} {l : List α}

/-- The member of a list that follows a given one. -/
def following (a : α) : List α → Option α
  | [] => none
  | b :: l => if b = a then l.head? else following a l

@[simp] theorem following_nil (a : α) : following a [] = none := rfl

theorem following_cons (a b : α) (l : List α) :
    following a (b :: l) = if b = a then l.head? else following a l := rfl

@[simp] theorem following_cons_self (a : α) (l : List α) : following a (a :: l) = l.head? :=
  if_pos rfl

theorem following_of_notMem (h : a ∉ l) : following a l = none := by
  induction l with
  | nil => rfl
  | cons b l ih =>
    obtain ⟨hb, hl⟩ := not_or.1 (fun hor ↦ h (List.mem_cons.2 hor))
    rw [following_cons, if_neg (Ne.symm hb), ih hl]

theorem mem_of_following (h : following a l = some b) : b ∈ l := by
  induction l with
  | nil => cases h
  | cons c l ih =>
    rw [following_cons] at h
    split at h
    · exact List.mem_cons_of_mem c (List.mem_of_mem_head? h)
    · exact List.mem_cons_of_mem c (ih h)

theorem mem_of_following_left (h : following a l = some b) : a ∈ l :=
  Decidable.byContradiction fun hnot ↦ by rw [following_of_notMem hnot] at h; cases h

/-- Nothing follows the last member. -/
theorem following_of_getLast? (hl : l.Nodup) (h : l.getLast? = some a) : following a l = none := by
  induction l with
  | nil => rfl
  | cons b l ih =>
    obtain ⟨hb, hl⟩ := List.nodup_cons.1 hl
    cases l with
    | nil => rw [following_cons]; split <;> rfl
    | cons c l =>
      rw [List.getLast?_cons_cons] at h
      have hne : b ≠ a := fun heq ↦ hb (heq ▸ List.mem_of_getLast? h)
      rw [following_cons, if_neg hne, ih hl h]

/-- The first member follows no other one. -/
theorem head?_ne_of_following (hl : l.Nodup) (h : following a l = some b) : l.head? ≠ some b := by
  cases l with
  | nil => cases h
  | cons c l =>
    rintro heq
    cases heq
    have hb := (List.nodup_cons.1 hl).1
    rw [following_cons] at h
    split at h
    · exact hb (List.mem_of_mem_head? h)
    · exact hb (mem_of_following h)

/-- No member follows itself. -/
theorem ne_of_following (hl : l.Nodup) (h : following a l = some b) : a ≠ b := by
  induction l with
  | nil => cases h
  | cons c l ih =>
    obtain ⟨hc, hl⟩ := List.nodup_cons.1 hl
    rw [following_cons] at h
    split at h
    · rename_i hca
      exact fun hab ↦ hc (hca.trans hab ▸ List.mem_of_mem_head? h)
    · exact ih hl h

/-- Every member but the first one follows another one. -/
theorem exists_following (hl : l.Nodup) (hb : b ∈ l) (hhead : l.head? ≠ some b) :
    ∃ a, following a l = some b := by
  induction l with
  | nil => cases hb
  | cons c l ih =>
    obtain ⟨hc, hl⟩ := List.nodup_cons.1 hl
    have hcb : c ≠ b := fun heq ↦ hhead (congrArg some heq)
    have hb : b ∈ l := (List.mem_cons.1 hb).resolve_left (Ne.symm hcb)
    by_cases hfirst : l.head? = some b
    · exact ⟨c, by rw [following_cons_self, hfirst]⟩
    · obtain ⟨a, ha⟩ := ih hl hb hfirst
      have hca : c ≠ a := fun heq ↦ hc (heq ▸ mem_of_following_left ha)
      exact ⟨a, by rw [following_cons, if_neg hca, ha]⟩

theorem following_concat (hl : l.Nodup) (ha : a ∈ l) :
    following a (l ++ [x]) = if l.getLast? = some a then some x else following a l := by
  induction l with
  | nil => cases ha
  | cons b l ih =>
    obtain ⟨hb, hl⟩ := List.nodup_cons.1 hl
    rw [List.cons_append, following_cons, following_cons]
    by_cases hba : b = a
    · subst hba
      cases l with
      | nil => simp
      | cons c l =>
        -- It is not the last one, since it would occur a second time.
        have hlast : (b :: c :: l).getLast? ≠ some b := fun h ↦
          hb (List.mem_of_getLast? (by rwa [List.getLast?_cons_cons] at h))
        rw [if_pos rfl, if_neg hlast, if_pos rfl]
        rfl
    · have ha : a ∈ l := (List.mem_cons.1 ha).resolve_left (Ne.symm hba)
      rw [if_neg hba, if_neg hba, ih hl ha,
        List.getLast?_cons_of_ne_nil (List.ne_nil_of_mem ha)]

theorem head?_erase (hl : l.Nodup) :
    (l.erase x).head? = if l.head? = some x then following x l else l.head? := by
  cases l with
  | nil => rfl
  | cons b l =>
    by_cases hb : b = x
    · subst hb
      simp
    · rw [List.erase_cons_tail (by simpa using hb)]
      simp [hb]

theorem reverse_erase (hl : l.Nodup) : (l.erase x).reverse = l.reverse.erase x := by
  rw [hl.erase_eq_filter, ((List.reverse_perm l).nodup_iff.2 hl).erase_eq_filter,
    List.filter_reverse]

/-- Leaving a member out makes its two neighbours neighbours of each other. -/
theorem following_erase (hl : l.Nodup) (ha : a ≠ x) :
    following a (l.erase x) = if following a l = some x then following x l else following a l := by
  induction l with
  | nil => rfl
  | cons b l ih =>
    obtain ⟨hb, hl⟩ := List.nodup_cons.1 hl
    by_cases hbx : b = x
    · subst hbx
      rw [List.erase_cons_head, following_cons, if_neg (Ne.symm ha), following_cons_self]
      -- Nothing in the rest leads back to the member that is left out.
      have hnot : following a l ≠ some b := fun h ↦ hb (mem_of_following h)
      rw [if_neg hnot]
    · rw [List.erase_cons_tail (by simpa using hbx), following_cons, following_cons,
        following_cons, if_neg hbx]
      by_cases hba : b = a
      · rw [if_pos hba, if_pos hba, head?_erase hl]
      · rw [if_neg hba, if_neg hba, ih hl]

theorem following_reverse (hl : l.Nodup) :
    following b l.reverse = some a ↔ following a l = some b := by
  induction l with
  | nil => simp
  | cons c l ih =>
    have hall := hl
    obtain ⟨hc, hl⟩ := List.nodup_cons.1 hl
    rw [List.reverse_cons, following_cons]
    -- The first member comes to the end. It only matters to `b` if that was the second one.
    by_cases hb : b ∈ l
    · rw [following_concat ((List.reverse_perm l).nodup_iff.2 hl) (List.mem_reverse.2 hb),
        List.getLast?_reverse]
      by_cases hca : c = a
      · subst hca
        rw [if_pos rfl]
        by_cases hhead : l.head? = some b
        · simp [hhead]
        · rw [if_neg hhead]
          have hnot : following b l.reverse ≠ some c := fun h ↦
            hc (List.mem_reverse.1 (mem_of_following h))
          exact iff_of_false hnot hhead
      · rw [if_neg hca]
        by_cases hhead : l.head? = some b
        · rw [if_pos hhead]
          exact iff_of_false (fun h ↦ hca (Option.some.inj h))
            (fun h ↦ head?_ne_of_following hl h hhead)
        · rw [if_neg hhead, ih hl]
    · -- Nothing follows `b` in the reversed list, because it is the last one or not in it.
      have hnot : following b (l.reverse ++ [c]) ≠ some a := by
        intro h
        have hbc : b = c := by
          have := mem_of_following_left h
          rw [List.mem_append, List.mem_reverse, List.mem_singleton] at this
          exact this.resolve_left hb
        subst hbc
        have hnodup : (l.reverse ++ [b]).Nodup := by
          rw [← List.reverse_cons]
          exact (List.reverse_perm _).nodup_iff.2 hall
        rw [following_of_getLast? hnodup List.getLast?_concat] at h
        cases h
      refine iff_of_false hnot ?_
      split
      · exact fun h ↦ hb (List.mem_of_mem_head? h)
      · exact fun h ↦ hb (mem_of_following h)

end Following

/-! ## Linked chains -/

/-- The members of a list know which member follows them and which one precedes them. -/
structure Linked (next prev : Nat → Option Nat) (l : List Nat) : Prop where
  nodup : l.Nodup
  next_eq : ∀ i ∈ l, next i = following i l
  prev_eq : ∀ i ∈ l, prev i = following i l.reverse

namespace Linked

variable {next prev next' prev' : Nat → Option Nat} {l : List Nat} {i x : Nat}

theorem nil : Linked next prev [] := ⟨List.nodup_nil, nofun, nofun⟩

/-- A chain can be read from its other end. -/
theorem reverse (h : Linked next prev l) : Linked prev next l.reverse where
  nodup := (List.reverse_perm l).nodup_iff.2 h.nodup
  next_eq i hi := h.prev_eq i (List.mem_reverse.1 hi)
  prev_eq i hi := by rw [List.reverse_reverse, h.next_eq i (List.mem_reverse.1 hi)]

/-- A chain whose links have not changed. -/
theorem congr (h : Linked next prev l) (hnext : ∀ i ∈ l, next' i = next i)
    (hprev : ∀ i ∈ l, prev' i = prev i) : Linked next' prev' l where
  nodup := h.nodup
  next_eq i hi := (hnext i hi).trans (h.next_eq i hi)
  prev_eq i hi := (hprev i hi).trans (h.prev_eq i hi)

/-- The links of a member agree with each other. -/
theorem prev_eq_some_iff (h : Linked next prev l) (hx : x ∈ l) :
    prev x = some i ↔ following i l = some x := by
  rw [h.prev_eq x hx, following_reverse h.nodup]

theorem next_eq_some_iff (h : Linked next prev l) (hx : x ∈ l) :
    next x = some i ↔ following i l.reverse = some x := by
  rw [h.next_eq x hx, following_reverse h.nodup]

/-- The first member is the one that has no link backwards. -/
theorem prev_eq_none_iff (h : Linked next prev l) (hx : x ∈ l) :
    prev x = none ↔ l.head? = some x := by
  rw [Option.eq_none_iff_forall_ne_some]
  constructor
  · intro hnone
    refine Decidable.byContradiction fun hhead ↦ ?_
    obtain ⟨a, ha⟩ := exists_following h.nodup hx hhead
    exact hnone a ((h.prev_eq_some_iff hx).2 ha)
  · intro hhead a ha
    exact head?_ne_of_following h.nodup ((h.prev_eq_some_iff hx).1 ha) hhead

theorem ne_of_next (h : Linked next prev l) (hx : x ∈ l) (hi : next x = some i) : i ≠ x :=
  (ne_of_following h.nodup ((h.next_eq x hx).symm.trans hi)).symm

theorem mem_of_next (h : Linked next prev l) (hx : x ∈ l) (hi : next x = some i) : i ∈ l :=
  mem_of_following ((h.next_eq x hx).symm.trans hi)

/-- A new member in front: it is linked to the former first member, and that one to it. -/
theorem cons (h : Linked next prev l) (hx : x ∉ l) (hnext_x : next' x = l.head?)
    (hprev_x : prev' x = none) (hnext : ∀ i ∈ l, next' i = next i)
    (hprev : ∀ i ∈ l, prev' i = if l.head? = some i then some x else prev i) :
    Linked next' prev' (x :: l) where
  nodup := List.nodup_cons.2 ⟨hx, h.nodup⟩
  next_eq i hi := by
    by_cases hix : i = x
    · rw [hix, hnext_x, following_cons_self]
    · have hi : i ∈ l := (List.mem_cons.1 hi).resolve_left hix
      rw [hnext i hi, h.next_eq i hi, following_cons, if_neg (Ne.symm hix)]
  prev_eq i hi := by
    have hrev := h.reverse.nodup
    rw [List.reverse_cons]
    by_cases hix : i = x
    · subst hix
      rw [hprev_x, following_of_getLast? _ List.getLast?_concat]
      rw [← List.reverse_cons]
      exact (List.reverse_perm _).nodup_iff.2 (List.nodup_cons.2 ⟨hx, h.nodup⟩)
    · have hi : i ∈ l := (List.mem_cons.1 hi).resolve_left hix
      rw [hprev i hi, h.prev_eq i hi, following_concat hrev (List.mem_reverse.2 hi),
        List.getLast?_reverse]

/-- A new member at the end. -/
theorem concat (h : Linked next prev l) (hx : x ∉ l) (hprev_x : prev' x = l.getLast?)
    (hnext_x : next' x = none) (hprev : ∀ i ∈ l, prev' i = prev i)
    (hnext : ∀ i ∈ l, next' i = if l.getLast? = some i then some x else next i) :
    Linked next' prev' (l ++ [x]) := by
  -- From the other end, the new member comes in front.
  have hrev : Linked prev' next' (x :: l.reverse) :=
    h.reverse.cons (mt List.mem_reverse.1 hx) (by rw [hprev_x, List.head?_reverse]) hnext_x
      (fun i hi ↦ hprev i (List.mem_reverse.1 hi))
      fun i hi ↦ by rw [hnext i (List.mem_reverse.1 hi), List.head?_reverse]
  simpa using hrev.reverse

/-- Leaving a member out: its neighbours are linked to each other. -/
theorem erase (h : Linked next prev l) (hx : x ∈ l)
    (hnext : ∀ i ∈ l, i ≠ x → next' i = if prev x = some i then next x else next i)
    (hprev : ∀ i ∈ l, i ≠ x → prev' i = if next x = some i then prev x else prev i) :
    Linked next' prev' (l.erase x) where
  nodup := h.nodup.erase x
  next_eq i hi := by
    obtain ⟨hix, hi⟩ := h.nodup.mem_erase_iff.1 hi
    rw [hnext i hi hix, following_erase h.nodup hix, h.next_eq i hi, h.next_eq x hx]
    simp only [h.prev_eq_some_iff hx]
  prev_eq i hi := by
    obtain ⟨hix, hi⟩ := h.nodup.mem_erase_iff.1 hi
    rw [hprev i hi hix, reverse_erase h.nodup, following_erase h.reverse.nodup hix, h.prev_eq i hi,
      h.prev_eq x hx]
    simp only [h.next_eq_some_iff hx]

/-- What a chain begins with once a member is left out. -/
theorem head?_erase (h : Linked next prev l) (hx : x ∈ l) :
    (l.erase x).head? = if prev x = none then next x else l.head? := by
  rw [StreamRtp.head?_erase h.nodup, h.next_eq x hx]
  simp only [h.prev_eq_none_iff hx]

/-- What a chain ends with once a member is left out. -/
theorem getLast?_erase (h : Linked next prev l) (hx : x ∈ l) :
    (l.erase x).getLast? = if next x = none then prev x else l.getLast? := by
  rw [← List.head?_reverse, ← List.head?_reverse, reverse_erase h.nodup,
    h.reverse.head?_erase (List.mem_reverse.2 hx)]

end Linked

/-! ## Walking along a chain -/

/-- The members that are met from a given one on by following links, at most a given number. -/
def walk (next : Nat → Option Nat) : Nat → Option Nat → List Nat
  | 0, _ => []
  | _, none => []
  | steps + 1, some i => i :: walk next steps (next i)

/-- With enough steps a walk from the first member meets all of them in order. -/
theorem walk_eq {next : Nat → Option Nat} {l : List Nat} {steps : Nat} (hl : l.Nodup)
    (hnext : ∀ i ∈ l, next i = following i l) (hsteps : l.length ≤ steps) :
    walk next steps l.head? = l := by
  induction l generalizing steps with
  | nil => cases steps <;> rfl
  | cons a l ih =>
    obtain ⟨ha, hl⟩ := List.nodup_cons.1 hl
    have hrest : ∀ i ∈ l, next i = following i l := by
      intro i hi
      have hne : a ≠ i := fun heq ↦ ha (heq ▸ hi)
      rw [hnext i (List.mem_cons_of_mem a hi), following_cons, if_neg hne]
    cases steps with
    | zero => cases hsteps
    | succ steps =>
      rw [List.head?_cons, walk, hnext a List.mem_cons_self, following_cons_self,
        ih hl hrest (Nat.le_of_succ_le_succ hsteps)]

theorem Linked.walk_eq {next prev : Nat → Option Nat} {l : List Nat} {steps : Nat}
    (h : Linked next prev l) (hsteps : l.length ≤ steps) : walk next steps l.head? = l :=
  StreamRtp.walk_eq h.nodup h.next_eq hsteps

end StreamRtp
