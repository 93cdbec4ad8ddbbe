import StreamRtp.Proofs.RegistryContent
import StreamRtp.Registry.Request

/-!
# A registry is a list with a cursor

A roster is what a registry stands for: the entries in the order they were added, and the key of one
of them. It has neither buckets nor slots. Every request to a registry is answered as the roster of
the registry answers it, and leaves the registry whose roster is the one left by the request, so a
registry and a roster that start empty cannot be told apart by any run.

The table of buckets is asked only whether a key has a bucket.
-/

namespace StreamRtp

/-- Entries in the order they were added, and the key under the cursor. -/
structure Roster (κ ν : Type) where
  entries : List (κ × ν)
  cursor : Option κ

namespace Roster

variable {κ ν : Type}

/-- No entries, and a cursor that points nowhere. -/
def empty : Roster κ ν := ⟨[], none⟩

/-- The keys in the order they were added. -/
def keys (m : Roster κ ν) : List κ := m.entries.map (·.1)

section Keyed

variable [DecidableEq κ]

/-- The entry of a key. -/
def find? (m : Roster κ ν) (k : κ) : Option (κ × ν) := m.entries.find? (·.1 = k)

/-- The entry under the cursor. -/
def current? (m : Roster κ ν) : Option (κ × ν) := m.cursor.bind m.find?

/-- Add an entry at the end. -/
def add (m : Roster κ ν) (k : κ) (v : ν) : Roster κ ν := { m with entries := m.entries ++ [(k, v)] }

/-- Leave the entry of a key out. A cursor on it moves on to the entry that follows. -/
def without (m : Roster κ ν) (k : κ) : Roster κ ν where
  entries := m.entries.filter (·.1 ≠ k)
  cursor := if m.cursor = some k then following k m.keys else m.cursor

/-- Change the value of a key. -/
def change (m : Roster κ ν) (k : κ) (f : ν → ν) : Roster κ ν :=
  { m with entries := m.entries.map fun e ↦ if e.1 = k then (e.1, f e.2) else e }

/-- Change the value under the cursor. -/
def changeCurrent (m : Roster κ ν) (f : ν → ν) : Roster κ ν :=
  match m.cursor with
  | some k => m.change k f
  | none => m

/-- Carry a request out. -/
def perform (table : BucketTable κ) (m : Roster κ ν) :
    RegistryRequest κ ν → RegistryAnswer κ ν × Roster κ ν
  | .add k v =>
    match table.bucket k with
    | .error e => (.outcome (.error e), m)
    | .ok _ =>
      if k ∈ m.keys then (.outcome (.error .duplicateKey), m) else (.outcome (.ok ()), m.add k v)
  | .remove k =>
    match table.bucket k with
    | .error e => (.removed (.error e), m)
    | .ok _ =>
      match m.find? k with
      | none => (.removed (.error .keyNotFound), m)
      | some e => (.removed (.ok e.2), m.without k)
  | .contains k => (.flag (k ∈ m.keys), m)
  | .get k => (.value ((m.find? k).map (·.2)), m)
  | .modify k f => (.value (((m.change k f).find? k).map (·.2)), m.change k f)
  | .clear => (.done, empty)
  | .first => (.done, { m with cursor := m.keys.head? })
  | .last => (.done, { m with cursor := m.keys.getLast? })
  | .next => (.done, { m with cursor := m.cursor.bind (following · m.keys) })
  | .previous => (.done, { m with cursor := m.cursor.bind (following · m.keys.reverse) })
  | .goTo k =>
    match table.bucket k with
    | .error e => (.outcome (.error e), { m with cursor := none })
    | .ok _ =>
      if k ∈ m.keys then (.outcome (.ok ()), { m with cursor := some k })
      else (.outcome (.error .keyNotFound), { m with cursor := none })
  | .current => (.entry m.current?, m)
  | .modifyCurrent f => (.entry (m.changeCurrent f).current?, m.changeCurrent f)
  | .removeCurrent =>
    match m.current? with
    | none => (.taken (.error .noCurrentElement), m)
    | some e => (.taken (.ok e), m.without e.1)
  | .iterate => (.entries m.entries, m)
  | .keys => (.keys m.keys, m)

/-- What can be seen of a roster, with an answer. -/
def report (m : Roster κ ν) (answer : RegistryAnswer κ ν) : RegistryReport κ ν :=
  ⟨answer, m.entries.length, m.entries, m.keys, m.current?⟩

/-- Carry requests out one after the other. -/
def run (table : BucketTable κ) (m : Roster κ ν) :
    List (RegistryRequest κ ν) → List (RegistryReport κ ν)
  | [] => []
  | q :: requests =>
    (m.perform table q).2.report (m.perform table q).1 :: run table (m.perform table q).2 requests

end Keyed

end Roster

namespace Registry

variable {κ ν : Type} {table : BucketTable κ}

/-- What a registry stands for. -/
def roster (r : Registry κ ν table) : Roster κ ν := ⟨r.toList, r.cursorKey?⟩

theorem roster_eq {r : Registry κ ν table} {m : Roster κ ν} (hlist : r.toList = m.entries)
    (hcursor : r.cursorKey? = m.cursor) : r.roster = m := by
  rw [roster, hlist, hcursor]

theorem keys_roster (r : Registry κ ν table) : r.roster.keys = r.keys := rfl

variable [DecidableEq κ]

theorem get?_roster (r : Registry κ ν table) (k : κ) :
    (r.roster.find? k).map (·.2) = r.get? k := get?_eq.symm

theorem current?_roster (r : Registry κ ν table) : r.roster.current? = r.current? :=
  current?_eq.symm

theorem report_roster (r : Registry κ ν table) (answer : RegistryAnswer κ ν) :
    r.report answer = r.roster.report answer := by
  rw [report, Roster.report, size_eq, current?_roster, keys_roster]
  rfl

/-! ## Request by request -/

section Requests

variable (r : Registry κ ν table) (k : κ) (v : ν) (f : ν → ν)

/-- A request is answered as the roster answers it, and leaves the roster that the roster leaves. -/
def Follows (q : RegistryRequest κ ν) : Prop :=
  ((r.perform q).1, (r.perform q).2.roster) = r.roster.perform table q

-- Every proof of this section unfolds both sides of a request. The equations for that are derived
-- here, once, and not by all of the proofs at the same time.
attribute [local simp] perform Roster.perform

theorem follows_add : r.Follows (.add k v) := by
  rw [Follows, perform, Roster.perform, keys_roster]
  cases hb : table.bucket k with
  | error e => rw [add_of_bucket_error hb]
  | ok b =>
    by_cases hk : k ∈ r.keys
    · simp only [add_of_mem hk, if_pos hk]
    · obtain ⟨r', hadd, hlist, hcursor⟩ := add_of_notMem (v := v) hb hk
      simp only [hadd, if_neg hk]
      rw [roster_eq (m := r.roster.add k v) hlist hcursor]

theorem follows_remove : r.Follows (.remove k) := by
  rw [Follows, perform, Roster.perform]
  cases hb : table.bucket k with
  | error e => rw [remove_of_bucket_error hb]
  | ok b =>
    have hget := r.get?_roster k
    by_cases hk : k ∈ r.keys
    · obtain ⟨v, r', hremove, hvalue, hlist, hcursor⟩ := remove_of_mem hk
      obtain ⟨e, he, rfl⟩ := Option.map_eq_some_iff.1 (hget.trans hvalue)
      simp only [hremove, he]
      rw [roster_eq (m := r.roster.without k) hlist hcursor]
    · have hnone : r.roster.find? k = none := find?_toList_eq_none hk
      simp only [remove_of_notMem hb hk, hnone]

theorem follows_contains : r.Follows (.contains k) := by
  have hcontains : r.contains k = decide (k ∈ r.roster.keys) := by
    rw [Bool.eq_iff_iff, contains_iff, decide_eq_true_iff, keys_roster]
  rw [Follows, perform, Roster.perform, hcontains]

theorem follows_get : r.Follows (.get k) := by
  rw [Follows, perform, Roster.perform, get?_roster]

theorem roster_modify : (r.modify k f).roster = r.roster.change k f :=
  roster_eq (toList_modify k f) (cursorKey?_modifySlot _ f)

theorem follows_modify : r.Follows (.modify k f) := by
  rw [Follows, perform, Roster.perform, ← roster_modify, get?_roster]

theorem roster_modifyCurrent : (r.modifyCurrent f).roster = r.roster.changeCurrent f := by
  have hcursor : (r.modifyCurrent f).cursorKey? = r.cursorKey? := cursorKey?_modifySlot _ f
  rw [Roster.changeCurrent, roster, toList_modifyCurrent, hcursor, roster]
  cases r.cursorKey? <;> rfl

theorem follows_modifyCurrent : r.Follows (.modifyCurrent f) := by
  rw [Follows, perform, Roster.perform, ← roster_modifyCurrent, current?_roster]

theorem follows_goTo : r.Follows (.goTo k) := by
  rw [Follows, perform, Roster.perform, keys_roster]
  cases hb : table.bucket k with
  | error e =>
    rw [goTo_of_bucket_error hb]
    rfl
  | ok b =>
    by_cases hk : k ∈ r.keys
    · obtain ⟨hout, hlist, hcursor⟩ := goTo_of_mem hk
      simp only [hout, if_pos hk]
      rw [roster_eq (m := { r.roster with cursor := some k }) hlist hcursor]
    · simp only [goTo_of_notMem hb hk, if_neg hk]
      rfl

theorem follows_removeCurrent : r.Follows .removeCurrent := by
  rw [Follows, perform, Roster.perform, current?_roster]
  cases hcurrent : r.current? with
  | none =>
    have hnone : r.cursorKey? = none := by rw [cursorKey?_eq, hcurrent, Option.map_none]
    simp only [removeCurrent_of_none hnone]
  | some e =>
    obtain ⟨r', hremove, hlist, hcursor⟩ := removeCurrent_of_some hcurrent
    have hkey : r.roster.cursor = some e.1 := by
      rw [roster, cursorKey?_eq, hcurrent, Option.map_some]
    -- The cursor was on the entry, so the roster moves it on as well.
    have hroster : r'.roster = r.roster.without e.1 := by
      refine roster_eq hlist ?_
      rw [Roster.without, if_pos hkey, hcursor]
      rfl
    simp only [hremove, hroster]

/-- Whatever is asked of a registry, the roster does the same. -/
theorem follows (q : RegistryRequest κ ν) : r.Follows q := by
  cases q with
  | add k v => exact r.follows_add k v
  | remove k => exact r.follows_remove k
  | contains k => exact r.follows_contains k
  | get k => exact r.follows_get k
  | modify k f => exact r.follows_modify k f
  | clear => rfl
  | first => exact Prod.ext rfl (roster_eq r.toList_first r.cursorKey?_first)
  | last => exact Prod.ext rfl (roster_eq r.toList_last r.cursorKey?_last)
  | next => exact Prod.ext rfl (roster_eq r.toList_next r.cursorKey?_next)
  | previous => exact Prod.ext rfl (roster_eq r.toList_previous r.cursorKey?_previous)
  | goTo k => exact r.follows_goTo k
  | current => rw [Follows, perform, Roster.perform, current?_roster]
  | modifyCurrent f => exact r.follows_modifyCurrent f
  | removeCurrent => exact r.follows_removeCurrent
  | iterate => rfl
  | keys => rfl

end Requests

/-! ## Runs -/

theorem run_roster (r : Registry κ ν table) (requests : List (RegistryRequest κ ν)) :
    r.run requests = r.roster.run table requests := by
  induction requests generalizing r with
  | nil => rfl
  | cons q requests ih =>
    -- One request is answered alike and leaves a registry and its roster, which go on together.
    obtain ⟨hanswer, hroster⟩ := Prod.ext_iff.1 (r.follows q)
    rw [run, Roster.run, report_roster, ih, ← hanswer, ← hroster]

/-- A registry and a roster that start empty answer every run of requests alike, and can be told
apart after none of them: whatever the keys and values are, and wherever the keys are looked up. -/
theorem run_empty_eq_roster_run (κ ν : Type) [DecidableEq κ] (table : BucketTable κ)
    (requests : List (RegistryRequest κ ν)) :
    (empty : Registry κ ν table).run requests = (Roster.empty : Roster κ ν).run table requests :=
  run_roster empty requests

end Registry

end StreamRtp
