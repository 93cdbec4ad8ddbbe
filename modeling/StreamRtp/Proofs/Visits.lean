import StreamRtp.Proofs.Ledger

/-!
# What a walk says of one connection

A history speaks of many connections. `about` picks out what it says of one of them: what was asked
of its stream, the frames that were completed for it, and the reports that it is dropped.

A walk over the connections comes to each of them once, and a visit writes about the connection it
is at only. So what the history of a walk says of a connection is what its visit has written. For a
receive pass that is the receipt of one read, for a fan-out the postage of one write; `poll_at` and
`send_at` say so of the passes of an engine.
-/

namespace StreamRtp

variable {W σ ς : Type}

/-! ## Events about a connection -/

/-- The connection that an event is about. -/
def Event.subject? (W : Type) [Network W σ] : Event σ → Option ConnectionId
  | bytesAvailable s _ | read s _ _ | write s _ _ => some (Network.id W s)
  | frame source _ _ => some source
  | hook id _ | log (.droppingConnection id _) => some id
  | _ => none

/-- What a history says of a connection. -/
def about (W : Type) [Network W σ] (id : ConnectionId) (events : List (Event σ)) :
    List (Event σ) :=
  events.filter (·.subject? W = some id)

section About

variable [Network W σ] {id : ConnectionId} {first second events : List (Event σ)}

theorem about_append (first second : List (Event σ)) :
    about W id (first ++ second) = about W id first ++ about W id second :=
  List.filter_append ..

theorem about_eq_nil (h : ∀ event ∈ events, event.subject? W ≠ some id) : about W id events = [] :=
  List.filter_eq_nil_iff.2 fun event hevent ↦ by simpa using h event hevent

theorem about_eq_self (h : ∀ event ∈ events, event.subject? W = some id) :
    about W id events = events :=
  List.filter_eq_self.2 fun event hevent ↦ by simpa using h event hevent

end About

/-- A history that is about no connection. -/
def Impersonal (W : Type) [Network W σ] (events : List (Event σ)) : Prop :=
  ∀ event ∈ events, event.subject? W = none

theorem Impersonal.about_eq_nil [Network W σ] {events : List (Event σ)} (h : Impersonal W events)
    (id : ConnectionId) : about W id events = [] :=
  StreamRtp.about_eq_nil fun event hevent hid ↦ by
    rw [h event hevent] at hid
    cases hid

/-- What is said of a connection is all that is accepted of it. -/
theorem accepted_about [Network W σ] (id : ConnectionId) (events : List (Event σ)) :
    accepted (about W id events) = (accepted events).filter (·.1 = id) := by
  induction events with
  | nil => rfl
  | cons event events ih =>
    rw [← List.singleton_append, about_append, accepted_append, accepted_append, List.filter_append,
      ih]
    refine congrArg (· ++ _) ?_
    -- One event is about the connection or not, and only a frame can be accepted.
    by_cases hsubject : event.subject? W = some id
    · rw [about_eq_self (List.forall_mem_singleton.2 hsubject)]
      refine (List.filter_eq_self.2 fun e he ↦ ?_).symm
      cases event with
      | frame source payload verdict =>
        cases verdict with
        | accept =>
          rw [List.mem_singleton.1 he]
          exact decide_eq_true (Option.some.inj hsubject)
        | reject => cases he
      | _ => cases he
    · rw [about_eq_nil (List.forall_mem_singleton.2 hsubject)]
      refine (List.filter_eq_nil_iff.2 fun e he hid ↦ hsubject ?_).symm
      cases event with
      | frame source payload verdict =>
        cases verdict with
        | accept =>
          rw [List.mem_singleton.1 he] at hid
          exact congrArg some (of_decide_eq_true hid)
        | reject => cases he
      | _ => cases he

/-! ## What is registered -/

/-- What is registered under an identity, if anything is. -/
def Enrolled (entries : List (ConnectionId × Connection σ)) (id : ConnectionId)
    (c? : Option (Connection σ)) : Prop :=
  ∀ c, (id, c) ∈ entries ↔ c? = some c

section Enrolled

variable {entries : List (ConnectionId × Connection σ)} {id : ConnectionId}
  {c? : Option (Connection σ)}

/-- Under a key there is one connection. -/
theorem Enrolled.of_mem {c : Connection σ} (hnodup : (entries.map (·.1)).Nodup)
    (hc : (id, c) ∈ entries) : Enrolled entries id (some c) := by
  intro c'
  refine ⟨fun hc' ↦ ?_, fun h ↦ Option.some.inj h ▸ hc⟩
  cases List.inj_on_of_nodup_map hnodup hc hc' rfl
  rfl

theorem enrolled_none_iff : Enrolled entries id none ↔ id ∉ entries.map (·.1) := by
  constructor
  · intro h hmem
    obtain ⟨⟨_, c⟩, hc, rfl⟩ := List.mem_map.1 hmem
    cases (h c).1 hc
  · intro h c
    exact ⟨fun hc ↦ absurd (List.mem_map_of_mem hc) h, nofun⟩

theorem enrolled_nil (σ : Type) (id : ConnectionId) :
    Enrolled ([] : List (ConnectionId × Connection σ)) id none :=
  enrolled_none_iff.2 List.not_mem_nil

theorem exists_enrolled (hnodup : (entries.map (·.1)).Nodup) (id : ConnectionId) :
    ∃ c?, Enrolled entries id c? := by
  by_cases h : id ∈ entries.map (·.1)
  · obtain ⟨⟨_, c⟩, hc, rfl⟩ := List.mem_map.1 h
    exact ⟨some c, .of_mem hnodup hc⟩
  · exact ⟨none, enrolled_none_iff.2 h⟩

theorem Enrolled.mem_keys_iff (h : Enrolled entries id c?) :
    id ∈ entries.map (·.1) ↔ c?.isSome = true := by
  cases c? with
  | none => exact ⟨fun hmem ↦ absurd hmem (enrolled_none_iff.1 h), nofun⟩
  | some c => exact ⟨fun _ ↦ rfl, fun _ ↦ List.mem_map_of_mem ((h c).2 rfl)⟩

/-- Another connection is registered. -/
theorem Enrolled.append_of_ne (h : Enrolled entries id c?) {other : ConnectionId}
    (hne : other ≠ id) (c : Connection σ) : Enrolled (entries ++ [(other, c)]) id c? := by
  intro c'
  rw [List.mem_append, List.mem_singleton, or_iff_left, h]
  exact fun heq ↦ hne (congrArg Prod.fst heq).symm

/-- A connection is registered. -/
theorem Enrolled.append_self (h : Enrolled entries id none) (c : Connection σ) :
    Enrolled (entries ++ [(id, c)]) id (some c) := by
  intro c'
  rw [List.mem_append, List.mem_singleton, or_iff_right fun hc' ↦ nomatch (h c').1 hc']
  constructor
  · rintro ⟨⟩
    rfl
  · rintro ⟨⟩
    rfl

/-- A connection is removed. -/
theorem Enrolled.filter_ne (h : Enrolled entries id c?) (removed : ConnectionId) :
    Enrolled (entries.filter (·.1 ≠ removed)) id (if id = removed then none else c?) := by
  intro c
  rw [List.mem_filter, decide_eq_true_iff, h]
  by_cases hid : id = removed
  · rw [if_pos hid]
    exact ⟨fun hc ↦ absurd hid hc.2, nofun⟩
  · rw [if_neg hid]
    exact and_iff_left hid

/-- All connections are given a new limit. -/
theorem Enrolled.relimit (h : Enrolled entries id c?) (size : Nat) :
    Enrolled (relimit size entries) id
      (c?.map fun c ↦ { c with assembler := c.assembler.setLimit size }) := by
  intro c
  rw [StreamRtp.relimit, List.mem_map, Option.map_eq_some_iff]
  constructor
  · rintro ⟨⟨_, c₀⟩, hc₀, heq⟩
    cases heq
    exact ⟨c₀, (h c₀).1 hc₀, rfl⟩
  · rintro ⟨c₀, hc₀, rfl⟩
    exact ⟨_, (h c₀).2 hc₀, rfl⟩

end Enrolled

/-! ## Walks -/

/-- What stands beside a member that occurs once. -/
theorem mem_zip_append_cons {α β : Type} {a : α} {b : β} {l m : List α} (hl : a ∉ l) (hm : a ∉ m)
    (ys : List β) : (a, b) ∈ (l ++ a :: m).zip ys ↔ (ys.drop l.length).head? = some b := by
  induction l generalizing ys with
  | nil =>
    cases ys with
    | nil => exact ⟨nofun, nofun⟩
    | cons y ys =>
      have hlater : (a, b) ∉ m.zip ys := fun h ↦ hm (List.of_mem_zip h).1
      rw [List.nil_append, List.zip_cons_cons, List.mem_cons, or_iff_left hlater, Prod.mk.injEq,
        and_iff_right rfl]
      exact ⟨fun h ↦ congrArg some h.symm, fun h ↦ (Option.some.inj h).symm⟩
  | cons x l ih =>
    obtain ⟨hx, hl⟩ := not_or.1 (mt List.mem_cons.2 hl)
    cases ys with
    | nil => exact ⟨nofun, nofun⟩
    | cons y ys =>
      have hfirst : (a, b) ≠ (x, y) := fun h ↦ hx (congrArg Prod.fst h)
      rw [List.cons_append, List.zip_cons_cons, List.mem_cons, or_iff_right hfirst, ih hl ys,
        List.length_cons, List.drop_succ_cons]

/-- A walk over entries in two parts. -/
theorem sweep_append {κ ν : Type} (visit : κ → ν → ς → Option ν × ς) (first second : List (κ × ν))
    (s : ς) : sweep visit (first ++ second) s
      = ((sweep visit first s).1 ++ (sweep visit second (sweep visit first s).2).1,
        (sweep visit second (sweep visit first s).2).2) := by
  induction first generalizing s with
  | nil => rfl
  | cons e first ih =>
    rw [List.cons_append, sweep, ih, sweep]
    simp only [List.append_assoc]

/-- A walk keeps keys that were there. -/
theorem mem_keys_of_sweep {κ ν : Type} {visit : κ → ν → ς → Option ν × ς} {entries : List (κ × ν)}
    {s : ς} {k : κ} (h : k ∈ (sweep visit entries s).1.map (·.1)) : k ∈ entries.map (·.1) := by
  induction entries generalizing s with
  | nil => exact h
  | cons e entries ih =>
    rw [sweep, List.map_append, List.mem_append] at h
    rcases h with h | h
    · obtain ⟨e', he', rfl⟩ := List.mem_map.1 h
      obtain ⟨v, -, rfl⟩ := Option.map_eq_some_iff.1 (Option.mem_toList.1 he')
      exact List.mem_cons_self
    · exact List.mem_cons_of_mem _ (ih h)

/-- Visits that write about the connection they are at only. -/
def StaysAt (W : Type) [Network W σ] (history : ς → List (Event σ))
    (visit : ConnectionId → Connection σ → ς → Option (Connection σ) × ς) : Prop :=
  ∀ k c s, Network.id W c.stream = k → ∃ events, history (visit k c s).2 = history s ++ events ∧
    ∀ id, id ≠ k → about W id events = []

section Walks

variable [Network W σ] {history : ς → List (Event σ)}
  {visit : ConnectionId → Connection σ → ς → Option (Connection σ) × ς}
  {entries done todo : List (ConnectionId × Connection σ)} {id : ConnectionId} {c : Connection σ}

/-- A walk writes about the connections it comes to only. -/
theorem StaysAt.sweep_of_notMem (hvisit : StaysAt W history visit) (hkeyed : Keyed W entries)
    (hid : id ∉ entries.map (·.1)) (s : ς) : ∃ events,
      history (sweep visit entries s).2 = history s ++ events ∧ about W id events = [] := by
  induction entries generalizing s with
  | nil => exact ⟨[], (List.append_nil _).symm, rfl⟩
  | cons e entries ih =>
    obtain ⟨hkey, hkeyed⟩ := List.forall_mem_cons.1 hkeyed
    obtain ⟨hne, hid⟩ := not_or.1 (mt List.mem_cons.2 hid)
    obtain ⟨events, hevents, hothers⟩ := hvisit e.1 e.2 s hkey
    obtain ⟨later, hlater, habout⟩ := ih hkeyed hid (visit e.1 e.2 s).2
    refine ⟨events ++ later, ?_, ?_⟩
    · rw [← List.append_assoc, ← hevents, ← hlater]
      rfl
    · rw [about_append, hothers id hne, habout]
      rfl

/-- What a walk writes about a connection is what its visit writes. -/
theorem StaysAt.sweep_of_mem (hvisit : StaysAt W history visit)
    (hkeyed : Keyed W (done ++ (id, c) :: todo))
    (hnodup : ((done ++ (id, c) :: todo).map (·.1)).Nodup) (s : ς) : ∃ events visited,
      history (sweep visit (done ++ (id, c) :: todo) s).2 = history s ++ events ∧
        history (visit id c (sweep visit done s).2).2
          = history (sweep visit done s).2 ++ visited ∧
        about W id events = about W id visited ∧
        Enrolled (sweep visit (done ++ (id, c) :: todo) s).1 id
          (visit id c (sweep visit done s).2).1 := by
  obtain ⟨hdone, hhere⟩ := List.forall_mem_append.1 hkeyed
  obtain ⟨hkey, htodo⟩ := List.forall_mem_cons.1 hhere
  rw [List.map_append, List.map_cons, List.nodup_append] at hnodup
  obtain ⟨-, hrest, hdisjoint⟩ := hnodup
  have hnotDone : id ∉ done.map (·.1) := fun h ↦ hdisjoint id h id List.mem_cons_self rfl
  have hnotTodo : id ∉ todo.map (·.1) := (List.nodup_cons.1 hrest).1
  obtain ⟨before, hbefore, haboutBefore⟩ := hvisit.sweep_of_notMem hdone hnotDone s
  rw [sweep_append, sweep]
  have hkeptDone : ∀ c', (id, c') ∉ (sweep visit done s).1 := fun c' h ↦
    hnotDone (mem_keys_of_sweep (List.mem_map_of_mem h))
  generalize (sweep visit done s).2 = here at hbefore
  obtain ⟨visited, hvisited, -⟩ := hvisit id c here hkey
  obtain ⟨after, hafter, haboutAfter⟩ := hvisit.sweep_of_notMem htodo hnotTodo (visit id c here).2
  refine ⟨before ++ (visited ++ after), visited, ?_, hvisited, ?_, fun c' ↦ ?_⟩
  · rw [hafter, hvisited, hbefore, List.append_assoc, List.append_assoc]
  · rw [about_append, about_append, haboutBefore, haboutAfter, List.append_nil, List.nil_append]
  · -- Neither part of the walk besides the visit keeps anything under the key.
    have hkeptTodo : (id, c') ∉ (sweep visit todo (visit id c here).2).1 := fun h ↦
      hnotTodo (mem_keys_of_sweep (List.mem_map_of_mem h))
    rw [List.mem_append, List.mem_append, or_iff_right (hkeptDone c'), or_iff_left hkeptTodo,
      Option.mem_toList, Option.map_eq_some_iff]
    constructor
    · rintro ⟨c'', hc'', heq⟩
      cases heq
      exact hc''
    · exact fun h ↦ ⟨c', h, rfl⟩

end Walks

/-! ## Visits -/

/-- What is kept of a connection that was read. -/
def Connection.afterReading (c : Connection σ) (got : Reception W σ) : Option (Connection σ) :=
  match got.failure with
  | none => some { c with assembler := got.assembler }
  | some _ => none

/-- What can come of reading a connection. -/
inductive Connection.Reads (c : Connection σ) : Reception W σ → Prop
  /-- The stream cannot say how many bytes wait, or none ever will. -/
  | unavailable (answer : Except IoError Nat) (reason : DropReason) (buffer : Bytes) (w : W)
    (hanswer : answer = .ok 0 ∨ ∃ e, answer = .error e) :
    Reads c ⟨[], some reason, c.assembler, buffer, w, [.bytesAvailable c.stream answer]⟩
  /-- The read fails or comes to the end. -/
  | unreadable (n : Nat) (answer : Except IoError Bytes) (reason : DropReason) (buffer : Bytes)
    (w : W) (hanswer : answer = .ok [] ∨ ∃ e : IoError, e.isTransient = false ∧ answer = .error e) :
    Reads c ⟨[], some reason, c.assembler, buffer, w,
      [.bytesAvailable c.stream (.ok n), .read c.stream n answer]⟩
  /-- There are no bytes yet. -/
  | notYet (n : Nat) (e : IoError) (buffer : Bytes) (w : W) (htransient : e.isTransient = true) :
    Reads c ⟨[], none, c.assembler, buffer, w,
      [.bytesAvailable c.stream (.ok n), .read c.stream n (.error e)]⟩
  /-- The assembler is given what was read. -/
  | data (n : Nat) (bytes : Bytes) (log : List LogEntry) (buffer : Bytes) (w : W)
    (hlog : ∀ entry ∈ log, ∃ declared limit, entry = .oversizedFrame declared limit) :
    Reads c ⟨(c.assembler.push bytes).1.frames, (c.assembler.push bytes).1.error.map .assembly,
      (c.assembler.push bytes).2, buffer, w,
      [.bytesAvailable c.stream (.ok n), .read c.stream n (.ok bytes)] ++ logged log⟩

/-- Reading a connection comes to one of these. -/
theorem Connection.reads_receive [Network W σ] (c : Connection σ) (buffer : Bytes) (w : W) :
    c.Reads (c.receive buffer w) := by
  rw [receive]
  split
  · exact .unavailable _ _ _ _ (.inr ⟨_, rfl⟩)
  · exact .unavailable _ _ _ _ (.inl rfl)
  · rename_i available w' _ _
    dsimp only
    split
    · rename_i e _ _
      by_cases htransient : e.isTransient = true
      · rw [if_pos htransient]
        exact .notYet _ _ _ _ htransient
      · rw [if_neg htransient]
        exact .unreadable _ _ _ _ _ (.inr ⟨e, Bool.eq_false_iff.2 htransient, rfl⟩)
    · exact .unreadable _ _ _ _ _ (.inl rfl)
    · rename_i bytes w'' _ hread
      have hle : bytes.length ≤ (resize available buffer).length := by
        rw [length_resize]
        exact Network.read_le c.stream available w' bytes (congrArg Prod.fst hread)
      rw [take_overwrite hle]
      have hdata := fun log ↦
        Reads.data (c := c) available bytes log (overwrite bytes (resize available buffer)) w''
      cases herror : (c.assembler.push bytes).1.error with
      | none =>
        rw [herror] at hdata
        exact hdata [] (List.forall_mem_nil _)
      | some e =>
        rw [herror] at hdata
        exact hdata [_] (List.forall_mem_singleton.2 ⟨e.1, e.2, rfl⟩)

/-- Reading a connection is about no other one. -/
theorem Connection.Reads.subject? [Network W σ] {c : Connection σ} {got : Reception W σ}
    (h : c.Reads got) : ∀ event ∈ got.events, event.subject? W = none ∨
      event.subject? W = some (Network.id W c.stream) := by
  cases h with
  | unavailable => exact List.forall_mem_singleton.2 (.inr rfl)
  | unreadable => exact List.forall_mem_cons.2 ⟨.inr rfl, List.forall_mem_singleton.2 (.inr rfl)⟩
  | notYet => exact List.forall_mem_cons.2 ⟨.inr rfl, List.forall_mem_singleton.2 (.inr rfl)⟩
  | data n bytes log _ _ hlog =>
    refine List.forall_mem_append.2
      ⟨List.forall_mem_cons.2 ⟨.inr rfl, List.forall_mem_singleton.2 (.inr rfl)⟩, ?_⟩
    intro event hevent
    obtain ⟨entry, hentry, rfl⟩ := List.mem_map.1 hevent
    obtain ⟨declared, limit, rfl⟩ := hlog entry hentry
    exact .inl rfl

namespace Core

variable (core : Core σ)

/-- What the visit of a ready connection adds to the history: its reads, its frames as the filter
judges them, and a report if the connection is given up. -/
def receipt (id : ConnectionId) (got : Reception W σ) : List (Event σ) :=
  got.events ++ (got.frames.map (.frame id · (core.filter.decision id)) ++
    match got.failure with
    | none => []
    | some reason => core.reportDrop id reason)

/-- What a fan-out adds to the history at a connection. -/
def postage (id : ConnectionId) (stream : σ) (frame : Bytes) (answer : Except IoError Unit) :
    List (Event σ) :=
  .write stream frame answer ::
    match answer with
    | .ok _ => []
    | .error e => core.reportDrop id (.send e.duplicate)

variable [Network W σ]

/-- A report that a connection is dropped is about that connection. -/
theorem subject?_reportDrop (id : ConnectionId) (reason : DropReason) :
    ∀ event ∈ core.reportDrop id reason, event.subject? W = some id := by
  rw [reportDrop]
  split
  · exact List.forall_mem_cons.2 ⟨rfl, List.forall_mem_singleton.2 rfl⟩
  · exact List.forall_mem_singleton.2 rfl

theorem about_reportDrop_of_ne {id other : ConnectionId} (hne : other ≠ id) (reason : DropReason) :
    about W other (core.reportDrop id reason) = [] :=
  about_eq_nil fun event hevent ↦ by
    rw [core.subject?_reportDrop id reason event hevent]
    exact fun h ↦ hne (Option.some.inj h).symm

/-- A visit of a receive pass reads the connection if the first flag says so, and else leaves it
alone. -/
theorem visitReady_cases (now : Nat) (id : ConnectionId) (c : Connection σ)
    (s : List Bool × ReceivePass W σ) :
    (s.1.head? ≠ some true ∧ (core.visitReady now id c s).1 = some c ∧
        (core.visitReady now id c s).2.2.events = s.2.events ++ []) ∨
      (s.1.head? = some true ∧
        (core.visitReady now id c s).1 = c.afterReading (c.receive s.2.buffer s.2.world) ∧
        (core.visitReady now id c s).2.2.events
          = s.2.events ++ core.receipt id (c.receive s.2.buffer s.2.world)) := by
  obtain ⟨flags, pass⟩ := s
  match flags with
  | [] => exact .inl ⟨nofun, rfl, (List.append_nil _).symm⟩
  | false :: flags => exact .inl ⟨nofun, rfl, (List.append_nil _).symm⟩
  | true :: flags =>
    refine .inr ⟨rfl, ?_⟩
    rw [visitReady, receipt, Connection.afterReading]
    generalize c.receive pass.buffer pass.world = got
    cases got.failure with
    | none =>
      refine ⟨rfl, ?_⟩
      simp only [events_deliver, List.append_assoc, List.append_nil]
    | some reason =>
      refine ⟨rfl, ?_⟩
      simp only [events_deliver, List.append_assoc]

/-- Every visit of a receive pass uses up one flag. -/
theorem flags_visitReady (now : Nat) (id : ConnectionId) (c : Connection σ)
    (s : List Bool × ReceivePass W σ) : (core.visitReady now id c s).2.1 = s.1.tail := by
  obtain ⟨flags, pass⟩ := s
  match flags with
  | [] => rfl
  | false :: flags => rfl
  | true :: flags =>
    rw [visitReady]
    dsimp only
    split <;> rfl

/-- The flags of a receive pass keep step with the connections. -/
theorem flags_sweep (now : Nat) (entries : List (ConnectionId × Connection σ))
    (s : List Bool × ReceivePass W σ) :
    (sweep (core.visitReady now) entries s).2.1 = s.1.drop entries.length := by
  induction entries generalizing s with
  | nil => rfl
  | cons e entries ih =>
    rw [sweep, ih, flags_visitReady, List.drop_tail, List.length_cons]

theorem about_receipt_of_ne {id other : ConnectionId} (hne : other ≠ id) {c : Connection σ}
    (hkey : Network.id W c.stream = id) (buffer : Bytes) (w : W) :
    about W other (core.receipt id (c.receive buffer w)) = [] := by
  have hread : about W other (c.receive buffer w).events = [] := by
    refine about_eq_nil fun event hevent h ↦ ?_
    rcases (c.reads_receive buffer w).subject? event hevent with hnone | hsome
    · cases hnone.symm.trans h
    · exact hne ((Option.some.inj (hsome.symm.trans h)).symm.trans hkey)
  have hframes : about W other ((c.receive buffer w).frames.map
      (Event.frame id · (core.filter.decision id)) : List (Event σ)) = [] := by
    refine about_eq_nil fun event hevent h ↦ ?_
    obtain ⟨payload, -, rfl⟩ := List.mem_map.1 hevent
    exact hne (Option.some.inj h).symm
  rw [receipt, about_append, about_append, hread, hframes]
  split
  · rfl
  · exact core.about_reportDrop_of_ne hne _

/-- What the visit of a ready connection says besides its reads is about the connection. -/
theorem about_receipt (id : ConnectionId) (got : Reception W σ) :
    about W id (core.receipt id got) = about W id got.events
      ++ (got.frames.map (.frame id · (core.filter.decision id)) ++
        match got.failure with
        | none => []
        | some reason => core.reportDrop id reason) := by
  rw [receipt, about_append]
  refine congrArg (about W id got.events ++ ·) (about_eq_self ?_)
  refine List.forall_mem_append.2 ⟨fun event hevent ↦ ?_, ?_⟩
  · obtain ⟨payload, -, rfl⟩ := List.mem_map.1 hevent
    rfl
  · split
    · exact List.forall_mem_nil _
    · exact core.subject?_reportDrop id _

theorem staysAt_visitReady (now : Nat) :
    StaysAt W (fun s : List Bool × ReceivePass W σ ↦ s.2.events) (core.visitReady now) := by
  intro k c s hkey
  rcases core.visitReady_cases now k c s with ⟨-, -, hevents⟩ | ⟨-, -, hevents⟩
  · exact ⟨_, hevents, fun _ _ ↦ rfl⟩
  · exact ⟨_, hevents, fun id hne ↦ core.about_receipt_of_ne hne hkey _ _⟩

theorem about_postage_of_ne {id other : ConnectionId} (hne : other ≠ id) {stream : σ}
    (hkey : Network.id W stream = id) (frame : Bytes) (answer : Except IoError Unit) :
    about W other (core.postage id stream frame answer) = [] := by
  have hwrite : about W other [Event.write stream frame answer] = [] :=
    about_eq_nil <| List.forall_mem_singleton.2 fun h ↦
      hne ((Option.some.inj h).symm.trans hkey)
  rw [postage.eq_def, ← List.singleton_append, about_append, hwrite]
  split
  · rfl
  · exact core.about_reportDrop_of_ne hne _

/-- A visit of a fan-out writes to the connection, which is kept if that does not fail. -/
theorem visitWrite_cases (frame : Bytes) (id : ConnectionId) (c : Connection σ)
    (pass : SendPass W σ) : ∃ answer,
      (core.visitWrite frame id c pass).2.events
          = pass.events ++ core.postage id c.stream frame answer ∧
        ((answer = .ok () ∧ (core.visitWrite frame id c pass).1 = some c) ∨
          (∃ e, answer = .error e) ∧ (core.visitWrite frame id c pass).1 = none ∧
            (core.visitWrite frame id c pass).2.failure ≠ none) := by
  rw [visitWrite]
  split
  · exact ⟨.ok (), rfl, .inl ⟨rfl, rfl⟩⟩
  · rename_i e _ _
    refine ⟨.error e, rfl, .inr ⟨⟨e, rfl⟩, rfl, ?_⟩⟩
    cases pass.failure <;> exact Option.some_ne_none _

theorem staysAt_visitWrite (frame : Bytes) :
    StaysAt W (fun pass : SendPass W σ ↦ pass.events) (core.visitWrite frame) := by
  intro k c pass hkey
  obtain ⟨answer, hevents, -⟩ := core.visitWrite_cases frame k c pass
  exact ⟨_, hevents, fun id hne ↦ core.about_postage_of_ne hne hkey _ _⟩

/-- A failure of a fan-out is not forgotten. -/
theorem failure_visitWrite (frame : Bytes) (id : ConnectionId) (c : Connection σ)
    (pass : SendPass W σ) (h : pass.failure ≠ none) :
    (core.visitWrite frame id c pass).2.failure ≠ none := by
  rw [visitWrite]
  split
  · exact h
  · obtain ⟨failure, hfailure⟩ := Option.ne_none_iff_exists'.1 h
    simp only [hfailure, Option.some_or]
    exact Option.some_ne_none _

/-! ## Passes -/

/-- The walk of a receive pass. -/
def walk (flags : List Bool) (w : W) :
    List (ConnectionId × Connection σ) × List Bool × ReceivePass W σ :=
  sweep (core.visitReady (Network.now w)) core.destinations.toList
    (flags, ⟨w, core.readBuffer, core.queue, core.dropped, []⟩)

theorem receiveReady_eq_walk (flags : List Bool) (w : W) :
    (core.receiveReady flags w).1.destinations.toList = (core.walk flags w).1 ∧
      (core.receiveReady flags w).1.queue = (core.walk flags w).2.2.queue ∧
      (core.receiveReady flags w).2
        = ((core.walk flags w).2.2.world, (core.walk flags w).2.2.events) := by
  obtain ⟨hlist, hlast⟩ := Registry.scan_eq_sweep (core.visitReady (Network.now w))
    core.destinations (flags, ⟨w, core.readBuffer, core.queue, core.dropped, []⟩)
  rw [walk, receiveReady, ← hlist, ← hlast]
  exact ⟨rfl, rfl, rfl⟩

/-- Whether a receive pass reads a connection: the poller counts something and calls it ready. -/
def Picks (w : W) (id : ConnectionId) : Prop :=
  ∃ answer, (Network.waitReady (core.streams.map .stream) .zero w).1 = .ok answer ∧
    answer.count ≠ 0 ∧
    (id, true) ∈ core.destinations.keys.zip (Readiness.fit core.streams.length answer.flags)

/-- A receive pass asks the poller, if there is somebody to ask for. It walks over the connections
unless the poller fails or counts nothing. -/
theorem poll_cases (w : W) :
    ((core.poll w).core = core ∧ Impersonal W (core.poll w).events ∧ ∀ id, ¬core.Picks w id) ∨
      ∃ answer w', Network.waitReady (core.streams.map .stream) .zero w = (.ok answer, w') ∧
        answer.count ≠ 0 ∧
        let out := core.receiveReady (Readiness.fit core.streams.length answer.flags) w'
        core.poll w = ⟨.ok (), out.1, out.2.1,
          .waitReady (core.streams.map .stream) .zero (.ok answer) :: out.2.2⟩ := by
  rw [poll]
  split
  · rename_i hempty
    refine .inl ⟨rfl, List.forall_mem_nil _, ?_⟩
    rintro id ⟨answer, -, -, hid⟩
    rw [Registry.keys, core.destinations.isEmpty_iff.1 hempty] at hid
    cases hid
  dsimp only
  split
  · rename_i hasked
    refine .inl ⟨rfl, List.forall_mem_singleton.2 rfl, ?_⟩
    rintro id ⟨answer, hanswer, -⟩
    rw [hasked] at hanswer
    cases hanswer
  · rename_i answer w' hasked
    split
    · rename_i hcount
      refine .inl ⟨rfl, List.forall_mem_singleton.2 rfl, ?_⟩
      rintro id ⟨answer, hanswer, hne, -⟩
      rw [hasked] at hanswer
      cases hanswer
      exact hne hcount
    · rename_i hcount
      rw [List.length_map]
      exact .inr ⟨answer, w', hasked, hcount, rfl⟩

variable {core} {id : ConnectionId} {c : Connection σ}

/-- The walk of a receive pass comes to a connection once, with its flag. -/
theorem walk_at (hkeyed : Keyed W core.destinations.toList)
    (hc : (id, c) ∈ core.destinations.toList) (flags : List Bool) (w : W) : ∃ kept,
      Enrolled (core.walk flags w).1 id kept ∧
        (((id, true) ∉ core.destinations.keys.zip flags ∧ kept = some c ∧
            about W id (core.walk flags w).2.2.events = []) ∨
          (id, true) ∈ core.destinations.keys.zip flags ∧ ∃ (buffer : Bytes) (w' : W),
            kept = c.afterReading (c.receive buffer w') ∧
              about W id (core.walk flags w).2.2.events
                = about W id (core.receipt id (c.receive buffer w'))) := by
  have hnodup : (core.destinations.toList.map (·.1)).Nodup := core.destinations.nodup_keys
  obtain ⟨done, todo, hsplit⟩ := List.append_of_mem hc
  obtain ⟨hdone, htodo⟩ := Registry.notMem_done_of_toList hsplit
  rw [walk, Registry.keys]
  rw [hsplit] at hkeyed hnodup ⊢
  rw [List.map_append, List.map_cons, mem_zip_append_cons hdone htodo, List.length_map]
  obtain ⟨events, visited, hevents, hvisited, habout, hkept⟩ :=
    (core.staysAt_visitReady (Network.now w)).sweep_of_mem hkeyed hnodup
      (flags, ⟨w, core.readBuffer, core.queue, core.dropped, []⟩)
  rw [List.nil_append] at hevents
  refine ⟨_, hkept, ?_⟩
  rw [hevents, habout]
  have hflags := core.flags_sweep (Network.now w) done
    (flags, ⟨w, core.readBuffer, core.queue, core.dropped, []⟩)
  rcases core.visitReady_cases (Network.now w) id c
    (sweep (core.visitReady (Network.now w)) done
      (flags, ⟨w, core.readBuffer, core.queue, core.dropped, []⟩)).2 with
    ⟨hflag, hkeep, hnothing⟩ | ⟨hflag, hkeep, hread⟩
  · rw [List.append_cancel_left (hvisited.symm.trans hnothing)]
    exact .inl ⟨hflags ▸ hflag, hkeep, rfl⟩
  · rw [List.append_cancel_left (hvisited.symm.trans hread)]
    exact .inr ⟨hflags ▸ hflag, _, _, hkeep, rfl⟩

/-- A receive pass reads a connection once if the poller calls it ready, and else leaves it
alone. -/
theorem poll_at (hkeyed : Keyed W core.destinations.toList)
    (hc : (id, c) ∈ core.destinations.toList) (w : W) : ∃ kept,
      Enrolled (core.poll w).core.destinations.toList id kept ∧
        ((¬core.Picks w id ∧ kept = some c ∧ about W id (core.poll w).events = []) ∨
          core.Picks w id ∧ ∃ (buffer : Bytes) (w' : W),
            kept = c.afterReading (c.receive buffer w') ∧
              about W id (core.poll w).events
                = about W id (core.receipt id (c.receive buffer w'))) := by
  rcases core.poll_cases w with ⟨hcore, hevents, hnone⟩ | ⟨answer, w', hasked, hcount, hpoll⟩
  · rw [hcore, hevents.about_eq_nil]
    exact ⟨_, .of_mem core.destinations.nodup_keys hc, .inl ⟨hnone id, rfl, rfl⟩⟩
  · obtain ⟨hlist, -, hlast⟩ :=
      core.receiveReady_eq_walk (Readiness.fit core.streams.length answer.flags) w'
    have hpicks : core.Picks w id ↔ (id, true) ∈
        core.destinations.keys.zip (Readiness.fit core.streams.length answer.flags) := by
      rw [Picks, hasked]
      constructor
      · rintro ⟨_, ⟨rfl⟩, -, hid⟩
        exact hid
      · exact fun hid ↦ ⟨answer, rfl, hcount, hid⟩
    rw [hpoll, hlist, hlast, hpicks]
    -- The question to the poller is about nobody.
    exact walk_at hkeyed hc _ w'

/-- A fan-out that is not refused writes to a connection once. -/
theorem send_at (hkeyed : Keyed W core.destinations.toList)
    (hc : (id, c) ∈ core.destinations.toList) (payload : Bytes) (w : W) : ∃ kept,
      Enrolled (core.send payload w).core.destinations.toList id kept ∧
        ((core.sendLimit < payload.length ∧ kept = some c ∧
            about W id (core.send payload w).events = [] ∧
            ∃ e, (core.send payload w).result = .error e) ∨
          (payload.length ≤ core.sendLimit ∧ ∃ answer,
            about W id (core.send payload w).events
                = about W id (core.postage id c.stream (Frame.wire payload) answer) ∧
              ((answer = .ok () ∧ kept = some c ∧ ((core.send payload w).result = .ok () ∨
                  ∃ first e, (core.send payload w).result = .error (.send first e))) ∨
                (∃ e, answer = .error e) ∧ kept = none ∧
                  ∃ first e, (core.send payload w).result = .error (.send first e)))) := by
  rw [send]
  split
  · rename_i hlimit
    exact ⟨_, .of_mem core.destinations.nodup_keys hc, .inl ⟨hlimit, rfl, rfl, _, rfl⟩⟩
  · rename_i hlimit
    have hle : payload.length ≤ core.sendLimit := Nat.le_of_not_lt hlimit
    rw [Frame.encode_of_le (Nat.le_trans hle (Nat.min_le_right ..))]
    dsimp only
    obtain ⟨hlist, hlast⟩ := Registry.scan_eq_sweep (core.visitWrite (Frame.wire payload))
      core.destinations ⟨w, none, []⟩
    rw [hlist, hlast]
    have hnodup : (core.destinations.toList.map (·.1)).Nodup := core.destinations.nodup_keys
    obtain ⟨done, todo, hsplit⟩ := List.append_of_mem hc
    rw [hsplit] at hkeyed hnodup ⊢
    obtain ⟨events, visited, hevents, hvisited, habout, hkept⟩ :=
      (core.staysAt_visitWrite (Frame.wire payload)).sweep_of_mem hkeyed hnodup ⟨w, none, []⟩
    refine ⟨_, hkept, .inr ⟨hle, ?_⟩⟩
    dsimp only at hevents
    rw [List.nil_append] at hevents
    rw [hevents, habout]
    obtain ⟨answer, hwritten, hanswer⟩ := core.visitWrite_cases (Frame.wire payload) id c
      (sweep (core.visitWrite (Frame.wire payload)) done ⟨w, none, []⟩).2
    rw [List.append_cancel_left (hvisited.symm.trans hwritten)]
    refine ⟨answer, rfl, ?_⟩
    rcases hanswer with ⟨hok, hkeep⟩ | ⟨herror, hgone, hfailure⟩
    · refine .inl ⟨hok, hkeep, ?_⟩
      split
      · exact .inr ⟨_, _, rfl⟩
      · exact .inl rfl
    · refine .inr ⟨herror, hgone, ?_⟩
      -- The failure of this write is not forgotten by the rest of the walk.
      have hfinal := sweep_induction (P := fun pass : SendPass W σ ↦ pass.failure ≠ none)
        (core.failure_visitWrite (Frame.wire payload)) todo hfailure
      rw [sweep_append, sweep]
      obtain ⟨⟨first, e⟩, hsome⟩ := Option.ne_none_iff_exists'.1 hfinal
      rw [hsome]
      exact ⟨first, e, rfl⟩

/-- A receive pass says nothing of connections that are not registered. -/
theorem about_poll_of_notMem (hkeyed : Keyed W core.destinations.toList)
    (hid : id ∉ core.destinations.keys) (w : W) : about W id (core.poll w).events = [] := by
  rcases core.poll_cases w with ⟨-, hevents, -⟩ | ⟨answer, w', -, -, hpoll⟩
  · exact hevents.about_eq_nil id
  · obtain ⟨-, -, hlast⟩ :=
      core.receiveReady_eq_walk (Readiness.fit core.streams.length answer.flags) w'
    obtain ⟨events, hevents, habout⟩ :=
      (core.staysAt_visitReady (Network.now w')).sweep_of_notMem hkeyed hid
        (Readiness.fit core.streams.length answer.flags,
          ⟨w', core.readBuffer, core.queue, core.dropped, []⟩)
    rw [List.nil_append] at hevents
    rw [hpoll, hlast, walk]
    dsimp only
    rw [hevents]
    exact habout

/-- A fan-out says nothing of connections that are not registered. -/
theorem about_send_of_notMem (hkeyed : Keyed W core.destinations.toList)
    (hid : id ∉ core.destinations.keys) (payload : Bytes) (w : W) :
    about W id (core.send payload w).events = [] := by
  rw [send]
  split
  · rfl
  · split
    · rfl
    · rename_i frame _
      obtain ⟨events, hevents, habout⟩ :=
        (core.staysAt_visitWrite frame).sweep_of_notMem hkeyed hid ⟨w, none, []⟩
      dsimp only at hevents ⊢
      rw [(Registry.scan_eq_sweep ..).2, hevents, List.nil_append]
      exact habout

end Core

end StreamRtp
