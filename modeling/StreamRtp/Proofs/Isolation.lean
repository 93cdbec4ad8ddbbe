import Mathlib.Data.List.Forall2
import StreamRtp.Proofs.Projection
import StreamRtp.Scripted.Stream

/-!
# Connections do not disturb each other

Two runs make the same calls of the same engine, but the streams of one identity behave differently:
they fail in one run and not in the other, or bring malformed frames, or end. No other connection
can tell the runs apart.

## What is compared

A `View` is all that a call shows of a connection: what the history says of it, which packets of it
came to the queue, and whether it is registered afterwards. The time of reading is not compared.

That the other streams behave the same is said of the histories: as long as the past of a connection
is the same in both runs, the next question gets the same answer (`SameAnswers`). That the poller
treats them the same concerns receive passes only (`SameReports`). What else it says, and what it
says to a wait, does not matter.

## The argument

What a call means for a connection is its fate, a function of the settings, of what is registered,
of the poller's word about it, and of its own answers. The settings are part of the outline, which
does not depend on streams. So two engines that look the same from the connection still do after a
call: `Twins.perform`.
-/

namespace StreamRtp

variable {W σ : Type}

/-! ## Streams that behave the same -/

/-- What is asked of a stream. -/
inductive Question (σ : Type) where
  | bytesAvailable (s : σ)
  | read (s : σ) (want : Nat)
  | write (s : σ) (data : Bytes)

/-- The question that an event has put to a stream. -/
def Event.question? : Event σ → Option (Question σ)
  | bytesAvailable s _ => some (.bytesAvailable s)
  | read s want _ => some (.read s want)
  | write s data _ => some (.write s data)
  | _ => none

/-- After the same past, the same question has got the same answer in both histories. -/
def SameAnswers : List (Event σ) → List (Event σ) → Prop
  | first :: firsts, second :: seconds =>
    (∀ q, first.question? = some q → second.question? = some q → first = second) ∧
      (first = second → SameAnswers firsts seconds)
  | _, _ => True

namespace SameAnswers

variable {first second past : List (Event σ)}

theorem of_eq (h : first = second) : SameAnswers first second := by
  subst h
  induction first with
  | nil => trivial
  | cons event events ih => exact ⟨fun _ _ _ ↦ rfl, fun _ ↦ ih⟩

/-- What follows the same past. -/
theorem of_append (h : SameAnswers (past ++ first) (past ++ second)) :
    SameAnswers first second := by
  induction past with
  | nil => exact h
  | cons event past ih => exact ih (h.2 rfl)

end SameAnswers

/-! ## Fates that part -/

section Fates

variable {answers₁ answers₂ : Answers} {rest₁ rest₂ : List (Event σ)}

theorem Connection.events_settle (c : Connection σ) (answers : Answers) :
    (c.settle answers).events = .bytesAvailable c.stream answers.available ::
      match answers.available with
      | .ok (n + 1) => [.read c.stream (n + 1) answers.data]
      | _ => [] := by
  obtain ⟨available, data, written⟩ := answers
  match available with
  | .error e => rfl
  | .ok 0 => rfl
  | .ok (n + 1) =>
    match data with
    | .error e => rfl
    | .ok [] => rfl
    | .ok (b :: bytes) => rfl

/-- Readings of a connection differ by an answer of its stream. -/
theorem Connection.settle_unique {c : Connection σ}
    (h : SameAnswers ((c.settle answers₁).events ++ rest₁) ((c.settle answers₂).events ++ rest₂)) :
    c.settle answers₁ = c.settle answers₂ := by
  rw [c.events_settle, c.events_settle] at h
  obtain ⟨available, data₁, written₁⟩ := answers₁
  obtain ⟨available₂, data₂, written₂⟩ := answers₂
  obtain ⟨⟩ : Event.bytesAvailable c.stream available = .bytesAvailable c.stream available₂ :=
    h.1 (.bytesAvailable c.stream) rfl rfl
  match available with
  | .error e => rfl
  | .ok 0 => rfl
  | .ok (n + 1) =>
    obtain ⟨⟩ : Event.read c.stream (n + 1) data₁ = .read c.stream (n + 1) data₂ :=
      (h.2 rfl).1 (.read c.stream (n + 1)) rfl rfl
    rfl

/-- Fates differ by an answer of the connection's own stream. -/
theorem Core.fate_unique [Network W σ] {core : Core σ} {id : ConnectionId} {picked : Bool}
    {c? : Option (Connection σ)} {call : Call σ}
    (h : SameAnswers ((core.fate W id picked answers₁ c? call).1 ++ rest₁)
      ((core.fate W id picked answers₂ c? call).1 ++ rest₂)) :
    core.fate W id picked answers₁ c? call = core.fate W id picked answers₂ c? call := by
  obtain ⟨available₁, data₁, written⟩ := answers₁
  obtain ⟨available₂, data₂, written₂⟩ := answers₂
  cases c? with
  | none =>
    cases call with
    | addDestination stream =>
      rw [fate, fate] at h ⊢
      by_cases hid : Network.id W stream = id
      · rw [if_pos hid, if_pos hid] at h ⊢
        obtain ⟨⟩ : Event.bytesAvailable stream available₁ = .bytesAvailable stream available₂ :=
          h.1 (.bytesAvailable stream) rfl rfl
        rfl
      · rw [if_neg hid, if_neg hid]
    | _ => rfl
  | some c =>
    -- A packet is written alike, whatever it carries.
    have hsend : ∀ payload,
        SameAnswers
            ((core.fate W id picked ⟨available₁, data₁, written⟩ (some c) (.sendRtp payload)).1
              ++ rest₁)
            ((core.fate W id picked ⟨available₂, data₂, written₂⟩ (some c) (.sendRtp payload)).1
              ++ rest₂) →
          core.fate W id picked ⟨available₁, data₁, written⟩ (some c) (.sendRtp payload)
            = core.fate W id picked ⟨available₂, data₂, written₂⟩ (some c) (.sendRtp payload) := by
      intro payload h
      rw [fate, fate] at h ⊢
      by_cases hlimit : core.sendLimit < payload.length
      · rw [if_pos hlimit, if_pos hlimit]
      · rw [if_neg hlimit, if_neg hlimit] at h ⊢
        obtain ⟨⟩ : Event.write c.stream (Frame.wire payload) written
            = .write c.stream (Frame.wire payload) written₂ :=
          h.1 (.write c.stream (Frame.wire payload)) rfl rfl
        rfl
    cases call with
    | poll =>
      rw [fate, fate] at h ⊢
      cases picked with
      | false => rfl
      | true =>
        simp only [receipt, List.append_assoc, if_true] at h
        rw [Connection.settle_unique h]
    | sendRtp payload => exact hsend payload h
    | sendRtcp payload => exact hsend payload h
    | _ => rfl

end Fates

/-! ## What receive passes are told -/

/-- What the poller has reported: the count, and each handle with its flag. -/
def Event.report? : Event σ → Option (Except IoError (Nat × List (Handle σ × Bool)))
  | waitReady handles _ answer =>
    some (answer.map fun a ↦ (a.count, handles.zip (Readiness.fit handles.length a.flags)))
  | _ => none

/-- What a receive pass was told by the poller. Other calls do not look at what they are told about
connections. -/
def Performed.reports (p : Performed σ) : List (Except IoError (Nat × List (Handle σ × Bool))) :=
  match p.call with
  | .poll => p.events.filterMap Event.report?
  | _ => []

/-- A poller that has not failed and has counted what it flagged. -/
def Performed.Reported (p : Performed σ) : Prop :=
  ∀ report ∈ p.reports, ∃ flagged, report = .ok (flagged.countP (·.2), flagged)

/-- Two calls in which the poller does not fail, counts truly, and says the same of each stream that
both ask about and that is not one of the given identity. -/
structure SameReports (W : Type) [Network W σ] (id : ConnectionId) (p q : Performed σ) : Prop where
  first : p.Reported
  second : q.Reported
  same : ∀ n m flagged₁ flagged₂, .ok (n, flagged₁) ∈ p.reports → .ok (m, flagged₂) ∈ q.reports →
    ∀ s, Network.id W s ≠ id →
      ∀ x y, (Handle.stream s, x) ∈ flagged₁ → (Handle.stream s, y) ∈ flagged₂ → x = y

namespace SameReports

variable [Network W σ] {id : ConnectionId} {p q : Performed σ}

/-- Calls in which the poller reports nothing. -/
theorem of_reports_eq_nil (hp : p.reports = []) (hq : q.reports = []) : SameReports W id p q where
  first := by
    rw [Performed.Reported, hp]
    exact List.forall_mem_nil _
  second := by
    rw [Performed.Reported, hq]
    exact List.forall_mem_nil _
  same n m flagged₁ flagged₂ hmem := by
    rw [hp] at hmem
    cases hmem

/-- Calls in which the poller calls every stream ready. -/
theorem of_all_ready (flagged₁ flagged₂ : List (Handle σ × Bool))
    (hp : p.reports = [.ok (flagged₁.countP (·.2), flagged₁)])
    (hq : q.reports = [.ok (flagged₂.countP (·.2), flagged₂)])
    (h₁ : ∀ e ∈ flagged₁, e.2 = true) (h₂ : ∀ e ∈ flagged₂, e.2 = true) :
    SameReports W id p q where
  first := by
    rw [Performed.Reported, hp]
    exact List.forall_mem_singleton.2 ⟨flagged₁, rfl⟩
  second := by
    rw [Performed.Reported, hq]
    exact List.forall_mem_singleton.2 ⟨flagged₂, rfl⟩
  same n m r₁ r₂ hr₁ hr₂ s _ x y hx hy := by
    rw [hp] at hr₁
    rw [hq] at hr₂
    cases List.mem_singleton.1 hr₁
    cases List.mem_singleton.1 hr₂
    exact (h₁ _ hx).trans (h₂ _ hy).symm

end SameReports

/-- What stands beside the image of a member that no other member shares. -/
theorem mem_zip_map {α β γ : Type} {f : α → γ} {l : List α} {a : α}
    (hf : ∀ x ∈ l, f x = f a → x = a) (ys : List β) (y : β) :
    (f a, y) ∈ (l.map f).zip ys ↔ (a, y) ∈ l.zip ys := by
  rw [List.zip_map_left, List.mem_map]
  constructor
  · rintro ⟨⟨x, y'⟩, hxy, heq⟩
    obtain ⟨hx, rfl⟩ := Prod.mk.inj heq
    rwa [hf x (List.of_mem_zip hxy).1 hx] at hxy
  · exact fun h ↦ ⟨(a, y), h, rfl⟩

section Polls

variable [Network W σ] {core : Core σ} {id : ConnectionId} {c : Connection σ}

/-- What a receive pass of a created engine leaves and says. -/
theorem Scene.perform_poll (scene : Scene W σ) (hcreated : scene.engine.lifecycle = .created core) :
    (scene.perform .poll).scene.engine.lifecycle = .created (core.poll scene.world).core ∧
      (scene.perform .poll).events = (core.poll scene.world).events := by
  have hquiet : ¬(Call.poll : Call σ).IsQuiet := not_false
  rw [scene.perform_eq_respond hcreated hquiet nofun]
  exact ⟨rfl, rfl⟩

/-- A receive pass with connections has asked the poller. -/
theorem Core.waitReady_mem_poll (hc : (id, c) ∈ core.destinations.toList) (w : W) :
    .waitReady (core.streams.map .stream) .zero
      (Network.waitReady (core.streams.map .stream) .zero w).1 ∈ (core.poll w).events := by
  have hsome : ¬core.destinations.isEmpty = true := by
    intro hempty
    rw [core.destinations.isEmpty_iff.1 hempty] at hc
    cases hc
  rw [poll, if_neg hsome]
  dsimp only
  split
  · rename_i hasked
    rw [hasked]
    exact List.mem_cons_self
  · rename_i hasked
    rw [hasked]
    split <;> exact List.mem_cons_self

/-- A true report says which connections a receive pass reads. -/
theorem Core.picks_iff_flagged (hkeyed : Keyed W core.destinations.toList)
    (hc : (id, c) ∈ core.destinations.toList) (w : W) {result : Except TransmitError (Reply σ)}
    (hreported : (⟨.poll, result, (core.poll w).events⟩ : Performed σ).Reported) :
    ∃ n flagged,
      .ok (n, flagged) ∈ (⟨.poll, result, (core.poll w).events⟩ : Performed σ).reports ∧
        (∃ x, (Handle.stream c.stream, x) ∈ flagged) ∧
        (core.Picks w id ↔ (Handle.stream c.stream, true) ∈ flagged) := by
  have hmem := (List.mem_filterMap (f := Event.report?)).2
    ⟨_, core.waitReady_mem_poll hc w, rfl⟩
  obtain ⟨flagged, hflagged⟩ := hreported _ hmem
  rw [hflagged] at hmem
  refine ⟨_, flagged, hmem, ?_⟩
  rw [Picks]
  cases hanswer : (Network.waitReady (core.streams.map .stream) .zero w).1 with
  | error e =>
    rw [hanswer] at hflagged
    cases hflagged
  | ok answer =>
    rw [hanswer] at hflagged
    obtain ⟨hcount, hzip⟩ := Prod.mk.inj (Except.ok.inj hflagged)
    rw [List.length_map] at hzip
    let handle : ConnectionId × Connection σ → Handle σ := fun e ↦ .stream e.2.stream
    have hhandles : core.streams.map Handle.stream = core.destinations.toList.map handle :=
      List.map_map
    have hkey : ∀ e ∈ core.destinations.toList, e.1 = id → e = (id, c) := fun e he heq ↦
      List.inj_on_of_nodup_map core.destinations.nodup_keys he hc heq
    have hhandle : ∀ e ∈ core.destinations.toList, handle e = handle (id, c) → e = (id, c) := by
      intro e he heq
      refine hkey e he ?_
      rw [← hkeyed e he, Handle.stream.inj heq, hkeyed _ hc]
    rw [hhandles] at hzip
    have hflag : (id, true) ∈ core.destinations.keys.zip
        (Readiness.fit core.streams.length answer.flags) ↔ (handle (id, c), true) ∈ flagged := by
      rw [← hzip, mem_zip_map hhandle, Registry.keys]
      exact mem_zip_map (f := fun e : ConnectionId × Connection σ ↦ e.1) (a := (id, c)) hkey _ _
    refine ⟨?_, ?_⟩
    · have hlength : (core.destinations.toList.map handle).length
          = (Readiness.fit core.streams.length answer.flags).length := by
        rw [Readiness.length_fit, ← hhandles, List.length_map]
      have hhere : handle (id, c) ∈ flagged.map (·.1) := by
        rw [← hzip, List.map_fst_zip (Nat.le_of_eq hlength)]
        exact List.mem_map_of_mem hc
      obtain ⟨⟨_, x⟩, hx, rfl⟩ := List.mem_map.1 hhere
      exact ⟨x, hx⟩
    · rw [← hflag]
      constructor
      · rintro ⟨_, ⟨rfl⟩, -, hid⟩
        exact hid
      · intro hid
        refine ⟨answer, rfl, ?_, hid⟩
        -- What is flagged has been counted.
        rw [hcount]
        exact Nat.ne_of_gt (List.countP_pos_iff.2 ⟨_, hflag.1 hid, rfl⟩)

end Polls

/-! ## Twins -/

/-- Two engines that look the same from one connection. -/
structure Twins (W : Type) [Network W σ] (id : ConnectionId) (first second : Scene W σ) : Prop where
  outline : first.outline = second.outline
  /-- Connections are registered under their own identities. -/
  keyed₁ : Keyed W first.engine.lifecycle.entries
  keyed₂ : Keyed W second.engine.lifecycle.entries
  enrolled : ∃ c?, Enrolled first.engine.lifecycle.entries id c? ∧
    Enrolled second.engine.lifecycle.entries id c?

namespace Twins

variable [Network W σ] {id other : ConnectionId} {first second : Scene W σ}

/-- An engine in two worlds. -/
theorem of_worlds {scene : Scene W σ} (hkeyed : Keyed W scene.engine.lifecycle.entries)
    (id : ConnectionId) (w₁ w₂ : W) :
    Twins W id { scene with world := w₁ } { scene with world := w₂ } := by
  obtain ⟨c?, hc⟩ := exists_enrolled scene.engine.lifecycle.nodup_entries id
  refine ⟨?_, hkeyed, hkeyed, c?, hc, hc⟩
  refine congrArg (Outline.mk _) (funext fun abort ↦ ?_)
  cases abort <;> rfl

/-- The poller treats a connection the same in both engines. -/
theorem picks_iff {core₁ core₂ : Core σ} {c : Connection σ}
    (hkeyed₁ : Keyed W core₁.destinations.toList) (hkeyed₂ : Keyed W core₂.destinations.toList)
    (hc₁ : (id, c) ∈ core₁.destinations.toList) (hc₂ : (id, c) ∈ core₂.destinations.toList)
    (hid : id ≠ other) {w₁ w₂ : W} {result₁ result₂ : Except TransmitError (Reply σ)}
    (hreports : SameReports W other ⟨.poll, result₁, (core₁.poll w₁).events⟩
      ⟨.poll, result₂, (core₂.poll w₂).events⟩) : core₁.Picks w₁ id ↔ core₂.Picks w₂ id := by
  obtain ⟨n, flagged₁, hmem₁, ⟨x, hx⟩, hpicks₁⟩ :=
    Core.picks_iff_flagged hkeyed₁ hc₁ w₁ hreports.first
  obtain ⟨m, flagged₂, hmem₂, ⟨y, hy⟩, hpicks₂⟩ :=
    Core.picks_iff_flagged hkeyed₂ hc₂ w₂ hreports.second
  have hstream : Network.id W c.stream ≠ other := by
    rw [hkeyed₁ _ hc₁]
    exact hid
  have hsame := hreports.same n m flagged₁ flagged₂ hmem₁ hmem₂ c.stream hstream
  rw [hpicks₁, hpicks₂]
  constructor
  · intro h
    rw [hsame true y h hy]
    exact hy
  · intro h
    rw [← hsame x true hx h]
    exact hx

/-- A call of created twins means the same for the connection in both. -/
theorem perform_created {core₁ core₂ : Core σ} (h₁ : first.engine.lifecycle = .created core₁)
    (h₂ : second.engine.lifecycle = .created core₂) (hsettings : core₁.settings = core₂.settings)
    (hkeyed₁ : Keyed W core₁.destinations.toList) (hkeyed₂ : Keyed W core₂.destinations.toList)
    {c? : Option (Connection σ)} (hc₁ : Enrolled core₁.destinations.toList id c?)
    (hc₂ : Enrolled core₂.destinations.toList id c?) (hid : id ≠ other) (call : Call σ)
    (hreports : SameReports W other (first.performed call) (second.performed call))
    {rest₁ rest₂ : List (Event σ)}
    (hanswers : SameAnswers (about W id (first.perform call).events ++ rest₁)
      (about W id (second.perform call).events ++ rest₂)) :
    about W id (first.perform call).events = about W id (second.perform call).events ∧
      ∃ next, Enrolled (first.perform call).scene.engine.lifecycle.entries id next ∧
        Enrolled (second.perform call).scene.engine.lifecycle.entries id next := by
  obtain ⟨picked, hpicked₁⟩ : ∃ picked : Bool, picked = true ↔ core₁.Picks first.world id := by
    by_cases hpicks : core₁.Picks first.world id
    · exact ⟨true, fun _ ↦ hpicks, fun _ ↦ rfl⟩
    · exact ⟨false, nofun, fun h ↦ absurd h hpicks⟩
  have hpicked₂ : call = .poll → c?.isSome = true →
      (picked = true ↔ core₂.Picks second.world id) := by
    rintro rfl hsome
    obtain ⟨c, rfl⟩ := Option.isSome_iff_exists.1 hsome
    rw [Scene.performed, Scene.performed, (first.perform_poll h₁).2, (second.perform_poll h₂).2]
      at hreports
    exact hpicked₁.trans (picks_iff hkeyed₁ hkeyed₂ ((hc₁ c).2 rfl) ((hc₂ c).2 rfl) hid hreports)
  obtain ⟨answers₁, habout₁, hnext₁⟩ :=
    first.perform_fate h₁ hkeyed₁ hc₁ call fun _ _ ↦ hpicked₁
  obtain ⟨answers₂, habout₂, hnext₂⟩ := second.perform_fate h₂ hkeyed₂ hc₂ call hpicked₂
  rw [← Core.fate_congr hsettings] at habout₂ hnext₂
  rw [habout₁, habout₂] at hanswers ⊢
  have hfate := Core.fate_unique hanswers
  rw [← hfate] at hnext₂ ⊢
  exact ⟨rfl, _, hnext₁, hnext₂⟩

/-- Twins stay twins, and a call says the same of the connection in both. -/
theorem perform (h : Twins W id first second) (hid : id ≠ other) (call : Call σ)
    (hreports : SameReports W other (first.performed call) (second.performed call))
    {rest₁ rest₂ : List (Event σ)}
    (hanswers : SameAnswers (about W id (first.perform call).events ++ rest₁)
      (about W id (second.perform call).events ++ rest₂)) :
    about W id (first.perform call).events = about W id (second.perform call).events ∧
      Twins W id (first.perform call).scene (second.perform call).scene := by
  obtain ⟨houtline, hkeyed₁, hkeyed₂, c?, hc₁, hc₂⟩ := h
  have hstage : first.engine.lifecycle.stage = second.engine.lifecycle.stage :=
    congrArg Outline.stage houtline
  have hafter : (first.perform call).scene.outline = (second.perform call).scene.outline := by
    rw [first.perform_outline, second.perform_outline, houtline]
  have hkept₁ := (first.perform_effect hkeyed₁ call).keyed hkeyed₁
  have hkept₂ := (second.perform_effect hkeyed₂ call).keyed hkeyed₂
  by_cases hcreated : ∃ core, first.engine.lifecycle = .created core
  · obtain ⟨core₁, h₁⟩ := hcreated
    obtain ⟨core₂, h₂, hsettings⟩ : ∃ core, second.engine.lifecycle = .created core ∧
        core₁.settings = core.settings := by
      rw [h₁] at hstage
      cases hsecond : second.engine.lifecycle with
      | created core =>
        rw [hsecond] at hstage
        exact ⟨core, rfl, Stage.created.inj hstage⟩
      | _ =>
        rw [hsecond] at hstage
        cases hstage
    rw [h₁] at hkeyed₁ hc₁
    rw [h₂] at hkeyed₂ hc₂
    obtain ⟨habout, henrolled⟩ := perform_created h₁ h₂ hsettings hkeyed₁ hkeyed₂ hc₁ hc₂ hid call
      hreports hanswers
    exact ⟨habout, hafter, hkept₁, hkept₂, henrolled⟩
  · -- Before creation there is nothing to tell the twins apart.
    have hidle₁ : ∀ core, first.engine.lifecycle ≠ .created core := fun core h₁ ↦
      hcreated ⟨core, h₁⟩
    have hidle₂ : ∀ core, second.engine.lifecycle ≠ .created core := by
      intro core h₂
      rw [h₂] at hstage
      cases hfirst : first.engine.lifecycle with
      | created core => exact hidle₁ core hfirst
      | _ =>
        rw [hfirst] at hstage
        cases hstage
    refine ⟨?_, hafter, hkept₁, hkept₂, none, ?_⟩
    · rw [(first.perform_impersonal_of_idle hidle₁ call).about_eq_nil,
        (second.perform_impersonal_of_idle hidle₂ call).about_eq_nil]
    · rw [first.perform_entries_of_idle hidle₁, second.perform_entries_of_idle hidle₂]
      exact ⟨enrolled_nil σ id, enrolled_nil σ id⟩

end Twins

/-! ## What a connection can tell -/

/-- All that a call shows of a connection. -/
@[ext]
structure View (σ : Type) where
  /-- What the history says of it: its reads and writes with their answers, its frames with the
  verdicts of the filter, and the reports that it is dropped. -/
  said : List (Event σ)
  /-- The packets of it that a receive pass has put into the queue. -/
  queued : List (ConnectionId × Bytes)
  /-- Whether it is registered afterwards. -/
  registered : Bool

namespace Scene

/-- The packets that a receive pass has put into the queue. -/
def enqueued [Network W σ] (scene : Scene W σ) : Call σ → List Packet
  | .poll =>
    (scene.perform .poll).scene.engine.lifecycle.queue.drop scene.engine.lifecycle.queue.length
  | _ => []

/-- What a call shows of a connection. -/
def view [Network W σ] (scene : Scene W σ) (id : ConnectionId) (call : Call σ) : View σ where
  said := about W id (scene.perform call).events
  queued := ((scene.enqueued call).filter (·.source = id)).map Packet.origin
  registered := id ∈ (scene.perform call).scene.engine.lifecycle.entries.map (·.1)

/-- What the calls of a run show of a connection, one after the other. -/
def views [Network W σ] (scene : Scene W σ) (id : ConnectionId) : List (Call σ) → List (View σ)
  | [] => []
  | call :: calls => scene.view id call :: (scene.perform call).scene.views id calls

variable [Network W σ] {id : ConnectionId} {first second : Scene W σ}

/-- The packets of a connection in the queue are its accepted frames, and these are said of it. -/
theorem queued_view (scene : Scene W σ) (id : ConnectionId) (call : Call σ) :
    (scene.view id call).queued = match call with
      | .poll => accepted (scene.view id call).said
      | _ => [] := by
  cases call with
  | poll =>
    by_cases hcreated : ∃ core, scene.engine.lifecycle = .created core
    · obtain ⟨core, hcreated⟩ := hcreated
      obtain ⟨arrived, hqueue, horigin⟩ := (core.booked_poll scene.world).queue
      obtain ⟨hafter, hevents⟩ := scene.perform_poll hcreated
      rw [view, enqueued, hafter, hcreated, hevents, Lifecycle.queue, Lifecycle.queue, hqueue,
        List.drop_left]
      dsimp only
      rw [accepted_about, ← horigin, List.filter_map]
      rfl
    · have hidle : ∀ core, scene.engine.lifecycle ≠ .created core := fun core h ↦
        hcreated ⟨core, h⟩
      have hqueue : (scene.perform .poll).scene.engine.lifecycle.queue = [] := by
        rw [scene.perform_lifecycle_of_idle hidle .poll (fun _ h ↦ by cases h)
          (fun _ _ h ↦ by cases h) (fun h ↦ by cases h)]
        cases hstage : scene.engine.lifecycle with
        | created core => exact absurd hstage (hidle core)
        | _ => rfl
      rw [view, enqueued, hqueue, List.drop_nil,
        (scene.perform_impersonal_of_idle hidle .poll).about_eq_nil]
      rfl
  | _ => rfl

/-- What a call shows of a connection is the same in twins. -/
theorem view_eq {other : ConnectionId} (h : Twins W id first second) (hid : id ≠ other)
    (call : Call σ)
    (hreports : SameReports W other (first.performed call) (second.performed call))
    {rest₁ rest₂ : List (Event σ)}
    (hanswers : SameAnswers (about W id (first.perform call).events ++ rest₁)
      (about W id (second.perform call).events ++ rest₂)) :
    first.view id call = second.view id call := by
  obtain ⟨habout, -, -, -, c?, hc₁, hc₂⟩ := h.perform hid call hreports hanswers
  have hqueued : (first.view id call).queued = (second.view id call).queued := by
    rw [queued_view, queued_view]
    have hsaid : (first.view id call).said = (second.view id call).said := habout
    rw [hsaid]
  have hregistered : (first.view id call).registered = (second.view id call).registered :=
    decide_eq_decide.2 (hc₁.mem_keys_iff.trans hc₂.mem_keys_iff.symm)
  exact View.ext habout hqueued hregistered

/-- What a run shows of a connection is the same in twins. -/
theorem views_eq {other : ConnectionId} (h : Twins W id first second) (hid : id ≠ other)
    (calls : List (Call σ))
    (hreports : List.Forall₂ (SameReports W other) (first.run calls).1 (second.run calls).1)
    (hanswers : SameAnswers (about W id ((first.run calls).1.flatMap (·.events)))
      (about W id ((second.run calls).1.flatMap (·.events)))) :
    first.views id calls = second.views id calls := by
  induction calls generalizing first second with
  | nil => rfl
  | cons call calls ih =>
    obtain ⟨hhere, hlater⟩ := List.forall₂_cons.1 hreports
    rw [run_cons, run_cons, List.flatMap_cons, List.flatMap_cons, about_append, about_append]
      at hanswers
    obtain ⟨habout, hafter⟩ := h.perform hid call hhere hanswers
    rw [views, views, view_eq h hid call hhere hanswers]
    have habout' : about W id (first.performed call).events
        = about W id (second.performed call).events := habout
    rw [habout'] at hanswers
    rw [ih hafter hlater hanswers.of_append]

/-- Streams of one identity disturb no other connection. Let an engine make the same calls in two
worlds. Let the poller not fail, count truly, and treat all streams but those of one identity the
same, and let the streams of every other identity behave the same. Then every call shows the same of
every other identity, whatever the streams of that one do.

The engine may be in any state in which connections are registered under their own identities. Every
run keeps that, and a new engine has no connections. -/
theorem views_eq_of_ne (scene : Scene W σ) (hkeyed : Keyed W scene.engine.lifecycle.entries)
    (noisy : ConnectionId) (w₁ w₂ : W) (calls : List (Call σ)) :
    let first : Scene W σ := { scene with world := w₁ }
    let second : Scene W σ := { scene with world := w₂ }
    List.Forall₂ (SameReports W noisy) (first.run calls).1 (second.run calls).1 →
    (∀ id, id ≠ noisy → SameAnswers (about W id ((first.run calls).1.flatMap (·.events)))
      (about W id ((second.run calls).1.flatMap (·.events)))) →
    ∀ id, id ≠ noisy → first.views id calls = second.views id calls := by
  intro first second hreports hanswers id hid
  exact views_eq (.of_worlds hkeyed id w₁ w₂) hid calls hreports (hanswers id hid)

deriving instance DecidableEq for Event

/-- Two streams with two frames each. -/
def calmWorld : Scripted.World :=
  ⟨[("noisy", ⟨[.data [0, 1, 5] none, .data [0, 1, 6] none], false, [], none⟩),
    ("other", ⟨[.data [0, 1, 7] none, .data [0, 1, 8] none], false, [], none⟩)], []⟩

/-- The first stream brings a length that is refused, and ends. -/
def noisyWorld : Scripted.World :=
  ⟨[("noisy", ⟨[.data [255, 255] none], true, [], none⟩),
    ("other", ⟨[.data [0, 1, 7] none, .data [0, 1, 8] none], false, [], none⟩)], []⟩

/-- An engine without connections, with an error hook. -/
def sharedScene : Scene Scripted.World Scripted.Stream :=
  ((⟨.new, [], .empty⟩ : Scene Scripted.World Scripted.Stream).run
    [.init false, .create 4 ⟨none, true, .acceptAll⟩]).2

/-- Two receive passes with a payload sent in between. -/
def sharedCalls : List (Call Scripted.Stream) :=
  [.addDestination ⟨"noisy", ⟨2⟩⟩, .addDestination ⟨"other", ⟨1⟩⟩, .poll, .sendRtp [9], .poll]

/-- A noisy stream is dropped, and the other one does not notice. -/
theorem views_eq_noisyWorld :
    let first : Scene Scripted.World Scripted.Stream := { sharedScene with world := calmWorld }
    let second : Scene Scripted.World Scripted.Stream := { sharedScene with world := noisyWorld }
    first.views ⟨1⟩ sharedCalls = second.views ⟨1⟩ sharedCalls ∧
      (first.views ⟨1⟩ sharedCalls).map (·.queued) = [[], [], [(⟨1⟩, [7])], [], [(⟨1⟩, [8])]] ∧
      (first.run sharedCalls).2.engine.lifecycle.entries.map (·.1) = [⟨2⟩, ⟨1⟩] ∧
      (second.run sharedCalls).2.engine.lifecycle.entries.map (·.1) = [⟨1⟩] := by
  intro first second
  have hkeyed : Keyed Scripted.World sharedScene.engine.lifecycle.entries := List.forall_mem_nil _
  -- The poller calls every stream ready in each pass.
  let both : List (Handle Scripted.Stream × Bool) :=
    [(.stream ⟨"noisy", ⟨2⟩⟩, true), (.stream ⟨"other", ⟨1⟩⟩, true)]
  have hreports : List.Forall₂ (SameReports Scripted.World ⟨2⟩) (first.run sharedCalls).1
      (second.run sharedCalls).1 := by
    refine .cons ?_ (.cons ?_ (.cons ?_ (.cons ?_ (.cons ?_ .nil))))
    · exact .of_reports_eq_nil rfl rfl
    · exact .of_reports_eq_nil rfl rfl
    · exact .of_all_ready both both (by decide +kernel)
        (by decide +kernel) (by decide) (by decide)
    · exact .of_reports_eq_nil rfl rfl
    · exact .of_all_ready both [(.stream ⟨"other", ⟨1⟩⟩, true)]
        (by decide +kernel) (by decide +kernel) (by decide) (by decide)
  -- Of all other identities there is nothing to say.
  have hanswers : ∀ events₁ events₂ : List (Event Scripted.Stream),
      about Scripted.World ⟨1⟩ events₁ = about Scripted.World ⟨1⟩ events₂ →
        (∀ event ∈ events₁, event.subject? Scripted.World ∈ [none, some ⟨1⟩, some ⟨2⟩]) →
          ∀ id, id ≠ ⟨2⟩ →
            SameAnswers (about Scripted.World id events₁) (about Scripted.World id events₂) := by
    intro events₁ events₂ hsame hsubjects id hid
    by_cases hone : id = ⟨1⟩
    · subst hone
      exact .of_eq hsame
    · rw [about_eq_nil fun event hevent hsubject ↦ ?_]
      · trivial
      · have hmem := hsubjects event hevent
        rw [hsubject] at hmem
        simp [hone, hid] at hmem
  have hviews := views_eq_of_ne sharedScene hkeyed ⟨2⟩ calmWorld noisyWorld sharedCalls hreports
    (hanswers _ _ (by decide +kernel) (by decide +kernel)) ⟨1⟩ (by decide)
  exact ⟨hviews, by decide +kernel, by decide +kernel, by decide +kernel⟩

end Scene

end StreamRtp
