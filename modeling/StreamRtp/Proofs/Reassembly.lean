import StreamRtp.Proofs.CallEffect
import StreamRtp.Scripted.Stream

/-!
# Reassembly over a whole run

From the registration of a connection to the next registration under the same identity an engine
completes the frames that an assembler completes which is made with the limit of that moment, takes
what the receive passes read at the connection, and is given the new limits at the same points. So
what was read at other connections, what was read before the registration and what lies in the
shared buffer enters no frame, and how the bytes are spread over receive passes makes no difference.

## The argument

`Evolves` relates what was registered to what is registered later, for one identity: if it was not
there, it is not there later, and no frame is completed; if it was there, the frames are those of a
replay, and an assembler that is left is the one that the replay leaves. Every call that does not
register the identity does this, and it can be put together along a run. What is carried along the
run up to the registration is that connections are registered under their own identities and that
the limit of the engine is the one that was put in force last.
-/

namespace StreamRtp

variable {W σ : Type}

/-- The limit that calls have put in force, after another one. -/
def limitAfter (limit : Nat) (history : List (Performed σ)) : Nat :=
  history.foldl (fun limit p ↦ p.limit?.getD limit) limit

/-- The calls up to the next one that registers a connection under an identity. -/
def tenure (id : ConnectionId) (later : List (Performed σ)) : List (Performed σ) :=
  later.takeWhile (·.registered? ≠ some id)

/-! ## One identity along a run -/

/-- How what is registered under an identity evolves, while the assembler is given feedings and
frames are completed. -/
structure Evolves (id : ConnectionId) (entries later : List (ConnectionId × Connection σ))
    (feedings : List Feeding) (frames : List Bytes) : Prop where
  absent : id ∉ entries.map (·.1) →
    id ∉ later.map (·.1) ∧ frames = [] ∧ ∀ a : Assembler, (a.replay feedings).1 = []
  present : ∀ c, (id, c) ∈ entries →
    frames = (c.assembler.replay feedings).1 ∧
      ∀ c', (id, c') ∈ later → c'.assembler = (c.assembler.replay feedings).2

namespace Evolves

variable {id : ConnectionId} {entries middle later : List (ConnectionId × Connection σ)}
  {feedings feedings₁ feedings₂ : List Feeding} {frames frames₁ frames₂ : List Bytes}

/-- An identity without feedings and frames keeps what it has, or nothing. -/
theorem of_subset (hnodup : (entries.map (·.1)).Nodup)
    (hlater : ∀ c, (id, c) ∈ later → (id, c) ∈ entries) : Evolves id entries later [] [] where
  absent hid := by
    refine ⟨fun hmem ↦ hid ?_, rfl, fun _ ↦ rfl⟩
    obtain ⟨⟨_, c⟩, he, rfl⟩ := List.mem_map.1 hmem
    exact List.mem_map_of_mem (hlater c he)
  present c hc := by
    refine ⟨rfl, fun c' hc' ↦ ?_⟩
    cases List.inj_on_of_nodup_map hnodup (hlater c' hc') hc rfl
    rfl

theorem trans (h₁ : Evolves id entries middle feedings₁ frames₁)
    (h₂ : Evolves id middle later feedings₂ frames₂) :
    Evolves id entries later (feedings₁ ++ feedings₂) (frames₁ ++ frames₂) where
  absent hid := by
    obtain ⟨hmiddle, hframes₁, hreplay₁⟩ := h₁.absent hid
    obtain ⟨hlater, hframes₂, hreplay₂⟩ := h₂.absent hmiddle
    refine ⟨hlater, by rw [hframes₁, hframes₂, List.append_nil], fun a ↦ ?_⟩
    rw [Assembler.replay_append, hreplay₁, hreplay₂, List.append_nil]
  present c hc := by
    obtain ⟨hframes₁, hlast₁⟩ := h₁.present c hc
    rw [Assembler.replay_append]
    -- In between, the connection is still there with the assembler of the replay, or given up.
    by_cases hmiddle : id ∈ middle.map (·.1)
    · obtain ⟨⟨_, c₁⟩, hc₁, rfl⟩ := List.mem_map.1 hmiddle
      obtain ⟨hframes₂, hlast₂⟩ := h₂.present c₁ hc₁
      rw [← hlast₁ c₁ hc₁, ← hframes₁, ← hframes₂]
      exact ⟨rfl, hlast₂⟩
    · obtain ⟨hlater, hframes₂, hreplay₂⟩ := h₂.absent hmiddle
      rw [hframes₂, hreplay₂, ← hframes₁]
      exact ⟨rfl, fun c' hc' ↦ absurd (List.mem_map_of_mem hc') hlater⟩

end Evolves

section Calls

variable [Network W σ] {before after : Lifecycle σ} {p : Performed σ} {id : ConnectionId}

/-- A call that does not register the identity. -/
theorem CallEffect.evolves (h : CallEffect W before p after) (hid : p.registered? ≠ some id) :
    Evolves id before.entries after.entries (p.feedings W id) (p.frames id) := by
  have hnodup := before.nodup_entries
  cases h with
  | pass _ _ hfeedings hpasses _ =>
    rw [hfeedings, Performed.frames]
    refine ⟨fun hid ↦ ?_, fun c hc ↦ ?_⟩
    · obtain ⟨hframes, hreads⟩ := hpasses.others id hid
      rw [hreads]
      exact ⟨hpasses.notMem_kept hid, hframes, fun _ ↦ rfl⟩
    · obtain ⟨hframes, hlast⟩ := hpasses.own (id, c) hc
      exact ⟨hframes, fun c' hc' ↦ hlast (id, c') hc' rfl⟩
  | create n _ _ hfeedings hframes hbefore hentries _ =>
    rw [hfeedings, hframes, hentries]
    exact .of_subset hnodup nofun
  | limit n _ _ hfeedings hframes hentries _ =>
    rw [hfeedings, hframes, hentries]
    refine ⟨fun hid ↦ ⟨?_, rfl, fun _ ↦ rfl⟩, fun c hc ↦ ⟨rfl, fun c' hc' ↦ ?_⟩⟩
    · rw [relimit, List.map_map]
      exact hid
    · obtain ⟨⟨_, c₀⟩, hc₀, heq⟩ := List.mem_map.1 hc'
      cases heq
      cases List.inj_on_of_nodup_map hnodup hc₀ hc rfl
      rfl
  | register n stream _ hregistered hfeedings hframes _ hentries _ _ =>
    rw [hfeedings, hframes, hentries]
    refine .of_subset hnodup fun c hc ↦ ?_
    rcases List.mem_append.1 hc with hc | hc
    · exact hc
    · cases List.mem_singleton.1 hc
      exact absurd hregistered hid

end Calls

/-! ## Runs -/

namespace Scene

variable [Network W σ] {scene : Scene W σ} {calls : List (Call σ)} {id : ConnectionId}

/-- A history in two parts is the history of two runs, one after the other. -/
theorem exists_of_run_eq_append {first second : List (Performed σ)}
    (h : (scene.run calls).1 = first ++ second) : ∃ calls₁ calls₂,
      calls = calls₁ ++ calls₂ ∧ (scene.run calls₁).1 = first ∧
        ((scene.run calls₁).2.run calls₂).1 = second := by
  induction first generalizing scene calls with
  | nil => exact ⟨[], calls, rfl, rfl, h⟩
  | cons p first ih =>
    cases calls with
    | nil => cases h
    | cons call calls =>
      rw [run_cons, List.cons_append] at h
      obtain ⟨hp, hrest⟩ := List.cons_eq_cons.1 h
      obtain ⟨calls₁, calls₂, rfl, hfirst, hsecond⟩ := ih hrest
      refine ⟨call :: calls₁, calls₂, rfl, ?_, hsecond⟩
      rw [run_cons, hp, hfirst]

/-- Along a run connections are registered under their own identities, and the limit of the engine
is the one that was put in force last. -/
theorem standing_run (scene : Scene W σ) (calls : List (Call σ)) (limit : Nat)
    (hkeyed : Keyed W scene.engine.lifecycle.entries)
    (hlimit : ∀ n, scene.engine.lifecycle.limit? = some n → n = limit) :
    Keyed W (scene.run calls).2.engine.lifecycle.entries ∧
      ∀ n, (scene.run calls).2.engine.lifecycle.limit? = some n →
        n = limitAfter limit (scene.run calls).1 := by
  induction calls generalizing scene limit with
  | nil => exact ⟨hkeyed, hlimit⟩
  | cons call calls ih =>
    have heffect := scene.perform_effect hkeyed call
    exact ih _ _ (heffect.keyed hkeyed) fun n ↦ heffect.limit_eq hlimit

/-- Until the identity is registered again. -/
theorem exists_evolves_tenure (scene : Scene W σ) (id : ConnectionId) (calls : List (Call σ))
    (hkeyed : Keyed W scene.engine.lifecycle.entries) : ∃ later,
      Evolves id scene.engine.lifecycle.entries later
        ((tenure id (scene.run calls).1).flatMap (·.feedings W id))
        ((tenure id (scene.run calls).1).flatMap (·.frames id)) := by
  induction calls generalizing scene with
  | nil => exact ⟨_, .of_subset scene.engine.lifecycle.nodup_entries fun _ hc ↦ hc⟩
  | cons call calls ih =>
    rw [run_cons, tenure]
    -- The tenure ends with the first call that registers the identity.
    by_cases hid : (scene.performed call).registered? = some id
    · rw [List.takeWhile_cons_of_neg (by simpa using hid)]
      exact ⟨_, .of_subset scene.engine.lifecycle.nodup_entries fun _ hc ↦ hc⟩
    · have heffect := scene.perform_effect hkeyed call
      obtain ⟨later, hlater⟩ := ih _ (heffect.keyed hkeyed)
      rw [List.takeWhile_cons_of_pos (by simpa using hid), List.flatMap_cons, List.flatMap_cons]
      exact ⟨later, (heffect.evolves hid).trans hlater⟩

/-- The frames that are completed for a connection, from its registration to the next one under its
identity, are those that a new assembler completes out of what the receive passes read there. How
the bytes are spread over the passes makes no difference. -/
theorem run_frames_eq_replay (channels : List AbortChannel) (world : W)
    {before after : List (Performed σ)} {p : Performed σ}
    (h : ((⟨.new, channels, world⟩ : Scene W σ).run calls).1 = before ++ p :: after)
    (hp : p.registered? = some id) :
    (tenure id after).flatMap (·.frames id)
        = ((Assembler.ofLimit (limitAfter 0 before)).replay
            ((tenure id after).flatMap (·.feedings W id))).1 ∧
      (tenure id after).flatMap (·.frames id)
        = ((Assembler.ofLimit (limitAfter 0 before)).replay
            (Feeding.merge ((tenure id after).flatMap (·.feedings W id)))).1 := by
  rw [Assembler.replay_merge, and_self]
  obtain ⟨calls₁, calls₂, -, hbefore, hrest⟩ := exists_of_run_eq_append h
  obtain ⟨hkeyed, hlimit⟩ :=
    standing_run (⟨.new, channels, world⟩ : Scene W σ) calls₁ 0 (List.forall_mem_nil _) nofun
  rw [hbefore] at hlimit
  -- From here on only what is known of the scene before the registration matters.
  generalize ((⟨.new, channels, world⟩ : Scene W σ).run calls₁).2 = scene at hrest hkeyed hlimit
  cases calls₂ with
  | nil => cases hrest
  | cons call calls₂ =>
    rw [run_cons] at hrest
    obtain ⟨rfl, rfl⟩ := List.cons_eq_cons.1 hrest
    have heffect := scene.perform_effect hkeyed call
    obtain ⟨later, hlater⟩ :=
      exists_evolves_tenure (scene.perform call).scene id calls₂ (heffect.keyed hkeyed)
    cases heffect with
    | pass _ hregistered _ _ _ | create _ _ hregistered _ _ _ _ _
    | limit _ _ hregistered _ _ _ _ =>
      -- None of these registers anything.
      cases hregistered.symm.trans hp
    | register n stream _ hregistered _ _ _ hentries hlast _ =>
      have hid : Network.id W stream = id := Option.some.inj (hregistered.symm.trans hp)
      have hmem : (id, (⟨stream, .ofLimit n⟩ : Connection σ))
          ∈ (scene.perform call).scene.engine.lifecycle.entries := by
        rw [hentries, hid]
        exact List.mem_append_right _ (List.mem_singleton_self _)
      rw [← hlimit n hlast]
      exact (hlater.present _ hmem).1

/-- Two streams. A frame arrives at the first one in two parts. -/
def splitWorld : Scripted.World :=
  ⟨[("a", ⟨[.data [0, 3, 1] none, .data [2, 3] none], false, [], none⟩),
    ("b", ⟨[.data [0, 1, 9] none], false, [], none⟩)], []⟩

/-- Between the parts a limit is set that the frame would exceed. -/
def splitHistory : List (Performed Scripted.Stream) :=
  ((⟨.new, [], splitWorld⟩ : Scene Scripted.World Scripted.Stream).run
    [.init false, .create 4 .default, .addDestination ⟨"a", ⟨1⟩⟩, .addDestination ⟨"b", ⟨2⟩⟩, .poll,
      .setMaxPacketSize 2, .poll]).1

theorem frames_splitHistory : ∃ before p after,
    splitHistory = before ++ p :: after ∧ p.registered? = some ⟨1⟩ ∧
      (tenure ⟨1⟩ after).flatMap (·.frames ⟨1⟩)
        = ((Assembler.ofLimit 4).replay [.bytes [0, 3, 1], .limit 2, .bytes [2, 3]]).1 ∧
      (tenure ⟨1⟩ after).flatMap (·.frames ⟨1⟩) = [[1, 2, 3]] := by
  have hlength : 2 < splitHistory.length := by decide +kernel
  have hsplit : splitHistory
      = splitHistory.take 2 ++ splitHistory[2] :: splitHistory.drop 3 := by
    rw [List.getElem_cons_drop, List.take_append_drop]
  have hregistered : splitHistory[2].registered? = some ⟨1⟩ := by
    have hthird : splitHistory[2]?.bind (·.registered?) = some ⟨1⟩ := by decide +kernel
    rwa [List.getElem?_eq_getElem hlength] at hthird
  have hlimit : limitAfter 0 (splitHistory.take 2) = 4 := by decide +kernel
  have hfeedings : (tenure ⟨1⟩ (splitHistory.drop 3)).flatMap (·.feedings Scripted.World ⟨1⟩)
      = [.bytes [0, 3, 1], .limit 2, .bytes [2, 3]] := by decide +kernel
  have hframes := (run_frames_eq_replay [] splitWorld hsplit hregistered).1
  rw [hlimit, hfeedings] at hframes
  exact ⟨_, _, _, hsplit, hregistered, hframes, hframes.trans (by decide +kernel)⟩

end Scene

end StreamRtp
