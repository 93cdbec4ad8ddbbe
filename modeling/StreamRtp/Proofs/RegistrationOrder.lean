import StreamRtp.Proofs.Outline

/-!
# The order of registration

The registered identities are listed in the order in which they were registered. One call leaves
some of them out and keeps the order of the others, or puts a new one at the end; that is all that
the order depends on. To say what the order is, every listed identity is put down with the number of
the call that registered it last: the numbers increase along the list.
-/

namespace StreamRtp

variable {W σ : Type}

/-! ## The list along a call -/

/-- The registered identities in the order in which they are listed. -/
def Lifecycle.ids (l : Lifecycle σ) : List ConnectionId := l.entries.map (·.1)

/-- What a call can do to the list of registered identities. -/
inductive Listing (before : List ConnectionId) (p : Performed σ) : List ConnectionId → Prop
  /-- Some may be left out. -/
  | shrink (after : List ConnectionId) (hregistered : p.registered? = none)
    (hafter : after.Sublist before) : Listing before p after
  /-- One is registered and comes last. -/
  | grow (id : ConnectionId) (hregistered : p.registered? = some id) (hnew : id ∉ before) :
    Listing before p (before ++ [id])

/-- A walk keeps the order of the keys. -/
theorem sublist_keys_sweep {κ ν ς : Type} (visit : κ → ν → ς → Option ν × ς)
    (entries : List (κ × ν)) (s : ς) :
    ((sweep visit entries s).1.map (·.1)).Sublist (entries.map (·.1)) := by
  induction entries generalizing s with
  | nil => exact .refl _
  | cons e entries ih =>
    have hrest := ih (visit e.1 e.2 s).2
    rw [sweep, List.map_append, List.map_cons, ← List.singleton_append]
    refine List.Sublist.append ?_ hrest
    cases (visit e.1 e.2 s).1 with
    | none => exact List.nil_sublist _
    | some v => exact .refl _

namespace Core

variable [Network W σ] (core : Core σ)

theorem sublist_keys_poll (w : W) :
    (core.poll w).core.destinations.keys.Sublist core.destinations.keys := by
  rcases core.poll_cases w with ⟨hcore, -⟩ | ⟨answer, w', -, -, hpoll⟩
  · rw [hcore]
  · rw [hpoll, Registry.keys, (core.receiveReady_eq_walk _ w').1]
    exact sublist_keys_sweep _ _ _

theorem sublist_keys_send (payload : Bytes) (w : W) :
    (core.send payload w).core.destinations.keys.Sublist core.destinations.keys := by
  rw [send]
  split
  · exact .refl _
  · split
    · exact .refl _
    · dsimp only
      rw [Registry.keys, (Registry.scan_eq_sweep ..).1]
      exact sublist_keys_sweep _ _ _

theorem listing_addDestination (stream : σ) (w : W) :
    Listing core.destinations.keys ⟨.addDestination stream,
        (core.addDestination stream w).result.map .id, (core.addDestination stream w).events⟩
      (core.addDestination stream w).core.destinations.keys := by
  rw [addDestination]
  dsimp only
  split
  · exact .shrink _ rfl (.refl _)
  · split
    · exact .shrink _ rfl (.refl _)
    · split
      · exact .shrink _ rfl (.refl _)
      · rename_i destinations hadd
        obtain ⟨hnew, hlist⟩ := Registry.toList_of_add hadd
        have hkeys : destinations.keys = core.destinations.keys ++ [Network.id W stream] := by
          rw [Registry.keys, hlist, List.map_append]
          rfl
        dsimp only
        rw [hkeys]
        exact .grow (Network.id W stream) rfl hnew

/-- What any call that concerns connections does to the list. -/
theorem listing_respond (w : W) (call : Call σ) (hquiet : ¬call.IsQuiet) :
    Listing core.destinations.keys
      ⟨call, (core.respond w call).result, (core.respond w call).events⟩
      (core.respond w call).core.destinations.keys := by
  cases call with
  | addDestination stream => exact core.listing_addDestination stream w
  | deleteDestination id =>
    refine .shrink _ rfl ?_
    rw [respond, Registry.keys]
    exact (core.toList_deleteDestination id w ▸ List.filter_sublist).map _
  | clearDestinations => exact .shrink _ rfl (List.nil_sublist _)
  | setMaxPacketSize size =>
    refine .shrink _ rfl ?_
    have hlist := core.toList_setMaxPacketSize size w
    rw [respond, CoreOutcome.map, Registry.keys, hlist, relimit, List.map_map]
    exact .refl _
  | poll => exact .shrink _ rfl (core.sublist_keys_poll w)
  | sendRtp payload | sendRtcp payload => exact .shrink _ rfl (core.sublist_keys_send payload w)
  | destroy => exact .shrink _ rfl (.refl _)
  | _ => exact absurd trivial hquiet

end Core

/-- What any call does to the list. -/
theorem Scene.perform_listing [Network W σ] (scene : Scene W σ) (call : Call σ) :
    Listing scene.engine.lifecycle.ids (scene.performed call)
      (scene.perform call).scene.engine.lifecycle.ids := by
  have hplain : ∀ result events, (∀ stream, call ≠ .addDestination stream) →
      (⟨call, result, events⟩ : Performed σ).registered? = none := by
    intro result events hcall
    cases call with
    | addDestination stream => exact absurd rfl (hcall stream)
    | _ => rfl
  obtain ⟨core, hcreated⟩ | hidle := scene.engine.lifecycle.created_or_idle
  · rw [hcreated]
    by_cases hquiet : call.IsQuiet
    · obtain ⟨after, hafter, hsame, -⟩ := (scene.perform_quiet hcreated hquiet).created
      rw [hafter, Lifecycle.ids, Lifecycle.ids, Lifecycle.entries, Lifecycle.entries, hsame]
      refine .shrink _ (hplain _ _ fun stream hcall ↦ ?_) (.refl _)
      rw [hcall] at hquiet
      exact hquiet
    by_cases hcall : call = .destroy
    · subst hcall
      have hgone : (scene.perform .destroy).scene.engine.lifecycle = .uninitialized :=
        scene.lifecycle_destroy
      rw [hgone]
      exact .shrink _ rfl (List.nil_sublist _)
    · rw [performed, scene.perform_eq_respond hcreated hquiet hcall]
      exact core.listing_respond scene.world call hquiet
  · rw [Lifecycle.ids, Lifecycle.ids, scene.perform_entries_of_idle hidle call]
    refine .shrink _ ?_ (List.nil_sublist _)
    -- What is offered is refused.
    cases call with
    | addDestination stream =>
      obtain ⟨e, hrefused⟩ := scene.withCore_of_idle hidle (·.addDestination stream)
      rw [performed, perform, hrefused]
      rfl
    | _ => rfl

/-! ## The list along a run -/

/-- The number of the call that registered an identity last. -/
structure RegisteredAt (history : List (Performed σ)) (id : ConnectionId) (n : Nat) : Prop where
  registered : history[n]?.bind (·.registered?) = some id
  last : ∀ m, n < m → history[m]?.bind (·.registered?) ≠ some id

/-- Identities in the order in which they were registered. The book has them with the numbers of the
calls. -/
def InOrder (history : List (Performed σ)) (ids : List ConnectionId) : Prop :=
  ∃ book : List (ConnectionId × Nat), book.map (·.1) = ids ∧ book.Pairwise (·.2 < ·.2) ∧
    ∀ e ∈ book, RegisteredAt history e.1 e.2

section Order

variable {history : List (Performed σ)} {p : Performed σ} {id : ConnectionId} {n : Nat}
  {before after : List ConnectionId}

theorem RegisteredAt.lt_length (h : RegisteredAt history id n) : n < history.length := by
  obtain ⟨p, hp, -⟩ := Option.bind_eq_some_iff.1 h.registered
  exact (List.getElem?_eq_some_iff.1 hp).1

/-- A later call that registers another identity, or none. -/
theorem RegisteredAt.append (h : RegisteredAt history id n) (hp : p.registered? ≠ some id) :
    RegisteredAt (history ++ [p]) id n where
  registered := by
    rw [List.getElem?_append_left h.lt_length]
    exact h.registered
  last m hm := by
    rcases Nat.lt_trichotomy m history.length with hlt | rfl | hgt
    · rw [List.getElem?_append_left hlt]
      exact h.last m hm
    · rw [List.getElem?_concat_length]
      exact hp
    · rw [List.getElem?_eq_none (by rw [List.length_append]; exact hgt)]
      exact nofun

/-- The call that was made last. -/
theorem registeredAt_length (hp : p.registered? = some id) :
    RegisteredAt (history ++ [p]) id history.length where
  registered := by
    rw [List.getElem?_concat_length]
    exact hp
  last m hm := by
    rw [List.getElem?_eq_none (by rw [List.length_append]; exact hm)]
    exact nofun

theorem InOrder.listing (h : InOrder history before) (hlisting : Listing before p after) :
    InOrder (history ++ [p]) after := by
  obtain ⟨book, rfl, hpairwise, hbook⟩ := h
  cases hlisting with
  | shrink _ hregistered hafter =>
    obtain ⟨kept, hkept, rfl⟩ := List.sublist_map_iff.1 hafter
    refine ⟨kept, rfl, hpairwise.sublist hkept, fun e he ↦ ?_⟩
    exact (hbook e (hkept.subset he)).append (hregistered ▸ nofun)
  | grow id hregistered hnew =>
    refine ⟨book ++ [(id, history.length)], List.map_append, ?_, ?_⟩
    · refine List.pairwise_append.2 ⟨hpairwise, List.pairwise_singleton .., fun e he e' he' ↦ ?_⟩
      rw [List.mem_singleton.1 he']
      exact (hbook e he).lt_length
    · refine List.forall_mem_append.2 ⟨fun e he ↦ ?_,
        List.forall_mem_singleton.2 (registeredAt_length hregistered)⟩
      refine (hbook e he).append fun hsame ↦ hnew ?_
      rw [← Option.some.inj (hsame.symm.trans hregistered)]
      exact List.mem_map_of_mem he

/-- Along every run the list stays in the order of registration. -/
theorem Scene.inOrder_run [Network W σ] (scene : Scene W σ)
    (h : InOrder history scene.engine.lifecycle.ids) (calls : List (Call σ)) :
    InOrder (history ++ (scene.run calls).1) (scene.run calls).2.engine.lifecycle.ids := by
  induction calls generalizing scene history with
  | nil =>
    rw [run, List.append_nil]
    exact h
  | cons call calls ih =>
    rw [run_cons, List.append_cons]
    exact ih _ (h.listing (scene.perform_listing call))

end Order

end StreamRtp
