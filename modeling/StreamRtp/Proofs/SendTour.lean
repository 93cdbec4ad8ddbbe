import StreamRtp.Proofs.FanOut
import StreamRtp.Proofs.ReceiveTour

/-!
# What a call that sends comes to

Media and control packets are sent alike. A payload that is too big is refused, and then nothing has
happened. Any other payload is framed once, and the frame is written to every connection, whatever
the writes before have come to. The answers of the writes decide all the rest: who is reported and
given up, and the result of the call.

The hook is told of a second report of each error. The caller is told of the first error itself.
-/

namespace StreamRtp

variable {W σ : Type}

theorem Core.hookCalls_postage (core : Core σ) (frame : Bytes) (route : Route σ) :
    hookCalls (core.postage route.1.1 route.1.2.stream frame route.2)
      = if core.hasHook then route.hookCall?.toList else [] := by
  obtain ⟨⟨id, c⟩, _ | _⟩ := route
  · exact core.hookCalls_reportDrop id _
  · exact (ite_self _).symm

namespace FanOut

variable {core : Core σ} {frame : Bytes} {routes : List (Route σ)} {out : CoreOutcome W σ Unit}

/-- The hook is told of every failed write once, in the order of the connections. -/
theorem hookCalls_eq (h : FanOut core frame routes out) : hookCalls out.events
    = if core.hasHook then routes.filterMap Route.hookCall? else [] := by
  rw [h.events_eq, hookCalls, List.filterMap_flatMap]
  have hroute : ∀ route : Route σ,
      (core.postage route.1.1 route.1.2.stream frame route.2).filterMap Event.hookCall?
        = if core.hasHook then route.hookCall?.toList else [] := core.hookCalls_postage frame
  rw [List.flatMap_congr fun route _ ↦ hroute route]
  cases core.hasHook with
  | false => exact List.flatMap_eq_nil_iff.2 fun _ _ ↦ rfl
  | true => exact (List.filterMap_eq_flatMap_toList ..).symm

end FanOut

namespace Scene

variable [Network W σ] {scene : Scene W σ} {core : Core σ} {payload : Bytes} {call : Call σ}

/-- A call that sends is a fan-out of the core. -/
theorem perform_of_sends (hcreated : scene.engine.lifecycle = .created core)
    (hcall : call = .sendRtp payload ∨ call = .sendRtcp payload) :
    scene.perform call = ⟨(core.send payload scene.world).result.map fun _ ↦ .done,
      { scene with
        engine := { scene.engine with lifecycle := .created (core.send payload scene.world).core }
        world := (core.send payload scene.world).world },
      (core.send payload scene.world).events⟩ := by
  rcases hcall with rfl | rfl <;> rw [perform, scene.withCore_of_created hcreated] <;> rfl

/-- **One fan-out.** A payload that is too big is refused with the limit, and nothing has happened.
Otherwise its frame is written to every connection once, in the order of registration. Those whose
write fails are reported to the hook and given up, in this order too; the others stay as they are.
The result is the first failure, with the error itself. -/
theorem send_writes_all (hcreated : scene.engine.lifecycle = .created core)
    (hcall : call = .sendRtp payload ∨ call = .sendRtcp payload) :
    (min core.maxPacketSize Frame.maxPayload < payload.length → scene.perform call
      = ⟨.error (.packetTooBig payload.length (min core.maxPacketSize Frame.maxPayload)), scene,
        []⟩) ∧
      (payload.length ≤ min core.maxPacketSize Frame.maxPayload →
        ∃ frame routes destinations w', Frame.encode payload = .ok frame ∧
          routes.map (·.1) = core.destinations.toList ∧ Mailing frame scene.world routes w' ∧
          destinations.toList = (routes.filter (·.failure?.isNone)).map (·.1) ∧
          scene.perform call = ⟨match routes.findSome? Route.failure? with
              | none => .ok .done
              | some (id, e) => .error (.send id e),
            { scene with
              engine := { scene.engine with lifecycle := .created { core with destinations } }
              world := w' },
            routes.flatMap fun r ↦ core.postage r.1.1 r.1.2.stream frame r.2⟩ ∧
          postings (scene.perform call).events = routes.map (Route.posting frame) ∧
          hookCalls (scene.perform call).events
            = if core.hasHook then routes.filterMap Route.hookCall? else []) ∧
      ∀ e : IoError, e.duplicate.kind = e.kind ∧ e.duplicate.code? = e.code? ∧
        e.duplicate.message = e.message := by
  refine ⟨fun hbig ↦ ?_, fun hfits ↦ ?_, fun e ↦
    ⟨e.kind_duplicate, e.code?_duplicate, e.message_duplicate⟩⟩
  · rcases hcall with rfl | rfl <;>
      exact map_withCore_of_error hcreated (core.send_of_lt hbig scene.world) _
  · obtain ⟨routes, hout, hmailing⟩ := core.exists_fanOut hfits scene.world
    have hperform := perform_of_sends hcreated hcall
    have hencoded : Frame.encode payload = .ok (Frame.wire payload) :=
      Frame.encode_of_le (Nat.le_trans hfits (Nat.min_le_right ..))
    refine ⟨Frame.wire payload, routes, (core.send payload scene.world).core.destinations,
      (core.send payload scene.world).world, hencoded, hout.everyone, hmailing, hout.kept,
      ?_, ?_, ?_⟩
    · rw [hperform, hout.result_eq, hout.events_eq, ← hout.untouched]
      cases routes.findSome? Route.failure? <;> rfl
    · rw [hperform]
      exact hout.postings_eq
    · rw [hperform]
      exact hout.hookCalls_eq

/-- The first two of three peers cannot be written to. -/
def brokenPipes : Scene Scripted.World Scripted.Stream :=
  ⟨⟨.created threeStreams, .fresh, some .own, false, false⟩, [],
    ⟨[("a", ⟨[], false, [], some (.os 32)⟩), ("b", ⟨[], false, [], some (.bare .timedOut)⟩)], []⟩⟩

/-- Eleven bytes are too many under a limit of ten. One byte is written to all three peers. -/
theorem send_writes_all_brokenPipes :
    brokenPipes.perform (.sendRtcp (List.replicate 11 7))
        = ⟨.error (.packetTooBig 11 10), brokenPipes, []⟩ ∧
      (postings (brokenPipes.perform (.sendRtp [7])).events).map (fun p ↦ (p.stream.name, p.data))
        = [("a", [0, 1, 7]), ("b", [0, 1, 7]), ("c", [0, 1, 7])] := by
  have hcreated : brokenPipes.engine.lifecycle = .created threeStreams := rfl
  obtain ⟨hrefused, -⟩ := send_writes_all hcreated
    (.inr rfl : _ ∨ Call.sendRtcp _ = .sendRtcp (List.replicate 11 7))
  obtain ⟨-, hwritten, -⟩ := send_writes_all hcreated
    (.inl rfl : Call.sendRtp _ = .sendRtp [7] ∨ _)
  obtain ⟨frame, routes, destinations, w', hframe, hall, -, -, -, hpostings, -⟩ :=
    hwritten (by decide +kernel)
  cases hframe
  have hnames : routes.map (·.1.2.stream.name) = ["a", "b", "c"] := by
    have hstreams : threeStreams.streams.map (·.name) = ["a", "b", "c"] := by decide +kernel
    rwa [Core.streams, ← hall, List.map_map, List.map_map] at hstreams
  have hwire : Frame.wire [7] = [0, 1, 7] := by decide +kernel
  have hpairs := congrArg (List.map (·, Frame.wire [7])) hnames
  rw [List.map_map, hwire] at hpairs
  have hlimit : min threeStreams.maxPacketSize Frame.maxPayload = 10 := by decide +kernel
  rw [hlimit, List.length_replicate] at hrefused
  refine ⟨hrefused (by decide), ?_⟩
  rw [hpostings, List.map_map, hwire]
  exact hpairs

end Scene

end StreamRtp
