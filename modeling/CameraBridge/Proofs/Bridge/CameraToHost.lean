import CameraBridge.Proofs.Bridge.HostRun

namespace CameraBridge.Bridge

/-! From the camera to the host. Bodies that the camera sends in frames come to the host as frames on
the bus and as large replies, each once and in order, whatever the reassembler had before. -/

open Reassembler (allNotifications notifications)

theorem allNotifications_eq (bodies : List (Channel × Bytes)) (framed : List (List Bytes)) :
    ∃ notified : List (Channel × Bytes),
      allNotifications bodies framed = notified.map fun entry => .push entry.1 entry.2 := by
  refine ⟨(List.zipWith (fun entry frames => frames.map (entry.1, ·)) bodies framed).flatten, ?_⟩
  simp only [allNotifications, notifications, List.map_flatten, List.map_zipWith, List.map_map]
  rfl

/-- The frames of any bodies, notified in order and each on its channel, bring one outcome for each
body and in the same order: a frame alone if it is short, the error frame and a large reply if it is
not. This holds in every run in which no queue stays full, no worker goes and the permit is free
whenever a body is complete, as soon as the bridge is settled. Until then it is never stuck, unless
it waits for room. And there is such a run, in which all of them are taken up. -/
theorem camera_to_host_delivery (bodies : List (Channel × Bytes))
    (sized : ∀ entry ∈ bodies, entry.1.isBle = true ∧ 1 ≤ entry.2.length ∧ entry.2.length ≤ 65535) :
    ∃ frames, bodies.mapM (fun entry => Frame.ofBody entry.2) = .ok frames ∧
      (∀ before glances after, before.Served → before.Settled → Smooth before glances after →
        inputs glances = allNotifications bodies frames →
        (after.Settled → ∃ outcomes : List (CanFrame × Option Bytes),
          framed glances = outcomes.map Prod.fst ∧ queued glances = outcomes.filterMap Prod.snd ∧
          List.Forall₂ (fun entry outcome => Delivered entry.1 entry.2 outcome.1 outcome.2)
            bodies outcomes) ∧
        (¬ after.Settled → after.listenerWaits = false → after.mapperWaits = false →
          (after.step .listener).isSome = true ∨ (after.step .mapper).isSome = true)) ∧
      ∀ before, before.AtRest → ∃ glances after, Smooth before glances after ∧
        inputs glances = allNotifications bodies frames ∧ after.AtRest := by
  obtain ⟨frames, made, -⟩ := Reassembler.observe_bodies .idle bodies fun entry member =>
    (sized entry member).2
  refine ⟨frames, made, ?_, ?_⟩
  · intro before glances after served settled ⟨⟨acts, watched, goesOn⟩, smooth⟩ heard
    have side := (settled.hostSide served).watch watched goesOn smooth
    rw [List.nil_append] at side
    refine ⟨fun settles => ?_, fun still timely prompt => side.moves timely prompt still⟩
    obtain ⟨outcomes, answers, led, delivered⟩ :=
      delivered_bodies sized made before.reassembler
    obtain ⟨came, replied⟩ := side.settled settles
    refine ⟨outcomes, ?_, ?_, delivered⟩
    · rw [came, heard, answers]
    · rw [replied, heard, led]
  · intro before rests
    obtain ⟨notified, same⟩ := allNotifications_eq bodies frames
    obtain ⟨after, ⟨glances, smooth, heard⟩, restsAgain⟩ := rests.takes_notifications notified
    exact ⟨glances, after, smooth, heard.trans same.symm, restsAgain⟩

/-- A bridge that holds the beginning of some other body, and two bodies of which one is short. -/
theorem camera_to_host_delivery_mid_message :
    let held := { start {} 8 {} {} with reassembler := .gathering ⟨.net, [1, 2], 5, 1⟩ }
    let bodies : List (Channel × Bytes) := [(.cmd, [0x13, 0]), (.query, List.replicate 8 7)]
    (∀ entry ∈ bodies, entry.1.isBle = true ∧ 1 ≤ entry.2.length ∧ entry.2.length ≤ 65535) ∧
      ∃ glances after frame error reply, Smooth held glances after ∧
        framed glances = [frame, error] ∧ queued glances = [reply] ∧
        frame.id = 0x773 ∧ frame.payload = [2, 0x13, 0] ∧ error.id = 0x740 ∧ error.payload = [0xFF] ∧
        ∃ envelope, Envelope.ofBytes reply = .ok envelope ∧
          envelope.destination = .ok (.channel .query) ∧ envelope.data = List.replicate 8 7 := by
  intro held bodies
  have sized : ∀ entry ∈ bodies,
      entry.1.isBle = true ∧ 1 ≤ entry.2.length ∧ entry.2.length ≤ 65535 := by decide
  have rests : held.AtRest := start_atRest {} 8 {} _
  obtain ⟨frames, made, delivers, runs⟩ := camera_to_host_delivery bodies sized
  obtain ⟨glances, after, smooth, heard, restsAgain⟩ := runs held rests
  obtain ⟨outcomes, came, replied, delivered⟩ :=
    (delivers held glances after rests.served rests.settled smooth heard).1 restsAgain.settled
  refine ⟨sized, glances, after, ?_⟩
  rw [came, replied]
  obtain ⟨outcome, others, first, rest, rfl⟩ := List.forall₂_cons_left_iff.mp delivered
  obtain ⟨other, nothing, second, last, rfl⟩ := List.forall₂_cons_left_iff.mp rest
  obtain ⟨frame, reply⟩ := outcome
  obtain ⟨error, large⟩ := other
  cases last
  cases first with
  | enveloped _ _ long => exact absurd long (by decide)
  | framed short id number whole clean =>
      cases second with
      | framed short => exact absurd short (by decide)
      | enveloped reply envelope long id dlc data decoded target body =>
          have alone : Frame.ofBody [0x13, 0] = .ok [[2, 0x13, 0]] := rfl
          have same := Except.ok.inj (whole.symm.trans alone)
          have payload : error.payload = [0xFF] := by
            rw [CanFrame.payload, dlc, data]
            rfl
          exact ⟨frame, error, reply, smooth, rfl, rfl, number, (List.cons.inj same).1, id, payload,
            envelope, decoded, target, body⟩

end CameraBridge.Bridge
