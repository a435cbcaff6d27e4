import CameraBridge.Bridge.Run
import CameraBridge.Proofs.Trace

namespace CameraBridge.Bridge

/-! All that can happen to a running bridge, in any order. Tasks move one at a time, time passes, the
links do as they please, and calls come from outside. Which of it is seen is up to whoever watches. -/

/-- One thing that can happen. -/
inductive Act where
  | move (task : Task)
  | pass (span : Time)
  /-- Events and frames arrive and are lost, and writes come to be accepted or refused. -/
  | relink (camera : Camera) (bus : Bus) (hostLink : SegmentLink) (replyLink : ReplyLink)
  | submit (message : Message)
  | sendLargeReply (channel : Channel) (body : Bytes)
  | sendOnBus (frame : CanFrame)
  | tap (capacity : Nat)
  | readTap (subscriber : Nat)
  | dropTap (subscriber : Nat)
  | shutdown

def act (next : Act) (bridge : Bridge) : Option Bridge :=
  match next with
  | .move task => bridge.step task
  | .pass span => some { bridge with now := bridge.now + span }
  | .relink camera bus hostLink replyLink => some { bridge with camera, bus, hostLink, replyLink }
  | .submit message => some (bridge.submit message)
  | .sendLargeReply channel body => some (bridge.sendLargeReply channel body)
  | .sendOnBus frame => some (bridge.sendOnBus frame)
  | .tap capacity => some (bridge.tap capacity).2
  | .readTap subscriber => some (bridge.readTap subscriber).2
  | .dropTap subscriber => some (bridge.dropTap subscriber)
  | .shutdown => some bridge.shutdown

variable {Sight : Type}

/-- What is seen of some acts, and where they lead. Each shows one sight at most. -/
def watch (look : Act → Bridge → Bridge → Option Sight) (bridge : Bridge) :
    List Act → Option (List Sight × Bridge)
  | [] => some ([], bridge)
  | next :: rest =>
      match bridge.act next with
      | none => none
      | some after =>
          match after.watch look rest with
          | none => none
          | some (sights, last) => some ((look next bridge after).toList ++ sights, last)

variable {look : Act → Bridge → Bridge → Option Sight} {bridge middle last : Bridge}
  {sights : List Sight}

/-- It is a trace like any other. -/
theorem watch_eq_trace (acts : List Act) :
    bridge.watch look acts = trace act look bridge acts := by
  induction acts generalizing bridge with
  | nil => rfl
  | cons next rest ih =>
      cases acted : bridge.act next with
      | none => simp only [watch, trace, acted]
      | some after =>
          simp only [watch, trace, acted, ih]
          cases trace act look after rest <;> rfl

theorem watch_cons_invert {next : Act} {rest : List Act}
    (watched : bridge.watch look (next :: rest) = some (sights, last)) :
    ∃ after later, bridge.act next = some after ∧ after.watch look rest = some (later, last) ∧
      sights = (look next bridge after).toList ++ later := by
  simp only [watch_eq_trace] at watched ⊢
  exact trace_cons_invert watched

theorem watch_append {earlier later : List Act} {before after : List Sight}
    (first : bridge.watch look earlier = some (before, middle))
    (second : middle.watch look later = some (after, last)) :
    bridge.watch look (earlier ++ later) = some (before ++ after, last) := by
  simp only [watch_eq_trace] at first second ⊢
  exact trace_append first second

/-- What every act keeps holds wherever acts lead. -/
theorem watch_invariant {holds : Bridge → Prop} {acts : List Act}
    (kept : ∀ next before after, holds before → before.act next = some after → holds after)
    (first : holds bridge) (watched : bridge.watch look acts = some (sights, last)) : holds last := by
  rw [watch_eq_trace] at watched
  exact trace_invariant kept first watched

/-- What every act keeps, of a bridge and of all that was seen on the way to it, holds wherever acts
lead. -/
theorem watch_history (holds : List Sight → Bridge → Prop) {acts : List Act}
    (kept : ∀ seen next before after, holds seen before → before.act next = some after →
      holds (seen ++ (look next before after).toList) after)
    (first : holds [] bridge) (watched : bridge.watch look acts = some (sights, last)) :
    holds sights last := by
  rw [watch_eq_trace] at watched
  exact trace_history kept first watched

/-- The same of what every act but the end keeps, as long as the bridge does not come to its end. -/
theorem watch_going (holds : List Sight → Bridge → Prop) {acts : List Act}
    (kept : ∀ seen next before after, next ≠ .shutdown → holds seen before →
      before.act next = some after → holds (seen ++ (look next before after).toList) after)
    (first : holds [] bridge) (going : .shutdown ∉ acts)
    (watched : bridge.watch look acts = some (sights, last)) : holds sights last := by
  -- The induction is on the acts, from any sights that may have been before.
  rw [← List.nil_append sights]
  generalize ([] : List Sight) = earlier at first ⊢
  induction acts generalizing bridge earlier sights with
  | nil =>
      cases watched
      rwa [List.append_nil]
  | cons next rest ih =>
      obtain ⟨middle, later, acted, remaining, rfl⟩ := watch_cons_invert watched
      simp only [List.mem_cons, not_or] at going
      rw [← List.append_assoc]
      exact ih going.2 remaining _ (kept earlier next bridge middle (Ne.symm going.1) first acted)

/-- A sight divides a run into what led to it, the act that showed it and the rest. -/
theorem watch_split {acts : List Act} {before after : List Sight} {sight : Sight}
    (watched : bridge.watch look acts = some (before ++ sight :: after, last)) :
    ∃ earlier next later middle between, acts = earlier ++ next :: later ∧
      bridge.watch look earlier = some (before, middle) ∧ middle.act next = some between ∧
      look next middle between = some sight ∧ between.watch look later = some (after, last) := by
  simp only [watch_eq_trace] at watched ⊢
  exact trace_split watched

end CameraBridge.Bridge
