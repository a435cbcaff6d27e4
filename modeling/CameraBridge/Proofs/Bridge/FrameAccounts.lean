import CameraBridge.Proofs.Bridge.HostFrames
import Mathlib.Logic.ExistsUnique

namespace CameraBridge

/-! The host's frames over whole runs, each with all that is done for it. What is seen of the moves for
them falls into accounts, one a frame and in the order of the frames. -/

/-- What is seen of one frame: the move that takes it up, and those up to the next frame. -/
structure FrameAccount where
  frame : CanFrame
  connected : Bool
  outcome : FrameOutcome
  glances : List IngressGlance

namespace FrameAccount

/-- The frame has the outcome that it deserves and no other. A command that is offered comes to the
queue once or not at all. -/
structure Holds (account : FrameAccount) : Prop where
  deserves : Deserves account.frame account.connected account.outcome
  taken : ∃ first rest, account.glances = first :: rest ∧
    first.taken = some (account.frame, account.connected) ∧ ∀ later ∈ rest, later.taken = none
  offered : account.glances.flatMap IngressGlance.offered = account.outcome.offers
  answered : account.glances.flatMap IngressGlance.answered = account.outcome.answers
  queued : (account.glances.flatMap IngressGlance.queued).Sublist account.outcome.offer?.toList

def snoc (glance : IngressGlance) (account : FrameAccount) : FrameAccount :=
  { account with glances := account.glances ++ [glance] }

variable {account : FrameAccount} {frame : CanFrame} {connected : Bool} {outcome : FrameOutcome}

/-- The move that takes a frame up shows what becomes of it. -/
def opened (frame : CanFrame) (connected : Bool) (outcome : FrameOutcome) : FrameAccount where
  frame
  connected
  outcome
  glances :=
    [{ taken := some (frame, connected), offered := outcome.offers, answered := outcome.answers }]

theorem Holds.opened (deserves : Deserves frame connected outcome) :
    (opened frame connected outcome).Holds where
  deserves := deserves
  taken := ⟨_, [], rfl, rfl, nofun⟩
  offered := List.flatMap_singleton ..
  answered := List.flatMap_singleton ..
  queued := List.nil_sublist _

theorem Holds.snoc {arrivals : List Message} (holds : account.Holds)
    (queued : (account.glances.flatMap IngressGlance.queued ++ arrivals).Sublist
      account.outcome.offer?.toList) :
    (account.snoc { queued := arrivals }).Holds := by
  obtain ⟨first, rest, whole, takes, others⟩ := holds.taken
  refine ⟨holds.deserves, ⟨first, rest ++ [{ queued := arrivals }], ?_, takes, ?_⟩, ?_, ?_, ?_⟩
  · simp [FrameAccount.snoc, whole]
  · intro later member
    rcases List.mem_append.mp member with before | last
    · exact others later before
    · rw [List.mem_singleton.mp last]
  · simpa [FrameAccount.snoc] using holds.offered
  · simpa [FrameAccount.snoc] using holds.answered
  · simpa [FrameAccount.snoc] using queued

end FrameAccount

/-- All that is seen falls into accounts that hold, one a frame. -/
structure Told (accounts : List FrameAccount) (seen : List IngressGlance) : Prop where
  each : ∀ account ∈ accounts, account.Holds
  whole : seen = accounts.flatMap FrameAccount.glances

namespace Told

variable {accounts : List FrameAccount} {account : FrameAccount} {seen : List IngressGlance}

theorem nothing : Told [] [] :=
  ⟨nofun, rfl⟩

theorem next (told : Told accounts seen) (holds : account.Holds) :
    Told (accounts ++ [account]) (seen ++ account.glances) where
  each other member := by
    rcases List.mem_append.mp member with earlier | last
    · exact told.each other earlier
    · rw [List.mem_singleton.mp last]
      exact holds
  whole := by rw [told.whole, List.flatMap_append, List.flatMap_singleton]

theorem last (told : Told (accounts ++ [account]) seen) : account.Holds :=
  told.each account (by simp)

theorem snoc {glance : IngressGlance} (told : Told (accounts ++ [account]) seen)
    (holds : (account.snoc glance).Holds) :
    Told (accounts ++ [account.snoc glance]) (seen ++ [glance]) where
  each other member := by
    rcases List.mem_append.mp member with earlier | last
    · exact told.each other (List.mem_append_left _ earlier)
    · rw [List.mem_singleton.mp last]
      exact holds
  whole := by simp [told.whole, FrameAccount.snoc]

/-- What comes to the queue was offered, and nothing changes the order. -/
theorem queued (told : Told accounts seen) :
    (seen.flatMap IngressGlance.queued).Sublist (accounts.filterMap (·.outcome.offer?)) := by
  obtain ⟨each, rfl⟩ := told
  induction accounts with
  | nil => exact List.nil_sublist _
  | cons account rest ih =>
      have later := ih fun other member => each other (List.mem_cons_of_mem _ member)
      have first := (each account List.mem_cons_self).queued
      rw [List.flatMap_cons, List.flatMap_append, List.filterMap_cons]
      cases offer : account.outcome.offer? with
      | none =>
          rw [offer] at first
          rw [List.sublist_nil.mp first]
          exact later
      | some message =>
          rw [offer] at first
          exact first.append later

/-- The frames that the host gets in answer are as many as were refused. -/
theorem answered (told : Told accounts seen) :
    seen.flatMap IngressGlance.answered =
      List.replicate (accounts.countP (·.outcome = .refused))
        (some ⟨0x740, 1, [0xFF, 0, 0, 0, 0, 0, 0, 0], rfl⟩) := by
  obtain ⟨each, rfl⟩ := told
  induction accounts with
  | nil => rfl
  | cons account rest ih =>
      have later := ih fun other member => each other (List.mem_cons_of_mem _ member)
      have first := (each account List.mem_cons_self).answered
      rw [List.flatMap_cons, List.flatMap_append, first, later]
      cases outcome : account.outcome with
      | ignored | offered => simp [outcome, FrameOutcome.answers]
      | refused => simp [outcome, FrameOutcome.answers, List.replicate_succ]

end Told

namespace Bridge

variable {before after : Bridge} {seen : List IngressGlance} {glance : IngressGlance}

/-- What is seen so far, by where the worker stands. A command that waits for its queue is that of the
last frame, and did not come there yet. -/
inductive Accounted (seen : List IngressGlance) : Ingress → Prop where
  | listening {accounts : List FrameAccount} (told : Told accounts seen) : Accounted seen .listening
  | stopped {accounts : List FrameAccount} (told : Told accounts seen) : Accounted seen .stopped
  | submitting {accounts : List FrameAccount} {account : FrameAccount}
      {publication : Publication Message} (told : Told (accounts ++ [account]) seen)
      (once : publication.remaining.Nodup)
      (owed : ∀ message, publication.owed workerSubscriber = some message →
        account.outcome = .offered message ∧
          account.glances.flatMap IngressGlance.queued = []) :
      Accounted seen (.submitting publication)
  | refusing {accounts : List FrameAccount} {account : FrameAccount}
      {publication : Publication CanFrame} (told : Told (accounts ++ [account]) seen) :
      Accounted seen (.refusing publication)

theorem Accounted.told {ingress : Ingress} (accounted : Accounted seen ingress) :
    ∃ accounts, Told accounts seen := by
  cases accounted <;> exact ⟨_, ‹Told _ _›⟩

theorem Accounted.submit {publication : Publication Message} {progress : Progress Message}
    {topic later : Topic Message} {now : Time} (enrolled : topic.Enrolled)
    (accounted : Accounted seen (.submitting publication))
    (stepped : publication.step now topic = some (later, progress)) :
    Accounted (seen ++ [{ queued :=
        (later.items workerSubscriber).drop (topic.items workerSubscriber).length }])
      (Ingress.onward progress) := by
  cases accounted with
  | @submitting accounts account _ told once owed =>
      obtain ⟨arrival, items, paid, -⟩ := Publication.step_paid once stepped
      rw [items, List.drop_left]
      have holds : (account.snoc { queued := arrival.toList }).Holds := by
        apply told.last.snoc
        cases arrival with
        | none => simpa using told.last.queued
        | some message =>
            obtain ⟨outcome, fresh⟩ := owed message (paid.arrived message rfl).1
            rw [outcome, fresh]
            exact .refl _
      cases progress with
      | finished result => exact .listening (told.snoc holds)
      | going onward delivered =>
          refine .submitting (told.snoc holds)
            (Publication.step_remaining enrolled once stepped) fun message owes => ?_
          cases arrival with
          | some other => cases (paid.arrived other rfl).2.symm.trans owes
          | none =>
              obtain ⟨outcome, fresh⟩ := owed message (paid.kept message owes)
              exact ⟨outcome, by simpa [FrameAccount.snoc] using fresh⟩

theorem Accounted.turn (accounted : Accounted seen before.ingress)
    (enrolled : before.ingress ≠ .stopped → before.commands.Enrolled)
    (turn : IngressTurn before after glance) : Accounted (seen ++ [glance]) after.ingress := by
  cases turn with
  | ignored listening unread deserves same =>
      obtain ⟨accounts, told⟩ := accounted.told
      have left : after.ingress = .listening := by rw [same, skip, listening]
      rw [left]
      exact .listening (told.next (.opened deserves))
  | offered listening unread deserves started stands =>
      obtain ⟨accounts, told⟩ := accounted.told
      rw [stands]
      refine .submitting (told.next (.opened deserves)) (Publication.started_remaining started)
        fun message owes => ?_
      rw [Publication.started_owed started, Option.some.injEq] at owes
      exact ⟨congrArg FrameOutcome.offered owes, rfl⟩
  | refused listening unread deserves stands =>
      obtain ⟨accounts, told⟩ := accounted.told
      rw [stands]
      exact .refusing (told.next (.opened deserves))
  | submitting stood stepped stands =>
      have known := enrolled (by simp [stood])
      rw [stood] at accounted
      rw [stands]
      exact accounted.submit known stepped
  | refusing stood stands =>
      rw [stood] at accounted
      cases accounted with
      | @refusing accounts account _ told =>
          have holds : (account.snoc {}).Holds := by
            apply told.last.snoc
            simpa using told.last.queued
          obtain ⟨later, stands⟩ | stands := stands
          · rw [stands]
            exact .refusing (told.snoc holds)
          · rw [stands]
            exact .listening (told.snoc holds)

/-- All that is known of the host's frames while the bridge runs. -/
structure Attending (seen : List IngressGlance) (bridge : Bridge) : Prop where
  standing : bridge.Staffed ∨ bridge.Ended
  accounted : Accounted seen bridge.ingress

theorem Attending.act {next : Act} (attending : Attending seen before)
    (acted : before.act next = some after) :
    Attending (seen ++ (next.ingressGlance? before after).toList) after := by
  refine ⟨act_staffed_or_ended attending.standing acted, ?_⟩
  have enrolled : before.ingress ≠ .stopped → before.commands.Enrolled := fun going =>
    attending.standing.elim (·.commands.enrolled) fun ended => absurd ended.ingress going
  by_cases takes : next = .move .ingress
  · subst takes
    exact attending.accounted.turn enrolled (stepIngress_turn acted)
  · have unseen : next.ingressGlance? before after = none := by
      cases next with
      | move task => cases task <;> first | rfl | contradiction
      | _ => rfl
    rw [unseen, Option.toList_none, List.append_nil]
    by_cases ends : next = .shutdown
    · subst ends
      cases acted
      rw [(shutdown_ended before).ingress]
      obtain ⟨accounts, told⟩ := attending.accounted.told
      exact .stopped told
    · rw [(act_sourcesKept acted ends).ingress takes]
      exact attending.accounted

theorem start_attending (timing : Timing) (queueDepth : Nat) (state : DeviceState)
    (links : OpenLinks) : Attending [] (start timing queueDepth state links) := by
  refine ⟨.inl (.start timing queueDepth state links), ?_⟩
  have ingress : (start timing queueDepth state links).ingress =
      if links.bus then .listening else .stopped := rfl
  rw [ingress]
  split
  · exact .listening .nothing
  · exact .stopped .nothing

variable {timing : Timing} {queueDepth : Nat} {state : DeviceState} {links : OpenLinks}
  {acts : List Act} {glances : List IngressGlance} {last : Bridge}

theorem watch_attending
    (watched : (start timing queueDepth state links).watch Act.ingressGlance? acts =
      some (glances, last)) : Attending glances last :=
  watch_history Attending (fun _ _ _ _ attending acted => attending.act acted)
    (start_attending timing queueDepth state links) watched

/-! ### What becomes of the frames -/

theorem skips_others {frame : CanFrame} {rest : List CanFrame}
    (listening : before.ingress = .listening)
    (unread : before.bus.incoming.unread = frame :: rest)
    (other : ∀ channel : Channel, frame.id ≠ channel.inputId)
    (moved : before.stepIngress = some after) : after = before.skip rest := by
  have turn := stepIngress_turn moved
  generalize ingressGlance before after = glance at turn
  cases turn with
  | ignored _ also _ same =>
      cases unread.symm.trans also
      exact same
  | offered _ also deserves | refused _ also deserves =>
      cases unread.symm.trans also
      cases deserves.unique (.ignored other)
  | submitting stood | refusing stood => cases listening.symm.trans stood

/-- A frame that is unread is taken up at once, or as soon as the frame before it has run out of time. -/
theorem ingress_able (going : before.ingress ≠ .stopped) (unread : before.bus.incoming.unread ≠ []) :
    ∃ span, ({ before with now := before.now + span }.stepIngress).isSome = true := by
  obtain ⟨frame, rest, waits⟩ := List.exists_cons_of_ne_nil unread
  cases stands : before.ingress with
  | stopped => exact absurd stands going
  | listening => exact ⟨0, by simp [stepIngress, waits]⟩
  | submitting publication =>
      refine ⟨publication.deadline, ?_⟩
      obtain ⟨⟨commands, progress⟩, stepped⟩ := Option.isSome_iff_exists.mp
        (publication.step_elapsed (Nat.le_add_left _ before.now) before.commands)
      simp only [stepIngress, stepCommand, stepped, Option.map_some]
      cases progress <;> rfl
  | refusing publication =>
      refine ⟨publication.deadline, ?_⟩
      obtain ⟨⟨canFrames, progress⟩, stepped⟩ := Option.isSome_iff_exists.mp
        (publication.step_elapsed (Nat.le_add_left _ before.now) before.canFrames)
      simp only [stepIngress, stepFrame, stepped, Option.map_some]
      cases progress <;> rfl

/-- Whatever happens to a bridge, each frame that it takes up deserves one outcome and has that one. The
commands that come to the queue are among those that were offered, in the order of the frames. The
answers are as many as frames were refused, each the byte `FF` under the identifier `740`. A frame on
any other identifier is gone and has changed nothing, and no frame has to wait for ever. -/
theorem host_frames_answered_once
    (watched : (start timing queueDepth state links).watch Act.ingressGlance? acts =
      some (glances, last)) :
    (∀ frame connected, ∃! outcome, Deserves frame connected outcome) ∧
    (∃ accounts : List FrameAccount, Told accounts glances ∧
      (glances.flatMap IngressGlance.queued).Sublist (accounts.filterMap (·.outcome.offer?)) ∧
      glances.flatMap IngressGlance.answered =
        List.replicate (accounts.countP (·.outcome = .refused))
          (some ⟨0x740, 1, [0xFF, 0, 0, 0, 0, 0, 0, 0], rfl⟩)) ∧
    (∀ frame rest after, last.ingress = .listening → last.bus.incoming.unread = frame :: rest →
      (∀ channel : Channel, frame.id ≠ channel.inputId) → last.act (.move .ingress) = some after →
      after = last.skip rest) ∧
    (last.ingress ≠ .stopped → last.bus.incoming.unread ≠ [] →
      ∃ span, ({ last with now := last.now + span }.act (.move .ingress)).isSome = true) := by
  obtain ⟨accounts, told⟩ := (watch_attending watched).accounted.told
  refine ⟨fun frame connected => ?_, ⟨accounts, told, told.queued, told.answered⟩,
    fun frame rest after listening unread other moved => skips_others listening unread other moved,
    ingress_able⟩
  obtain ⟨outcome, deserves⟩ := Deserves.exists frame connected
  exact ⟨outcome, deserves, fun other also => also.unique deserves⟩

/-- A query, a control command whose length code is too large, and a frame that is for nobody. -/
def threeFrames : List CanFrame :=
  [.raw Channel.query.inputId 3 [2, 0x13, 70], .raw Channel.control.inputId 12 [0xAF], .raw 0x123 1 [7]]

/-- They arrive while no camera is connected, and the bridge sees to them one after the other. -/
def takeThreeFrames : List Act :=
  .relink {} { incoming := { unread := threeFrames } } {} {} :: List.replicate 9 (.move .ingress)

theorem watch_takeThreeFrames :
    ((start {} 8 {} {}).watch Act.ingressGlance? takeThreeFrames).map
        (fun seen => (seen.1.filterMap IngressGlance.taken,
          (seen.1.flatMap IngressGlance.queued).map Message.payload,
          seen.1.flatMap IngressGlance.answered)) =
      some (threeFrames.map (·, false), [[0xAF, 0, 0, 0, 0, 0, 0, 0]],
        [some ⟨0x740, 1, [0xFF, 0, 0, 0, 0, 0, 0, 0], rfl⟩]) := by
  decide +kernel

theorem host_frames_answered_once_of_three_frames : ∃ glances last accounts,
    (start {} 8 {} {}).watch Act.ingressGlance? takeThreeFrames = some (glances, last) ∧
      Told accounts glances ∧ glances.filterMap IngressGlance.taken = threeFrames.map (·, false) ∧
      (glances.flatMap IngressGlance.queued).map Message.payload =
        [[0xAF, 0, 0, 0, 0, 0, 0, 0]] ∧
      accounts.countP (·.outcome = .refused) = 1 := by
  obtain ⟨⟨glances, last⟩, watched, seen⟩ := Option.map_eq_some_iff.mp watch_takeThreeFrames
  obtain ⟨taken, seen⟩ := Prod.mk.inj seen
  obtain ⟨queued, answered⟩ := Prod.mk.inj seen
  obtain ⟨-, ⟨accounts, told, -, answers⟩, -⟩ := host_frames_answered_once watched
  refine ⟨glances, last, accounts, watched, told, taken, queued, ?_⟩
  rw [answered] at answers
  simpa using (congrArg List.length answers).symm

end Bridge

end CameraBridge
