import Mathlib.Control.Monad.Basic
import CameraBridge.Proofs.Topic.Delivery
import CameraBridge.Proofs.Trace
import CameraBridge.Topic.Session

namespace CameraBridge

/-! All that can happen to a topic, in any order: subscribers come, take and go, publications begin and
move, and time passes. Each is one turn, and a turn shows one sight at most. Messages are told apart by
the call that published them, since two calls may publish the same one. -/

variable {Content : Type}

/-- Whether it has had the order lock. -/
def Publication.hasBegun (publication : Publication Content) : Bool :=
  match publication.stage with
  | .ordering _ => false
  | .delivering .. => true

/-- The state of a call after a move of its publication. -/
def Progress.call : Progress Content → Call (Publication Content) (Except PublishError Unit)
  | .going publication _ => .running publication
  | .finished result => .finished result

/-- The first message that came to a queue since an earlier look at all of them. -/
def Topic.arrival? (before after : Topic Content) : Option (Nat × Content) :=
  (List.range before.queues.length).findSome? fun subscriber =>
    ((after.items subscriber).drop (before.items subscriber).length).head?.map (subscriber, ·)

namespace Topic

variable {topic after : Topic Content} {target : Nat} {message : Content}

theorem arrival?_none (same : after.queues = topic.queues) : topic.arrival? after = none := by
  rw [arrival?, List.findSome?_eq_none_iff]
  intro subscriber _
  rw [items_congr same, List.drop_length]
  rfl

theorem within_of_open (there : topic.isClosed target = false) : target < topic.queues.length := by
  apply Nat.lt_of_not_le
  intro beyond
  have unknown : topic.queues[target]? = none := List.getElem?_eq_none beyond
  simp [isClosed, queue?, unknown] at there

theorem arrival?_put (there : topic.isClosed target = false) :
    topic.arrival? (topic.put target message) = some (target, message) := by
  have within := within_of_open there
  rw [arrival?, List.findSome?_eq_some_iff]
  refine ⟨List.range target, target, List.range' (target + 1) (topic.queues.length - target - 1), ?_,
    ?_, ?_⟩
  · have count : topic.queues.length = target + (topic.queues.length - target - 1 + 1) := by omega
    rw [List.range_eq_range', List.range_eq_range', count, ← List.range'_append_1, Nat.zero_add,
      List.range'_succ, ← count]
  · rw [put_items message there, if_pos rfl, List.drop_left]
    rfl
  · intro other before
    have apart : target ≠ other := Nat.ne_of_gt (List.mem_range.mp before)
    rw [put_items message there, if_neg apart, List.append_nil, List.drop_length]
    rfl

end Topic

namespace TopicSession

/-- One thing that can happen. -/
inductive Act (Content : Type) where
  | subscribe (capacity : Nat)
  | publish (message : Content) (patience : Time)
  | move (call : Nat)
  | receive (subscriber : Nat)
  | close (subscriber : Nat)
  | pass (span : Time)

/-- Nobody can take a message from an empty queue. -/
def act (next : Act Content) (session : TopicSession Content) : Option (TopicSession Content) :=
  match next with
  | .subscribe capacity => some (session.subscribe capacity).2
  | .publish message patience => some (session.publish message patience)
  | .move call => session.stepCall call
  | .receive subscriber => (session.receive subscriber).map Prod.snd
  | .close subscriber => some (session.close subscriber)
  | .pass span => some { session with now := session.now + span }

/-- What is seen of one act. -/
inductive Sight (Content : Type) where
  /-- A call to publish a message began, unless it was refused at once. -/
  | called (call : Nat) (message : Content) (refusal : Option PublishError)
  /-- The order lock came to a call. -/
  | admitted (call : Nat)
  | arrived (subscriber call : Nat) (message : Content)
  /-- A call returned, after it had had the order lock or without it. -/
  | returned (call : Nat) (begun : Bool) (result : Except PublishError Unit)
  | taken (subscriber : Nat) (message : Content)
  /-- A subscriber went away and left what was in its queue. -/
  | left (subscriber : Nat) (messages : List Content)
  deriving DecidableEq

/-- What is seen of a call after its move. -/
def callSight? (number : Nat) (before after : TopicSession Content) (was : Publication Content) :
    Option (Sight Content) :=
  match after.calls[number]? with
  | some (.finished result) => some (.returned number was.hasBegun result)
  | some (.running now) =>
      if was.hasBegun then
        (before.topic.arrival? after.topic).map fun (subscriber, message) =>
          .arrived subscriber number message
      else if now.hasBegun then some (.admitted number) else none
  | none => none

def sight? (next : Act Content) (before after : TopicSession Content) : Option (Sight Content) :=
  match next with
  | .publish message _ =>
      match after.calls[before.calls.length]? with
      | some (.finished (.error cause)) => some (.called before.calls.length message (some cause))
      | _ => some (.called before.calls.length message none)
  | .move call =>
      match before.calls[call]? with
      | some (.running publication) => callSight? call before after publication
      | _ => none
  | .receive subscriber => (before.topic.items subscriber).head?.map (.taken subscriber)
  | .close subscriber => some (.left subscriber (before.topic.items subscriber))
  | .subscribe _ | .pass _ => none

/-- What a turn does and what is seen of it. -/
inductive Turn (session : TopicSession Content) :
    Option (Sight Content) → TopicSession Content → Prop where
  | subscribed (capacity : Nat) :
      Turn session none { session with topic := (session.topic.subscribe capacity).2 }
  | rejected (message : Content) (refused : session.accepts message = false) :
      Turn session
        (some (.called session.calls.length message (some (.rejected session.topic.name))))
        { session with
          calls := session.calls ++ [.finished (.error (.rejected session.topic.name))] }
  | entered (message : Content) (patience : Time) (accepted : session.accepts message = true) :
      Turn session (some (.called session.calls.length message none))
        { session with
          topic := session.topic.enter.2
          calls := session.calls ++
            [.running ⟨session.topic.enter.1, message, patience, .ordering (session.now + patience)⟩] }
  | admitted {call : Nat} {publication : Publication Content} {deadline : Time}
      (own : session.calls[call]? = some (.running publication))
      (ordering : publication.stage = .ordering deadline)
      (turn : session.topic.holder = some publication.ticket) :
      Turn session (some (.admitted call))
        { session with
          calls := session.calls.set call (.running
            (publication.pass session.now session.topic.live session.topic.live none)) }
  | late {call : Nat} {publication : Publication Content} {deadline : Time}
      (own : session.calls[call]? = some (.running publication))
      (ordering : publication.stage = .ordering deadline)
      (taken : session.topic.holder ≠ some publication.ticket) (elapsed : deadline ≤ session.now) :
      Turn session (some (.returned call false (.error (.timeout session.topic.name))))
        { session with
          topic := session.topic.leave publication.ticket
          calls := session.calls.set call (.finished (.error (.timeout session.topic.name))) }
  | closed {call : Nat} {publication : Publication Content} {deadline : Time}
      {audience rest : List Nat} {subscriber : Nat} {failure : Option PublishError}
      (own : session.calls[call]? = some (.running publication))
      (delivering : publication.stage = .delivering deadline audience (subscriber :: rest) failure)
      (gone : session.topic.isClosed subscriber = true) :
      Turn session none
        { session with
          calls := session.calls.set call (.running
            (publication.pass session.now audience rest (some (.closed session.topic.name)))) }
  | full {call : Nat} {publication : Publication Content} {deadline : Time}
      {audience rest : List Nat} {subscriber : Nat} {failure : Option PublishError}
      (own : session.calls[call]? = some (.running publication))
      (delivering : publication.stage = .delivering deadline audience (subscriber :: rest) failure)
      (there : session.topic.isClosed subscriber = false)
      (crowded : (session.topic.queue? subscriber).any Queue.hasRoom = false)
      (elapsed : deadline ≤ session.now) :
      Turn session none
        { session with
          calls := session.calls.set call (.running
            (publication.pass session.now audience rest (some (.timeout session.topic.name)))) }
  | delivered {call : Nat} {publication : Publication Content} {deadline : Time}
      {audience rest : List Nat} {subscriber : Nat} {failure : Option PublishError}
      (own : session.calls[call]? = some (.running publication))
      (delivering : publication.stage = .delivering deadline audience (subscriber :: rest) failure)
      (there : session.topic.isClosed subscriber = false)
      (room : (session.topic.queue? subscriber).any Queue.hasRoom = true) :
      Turn session (some (.arrived subscriber call publication.message))
        { session with
          topic := session.topic.put subscriber publication.message
          calls := session.calls.set call (.running
            (publication.pass session.now audience rest failure)) }
  | concluded {call : Nat} {publication : Publication Content} {deadline : Time}
      {audience : List Nat} {failure : Option PublishError} {result : Except PublishError Unit}
      (own : session.calls[call]? = some (.running publication))
      (delivering : publication.stage = .delivering deadline audience [] failure)
      (ended : (publication.conclude audience failure session.topic).2 = .finished result) :
      Turn session (some (.returned call true result))
        { session with
          topic := (publication.conclude audience failure session.topic).1
          calls := session.calls.set call (.finished result) }
  | taken {subscriber : Nat} {message : Content} {topic : Topic Content}
      (received : session.topic.receive subscriber = some (message, topic)) :
      Turn session (some (.taken subscriber message)) { session with topic }
  | left (subscriber : Nat) :
      Turn session (some (.left subscriber (session.topic.items subscriber)))
        { session with topic := session.topic.close subscriber }
  | waited (now : Time) : Turn session none { session with now }

variable {session after : TopicSession Content}

theorem publish_turn (message : Content) (patience : Time) :
    Turn session (sight? (.publish message patience) session (session.publish message patience))
      (session.publish message patience) := by
  cases accepts : session.accepts message with
  | false =>
      have refused : session.publish message patience =
          { session with
            calls := session.calls ++ [.finished (.error (.rejected session.topic.name))] } := by
        simp [publish, Publication.begin, accepts]
      rw [refused]
      simpa [sight?] using Turn.rejected message accepts
  | true =>
      have begun : session.publish message patience =
          { session with
            topic := session.topic.enter.2
            calls := session.calls ++
              [.running
                ⟨session.topic.enter.1, message, patience, .ordering (session.now + patience)⟩] } := by
        simp [publish, Publication.begin, Publication.start, accepts]
      rw [begun]
      simpa [sight?] using Turn.entered message patience accepts

theorem sight?_move {call : Nat} {publication : Publication Content}
    (own : session.calls[call]? = some (.running publication)) :
    sight? (.move call) session after = callSight? call session after publication := by
  simp only [sight?, own]

/-- A call that moves is under way, and its publication takes a step. -/
theorem stepCall_invert {call : Nat} (moved : session.stepCall call = some after) :
    ∃ publication topic progress, session.calls[call]? = some (.running publication) ∧
      Publication.Moved session.now publication session.topic topic progress ∧
      after = { session with topic, calls := session.calls.set call progress.call } := by
  cases own : session.calls[call]? with
  | none => simp [stepCall, own] at moved
  | some state =>
      cases state with
      | finished result => simp [stepCall, own] at moved
      | running publication =>
          simp only [stepCall, own, Option.map_eq_some_iff, Prod.exists] at moved
          obtain ⟨topic, progress, stepped, rfl⟩ := moved
          exact ⟨publication, topic, progress, rfl, Publication.step_moved stepped, rfl⟩

theorem stepCall_turn {call : Nat} (moved : session.stepCall call = some after) :
    Turn session (sight? (.move call) session after) after := by
  obtain ⟨publication, topic, progress, own, step, rfl⟩ := stepCall_invert moved
  have bound : call < session.calls.length := (List.getElem?_eq_some_iff.mp own).1
  rw [sight?_move own]
  cases step with
  | admitted ordering turn =>
      simpa [callSight?, bound, Publication.hasBegun, ordering, Publication.pass, Progress.call] using
        Turn.admitted own ordering turn
  | late ordering taken elapsed =>
      simpa [callSight?, bound, Publication.hasBegun, ordering, Progress.call] using
        Turn.late own ordering taken elapsed
  | closed delivering gone =>
      simpa [callSight?, bound, Publication.hasBegun, delivering, Publication.pass,
        Topic.arrival?_none, Progress.call] using Turn.closed own delivering gone
  | full delivering there crowded elapsed =>
      simpa [callSight?, bound, Publication.hasBegun, delivering, Publication.pass,
        Topic.arrival?_none, Progress.call] using Turn.full own delivering there crowded elapsed
  | delivered delivering there room =>
      simpa [callSight?, bound, Publication.hasBegun, delivering, Publication.pass,
        Topic.arrival?_put there, Progress.call] using Turn.delivered own delivering there room
  | concluded delivering =>
      simpa [callSight?, bound, Publication.hasBegun, delivering, Publication.conclude,
        Progress.call] using Turn.concluded own delivering rfl

theorem act_turn {next : Act Content} (acted : session.act next = some after) :
    Turn session (sight? next session after) after := by
  cases next with
  | subscribe capacity =>
      cases acted
      exact .subscribed capacity
  | publish message patience =>
      cases acted
      exact publish_turn message patience
  | move call => exact stepCall_turn acted
  | receive subscriber =>
      simp only [act, receive, Option.map_map, Option.map_eq_some_iff, Prod.exists] at acted
      obtain ⟨message, topic, received, rfl⟩ := acted
      have oldest := Topic.receive_items received
      simpa [sight?, oldest] using Turn.taken received
  | close subscriber =>
      cases acted
      exact .left subscriber
  | pass span =>
      cases acted
      exact .waited _

end TopicSession

end CameraBridge
