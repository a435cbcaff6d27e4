import CameraBridge.Topic.Basic

/-!
A topic on a clock, with any number of publications and subscribers at a time.
-/

namespace CameraBridge

variable {Content : Type}

/-- A topic, the time and all publications so far. -/
structure TopicSession (Content : Type) where
  now : Time := 0
  topic : Topic Content
  /-- Whether a message may be published, which is asked once, as the call begins. It depends on the
  message alone, and that is no loss: messages are of any type, so that one whose verdict changes with
  the time comes together with the verdict that it meets. -/
  accepts : Content → Bool
  calls : List (Call (Publication Content) (Except PublishError Unit)) := []

namespace TopicSession

def subscribe (capacity : Nat) (session : TopicSession Content) : Nat × TopicSession Content :=
  let (subscriber, topic) := session.topic.subscribe capacity
  (subscriber, { session with topic })

/-- Begins to publish a message, as the call with the next number. -/
def publish (message : Content) (patience : Time) (session : TopicSession Content) :
    TopicSession Content :=
  match Publication.begin (session.accepts message) session.now patience message session.topic with
  | .ok (publication, topic) =>
      { session with topic, calls := session.calls ++ [.running publication] }
  | .error cause => { session with calls := session.calls ++ [.finished (.error cause)] }

def receive (subscriber : Nat) (session : TopicSession Content) :
    Option (Content × TopicSession Content) :=
  (session.topic.receive subscriber).map fun (message, topic) => (message, { session with topic })

def close (subscriber : Nat) (session : TopicSession Content) : TopicSession Content :=
  { session with topic := session.topic.close subscriber }

def stepCall (number : Nat) (session : TopicSession Content) : Option (TopicSession Content) :=
  match session.calls[number]? with
  | some (.running publication) =>
      (publication.step session.now session.topic).map fun (topic, progress) =>
        let call := match progress with
          | .going publication _ => .running publication
          | .finished result => .finished result
        { session with topic, calls := session.calls.set number call }
  | _ => none

def deadlines (session : TopicSession Content) : List Time :=
  session.calls.filterMap fun
    | .running publication => some publication.deadline
    | .finished _ => none

def system : System (TopicSession Content) where
  tasks session := (List.range session.calls.length).map stepCall
  now session := session.now
  setNow now session := { session with now }
  deadlines := deadlines

end TopicSession

end CameraBridge
