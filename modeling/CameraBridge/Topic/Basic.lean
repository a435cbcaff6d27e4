import CameraBridge.Clock

/-!
Topics hand every message to all subscribers, each with a bounded queue of its own. Publications
take the topic's order lock, first come first served, so that all queues see one order. Every wait
of a publication, for the lock or for room in one queue, is bounded by its patience.

The message goes to those who were subscribed when delivery began, in order of subscription. A
subscriber whose queue stays full, or which has closed it, is passed over; the last such failure is
the publication's result.
-/

namespace CameraBridge

/-- Why a message was not handed to every subscriber. Each names the topic. -/
inductive PublishError where
  | rejected (topic : String)
  | timeout (topic : String)
  | closed (topic : String)
  deriving DecidableEq

def PublishError.message : PublishError → String
  | .rejected topic => s!"Message rejected by topic '{topic}'"
  | .timeout topic => s!"Publish on topic '{topic}' timed out"
  | .closed topic => s!"Topic '{topic}' subscriber closed"

variable {Content : Type}

/-- The queue of one subscriber, oldest message first. -/
structure Queue (Content : Type) where
  capacity : Nat
  items : List Content := []
  closed : Bool := false
  deriving DecidableEq

def Queue.hasRoom (queue : Queue Content) : Bool := queue.items.length < queue.capacity

/-- Subscribers and publications of one kind of message. -/
structure Topic (Content : Type) where
  name : String
  /-- The queues of all subscribers ever, numbered in order of subscription. -/
  queues : List (Queue Content) := []
  live : List Nat := []
  holder : Option Nat := none
  /-- The publications that wait for the order lock, in order. -/
  waiting : List Nat := []
  nextTicket : Nat := 0
  deriving DecidableEq

namespace Topic

/-- Adds a subscriber; its queue holds at least one message. -/
def subscribe (capacity : Nat) (topic : Topic Content) : Nat × Topic Content :=
  (topic.queues.length,
    { topic with
      queues := topic.queues ++ [{ capacity := max capacity 1 }]
      live := topic.live ++ [topic.queues.length] })

def queue? (topic : Topic Content) (subscriber : Nat) : Option (Queue Content) :=
  topic.queues[subscriber]?

def isClosed (topic : Topic Content) (subscriber : Nat) : Bool :=
  (topic.queue? subscriber).all Queue.closed

/-- The oldest message of a subscriber, and the topic without it. -/
def receive (subscriber : Nat) (topic : Topic Content) : Option (Content × Topic Content) :=
  match topic.queue? subscriber with
  | some queue =>
      match queue.items with
      | [] => none
      | first :: rest =>
          some (first, { topic with queues := topic.queues.set subscriber { queue with items := rest } })
  | none => none

def put (subscriber : Nat) (message : Content) (topic : Topic Content) : Topic Content :=
  { topic with
    queues := topic.queues.modify subscriber fun queue =>
      { queue with items := queue.items ++ [message] } }

def close (subscriber : Nat) (topic : Topic Content) : Topic Content :=
  { topic with
    queues := topic.queues.modify subscriber fun queue => { queue with items := [], closed := true } }

def prune (topic : Topic Content) : Topic Content :=
  { topic with live := topic.live.filter fun subscriber => !topic.isClosed subscriber }

def enter (topic : Topic Content) : Nat × Topic Content :=
  (topic.nextTicket,
    match topic.holder with
    | none => { topic with holder := some topic.nextTicket, nextTicket := topic.nextTicket + 1 }
    | some _ =>
        { topic with
          waiting := topic.waiting ++ [topic.nextTicket]
          nextTicket := topic.nextTicket + 1 })

/-- A publication gives up its claim: a holder hands the lock to the first one that waits. -/
def leave (ticket : Nat) (topic : Topic Content) : Topic Content :=
  if topic.holder = some ticket then
    { topic with holder := topic.waiting.head?, waiting := topic.waiting.tail }
  else { topic with waiting := topic.waiting.erase ticket }

end Topic

inductive Stage where
  | ordering (deadline : Time)
  /-- It delivers to the remaining ones of those that were subscribed when it began; the first of
  them has until the deadline to make room. -/
  | delivering (deadline : Time) (audience remaining : List Nat) (failure : Option PublishError)
  deriving DecidableEq

/-- A message on its way to the subscribers of a topic. -/
structure Publication (Content : Type) where
  ticket : Nat
  message : Content
  patience : Time
  stage : Stage
  deriving DecidableEq

/-- What a move of a publication led to. -/
inductive Progress (Content : Type) where
  /-- It goes on, having put its message into one more queue or not. -/
  | going (publication : Publication Content) (delivered : Bool)
  | finished (result : Except PublishError Unit)

namespace Publication

def start (now patience : Time) (message : Content) (topic : Topic Content) :
    Publication Content × Topic Content :=
  let (ticket, topic) := topic.enter
  (⟨ticket, message, patience, .ordering (now + patience)⟩, topic)

/-- Begins to publish a message, which the topic either takes or rejects at once. -/
def begin (accepts : Bool) (now patience : Time) (message : Content) (topic : Topic Content) :
    Except PublishError (Publication Content × Topic Content) :=
  if accepts then .ok (start now patience message topic) else .error (.rejected topic.name)

def pass (now : Time) (audience remaining : List Nat) (failure : Option PublishError)
    (publication : Publication Content) : Publication Content :=
  { publication with stage := .delivering (now + publication.patience) audience remaining failure }

/-- Ends a delivery: subscribers that are gone are no longer served, if one was in the audience. -/
def conclude (audience : List Nat) (failure : Option PublishError)
    (publication : Publication Content) (topic : Topic Content) : Topic Content × Progress Content :=
  let topic := if audience.any topic.isClosed then topic.prune else topic
  (topic.leave publication.ticket,
    .finished (match failure with | none => .ok () | some cause => .error cause))

def deliver (now deadline : Time) (audience remaining : List Nat) (failure : Option PublishError)
    (publication : Publication Content) (topic : Topic Content) :
    Option (Topic Content × Progress Content) :=
  match remaining with
  | [] => some (publication.conclude audience failure topic)
  | subscriber :: rest =>
      if topic.isClosed subscriber then
        some (topic, .going (publication.pass now audience rest (some (.closed topic.name))) false)
      else if (topic.queue? subscriber).any Queue.hasRoom then
        some (topic.put subscriber publication.message,
          .going (publication.pass now audience rest failure) true)
      else if now < deadline then none
      else some (topic, .going (publication.pass now audience rest (some (.timeout topic.name))) false)

/-- Goes on with a publication, unless it has to wait. -/
def step (now : Time) (publication : Publication Content) (topic : Topic Content) :
    Option (Topic Content × Progress Content) :=
  match publication.stage with
  | .ordering deadline =>
      if topic.holder = some publication.ticket then
        some (topic, .going (publication.pass now topic.live topic.live none) false)
      else if now < deadline then none
      else some (topic.leave publication.ticket, .finished (.error (.timeout topic.name)))
  | .delivering deadline audience remaining failure =>
      publication.deliver now deadline audience remaining failure topic

def abandon (publication : Publication Content) (topic : Topic Content) : Topic Content :=
  topic.leave publication.ticket

def deadline (publication : Publication Content) : Time :=
  match publication.stage with
  | .ordering deadline => deadline
  | .delivering deadline .. => deadline

end Publication

end CameraBridge
