import CameraBridge.Proofs.Topic.Lock

namespace CameraBridge

/-! Where the messages of a topic come from and where they go. Each message that came to a queue is one
that a call published, and each queue holds what came to it less what was taken or left in it. -/

variable {Content : Type}

namespace TopicSession

/-! ### What was seen -/

namespace Sight

/-- A call that began to publish a message. -/
def publication? : Sight Content → Option (Nat × Content)
  | .called call message _ => some (call, message)
  | _ => none

def admitted? : Sight Content → Option Nat
  | .admitted call => some call
  | _ => none

/-- The call whose message came to a subscriber's queue, with the message. -/
def arrival? (subscriber : Nat) : Sight Content → Option (Nat × Content)
  | .arrived target call message => if target = subscriber then some (call, message) else none
  | _ => none

/-- What a subscriber took from its queue or left in it. -/
def departed (subscriber : Nat) : Sight Content → List Content
  | .taken target message => if target = subscriber then [message] else []
  | .left target messages => if target = subscriber then messages else []
  | _ => []

end Sight

/-- All calls with their messages, in the order in which they began. -/
def published (sights : List (Sight Content)) : List (Nat × Content) :=
  sights.filterMap Sight.publication?

/-- The calls in the order in which the lock came to them. -/
def admittances (sights : List (Sight Content)) : List Nat := sights.filterMap Sight.admitted?

/-- The messages that ever came to a subscriber's queue, oldest first, each with its call. -/
def arrivals (subscriber : Nat) (sights : List (Sight Content)) : List (Nat × Content) :=
  sights.filterMap (Sight.arrival? subscriber)

def departures (subscriber : Nat) (sights : List (Sight Content)) : List Content :=
  sights.flatMap (Sight.departed subscriber)

theorem departures_seen (subscriber : Nat) (sights : List (Sight Content))
    (seen : Option (Sight Content)) :
    departures subscriber (sights ++ seen.toList) =
      departures subscriber sights ++ (seen.map (Sight.departed subscriber)).getD [] := by
  cases seen <;> simp [departures]

variable {session after : TopicSession Content} {seen : Option (Sight Content)}
  {sights : List (Sight Content)}

/-! ### Where messages go -/

/-- Nothing that came to a queue is lost or overtaken. -/
def Kept (sights : List (Sight Content)) (session : TopicSession Content) : Prop :=
  ∀ subscriber, (arrivals subscriber sights).map Prod.snd =
    departures subscriber sights ++ session.topic.items subscriber

/-- What a turn shows of a queue is what it does to it. -/
theorem Turn.items (turn : Turn session seen after) (subscriber : Nat) :
    session.topic.items subscriber ++
        ((seen.bind (Sight.arrival? subscriber)).map Prod.snd).toList =
      (seen.map (Sight.departed subscriber)).getD [] ++ after.topic.items subscriber := by
  cases turn with
  | subscribed capacity =>
      simpa using (Topic.subscribe_items capacity subscriber session.topic).symm
  | rejected | admitted | closed | full | waited => simp [Sight.arrival?, Sight.departed]
  | entered =>
      have same := Topic.items_congr (Topic.enter_queues session.topic) subscriber
      simp [Sight.arrival?, Sight.departed, same]
  | @late call publication =>
      have same := Topic.items_congr (Topic.leave_queues publication.ticket session.topic) subscriber
      simp [Sight.arrival?, Sight.departed, same]
  | @concluded call publication deadline audience failure =>
      have same := Topic.items_congr
        (publication.conclude_queues audience failure session.topic) subscriber
      simp [Sight.arrival?, Sight.departed, same]
  | @delivered call publication deadline audience rest target failure own delivering there =>
      have grown := Topic.put_items publication.message there subscriber
      rw [grown]
      by_cases same : target = subscriber <;> simp [Sight.arrival?, Sight.departed, same]
  | @taken target message topic received =>
      by_cases same : target = subscriber
      · subst same
        simp [Sight.arrival?, Sight.departed, Topic.receive_items received]
      · simp [Sight.arrival?, Sight.departed, Topic.receive_other same received, same]
  | left target =>
      by_cases same : target = subscriber
      · subst same
        simp [Sight.arrival?, Sight.departed, Topic.close_items]
      · simp [Sight.arrival?, Sight.departed, Topic.close_other same, same]

theorem Turn.kept (turn : Turn session seen after) (kept : Kept sights session) :
    Kept (sights ++ seen.toList) after := by
  intro subscriber
  have arrived := filterMap_seen (Sight.arrival? subscriber) sights seen
  calc (arrivals subscriber (sights ++ seen.toList)).map Prod.snd
      = (arrivals subscriber sights).map Prod.snd ++
          ((seen.bind (Sight.arrival? subscriber)).map Prod.snd).toList := by
        rw [arrivals, arrived, List.map_append, arrivals, Option.toList_map]
    _ = departures subscriber sights ++ (session.topic.items subscriber ++
          ((seen.bind (Sight.arrival? subscriber)).map Prod.snd).toList) := by
        rw [kept subscriber, List.append_assoc]
    _ = departures subscriber (sights ++ seen.toList) ++ after.topic.items subscriber := by
        rw [turn.items subscriber, departures_seen, List.append_assoc]

/-! ### Where messages come from -/

/-- Each call goes by its number, and what it carries and what came of it is what it began with. -/
structure Credited (sights : List (Sight Content)) (session : TopicSession Content) : Prop where
  numbered : (published sights).map Prod.fst = List.range session.calls.length
  carried : ∀ call publication, Runs session.calls call publication →
    (call, publication.message) ∈ published sights
  genuine : ∀ subscriber, ∀ arrival ∈ arrivals subscriber sights, arrival ∈ published sights

/-- No call begins, and those that go on carry what they carried. -/
theorem Credited.continued (credited : Credited sights session)
    (begun : seen.bind Sight.publication? = none)
    (genuine : ∀ subscriber arrival, seen.bind (Sight.arrival? subscriber) = some arrival →
      arrival ∈ published sights)
    (same : after.calls.length = session.calls.length)
    (origin : ∀ call publication, Runs after.calls call publication →
      ∃ was, Runs session.calls call was ∧ publication.message = was.message) :
    Credited (sights ++ seen.toList) after := by
  have unchanged : published (sights ++ seen.toList) = published sights := by
    rw [published, filterMap_seen, begun]
    exact List.append_nil _
  constructor
  · rw [unchanged, same]
    exact credited.numbered
  · intro call publication running
    obtain ⟨was, older, message⟩ := origin call publication running
    rw [unchanged, message]
    exact credited.carried call was older
  · intro subscriber arrival member
    rw [unchanged]
    rw [arrivals, filterMap_seen, List.mem_append, Option.mem_toList] at member
    rcases member with older | new
    · exact credited.genuine subscriber arrival older
    · exact genuine subscriber arrival new

theorem Credited.began (credited : Credited sights session) (message : Content)
    (refusal : Option PublishError) {state : Call (Publication Content) (Except PublishError Unit)}
    (carries : ∀ publication, state = .running publication → publication.message = message)
    (calls : after.calls = session.calls ++ [state]) :
    Credited (sights ++ [.called session.calls.length message refusal]) after := by
  have longer : published (sights ++ [.called session.calls.length message refusal]) =
      published sights ++ [(session.calls.length, message)] :=
    filterMap_seen Sight.publication? sights (some (.called session.calls.length message refusal))
  constructor
  · rw [longer, calls, List.map_append, credited.numbered, List.length_append]
    exact List.range_succ.symm
  · intro call publication running
    rw [longer, List.mem_append, List.mem_singleton]
    rw [calls] at running
    obtain older | ⟨rfl, new⟩ := runs_added running
    · exact .inl (credited.carried call publication older)
    · exact .inr (by rw [carries publication new])
  · intro subscriber arrival member
    have older : arrival ∈ arrivals subscriber sights := by
      have shown := filterMap_seen (Sight.arrival? subscriber) sights
        (some (.called session.calls.length message refusal))
      rw [arrivals, ← List.append_nil (sights.filterMap _)]
      exact shown ▸ member
    rw [longer, List.mem_append]
    exact .inl (credited.genuine subscriber arrival older)

theorem Turn.credited (turn : Turn session seen after) (credited : Credited sights session) :
    Credited (sights ++ seen.toList) after := by
  have going : ∀ {call : Nat} {publication later : Publication Content},
      Runs session.calls call publication → later.message = publication.message →
      ∀ other next, Runs (session.calls.set call (.running later)) other next →
        ∃ was, Runs session.calls other was ∧ next.message = was.message := by
    intro call publication later own same other next running
    obtain ⟨rfl, rfl⟩ | ⟨-, older⟩ := own.going running
    · exact ⟨publication, own, same⟩
    · exact ⟨next, older, rfl⟩
  cases turn with
  | subscribed | waited =>
      exact credited.continued rfl (by simp) rfl fun _ next running => ⟨next, running, rfl⟩
  | taken | left =>
      exact credited.continued rfl (by simp [Sight.arrival?]) rfl
        fun _ next running => ⟨next, running, rfl⟩
  | rejected message =>
      apply credited.began message _ _ rfl
      intro publication same
      cases same
  | entered message =>
      apply credited.began message none _ rfl
      intro publication same
      cases same
      rfl
  | admitted own =>
      exact credited.continued rfl (by simp [Sight.arrival?]) List.length_set (going own rfl)
  | closed own | full own =>
      exact credited.continued rfl (by simp) List.length_set (going own rfl)
  | delivered own =>
      refine credited.continued rfl ?_ List.length_set (going own (by rfl))
      intro subscriber arrival shown
      simp only [Option.bind_some, Sight.arrival?, Option.ite_none_right_eq_some,
        Option.some.injEq] at shown
      exact shown.2 ▸ credited.carried _ _ own
  | late own | concluded own =>
      apply credited.continued rfl (by simp [Sight.arrival?]) List.length_set
      intro other next running
      exact ⟨next, (Runs.finished own running).2, rfl⟩

/-- A call published one message only. -/
theorem Credited.lookup (credited : Credited sights session) {call : Nat} {message : Content} :
    (call, message) ∈ published sights ↔ (published sights)[call]? = some (call, message) := by
  constructor
  · intro member
    obtain ⟨position, found⟩ := List.mem_iff_getElem?.mp member
    have number : ((published sights).map Prod.fst)[position]? = some call := by
      rw [List.getElem?_map, found]
      rfl
    rw [credited.numbered, List.getElem?_range] at number
    · cases number
      exact found
    · have within := (List.getElem?_eq_some_iff.mp found).1
      rwa [← List.length_map (f := Prod.fst), credited.numbered, List.length_range] at within
  · exact List.mem_of_getElem?

end TopicSession

end CameraBridge
