import CameraBridge.Proofs.Topic.Delivery

namespace CameraBridge

/-! A topic with one subscriber and no more than one publication at a time. Such a publication never
waits for the order lock, and if the queue is empty when it begins, it never waits at all. -/

variable {Content : Type}

namespace Topic

/-- One subscriber ever, and nobody waits for the lock. A subscriber is pruned only once it is gone. -/
structure Single (topic : Topic Content) (closed : Bool) (items : List Content)
    (holder : Option Nat) : Prop where
  queue : ∃ capacity, 0 < capacity ∧ topic.queues = [⟨capacity, items, closed⟩]
  live : topic.live = [0] ∨ topic.live = [] ∧ closed = true
  holder : topic.holder = holder
  waiting : topic.waiting = []

namespace Single

variable {topic after : Topic Content} {closed : Bool} {items : List Content} {holder : Option Nat}
  {ticket : Nat}

theorem subscribed (name : String) (capacity : Nat) :
    Single (({ name := name } : Topic Content).subscribe capacity).2 false [] none where
  queue := ⟨max capacity 1, by omega, rfl⟩
  live := .inl rfl
  holder := rfl
  waiting := rfl

theorem items_eq (single : Single topic closed items holder) : topic.items 0 = items := by
  obtain ⟨capacity, -, queues⟩ := single.queue
  simp [Topic.items, queue?, queues]

theorem isClosed_eq (single : Single topic closed items holder) : topic.isClosed 0 = closed := by
  obtain ⟨capacity, -, queues⟩ := single.queue
  simp [isClosed, queue?, queues]

theorem hasRoom (single : Single topic closed [] holder) :
    (topic.queue? 0).any Queue.hasRoom = true := by
  obtain ⟨capacity, room, queues⟩ := single.queue
  simp [queue?, queues, Queue.hasRoom, room]

theorem enter (single : Single topic closed items none) :
    Single topic.enter.2 closed items (some topic.enter.1) := by
  obtain ⟨queue, live, holder, waiting⟩ := single
  simp only [Topic.enter, holder]
  exact ⟨queue, live, rfl, waiting⟩

theorem leave (single : Single topic closed items (some ticket)) :
    Single (topic.leave ticket) closed items none := by
  obtain ⟨queue, live, holder, waiting⟩ := single
  rw [Topic.leave, if_pos holder]
  exact ⟨queue, live, by rw [waiting]; rfl, by rw [waiting]; rfl⟩

theorem put (single : Single topic false items holder) (message : Content) :
    Single (topic.put 0 message) false (items ++ [message]) holder := by
  obtain ⟨⟨capacity, room, queues⟩, live, held, waiting⟩ := single
  exact ⟨⟨capacity, room, by rw [Topic.put, queues]; rfl⟩, live, held, waiting⟩

theorem prune (single : Single topic true items holder) : Single topic.prune true items holder := by
  have gone := single.isClosed_eq
  obtain ⟨queue, live, held, waiting⟩ := single
  refine ⟨queue, .inr ⟨?_, rfl⟩, held, waiting⟩
  rcases live with there | ⟨nobody, -⟩
  · simp [Topic.prune, there, gone]
  · simp [Topic.prune, nobody]

theorem close (single : Single topic closed items holder) :
    Single (topic.close 0) true [] holder := by
  obtain ⟨⟨capacity, room, queues⟩, live, held, waiting⟩ := single
  refine ⟨⟨capacity, room, by rw [Topic.close, queues]; rfl⟩, ?_, held, waiting⟩
  exact live.imp_right fun nobody => ⟨nobody.1, rfl⟩

theorem receive (single : Single topic closed items holder) {message : Content}
    (received : topic.receive 0 = some (message, after)) :
    ∃ rest, items = message :: rest ∧ Single after closed rest holder := by
  obtain ⟨⟨capacity, room, queues⟩, live, held, waiting⟩ := single
  simp only [Topic.receive, queue?, queues, List.getElem?_cons_zero] at received
  cases items with
  | nil => simp at received
  | cons first rest =>
      simp only [Option.some.injEq, Prod.mk.injEq] at received
      obtain ⟨rfl, rfl⟩ := received
      exact ⟨rest, rfl, ⟨capacity, room, rfl⟩, live, held, waiting⟩

theorem receive_exists {message : Content} {rest : List Content}
    (single : Single topic closed (message :: rest) holder) :
    ∃ after, topic.receive 0 = some (message, after) := by
  obtain ⟨⟨capacity, room, queues⟩, live, held, waiting⟩ := single
  simp only [Topic.receive, queue?, queues, List.getElem?_cons_zero]
  exact ⟨_, rfl⟩

end Single

end Topic

namespace Publication

/-- It has been handed to everyone it is for, and has only to give back the lock. -/
def isServed (publication : Publication Content) : Bool :=
  match publication.stage with
  | .delivering _ _ [] _ => true
  | _ => false

/-- It has the only subscriber still before it, and nothing has failed. -/
def IsEarly (publication : Publication Content) : Prop :=
  (∃ deadline, publication.stage = .ordering deadline) ∨
    ∃ deadline, publication.stage = .delivering deadline [0] [0] none

theorem started_early {now patience : Time} {message : Content} {publication : Publication Content}
    {topic after : Topic Content}
    (started : start now patience message topic = (publication, after)) : publication.IsEarly := by
  cases started
  exact .inl ⟨_, rfl⟩

theorem started_ticket {now patience : Time} {message : Content} {publication : Publication Content}
    {topic after : Topic Content}
    (started : start now patience message topic = (publication, after)) :
    publication.ticket = topic.enter.1 := by
  cases started
  rfl

theorem IsEarly.unserved {publication : Publication Content} (early : publication.IsEarly) :
    publication.isServed = false := by
  obtain ⟨deadline, ordering⟩ | ⟨deadline, delivering⟩ := early
  · rw [isServed, ordering]
  · rw [isServed, delivering]

variable {publication : Publication Content} {topic : Topic Content} {closed : Bool}
  {items : List Content}

theorem conclude_single (audience : List Nat) (only : audience = [] ∨ audience = [0])
    (failure : Option PublishError)
    (single : topic.Single closed items (some publication.ticket)) :
    (publication.conclude audience failure topic).1.Single closed items none := by
  rcases only with rfl | rfl
  · exact single.leave
  · have gone := single.isClosed_eq
    cases closed with
    | false =>
        simp only [conclude, List.any_cons, List.any_nil, gone, Bool.or_false, Bool.false_eq_true,
          if_false]
        exact single.leave
    | true =>
        simp only [conclude, List.any_cons, List.any_nil, gone, Bool.or_false, if_true]
        exact single.prune.leave

/-- The result of a publication, if it ends before its task may have to wait again. -/
def outcome? (now : Time) (publication : Publication Content) (topic : Topic Content) :
    Option (Except PublishError Unit) :=
  match publication.step now topic with
  | some (_, .finished result) => some result
  | some (middle, .going later _) =>
      if later.isServed then
        match later.step now middle with
        | some (_, .finished result) => some result
        | _ => none
      else none
  | none => none

/-- Where a publication stands after one step, and how it ends if nobody is left to be served. -/
inductive Strode (publication : Publication Content) (closed : Bool) (middle : Topic Content)
    (later : Publication Content) : (delivered : Bool) → Prop where
  | admitted (ordering : ∃ deadline, publication.stage = .ordering deadline)
      (delivering : ∃ deadline, later.stage = .delivering deadline [0] [0] none)
      (single : middle.Single closed [] (some publication.ticket)) :
      Strode publication closed middle later false
  | unserved {after : Topic Content} {result : Except PublishError Unit}
      (served : later.isServed = true)
      (ends : ∀ moment, later.step moment middle = some (after, .finished result))
      (inTime : ∀ name, result ≠ .error (.timeout name)) (single : after.Single closed [] none) :
      Strode publication closed middle later false
  | served {after : Topic Content} (served : later.isServed = true) (there : closed = false)
      (ends : ∀ moment, later.step moment middle = some (after, .finished (.ok ())))
      (single : after.Single false [publication.message] none) :
      Strode publication closed middle later true

/-- With an empty queue before it, a publication never waits. -/
theorem IsEarly.strode (early : publication.IsEarly)
    (single : topic.Single closed [] (some publication.ticket)) (now : Time) :
    ∃ middle later delivered,
      publication.step now topic = some (middle, .going later delivered) ∧
      later.ticket = publication.ticket ∧ later.message = publication.message ∧
      Strode publication closed middle later delivered := by
  obtain ⟨deadline, ordering⟩ | ⟨deadline, delivering⟩ := early
  · have stepped : publication.step now topic =
        some (topic, .going (publication.pass now topic.live topic.live none) false) := by
      simp only [step, ordering, single.holder, if_true]
    refine ⟨topic, _, false, stepped, rfl, rfl, ?_⟩
    rcases single.live with there | ⟨nobody, gone⟩
    · rw [there]
      exact .admitted ⟨deadline, ordering⟩ ⟨_, rfl⟩ single
    · rw [nobody]
      have ended := conclude_single [] (.inl rfl) none single
      exact .unserved rfl (fun _ => rfl) (by simp) ended
  · cases closed with
    | true =>
        have stepped : publication.step now topic =
            some (topic, .going (publication.pass now [0] [] (some (.closed topic.name))) false) := by
          simp only [step, delivering, deliver, single.isClosed_eq, if_true]
        have ended := conclude_single [0] (.inr rfl) (some (.closed topic.name)) single
        exact ⟨topic, _, false, stepped, rfl, rfl, .unserved rfl (fun _ => rfl) (by simp) ended⟩
    | false =>
        have stepped : publication.step now topic =
            some (topic.put 0 publication.message,
              .going (publication.pass now [0] [] none) true) := by
          simp only [step, delivering, deliver, single.isClosed_eq, single.hasRoom,
            Bool.false_eq_true, if_false, if_true]
        have ended := conclude_single [0] (.inr rfl) none (single.put publication.message)
        exact ⟨_, _, true, stepped, rfl, rfl, .served rfl rfl (fun _ => rfl) ended⟩

/-- While the only subscriber is there and has nothing, a publication either comes to it or serves
it. -/
theorem IsEarly.stepped (early : publication.IsEarly) {now : Time} {after : Topic Content}
    {progress : Progress Content} (single : topic.Single false [] (some publication.ticket))
    (stepped : publication.step now topic = some (after, progress)) :
    ∃ later delivered, progress = .going later delivered ∧ later.ticket = publication.ticket ∧
      later.message = publication.message ∧
      (delivered = false ∧ later.IsEarly ∧ after.Single false [] (some publication.ticket) ∨
        delivered = true ∧ (∃ deadline, later.stage = .delivering deadline [0] [] none) ∧
          after.Single false [publication.message] (some publication.ticket)) := by
  obtain ⟨deadline, ordering⟩ | ⟨deadline, delivering⟩ := early
  · have live : topic.live = [0] := single.live.elim id fun nobody => nomatch nobody.2
    simp only [step, ordering, single.holder, if_true, Option.some.injEq, Prod.mk.injEq] at stepped
    obtain ⟨rfl, rfl⟩ := stepped
    exact ⟨_, false, rfl, rfl, rfl, .inl ⟨rfl, .inr ⟨_, by rw [live]; rfl⟩, single⟩⟩
  · simp only [step, delivering, deliver, single.isClosed_eq, single.hasRoom, Bool.false_eq_true,
      if_false, if_true, Option.some.injEq, Prod.mk.injEq] at stepped
    obtain ⟨rfl, rfl⟩ := stepped
    exact ⟨_, true, rfl, rfl, rfl, .inr ⟨rfl, ⟨_, rfl⟩, single.put publication.message⟩⟩

end Publication

end CameraBridge
