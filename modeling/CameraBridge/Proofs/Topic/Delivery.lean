import CameraBridge.Topic.Basic

namespace CameraBridge

/-! What a publication does to its topic, one step after the other, and what it leaves in the queues
of the subscribers. -/

variable {Content : Type}

namespace Topic

/-- What a subscriber has not taken yet, oldest first. -/
def items (subscriber : Nat) (topic : Topic Content) : List Content :=
  ((topic.queue? subscriber).map Queue.items).getD []

variable {topic after : Topic Content} {subscriber target ticket : Nat} {message : Content}

theorem items_of_queue {queue : Queue Content} (present : topic.queue? subscriber = some queue) :
    topic.items subscriber = queue.items := by
  simp only [items, present, Option.map_some, Option.getD_some]

theorem enter_queues (topic : Topic Content) : topic.enter.2.queues = topic.queues := by
  cases holder : topic.holder <;> simp only [enter, holder]

theorem leave_queues (ticket : Nat) (topic : Topic Content) :
    (topic.leave ticket).queues = topic.queues := by
  unfold leave
  split <;> rfl

theorem items_congr (same : after.queues = topic.queues) (subscriber : Nat) :
    after.items subscriber = topic.items subscriber := by
  simp only [items, queue?, same]

/-- Who receives something takes it from the front of its queue. -/
theorem receive_invert (received : topic.receive subscriber = some (message, after)) :
    ∃ queue rest, topic.queue? subscriber = some queue ∧ queue.items = message :: rest ∧
      after = { topic with queues := topic.queues.set subscriber { queue with items := rest } } := by
  unfold receive at received
  split at received
  · next queue present =>
      split at received
      · cases received
      · next first rest items =>
          cases received
          exact ⟨queue, rest, present, items, rfl⟩
  · cases received

theorem receive_items (received : topic.receive subscriber = some (message, after)) :
    topic.items subscriber = message :: after.items subscriber := by
  obtain ⟨queue, rest, present, items, rfl⟩ := receive_invert received
  have within : subscriber < topic.queues.length := (List.getElem?_eq_some_iff.mp present).1
  rw [items_of_queue present, items]
  simp [Topic.items, queue?, List.getElem?_set_self within]

/-- A queue that is open gets the message at its end, and no other queue changes. -/
theorem put_items (message : Content) (there : topic.isClosed target = false) (subscriber : Nat) :
    (topic.put target message).items subscriber =
      topic.items subscriber ++ if target = subscriber then [message] else [] := by
  by_cases same : target = subscriber
  · subst same
    cases present : topic.queues[target]? with
    | none => simp [isClosed, queue?, present] at there
    | some queue => simp [items, queue?, put, present]
  · simp [items, queue?, put, same]

theorem close_items (subscriber : Nat) (topic : Topic Content) :
    (topic.close subscriber).items subscriber = [] := by
  cases present : topic.queues[subscriber]? <;>
    simp [items, queue?, close, present]

/-- At most one message came to a subscriber's queue, and none was taken from it. -/
def Fed (subscriber : Nat) (before after : Topic Content) : Prop :=
  ∃ arrival : Option Content, after.items subscriber = before.items subscriber ++ arrival.toList

theorem fed_of_items (same : after.items subscriber = topic.items subscriber) :
    Fed subscriber topic after :=
  ⟨none, by rw [same, Option.toList_none, List.append_nil]⟩

theorem Fed.refl (subscriber : Nat) (topic : Topic Content) : Fed subscriber topic topic :=
  fed_of_items rfl

end Topic

namespace Publication

/-- All that a step of a publication can be. -/
inductive Moved (now : Time) (publication : Publication Content) (topic : Topic Content) :
    Topic Content → Progress Content → Prop where
  | admitted {deadline : Time} (ordering : publication.stage = .ordering deadline)
      (turn : topic.holder = some publication.ticket) :
      Moved now publication topic topic
        (.going (publication.pass now topic.live topic.live none) false)
  | late {deadline : Time} (ordering : publication.stage = .ordering deadline)
      (taken : topic.holder ≠ some publication.ticket) (elapsed : deadline ≤ now) :
      Moved now publication topic (topic.leave publication.ticket)
        (.finished (.error (.timeout topic.name)))
  | closed {deadline : Time} {audience rest : List Nat} {subscriber : Nat}
      {failure : Option PublishError}
      (delivering : publication.stage = .delivering deadline audience (subscriber :: rest) failure)
      (gone : topic.isClosed subscriber = true) :
      Moved now publication topic topic
        (.going (publication.pass now audience rest (some (.closed topic.name))) false)
  | delivered {deadline : Time} {audience rest : List Nat} {subscriber : Nat}
      {failure : Option PublishError}
      (delivering : publication.stage = .delivering deadline audience (subscriber :: rest) failure)
      (there : topic.isClosed subscriber = false)
      (room : (topic.queue? subscriber).any Queue.hasRoom = true) :
      Moved now publication topic (topic.put subscriber publication.message)
        (.going (publication.pass now audience rest failure) true)
  | full {deadline : Time} {audience rest : List Nat} {subscriber : Nat}
      {failure : Option PublishError}
      (delivering : publication.stage = .delivering deadline audience (subscriber :: rest) failure)
      (there : topic.isClosed subscriber = false)
      (crowded : (topic.queue? subscriber).any Queue.hasRoom = false) (elapsed : deadline ≤ now) :
      Moved now publication topic topic
        (.going (publication.pass now audience rest (some (.timeout topic.name))) false)
  | concluded {deadline : Time} {audience : List Nat} {failure : Option PublishError}
      (delivering : publication.stage = .delivering deadline audience [] failure) :
      Moved now publication topic (publication.conclude audience failure topic).1
        (publication.conclude audience failure topic).2

variable {now : Time} {publication : Publication Content} {topic after : Topic Content}
  {progress : Progress Content}

theorem step_moved (stepped : publication.step now topic = some (after, progress)) :
    Moved now publication topic after progress := by
  unfold step at stepped
  split at stepped
  · next deadline ordering =>
      split at stepped
      · next turn =>
          cases stepped
          exact .admitted ordering turn
      · next taken =>
          simp only [Option.ite_none_left_eq_some, Option.some.injEq, Prod.mk.injEq] at stepped
          obtain ⟨elapsed, rfl, rfl⟩ := stepped
          exact .late ordering taken (Nat.le_of_not_lt elapsed)
  · next deadline audience remaining failure delivering =>
      unfold deliver at stepped
      split at stepped
      · cases stepped
        exact .concluded delivering
      · next subscriber rest =>
          split at stepped
          · next gone =>
              cases stepped
              exact .closed delivering gone
          · next there =>
              have there : topic.isClosed subscriber = false := Bool.eq_false_iff.mpr there
              split at stepped
              · next room =>
                  cases stepped
                  exact .delivered delivering there room
              · next crowded =>
                  simp only [Option.ite_none_left_eq_some, Option.some.injEq,
                    Prod.mk.injEq] at stepped
                  obtain ⟨elapsed, rfl, rfl⟩ := stepped
                  exact .full delivering there (Bool.eq_false_iff.mpr crowded)
                    (Nat.le_of_not_lt elapsed)

/-- What waits moves on when its time is up. -/
theorem step_elapsed (elapsed : publication.deadline ≤ now) (topic : Topic Content) :
    (publication.step now topic).isSome = true := by
  cases stage : publication.stage with
  | ordering deadline =>
      simp only [Publication.deadline, stage] at elapsed
      simp only [step, stage, if_neg (Nat.not_lt.mpr elapsed)]
      split <;> rfl
  | delivering deadline audience remaining failure =>
      simp only [Publication.deadline, stage] at elapsed
      simp only [step, stage, deliver, if_neg (Nat.not_lt.mpr elapsed)]
      cases remaining with
      | nil => rfl
      | cons subscriber rest =>
          simp only
          split
          · rfl
          · split <;> rfl

theorem conclude_queues (audience : List Nat) (failure : Option PublishError)
    (publication : Publication Content) (topic : Topic Content) :
    (publication.conclude audience failure topic).1.queues = topic.queues := by
  unfold conclude
  simp only [Topic.leave_queues]
  split <;> rfl

/-- A subscriber's queue is left alone, or it gets the message at its end. -/
theorem step_items (stepped : publication.step now topic = some (after, progress))
    (subscriber : Nat) :
    after.items subscriber = topic.items subscriber ∨
      after.items subscriber = topic.items subscriber ++ [publication.message] := by
  cases step_moved stepped with
  | admitted | closed | full => exact .inl rfl
  | late => exact .inl (Topic.items_congr (Topic.leave_queues _ _) subscriber)
  | concluded => exact .inl (Topic.items_congr (conclude_queues _ _ _ _) subscriber)
  | @delivered deadline audience rest target failure delivering there room =>
      have grown := Topic.put_items publication.message there subscriber
      by_cases same : target = subscriber
      · exact .inr (by simpa only [same, if_true] using grown)
      · exact .inl (by simpa only [same, if_false, List.append_nil] using grown)

theorem going_message {later : Publication Content} {delivered : Bool}
    (stepped : publication.step now topic = some (after, .going later delivered)) :
    later.message = publication.message := by
  generalize same : Progress.going later delivered = progress at stepped
  cases step_moved stepped with
  | admitted | closed | delivered | full =>
      cases same
      rfl
  | late | concluded => exact nomatch same

theorem step_fed (stepped : publication.step now topic = some (after, progress))
    (subscriber : Nat) : topic.Fed subscriber after := by
  obtain same | grown := step_items stepped subscriber
  · exact Topic.fed_of_items same
  · exact ⟨some publication.message, grown⟩

theorem started_enter {patience : Time} {message : Content}
    (started : start now patience message topic = (publication, after)) :
    topic.enter.2 = after :=
  congrArg Prod.snd started

theorem started_message {patience : Time} {message : Content}
    (started : start now patience message topic = (publication, after)) :
    publication.message = message := by
  cases started
  rfl

theorem started_fed {patience : Time} {message : Content}
    (started : start now patience message topic = (publication, after)) (subscriber : Nat) :
    topic.Fed subscriber after := by
  rw [← started_enter started]
  exact Topic.fed_of_items (Topic.items_congr (Topic.enter_queues topic) subscriber)

theorem begin_started {accepts : Bool} {patience : Time} {message : Content}
    (begun : begin accepts now patience message topic = .ok (publication, after)) :
    start now patience message topic = (publication, after) := by
  unfold begin at begun
  split at begun
  · exact Except.ok.inj begun
  · simp at begun

theorem abandon_items (publication : Publication Content) (topic : Topic Content)
    (subscriber : Nat) : (publication.abandon topic).items subscriber = topic.items subscriber :=
  Topic.items_congr (Topic.leave_queues _ topic) subscriber

end Publication

end CameraBridge
