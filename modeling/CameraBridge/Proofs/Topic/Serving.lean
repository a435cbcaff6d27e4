import CameraBridge.Proofs.Topic.Lock

namespace CameraBridge

/-! What a topic's publications bring to one subscriber who stays. As long as none of them runs out of
time, each brings its message there once. -/

variable {Content : Type}

namespace Topic

theorem items_of_receive_none {topic : Topic Content} {subscriber : Nat}
    (nothing : topic.receive subscriber = none) : topic.items subscriber = [] := by
  unfold receive at nothing
  split at nothing
  · next queue present =>
      rw [items_of_queue present]
      split at nothing
      · next empty => exact empty
      · cases nothing
  · next absent => simp only [items, absent, Option.map_none, Option.getD_none]

/-- A subscriber is served and has not gone. -/
structure Serves (subscriber : Nat) (topic : Topic Content) : Prop where
  enrolled : topic.Enrolled
  live : subscriber ∈ topic.live
  there : topic.isClosed subscriber = false

namespace Serves

variable {subscriber other : Nat} {topic after : Topic Content}

theorem subscribed (name : String) (capacity : Nat) :
    Serves 0 (({ name := name } : Topic Content).subscribe capacity).2 := by
  have nobody : Enrolled ({ name := name } : Topic Content) := ⟨List.nodup_nil, nofun⟩
  exact ⟨nobody.subscribe capacity, List.mem_singleton_self 0, rfl⟩

theorem congr (serves : topic.Serves subscriber) (queues : after.queues = topic.queues)
    (live : after.live = topic.live) : after.Serves subscriber where
  enrolled := serves.enrolled.shrink (live ▸ .refl _) (congrArg List.length queues)
  live := live ▸ serves.live
  there := by
    rw [isClosed, queue?, queues]
    exact serves.there

theorem enter (serves : topic.Serves subscriber) : topic.enter.2.Serves subscriber :=
  serves.congr (enter_queues topic) (enter_live topic)

theorem leave (serves : topic.Serves subscriber) (ticket : Nat) :
    (topic.leave ticket).Serves subscriber :=
  serves.congr (leave_queues ticket topic) (leave_live ticket topic)

/-- Whoever is gone is no longer served, but this one is not gone. -/
theorem prune (serves : topic.Serves subscriber) : topic.prune.Serves subscriber where
  enrolled := serves.enrolled.shrink List.filter_sublist rfl
  live := List.mem_filter.mpr ⟨serves.live, by simp [serves.there]⟩
  there := serves.there

theorem put (serves : topic.Serves subscriber) (message : Content) :
    (topic.put other message).Serves subscriber where
  enrolled := serves.enrolled.shrink (.refl _) (List.length_modify _ topic.queues other)
  live := serves.live
  there := by
    rw [← serves.there]
    simp only [isClosed, queue?, Topic.put, List.getElem?_modify]
    cases topic.queues[subscriber]? with
    | none => rfl
    | some queue => by_cases own : other = subscriber <;> simp [own]

/-- What is done to the messages in a queue does not close it. -/
theorem replaced (serves : topic.Serves subscriber) {queue later : Queue Content}
    (present : topic.queue? other = some queue) (same : later.closed = queue.closed) :
    Serves subscriber { topic with queues := topic.queues.set other later } where
  enrolled := serves.enrolled.shrink (.refl _) List.length_set
  live := serves.live
  there := by
    have there := serves.there
    by_cases own : other = subscriber
    · subst own
      have within : other < topic.queues.length := (List.getElem?_eq_some_iff.mp present).1
      rw [isClosed, present] at there
      simpa [isClosed, queue?, within, same] using there
    · simpa only [isClosed, queue?, List.getElem?_set_ne own] using there

theorem receive (serves : topic.Serves subscriber) {message : Content}
    (received : topic.receive other = some (message, after)) : after.Serves subscriber := by
  obtain ⟨queue, rest, present, -, rfl⟩ := receive_invert received
  exact serves.replaced present rfl

theorem close (serves : topic.Serves subscriber) (apart : other ≠ subscriber) :
    (topic.close other).Serves subscriber where
  enrolled := serves.enrolled.shrink (.refl _) (List.length_modify _ topic.queues other)
  live := serves.live
  there := by
    have there := serves.there
    simpa only [isClosed, queue?, Topic.close, List.getElem?_modify, if_neg apart, id_map'] using there

theorem subscribe (serves : topic.Serves subscriber) (capacity : Nat) :
    (topic.subscribe capacity).2.Serves subscriber where
  enrolled := serves.enrolled.subscribe capacity
  live := List.mem_append_left _ serves.live
  there := by
    rw [isClosed, queue?, Topic.subscribe,
      List.getElem?_append_left (serves.enrolled.known subscriber serves.live)]
    exact serves.there

end Serves

end Topic

namespace Publication

variable {subscriber : Nat} {now patience : Time} {topic after : Topic Content}
  {publication : Publication Content} {progress : Progress Content} {message : Content}

theorem step_serves (serves : topic.Serves subscriber)
    (stepped : publication.step now topic = some (after, progress)) : after.Serves subscriber := by
  cases step_moved stepped with
  | admitted | closed | full => exact serves
  | late => exact serves.leave _
  | delivered => exact serves.put _
  | @concluded deadline audience failure =>
      unfold conclude
      simp only
      split
      · exact serves.prune.leave _
      · exact serves.leave _

theorem started_serves (serves : topic.Serves subscriber)
    (started : start now patience message topic = (publication, after)) : after.Serves subscriber :=
  started_enter started ▸ serves.enter

/-- Its message, unless the subscriber was passed. -/
def owed (subscriber : Nat) (publication : Publication Content) : Option Content :=
  match publication.stage with
  | .ordering _ => some publication.message
  | .delivering _ _ remaining _ =>
      if subscriber ∈ remaining then some publication.message else none

/-- It has to wait, for the lock or for room. -/
def waits (topic : Topic Content) (publication : Publication Content) : Bool :=
  match publication.stage with
  | .ordering _ => decide (topic.holder ≠ some publication.ticket)
  | .delivering _ _ [] _ => false
  | .delivering _ _ (subscriber :: _) _ =>
      !topic.isClosed subscriber && !(topic.queue? subscriber).any Queue.hasRoom

theorem started_owed (started : start now patience message topic = (publication, after)) :
    publication.owed subscriber = some message := by
  cases started
  rfl

theorem started_remaining (started : start now patience message topic = (publication, after)) :
    publication.remaining.Nodup := by
  cases started
  exact List.nodup_nil

/-- What does not wait moves. -/
theorem step_isSome (ready : publication.waits topic = false) (now : Time) :
    (publication.step now topic).isSome = true := by
  unfold waits at ready
  unfold step
  split at ready
  · next deadline ordering =>
      simp only [decide_eq_false_iff_not, not_not] at ready
      simp only [ordering, ready, if_true, Option.isSome_some]
  · next delivering =>
      simp only [delivering, deliver, Option.isSome_some]
  · next target rest failure delivering =>
      simp only [delivering, deliver]
      by_cases gone : topic.isClosed target = true
      · simp only [gone, if_true, Option.isSome_some]
      · have room : (topic.queue? target).any Queue.hasRoom = true := by simpa [gone] using ready
        simp only [if_neg gone, room, if_true, Option.isSome_some]

end Publication

/-- What is still owed after a move. -/
def Progress.owed (subscriber : Nat) : Progress Content → Option Content
  | .going publication _ => publication.owed subscriber
  | .finished _ => none

namespace Publication

variable {subscriber : Nat} {now : Time} {topic after : Topic Content}
  {publication : Publication Content} {progress : Progress Content}

/-- What comes to a subscriber was owed to it and no longer is, and nothing else comes to be owed. -/
structure Paid (owed arrival left : Option Content) : Prop where
  arrived : ∀ message, arrival = some message → owed = some message ∧ left = none
  kept : ∀ message, left = some message → owed = some message

theorem Paid.nothing {owed left : Option Content}
    (kept : ∀ message, left = some message → owed = some message) : Paid owed none left where
  arrived _ arrives := by cases arrives
  kept := kept

theorem Paid.whole (message : Content) : Paid (some message) (some message) none where
  arrived _ same := ⟨same, rfl⟩
  kept _ same := by cases same

/-- Each subscriber that is left has still to be passed once. -/
theorem step_remaining {later : Publication Content} {delivered : Bool} (enrolled : topic.Enrolled)
    (once : publication.remaining.Nodup)
    (stepped : publication.step now topic = some (after, .going later delivered)) :
    later.remaining.Nodup := by
  generalize same : Progress.going later delivered = progress at stepped
  cases step_moved stepped with
  | admitted =>
      cases same
      exact enrolled.nodup
  | closed delivering | delivered delivering | full delivering =>
      cases same
      rw [remaining_delivering delivering] at once
      exact (List.nodup_cons.mp once).2
  | late | concluded => cases same

/-- A move brings the message to the subscriber only where it is owed. Without a wait it either does so
or leaves it owed. -/
theorem step_paid (once : publication.remaining.Nodup)
    (stepped : publication.step now topic = some (after, progress)) :
    ∃ arrival : Option Content,
      after.items subscriber = topic.items subscriber ++ arrival.toList ∧
      Paid (publication.owed subscriber) arrival (progress.owed subscriber) ∧
      (topic.Serves subscriber → publication.waits topic = false →
        (publication.owed subscriber).toList =
          arrival.toList ++ (progress.owed subscriber).toList) := by
  have nothing : ∀ {items : List Content}, items = items ++ (none : Option Content).toList :=
    (List.append_nil _).symm
  cases step_moved stepped with
  | admitted ordering turn =>
      refine ⟨none, nothing, .nothing ?_, fun serves _ => ?_⟩
      · simp only [owed, Progress.owed, ordering, pass]
        exact fun message owes => (Option.ite_none_right_eq_some.mp owes).2
      · simp [owed, Progress.owed, ordering, pass, serves.live]
  | late ordering taken elapsed =>
      refine ⟨none, ?_, .nothing ?_, fun _ ready => ?_⟩
      · rw [Topic.items_congr (Topic.leave_queues _ topic), Option.toList_none, List.append_nil]
      · rintro message same
        cases same
      · simp [waits, ordering, taken] at ready
  | @closed deadline audience rest target failure delivering gone =>
      refine ⟨none, nothing, .nothing ?_, fun serves _ => ?_⟩
      · simp only [owed, Progress.owed, delivering, pass, Option.ite_none_right_eq_some]
        exact fun message owes => ⟨List.mem_cons_of_mem _ owes.1, owes.2⟩
      · have apart : subscriber ≠ target := by
          rintro rfl
          exact Bool.false_ne_true (serves.there.symm.trans gone)
        simp [owed, Progress.owed, delivering, pass, apart]
  | @delivered deadline audience rest target failure delivering there room =>
      rw [remaining_delivering delivering] at once
      have fresh := (List.nodup_cons.mp once).1
      have items := Topic.put_items publication.message there subscriber
      by_cases own : target = subscriber
      · subst own
        have owes : publication.owed target = some publication.message := by
          simp [owed, delivering]
        have owesNoMore : (Progress.going (publication.pass now audience rest failure) true).owed
            target = none := by
          simp [owed, Progress.owed, pass, fresh]
        rw [owes, owesNoMore]
        exact ⟨some publication.message, by simpa using items, .whole _, fun _ _ => rfl⟩
      · have owes : publication.owed subscriber =
            (Progress.going (publication.pass now audience rest failure) true).owed subscriber := by
          simp [owed, Progress.owed, delivering, pass, Ne.symm own]
        rw [owes]
        exact ⟨none, by simpa [own] using items, .nothing fun _ same => same, fun _ _ => rfl⟩
  | @full deadline audience rest target failure delivering there crowded elapsed =>
      refine ⟨none, nothing, .nothing ?_, fun _ ready => ?_⟩
      · simp only [owed, Progress.owed, delivering, pass, Option.ite_none_right_eq_some]
        exact fun message owes => ⟨List.mem_cons_of_mem _ owes.1, owes.2⟩
      · simp [waits, delivering, there, crowded] at ready
  | @concluded deadline audience failure delivering =>
      refine ⟨none, ?_, .nothing ?_, fun _ _ => ?_⟩
      · rw [Topic.items_congr (conclude_queues audience failure publication topic), Option.toList_none,
          List.append_nil]
      · rintro message same
        cases same
      · simp [owed, Progress.owed, delivering, conclude]

/-- A move without a wait either brings the message to the subscriber or leaves it owed. -/
theorem step_owed (serves : topic.Serves subscriber) (once : publication.remaining.Nodup)
    (ready : publication.waits topic = false)
    (stepped : publication.step now topic = some (after, progress)) :
    ∃ arrival : Option Content,
      after.items subscriber = topic.items subscriber ++ arrival.toList ∧
      (publication.owed subscriber).toList =
        arrival.toList ++ (progress.owed subscriber).toList ∧
      ∀ later delivered, progress = .going later delivered → later.remaining.Nodup := by
  obtain ⟨arrival, items, -, whole⟩ := step_paid once stepped
  refine ⟨arrival, items, whole serves ready, ?_⟩
  rintro later delivered rfl
  exact step_remaining serves.enrolled once stepped

end Publication

end CameraBridge
