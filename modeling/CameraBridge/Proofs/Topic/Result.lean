import CameraBridge.Proofs.Topic.Passage

namespace CameraBridge

/-! What a publication comes to: whom it served, what it returned and who is still subscribed after it. -/

variable {Content : Type}

/-- Once it has passed its audience a publication takes those off the topic that are gone, if somebody
of its audience is. -/
theorem Publication.conclude_live_eq (audience : List Nat) (failure : Option PublishError)
    (publication : Publication Content) (topic : Topic Content) :
    (publication.conclude audience failure topic).1.live =
      if audience.any topic.isClosed then topic.live.filter fun subscriber => !topic.isClosed subscriber
      else topic.live := by
  unfold conclude
  simp only [Topic.leave_live]
  split <;> rfl

namespace TopicSession

variable {session begun ready ended : TopicSession Content} {call : Nat}
  {publication : Publication Content} {during : List (Act Content)}
  {before amid sights : List (Sight Content)} {result : Except PublishError Unit}
  {fates : List (Nat × Fate)}

/-- The subscribers that came while some acts were done. -/
def added (session : TopicSession Content) (acts : List (Act Content)) : List Nat :=
  List.range' session.topic.queues.length (newcomers acts)

/-- What a call came to whose delivery began in one state of a topic and ended in another. -/
structure Concluded (call : Nat) (publication : Publication Content) (fates : List (Nat × Fate))
    (session begun : TopicSession Content) (during : List (Act Content))
    (ready ended : TopicSession Content) (sights : List (Sight Content))
    (result : Except PublishError Unit) : Prop where
  /-- It passed everybody who was subscribed when it began, in order of subscription. -/
  audience : fates.map Prod.fst = session.topic.live
  passed : Passed call publication.message publication.patience begun during ready fates
  /-- Its message came once to each one that was served, and to nobody else. -/
  served : ∀ subscriber, (callers subscriber sights).count call =
    if (subscriber, Fate.served) ∈ fates then 1 else 0
  unserved : ∀ subscriber fate, (subscriber, fate) ∈ fates → fate ≠ .served →
    call ∉ callers subscriber sights
  /-- It returned the failure of the last one that was not served. -/
  failure : result = outcome (lastFailure? session.topic.name fates)
  success : result = .ok () ↔
    ∀ subscriber ∈ session.topic.live, (callers subscriber sights).count call = 1
  latecomers : ∀ subscriber ∈ added session during, call ∉ callers subscriber sights
  /-- If somebody of its audience is gone at the end, just those that are gone are taken off the topic. -/
  pruned : (∃ subscriber ∈ session.topic.live, ended.topic.isClosed subscriber = true) →
    ended.topic.live = (session.topic.live ++ added session during).filter
      fun subscriber => !ended.topic.isClosed subscriber
  /-- Otherwise nobody is. -/
  unpruned : (∀ subscriber ∈ session.topic.live, ended.topic.isClosed subscriber = false) →
    ended.topic.live = session.topic.live ++ added session during

theorem lastFailure?_none {topic : String} :
    lastFailure? topic fates = none ↔ ∀ subscriber fate, (subscriber, fate) ∈ fates →
      fate = .served := by
  rw [lastFailure?, List.getLast?_eq_none_iff, List.filterMap_eq_nil_iff, Prod.forall]
  constructor
  · intro none subscriber fate member
    have served := none subscriber fate member
    cases fate with
    | served => rfl
    | closed | full => cases served
  · intro served subscriber fate member
    rw [served subscriber fate member]
    rfl

/-- A delivery begins with all that are subscribed. -/
theorem Orderly.admission (orderly : Orderly before session)
    (admitted : trace act sight? session [.move call] = some ([.admitted call], begun)) :
    ∃ publication, Runs session.calls call publication ∧
      (∀ subscriber, call ∉ callers subscriber before) ∧ begun.Locked ∧
      begun.topic = session.topic ∧
      Runs begun.calls call
        (publication.pass begun.now session.topic.live session.topic.live none) := by
  obtain ⟨acted, shown⟩ := trace_single_invert admitted
  have turn := act_turn acted
  have locked := turn.locked orderly.locked
  rw [shown] at turn
  cases turn with
  | @admitted _ publication _ own ordering turn =>
      refine ⟨publication, own, ?_, locked, rfl, List.getElem?_set_self (Runs.within own)⟩
      intro subscriber came
      exact orderly.ranked.unadmitted call publication own (Publication.hasBegun_ordering ordering)
        ((orderly.ranked.follows subscriber).subset came)

/-- A delivery ends when all its audience is passed, with what it noted last. -/
theorem conclusion (returned : trace act sight? ready [.move call] =
      some ([.returned call true result], ended)) :
    ∃ publication deadline audience failure, Runs ready.calls call publication ∧
      publication.stage = .delivering deadline audience [] failure ∧ result = outcome failure ∧
      ended.topic = (publication.conclude audience failure ready.topic).1 := by
  obtain ⟨acted, shown⟩ := trace_single_invert returned
  have turn := act_turn acted
  rw [shown] at turn
  cases turn with
  | @concluded _ publication deadline audience failure _ own delivering ends =>
      refine ⟨publication, deadline, audience, failure, own, delivering, ?_, rfl⟩
      simp only [Publication.conclude, Progress.finished.injEq] at ends
      rw [← ends]
      cases failure <;> rfl

theorem added_apart (enrolled : session.topic.Enrolled) (acts : List (Act Content))
    {subscriber : Nat} (new : subscriber ∈ added session acts) :
    subscriber ∉ session.topic.live := by
  intro older
  have known := enrolled.known subscriber older
  have late := (List.mem_range'_1.mp new).1
  omega

theorem outcome_ok {failure : Option PublishError} : outcome failure = .ok () ↔ failure = none := by
  cases failure with
  | none => exact ⟨fun _ => rfl, fun _ => rfl⟩
  | some cause => exact ⟨nofun, nofun⟩

theorem fate_unique (nodup : (fates.map Prod.fst).Nodup) {subscriber : Nat} {fate other : Fate}
    (one : (subscriber, fate) ∈ fates) (also : (subscriber, other) ∈ fates) : fate = other :=
  congrArg Prod.snd (List.inj_on_of_nodup_map nodup one also rfl)

/-- Each one of an audience that is passed once was served if nobody made a delivery fail. -/
theorem all_served {topic : String} (nodup : (fates.map Prod.fst).Nodup) :
    lastFailure? topic fates = none ↔
      ∀ subscriber ∈ fates.map Prod.fst, (subscriber, Fate.served) ∈ fates := by
  rw [lastFailure?_none]
  constructor
  · intro served subscriber member
    obtain ⟨⟨_, fate⟩, found, rfl⟩ := List.mem_map.mp member
    obtain rfl := served _ fate found
    exact found
  · intro served subscriber fate member
    exact fate_unique nodup member (served subscriber (List.mem_map_of_mem member))

/-- Of a call that was not heard of before it had the lock all arrivals are those of its delivery. -/
theorem count_delivery (unheard : ∀ subscriber, call ∉ callers subscriber before) (subscriber : Nat) :
    (callers subscriber (before ++ .admitted call :: (amid ++ [.returned call true result]))).count
      call = (callers subscriber amid).count call := by
  have earlier := List.count_eq_zero.mpr (unheard subscriber)
  have lock : callers subscriber [(.admitted call : Sight Content)] = [] := rfl
  have answer : callers subscriber [(.returned call true result : Sight Content)] = [] := rfl
  rw [← List.singleton_append, callers_append, callers_append, callers_append, lock, answer,
    List.nil_append, List.append_nil, List.count_append, earlier, Nat.zero_add]

theorem Orderly.concluded (orderly : Orderly before session)
    (admitted : trace act sight? session [.move call] = some ([.admitted call], begun))
    (delivered : trace act sight? begun during = some (amid, ready))
    (returned : trace act sight? ready [.move call] =
      some ([.returned call true result], ended)) :
    ∃ publication fates, Runs session.calls call publication ∧
      Concluded call publication fates session begun during ready ended
        (before ++ .admitted call :: (amid ++ [.returned call true result])) result := by
  obtain ⟨publication, own, unheard, locked, topic, delivers⟩ := orderly.admission admitted
  obtain ⟨later, deadline, audience, failure, still, delivering, noted, conclude⟩ :=
    conclusion returned
  obtain ⟨fates, rest, split, passage⟩ := passage_exists locked delivers rfl delivered still
  obtain ⟨due, same⟩ := passage.own
  obtain rfl := still.unique same
  cases delivering
  rw [List.append_nil] at split
  rw [topic, Option.or_none] at noted
  have nodup : (fates.map Prod.fst).Nodup := split ▸ orderly.enrolled.nodup
  have live : ready.topic.live = session.topic.live ++ added session during := by
    rw [passage.live, topic, added]
  have served : ∀ subscriber, (callers subscriber
      (before ++ .admitted call :: (amid ++ [.returned call true result]))).count call =
        if (subscriber, Fate.served) ∈ fates then 1 else 0 := by
    intro subscriber
    rw [count_delivery unheard, passage.count, (List.Nodup.of_map Prod.fst nodup).count]
  have absent : ∀ subscriber, (subscriber, Fate.served) ∉ fates → call ∉ callers subscriber
      (before ++ .admitted call :: (amid ++ [.returned call true result])) := by
    intro subscriber unserved
    have count := served subscriber
    rw [if_neg unserved] at count
    exact List.count_eq_zero.mp count
  have gone : ∀ subscriber, ready.topic.isClosed subscriber = ended.topic.isClosed subscriber := by
    intro subscriber
    rw [conclude, Topic.isClosed_congr (Publication.conclude_queues ..)]
  have remaining : ended.topic.live =
      if session.topic.live.any ended.topic.isClosed then
        (session.topic.live ++ added session during).filter
          fun subscriber => !ended.topic.isClosed subscriber
      else session.topic.live ++ added session during := by
    rw [conclude, Publication.conclude_live_eq, live, ← conclude, funext gone]
  refine ⟨publication, fates, own, ?_⟩
  constructor
  · exact split.symm
  · exact passage.passed
  · exact served
  · intro subscriber fate member other
    apply absent
    exact fun also => other (fate_unique nodup member also)
  · exact noted
  · rw [noted, outcome_ok, all_served nodup, ← split]
    refine forall_congr' fun subscriber => forall_congr' fun _ => ?_
    rw [← noted, served]
    split <;> simp [*]
  · intro subscriber new
    apply absent
    intro member
    apply added_apart orderly.enrolled during new
    rw [split]
    exact List.mem_map_of_mem member
  · rintro ⟨subscriber, member, closed⟩
    rw [remaining, if_pos (List.any_eq_true.mpr ⟨subscriber, member, closed⟩)]
  · intro open?
    rw [remaining, if_neg]
    simpa using open?

/-- Once its time is up a call moves. -/
theorem moves_in_time (own : Runs session.calls call publication) :
    ∃ after, stepCall call { session with
      now := session.now + (publication.deadline - session.now) } = some after := by
  have elapsed : publication.deadline ≤ session.now + (publication.deadline - session.now) :=
    Nat.sub_le_iff_le_add'.mp (Nat.le_refl _)
  obtain ⟨outcome, stepped⟩ :=
    Option.isSome_iff_exists.mp (Publication.step_elapsed elapsed session.topic)
  simp only [stepCall, own, stepped]
  exact ⟨_, rfl⟩

/-- A call that delivers returns, whatever the others have left behind, if only time goes on. -/
theorem returns_in_time {deadline : Time} {audience remaining : List Nat}
    {failure : Option PublishError} (own : Runs session.calls call publication)
    (delivering : publication.stage = .delivering deadline audience remaining failure) :
    ∃ onward more final result,
      (∀ next ∈ onward, next = .move call ∨ ∃ span, next = .pass span) ∧
        trace act sight? session onward = some (more, final) ∧
        final.calls[call]? = some (.finished result) := by
  induction remaining generalizing session publication deadline failure with
  | nil =>
      obtain ⟨after, moved⟩ := moves_in_time own
      have ended := Runs.concludes (by exact own) delivering moved
      refine ⟨[.pass _, .move call], _, after, outcome failure, by simp,
        trace_cons rfl (trace_cons moved rfl), ?_⟩
      rw [ended]
      exact List.getElem?_set_self (Runs.within own)
  | cons subscriber remaining ih =>
      obtain ⟨after, moved⟩ := moves_in_time own
      obtain ⟨fate, topic, -, passed⟩ := Runs.passes (by exact own) delivering moved
      have own_after : Runs after.calls call (publication.pass after.now audience remaining
          ((fate.failure? session.topic.name).or failure)) := by
        rw [passed]
        exact List.getElem?_set_self (Runs.within own)
      obtain ⟨onward, more, final, result, others, rest, ended⟩ := ih own_after rfl
      refine ⟨.pass _ :: .move call :: onward, _, final, result, ?_,
        trace_cons rfl (trace_cons moved rest), ended⟩
      intro next member
      rcases List.mem_cons.mp member with rfl | member
      · exact .inr ⟨_, rfl⟩
      rcases List.mem_cons.mp member with rfl | member
      · exact .inl rfl
      · exact others next member

/-- A call that has the lock serves everybody who was subscribed when it got it, once each, and returns
`ok` just if it served them all. Whoever was gone in its turn, or full all the time, has not got the
message, and the last of them is what the call returns. Whoever came meanwhile has not got it either.
Those that are gone at the end are taken off the topic if somebody of the audience is among them, and
nobody is otherwise. -/
theorem publication_result {name : String} {accepts : Content → Bool} {earlier : List (Act Content)}
    (reached : trace act sight? (start name accepts) earlier = some (before, session))
    (admitted : trace act sight? session [.move call] = some ([.admitted call], begun))
    (delivered : trace act sight? begun during = some (amid, ready)) :
    (∀ publication, Runs ready.calls call publication → ∃ onward more final result,
      (∀ next ∈ onward, next = .move call ∨ ∃ span, next = .pass span) ∧
        trace act sight? ready onward = some (more, final) ∧
        final.calls[call]? = some (.finished result)) ∧
      ∀ result ended,
        trace act sight? ready [.move call] = some ([.returned call true result], ended) →
        ∃ publication fates, Runs session.calls call publication ∧
          Concluded call publication fates session begun during ready ended
            (before ++ .admitted call :: (amid ++ [.returned call true result])) result := by
  have orderly := trace_orderly reached
  constructor
  · intro later still
    obtain ⟨publication, own, -, locked, -, delivers⟩ := orderly.admission admitted
    obtain ⟨fates, rest, -, passage⟩ := passage_exists locked delivers rfl delivered still
    obtain ⟨due, same⟩ := passage.own
    exact returns_in_time same rfl
  · intro result ended returned
    exact orderly.concluded admitted delivered returned

/-- A message for three, after one that has filled two of the queues. -/
def secondMessage : List (Act Nat) :=
  [.subscribe 2, .subscribe 1, .subscribe 1, .publish 7 10, .move 0, .move 0, .move 0, .move 0, .move 0,
    .publish 8 10]

/-- The first one has room, the second one has none in time, the third one goes, and a fourth comes. -/
def threeTurns : List (Act Nat) :=
  [.move 1, .pass 4, .subscribe 1, .pass 6, .move 1, .close 2, .move 1]

theorem publication_result_of_three_turns : ∃ before session begun amid ready ended,
    trace act sight? (start "numbers" fun _ => true) secondMessage = some (before, session) ∧
      trace act sight? session [.move 1] = some ([.admitted 1], begun) ∧
      trace act sight? begun threeTurns = some (amid, ready) ∧
      trace act sight? ready [.move 1] =
        some ([.returned 1 true (.error (.closed "numbers"))], ended) ∧
      ended.topic.live = [0, 1, 3] ∧
      ∃ publication fates, Runs session.calls 1 publication ∧
        Concluded 1 publication fates session begun threeTurns ready ended
          (before ++ .admitted 1 :: (amid ++ [.returned 1 true (.error (.closed "numbers"))]))
          (.error (.closed "numbers")) := by
  have run : ((trace act sight? (start "numbers" fun _ => true) secondMessage).bind
      fun (_, session) => (trace act sight? session [.move 1]).bind
        fun (lock, begun) => (trace act sight? begun threeTurns).bind
          fun (_, ready) => (trace act sight? ready [.move 1]).map
            fun (answer, ended) => (lock, answer, ended.topic.live)) =
      some ([.admitted 1], [.returned 1 true (.error (.closed "numbers"))], [0, 1, 3]) := by
    decide +kernel
  obtain ⟨⟨before, session⟩, reached, run⟩ := Option.bind_eq_some_iff.mp run
  obtain ⟨⟨lock, begun⟩, admitted, run⟩ := Option.bind_eq_some_iff.mp run
  obtain ⟨⟨amid, ready⟩, delivered, run⟩ := Option.bind_eq_some_iff.mp run
  obtain ⟨⟨answer, ended⟩, returned, run⟩ := Option.map_eq_some_iff.mp run
  simp only [Prod.mk.injEq] at run
  obtain ⟨rfl, rfl, live⟩ := run
  obtain ⟨-, concluded⟩ := publication_result reached admitted delivered
  exact ⟨before, session, begun, amid, ready, ended, reached, admitted, delivered, returned, live,
    concluded _ ended returned⟩

/-- Somebody comes during a delivery and goes again, and so does the only one of the audience. -/
def guestsLeave : List (Act Nat) := [.subscribe 1, .close 1, .close 0, .move 1]

theorem newcomer_taken_off : ∃ before session begun amid ready ended,
    trace act sight? (start "numbers" fun _ => true)
        [.subscribe 1, .publish 7 10, .move 0, .move 0, .move 0, .publish 8 10] =
          some (before, session) ∧
      trace act sight? session [.move 1] = some ([.admitted 1], begun) ∧
      trace act sight? begun guestsLeave = some (amid, ready) ∧
      trace act sight? ready [.move 1] =
        some ([.returned 1 true (.error (.closed "numbers"))], ended) ∧
      session.topic.live = [0] ∧ added session guestsLeave = [1] ∧ ended.topic.live = [] :=
  ⟨_, _, _, _, _, _, rfl, rfl, rfl, rfl, rfl, rfl, rfl⟩

end TopicSession

end CameraBridge
