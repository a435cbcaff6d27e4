import CameraBridge.Proofs.Topic.Order

namespace CameraBridge

/-! How a delivery passes its audience, one subscriber after the other. Until its call moves nobody else
can take the lock, put a message into a queue or take a subscriber off the topic; a queue that is full
when the call moves was full all the time it waited. -/

variable {Content : Type}

namespace Topic

/-- A subscriber that has not gone and whose queue has no room. -/
def isFull (subscriber : Nat) (topic : Topic Content) : Bool :=
  (topic.queue? subscriber).any fun queue => !queue.closed && !queue.hasRoom

variable {topic after : Topic Content} {subscriber other : Nat} {message : Content}

theorem isFull_of_crowded (there : topic.isClosed subscriber = false)
    (crowded : (topic.queue? subscriber).any Queue.hasRoom = false) :
    topic.isFull subscriber = true := by
  unfold isClosed at there
  unfold isFull
  cases present : topic.queue? subscriber with
  | none => simp [present] at there
  | some queue =>
      rw [present, Option.all_some] at there
      rw [present, Option.any_some] at crowded
      simp [there, crowded]

theorem isFull_congr (same : after.queues = topic.queues) :
    after.isFull subscriber = topic.isFull subscriber := by
  rw [isFull, isFull, queue?, queue?, same]

theorem isClosed_congr (same : after.queues = topic.queues) :
    after.isClosed subscriber = topic.isClosed subscriber := by
  rw [isClosed, isClosed, queue?, queue?, same]

/-- Whoever subscribes has room. -/
theorem isFull_subscribe {capacity : Nat}
    (full : (topic.subscribe capacity).2.isFull subscriber = true) :
    topic.isFull subscriber = true := by
  simp only [isFull, queue?, subscribe, List.getElem?_append] at full ⊢
  split at full
  · exact full
  · cases distance : subscriber - topic.queues.length with
    | zero =>
        simp only [distance, List.getElem?_cons_zero, Option.any_some, Queue.hasRoom,
          List.length_nil, Bool.not_false, Bool.true_and, Bool.not_eq_true', decide_eq_false_iff_not] at full
        omega
    | succ rest => simp [distance] at full

/-- Who takes a message makes room. -/
theorem isFull_receive (received : topic.receive other = some (message, after))
    (full : after.isFull subscriber = true) : topic.isFull subscriber = true := by
  obtain ⟨queue, rest, present, items, rfl⟩ := receive_invert received
  simp only [isFull, queue?, List.getElem?_set] at full present ⊢
  by_cases same : other = subscriber
  · subst same
    have within : other < topic.queues.length := (List.getElem?_eq_some_iff.mp present).1
    simp only [within, if_true, Option.any_some, Queue.hasRoom, Bool.and_eq_true,
      Bool.not_eq_true', decide_eq_false_iff_not] at full
    simp only [present, Option.any_some, Queue.hasRoom, items, List.length_cons,
      Bool.and_eq_true, Bool.not_eq_true', decide_eq_false_iff_not]
    exact ⟨full.1, by omega⟩
  · simpa [same] using full

/-- Who goes is not full, but gone. -/
theorem isFull_close (full : (topic.close other).isFull subscriber = true) :
    topic.isFull subscriber = true := by
  simp only [isFull, queue?, close, List.getElem?_modify] at full ⊢
  cases present : topic.queues[subscriber]? with
  | none => simp [present] at full
  | some queue =>
      by_cases same : other = subscriber
      · simp [present, same] at full
      · simpa [present, same] using full

theorem enter_name (topic : Topic Content) : topic.enter.2.name = topic.name := by
  cases holder : topic.holder <;> simp only [enter, holder]

theorem leave_name (ticket : Nat) (topic : Topic Content) :
    (topic.leave ticket).name = topic.name := by
  unfold leave
  split <;> rfl

theorem receive_name (received : topic.receive other = some (message, after)) :
    after.name = topic.name := by
  obtain ⟨queue, rest, -, -, rfl⟩ := receive_invert received
  rfl

end Topic

namespace TopicSession

variable {session after last : TopicSession Content} {call : Nat} {publication : Publication Content}
  {acts : List (Act Content)} {sights : List (Sight Content)}

/-- How many subscribers some acts add. -/
def newcomers (acts : List (Act Content)) : Nat :=
  acts.countP fun
    | .subscribe _ => true
    | _ => false

/-- What others leave to a call that delivers: nobody is taken off the topic, and no queue fills up. -/
structure Undisturbed (call : Nat) (publication : Publication Content) (added : Nat)
    (session after : TopicSession Content) : Prop where
  own : Runs after.calls call publication
  name : after.topic.name = session.topic.name
  live : after.topic.live = session.topic.live ++ List.range' session.topic.queues.length added
  queues : after.topic.queues.length = session.topic.queues.length + added
  full : ∀ subscriber, after.topic.isFull subscriber = true →
    session.topic.isFull subscriber = true

theorem Undisturbed.refl (own : Runs session.calls call publication) :
    Undisturbed call publication 0 session session :=
  ⟨own, rfl, (List.append_nil _).symm, rfl, fun _ => id⟩

theorem Undisturbed.trans {middle : TopicSession Content} {one other : Nat}
    (first : Undisturbed call publication one session middle)
    (second : Undisturbed call publication other middle after) :
    Undisturbed call publication (one + other) session after where
  own := second.own
  name := second.name.trans first.name
  live := by
    rw [second.live, first.live, first.queues, List.append_assoc, List.range'_append_1]
  queues := by rw [second.queues, first.queues, Nat.add_assoc]
  full subscriber full := first.full subscriber (second.full subscriber full)

/-- A call that waits for the lock while another one has it can only give up. -/
theorem Locked.other_leaves (locked : session.Locked) (own : Runs session.calls call publication)
    (begun : publication.hasBegun = true) {other : Nat} (apart : other ≠ call)
    (moved : session.stepCall other = some after) :
    ∃ was result, Runs session.calls other was ∧
      after = { session with
        topic := session.topic.leave was.ticket
        calls := session.calls.set other (.finished (.error result)) } := by
  have turn := locked.held call publication own begun
  obtain ⟨was, topic, progress, found, step, rfl⟩ := stepCall_invert moved
  have waits : ¬ was.hasBegun = true := fun begins => apart (locked.alone own turn found begins)
  cases step with
  | admitted ordering holds => exact absurd (locked.alone found holds own begun).symm apart
  | late ordering taken elapsed => exact ⟨was, _, found, rfl⟩
  | closed delivering | full delivering | delivered delivering | concluded delivering =>
      exact absurd (Publication.hasBegun_delivering delivering) waits

theorem act_undisturbed {next : Act Content} (locked : session.Locked)
    (own : Runs session.calls call publication) (begun : publication.hasBegun = true)
    (apart : next ≠ .move call) (acted : session.act next = some after) :
    Undisturbed call publication (newcomers [next]) session after ∧
      ∀ subscriber, call ∉ callers subscriber (sight? next session after).toList := by
  have quiet : ∀ {topic : Topic Content} {calls : Calls Content},
      Runs calls call publication → topic.name = session.topic.name →
      topic.live = session.topic.live → topic.queues = session.topic.queues →
      Undisturbed call publication 0 session { session with topic, calls } := by
    intro topic calls own name live queues
    refine ⟨own, name, by simp [live], congrArg List.length queues, ?_⟩
    intro subscriber full
    rwa [Topic.isFull_congr queues] at full
  cases next with
  | subscribe capacity =>
      cases acted
      refine ⟨⟨own, rfl, rfl, by simp [subscribe, Topic.subscribe, newcomers], ?_⟩,
        fun _ => List.not_mem_nil⟩
      exact fun subscriber => Topic.isFull_subscribe
  | publish message patience =>
      cases acted
      have still : ∀ state, Runs (session.calls ++ [state]) call publication := by
        intro state
        rw [Runs, List.getElem?_append_left own.within]
        exact own
      have published : Undisturbed call publication 0 session (session.publish message patience) := by
        unfold publish Publication.begin
        cases session.accepts message with
        | true => exact quiet (still _) (Topic.enter_name _) (Topic.enter_live _) (Topic.enter_queues _)
        | false => exact quiet (still _) rfl rfl rfl
      refine ⟨published, ?_⟩
      intro subscriber
      simp only [sight?]
      split <;> simp [callers, arrivals, Sight.arrival?]
  | move other =>
      have different : other ≠ call := by
        rintro rfl
        exact apart rfl
      obtain ⟨was, cause, found, rfl⟩ := locked.other_leaves own begun different acted
      constructor
      · apply quiet _ (Topic.leave_name _ _) (Topic.leave_live _ _) (Topic.leave_queues _ _)
        rw [Runs, List.getElem?_set_ne different]
        exact own
      · intro subscriber
        rw [sight?_move found, callSight?]
        simp [found.within, callers, arrivals, Sight.arrival?]
  | receive subscriber =>
      simp only [act, receive, Option.map_map, Option.map_eq_some_iff, Prod.exists] at acted
      obtain ⟨message, topic, received, rfl⟩ := acted
      obtain ⟨live, queues⟩ := Topic.receive_live received
      refine ⟨⟨own, Topic.receive_name received, by simp [live, newcomers], queues, ?_⟩, ?_⟩
      · exact fun other => Topic.isFull_receive received
      · intro other
        rw [sight?]
        cases (session.topic.items subscriber).head? <;> simp [callers, arrivals, Sight.arrival?]
  | close subscriber =>
      cases acted
      refine ⟨⟨own, rfl, by simp [close, Topic.close, newcomers], ?_, ?_⟩, ?_⟩
      · exact List.length_modify ..
      · exact fun other => Topic.isFull_close
      · intro other
        simp [sight?, callers, arrivals, Sight.arrival?]
  | pass span =>
      cases acted
      exact ⟨⟨own, rfl, (List.append_nil _).symm, rfl, fun _ => id⟩, fun _ => List.not_mem_nil⟩

theorem newcomers_append (earlier later : List (Act Content)) :
    newcomers (earlier ++ later) = newcomers earlier + newcomers later :=
  List.countP_append

theorem callers_append (subscriber : Nat) (earlier later : List (Sight Content)) :
    callers subscriber (earlier ++ later) =
      callers subscriber earlier ++ callers subscriber later := by
  rw [callers, arrivals, List.filterMap_append, List.map_append]
  rfl

theorem trace_locked (locked : session.Locked)
    (traced : trace act sight? session acts = some (sights, last)) : last.Locked :=
  trace_invariant (fun _ _ _ locked acted => (act_turn acted).locked locked) locked traced

theorem trace_undisturbed (locked : session.Locked) (own : Runs session.calls call publication)
    (begun : publication.hasBegun = true) (others : .move call ∉ acts)
    (traced : trace act sight? session acts = some (sights, last)) :
    Undisturbed call publication (newcomers acts) session last ∧
      ∀ subscriber, call ∉ callers subscriber sights := by
  induction acts generalizing session sights with
  | nil =>
      cases traced
      exact ⟨.refl own, fun _ => List.not_mem_nil⟩
  | cons next rest ih =>
      obtain ⟨after, later, acted, remaining, rfl⟩ := trace_cons_invert traced
      rw [List.mem_cons, not_or] at others
      obtain ⟨apart, others⟩ := others
      obtain ⟨first, silent⟩ := act_undisturbed locked own begun (Ne.symm apart) acted
      obtain ⟨second, quiet⟩ := ih ((act_turn acted).locked locked) first.own others remaining
      constructor
      · rw [← List.singleton_append, newcomers_append]
        exact first.trans second
      · intro subscriber
        rw [callers_append, List.mem_append, not_or]
        exact ⟨silent subscriber, quiet subscriber⟩

/-! ### Turn by turn -/

/-- What became of a message at one subscriber. -/
inductive Fate where
  | served
  | closed
  | full
  deriving DecidableEq

def Fate.failure? (topic : String) : Fate → Option PublishError
  | .served => none
  | .closed => some (.closed topic)
  | .full => some (.timeout topic)

/-- The failure of the last one that was not served. -/
def lastFailure? (topic : String) (fates : List (Nat × Fate)) : Option PublishError :=
  (fates.filterMap fun (_, fate) => fate.failure? topic).getLast?

/-- How a call passes a subscriber that has until `due` to make room, what is seen of it and what it
does to the topic. -/
inductive Passes (call subscriber : Nat) (message : Content) (due : Time)
    (session : TopicSession Content) : Fate → Option (Sight Content) → Topic Content → Prop where
  | served : Passes call subscriber message due session .served
      (some (.arrived subscriber call message)) (session.topic.put subscriber message)
  | closed (gone : session.topic.isClosed subscriber = true) :
      Passes call subscriber message due session .closed none session.topic
  | full (crowded : session.topic.isFull subscriber = true) (elapsed : due ≤ session.now) :
      Passes call subscriber message due session .full none session.topic

/-- How a call that delivers passes one subscriber after the other: others act, and then it moves. Whoever
is passed for want of room had none all the time. -/
inductive Passed (call : Nat) (message : Content) (patience : Time) :
    TopicSession Content → List (Act Content) → TopicSession Content → List (Nat × Fate) → Prop where
  | waits {session last : TopicSession Content} {pause : List (Act Content)}
      {sights : List (Sight Content)} (others : .move call ∉ pause)
      (traced : trace act sight? session pause = some (sights, last)) :
      Passed call message patience session pause last []
  | passes {session ready after last : TopicSession Content} {pause rest : List (Act Content)}
      {sights : List (Sight Content)} {subscriber : Nat} {fate : Fate} {topic : Topic Content}
      {fates : List (Nat × Fate)} (others : .move call ∉ pause)
      (traced : trace act sight? session pause = some (sights, ready))
      (moved : ready.act (.move call) = some after)
      (passes : Passes call subscriber message (session.now + patience) ready fate
        (sight? (.move call) ready after) topic)
      (crowded : fate = .full → ∀ front rear, pause = front ++ rear → ∀ seen middle,
        trace act sight? session front = some (seen, middle) →
          middle.topic.isFull subscriber = true)
      (onward : Passed call message patience after rest last fates) :
      Passed call message patience session (pause ++ .move call :: rest) last
        ((subscriber, fate) :: fates)

theorem Runs.unique {calls : Calls Content} {other : Publication Content}
    (own : Runs calls call publication) (same : Runs calls call other) : publication = other :=
  Call.running.inj (Option.some.inj (Eq.trans (Eq.symm own) same))

theorem Runs.passes {deadline : Time} {audience rest : List Nat} {subscriber : Nat}
    {failure : Option PublishError} (own : Runs session.calls call publication)
    (delivering : publication.stage = .delivering deadline audience (subscriber :: rest) failure)
    (moved : session.stepCall call = some after) :
    ∃ fate topic, Passes call subscriber publication.message deadline session fate
        (sight? (.move call) session after) topic ∧
      after = { session with
        topic
        calls := session.calls.set call (.running (publication.pass session.now audience rest
          ((fate.failure? session.topic.name).or failure))) } := by
  have begun : publication.hasBegun = true := Publication.hasBegun_delivering delivering
  have shown : ∀ topic later delivered, callSight? call session { session with
      topic, calls := session.calls.set call (Progress.going later delivered).call } publication =
        (session.topic.arrival? topic).map fun arrival => .arrived arrival.1 call arrival.2 := by
    intro topic later delivered
    simp [callSight?, own.within, begun, Progress.call]
  rw [sight?_move own]
  obtain ⟨same, topic, progress, found, step, rfl⟩ := stepCall_invert moved
  obtain rfl := own.unique found
  cases step with
  | admitted ordering | late ordering => rw [delivering] at ordering; cases ordering
  | concluded ended => rw [delivering] at ended; cases ended
  | closed same gone =>
      rw [delivering] at same
      cases same
      refine ⟨.closed, _, ?_, rfl⟩
      rw [shown, Topic.arrival?_none rfl]
      exact .closed gone
  | full same there crowded elapsed =>
      rw [delivering] at same
      cases same
      refine ⟨.full, _, ?_, rfl⟩
      rw [shown, Topic.arrival?_none rfl]
      exact .full (Topic.isFull_of_crowded there crowded) elapsed
  | delivered same there room =>
      rw [delivering] at same
      cases same
      refine ⟨.served, _, ?_, rfl⟩
      rw [shown, Topic.arrival?_put there]
      exact .served

/-- What a call returns after it noted a failure, or none. -/
def outcome : Option PublishError → Except PublishError Unit
  | none => .ok ()
  | some cause => .error cause

/-- A call that has passed all its audience returns. -/
theorem Runs.concludes {deadline : Time} {audience : List Nat} {failure : Option PublishError}
    (own : Runs session.calls call publication)
    (delivering : publication.stage = .delivering deadline audience [] failure)
    (moved : session.stepCall call = some after) :
    after = { session with
      topic := (publication.conclude audience failure session.topic).1
      calls := session.calls.set call (.finished (outcome failure)) } := by
  simp only [stepCall, own, Publication.step, delivering, Publication.deliver,
    Publication.conclude, Option.map_some, Option.some.injEq] at moved
  rw [← moved]
  cases failure <;> rfl

theorem lastFailure?_cons (topic : String) (subscriber : Nat) (fate : Fate)
    (fates : List (Nat × Fate)) :
    lastFailure? topic ((subscriber, fate) :: fates) =
      (lastFailure? topic fates).or (fate.failure? topic) := by
  unfold lastFailure?
  cases failed : fate.failure? topic with
  | none => simp [failed]
  | some cause =>
      simp only [List.filterMap_cons, failed, List.getLast?_cons]
      cases (fates.filterMap fun (_, fate) => fate.failure? topic).getLast? <;> rfl

section Passes

variable {subscriber : Nat} {message : Content} {due : Time} {fate : Fate}
  {seen : Option (Sight Content)} {topic : Topic Content}

theorem Passes.topic_eq (passes : Passes call subscriber message due session fate seen topic) :
    topic.name = session.topic.name ∧ topic.live = session.topic.live ∧
      topic.queues.length = session.topic.queues.length := by
  cases passes with
  | served => exact ⟨rfl, rfl, List.length_modify ..⟩
  | closed | full => exact ⟨rfl, rfl, rfl⟩

theorem Passes.crowded (passes : Passes call subscriber message due session .full seen topic) :
    session.topic.isFull subscriber = true := by
  cases passes with
  | full crowded => exact crowded

theorem Passes.count (passes : Passes call subscriber message due session fate seen topic)
    (other : Nat) :
    (callers other seen.toList).count call = [(subscriber, fate)].count (other, .served) := by
  cases passes with
  | served =>
      by_cases same : subscriber = other <;> simp [callers, arrivals, Sight.arrival?, same]
  | closed | full => simp [callers, arrivals]

end Passes

/-- What a call returned it has returned for good. -/
theorem trace_ended {result : Except PublishError Unit}
    (ended : session.calls[call]? = some (.finished result))
    (traced : trace act sight? session acts = some (sights, last)) :
    last.calls[call]? = some (.finished result) := by
  induction acts generalizing session sights with
  | nil =>
      cases traced
      exact ended
  | cons next rest ih =>
      obtain ⟨after, later, acted, remaining, rfl⟩ := trace_cons_invert traced
      exact ih ((act_turn acted).ended ended) remaining

/-- A call that began a turn and still delivers: whom it has passed since, and what it found. -/
structure Passage (call : Nat) (publication : Publication Content) (audience rest : List Nat)
    (failure : Option PublishError) (fates : List (Nat × Fate)) (session : TopicSession Content)
    (acts : List (Act Content)) (sights : List (Sight Content)) (last : TopicSession Content) :
    Prop where
  passed : Passed call publication.message publication.patience session acts last fates
  own : ∃ deadline, Runs last.calls call { publication with
    stage := .delivering deadline audience rest
      ((lastFailure? session.topic.name fates).or failure) }
  name : last.topic.name = session.topic.name
  live : last.topic.live =
    session.topic.live ++ List.range' session.topic.queues.length (newcomers acts)
  queues : last.topic.queues.length = session.topic.queues.length + newcomers acts
  count : ∀ subscriber, (callers subscriber sights).count call = fates.count (subscriber, .served)

section Passage

variable {audience remaining : List Nat} {failure : Option PublishError}
  {later : Publication Content}

theorem Passage.waits (locked : session.Locked) (own : Runs session.calls call publication)
    {deadline : Time} (delivering : publication.stage = .delivering deadline audience remaining failure)
    (others : .move call ∉ acts) (traced : trace act sight? session acts = some (sights, last)) :
    Passage call publication audience remaining failure [] session acts sights last := by
  obtain ⟨still, quiet⟩ := trace_undisturbed locked own
    (Publication.hasBegun_delivering delivering) others traced
  obtain ⟨ticket, message, patience, stage⟩ := publication
  subst delivering
  refine ⟨.waits others traced, ⟨deadline, still.own⟩, still.name, still.live, still.queues, ?_⟩
  intro subscriber
  exact List.count_eq_zero.mpr (quiet subscriber)

/-- Who is full when the call moves was full whenever the others acted before. -/
theorem full_throughout {pause : List (Act Content)} {ready : TopicSession Content} {subscriber : Nat}
    (locked : session.Locked) (own : Runs session.calls call publication)
    (begun : publication.hasBegun = true) (others : .move call ∉ pause)
    (traced : trace act sight? session pause = some (sights, ready))
    (full : ready.topic.isFull subscriber = true) {front rear : List (Act Content)}
    (split : pause = front ++ rear) {seen : List (Sight Content)} {middle : TopicSession Content}
    (reached : trace act sight? session front = some (seen, middle)) :
    middle.topic.isFull subscriber = true := by
  subst split
  rw [List.mem_append, not_or] at others
  obtain ⟨before, between, after, first, second, rfl⟩ := trace_append_invert traced
  rw [reached, Option.some.injEq, Prod.mk.injEq] at first
  obtain ⟨rfl, rfl⟩ := first
  have still := (trace_undisturbed locked own begun others.1 reached).1
  exact (trace_undisturbed (trace_locked locked reached) still.own begun others.2 second).1.full
    subscriber full

/-- A turn and all that follow it. -/
theorem Passage.passes {ready after : TopicSession Content} {pause acts : List (Act Content)}
    {waited sights : List (Sight Content)} {subscriber : Nat} {rest : List Nat} {fate : Fate}
    {topic : Topic Content} {fates : List (Nat × Fate)} (locked : session.Locked)
    (own : Runs session.calls call publication)
    (delivering : publication.stage =
      .delivering (session.now + publication.patience) audience (subscriber :: remaining) failure)
    (others : .move call ∉ pause) (traced : trace act sight? session pause = some (waited, ready))
    (moved : ready.act (.move call) = some after)
    (passes : Passes call subscriber publication.message (session.now + publication.patience) ready
      fate (sight? (.move call) ready after) topic)
    (same : after.topic = topic)
    (onward : Passage call (publication.pass ready.now audience remaining
        ((fate.failure? ready.topic.name).or failure)) audience rest
      ((fate.failure? ready.topic.name).or failure) fates after acts sights last) :
    Passage call publication audience rest failure ((subscriber, fate) :: fates) session
      (pause ++ .move call :: acts)
      (waited ++ ((sight? (.move call) ready after).toList ++ sights)) last := by
  have begun := Publication.hasBegun_delivering delivering
  obtain ⟨still, quiet⟩ := trace_undisturbed locked own begun others traced
  obtain ⟨name, live, queues⟩ := passes.topic_eq
  rw [← same] at name live queues
  have added : newcomers (pause ++ .move call :: acts) = newcomers pause + newcomers acts := by
    rw [newcomers_append]
    rfl
  constructor
  · refine .passes others traced moved passes ?_ onward.passed
    rintro rfl front rear split seen middle reached
    exact full_throughout locked own begun others traced passes.crowded split reached
  · obtain ⟨deadline, delivers⟩ := onward.own
    refine ⟨deadline, ?_⟩
    rw [lastFailure?_cons, Option.or_assoc, ← still.name, ← name]
    rwa [← name] at delivers
  · exact onward.name.trans (name.trans still.name)
  · rw [onward.live, live, still.live, queues, still.queues, List.append_assoc,
      List.range'_append_1, added]
  · rw [onward.queues, queues, still.queues, added, Nat.add_assoc]
  · intro other
    have silent := List.count_eq_zero.mpr (quiet other)
    rw [callers_append, callers_append, List.count_append, List.count_append, silent,
      passes.count, onward.count, Nat.zero_add, ← List.count_append, List.singleton_append]

theorem passage_exists (locked : session.Locked) (own : Runs session.calls call publication)
    (delivering : publication.stage =
      .delivering (session.now + publication.patience) audience remaining failure)
    (traced : trace act sight? session acts = some (sights, last))
    (still : Runs last.calls call later) :
    ∃ fates rest, remaining = fates.map Prod.fst ++ rest ∧
      Passage call publication audience rest failure fates session acts sights last := by
  -- By the subscribers that are left, each with the acts up to the move that passes it.
  induction remaining generalizing session publication failure acts sights with
  | nil =>
      by_cases moves : .move call ∈ acts
      · obtain ⟨pause, rest, rfl, others⟩ := List.eq_append_cons_of_mem moves
        obtain ⟨waited, ready, _, paused, onward, rfl⟩ := trace_append_invert traced
        obtain ⟨after, behind, moved, remainder, rfl⟩ := trace_cons_invert onward
        have begun := Publication.hasBegun_delivering delivering
        have own := (trace_undisturbed locked own begun others paused).1.own
        have ended := own.concludes delivering moved
        subst ended
        have stays := trace_ended (List.getElem?_set_self own.within) remainder
        exact absurd stays (by rw [still]; exact nofun)
      · exact ⟨[], _, rfl, .waits locked own delivering moves traced⟩
  | cons subscriber remaining ih =>
      by_cases moves : .move call ∈ acts
      · obtain ⟨pause, rest, rfl, others⟩ := List.eq_append_cons_of_mem moves
        obtain ⟨waited, ready, _, paused, onward, rfl⟩ := trace_append_invert traced
        obtain ⟨after, behind, moved, remainder, rfl⟩ := trace_cons_invert onward
        have begun := Publication.hasBegun_delivering delivering
        have quiet := (trace_undisturbed locked own begun others paused).1
        obtain ⟨fate, topic, passes, became⟩ := quiet.own.passes delivering moved
        have locked_after := (act_turn moved).locked (trace_locked locked paused)
        have own_after : Runs after.calls call (publication.pass ready.now audience remaining
            ((fate.failure? ready.topic.name).or failure)) := by
          rw [became]
          exact List.getElem?_set_self quiet.own.within
        have now : after.now = ready.now := by rw [became]
        obtain ⟨fates, left, split, further⟩ :=
          ih locked_after own_after (by rw [now]; rfl) remainder
        refine ⟨(subscriber, fate) :: fates, left, by rw [split]; rfl, ?_⟩
        exact .passes locked own delivering others paused moved passes (by rw [became]) further
      · exact ⟨[], _, rfl, .waits locked own delivering moves traced⟩

end Passage

end TopicSession

end CameraBridge
