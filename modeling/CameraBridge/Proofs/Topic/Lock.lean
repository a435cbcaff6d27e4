import CameraBridge.Proofs.Topic.Turns

namespace CameraBridge

/-! Who is served and who holds the order lock. Whatever happens to a topic, each subscriber is served
once at most, and only the call that holds the lock delivers. -/

variable {Content : Type}

namespace Publication

/-- The subscribers that it has still to pass. -/
def remaining (publication : Publication Content) : List Nat :=
  match publication.stage with
  | .ordering _ => []
  | .delivering _ _ remaining _ => remaining

/-- The last subscriber that it could not serve, if there was one. -/
def failure? (publication : Publication Content) : Option PublishError :=
  match publication.stage with
  | .ordering _ => none
  | .delivering _ _ _ failure => failure

theorem hasBegun_ordering {publication : Publication Content} {deadline : Time}
    (ordering : publication.stage = .ordering deadline) : publication.hasBegun = false := by
  rw [hasBegun, ordering]

theorem hasBegun_delivering {publication : Publication Content} {deadline : Time}
    {audience rest : List Nat} {failure : Option PublishError}
    (delivering : publication.stage = .delivering deadline audience rest failure) :
    publication.hasBegun = true := by
  rw [hasBegun, delivering]

theorem remaining_delivering {publication : Publication Content} {deadline : Time}
    {audience rest : List Nat} {failure : Option PublishError}
    (delivering : publication.stage = .delivering deadline audience rest failure) :
    publication.remaining = rest := by
  rw [remaining, delivering]

end Publication

/-! ### Subscribers -/

namespace Topic

/-- Each subscriber that is served is known, and it is served once. -/
structure Enrolled (topic : Topic Content) : Prop where
  nodup : topic.live.Nodup
  known : ∀ subscriber ∈ topic.live, subscriber < topic.queues.length

variable {topic after : Topic Content}

theorem Enrolled.subscribe (enrolled : Enrolled topic) (capacity : Nat) :
    Enrolled (topic.subscribe capacity).2 := by
  have fresh : topic.queues.length ∉ topic.live := by
    intro member
    exact Nat.lt_irrefl _ (enrolled.known _ member)
  constructor
  · simp only [Topic.subscribe, List.nodup_append, List.nodup_cons, List.not_mem_nil,
      not_false_eq_true, List.nodup_nil, and_self, true_and, List.mem_singleton, forall_eq]
    exact ⟨enrolled.nodup, fun subscriber member same => fresh (same ▸ member)⟩
  · intro subscriber member
    simp only [Topic.subscribe, List.mem_append, List.mem_singleton, List.length_append,
      List.length_cons, List.length_nil] at member ⊢
    rcases member with older | rfl
    · have known := enrolled.known subscriber older
      omega
    · omega

/-- Nobody new is served, and no queue goes away. -/
theorem Enrolled.shrink (enrolled : Enrolled topic) (fewer : after.live.Sublist topic.live)
    (queues : after.queues.length = topic.queues.length) : Enrolled after where
  nodup := enrolled.nodup.sublist fewer
  known subscriber member := queues ▸ enrolled.known subscriber (fewer.subset member)

theorem enter_live (topic : Topic Content) : topic.enter.2.live = topic.live := by
  cases holder : topic.holder <;> simp only [enter, holder]

theorem leave_live (ticket : Nat) (topic : Topic Content) :
    (topic.leave ticket).live = topic.live := by
  unfold leave
  split <;> rfl

theorem receive_live {subscriber : Nat} {message : Content}
    (received : topic.receive subscriber = some (message, after)) :
    after.live = topic.live ∧ after.queues.length = topic.queues.length := by
  obtain ⟨queue, rest, -, -, rfl⟩ := receive_invert received
  exact ⟨rfl, List.length_set⟩

theorem receive_lock {subscriber : Nat} {message : Content}
    (received : topic.receive subscriber = some (message, after)) :
    after.holder = topic.holder ∧ after.nextTicket = topic.nextTicket := by
  obtain ⟨queue, rest, -, -, rfl⟩ := receive_invert received
  exact ⟨rfl, rfl⟩

theorem receive_other {subscriber other : Nat} {message : Content} (apart : subscriber ≠ other)
    (received : topic.receive subscriber = some (message, after)) :
    after.items other = topic.items other := by
  obtain ⟨queue, rest, -, -, rfl⟩ := receive_invert received
  simp only [items, queue?, List.getElem?_set_ne apart]

theorem close_other {subscriber other : Nat} (apart : subscriber ≠ other) (topic : Topic Content) :
    (topic.close subscriber).items other = topic.items other := by
  simp only [items, queue?, close, List.getElem?_modify, if_neg apart, id_map']

theorem subscribe_items (capacity other : Nat) (topic : Topic Content) :
    (topic.subscribe capacity).2.items other = topic.items other := by
  by_cases older : other < topic.queues.length
  · simp only [items, queue?, subscribe, List.getElem?_append_left older]
  · have unknown : topic.queues[other]? = none := List.getElem?_eq_none (Nat.le_of_not_lt older)
    simp only [items, queue?, subscribe, List.getElem?_append_right (Nat.le_of_not_lt older), unknown]
    cases other - topic.queues.length <;> rfl

theorem leave_nextTicket (ticket : Nat) (topic : Topic Content) :
    (topic.leave ticket).nextTicket = topic.nextTicket := by
  unfold leave
  split <;> rfl

theorem leave_holder {ticket : Nat} (other : topic.holder ≠ some ticket) :
    (topic.leave ticket).holder = topic.holder := by
  rw [leave, if_neg other]

theorem enter_nextTicket (topic : Topic Content) :
    topic.enter.2.nextTicket = topic.nextTicket + 1 := by
  cases holder : topic.holder <;> simp only [enter, holder]

theorem enter_holder {ticket : Nat} (held : topic.holder = some ticket) :
    topic.enter.2.holder = some ticket := by
  simp only [enter, held]

end Topic

theorem Publication.conclude_live (audience : List Nat) (failure : Option PublishError)
    (publication : Publication Content) (topic : Topic Content) :
    (publication.conclude audience failure topic).1.live.Sublist topic.live := by
  unfold conclude
  simp only [Topic.leave_live]
  split
  · exact List.filter_sublist
  · exact List.Sublist.refl _

theorem Publication.conclude_nextTicket (audience : List Nat) (failure : Option PublishError)
    (publication : Publication Content) (topic : Topic Content) :
    (publication.conclude audience failure topic).1.nextTicket = topic.nextTicket := by
  unfold conclude
  simp only [Topic.leave_nextTicket]
  split <;> rfl

/-- Whatever becomes of a publication, it has drawn its only ticket when it began. -/
theorem Publication.step_nextTicket {publication : Publication Content} {now : Time}
    {topic after : Topic Content} {progress : Progress Content}
    (stepped : publication.step now topic = some (after, progress)) :
    after.nextTicket = topic.nextTicket := by
  cases step_moved stepped with
  | admitted | closed | delivered | full => rfl
  | late => exact Topic.leave_nextTicket _ topic
  | concluded => exact conclude_nextTicket _ _ publication topic

theorem Publication.started_nextTicket {publication : Publication Content} {now patience : Time}
    {message : Content} {topic after : Topic Content}
    (started : start now patience message topic = (publication, after)) :
    after.nextTicket = topic.nextTicket + 1 := by
  rw [← started_enter started, Topic.enter_nextTicket]

/-- What is begun to be published: the publication that somebody has in hand, for each ticket that was
drawn. -/
def Topic.begun (before after : Topic Content) (publication : Option (Publication Content)) :
    List (Option Content) :=
  List.replicate (after.nextTicket - before.nextTicket) (publication.map Publication.message)

theorem Topic.begun_self (topic : Topic Content) (publication : Option (Publication Content)) :
    topic.begun topic publication = [] := by
  rw [begun, Nat.sub_self, List.replicate_zero]

theorem Publication.begun_started {publication : Publication Content} {now patience : Time}
    {message : Content} {topic after : Topic Content}
    (started : start now patience message topic = (publication, after)) :
    topic.begun after (some publication) = [some message] := by
  rw [Topic.begun, started_nextTicket started, Nat.add_sub_cancel_left, Option.map_some,
    started_message started, List.replicate_one]

theorem Publication.begun_stepped {publication : Publication Content} {now : Time}
    {topic after : Topic Content} {progress : Progress Content}
    (stepped : publication.step now topic = some (after, progress))
    (other : Option (Publication Content)) : topic.begun after other = [] := by
  rw [Topic.begun, step_nextTicket stepped, Nat.sub_self, List.replicate_zero]

namespace TopicSession

variable {session after : TopicSession Content} {seen : Option (Sight Content)}
  {sights : List (Sight Content)}

theorem Turn.enrolled (turn : Turn session seen after) (enrolled : session.topic.Enrolled) :
    after.topic.Enrolled := by
  cases turn with
  | subscribed capacity => exact enrolled.subscribe capacity
  | rejected | admitted | closed | full | waited => exact enrolled
  | entered =>
      exact enrolled.shrink (by simp [Topic.enter_live]) (by rw [Topic.enter_queues])
  | late => exact enrolled.shrink (by simp [Topic.leave_live]) (by rw [Topic.leave_queues])
  | delivered => exact enrolled.shrink (.refl _) (by simp [Topic.put])
  | @concluded call publication deadline audience failure =>
      exact enrolled.shrink (Publication.conclude_live audience failure _ _)
        (congrArg List.length (Publication.conclude_queues audience failure _ _))
  | taken received =>
      obtain ⟨live, queues⟩ := Topic.receive_live received
      exact enrolled.shrink (by simp [live]) queues
  | left => exact enrolled.shrink (.refl _) (by simp [Topic.close])

/-! ### The order lock -/

abbrev Calls (Content : Type) := List (Call (Publication Content) (Except PublishError Unit))

/-- A call is under way. -/
abbrev Runs (calls : Calls Content) (call : Nat) (publication : Publication Content) : Prop :=
  calls[call]? = some (.running publication)

section Runs

variable {calls : Calls Content} {call other : Nat} {publication later next : Publication Content}
  {result : Except PublishError Unit}

theorem Runs.within (own : Runs calls call publication) : call < calls.length :=
  (List.getElem?_eq_some_iff.mp own).1

theorem Runs.going (own : Runs calls call publication)
    (running : Runs (calls.set call (.running later)) other next) :
    other = call ∧ next = later ∨ other ≠ call ∧ Runs calls other next := by
  by_cases same : call = other
  · subst same
    rw [Runs, List.getElem?_set_self own.within] at running
    cases running
    exact .inl ⟨rfl, rfl⟩
  · rw [Runs, List.getElem?_set_ne same] at running
    exact .inr ⟨Ne.symm same, running⟩

theorem Runs.finished (own : Runs calls call publication)
    (running : Runs (calls.set call (.finished result)) other next) :
    other ≠ call ∧ Runs calls other next := by
  by_cases same : call = other
  · subst same
    rw [Runs, List.getElem?_set_self own.within] at running
    cases running
  · rw [Runs, List.getElem?_set_ne same] at running
    exact ⟨Ne.symm same, running⟩

theorem runs_added {state : Call (Publication Content) (Except PublishError Unit)}
    (running : Runs (calls ++ [state]) other next) :
    Runs calls other next ∨ other = calls.length ∧ state = .running next := by
  by_cases older : other < calls.length
  · rw [Runs, List.getElem?_append_left older] at running
    exact .inl running
  · rw [Runs, List.getElem?_append_right (Nat.le_of_not_lt older)] at running
    cases distance : other - calls.length with
    | zero =>
        rw [distance] at running
        exact .inr ⟨by omega, by simpa using running⟩
    | succ rest => simp [distance] at running

theorem runs_refused (running : Runs (calls ++ [.finished result]) other next) :
    Runs calls other next := by
  obtain older | ⟨-, new⟩ := runs_added running
  · exact older
  · cases new

end Runs

/-- The call that delivers holds the lock, and no two calls wait for it under one ticket. -/
structure Locked (session : TopicSession Content) : Prop where
  issued : ∀ call publication, Runs session.calls call publication →
    publication.ticket < session.topic.nextTicket
  apart : ∀ first second one other, Runs session.calls first one →
    Runs session.calls second other → one.ticket = other.ticket → first = second
  held : ∀ call publication, Runs session.calls call publication →
    publication.hasBegun = true → session.topic.holder = some publication.ticket

variable {call : Nat} {publication later : Publication Content} {topic : Topic Content}
  {result : Except PublishError Unit}

/-- Only one call delivers at a time. -/
theorem Locked.alone (locked : session.Locked) {other : Nat} {next : Publication Content}
    (own : Runs session.calls call publication)
    (turn : session.topic.holder = some publication.ticket)
    (running : Runs session.calls other next) (begun : next.hasBegun = true) : other = call := by
  have holder := locked.held other next running begun
  rw [turn, Option.some.injEq] at holder
  exact locked.apart other call next publication running own holder.symm

theorem Locked.elsewhere (locked : session.Locked) (holder : topic.holder = session.topic.holder)
    (tickets : topic.nextTicket = session.topic.nextTicket) :
    Locked { session with topic } where
  issued call publication running := tickets ▸ locked.issued call publication running
  apart := locked.apart
  held call publication running begun := holder ▸ locked.held call publication running begun

theorem Locked.going (locked : session.Locked) (own : Runs session.calls call publication)
    (ticket : later.ticket = publication.ticket)
    (turn : session.topic.holder = some publication.ticket)
    (holder : topic.holder = session.topic.holder)
    (tickets : topic.nextTicket = session.topic.nextTicket) :
    Locked { session with topic, calls := session.calls.set call (.running later) } := by
  have origin : ∀ other next, Runs (session.calls.set call (.running later)) other next →
      ∃ was, Runs session.calls other was ∧ next.ticket = was.ticket := by
    intro other next running
    obtain ⟨rfl, rfl⟩ | ⟨-, older⟩ := own.going running
    · exact ⟨publication, own, ticket⟩
    · exact ⟨next, older, rfl⟩
  refine ⟨?_, ?_, ?_⟩
  · intro other next running
    obtain ⟨was, older, same⟩ := origin other next running
    have issued := locked.issued other was older
    rw [same]
    exact tickets ▸ issued
  · intro first second one two running standing same
    obtain ⟨was, older, ticketOne⟩ := origin first one running
    obtain ⟨were, former, ticketTwo⟩ := origin second two standing
    exact locked.apart first second was were older former (by rw [← ticketOne, same, ticketTwo])
  · intro other next running begun
    rw [holder]
    obtain ⟨rfl, rfl⟩ | ⟨-, older⟩ := own.going running
    · rw [turn, ticket]
    · exact locked.held other next older begun

theorem Locked.finished (locked : session.Locked) (own : Runs session.calls call publication)
    (holder : ∀ other next, other ≠ call → Runs session.calls other next →
      next.hasBegun = true → topic.holder = some next.ticket)
    (tickets : topic.nextTicket = session.topic.nextTicket) :
    Locked { session with topic, calls := session.calls.set call (.finished result) } := by
  refine ⟨?_, ?_, ?_⟩
  · intro other next running
    have issued := locked.issued other next (own.finished running).2
    exact tickets ▸ issued
  · intro first second one two running standing same
    exact locked.apart first second one two (own.finished running).2 (own.finished standing).2 same
  · intro other next running begun
    obtain ⟨different, older⟩ := own.finished running
    exact holder other next different older begun

theorem Locked.entered (locked : session.Locked) (message : Content) (patience deadline : Time) :
    Locked { session with
      topic := session.topic.enter.2
      calls := session.calls ++
        [.running ⟨session.topic.enter.1, message, patience, .ordering deadline⟩] } := by
  have origin : ∀ other next, Runs (session.calls ++
        [.running ⟨session.topic.enter.1, message, patience, .ordering deadline⟩]) other next →
      Runs session.calls other next ∧ next.ticket < session.topic.nextTicket ∨
        other = session.calls.length ∧ next.ticket = session.topic.nextTicket ∧
          next.hasBegun = false := by
    intro other next running
    obtain older | ⟨rfl, new⟩ := runs_added running
    · exact .inl ⟨older, locked.issued other next older⟩
    · cases new
      exact .inr ⟨rfl, rfl, rfl⟩
  refine ⟨?_, ?_, ?_⟩
  · intro other next running
    simp only [Topic.enter_nextTicket]
    obtain ⟨-, issued⟩ | ⟨-, ticket, -⟩ := origin other next running <;> omega
  · intro first second one two running standing same
    obtain ⟨older, issued⟩ | ⟨rfl, ticket, -⟩ := origin first one running <;>
      obtain ⟨former, earlier⟩ | ⟨rfl, latest, -⟩ := origin second two standing
    · exact locked.apart first second one two older former same
    · omega
    · omega
    · rfl
  · intro other next running begun
    obtain ⟨older, -⟩ | ⟨-, -, waits⟩ := origin other next running
    · exact Topic.enter_holder (locked.held other next older begun)
    · rw [waits] at begun
      cases begun

theorem Turn.locked (turn : Turn session seen after) (locked : session.Locked) : after.Locked := by
  cases turn with
  | subscribed | left => exact locked.elsewhere rfl rfl
  | rejected =>
      exact ⟨fun other next running => locked.issued other next (runs_refused running),
        fun first second one two running standing => locked.apart first second one two
          (runs_refused running) (runs_refused standing),
        fun other next running => locked.held other next (runs_refused running)⟩
  | entered message patience => exact locked.entered message patience _
  | admitted own ordering turn => exact locked.going own rfl turn rfl rfl
  | closed own delivering | full own delivering | delivered own delivering =>
      have turn := locked.held _ _ own (Publication.hasBegun_delivering delivering)
      exact locked.going own rfl turn rfl rfl
  | late own ordering taken =>
      apply locked.finished own
      · intro other next _ running begun
        rw [Topic.leave_holder taken]
        exact locked.held other next running begun
      · exact Topic.leave_nextTicket _ _
  | concluded own delivering =>
      have turn := locked.held _ _ own (Publication.hasBegun_delivering delivering)
      apply locked.finished own
      · intro other next different running begun
        exact absurd (locked.alone own turn running begun) different
      · exact Publication.conclude_nextTicket _ _ _ _
  | taken received =>
      obtain ⟨holder, tickets⟩ := Topic.receive_lock received
      exact locked.elsewhere holder tickets
  | waited => exact ⟨locked.issued, locked.apart, locked.held⟩

end TopicSession

end CameraBridge
