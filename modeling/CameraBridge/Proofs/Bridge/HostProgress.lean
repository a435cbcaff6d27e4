import Mathlib.Data.Prod.Lex
import Mathlib.Order.WithBot
import CameraBridge.Proofs.Bridge.HostPlaces

namespace CameraBridge

/-! How a host's payload gets on. At each place there is one of the two workers that it waits for. That
worker can move, at the latest when its time is up, and each of its moves brings the payload nearer to
its end, or the intake nearer to the next item of the link. -/

/-- Moves until a publication has returned, and some more. How many subscribers it will serve is open
until it has the lock. -/
def Publication.toGo {Content : Type} (more : Nat) (publication : Publication Content) : WithTop Nat :=
  match publication.stage with
  | .ordering _ => ⊤
  | .delivering _ _ remaining _ => .some (remaining.length + 1 + more)

theorem Publication.lt_toGo {Content : Type} (more : Nat) (publication : Publication Content) :
    .some more < publication.toGo more := by
  unfold toGo
  split
  · exact WithTop.coe_lt_top more
  · exact WithTop.coe_lt_coe.mpr (by omega)

theorem Publication.toGo_lt {Content : Type} {publication later : Publication Content}
    {topic after : Topic Content} {now : Time} {delivered : Bool} (more : Nat)
    (stepped : publication.step now topic = some (after, .going later delivered)) :
    later.toGo more < publication.toGo more := by
  generalize same : Progress.going later delivered = progress at stepped
  cases step_moved stepped with
  | admitted ordering =>
      cases same
      simp only [toGo, pass, ordering]
      exact WithTop.coe_lt_top _
  | closed delivering | delivered delivering | full delivering =>
      cases same
      simp only [toGo, pass, delivering, List.length_cons]
      exact WithTop.coe_lt_coe.mpr (by omega)
  | late | concluded => exact nomatch same

def Intake.toGo : Intake → WithTop Nat
  | .publishing publication => publication.toGo 3
  | .receiving (.waiting ..) | .resting _ => .some 3
  | .receiving (.opening _) => .some 2
  | .receiving (.reading _) => .some 1
  | .stopped => .some 0

def Consumer.toGo : Consumer → WithTop Nat
  | .commanding publication _ => publication.toGo 0
  | .batching publication _ => publication.toGo 0
  | .listening | .stopped => .some 0

namespace Bridge

variable {before after bridge : Bridge} {place following : Place} {ticket : Option Nat}

/-! ### Moves bring something nearer -/

theorem beginReception_toGo (bridge : Bridge) : bridge.beginReception.intake.toGo ≤ .some 3 := by
  unfold beginReception Receiver.begin
  split
  · next begun =>
      split at begun
      · simp at begun
      · split at begun <;> cases begun
        · exact WithTop.coe_le_coe.mpr (by decide : 2 ≤ 3)
        · exact le_refl _
  · exact le_refl _

theorem publishing_nearer {publication : Publication InboundPayload}
    (is : before.intake = .publishing publication) (moved : before.stepIntake = some after) :
    after.intake.toGo < before.intake.toGo := by
  simp only [stepIntake, is] at moved
  split at moved
  · simp at moved
  · next stepped =>
      obtain ⟨inbound, handed, rfl⟩ := stepInbound_invert stepped
      cases moved
      rw [is]
      exact Publication.toGo_lt 3 handed
  · cases moved
    rw [is]
    exact lt_of_le_of_lt (beginReception_toGo _) (Publication.lt_toGo 3 publication)

/-- While the newest payload is with it or with nobody, the intake gets on, up to the next item. -/
theorem stepIntake_nearer (stands : before.intake.StandsAt before.receiver place ticket)
    (near : ∀ payload, place ≠ .queued payload ∧ place ≠ .inHand payload)
    (held : place.IsHeld before.receiver.holds ticket.isSome)
    (moved : before.stepIntake = some after) :
    after.intake.toGo < before.intake.toGo ∨
      ∃ item payload, before.intakeSight? after = some (.read item payload) := by
  generalize is : before.intake = intake at stands
  rw [← is]
  cases stands with
  | offering | concluding => exact .inl (publishing_nearer is moved)
  | @waiting deadline previous place away newest =>
      cases place with
      | settled gathered =>
          have free : before.receiver.isFree previous = true := held previous newest
          obtain ⟨hostLink, receiver, progress, stepped, went⟩ := receiving_invert is moved
          obtain ⟨rfl, ⟨-, rfl, rfl⟩ | ⟨kept, -⟩⟩ := waiting_moved stepped
          · cases went
            rw [is]
            exact .inl (WithTop.coe_lt_coe.mpr (by decide : 2 < 3))
          · rw [free] at kept
            cases kept
      | offered payload => simp [Place.isAway] at away
      | queued payload => exact absurd rfl (near payload).1
      | inHand payload => exact absurd rfl (near payload).2
  | opening =>
      obtain ⟨hostLink, receiver, progress, stepped, went⟩ := receiving_invert is moved
      obtain ⟨rfl, ⟨-, failed⟩ | ⟨-, rfl, rfl⟩⟩ := opening_moved stepped
      · cases failed
        cases went
        rw [is]
        exact .inl (WithTop.coe_lt_coe.mpr (by decide : 0 < 2))
      · cases went
        rw [is]
        exact .inl (WithTop.coe_lt_coe.mpr (by decide : 1 < 2))
  | reading =>
      obtain ⟨hostLink, receiver, progress, stepped, -⟩ := receiving_invert is moved
      obtain ⟨item, rest, ready, -⟩ := reading_read stepped
      refine .inr ⟨item, after.intake.offer?, ?_⟩
      simp only [intakeSight?, is, ready, List.head?_cons, Option.map_some]
  | resting idle taken =>
      simp only [stepIntake, is, Option.ite_none_left_eq_some, Option.some.injEq] at moved
      obtain rfl := beginReception_free moved.2 idle taken
      rw [is]
      exact .inl (WithTop.coe_lt_coe.mpr (by decide : 2 < 3))
  | stopped => simp [stepIntake, is] at moved

theorem stepConsumer_nearer {payload : InboundPayload}
    (stands : before.consumer.StandsAt (.inHand payload)) (moved : before.stepConsumer = some after) :
    after.consumer = .listening ∨ after.consumer.toGo < before.consumer.toGo := by
  generalize is : before.consumer = consumer at stands
  rw [← is]
  cases stands with
  | listening free => exact absurd rfl (free payload)
  | commanding =>
      obtain ⟨commands, progress, -, handed, ⟨later, delivered, rfl, rfl⟩ | ⟨result, rfl, rfl⟩⟩ :=
        commanding_invert is moved
      · rw [is]
        exact .inr (Publication.toGo_lt 0 handed)
      · exact .inl rfl
  | batching =>
      obtain ⟨batches, progress, -, handed, ⟨later, delivered, rfl, rfl⟩ | ⟨result, rfl, rfl⟩⟩ :=
        batching_invert is moved
      · rw [is]
        exact .inr (Publication.toGo_lt 0 handed)
      · exact .inl rfl

/-! ### Whom the newest payload waits for -/

end Bridge

namespace Place

/-- The worker that has the payload, or the intake if it is settled. -/
def worker : Place → Bridge.Task
  | .offered _ | .settled _ => .intake
  | .queued _ | .inHand _ => .consumer

/-- Where that worker stands. -/
def stand (bridge : Bridge) : Place → Intake ⊕ Consumer
  | .offered _ | .settled _ => .inl bridge.intake
  | .queued _ | .inHand _ => .inr bridge.consumer

/-- When that worker's wait is up. -/
def deadlines (bridge : Bridge) (place : Place) : List Time :=
  (place.stand bridge).elim Intake.deadlines Consumer.deadlines

def level : Place → Nat
  | .offered _ => 3
  | .queued _ => 2
  | .inHand _ => 1
  | .settled _ => 0

/-- How far it is to the end, or from there to the next item of the link. -/
def rank (bridge : Bridge) (place : Place) : Nat ×ₗ WithTop Nat :=
  toLex (place.level, (place.stand bridge).elim Intake.toGo Consumer.toGo)

variable {before after : Bridge} {place following : Place}

theorem rank_congr (same : place.stand after = place.stand before) :
    place.rank after = place.rank before := by
  rw [rank, rank, same]

theorem rank_lt_of_level (lower : following.level < place.level) :
    following.rank after < place.rank before :=
  Prod.Lex.toLex_lt_toLex.mpr (.inl lower)

theorem rank_lt_of_toGo
    (nearer : (place.stand after).elim Intake.toGo Consumer.toGo <
      (place.stand before).elim Intake.toGo Consumer.toGo) :
    place.rank after < place.rank before :=
  Prod.Lex.toLex_lt_toLex.mpr (.inr ⟨rfl, nearer⟩)

end Place

namespace Bridge

variable {before after bridge : Bridge} {place following : Place} {ticket : Option Nat}

/-- A payload stays where it is or comes to a place nearer to its end, unless an item is read. -/
theorem Passes.onward {seen : Option PassageSight} (passes : Passes place seen following) :
    (∃ item payload, seen = some (.read item payload)) ∨
      seen.bind PassageSight.read? = none ∧ (following = place ∨ following.level < place.level) := by
  cases passes with
  | read | received => exact .inl ⟨_, _, rfl⟩
  | unseen | published => exact .inr ⟨rfl, .inl rfl⟩
  | queued | taken | refused | finished => exact .inr ⟨rfl, .inr (by simp [Place.level])⟩

theorem Passes.consumed {data : Bytes} {finished : Bool}
    (passes : Passes place (some (.consumed data finished)) following) :
    following.level < place.level := by
  cases passes with
  | taken | refused => simp [Place.level]

theorem intake_nearer (placed : Placed place before.hostDesk)
    (near : ∀ payload, place ≠ .queued payload ∧ place ≠ .inHand payload)
    (moved : before.stepIntake = some after) :
    ∃ following, Placed following after.hostDesk ∧
      Passes place (before.intakeSight? after) following ∧
      ((∃ item payload, before.intakeSight? after = some (.read item payload)) ∨
        following.rank after < place.rank before) := by
  obtain ⟨following, onward, passes⟩ := stepIntake_passes placed moved
  refine ⟨following, onward, passes, ?_⟩
  obtain ⟨⟨ticket, stands, -, held⟩, -⟩ := placed
  obtain nearer | read := stepIntake_nearer stands near held moved
  · obtain read | ⟨-, rfl | lower⟩ := passes.onward
    · exact .inl read
    · refine .inr (Place.rank_lt_of_toGo ?_)
      cases following with
      | settled | offered => exact nearer
      | queued payload => exact absurd rfl (near payload).1
      | inHand payload => exact absurd rfl (near payload).2
    · exact .inr (Place.rank_lt_of_level lower)
  · exact .inl read

theorem consumer_nearer (placed : Placed place before.hostDesk)
    (away : ∀ payload, place ≠ .offered payload) (unsettled : ∀ gathered, place ≠ .settled gathered)
    (moved : before.stepConsumer = some after) :
    ∃ following, Placed following after.hostDesk ∧
      Passes place (before.consumerSight? after) following ∧
      following.rank after < place.rank before := by
  obtain ⟨following, onward, passes⟩ := stepConsumer_passes placed moved
  refine ⟨following, onward, passes, ?_⟩
  cases place with
  | offered payload => exact absurd rfl (away payload)
  | settled gathered => exact absurd rfl (unsettled gathered)
  | queued payload =>
      obtain ⟨-, consumer⟩ := placed
      generalize is : before.hostDesk.consumer = stands at consumer
      change before.consumer = stands at is
      cases consumer
      obtain ⟨taken, inbound, received, -⟩ := listening_invert is moved
      have seen : before.consumerSight? after =
          some (.consumed taken.data (after.consumer = .listening)) := by
        simp only [consumerSight?, is, received, Option.map_some]
      rw [seen] at passes
      exact Place.rank_lt_of_level passes.consumed
  | inHand payload =>
      obtain ⟨item, data, read⟩ | ⟨-, rfl | lower⟩ := passes.onward
      · rw [read] at passes
        cases passes
      · have nearer := (stepConsumer_nearer placed.consumer moved).resolve_left onward.consumer.busy
        exact Place.rank_lt_of_toGo nearer
      · exact Place.rank_lt_of_level lower

/-- A move of the worker that a payload waits for brings it nearer to its end, or reads an item. -/
theorem worker_nearer (placed : Placed place before.hostDesk)
    (moved : before.act (.move place.worker) = some after) :
    ∃ following, Placed following after.hostDesk ∧
      Passes place (passageSight? (.move place.worker) before after) following ∧
      ((∃ item payload, passageSight? (.move place.worker) before after = some (.read item payload)) ∨
        following.rank after < place.rank before) := by
  cases place with
  | settled | offered => exact intake_nearer placed (fun _ => ⟨nofun, nofun⟩) moved
  | queued | inHand =>
      obtain ⟨following, onward, passes, nearer⟩ := consumer_nearer placed nofun nofun moved
      exact ⟨following, onward, passes, .inr nearer⟩

/-- Nobody else moves that worker. -/
theorem act_stand {next : Act} (going : next ≠ .shutdown) (other : next ≠ .move place.worker)
    (acted : before.act next = some after) : place.stand after = place.stand before := by
  have intake : next ≠ .move .intake → after.intake = before.intake := by
    intro receives
    by_cases consumes : next = .move .consumer
    · subst consumes
      obtain ⟨inbound, receiver, commands, batches, device, consumer, rfl, -⟩ :=
        stepConsumer_footprint acted
      rfl
    · exact congrArg HostDesk.intake (act_hostDesk acted receives consumes going)
  have consumer : next ≠ .move .consumer → after.consumer = before.consumer := by
    intro consumes
    by_cases receives : next = .move .intake
    · subst receives
      obtain ⟨hostLink, receiver, inbound, intake, rfl⟩ := stepIntake_footprint acted
      rfl
    · exact congrArg HostDesk.consumer (act_hostDesk acted receives consumes going)
  cases place with
  | settled | offered => exact congrArg Sum.inl (intake other)
  | queued | inHand => exact congrArg Sum.inr (consumer other)

/-! ### That worker can move -/

theorem afterReception_leaves {result : Except ReceptionError InboundPayload} {phase : ReceptionPhase}
    (other : result ≠ .error .busy) (bridge : Bridge) :
    (bridge.afterReception result).intake ≠ .receiving phase := by
  unfold afterReception
  split
  · exact nofun
  · exact absurd rfl other
  · exact nofun
  · exact nofun

theorem receiving_able {phase : ReceptionPhase} {hostLink : SegmentLink} {receiver : Receiver}
    {progress : ReceptionProgress} (is : bridge.intake = .receiving phase)
    (stepped : bridge.receiver.step bridge.now bridge.hostLink phase =
      some (hostLink, receiver, progress))
    (other : progress ≠ .finished (.error .busy)) : bridge.stepIntake.isSome = true := by
  cases progress with
  | going next =>
      simp only [stepIntake, is, stepped]
      rfl
  | finished result =>
      simp only [stepIntake, is, stepped]
      rw [if_neg (afterReception_leaves (fun same => other (congrArg _ same)) _)]
      rfl

/-- With the payload settled, the intake can move when its rest is over, unless it has stopped or the
link brings nothing. -/
theorem stepIntake_able {gathered : Option Gathering}
    (stands : bridge.intake.StandsAt bridge.receiver (.settled gathered) ticket)
    (held : (Place.settled gathered).IsHeld bridge.receiver.holds ticket.isSome)
    (late : ∀ deadline ∈ bridge.intake.deadlines, deadline ≤ bridge.now) :
    bridge.stepIntake.isSome = true ∨ bridge.intake = .stopped ∨ bridge.hostLink.incoming = [] := by
  generalize is : bridge.intake = intake at stands
  rw [is] at late
  rw [← is]
  cases stands with
  | concluding served =>
      left
      simp only [stepIntake, is, stepInbound, Publication.step, served, Publication.deliver]
      rfl
  | @waiting deadline previous _ _ newest =>
      have free : bridge.receiver.isFree previous = true := held previous newest
      have stepped : bridge.receiver.step bridge.now bridge.hostLink (.waiting deadline previous) =
          some (bridge.hostLink, bridge.receiver, .going (.opening none)) := by
        simp only [Receiver.step, free, if_true]
      exact .inl (receiving_able is stepped fun same => by cases same)
  | opening =>
      left
      cases closed : bridge.hostLink.closed with
      | true =>
          have stepped : bridge.receiver.step bridge.now bridge.hostLink (.opening gathered) =
              some (bridge.hostLink, bridge.receiver.fail (.link .connectionClosed)) := by
            simp only [Receiver.step, closed, if_true]
          exact receiving_able is stepped fun same => by cases same
      | false =>
          have stepped : bridge.receiver.step bridge.now bridge.hostLink (.opening gathered) =
              some (bridge.hostLink, bridge.receiver, .going (.reading gathered)) := by
            simp only [Receiver.step, closed, Bool.false_eq_true, if_false]
          exact receiving_able is stepped fun same => by cases same
  | reading =>
      cases ready : bridge.hostLink.incoming with
      | nil => exact .inr (.inr rfl)
      | cons item rest =>
          obtain ⟨⟨hostLink, receiver, progress⟩, stepped⟩ :=
            Option.isSome_iff_exists.mp (reading_able bridge.now ready)
          obtain ⟨taken, left, -, -, read⟩ := reading_read stepped
          exact .inl (receiving_able is stepped read.other)
  | resting =>
      left
      simp only [stepIntake, is, if_neg (Nat.not_lt.mpr (late _ List.mem_cons_self))]
      rfl
  | stopped => exact .inr (.inl is)

theorem stepConsumer_able {payload : InboundPayload}
    (stands : bridge.consumer.StandsAt (.inHand payload))
    (late : ∀ deadline ∈ bridge.consumer.deadlines, deadline ≤ bridge.now) :
    bridge.stepConsumer.isSome = true := by
  generalize is : bridge.consumer = consumer at stands
  rw [is] at late
  cases stands with
  | listening free => exact absurd rfl (free payload)
  | commanding => exact commanding_able is (late _ List.mem_cons_self)
  | batching => exact batching_able is (late _ List.mem_cons_self)

/-- The worker that a payload waits for can move when its own wait is up. With the payload settled,
that is so unless the intake has stopped or the link brings nothing. -/
theorem worker_able (placed : Placed place bridge.hostDesk)
    (late : ∀ deadline ∈ place.deadlines bridge, deadline ≤ bridge.now) :
    (bridge.step place.worker).isSome = true ∨
      (∃ gathered, place = .settled gathered) ∧
        (bridge.intake = .stopped ∨ bridge.hostLink.incoming = []) := by
  obtain ⟨⟨ticket, stands, single, held⟩, consumer⟩ := placed
  cases place with
  | settled gathered =>
      exact (stepIntake_able stands held late).imp_right fun idle => ⟨⟨gathered, rfl⟩, idle⟩
  | offered payload =>
      left
      generalize is : bridge.hostDesk.intake = intake at stands
      change bridge.intake = intake at is
      cases stands with
      | offering early =>
          obtain ⟨middle, later, delivered, stepped, -⟩ := early.strode single bridge.now
          simp only [hostDesk] at stepped
          simp only [step, Place.worker, stepIntake, is, stepInbound, stepped]
          rfl
      | concluding _ away | waiting away => simp [Place.isAway] at away
  | queued payload =>
      left
      generalize is : bridge.hostDesk.consumer = stands at consumer
      change bridge.consumer = stands at is
      cases consumer
      obtain ⟨inbound, received⟩ := single.receive_exists
      have received : bridge.inbound.receive workerSubscriber = some (payload, inbound) := received
      simp only [step, Place.worker, stepConsumer, is, received]
      rfl
  | inHand payload => exact .inl (stepConsumer_able consumer late)

/-! ### Why the intake stops -/

theorem beginReception_goesOn (bridge : Bridge) : bridge.beginReception.intake ≠ .stopped := by
  unfold beginReception
  split <;> exact nofun

theorem afterReception_stops {result : Except ReceptionError InboundPayload}
    (stops : (bridge.afterReception result).intake = .stopped) :
    result = .error (.link .connectionClosed) := by
  unfold afterReception at stops
  split at stops
  · exact nomatch stops
  · exact absurd stops (beginReception_goesOn bridge)
  · rfl
  · exact nomatch stops

/-- The intake stops when it finds the link closed, or reads that it is. -/
theorem stepIntake_stops (moved : before.stepIntake = some after) (stops : after.intake = .stopped) :
    before.hostLink.closed = true ∨
      ∃ payload, before.intakeSight? after = some (.read (.error .connectionClosed) payload) := by
  cases is : before.intake with
  | receiving phase =>
      obtain ⟨hostLink, receiver, progress, stepped, went⟩ := receiving_invert is moved
      cases progress with
      | going next =>
          cases went
          cases stops
      | finished result =>
          have went : { before with hostLink, receiver }.afterReception result = after := went
          rw [← went] at stops
          obtain rfl := afterReception_stops stops
          cases phase with
          | waiting =>
              obtain ⟨-, ⟨-, -, goesOn⟩ | ⟨-, -, failed⟩⟩ := waiting_moved stepped
              · cases goesOn
              · cases failed
          | opening =>
              obtain ⟨-, ⟨closed, -⟩ | ⟨-, -, goesOn⟩⟩ := opening_moved stepped
              · exact .inl closed
              · cases goesOn
          | reading gathered =>
              obtain ⟨item, rest, ready, -, read⟩ := reading_read stepped
              cases read with
              | failure _ _ _ open? =>
                  obtain rfl := open? rfl
                  refine .inr ⟨after.intake.offer?, ?_⟩
                  simp only [intakeSight?, is, ready, List.head?_cons, Option.map_some]
  | publishing publication =>
      simp only [stepIntake, is] at moved
      split at moved
      · cases moved
      · cases moved
        cases stops
      · cases moved
        exact absurd stops (beginReception_goesOn _)
  | resting moment =>
      simp only [stepIntake, is, Option.ite_none_left_eq_some, Option.some.injEq] at moved
      rw [← moved.2] at stops
      exact absurd stops (beginReception_goesOn before)
  | stopped => simp [stepIntake, is] at moved

end Bridge

end CameraBridge
