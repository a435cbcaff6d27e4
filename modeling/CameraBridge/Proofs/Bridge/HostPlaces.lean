import CameraBridge.Proofs.Bridge.HostDesk
import CameraBridge.Proofs.Reception.Transfers
import CameraBridge.Proofs.Topic.Single

namespace CameraBridge

/-! The way of a host's payload through the bridge: from the link to the intake, over the topic to the
consumer, and no further one before the consumer is done with it. Where the newest payload is decides
where the two workers stand and who holds it. -/

/-- Where the payload is that was received last. -/
inductive Place where
  /-- There is none, or the consumer is done with it. Meanwhile the next one may be gathered. -/
  | settled (gathered : Option Gathering)
  | offered (payload : InboundPayload)
  | queued (payload : InboundPayload)
  | inHand (payload : InboundPayload)

namespace Place

def items : Place → List InboundPayload
  | .queued payload => [payload]
  | _ => []

/-- What is gathered of the next payload. -/
def gathered : Place → Option Gathering
  | .settled gathered => gathered
  | _ => none

/-- The newest payload has left the intake, and nothing of the next one was read. -/
def isAway : Place → Bool
  | .offered _ => false
  | .settled gathered => gathered.isNone
  | _ => true

/-- A payload that is under way is the newest, and its hold counts who has it: the intake while it
publishes, and the queue or the consumer. One that is settled keeps nobody waiting. -/
def IsHeld (holds : List Hold) (publishing : Bool) : Place → Prop
  | .settled _ => ∀ hold, hold + 1 = holds.length → (holds[hold]?).all Hold.isFree = true
  | .offered payload => payload.hold + 1 = holds.length ∧ holds[payload.hold]? = some ⟨1, false⟩
  | .queued payload | .inHand payload => payload.hold + 1 = holds.length ∧
      holds[payload.hold]? = some ⟨if publishing then 2 else 1, false⟩

end Place

/-- Where the consumer stands. -/
inductive Consumer.StandsAt : Consumer → Place → Prop where
  | listening {place : Place} (free : ∀ payload, place ≠ .inHand payload) :
      StandsAt .listening place
  | commanding {publication : Publication Message} {payload : InboundPayload} :
      StandsAt (.commanding publication payload.hold) (.inHand payload)
  | batching {publication : Publication (List Message)} {payload : InboundPayload} :
      StandsAt (.batching publication payload.hold) (.inHand payload)

theorem Consumer.StandsAt.elsewhere {consumer : Consumer} {place other : Place}
    (stands : consumer.StandsAt place) (before : ∀ payload, place ≠ .inHand payload)
    (after : ∀ payload, other ≠ .inHand payload) : consumer.StandsAt other := by
  cases stands with
  | listening => exact .listening after
  | commanding | batching => exact absurd rfl (before _)

theorem Consumer.StandsAt.busy {consumer : Consumer} {payload : InboundPayload}
    (stands : consumer.StandsAt (.inHand payload)) : consumer ≠ .listening := by
  cases stands with
  | listening free => exact absurd rfl (free payload)
  | commanding | batching => exact nofun

/-- Where the intake stands, and the ticket that it has of the topic. -/
inductive Intake.StandsAt (receiver : Receiver) : Intake → Place → Option Nat → Prop where
  | offering {publication : Publication InboundPayload} (early : publication.IsEarly)
      (idle : receiver.running = false)
      (owed : receiver.outstanding = some publication.message.hold) :
      StandsAt receiver (.publishing publication) (.offered publication.message)
        (some publication.ticket)
  | concluding {publication : Publication InboundPayload} {place : Place} {deadline : Time}
      (served : publication.stage = .delivering deadline [0] [] none) (away : place.isAway = true)
      (newest : publication.message.hold + 1 = receiver.holds.length)
      (idle : receiver.running = false)
      (owed : receiver.outstanding = some publication.message.hold) :
      StandsAt receiver (.publishing publication) place (some publication.ticket)
  | waiting {deadline : Time} {previous : Nat} {place : Place} (away : place.isAway = true)
      (newest : previous + 1 = receiver.holds.length) (running : receiver.running = true)
      (taken : receiver.outstanding = none) :
      StandsAt receiver (.receiving (.waiting deadline previous)) place none
  | opening {gathered : Option Gathering} (running : receiver.running = true)
      (taken : receiver.outstanding = none) :
      StandsAt receiver (.receiving (.opening gathered)) (.settled gathered) none
  | reading {gathered : Option Gathering} (running : receiver.running = true)
      (taken : receiver.outstanding = none) :
      StandsAt receiver (.receiving (.reading gathered)) (.settled gathered) none
  | resting {moment : Time} (idle : receiver.running = false)
      (taken : receiver.outstanding = none) :
      StandsAt receiver (.resting moment) (.settled none) none
  | stopped {gathered : Option Gathering} :
      StandsAt receiver .stopped (.settled gathered) none

/-- A payload that has left the intake does not move it, wherever the payload goes. -/
theorem Intake.StandsAt.elsewhere {receiver : Receiver} {intake : Intake} {place other : Place}
    {ticket : Option Nat} (stands : intake.StandsAt receiver place ticket) (changed : Receiver)
    (under : place.items ≠ [] ∨ ∃ payload, place = .inHand payload) (away : other.isAway = true)
    (running : changed.running = receiver.running)
    (outstanding : changed.outstanding = receiver.outstanding)
    (holds : changed.holds.length = receiver.holds.length) :
    intake.StandsAt changed other ticket := by
  cases stands with
  | concluding served _ newest idle owed =>
      exact .concluding served away (newest.trans holds.symm) (running.trans idle)
        (outstanding.trans owed)
  | waiting _ newest runs taken =>
      exact .waiting away (newest.trans holds.symm) (running.trans runs) (outstanding.trans taken)
  | offering | opening | reading | resting | stopped => simp [Place.items] at under

/-- The payload that a reception has just completed. -/
def Intake.offer? : Intake → Option Bytes
  | .publishing publication => some publication.message.data
  | _ => none

namespace Bridge

/-- Everything is where it belongs while the newest payload is at some place. -/
structure Placed (place : Place) (desk : HostDesk) : Prop where
  hands : ∃ ticket, desk.intake.StandsAt desk.receiver place ticket ∧
    desk.inbound.Single false place.items ticket ∧ place.IsHeld desk.receiver.holds ticket.isSome
  consumer : desk.consumer.StandsAt place

/-! ### What is seen -/

inductive PassageSight where
  /-- The intake took an item of the link, and this completed a payload or not. -/
  | read (item : LinkItem) (payload : Option Bytes)
  /-- The intake's publication returned. -/
  | published (result : Except PublishError Unit)
  /-- The consumer took a payload up and acted on it, and is done with it or not. -/
  | consumed (data : Bytes) (done : Bool)
  /-- The consumer is done with the payload that it acted on. -/
  | finished

/-- What was read, and what it completed. -/
def PassageSight.read? : PassageSight → Option (LinkItem × Option Bytes)
  | .read item payload => some (item, payload)
  | _ => none

def intakeSight? (before after : Bridge) : Option PassageSight :=
  match before.intake with
  | .receiving (.reading _) =>
      before.hostLink.incoming.head?.map fun item => .read item after.intake.offer?
  | .publishing publication =>
      match before.stepInbound publication with
      | some (_, .finished result) => some (.published result)
      | _ => none
  | _ => none

def consumerSight? (before after : Bridge) : Option PassageSight :=
  match before.consumer with
  | .listening => (before.inbound.receive workerSubscriber).map fun (payload, _) =>
      .consumed payload.data (after.consumer = .listening)
  | _ => if after.consumer = .listening then some .finished else none

def passageSight? (next : Act) (before after : Bridge) : Option PassageSight :=
  match next with
  | .move .intake => before.intakeSight? after
  | .move .consumer => before.consumerSight? after
  | _ => none

/-- An act is the consumer's, who takes a payload from its queue and acts on it. -/
def Consumes (next : Act) (before after : Bridge) (data : Bytes) (done : Bool) : Prop :=
  next = .move .consumer ∧ ∃ payload inbound,
    before.inbound.receive workerSubscriber = some (payload, inbound) ∧ payload.data = data ∧
      after = { before with inbound }.consume payload ∧ done = decide (after.consumer = .listening)

/-- What a payload can do in one step, and what is seen of it. -/
inductive Passes : Place → Option PassageSight → Place → Prop where
  | unseen {place : Place} : Passes place none place
  | read {item : LinkItem} {gathered : Option Gathering}
      (incomplete : LinkItem.payload item gathered = none) :
      Passes (.settled gathered) (some (.read item none)) (.settled (LinkItem.leaves item gathered))
  | received {item : LinkItem} {gathered : Option Gathering} {payload : InboundPayload}
      (complete : LinkItem.payload item gathered = some payload.data)
      (left : LinkItem.leaves item gathered = none) :
      Passes (.settled gathered) (some (.read item (some payload.data))) (.offered payload)
  | queued {payload : InboundPayload} : Passes (.offered payload) none (.queued payload)
  | published {place : Place} : Passes place (some (.published (.ok ()))) place
  | taken {payload : InboundPayload} :
      Passes (.queued payload) (some (.consumed payload.data false)) (.inHand payload)
  | refused {payload : InboundPayload} :
      Passes (.queued payload) (some (.consumed payload.data true)) (.settled none)
  | finished {payload : InboundPayload} :
      Passes (.inHand payload) (some .finished) (.settled none)

variable {before after : Bridge} {place : Place}

/-! ### The intake's steps -/

theorem stepInbound_invert {publication : Publication InboundPayload}
    {progress : Progress InboundPayload}
    (stepped : before.stepInbound publication = some (after, progress)) :
    ∃ inbound, publication.step before.now before.inbound = some (inbound, progress) ∧
      after = { before with
        inbound
        receiver := before.receiver.modify publication.message.hold (follow progress) } := by
  simp only [stepInbound, Option.map_eq_some_iff, Prod.exists, Prod.mk.injEq] at stepped
  obtain ⟨inbound, same, stepped, rfl, rfl⟩ := stepped
  exact ⟨inbound, stepped, rfl⟩

/-- A reception that begins waits for what is owed, and opens the link if nothing is. -/
theorem beginReception_owed {previous : Nat} (begun : before.beginReception = after)
    (idle : before.receiver.running = false)
    (owed : before.receiver.outstanding = some previous) :
    after = { before with
      receiver := { before.receiver with running := true, outstanding := none }
      intake := .receiving (.waiting (before.now + before.receiver.permitTimeout) previous) } := by
  rw [← begun]
  simp only [beginReception, Receiver.begin, idle, owed, Bool.false_eq_true, if_false]

theorem beginReception_free (begun : before.beginReception = after)
    (idle : before.receiver.running = false) (taken : before.receiver.outstanding = none) :
    after = { before with
      receiver := { before.receiver with running := true }
      intake := .receiving (.opening none) } := by
  rw [← begun]
  simp only [beginReception, Receiver.begin, idle, taken, Bool.false_eq_true, if_false]

/-- What a reception's step leads to. -/
def Received (before after : Bridge) (hostLink : SegmentLink) (receiver : Receiver) :
    ReceptionProgress → Prop
  | .going phase => after = { before with hostLink, receiver, intake := .receiving phase }
  | .finished result => { before with hostLink, receiver }.afterReception result = after

theorem receiving_invert {phase : ReceptionPhase} (is : before.intake = .receiving phase)
    (moved : before.stepIntake = some after) :
    ∃ hostLink receiver progress,
      before.receiver.step before.now before.hostLink phase = some (hostLink, receiver, progress) ∧
      before.Received after hostLink receiver progress := by
  unfold stepIntake at moved
  split at moved
  · next other same =>
      cases is.symm.trans same
      split at moved
      · simp at moved
      · next stepped => exact ⟨_, _, _, stepped, (Option.some.inj moved).symm⟩
      · next stepped =>
          simp only [Option.ite_none_left_eq_some, Option.some.injEq] at moved
          exact ⟨_, _, _, stepped, moved.2⟩
  all_goals
    next same => simp [is] at same

/-- A change of the newest hold only. -/
theorem modify_held {holds : List Hold} {hold : Nat} {was : Hold} (change : Hold → Hold)
    (there : holds[hold]? = some was) : (holds.modify hold change)[hold]? = some (change was) := by
  simp [there]

/-- A payload that is handed out waits for the intake alone. -/
theorem handOut_held (data : Bytes) (holds : List Hold) (publishing : Bool) :
    (Place.offered ⟨data, holds.length⟩).IsHeld (holds ++ [({} : Hold)]) publishing := by
  refine ⟨?_, ?_⟩ <;> simp

/-- The queue shares what the intake has. -/
theorem shared_held {payload : InboundPayload} {holds : List Hold} {publishing : Bool}
    (held : (Place.offered payload).IsHeld holds publishing) :
    (Place.queued payload).IsHeld (holds.modify payload.hold Hold.share) true := by
  obtain ⟨newest, there⟩ := held
  exact ⟨by rw [List.length_modify, newest], modify_held _ there⟩

/-- The intake lets go, and whoever has the payload keeps it. -/
theorem letGo_held {hold : Nat} {holds : List Hold} (away : place.isAway = true)
    (newest : hold + 1 = holds.length) (held : place.IsHeld holds true) :
    place.IsHeld (holds.modify hold Hold.drop) false := by
  have same {other : Nat} (last : other + 1 = holds.length) : other = hold := by omega
  cases place with
  | settled gathered =>
      intro other last
      rw [List.length_modify] at last
      have free := held other last
      obtain rfl := same last
      rw [List.getElem?_modify_eq]
      cases there : holds[other]? with
      | none => rfl
      | some was =>
          rw [there] at free
          simp only [Option.all_some, Hold.isFree, Bool.or_eq_true, beq_iff_eq] at free
          change (Hold.drop was).isFree = true
          simp only [Hold.isFree, Hold.drop, Bool.or_eq_true, beq_iff_eq]
          exact free.imp_right fun nobody => by rw [nobody]
  | offered payload => simp [Place.isAway] at away
  | queued payload | inHand payload =>
      obtain ⟨last, there⟩ := held
      cases same last
      exact ⟨by rw [List.length_modify, last], modify_held _ there⟩

/-- The consumer is done, and nobody waits any more. -/
theorem finished_held {payload : InboundPayload} {holds : List Hold} {publishing : Bool}
    (held : (Place.inHand payload).IsHeld holds publishing) (later : Bool) :
    (Place.settled none).IsHeld
      (holds.modify payload.hold fun hold => hold.release.drop) later := by
  obtain ⟨newest, there⟩ := held
  intro other last
  rw [List.length_modify] at last
  have same : other = payload.hold := by omega
  rw [same, modify_held _ there]
  rfl

theorem offering_passes {publication : Publication InboundPayload}
    (is : before.intake = .publishing publication) (early : publication.IsEarly)
    (idle : before.receiver.running = false)
    (owed : before.receiver.outstanding = some publication.message.hold)
    (single : before.inbound.Single false [] (some publication.ticket))
    (held : (Place.offered publication.message).IsHeld before.receiver.holds true)
    (consumer : before.consumer.StandsAt (.offered publication.message))
    (moved : before.stepIntake = some after) :
    ∃ next, Placed next after.hostDesk ∧
      Passes (.offered publication.message) (before.intakeSight? after) next := by
  simp only [stepIntake, is] at moved
  cases stepped : before.stepInbound publication with
  | none => simp [stepped] at moved
  | some pair =>
      obtain ⟨middle, progress⟩ := pair
      obtain ⟨inbound, handed, rfl⟩ := stepInbound_invert stepped
      obtain ⟨later, delivered, rfl, sameTicket, sameMessage, went⟩ := early.stepped single handed
      have unseen : before.intakeSight? after = none := by simp only [intakeSight?, is, stepped]
      simp only [stepped, Option.some.injEq] at moved
      subst moved
      rw [unseen]
      obtain ⟨rfl, again, single⟩ | ⟨rfl, ⟨deadline, served⟩, single⟩ := went
      · refine ⟨.offered publication.message, ⟨⟨some later.ticket, ?_, ?_, ?_⟩, consumer⟩, .unseen⟩
        · rw [← sameMessage]
          exact .offering again idle (owed.trans (by rw [sameMessage]))
        · rw [sameTicket]
          exact single
        · obtain ⟨newest, there⟩ := held
          exact ⟨newest.trans (List.length_modify _ _ _).symm, modify_held _ there⟩
      · refine ⟨.queued publication.message, ⟨⟨some later.ticket, ?_, ?_, ?_⟩, ?_⟩, .queued⟩
        · refine .concluding served rfl ?_ idle (owed.trans (by rw [sameMessage]))
          rw [sameMessage]
          exact held.1.trans (List.length_modify _ _ _).symm
        · rw [sameTicket]
          exact single
        · exact shared_held held
        · exact consumer.elsewhere nofun nofun

theorem concluding_passes {publication : Publication InboundPayload} {deadline : Time}
    (is : before.intake = .publishing publication)
    (served : publication.stage = .delivering deadline [0] [] none) (away : place.isAway = true)
    (newest : publication.message.hold + 1 = before.receiver.holds.length)
    (idle : before.receiver.running = false)
    (owed : before.receiver.outstanding = some publication.message.hold)
    (single : before.inbound.Single false place.items (some publication.ticket))
    (held : place.IsHeld before.receiver.holds true) (consumer : before.consumer.StandsAt place)
    (moved : before.stepIntake = some after) :
    ∃ next, Placed next after.hostDesk ∧ Passes place (before.intakeSight? after) next := by
  have handed : publication.step before.now before.inbound =
      some (publication.conclude [0] none before.inbound) := by
    simp only [Publication.step, served, Publication.deliver]
  have stepped : before.stepInbound publication = some
      ({ before with
          inbound := (publication.conclude [0] none before.inbound).1
          receiver := before.receiver.modify publication.message.hold Hold.drop },
        .finished (.ok ())) := by
    simp only [stepInbound, handed]
    rfl
  have seen : before.intakeSight? after = some (.published (.ok ())) := by
    simp only [intakeSight?, is, stepped]
  simp only [stepIntake, is, stepped, Option.some.injEq] at moved
  obtain rfl := beginReception_owed moved idle owed
  rw [seen]
  refine ⟨place, ⟨⟨none, ?_, ?_, ?_⟩, consumer⟩, .published⟩
  · exact .waiting away (newest.trans (List.length_modify _ _ _).symm) rfl rfl
  · exact Publication.conclude_single [0] (.inr rfl) none single
  · exact letGo_held away newest held

/-- A reception that waits goes on waiting, or it finds the newest payload settled. -/
theorem waiting_passes {deadline : Time} {previous : Nat}
    (is : before.intake = .receiving (.waiting deadline previous)) (away : place.isAway = true)
    (newest : previous + 1 = before.receiver.holds.length)
    (running : before.receiver.running = true) (taken : before.receiver.outstanding = none)
    (single : before.inbound.Single false place.items none)
    (held : place.IsHeld before.receiver.holds false) (consumer : before.consumer.StandsAt place)
    (moved : before.stepIntake = some after) :
    ∃ next, Placed next after.hostDesk ∧ Passes place (before.intakeSight? after) next := by
  have unseen : before.intakeSight? after = none := by simp only [intakeSight?, is]
  rw [unseen]
  refine ⟨place, ?_, .unseen⟩
  obtain ⟨hostLink, receiver, progress, stepped, went⟩ := receiving_invert is moved
  obtain ⟨rfl, ⟨free, rfl, rfl⟩ | ⟨-, -, failed⟩⟩ := waiting_moved stepped
  · cases went
    cases place with
    | settled gathered =>
        cases gathered with
        | none => exact ⟨⟨none, .opening running taken, single, held⟩, consumer⟩
        | some gathering => simp [Place.isAway] at away
    | offered payload => simp [Place.isAway] at away
    | queued payload | inHand payload =>
        obtain ⟨last, there⟩ := held
        have same : previous = payload.hold := by omega
        rw [Receiver.isFree, same, there] at free
        simp [Hold.isFree] at free
  · cases failed
    simp only [Received, afterReception] at went
    obtain rfl := beginReception_owed went rfl rfl
    exact ⟨⟨none, .waiting away newest rfl rfl, single, held⟩, consumer⟩

/-- The item that is read adds to what is gathered, ends it, or completes a payload. -/
theorem reading_passes {gathered : Option Gathering}
    (is : before.intake = .receiving (.reading gathered)) (running : before.receiver.running = true)
    (taken : before.receiver.outstanding = none) (single : before.inbound.Single false [] none)
    (held : (Place.settled gathered).IsHeld before.receiver.holds false)
    (consumer : before.consumer.StandsAt (.settled gathered))
    (moved : before.stepIntake = some after) :
    ∃ next, Placed next after.hostDesk ∧
      Passes (.settled gathered) (before.intakeSight? after) next := by
  obtain ⟨hostLink, receiver, progress, stepped, went⟩ := receiving_invert is moved
  obtain ⟨item, rest, ready, rfl, read⟩ := reading_read stepped
  have seen : before.intakeSight? after = some (.read item after.intake.offer?) := by
    simp only [intakeSight?, is, ready, List.head?_cons, Option.map_some]
  rw [seen]
  have listening : ∀ place : Place, (∀ payload, place ≠ .inHand payload) →
      before.consumer.StandsAt place := fun place => consumer.elsewhere nofun
  cases read with
  | more left incomplete =>
      have passes := Passes.read incomplete
      rw [left] at passes
      cases went
      exact ⟨_, ⟨⟨none, .opening running taken, single, held⟩, listening _ nofun⟩, passes⟩
  | @failure cause left incomplete other =>
      have passes := Passes.read incomplete
      rw [left] at passes
      cases cause with
      | busy => exact absurd rfl other
      | link reason =>
          cases reason with
          | connectionClosed =>
              cases went
              exact ⟨.settled none, ⟨⟨none, .stopped, single, held⟩, listening _ nofun⟩, passes⟩
          | connectionFailed | sendFailed | receiveFailed | timeout | invalidConfig =>
              cases went
              exact ⟨_, ⟨⟨none, .resting rfl taken, single, held⟩, listening _ nofun⟩, passes⟩
      | allocation | overflow =>
          cases went
          exact ⟨_, ⟨⟨none, .resting rfl taken, single, held⟩, listening _ nofun⟩, passes⟩
  | @whole data left complete =>
      cases went
      exact ⟨.offered ⟨data, before.receiver.holds.length⟩,
        ⟨⟨_, .offering (.inl ⟨_, rfl⟩) rfl rfl, single.enter, handOut_held data _ _⟩,
          listening _ nofun⟩, .received complete left⟩

theorem stepIntake_passes (placed : Placed place before.hostDesk)
    (moved : before.stepIntake = some after) :
    ∃ next, Placed next after.hostDesk ∧ Passes place (before.intakeSight? after) next := by
  obtain ⟨⟨ticket, stands, single, held⟩, consumer⟩ := placed
  generalize is : before.hostDesk.intake = intake at stands
  change before.intake = intake at is
  cases stands with
  | offering early idle owed => exact offering_passes is early idle owed single held consumer moved
  | concluding served away newest idle owed =>
      exact concluding_passes is served away newest idle owed single held consumer moved
  | waiting away newest running taken =>
      exact waiting_passes is away newest running taken single held consumer moved
  | @opening gathered running taken =>
      have unseen : before.intakeSight? after = none := by simp only [intakeSight?, is]
      rw [unseen]
      refine ⟨.settled gathered, ?_, .unseen⟩
      obtain ⟨hostLink, receiver, progress, stepped, went⟩ := receiving_invert is moved
      obtain ⟨rfl, ⟨-, failed⟩ | ⟨-, rfl, rfl⟩⟩ := opening_moved stepped
      · cases failed
        cases went
        exact ⟨⟨none, .stopped, single, held⟩, consumer⟩
      · cases went
        exact ⟨⟨none, .reading running taken, single, held⟩, consumer⟩
  | reading running taken => exact reading_passes is running taken single held consumer moved
  | resting idle taken =>
      have unseen : before.intakeSight? after = none := by simp only [intakeSight?, is]
      rw [unseen]
      refine ⟨.settled none, ?_, .unseen⟩
      simp only [stepIntake, is, Option.ite_none_left_eq_some, Option.some.injEq] at moved
      obtain rfl := beginReception_free moved.2 idle taken
      exact ⟨⟨none, .opening rfl taken, single, held⟩, consumer⟩
  | stopped => simp [stepIntake, is] at moved

/-! ### The consumer's steps -/

/-- What the consumer makes of a payload in one move: it has it in hand, or it is done with it. -/
inductive Handled (payload : InboundPayload) (desk : HostDesk) : HostDesk → Prop where
  | goesOn {consumer : Consumer} (stands : consumer.StandsAt (.inHand payload)) :
      Handled payload desk { desk with consumer }
  | finished :
      Handled payload desk { desk with
        receiver := desk.receiver.modify payload.hold fun hold => hold.release.drop
        consumer := .listening }

theorem consume_handled (payload : InboundPayload) (bridge : Bridge) :
    Handled payload bridge.hostDesk (bridge.consume payload).hostDesk := by
  unfold consume
  split
  · exact .finished
  · split
    · next begun =>
        obtain ⟨commands, -, rfl⟩ := beginCommand_invert begun
        exact .goesOn .commanding
    · exact .finished
  · split
    · next begun =>
        obtain ⟨batches, -, rfl⟩ := beginBatch_invert begun
        exact .goesOn .batching
    · exact .finished
  · exact .finished

theorem stepConsumer_handled {payload : InboundPayload}
    (stands : before.consumer.StandsAt (.inHand payload)) (moved : before.stepConsumer = some after) :
    Handled payload before.hostDesk after.hostDesk := by
  generalize is : before.consumer = consumer at stands
  cases stands with
  | listening free => exact absurd rfl (free payload)
  | commanding =>
      obtain ⟨commands, progress, -, -, ⟨later, delivered, rfl, rfl⟩ | ⟨result, rfl, rfl⟩⟩ :=
        commanding_invert is moved
      · exact .goesOn .commanding
      · exact .finished
  | batching =>
      obtain ⟨batches, progress, -, -, ⟨later, delivered, rfl, rfl⟩ | ⟨result, rfl, rfl⟩⟩ :=
        batching_invert is moved
      · exact .goesOn .batching
      · exact .finished

/-- A payload that the consumer has is settled once it is done with it, and only then. -/
theorem Handled.placed {payload : InboundPayload} {desk next : HostDesk}
    (handled : Handled payload desk next)
    (hands : ∃ ticket, desk.intake.StandsAt desk.receiver (.inHand payload) ticket ∧
      desk.inbound.Single false [] ticket ∧
      (Place.inHand payload).IsHeld desk.receiver.holds ticket.isSome) :
    next.consumer ≠ .listening ∧ Placed (.inHand payload) next ∨
      next.consumer = .listening ∧ Placed (.settled none) next := by
  cases handled with
  | goesOn stands => exact .inl ⟨stands.busy, hands, stands⟩
  | finished =>
      obtain ⟨ticket, stands, single, held⟩ := hands
      have onward : desk.intake.StandsAt
          (desk.receiver.modify payload.hold fun hold => hold.release.drop) (.settled none) ticket :=
        stands.elsewhere _ (.inr ⟨payload, rfl⟩) rfl rfl rfl (List.length_modify _ _ _)
      exact .inr ⟨rfl, ⟨ticket, onward, single, finished_held held _⟩, .listening nofun⟩

theorem stepConsumer_passes (placed : Placed place before.hostDesk)
    (moved : before.stepConsumer = some after) :
    ∃ next, Placed next after.hostDesk ∧ Passes place (before.consumerSight? after) next := by
  obtain ⟨⟨ticket, stands, single, held⟩, consumer⟩ := placed
  generalize is : before.hostDesk.consumer = busy at consumer
  change before.consumer = busy at is
  cases consumer with
  | listening free =>
      obtain ⟨payload, inbound, received, consumed⟩ := listening_invert is moved
      have handled := consume_handled payload { before with inbound }
      rw [consumed] at handled
      have seen : before.consumerSight? after =
          some (.consumed payload.data (after.consumer = .listening)) := by
        simp only [consumerSight?, is, received, Option.map_some]
      rw [seen]
      obtain ⟨rest, only, single⟩ := single.receive received
      cases place with
      | settled | offered | inHand => simp [Place.items] at only
      | queued queuedPayload =>
          obtain ⟨rfl, rfl⟩ := List.cons.inj only
          have inHand : before.intake.StandsAt before.receiver (.inHand queuedPayload) ticket :=
            stands.elsewhere _ (.inl nofun) rfl rfl rfl rfl
          obtain ⟨busy, onward⟩ | ⟨done, onward⟩ := handled.placed ⟨ticket, inHand, single, held⟩
          · have busy : after.consumer ≠ .listening := busy
            rw [decide_eq_false busy]
            exact ⟨_, onward, .taken⟩
          · have done : after.consumer = .listening := done
            rw [decide_eq_true done]
            exact ⟨_, onward, .refused⟩
  | @commanding publication payload | @batching publication payload =>
      have handled := stepConsumer_handled (by rw [is]; constructor) moved
      have seen : before.consumerSight? after =
          if after.consumer = .listening then some .finished else none := by
        simp only [consumerSight?, is]
      rw [seen]
      obtain ⟨busy, onward⟩ | ⟨done, onward⟩ := handled.placed ⟨ticket, stands, single, held⟩
      · have busy : after.consumer ≠ .listening := busy
        rw [if_neg busy]
        exact ⟨_, onward, .unseen⟩
      · have done : after.consumer = .listening := done
        rw [if_pos done]
        exact ⟨_, onward, .finished⟩

theorem passageSight?_consumes {next : Act} {data : Bytes} {done : Bool}
    (acted : before.act next = some after)
    (seen : passageSight? next before after = some (.consumed data done)) :
    Consumes next before after data done := by
  unfold passageSight? at seen
  split at seen
  · unfold intakeSight? at seen
    split at seen
    · obtain ⟨item, -, other⟩ := Option.map_eq_some_iff.mp seen
      cases other
    · split at seen <;> cases seen
    · cases seen
  · unfold consumerSight? at seen
    split at seen
    · next listening =>
        obtain ⟨payload, inbound, received, consumed⟩ := listening_invert listening acted
        rw [received, Option.map_some, Option.some.injEq, PassageSight.consumed.injEq] at seen
        obtain ⟨whole, ended⟩ := seen
        exact ⟨rfl, payload, inbound, received, whole, consumed.symm, ended.symm⟩
    · split at seen <;> cases seen
  · cases seen

/-! ### Whatever happens -/

/-- Short of the end, the newest payload is at some place, and each act takes it on or leaves it. -/
theorem act_passes {next : Act} (going : next ≠ .shutdown) (placed : Placed place before.hostDesk)
    (acted : before.act next = some after) :
    ∃ following, Placed following after.hostDesk ∧
      Passes place (passageSight? next before after) following := by
  by_cases receives : next = .move .intake
  · subst receives
    exact stepIntake_passes placed acted
  by_cases consumes : next = .move .consumer
  · subst consumes
    exact stepConsumer_passes placed acted
  refine ⟨place, ?_, ?_⟩
  · rw [act_hostDesk acted receives consumes going]
    exact placed
  · have unseen : passageSight? next before after = none := by
      unfold passageSight?
      split
      · exact absurd rfl receives
      · exact absurd rfl consumes
      · rfl
    rw [unseen]
    exact .unseen

theorem start_placed (timing : Timing) (queueDepth : Nat) (state : DeviceState) (links : OpenLinks) :
    Placed (.settled none) (start timing queueDepth state links).hostDesk where
  hands := ⟨none, .opening rfl rfl, .subscribed _ queueDepth, nofun⟩
  consumer := .listening nofun

end Bridge

end CameraBridge
