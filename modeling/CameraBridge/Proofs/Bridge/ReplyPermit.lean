import CameraBridge.Proofs.Bridge.Stride

namespace CameraBridge

/-! The permit for large replies and the reply it is out for. At each place where tasks may wait, the
permit is free or out for exactly one reply, which is being published, queued or sent. -/

namespace ReplyPermits

variable {permits granted : ReplyPermits} {grant : Nat}

/-- The latest grant has one holder, who has not released it, and all earlier ones are free. -/
def Out (grant : Nat) (permits : ReplyPermits) : Prop :=
  ∃ older, permits.grants = older ++ [({} : Hold)] ∧ older.length = grant ∧
    ∀ hold ∈ older, hold.isFree = true

theorem acquire_out (acquired : permits.acquire = some (grant, granted)) :
    permits.available = true ∧ granted.Out grant := by
  simp only [acquire, Option.ite_none_right_eq_some, Option.some.injEq, Prod.mk.injEq] at acquired
  obtain ⟨available, rfl, rfl⟩ := acquired
  exact ⟨available, permits.grants, rfl, rfl, fun hold member =>
    List.all_eq_true.mp available hold member⟩

theorem Out.unavailable (out : permits.Out grant) : permits.available = false := by
  obtain ⟨older, grants, -, -⟩ := out
  simp [available, grants, Hold.isFree]

theorem modify_last {Entry : Type} (front : List Entry) (last : Entry) (change : Entry → Entry) :
    (front ++ [last]).modify front.length change = front ++ [change last] := by
  induction front with
  | nil => rfl
  | cons first rest ih => exact congrArg (first :: ·) ih

theorem Out.modify (out : permits.Out grant) (change : Hold → Hold) :
    ∃ older, (permits.modify grant change).grants = older ++ [change {}] ∧ older.length = grant ∧
      ∀ hold ∈ older, hold.isFree = true := by
  obtain ⟨older, grants, rfl, free⟩ := out
  refine ⟨older, ?_, rfl, free⟩
  rw [ReplyPermits.modify, grants, modify_last]

theorem Out.freed (out : permits.Out grant) {change : Hold → Hold}
    (frees : (change {}).isFree = true) : (permits.modify grant change).available = true := by
  obtain ⟨older, grants, -, free⟩ := out.modify change
  simpa [available, grants, frees] using free

theorem Out.kept (out : permits.Out grant) {change : Hold → Hold} (keeps : change {} = {}) :
    (permits.modify grant change).Out grant := by
  obtain ⟨older, grants, sized, free⟩ := out.modify change
  exact ⟨older, keeps ▸ grants, sized, free⟩

/-- A queue that takes the reply holds the grant once its publication is over. -/
theorem Out.handed (out : permits.Out grant) :
    ((permits.modify grant Hold.share).modify grant Hold.drop).Out grant := by
  obtain ⟨older, grants, rfl, free⟩ := out
  refine ⟨older, ?_, rfl, free⟩
  simp only [ReplyPermits.modify, grants, modify_last]
  rfl

end ReplyPermits

def Transmitter.isGone : Transmitter → Bool
  | .stopped => true
  | _ => false

theorem Transmitter.listening_of {transmitter : Transmitter} (rests : transmitter.reply? = none)
    (there : transmitter.isGone = false) : transmitter = .listening := by
  cases transmitter with
  | listening => rfl
  | sending => exact nomatch rests
  | stopped => exact nomatch there

/-- The permit is free, or out for the only reply there is. -/
inductive Lane : List (Publication OutboundReply) → Topic OutboundReply → ReplyPermits →
    Transmitter → Prop where
  | free {topic : Topic OutboundReply} {permits : ReplyPermits} {transmitter : Transmitter}
      (rests : transmitter.reply? = none) (available : permits.available = true)
      (single : topic.Single transmitter.isGone [] none) : Lane [] topic permits transmitter
  | publishing {topic : Topic OutboundReply} {permits : ReplyPermits} {transmitter : Transmitter}
      (publication : Publication OutboundReply) (rests : transmitter.reply? = none)
      (out : permits.Out publication.message.grant) (early : publication.IsEarly)
      (single : topic.Single transmitter.isGone [] (some publication.ticket)) :
      Lane [publication] topic permits transmitter
  | queued {topic : Topic OutboundReply} {permits : ReplyPermits} (reply : OutboundReply)
      (out : permits.Out reply.grant) (single : topic.Single false [reply] none) :
      Lane [] topic permits .listening
  | sending {topic : Topic OutboundReply} {permits : ReplyPermits} (reply : OutboundReply)
      (ready deadline : Time) (out : permits.Out reply.grant)
      (single : topic.Single false [] none) :
      Lane [] topic permits (.sending reply ready deadline)

namespace Lane

variable {publications : List (Publication OutboundReply)} {topic : Topic OutboundReply}
  {permits : ReplyPermits} {transmitter : Transmitter}

theorem begin_publishing (lane : Lane publications topic permits transmitter)
    {reply : OutboundReply} {granted : ReplyPermits}
    (acquired : permits.acquire = some (reply.grant, granted))
    {now patience : Time} {publication : Publication OutboundReply} {after : Topic OutboundReply}
    (started : Publication.start now patience reply topic = (publication, after)) :
    publications = [] ∧ Lane [publication] after granted transmitter := by
  obtain ⟨available, out⟩ := ReplyPermits.acquire_out acquired
  cases lane with
  | free rests _ single =>
      have message := Publication.started_message started
      refine ⟨rfl, .publishing publication rests (message ▸ out) (Publication.started_early started) ?_⟩
      rw [Publication.started_ticket started, ← Publication.started_enter started]
      exact single.enter
  | publishing _ _ held | queued _ held | sending _ _ _ held =>
      exact absurd (available.symm.trans held.unavailable) (by decide)

theorem only {publication : Publication OutboundReply}
    {front back : List (Publication OutboundReply)}
    (lane : Lane publications topic permits transmitter)
    (member : publications = front ++ [publication] ++ back) :
    front = [] ∧ back = [] ∧ transmitter.reply? = none ∧ permits.Out publication.message.grant ∧
      publication.IsEarly ∧ topic.Single transmitter.isGone [] (some publication.ticket) := by
  cases lane with
  | publishing other rests out early single =>
      cases front with
      | nil =>
          simp only [List.nil_append, List.cons_append, List.cons.injEq] at member
          obtain ⟨rfl, rfl⟩ := member
          exact ⟨rfl, rfl, rests, out, early, single⟩
      | cons first front => simp at member
  | free | queued | sending => simp at member

theorem take (lane : Lane publications topic permits .listening) {reply : OutboundReply}
    {after : Topic OutboundReply} (received : topic.receive 0 = some (reply, after)) :
    publications = [] ∧ permits.Out reply.grant ∧ after.Single false [] none := by
  cases lane with
  | free rests available single =>
      obtain ⟨rest, same, -⟩ := single.receive received
      exact nomatch same
  | publishing publication rests out early single =>
      obtain ⟨rest, same, -⟩ := single.receive received
      exact nomatch same
  | queued other out single =>
      obtain ⟨rest, same, taken⟩ := single.receive received
      cases same
      exact ⟨rfl, out, taken⟩

theorem finish {reply : OutboundReply} {ready deadline : Time}
    (lane : Lane publications topic permits (.sending reply ready deadline))
    (change : Hold → Hold) (frees : (change {}).isFree = true) :
    publications = [] ∧ (permits.modify reply.grant change).available = true ∧
      topic.Single false [] none := by
  cases lane with
  | free rests => exact nomatch rests
  | publishing publication rests => exact nomatch rests
  | sending _ _ _ out single => exact ⟨rfl, out.freed frees, single⟩

/-- A publication that stops gives back the permit. -/
theorem abandon {publication : Publication OutboundReply}
    (front back : List (Publication OutboundReply))
    (lane : Lane (front ++ [publication] ++ back) topic permits transmitter) :
    Lane (front ++ back) (publication.abandon topic)
      (permits.modify publication.message.grant Hold.drop) transmitter := by
  obtain ⟨rfl, rfl, rests, out, -, single⟩ := lane.only rfl
  exact .free rests (out.freed rfl) single.leave

end Lane

namespace Bridge

variable {bridge before after : Bridge}

def ReplyLane (bridge : Bridge) : Prop :=
  Lane bridge.replyPublications bridge.outbound bridge.permits bridge.transmitter

theorem ReplyLane.kept (lane : before.ReplyLane)
    (publications : after.replyPublications = before.replyPublications)
    (outbound : after.outbound = before.outbound) (permits : after.permits = before.permits)
    (transmitter : after.transmitter = before.transmitter) : after.ReplyLane := by
  rw [ReplyLane, publications, outbound, permits, transmitter]
  exact lane

theorem stepTransmitter_lane (lane : before.ReplyLane)
    (moved : before.stepTransmitter = some after) : after.ReplyLane := by
  have publications := stepTransmitter_publications moved
  unfold ReplyLane at lane ⊢
  rw [publications]
  cases stepTransmitter_invert moved with
  | took reply ready deadline listening received permits sending =>
      rw [listening] at lane
      obtain ⟨none, out, single⟩ := lane.take received
      rw [none, sending, permits]
      exact .sending reply ready deadline out single
  | refused reply listening received permits rested =>
      rw [listening] at lane
      obtain ⟨none, out, single⟩ := lane.take received
      rw [none, rested, permits]
      exact .free rfl (out.freed rfl) single
  | ended reply ready deadline sending outbound permits rested =>
      rw [sending] at lane
      obtain ⟨none, available, single⟩ := lane.finish (fun hold => hold.release.drop) rfl
      rw [none, rested, permits, outbound]
      exact .free rfl available single

/-! ### Strides of those who publish -/

variable {task : Task} {publication : Publication OutboundReply}

theorem standing_task (standing : before.replyAt? task = some publication) :
    task ≠ .transmitter := by
  rintro rfl
  exact nomatch standing

/-- The first step of a stride: the publication goes on. -/
structure FirstStep (task : Task) (before : Bridge) (publication : Publication OutboundReply)
    (middle : Bridge) (later : Publication OutboundReply) (delivered : Bool) : Prop where
  moved : before.step task = some middle
  stepped : publication.step before.now before.outbound = some (middle.outbound, .going later delivered)
  standing : middle.replyAt? task = some later
  publications : middle.replyPublications = [later]
  ticket : later.ticket = publication.ticket
  message : later.message = publication.message
  permits : middle.permits =
    before.permits.modify publication.message.grant (follow (.going later delivered))
  transmitter : middle.transmitter = before.transmitter
  strode : publication.Strode before.transmitter.isGone middle.outbound later delivered

theorem ReplyLane.first_step (lane : before.ReplyLane)
    (standing : before.replyAt? task = some publication) :
    before.transmitter.reply? = none ∧ before.permits.Out publication.message.grant ∧
      ∃ middle later delivered, FirstStep task before publication middle later delivered := by
  obtain ⟨front, back, among⟩ := reply_among standing
  obtain ⟨rfl, rfl, rests, out, early, single⟩ := Lane.only lane among
  refine ⟨rests, out, ?_⟩
  obtain ⟨outbound, later, delivered, stepped, ticket, message, strode⟩ :=
    early.strode single before.now
  obtain ⟨middle, moved⟩ := step_of_reply standing stepped
  obtain ⟨own, ⟨front, back, first, last⟩, transmitter⟩ :=
    step_ownReply moved (standing_task standing)
  rw [standing] at own first
  obtain ⟨rfl, rfl, -⟩ := Lane.only lane first
  generalize after : middle.replyAt? task = is at own last
  cases own with
  | going again permits =>
      rw [stepped] at again
      cases again
      exact ⟨middle, later, delivered, moved, stepped, after, last, ticket, message, permits,
        transmitter, strode⟩
  | finished again => exact nomatch stepped.symm.trans again

theorem last_step {middle : Bridge} {later : Publication OutboundReply}
    {topic : Topic OutboundReply} {result : Except PublishError Unit}
    (standing : middle.replyAt? task = some later)
    (publications : middle.replyPublications = [later])
    (ends : later.step middle.now middle.outbound = some (topic, .finished result)) :
    ∃ after, middle.step task = some after ∧ after.replyPublications = [] ∧
      after.outbound = topic ∧ after.transmitter = middle.transmitter ∧
      after.permits = middle.permits.modify later.message.grant Hold.drop := by
  obtain ⟨after, moved⟩ := step_of_reply standing ends
  obtain ⟨own, ⟨front, back, first, last⟩, transmitter⟩ :=
    step_ownReply moved (standing_task standing)
  rw [standing] at own first
  generalize after.replyAt? task = is at own last
  cases own with
  | going again => exact nomatch ends.symm.trans again
  | finished again permits =>
      rw [ends] at again
      cases again
      refine ⟨after, moved, ?_, rfl, transmitter, permits⟩
      rw [publications] at first
      cases front with
      | nil =>
          simp only [Option.toList_some, List.nil_append, List.cons_append, List.cons.injEq,
            true_and] at first
          rw [last, ← first]
          rfl
      | cons entry front => simp at first

/-- What the stride of a task that publishes a reply leads to, by the outcome of the publication. -/
inductive ReplyStride (task : Task) (publication : Publication OutboundReply) (after : Bridge) :
    Option (Except PublishError Unit) → Prop where
  | admitted (ordering : ∃ deadline, publication.stage = .ordering deadline)
      (later : Publication OutboundReply) (standing : after.replyAt? task = some later)
      (delivering : ∃ deadline, later.stage = .delivering deadline [0] [0] none) :
      ReplyStride task publication after none
  | unserved (result : Except PublishError Unit)
      (inTime : ∀ name, result ≠ .error (.timeout name))
      (available : after.permits.available = true) :
      ReplyStride task publication after (some result)
  | served (queued : after.outbound.items workerSubscriber = [publication.message]) :
      ReplyStride task publication after (some (.ok ()))

theorem stride_of_unserved {middle : Bridge} (moved : before.step task = some middle)
    (unserved : ∀ later, middle.replyAt? task = some later → later.isServed = false) :
    before.stride task = some middle := by
  simp only [stride, moved, Option.map_some]
  cases standing : middle.replyAt? task with
  | none => simp
  | some later => simp [unserved later standing]

theorem stride_of_served {middle : Bridge} {later : Publication OutboundReply}
    (moved : before.step task = some middle) (standing : middle.replyAt? task = some later)
    (served : later.isServed = true) (ended : middle.step task = some after) :
    before.stride task = some after := by
  simp [stride, moved, standing, served, ended]

theorem FirstStep.outcome_eq {middle : Bridge} {later : Publication OutboundReply}
    {delivered : Bool} {topic : Topic OutboundReply} {result : Except PublishError Unit}
    (first : FirstStep task before publication middle later delivered)
    (served : later.isServed = true)
    (ends : ∀ moment, later.step moment middle.outbound = some (topic, .finished result)) :
    publication.outcome? before.now before.outbound = some result := by
  simp only [Publication.outcome?, first.stepped, served, ends, if_true]

/-- Who publishes a reply never waits, and either goes on or ends without a timeout. -/
theorem ReplyLane.stride_reply (lane : before.ReplyLane)
    (standing : before.replyAt? task = some publication) :
    ∃ after, before.stride task = some after ∧ after.ReplyLane ∧
      ReplyStride task publication after
        (publication.outcome? before.now before.outbound) := by
  obtain ⟨rests, out, middle, later, delivered, first⟩ := lane.first_step standing
  have sameGrant : later.message.grant = publication.message.grant := by rw [first.message]
  cases first.strode with
  | admitted ordering delivering single =>
      have early : later.IsEarly := .inr delivering
      have unserved : ∀ other, middle.replyAt? task = some other → other.isServed = false := by
        intro other same
        cases first.standing.symm.trans same
        exact early.unserved
      have undecided : publication.outcome? before.now before.outbound = none := by
        simp only [Publication.outcome?, first.stepped, early.unserved, Bool.false_eq_true, if_false]
      refine ⟨middle, stride_of_unserved first.moved unserved, ?_, ?_⟩
      · rw [ReplyLane, first.publications, first.permits, first.transmitter]
        refine .publishing later rests ?_ early (first.ticket ▸ single)
        rw [sameGrant]
        exact out.kept rfl
      · rw [undecided]
        exact .admitted ordering later first.standing delivering
  | unserved served ends inTime single =>
      obtain ⟨after, ended, publications, outbound, transmitter, permits⟩ :=
        last_step first.standing first.publications (ends middle.now)
      have available : after.permits.available = true := by
        have kept : middle.permits.Out publication.message.grant := by
          rw [first.permits]
          exact out.kept rfl
        rw [permits, sameGrant]
        exact kept.freed rfl
      refine ⟨after, stride_of_served first.moved first.standing served ended, ?_, ?_⟩
      · rw [ReplyLane, publications, outbound, transmitter, first.transmitter]
        exact .free rests available single
      · rw [first.outcome_eq served ends]
        exact .unserved _ inTime available
  | served served there ends single =>
      obtain ⟨after, ended, publications, outbound, transmitter, permits⟩ :=
        last_step first.standing first.publications (ends middle.now)
      refine ⟨after, stride_of_served first.moved first.standing served ended, ?_, ?_⟩
      · have listens : after.transmitter = .listening := by
          rw [transmitter, first.transmitter]
          exact Transmitter.listening_of rests there
        have held : after.permits.Out publication.message.grant := by
          rw [permits, sameGrant, first.permits]
          exact out.handed
        rw [ReplyLane, publications, outbound, listens]
        exact .queued publication.message held single
      · rw [first.outcome_eq served ends]
        refine .served ?_
        rw [outbound]
        exact single.items_eq

/-- A task that publishes no reply yet begins to publish one at most. -/
theorem ReplyLane.step_idle {middle : Bridge} (lane : before.ReplyLane)
    (moved : before.step task = some middle) (other : task ≠ .transmitter)
    (idle : before.replyAt? task = none) :
    middle.ReplyLane ∧ ∀ later, middle.replyAt? task = some later → later.isServed = false := by
  obtain ⟨own, ⟨front, back, first, last⟩, transmitter⟩ := step_ownReply moved other
  rw [idle] at own first
  generalize middle.replyAt? task = is at own last
  cases own with
  | quiet outbound permits =>
      have same : middle.replyPublications = before.replyPublications := last.trans first.symm
      exact ⟨lane.kept same outbound permits transmitter, by simp⟩
  | @begun begun reply acquired started =>
      obtain ⟨none, publishing⟩ := Lane.begin_publishing lane acquired started
      have nobody : front = [] ∧ back = [] := by
        rw [none] at first
        simpa using first.symm
      obtain ⟨rfl, rfl⟩ := nobody
      refine ⟨?_, ?_⟩
      · rw [ReplyLane, last, transmitter]
        exact publishing
      · intro later same
        cases same
        exact (Publication.started_early started).unserved

theorem stride_lane (lane : before.ReplyLane) (strode : before.stride task = some after) :
    after.ReplyLane := by
  cases standing : before.replyAt? task with
  | some publication =>
      obtain ⟨other, same, still, -⟩ := lane.stride_reply standing
      cases strode.symm.trans same
      exact still
  | none =>
      obtain ⟨middle, moved, ⟨-, rfl⟩ | ⟨later, is, served, -⟩⟩ := stride_invert strode
      · by_cases own : task = .transmitter
        · subst own
          exact stepTransmitter_lane lane moved
        · exact (lane.step_idle moved own standing).1
      · have other : task ≠ .transmitter := standing_task is
        have unserved := (lane.step_idle moved other standing).2 later is
        exact nomatch served.symm.trans unserved

/-! ### The end -/

theorem stopWriter_lane (lane : bridge.ReplyLane) : bridge.stopWriter.ReplyLane := by
  unfold stopWriter
  split
  · next publication naming =>
      rw [ReplyLane, replyPublications, naming, List.append_assoc] at lane
      exact Lane.abandon [] _ lane
  · next awaiting =>
      refine lane.kept ?_ rfl rfl rfl
      simp only [replyPublications, awaiting]
      rfl
  · next other _ =>
      refine lane.kept ?_ rfl rfl rfl
      simp only [replyPublications, Writer.reply?_none other]
      rfl

theorem stopListener_lane (lane : bridge.ReplyLane) : bridge.stopListener.ReplyLane := by
  unfold stopListener
  split
  · next forwarding =>
      refine lane.kept ?_ rfl rfl rfl
      simp only [replyPublications, forwarding]
      rfl
  · next publication replying =>
      rw [ReplyLane, replyPublications, replying] at lane
      have rest := Lane.abandon _ _ lane
      rw [← List.append_nil bridge.writer.reply?.toList] at rest
      exact rest
  · next other =>
      refine lane.kept ?_ rfl rfl rfl
      simp only [replyPublications, Listener.reply?_none other]
      rfl

def dropAll (replies : List OutboundReply) (permits : ReplyPermits) : ReplyPermits :=
  replies.foldl (fun permits reply => permits.modify reply.grant Hold.drop) permits

/-- The transmitter gives back the permit of the reply it is sending, or of the one that is queued. -/
theorem Lane.stop {publications : List (Publication OutboundReply)} {topic : Topic OutboundReply}
    {permits : ReplyPermits} {transmitter : Transmitter}
    (lane : Lane publications topic permits transmitter) :
    Lane publications (topic.close 0)
      (dropAll (topic.items 0) (dropAll transmitter.reply?.toList permits)) .stopped := by
  cases lane with
  | free rests available single =>
      rw [rests, single.items_eq]
      exact .free rfl available single.close
  | publishing publication rests out early single =>
      rw [rests, single.items_eq]
      exact .publishing publication rfl out early single.close
  | queued reply out single =>
      rw [single.items_eq]
      exact .free rfl (out.freed rfl) single.close
  | sending reply ready deadline out single =>
      rw [single.items_eq]
      exact .free rfl (out.freed rfl) single.close

theorem stopTransmitter_footprint (bridge : Bridge) :
    bridge.stopTransmitter = { bridge with
      permits := dropAll (bridge.outbound.items workerSubscriber)
        (dropAll bridge.transmitter.reply?.toList bridge.permits)
      outbound := bridge.outbound.close workerSubscriber
      transmitter := .stopped } := by
  unfold stopTransmitter
  cases bridge.transmitter <;> rfl

theorem stopTransmitter_lane (lane : bridge.ReplyLane) : bridge.stopTransmitter.ReplyLane := by
  rw [stopTransmitter_footprint]
  exact Lane.stop lane

theorem stopIngress_lane (lane : bridge.ReplyLane) : bridge.stopIngress.ReplyLane := by
  obtain ⟨_, _, _, _, same⟩ := stopIngress_footprint bridge
  rw [same]
  exact lane.kept rfl rfl rfl rfl

theorem stopMapper_lane (lane : bridge.ReplyLane) : bridge.stopMapper.ReplyLane := by
  obtain ⟨_, _, _, same⟩ := stopMapper_footprint bridge
  rw [same]
  exact lane.kept rfl rfl rfl rfl

theorem stopHeartbeat_lane (lane : bridge.ReplyLane) : bridge.stopHeartbeat.ReplyLane := by
  obtain ⟨_, _, same⟩ := stopHeartbeat_footprint bridge
  rw [same]
  exact lane.kept rfl rfl rfl rfl

theorem stopEgress_lane (lane : bridge.ReplyLane) : bridge.stopEgress.ReplyLane :=
  lane.kept rfl rfl rfl rfl

theorem stopIntake_lane (lane : bridge.ReplyLane) : bridge.stopIntake.ReplyLane := by
  obtain ⟨_, _, _, same⟩ := stopIntake_footprint bridge
  rw [same]
  exact lane.kept rfl rfl rfl rfl

theorem stopConsumer_lane (lane : bridge.ReplyLane) : bridge.stopConsumer.ReplyLane := by
  obtain ⟨_, _, _, _, _, same⟩ := stopConsumer_footprint bridge
  rw [same]
  exact lane.kept rfl rfl rfl rfl

theorem shutdown_lane (lane : bridge.ReplyLane) : bridge.shutdown.ReplyLane := by
  have cancelled : bridge.cancelStartup.ReplyLane := by
    obtain ⟨commands, startup, same, -⟩ := cancelStartup_footprint bridge
    rw [same]
    exact lane.kept rfl rfl rfl rfl
  have cameraSide := stopListener_lane (stopWriter_lane cancelled)
  have frameSide := stopEgress_lane (stopHeartbeat_lane (stopMapper_lane (stopIngress_lane cameraSide)))
  exact stopTransmitter_lane (stopConsumer_lane (stopIntake_lane frameSide))

/-! ### Calls from outside, and transfers that fail -/

theorem submit_lane (lane : bridge.ReplyLane) (message : Message) :
    (bridge.submit message).ReplyLane := by
  unfold submit
  split
  · next begun =>
      obtain ⟨commands, -, rfl⟩ := beginCommand_invert begun
      refine lane.kept ?_ rfl rfl rfl
      simp [replyPublications, addCall, Call.reply?]
  · refine lane.kept ?_ rfl rfl rfl
    simp [replyPublications, addCall, Call.reply?]

theorem sendLargeReply_lane (lane : bridge.ReplyLane) (channel : Channel) (body : Bytes) :
    (bridge.sendLargeReply channel body).ReplyLane := by
  unfold sendLargeReply
  split
  · next publication after begun =>
      obtain ⟨grant, permits, outbound, acquired, started, rfl⟩ := beginOutbound_invert begun
      obtain ⟨none, publishing⟩ := Lane.begin_publishing lane acquired started
      have whole : ({ bridge with permits, outbound }.addCall
          (.running (.replying publication))).replyPublications =
            bridge.replyPublications ++ [publication] := by
        simp only [replyPublications, addCall, List.filterMap_append, List.append_assoc]
        rfl
      rw [ReplyLane, whole, none]
      exact publishing
  · refine lane.kept ?_ rfl rfl rfl
    simp [replyPublications, addCall, Call.reply?]

theorem act_lane {next : Act} (lane : before.ReplyLane) (outside : ∀ task, next ≠ .move task)
    (acted : before.act next = some after) : after.ReplyLane := by
  cases next with
  | move task => exact absurd rfl (outside task)
  | submit message =>
      cases acted
      exact submit_lane lane message
  | sendLargeReply channel body =>
      cases acted
      exact sendLargeReply_lane lane channel body
  | sendOnBus frame =>
      cases acted
      refine lane.kept ?_ rfl rfl rfl
      simp [replyPublications, sendOnBus, addCall, Call.reply?]
  | readTap subscriber =>
      cases acted
      obtain ⟨canFrames, same⟩ := readTap_footprint subscriber before
      rw [same]
      exact lane.kept rfl rfl rfl rfl
  | shutdown =>
      cases acted
      exact shutdown_lane lane
  | pass | relink | tap | dropTap =>
      cases acted
      exact lane.kept rfl rfl rfl rfl

theorem finishReply_lane {reply : OutboundReply} {ready deadline : Time} (lane : bridge.ReplyLane)
    (sending : bridge.transmitter = .sending reply ready deadline) :
    (bridge.finishReply reply).ReplyLane ∧ (bridge.finishReply reply).permits.available = true := by
  rw [ReplyLane, sending] at lane
  obtain ⟨none, available, single⟩ := lane.finish (fun hold => hold.release.drop) rfl
  refine ⟨?_, available⟩
  rw [ReplyLane]
  have same : (bridge.finishReply reply).replyPublications = bridge.replyPublications := rfl
  rw [same, none]
  exact .free rfl available single

theorem advance_lane (lane : before.ReplyLane) (advance : Advance before after) :
    after.ReplyLane := by
  cases advance with
  | strode task strode => exact stride_lane lane strode
  | acted next outside acted => exact act_lane lane outside acted
  | failed reply ready deadline sending failed =>
      rw [failed]
      exact (finishReply_lane lane sending).1

theorem start_lane (timing : Timing) (queueDepth : Nat) (state : DeviceState) (links : OpenLinks) :
    (start timing queueDepth state links).ReplyLane := by
  have lane : Lane [] (({ name := "isotp-outbound" } : Topic OutboundReply).subscribe queueDepth).2
      {} .listening := .free rfl rfl (.subscribed "isotp-outbound" queueDepth)
  have nobody : (start timing queueDepth state links).replyPublications = [] := by
    obtain ⟨camera, bus⟩ := links
    cases camera <;> rfl
  rw [ReplyLane, nobody]
  exact lane

end Bridge

end CameraBridge
