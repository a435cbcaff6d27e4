import CameraBridge.Proofs.Bridge.Sources

namespace CameraBridge

/-! The queries that follow a connection. What is submitted belongs to the connection that was made
last, as long as that stands: the queries of one connection come in their order, each once at most, and
those of an earlier one are over when the next begins. -/

/-- What is seen of the queries, and of the events that decide about them. -/
inductive QuerySight where
  | connected (moment : Time)
  | disconnected
  /-- A query is submitted as a command, whether or not commands are allowed. -/
  | submitted (query : Message) (moment : Time)
  | queued (query : Message)
  | ended
  deriving DecidableEq

namespace QuerySight

def submission? : QuerySight → Option Message
  | .submitted query _ => some query
  | _ => none

/-- It is about queries, and no event. -/
def IsOfQuery : QuerySight → Prop
  | .submitted .. | .queued _ => True
  | _ => False

end QuerySight

/-- The connection that was made at a moment is the last one and still stands, and these queries were
submitted since. -/
def Round (seen : List QuerySight) (made : Time) (submitted : List Message) : Prop :=
  ∃ earlier since, seen = earlier ++ .connected made :: since ∧
    (∀ sight ∈ since, sight.IsOfQuery) ∧ since.filterMap QuerySight.submission? = submitted

namespace Round

variable {seen : List QuerySight} {made : Time} {submitted : List Message}

theorem begun (seen : List QuerySight) (made : Time) : Round (seen ++ [.connected made]) made [] :=
  ⟨seen, [], rfl, nofun, rfl⟩

theorem snoc (round : Round seen made submitted) {sight : QuerySight} (about : sight.IsOfQuery) :
    Round (seen ++ [sight]) made (submitted ++ sight.submission?.toList) := by
  obtain ⟨earlier, since, rfl, queries, rfl⟩ := round
  refine ⟨earlier, since ++ [sight], by simp, fun other member => ?_,
    filterMap_seen QuerySight.submission? since (some sight)⟩
  rcases List.mem_append.mp member with before | last
  · exact queries other before
  · rw [List.mem_singleton.mp last]
    exact about

theorem submit (round : Round seen made submitted) (query : Message) (moment : Time) :
    Round (seen ++ [.submitted query moment]) made (submitted ++ [query]) :=
  round.snoc trivial

theorem queue (round : Round seen made submitted) (query : Message) :
    Round (seen ++ [.queued query]) made submitted := by
  have queued : Round (seen ++ [.queued query]) made (submitted ++ []) := round.snoc trivial
  rwa [List.append_nil] at queued

end Round

def Startup.publication? : Startup → Option (Publication Message)
  | .publishing publication _ => some publication
  | _ => none

namespace Bridge

theorem startupMessages_listed :
    startupMessages.map (fun message => (message.channel, message.payload)) = startupQueries := by
  decide

theorem startupMessages_nodup : startupMessages.Nodup := by
  decide

/-! ### What is seen of an act -/

variable {before after : Bridge}

/-- The query that the next move of the queries submits. -/
def submits? (bridge : Bridge) : Option Message :=
  match bridge.startup with
  | some (.querying (query :: _)) => some query
  | _ => none

def eventSight? (bridge : Bridge) : Option QuerySight :=
  match bridge.nextEvent? with
  | some .connected => some (.connected bridge.now)
  | some .disconnected => some .disconnected
  | _ => none

def Act.querySight? (next : Act) (before after : Bridge) : Option QuerySight :=
  match next with
  | .move .listener => before.eventSight?
  | .move .startup =>
      match arrival? before.queuedCommands after.queuedCommands with
      | some query => some (.queued query)
      | none => before.submits?.map (.submitted · before.now)
  | .shutdown => some .ended
  | _ => none

/-! ### What an act means for the queries -/

/-- All that an act can be for the queries. -/
inductive QueryTurn (before after : Bridge) : Option QuerySight → Prop where
  | aside (same : after.startup = before.startup) : QueryTurn before after none
  | connected (stands : after.startup =
        some (.sleeping (before.now + before.timing.startupQueryDelay))) :
      QueryTurn before after (some (.connected before.now))
  | disconnected (stands : after.startup = none) : QueryTurn before after (some .disconnected)
  | ended (stands : after.startup = none) : QueryTurn before after (some .ended)
  | woken {moment : Time} (slept : before.startup = some (.sleeping moment))
      (due : moment ≤ before.now) (stands : after.startup = some (.querying startupMessages)) :
      QueryTurn before after none
  | exhausted (last : before.startup = some (.querying [])) (stands : after.startup = none) :
      QueryTurn before after none
  | rejected {query : Message} {rest : List Message}
      (due : before.startup = some (.querying (query :: rest)))
      (stands : after.startup = some (.querying rest)) :
      QueryTurn before after (some (.submitted query before.now))
  | begun {query : Message} {rest : List Message} {publication : Publication Message}
      (due : before.startup = some (.querying (query :: rest)))
      (started : Publication.start before.now before.timing.publishTimeout query before.commands =
        (publication, after.commands))
      (stands : after.startup = some (.publishing publication rest)) :
      QueryTurn before after (some (.submitted query before.now))
  | published {publication : Publication Message} {rest : List Message} {progress : Progress Message}
      (waited : before.startup = some (.publishing publication rest))
      (stepped : publication.step before.now before.commands = some (after.commands, progress))
      (stands : after.startup = some (Startup.onward rest progress)) :
      QueryTurn before after
        ((arrival? before.queuedCommands after.queuedCommands).map .queued)

theorem onEvent_queryTurn {first : Bridge} (event : CameraEvent)
    (taken : first.nextEvent? = some event) (camera : Camera) :
    QueryTurn first ({ first with camera }.onEvent event) first.eventSight? := by
  unfold eventSight?
  rw [taken]
  cases event with
  | connected => exact .connected rfl
  | disconnected => exact .disconnected rfl
  | advertisement status name => cases name <;> exact .aside rfl
  | subscribed | unsubscribed | writeComplete | authFailed => exact .aside rfl
  | notification channel data =>
      obtain ⟨_, _, _, _, _, _, same⟩ := onNotification_footprint channel data { first with camera }
      refine .aside ?_
      rw [onEvent, same]

theorem stepListener_queryTurn (moved : before.stepListener = some after) :
    QueryTurn before after before.eventSight? := by
  unfold stepListener at moved
  split at moved
  · next silence listening =>
      split at moved
      · next event rest unread =>
          cases moved
          exact onEvent_queryTurn event (by simp only [nextEvent?, listening, unread]) _
      · next unread =>
          have nothing : before.eventSight? = none := by
            simp only [eventSight?, nextEvent?, listening, unread]
          rw [nothing]
          split at moved
          · simp only [Option.ite_none_left_eq_some, Option.some.injEq] at moved
            obtain ⟨-, rfl⟩ := moved
            obtain ⟨_, _, _, same⟩ := onSilence_footprint before
            exact .aside (by rw [same])
          · cases moved
  · next channel data publication forwarding =>
      have nothing : before.eventSight? = none := by simp only [eventSight?, nextEvent?, forwarding]
      rw [nothing]
      split at moved
      · cases moved
      · next stepped =>
          cases moved
          obtain ⟨replies, rfl⟩ := stepReply_footprint stepped
          exact .aside rfl
      · next stepped =>
          cases moved
          obtain ⟨replies, rfl⟩ := stepReply_footprint stepped
          obtain ⟨_, _, _, _, _, same⟩ :=
            gatherNotification_footprint channel data { before with replies }
          exact .aside (by rw [same])
  · next publication replying =>
      have nothing : before.eventSight? = none := by simp only [eventSight?, nextEvent?, replying]
      rw [nothing]
      split at moved
      · cases moved
      all_goals
        next stepped =>
          cases moved
          obtain ⟨outbound, -, rfl⟩ := stepOutbound_invert stepped
          exact .aside rfl
  · cases moved

theorem StartupStep.queryTurn (moves : StartupStep before after) :
    QueryTurn before after ((Act.move .startup).querySight? before after) := by
  -- What puts nothing into the queue is seen as a submission or not at all.
  have seen : after.queuedCommands = before.queuedCommands →
      (Act.move .startup).querySight? before after =
        before.submits?.map (.submitted · before.now) := by
    intro same
    simp only [Act.querySight?, arrival?_none (congrArg List.length same).le]
  have queued : before.submits? = none → (Act.move .startup).querySight? before after =
      (arrival? before.queuedCommands after.queuedCommands).map .queued := by
    intro nothing
    rw [Act.querySight?, nothing]
    cases arrival? before.queuedCommands after.queuedCommands <;> rfl
  cases moves with
  | woken slept due =>
      rw [seen rfl, submits?, slept]
      exact .woken slept due rfl
  | exhausted last =>
      rw [seen rfl, submits?, last]
      exact .exhausted last rfl
  | rejected due denied =>
      rw [seen rfl, submits?, due]
      exact .rejected due rfl
  | begun due allowed started =>
      have unfed := Topic.items_congr (Topic.enter_queues before.commands) workerSubscriber
      rw [Publication.started_enter started] at unfed
      rw [seen unfed, submits?, due]
      exact .begun due started rfl
  | published waited stepped =>
      rw [queued (by rw [submits?, waited])]
      exact .published waited stepped rfl

theorem act_queryTurn {next : Act} (acted : before.act next = some after) :
    QueryTurn before after (next.querySight? before after) := by
  by_cases ends : next = .shutdown
  · subst ends
    cases acted
    exact .ended (shutdown_ended before).startup
  by_cases listens : next = .move .listener
  · subst listens
    exact stepListener_queryTurn acted
  by_cases queries : next = .move .startup
  · subst queries
    exact (stepStartup_invert acted).queryTurn
  · have unseen : next.querySight? before after = none := by
      cases next with
      | move task => cases task <;> first | rfl | contradiction
      | shutdown => contradiction
      | _ => rfl
    rw [unseen]
    exact .aside ((act_sourcesKept acted ends).startup listens queries)

/-! ### How far the queries of a connection have come -/

/-- Where the queries stand, by what was seen. A query that waits for its queue was submitted just
before. -/
inductive Underway (delay : Time) (seen : List QuerySight) (now : Time) : Option Startup → Prop where
  | idle : Underway delay seen now none
  | asleep {made : Time} (round : Round seen made []) :
      Underway delay seen now (some (.sleeping (made + delay)))
  | querying {made : Time} {submitted rest : List Message} (round : Round seen made submitted)
      (late : made + delay ≤ now) (whole : submitted ++ rest = startupMessages) :
      Underway delay seen now (some (.querying rest))
  | publishing {made : Time} {submitted rest : List Message} {publication : Publication Message}
      (round : Round seen made submitted) (late : made + delay ≤ now)
      (whole : submitted ++ rest = startupMessages) (once : publication.remaining.Nodup)
      (owed : ∀ query, publication.owed workerSubscriber = some query →
        ∃ earlier moment, seen = earlier ++ [.submitted query moment]) :
      Underway delay seen now (some (.publishing publication rest))

variable {delay now : Time} {seen : List QuerySight} {startup : Option Startup}

theorem Underway.later (underway : Underway delay seen now startup) {moment : Time}
    (later : now ≤ moment) : Underway delay seen moment startup := by
  cases underway with
  | idle => exact .idle
  | asleep round => exact .asleep round
  | querying round late whole => exact .querying round (Nat.le_trans late later) whole
  | publishing round late whole once owed =>
      exact .publishing round (Nat.le_trans late later) whole once owed

/-- A query that waits for its queue comes there once, right after it was submitted. -/
theorem Underway.publish {publication : Publication Message} {rest : List Message}
    {progress : Progress Message} {topic later : Topic Message} {moment : Time}
    (enrolled : topic.Enrolled)
    (underway : Underway delay seen now (some (.publishing publication rest)))
    (stepped : publication.step moment topic = some (later, progress)) :
    ∃ arrival : Option Message,
      later.items workerSubscriber = topic.items workerSubscriber ++ arrival.toList ∧
      (∀ query, arrival = some query →
        ∃ earlier moment, seen = earlier ++ [.submitted query moment]) ∧
      Underway delay (seen ++ (arrival.map QuerySight.queued).toList) now
        (some (Startup.onward rest progress)) := by
  cases underway with
  | @publishing made submitted _ _ round late whole once owed =>
      obtain ⟨arrival, items, paid, -⟩ := Publication.step_paid once stepped
      refine ⟨arrival, items, fun query arrives => owed query (paid.arrived query arrives).1, ?_⟩
      have still : Round (seen ++ (arrival.map QuerySight.queued).toList) made submitted := by
        cases arrival with
        | none => simpa using round
        | some query => exact round.queue query
      cases progress with
      | finished result => exact .querying still late whole
      | going onward delivered =>
          refine .publishing still late whole
            (Publication.step_remaining enrolled once stepped) fun query owes => ?_
          cases arrival with
          | none => simpa using owed query (paid.kept query owes)
          | some message => cases (paid.arrived message rfl).2.symm.trans owes

theorem Underway.turn {sight : Option QuerySight} (underway : Underway delay seen now before.startup)
    (moment : now = before.now) (timing : before.timing.startupQueryDelay = delay)
    (enrolled : before.startup ≠ none → before.commands.Enrolled)
    (turn : QueryTurn before after sight) :
    Underway delay (seen ++ sight.toList) now after.startup := by
  subst moment
  cases turn with
  | aside same => simpa [same] using underway
  | connected stands =>
      rw [stands, timing]
      exact .asleep (.begun seen before.now)
  | disconnected stands | ended stands | exhausted _ stands =>
      rw [stands]
      exact .idle
  | woken slept due stands =>
      rw [slept] at underway
      cases underway with
      | asleep round =>
          rw [stands, Option.toList_none, List.append_nil]
          exact .querying round due rfl
  | rejected asked stands =>
      rw [asked] at underway
      cases underway with
      | querying round late whole =>
          rw [stands]
          exact .querying (round.submit _ _) late (by simpa using whole)
  | begun asked started stands =>
      rw [asked] at underway
      cases underway with
      | querying round late whole =>
          rw [stands]
          refine .publishing (round.submit _ _) late (by simpa using whole)
            (Publication.started_remaining started) fun query owes => ?_
          rw [Publication.started_owed started, Option.some.injEq] at owes
          exact ⟨seen, before.now, by rw [owes]; rfl⟩
  | published waited stepped stands =>
      have known := enrolled (by simp [waited])
      rw [waited] at underway
      obtain ⟨arrival, items, -, onward⟩ := underway.publish known stepped
      rw [stands, queuedCommands, queuedCommands, items, arrival?_append]
      exact onward

/-- All that is known of the queries while the bridge runs. -/
structure Asking (delay : Time) (seen : List QuerySight) (bridge : Bridge) : Prop where
  standing : bridge.Staffed ∨ bridge.Ended
  timing : bridge.timing.startupQueryDelay = delay
  underway : Underway delay seen bridge.now bridge.startup

theorem Asking.enrolled (asking : Asking delay seen before) (busy : before.startup ≠ none) :
    before.commands.Enrolled := by
  obtain staffed | ended := asking.standing
  · exact staffed.commands.enrolled
  · exact absurd ended.startup busy

theorem Asking.act {next : Act} (asking : Asking delay seen before)
    (acted : before.act next = some after) :
    Asking delay (seen ++ (next.querySight? before after).toList) after := by
  obtain ⟨later, timing⟩ := act_clock acted
  refine ⟨act_staffed_or_ended asking.standing acted, timing ▸ asking.timing, ?_⟩
  exact (asking.underway.turn rfl asking.timing asking.enrolled (act_queryTurn acted)).later later

theorem start_asking (timing : Timing) (queueDepth : Nat) (state : DeviceState) (links : OpenLinks) :
    Asking timing.startupQueryDelay [] (start timing queueDepth state links) where
  standing := .inl (.start timing queueDepth state links)
  timing := rfl
  underway := .idle

variable {timing : Timing} {queueDepth : Nat} {state : DeviceState} {links : OpenLinks}
  {acts : List Act} {sights : List QuerySight} {last : Bridge}

theorem watch_asking
    (watched : (start timing queueDepth state links).watch Act.querySight? acts =
      some (sights, last)) :
    Asking timing.startupQueryDelay sights last :=
  watch_history (Asking timing.startupQueryDelay)
    (fun _ _ _ _ asking acted => asking.act acted)
    (start_asking timing queueDepth state links) watched

/-! ### What is submitted -/

theorem QueryTurn.submitted {query : Message} {moment : Time}
    (turn : QueryTurn before after (some (.submitted query moment))) :
    moment = before.now ∧ ∃ rest, before.startup = some (.querying (query :: rest)) := by
  generalize shown : some (QuerySight.submitted query moment) = sight at turn
  cases turn with
  | rejected due | begun due =>
      cases shown
      exact ⟨rfl, _, due⟩
  | published =>
      obtain ⟨other, -, same⟩ := Option.map_eq_some_iff.mp shown.symm
      cases same
  | _ => cases shown

theorem QueryTurn.queued {query : Message}
    (turn : QueryTurn before after (some (.queued query))) :
    arrival? before.queuedCommands after.queuedCommands = some query ∧
      ∃ publication rest progress, before.startup = some (.publishing publication rest) ∧
        publication.step before.now before.commands = some (after.commands, progress) := by
  generalize shown : some (QuerySight.queued query) = sight at turn
  cases turn with
  | published waited stepped =>
      obtain ⟨other, arrived, same⟩ := Option.map_eq_some_iff.mp shown.symm
      cases same
      exact ⟨arrived, _, _, _, waited, stepped⟩
  | _ => cases shown

/-- What a move of the queries begins to publish is the query that it submits, if that is allowed. -/
theorem stepStartup_begins (moved : before.stepStartup = some after) :
    before.commands.begun after.commands (after.startup.bind Startup.publication?) =
      (before.submits?.filter (·.isAllowed before.device)).toList.map some := by
  cases stepStartup_invert moved with
  | woken slept =>
      rw [submits?, slept]
      exact Topic.begun_self _ _
  | exhausted last =>
      rw [submits?, last]
      exact Topic.begun_self _ _
  | rejected due denied =>
      rw [submits?, due, Option.filter_some, if_neg (by simp [denied])]
      exact Topic.begun_self _ _
  | begun due allowed started =>
      rw [submits?, due, Option.filter_some, if_pos allowed]
      exact Publication.begun_started started
  | published waited stepped =>
      rw [submits?, waited]
      exact Publication.begun_stepped stepped _

/-- Whatever happens to a bridge and in whatever order, a query is submitted only for the connection
that was made last, if that was not ended since, and not before the delay has passed. For one
connection the queries are submitted in their order, each once at most. A query comes to its queue
right after it was submitted, or never. Nothing but what is seen to be submitted is begun to be
published. -/
theorem queries_of_standing_connection
    (watched : (start timing queueDepth state links).watch Act.querySight? acts =
      some (sights, last)) :
    (∀ before query moment after, sights = before ++ .submitted query moment :: after →
      ∃ earlier made since, before = earlier ++ .connected made :: since ∧
        (∀ sight ∈ since, sight.IsOfQuery) ∧ made + timing.startupQueryDelay ≤ moment ∧
        (since.filterMap QuerySight.submission? ++ [query]).Nodup ∧
        (since.filterMap QuerySight.submission? ++ [query]).map
          (fun message => (message.channel, message.payload)) <+: startupQueries) ∧
    (∀ before query after, sights = before ++ .queued query :: after →
      ∃ earlier moment, before = earlier ++ [.submitted query moment]) ∧
    ∀ after, last.act (.move .startup) = some after →
      last.commands.begun after.commands (after.startup.bind Startup.publication?) =
        (last.submits?.filter (·.isAllowed last.device)).toList.map some := by
  refine ⟨?_, ?_, fun after moved => stepStartup_begins moved⟩
  · rintro before query moment after rfl
    obtain ⟨acts, next, later, middle, between, rfl, reached, acted, seen, -⟩ := watch_split watched
    have turn := act_queryTurn acted
    rw [seen] at turn
    obtain ⟨rfl, rest, asked⟩ := turn.submitted
    have underway := (watch_asking reached).underway
    rw [asked] at underway
    cases underway with
    | querying round late whole =>
        obtain ⟨earlier, since, rfl, queries, rfl⟩ := round
        have listed : since.filterMap QuerySight.submission? ++ [query] <+: startupMessages :=
          ⟨rest, by simpa using whole⟩
        refine ⟨earlier, _, since, rfl, queries, late,
          startupMessages_nodup.sublist listed.sublist, ?_⟩
        rw [← startupMessages_listed]
        exact listed.map _
  · rintro before query after rfl
    obtain ⟨acts, next, later, middle, between, rfl, reached, acted, seen, -⟩ := watch_split watched
    have turn := act_queryTurn acted
    rw [seen] at turn
    obtain ⟨arrived, publication, rest, progress, waited, stepped⟩ := turn.queued
    have asking := watch_asking reached
    have underway := asking.underway
    rw [waited] at underway
    obtain ⟨arrival, items, followed, -⟩ :=
      underway.publish (asking.enrolled (by simp [waited])) stepped
    rw [queuedCommands, queuedCommands, items, arrival?_append] at arrived
    exact followed query arrived

/-- A connection is lost while its first query waits to be queued, and is made again. -/
def connectTwice : List Act :=
  [.relink { events := { unread := [.connected, .disconnected, .connected] } } {} {} {},
    .move .listener, .pass 1000, .move .startup, .move .startup, .move .listener, .move .listener,
    .pass 1000, .move .startup, .move .startup, .move .startup, .move .startup]

def firstQuery : Message :=
  ⟨.query, [0x04, StatusQuery.register, StatusValue.recordingId, StatusValue.videoCountId,
    StatusValue.batteryId], by decide⟩

theorem watch_connectTwice :
    ((start {} 8 {} {}).watch Act.querySight? connectTwice).map Prod.fst =
      some [.connected 0, .submitted firstQuery 1000, .disconnected, .connected 1000,
        .submitted firstQuery 2000, .queued firstQuery] := by
  decide +kernel

/-- The query is submitted again, for the second connection, and queued this time. -/
theorem queries_of_standing_connection_made_again : ∃ sights last,
    (start {} 8 {} {}).watch Act.querySight? connectTwice = some (sights, last) ∧
      sights = [.connected 0, .submitted firstQuery 1000, .disconnected, .connected 1000,
        .submitted firstQuery 2000, .queued firstQuery] ∧
      (∃ earlier made since, sights.take 4 = earlier ++ .connected made :: since ∧
        (∀ sight ∈ since, sight.IsOfQuery) ∧ made + 1000 ≤ 2000) ∧
      ∃ earlier moment, sights.take 5 = earlier ++ [.submitted firstQuery moment] := by
  obtain ⟨⟨sights, last⟩, watched, seen⟩ := Option.map_eq_some_iff.mp watch_connectTwice
  obtain ⟨submitted, queued, -⟩ := queries_of_standing_connection watched
  simp only at seen
  subst seen
  refine ⟨_, last, watched, rfl, ?_, ?_⟩
  · obtain ⟨earlier, made, since, whole, queries, late, -⟩ :=
      submitted [_, _, _, _] firstQuery 2000 [_] rfl
    exact ⟨earlier, made, since, whole, queries, late⟩
  · exact queued [_, _, _, _, _] firstQuery [] rfl

end Bridge

end CameraBridge
