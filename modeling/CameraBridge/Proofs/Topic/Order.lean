import Mathlib.Data.List.Nodup
import Mathlib.Data.List.Perm.Basic
import Mathlib.Tactic.Tauto
import CameraBridge.Proofs.Topic.Custody

namespace CameraBridge

/-! The order lock gives all queues of a topic one order. Whoever delivers holds the lock, and it
passes each subscriber once. So each queue gets its messages in the order in which the lock came to
the calls that published them. -/

variable {Content : Type}

namespace TopicSession

variable {session after : TopicSession Content} {seen : Option (Sight Content)}
  {sights : List (Sight Content)} {call : Nat} {publication later : Publication Content}
  {topic : Topic Content} {result : Except PublishError Unit}

/-- The calls whose messages ever came to a subscriber's queue, oldest first. -/
def callers (subscriber : Nat) (sights : List (Sight Content)) : List Nat :=
  (arrivals subscriber sights).map Prod.fst

theorem admittances_seen (sights : List (Sight Content)) (seen : Option (Sight Content)) :
    admittances (sights ++ seen.toList) =
      admittances sights ++ (seen.bind Sight.admitted?).toList :=
  filterMap_seen Sight.admitted? sights seen

theorem callers_seen (subscriber : Nat) (sights : List (Sight Content))
    (seen : Option (Sight Content)) :
    callers subscriber (sights ++ seen.toList) =
      callers subscriber sights ++
        ((seen.bind (Sight.arrival? subscriber)).map Prod.fst).toList := by
  rw [callers, arrivals, filterMap_seen, List.map_append, Option.toList_map]
  rfl

/-- A sight that is neither of the lock nor of a message leaves all orders as they are. -/
def Plain (seen : Option (Sight Content)) : Prop :=
  ∀ sight, seen = some sight → sight.admitted? = none ∧ ∀ subscriber, sight.arrival? subscriber = none

theorem Plain.admittances_eq (plain : Plain seen) :
    admittances (sights ++ seen.toList) = admittances sights := by
  rw [admittances_seen]
  cases seen with
  | none => simp
  | some sight => simp [(plain sight rfl).1]

theorem Plain.callers_eq (plain : Plain seen) (subscriber : Nat) :
    callers subscriber (sights ++ seen.toList) = callers subscriber sights := by
  rw [callers_seen]
  cases seen with
  | none => simp
  | some sight => simp [(plain sight rfl).2 subscriber]

theorem plain_none : Plain (none : Option (Sight Content)) := fun _ => nofun

/-- Every queue follows the order of the lock. -/
structure Ranked (sights : List (Sight Content)) (session : TopicSession Content) : Prop where
  nodup : (admittances sights).Nodup
  known : ∀ call ∈ admittances sights, call < session.calls.length
  unadmitted : ∀ call publication, Runs session.calls call publication →
    publication.hasBegun = false → call ∉ admittances sights
  newest : ∀ call publication, Runs session.calls call publication →
    publication.hasBegun = true → ∃ earlier, admittances sights = earlier ++ [call]
  follows : ∀ subscriber, (callers subscriber sights).Sublist (admittances sights)
  /-- No queue that a call has still to pass holds its message already. -/
  due : ∀ call publication, Runs session.calls call publication → publication.remaining.Nodup ∧
    ∀ subscriber ∈ publication.remaining, call ∉ callers subscriber sights

/-- Nothing was admitted and nothing came to a queue, and every call is where it was, or it has passed
some subscribers, or it is a new one that waits. -/
theorem Ranked.plain (ranked : Ranked sights session) (plain : Plain seen)
    (more : session.calls.length ≤ after.calls.length)
    (origin : ∀ call publication, Runs after.calls call publication →
      (∃ was, Runs session.calls call was ∧ publication.hasBegun = was.hasBegun ∧
        publication.remaining.Sublist was.remaining) ∨
      publication.hasBegun = false ∧ publication.remaining = [] ∧ session.calls.length ≤ call) :
    Ranked (sights ++ seen.toList) after := by
  constructor
  · rw [plain.admittances_eq]
    exact ranked.nodup
  · rw [plain.admittances_eq]
    intro call member
    exact Nat.lt_of_lt_of_le (ranked.known call member) more
  · rw [plain.admittances_eq]
    intro call publication running waits
    obtain ⟨was, older, same, -⟩ | ⟨-, -, new⟩ := origin call publication running
    · exact ranked.unadmitted call was older (same ▸ waits)
    · intro member
      have known := ranked.known call member
      omega
  · rw [plain.admittances_eq]
    intro call publication running begun
    obtain ⟨was, older, same, -⟩ | ⟨waits, -, -⟩ := origin call publication running
    · exact ranked.newest call was older (same ▸ begun)
    · rw [waits] at begun
      cases begun
  · rw [plain.admittances_eq]
    intro subscriber
    rw [plain.callers_eq]
    exact ranked.follows subscriber
  · intro call publication running
    obtain ⟨was, older, -, fewer⟩ | ⟨-, none, -⟩ := origin call publication running
    · obtain ⟨nodup, absent⟩ := ranked.due call was older
      refine ⟨nodup.sublist fewer, ?_⟩
      intro subscriber member
      rw [plain.callers_eq]
      exact absent subscriber (fewer.subset member)
    · rw [none]
      exact ⟨List.nodup_nil, fun subscriber member => nomatch member⟩

theorem Ranked.elsewhere (ranked : Ranked sights session) (plain : Plain seen)
    (calls : after.calls = session.calls) : Ranked (sights ++ seen.toList) after := by
  apply ranked.plain plain (Nat.le_of_eq (by rw [calls]))
  intro call publication running
  exact .inl ⟨publication, calls ▸ running, rfl, .refl _⟩

theorem Ranked.going (ranked : Ranked sights session) (plain : Plain seen)
    (own : Runs session.calls call publication) (begun : later.hasBegun = publication.hasBegun)
    (fewer : later.remaining.Sublist publication.remaining) :
    Ranked (sights ++ seen.toList)
      { session with topic, calls := session.calls.set call (.running later) } := by
  apply ranked.plain plain (by simp)
  intro other next running
  obtain ⟨rfl, rfl⟩ | ⟨-, older⟩ := own.going running
  · exact .inl ⟨publication, own, begun, fewer⟩
  · exact .inl ⟨next, older, rfl, .refl _⟩

theorem Ranked.finished (ranked : Ranked sights session) (plain : Plain seen)
    (own : Runs session.calls call publication) :
    Ranked (sights ++ seen.toList)
      { session with topic, calls := session.calls.set call (.finished result) } := by
  apply ranked.plain plain (by simp)
  intro other next running
  exact .inl ⟨next, (own.finished running).2, rfl, .refl _⟩

/-- The lock comes to a call that is in no queue yet, and it is the last one in the order. -/
theorem Ranked.admitted (ranked : Ranked sights session) (locked : session.Locked)
    (enrolled : session.topic.Enrolled) (own : Runs session.calls call publication)
    (waits : publication.hasBegun = false)
    (turn : session.topic.holder = some publication.ticket)
    (begun : later.hasBegun = true) (remaining : later.remaining = session.topic.live) :
    Ranked (sights ++ [.admitted call])
      { session with calls := session.calls.set call (.running later) } := by
  have order : admittances (sights ++ [.admitted call]) = admittances sights ++ [call] :=
    admittances_seen sights (some (.admitted call))
  have queues : ∀ subscriber, callers subscriber (sights ++ [.admitted call]) =
      callers subscriber sights := by
    intro subscriber
    exact (callers_seen subscriber sights (some (.admitted call))).trans (List.append_nil _)
  have fresh := ranked.unadmitted call publication own waits
  have alone : ∀ other next, other ≠ call → Runs session.calls other next →
      next.hasBegun = false := by
    intro other next different running
    cases moves : next.hasBegun with
    | false => rfl
    | true => exact absurd (locked.alone own turn running moves) different
  constructor
  · rw [order, List.nodup_append]
    refine ⟨ranked.nodup, by simp, ?_⟩
    intro earlier member last found
    rw [List.mem_singleton.mp found]
    exact fun same => fresh (same ▸ member)
  · rw [order]
    intro other member
    rw [List.length_set]
    rcases List.mem_append.mp member with older | new
    · exact ranked.known other older
    · exact List.mem_singleton.mp new ▸ own.within
  · rw [order]
    intro other next running still
    obtain ⟨rfl, rfl⟩ | ⟨different, older⟩ := own.going running
    · rw [begun] at still
      cases still
    · rw [List.mem_append, List.mem_singleton, not_or]
      exact ⟨ranked.unadmitted other next older still, different⟩
  · rw [order]
    intro other next running moves
    obtain ⟨rfl, rfl⟩ | ⟨different, older⟩ := own.going running
    · exact ⟨admittances sights, rfl⟩
    · rw [alone other next different older] at moves
      cases moves
  · rw [order]
    intro subscriber
    rw [queues]
    exact (ranked.follows subscriber).trans (List.sublist_append_left _ _)
  · intro other next running
    obtain ⟨rfl, rfl⟩ | ⟨-, older⟩ := own.going running
    · rw [remaining]
      refine ⟨enrolled.nodup, ?_⟩
      intro subscriber _ member
      rw [queues] at member
      exact fresh ((ranked.follows subscriber).subset member)
    · obtain ⟨nodup, absent⟩ := ranked.due other next older
      refine ⟨nodup, ?_⟩
      intro subscriber member
      rw [queues]
      exact absent subscriber member

/-- The last one in the order puts its message at the end of a queue that does not hold it yet. -/
theorem Ranked.delivered (ranked : Ranked sights session) {target : Nat} {rest : List Nat}
    (own : Runs session.calls call publication) (begun : publication.hasBegun = true)
    (remaining : publication.remaining = target :: rest) (still : later.hasBegun = true)
    (left : later.remaining = rest) (message : Content) :
    Ranked (sights ++ [.arrived target call message])
      { session with topic, calls := session.calls.set call (.running later) } := by
  have order : admittances (sights ++ [.arrived target call message]) = admittances sights :=
    (admittances_seen sights (some (.arrived target call message))).trans (List.append_nil _)
  have queues : ∀ subscriber, callers subscriber (sights ++ [.arrived target call message]) =
      callers subscriber sights ++ if target = subscriber then [call] else [] := by
    intro subscriber
    apply (callers_seen subscriber sights (some (.arrived target call message))).trans
    by_cases same : target = subscriber <;> simp [Sight.arrival?, same]
  obtain ⟨earlier, last⟩ := ranked.newest call publication own begun
  obtain ⟨nodup, absent⟩ := ranked.due call publication own
  rw [remaining] at nodup absent
  constructor
  · rw [order]
    exact ranked.nodup
  · rw [order]
    intro other member
    rw [List.length_set]
    exact ranked.known other member
  · rw [order]
    intro other next running waits
    obtain ⟨rfl, rfl⟩ | ⟨-, older⟩ := own.going running
    · rw [still] at waits
      cases waits
    · exact ranked.unadmitted other next older waits
  · rw [order]
    intro other next running moves
    obtain ⟨rfl, rfl⟩ | ⟨-, older⟩ := own.going running
    · exact ⟨earlier, last⟩
    · exact ranked.newest other next older moves
  · rw [order]
    intro subscriber
    rw [queues]
    by_cases same : target = subscriber
    · subst same
      -- without the last call in it, the queue follows the order up to that call
      have before : (callers target sights).Sublist earlier := by
        have follows := ranked.follows target
        rw [last, List.sublist_append_iff] at follows
        obtain ⟨front, rear, split, ordered, ending⟩ := follows
        rcases List.sublist_singleton.mp ending with rfl | rfl
        · rw [split, List.append_nil]
          exact ordered
        · exact absurd (split ▸ List.mem_append_right front List.mem_cons_self)
            (absent target List.mem_cons_self)
      rw [if_pos rfl, last]
      exact before.append (.refl _)
    · rw [if_neg same, List.append_nil]
      exact ranked.follows subscriber
  · intro other next running
    obtain ⟨rfl, rfl⟩ | ⟨different, older⟩ := own.going running
    · rw [left]
      refine ⟨(List.nodup_cons.mp nodup).2, ?_⟩
      intro subscriber member
      have passed : target ≠ subscriber := by
        rintro rfl
        exact (List.nodup_cons.mp nodup).1 member
      rw [queues, if_neg passed, List.append_nil]
      exact absent subscriber (List.mem_cons_of_mem target member)
    · obtain ⟨apart, unheld⟩ := ranked.due other next older
      refine ⟨apart, ?_⟩
      intro subscriber member
      rw [queues, List.mem_append, not_or]
      refine ⟨unheld subscriber member, ?_⟩
      split
      · exact fun same => different (List.mem_singleton.mp same)
      · exact List.not_mem_nil

theorem Turn.ranked (turn : Turn session seen after) (locked : session.Locked)
    (enrolled : session.topic.Enrolled) (ranked : Ranked sights session) :
    Ranked (sights ++ seen.toList) after := by
  cases turn with
  | subscribed | waited => exact ranked.elsewhere plain_none rfl
  | taken | left => exact ranked.elsewhere (by simp [Plain, Sight.admitted?, Sight.arrival?]) rfl
  | rejected =>
      apply ranked.plain (by simp [Plain, Sight.admitted?, Sight.arrival?]) (by simp)
      intro other next running
      exact .inl ⟨next, runs_refused running, rfl, .refl _⟩
  | entered =>
      apply ranked.plain (by simp [Plain, Sight.admitted?, Sight.arrival?]) (by simp)
      intro other next running
      obtain older | ⟨rfl, new⟩ := runs_added running
      · exact .inl ⟨next, older, rfl, .refl _⟩
      · cases new
        exact .inr ⟨rfl, rfl, Nat.le_refl _⟩
  | admitted own ordering turn =>
      exact ranked.admitted locked enrolled own (Publication.hasBegun_ordering ordering) turn rfl rfl
  | late own | concluded own =>
      exact ranked.finished (by simp [Plain, Sight.admitted?, Sight.arrival?]) own
  | closed own delivering | full own delivering =>
      apply ranked.going plain_none own
      · rw [Publication.hasBegun_delivering delivering]
        rfl
      · rw [Publication.remaining_delivering delivering]
        exact List.sublist_cons_self _ _
  | delivered own delivering =>
      exact ranked.delivered own (Publication.hasBegun_delivering delivering)
        (Publication.remaining_delivering delivering) rfl rfl _

/-! ### Calls that never had the lock -/

/-- A call that was rejected, or that returned before it had the lock, is not in the order. -/
structure TurnedAway (sights : List (Sight Content)) (session : TopicSession Content) : Prop where
  rejected : ∀ call name,
    session.calls[call]? = some (.finished (.error (PublishError.rejected name))) →
      call ∉ admittances sights
  late : ∀ call result, .returned call false result ∈ sights → call ∉ admittances sights ∧
    session.calls[call]? = some (.finished result) ∧ ∃ name, result = .error (.timeout name)
  failures : ∀ call publication name, Runs session.calls call publication →
    publication.failure? ≠ some (PublishError.rejected name)

theorem Runs.unfinished {calls : Calls Content} (own : Runs calls call publication) {other : Nat}
    (ended : calls[other]? = some (.finished result)) : call ≠ other := by
  rintro rfl
  rw [own] at ended
  cases ended

/-- What a call returned stays as it is. -/
theorem Turn.ended (turn : Turn session seen after)
    (ended : session.calls[call]? = some (.finished result)) :
    after.calls[call]? = some (.finished result) := by
  have within : call < session.calls.length := (List.getElem?_eq_some_iff.mp ended).1
  cases turn with
  | subscribed | taken | left | waited => exact ended
  | rejected | entered => rwa [List.getElem?_append_left within]
  | admitted own | late own | closed own | full own | delivered own | concluded own =>
      rwa [List.getElem?_set_ne (Runs.unfinished own ended)]

/-- What a call returned is what a turn shows of it, unless it was rejected at once. -/
theorem Turn.ended_origin (turn : Turn session seen after)
    (ended : after.calls[call]? = some (.finished result)) :
    session.calls[call]? = some (.finished result) ∨ session.calls.length ≤ call ∨
      ∃ begun, seen = some (.returned call begun result) := by
  have grown : ∀ state, (session.calls ++ [state])[call]? = some (.finished result) →
      session.calls[call]? = some (.finished result) ∨ session.calls.length ≤ call := by
    intro state later
    by_cases older : call < session.calls.length
    · rw [List.getElem?_append_left older] at later
      exact .inl later
    · exact .inr (Nat.le_of_not_lt older)
  have going : ∀ number later, (session.calls.set number (.running later))[call]? =
      some (.finished result) → session.calls[call]? = some (.finished result) := by
    intro number later changed
    rw [List.getElem?_set] at changed
    split at changed
    · split at changed <;> cases changed
    · exact changed
  have returned : ∀ number outcome, (session.calls.set number (.finished outcome))[call]? =
      some (.finished result) →
        session.calls[call]? = some (.finished result) ∨ number = call ∧ outcome = result := by
    intro number outcome changed
    rw [List.getElem?_set] at changed
    split at changed
    · next same =>
        split at changed <;> cases changed
        exact .inr ⟨same, rfl⟩
    · exact .inl changed
  cases turn with
  | subscribed | taken | left | waited => exact .inl ended
  | rejected | entered =>
      obtain older | new := grown _ ended
      · exact .inl older
      · exact .inr (.inl new)
  | admitted | closed | full | delivered => exact .inl (going _ _ ended)
  | late | concluded =>
      obtain older | ⟨rfl, rfl⟩ := returned _ _ ended
      · exact .inl older
      · exact .inr (.inr ⟨_, rfl⟩)

/-- Only a call that waits gets the lock. -/
theorem Turn.admitted_runs (turn : Turn session seen after)
    (admitted : seen.bind Sight.admitted? = some call) :
    ∃ publication, Runs session.calls call publication := by
  cases turn with
  | subscribed | closed | full | waited => cases admitted
  | rejected | entered | late | delivered | concluded | taken | left => cases admitted
  | admitted own =>
      cases admitted
      exact ⟨_, own⟩

theorem Turn.failures (turn : Turn session seen after)
    (failures : ∀ call publication name, Runs session.calls call publication →
      publication.failure? ≠ some (PublishError.rejected name)) :
    ∀ call publication name, Runs after.calls call publication →
      publication.failure? ≠ some (PublishError.rejected name) := by
  intro other next name running
  cases turn with
  | subscribed | taken | left | waited => exact failures other next name running
  | rejected => exact failures other next name (runs_refused running)
  | entered =>
      obtain older | ⟨-, new⟩ := runs_added running
      · exact failures other next name older
      · cases new
        exact nofun
  | admitted own | closed own | full own =>
      obtain ⟨-, rfl⟩ | ⟨-, older⟩ := Runs.going own running
      · simp [Publication.failure?, Publication.pass]
      · exact failures other next name older
  | delivered own delivering =>
      obtain ⟨-, rfl⟩ | ⟨-, older⟩ := Runs.going own running
      · have before := failures _ _ name own
        rwa [Publication.failure?, delivering] at before
      · exact failures other next name older
  | late own | concluded own => exact failures other next name (Runs.finished own running).2

/-- A call that returns before it had the lock waited too long for it; one that returns later has not
been rejected, unless it noted so. -/
theorem Turn.returned {begun : Bool} (turn : Turn session (some (.returned call begun result)) after) :
    ∃ publication, Runs session.calls call publication ∧ publication.hasBegun = begun ∧
      after.calls[call]? = some (.finished result) ∧
      (begun = false → ∃ name, result = .error (.timeout name)) ∧
      ∀ name, result = .error (.rejected name) → publication.failure? = some (.rejected name) := by
  cases turn with
  | @late _ publication _ own ordering =>
      refine ⟨publication, own, Publication.hasBegun_ordering ordering, ?_, fun _ => ⟨_, rfl⟩, nofun⟩
      exact List.getElem?_set_self (Runs.within own)
  | @concluded _ publication deadline audience failure _ own delivering ended =>
      refine ⟨publication, own, Publication.hasBegun_delivering delivering, ?_, nofun, ?_⟩
      · exact List.getElem?_set_self (Runs.within own)
      · rintro name rfl
        cases failure with
        | none => simp [Publication.conclude] at ended
        | some cause =>
            simp only [Publication.conclude, Progress.finished.injEq, Except.error.injEq] at ended
            rw [Publication.failure?, delivering, ended]

theorem Turn.turnedAway (turn : Turn session seen after) (ranked : Ranked sights session)
    (away : TurnedAway sights session) : TurnedAway (sights ++ seen.toList) after := by
  have outside : ∀ {call result}, after.calls[call]? = some (.finished result) →
      call ∉ admittances sights → call ∉ admittances (sights ++ seen.toList) := by
    intro call result ended absent
    rw [admittances_seen, List.mem_append, Option.mem_toList, not_or]
    refine ⟨absent, ?_⟩
    intro admitted
    obtain ⟨publication, own⟩ := turn.admitted_runs admitted
    obtain before | new | ⟨begun, rfl⟩ := turn.ended_origin ended
    · exact own.unfinished before rfl
    · exact Nat.not_lt.mpr new own.within
    · cases admitted
  refine ⟨?_, ?_, turn.failures away.failures⟩
  · intro call name ended
    apply outside ended
    obtain before | new | ⟨begun, rfl⟩ := turn.ended_origin ended
    · exact away.rejected call name before
    · intro member
      exact Nat.not_lt.mpr new (ranked.known call member)
    · obtain ⟨publication, own, -, -, -, noted⟩ := turn.returned
      exact absurd (noted name rfl) (away.failures call publication name own)
  · intro call result member
    rcases List.mem_append.mp member with older | new
    · obtain ⟨absent, ended, late⟩ := away.late call result older
      have still := turn.ended ended
      exact ⟨outside still absent, still, late⟩
    · obtain rfl := Option.mem_toList.mp new
      obtain ⟨publication, own, waits, ended, late, -⟩ := turn.returned
      exact ⟨outside ended (ranked.unadmitted call publication own waits), ended, late rfl⟩

/-! ### One order for all -/

/-- A topic before anybody subscribes or publishes. -/
def start (name : String) (accepts : Content → Bool) : TopicSession Content :=
  { topic := { name }, accepts }

/-- All that holds of a topic and of what was seen of it. -/
structure Orderly (sights : List (Sight Content)) (session : TopicSession Content) : Prop where
  enrolled : session.topic.Enrolled
  locked : session.Locked
  kept : Kept sights session
  credited : Credited sights session
  ranked : Ranked sights session
  turnedAway : TurnedAway sights session

theorem start_orderly (name : String) (accepts : Content → Bool) :
    Orderly [] (start name accepts) where
  enrolled := ⟨List.nodup_nil, nofun⟩
  locked := ⟨nofun, nofun, nofun⟩
  kept _ := rfl
  credited := ⟨rfl, nofun, fun _ => nofun⟩
  ranked := ⟨List.nodup_nil, nofun, nofun, nofun, fun _ => .refl _, nofun⟩
  turnedAway := ⟨nofun, nofun, nofun⟩

theorem Turn.orderly (turn : Turn session seen after) (orderly : Orderly sights session) :
    Orderly (sights ++ seen.toList) after where
  enrolled := turn.enrolled orderly.enrolled
  locked := turn.locked orderly.locked
  kept := turn.kept orderly.kept
  credited := turn.credited orderly.credited
  ranked := turn.ranked orderly.locked orderly.enrolled orderly.ranked
  turnedAway := turn.turnedAway orderly.ranked orderly.turnedAway

theorem trace_orderly {acts : List (Act Content)} {name : String} {accepts : Content → Bool}
    {last : TopicSession Content}
    (traced : trace act sight? (start name accepts) acts = some (sights, last)) :
    Orderly sights last :=
  trace_history (fun _ _ _ _ orderly acted => (act_turn acted).orderly orderly)
    (start_orderly name accepts) traced

/-- The order of the lock, and after it all calls to which it never came. -/
def order (sights : List (Sight Content)) : List (Nat × Content) :=
  (admittances sights ++
      (List.range (published sights).length).filter (· ∉ admittances sights)).filterMap
    fun call => (published sights)[call]?

/-- Calls that published something are told by their numbers. -/
theorem Credited.restored (credited : Credited sights session) {pairs : List (Nat × Content)}
    (genuine : ∀ pair ∈ pairs, pair ∈ published sights) :
    (pairs.map Prod.fst).filterMap (fun call => (published sights)[call]?) = pairs := by
  rw [List.filterMap_map]
  calc pairs.filterMap ((fun call => (published sights)[call]?) ∘ Prod.fst)
      = pairs.filterMap some :=
        List.filterMap_congr fun pair member => credited.lookup.mp (genuine pair member)
    _ = pairs := List.filterMap_some

theorem Orderly.order_perm (orderly : Orderly sights session) :
    (order sights).Perm (published sights) := by
  have count : (published sights).length = session.calls.length := by
    rw [← List.length_map, orderly.credited.numbered, List.length_range]
  have all : (admittances sights ++ (List.range (published sights).length).filter
      (· ∉ admittances sights)).Perm (List.range (published sights).length) := by
    rw [List.perm_ext_iff_of_nodup]
    · intro call
      rw [count]
      simp only [List.mem_append, List.mem_filter, List.mem_range, decide_eq_true_eq]
      have known := orderly.ranked.known call
      tauto
    · rw [List.nodup_append]
      refine ⟨orderly.ranked.nodup, List.nodup_range.filter _, ?_⟩
      rintro call member _ other rfl
      simpa [member] using (List.mem_filter.mp other).2
    · exact List.nodup_range
  have every : (List.range (published sights).length).filterMap
      (fun call => (published sights)[call]?) = published sights := by
    rw [count, ← orderly.credited.numbered]
    exact orderly.credited.restored fun _ member => member
  exact every ▸ all.filterMap _

theorem Orderly.arrivals_sublist (orderly : Orderly sights session) (subscriber : Nat) :
    (arrivals subscriber sights).Sublist (order sights) := by
  have named : (callers subscriber sights).filterMap (fun call => (published sights)[call]?) =
      arrivals subscriber sights :=
    orderly.credited.restored (orderly.credited.genuine subscriber)
  have ordered := (orderly.ranked.follows subscriber).trans (List.sublist_append_left _
    ((List.range (published sights).length).filter (· ∉ admittances sights)))
  exact named ▸ ordered.filterMap fun call => (published sights)[call]?

/-- Where no call stands twice, a part that has two of them has them in the order of the whole. -/
theorem pair_in_part {Kind : Type} {part whole : List Kind} {first second : Kind}
    (within : part.Sublist whole) (nodup : whole.Nodup) (ordered : [first, second].Sublist whole)
    (former : first ∈ part) (latter : second ∈ part) : [first, second].Sublist part := by
  induction within with
  | slnil => cases former
  | @cons part whole head within ih =>
      obtain ⟨fresh, nodup⟩ := List.nodup_cons.mp nodup
      rcases List.sublist_cons_iff.mp ordered with later | ⟨rest, same, -⟩
      · exact ih nodup later former latter
      · cases same
        exact absurd (within.subset former) fresh
  | @cons_cons part whole head within ih =>
      obtain ⟨fresh, nodup⟩ := List.nodup_cons.mp nodup
      rcases List.sublist_cons_iff.mp ordered with later | ⟨rest, same, behind⟩
      · have apart : ∀ item ∈ [first, second], item ≠ head := by
          rintro item member rfl
          exact fresh (later.subset member)
        have former := List.mem_of_ne_of_mem (apart first (by simp)) former
        have latter := List.mem_of_ne_of_mem (apart second (by simp)) latter
        exact (ih nodup later former latter).cons _
      · cases same
        have behind := behind.subset (List.mem_singleton_self second)
        have apart : second ≠ first := fun same => fresh (same ▸ behind)
        have latter := List.mem_of_ne_of_mem apart latter
        exact (List.singleton_sublist.mpr latter).cons_cons first

theorem Orderly.agree (orderly : Orderly sights session) {one other : Nat}
    {first second : Nat × Content} (ordered : [first, second].Sublist (arrivals one sights))
    (former : first ∈ arrivals other sights) (latter : second ∈ arrivals other sights) :
    [first, second].Sublist (arrivals other sights) := by
  have nodup : (order sights).Nodup := by
    rw [orderly.order_perm.nodup_iff]
    apply List.Nodup.of_map Prod.fst
    rw [orderly.credited.numbered]
    exact List.nodup_range
  exact pair_in_part (orderly.arrivals_sublist other) nodup
    (ordered.trans (orderly.arrivals_sublist one)) former latter

theorem Orderly.unheard (orderly : Orderly sights session) {message : Content}
    (absent : call ∉ admittances sights) (subscriber : Nat) :
    (call, message) ∉ arrivals subscriber sights := by
  intro arrived
  have among : call ∈ callers subscriber sights := List.mem_map_of_mem arrived
  exact absent ((orderly.ranked.follows subscriber).subset among)

/-- All queues of a topic get their messages in one order of the calls, whoever publishes, subscribes,
takes and goes meanwhile. No call stands twice in it, and one that was rejected, or whose time was over
before it had the lock, is in no queue. -/
theorem one_publication_order {name : String} {accepts : Content → Bool}
    {acts : List (Act Content)} {sights : List (Sight Content)} {last : TopicSession Content}
    (traced : trace act sight? (start name accepts) acts = some (sights, last)) :
    (published sights).map Prod.fst = List.range last.calls.length ∧
      (∃ order : List (Nat × Content), order.Perm (published sights) ∧
        ∀ subscriber, (arrivals subscriber sights).Sublist order) ∧
      (∀ subscriber, (arrivals subscriber sights).map Prod.snd =
        departures subscriber sights ++ last.topic.items subscriber) ∧
      (∀ one other first second, [first, second].Sublist (arrivals one sights) →
        first ∈ arrivals other sights → second ∈ arrivals other sights →
          [first, second].Sublist (arrivals other sights)) ∧
      ∀ call message,
        (∃ name, last.calls[call]? = some (.finished (.error (.rejected name)))) ∨
          (∃ result, .returned call false result ∈ sights) →
        ∀ subscriber, (call, message) ∉ arrivals subscriber sights := by
  have orderly := trace_orderly traced
  refine ⟨orderly.credited.numbered, ⟨order sights, orderly.order_perm, orderly.arrivals_sublist⟩,
    orderly.kept, fun _ _ _ _ => orderly.agree, ?_⟩
  intro call message turned
  apply orderly.unheard
  rcases turned with ⟨name, rejected⟩ | ⟨result, late⟩
  · exact orderly.turnedAway.rejected call name rejected
  · exact (orderly.turnedAway.late call result late).1

/-- Two publications at a time for two subscribers. Another one is rejected, and a fourth waits too long
for the lock; the first subscriber makes room for the second message, and then the other one goes. -/
def fourCalls : List (Act Nat) :=
  [.subscribe 1, .subscribe 2, .publish 7 10, .move 0, .publish 8 10, .move 0, .publish 99 10,
    .publish 9 2, .move 0, .pass 2, .move 3, .move 0, .move 1, .receive 0, .move 1, .move 1, .move 1,
    .close 1]

def fourAnswers : List (Sight Nat) :=
  [.called 0 7 none, .admitted 0, .called 1 8 none, .arrived 0 0 7,
    .called 2 99 (some (.rejected "readings")), .called 3 9 none, .arrived 1 0 7,
    .returned 3 false (.error (.timeout "readings")), .returned 0 true (.ok ()), .admitted 1,
    .taken 0 7, .arrived 0 1 8, .arrived 1 1 8, .returned 1 true (.ok ()), .left 1 [7, 8]]

theorem trace_fourCalls :
    (trace act sight? (start "readings" fun reading => decide (reading < 50)) fourCalls).map
      Prod.fst = some fourAnswers := by
  decide +kernel

theorem one_publication_order_of_fourCalls : ∃ sights last,
    trace act sight? (start "readings" fun reading => decide (reading < 50)) fourCalls =
        some (sights, last) ∧
      (∃ order : List (Nat × Nat), order.Perm [(0, 7), (1, 8), (2, 99), (3, 9)] ∧
        [(0, 7), (1, 8)].Sublist order) ∧
      arrivals 0 sights = [(0, 7), (1, 8)] ∧ arrivals 1 sights = [(0, 7), (1, 8)] ∧
      ∀ subscriber, (3, 9) ∉ arrivals subscriber sights := by
  obtain ⟨⟨sights, last⟩, traced, seen⟩ := Option.map_eq_some_iff.mp trace_fourCalls
  simp only at seen
  subst seen
  obtain ⟨-, ⟨order, all, ordered⟩, -, -, unheard⟩ := one_publication_order traced
  refine ⟨_, last, traced, ⟨order, all, ordered 0⟩, rfl, rfl, ?_⟩
  exact unheard 3 9 (.inr ⟨.error (.timeout "readings"), by simp [fourAnswers]⟩)

end TopicSession

end CameraBridge
