import CameraBridge.Proofs.Bridge.HostProgress
import CameraBridge.Proofs.Bridge.Unending

namespace CameraBridge.Bridge

/-! The host's payloads on their way, all of them in a run. The consumer acts on what the link brought,
on each payload once and in order, and the next one is not touched before it is done. -/

def PassageSight.consumed? : PassageSight → Option Bytes
  | .consumed data _ => some data
  | _ => none

def PassageSight.finishes : PassageSight → Bool
  | .consumed _ done => done
  | .finished => true
  | _ => false

namespace Passage

/-- What was read from the link, and what it completed. -/
def reads (sights : List PassageSight) : List (LinkItem × Option Bytes) :=
  sights.filterMap PassageSight.read?

def items (sights : List PassageSight) : List LinkItem := (reads sights).map Prod.fst

def received (sights : List PassageSight) : List Bytes := (reads sights).filterMap Prod.snd

/-- What the consumer acted on. -/
def consumed (sights : List PassageSight) : List Bytes := sights.filterMap PassageSight.consumed?

/-- How often the consumer was done with a payload. -/
def finished (sights : List PassageSight) : Nat := sights.countP PassageSight.finishes

/-- What the consumer has acted on, by where the newest payload is. -/
def Accounted (received consumed : List Bytes) (finished : Nat) : Place → Prop
  | .settled _ => consumed = received ∧ finished = consumed.length
  | .offered payload | .queued payload =>
      received = consumed ++ [payload.data] ∧ finished = consumed.length
  | .inHand _ => consumed = received ∧ finished + 1 = consumed.length

/-- What was seen agrees with where the newest payload is, and what the link brings from now on comes
after what was received. -/
structure Kept (place : Place) (sights : List PassageSight) : Prop where
  account : Accounted (received sights) (consumed sights) (finished sights) place
  gathering : ∀ later, completed none (items sights ++ later) =
    received sights ++ completed place.gathered later

variable {place following : Place} {sights : List PassageSight} {seen : Option PassageSight}

theorem reads_seen (sights : List PassageSight) (seen : Option PassageSight) :
    reads (sights ++ seen.toList) = reads sights ++ (seen.bind PassageSight.read?).toList :=
  filterMap_seen _ _ _

theorem consumed_seen (sights : List PassageSight) (seen : Option PassageSight) :
    consumed (sights ++ seen.toList) =
      consumed sights ++ (seen.bind PassageSight.consumed?).toList :=
  filterMap_seen _ _ _

theorem finished_seen (sights : List PassageSight) (seen : Option PassageSight) :
    finished (sights ++ seen.toList) = finished sights + seen.toList.countP PassageSight.finishes :=
  List.countP_append

/-- What is seen without reading leaves what is gathered alone. -/
theorem Kept.unread (kept : Kept place sights) (unread : seen.bind PassageSight.read? = none)
    (same : following.gathered = place.gathered)
    (account : Accounted (received sights)
      (consumed sights ++ (seen.bind PassageSight.consumed?).toList)
      (finished sights + seen.toList.countP PassageSight.finishes) following) :
    Kept following (sights ++ seen.toList) := by
  have still : reads (sights ++ seen.toList) = reads sights := by
    rw [reads_seen, unread, Option.toList_none, List.append_nil]
  refine ⟨?_, ?_⟩
  · rw [received, still, consumed_seen, finished_seen]
    exact account
  · rw [items, received, still, same]
    exact kept.gathering

/-- What is read comes after what was read, and so does what it completes. -/
theorem Kept.read {item : LinkItem} {gathered : Option Gathering} {payload : Option Bytes}
    (kept : Kept (.settled gathered) sights) (complete : LinkItem.payload item gathered = payload)
    (left : LinkItem.leaves item gathered = following.gathered)
    (account : Accounted (received sights ++ payload.toList) (consumed sights) (finished sights)
      following) : Kept following (sights ++ [.read item payload]) := by
  have grown : reads (sights ++ [.read item payload]) = reads sights ++ [(item, payload)] :=
    reads_seen sights (some (.read item payload))
  have more : received (sights ++ [.read item payload]) = received sights ++ payload.toList := by
    rw [received, grown, List.filterMap_append, received]
    cases payload <;> rfl
  have acted : consumed (sights ++ [.read item payload]) = consumed sights :=
    (consumed_seen sights (some (.read item payload))).trans (List.append_nil _)
  have ended : finished (sights ++ [.read item payload]) = finished sights :=
    finished_seen sights (some (.read item payload))
  refine ⟨?_, fun later => ?_⟩
  · rw [more, acted, ended]
    exact account
  · have onward := kept.gathering (item :: later)
    rw [completed, Place.gathered, complete, left, ← List.append_assoc] at onward
    rw [more, items, grown, List.map_append, List.append_assoc]
    exact onward

theorem Kept.passes (kept : Kept place sights) (passes : Passes place seen following) :
    Kept following (sights ++ seen.toList) := by
  have account := kept.account
  cases passes with
  | unseen => simpa using kept
  | read incomplete => exact kept.read incomplete rfl (by simpa [Accounted] using account)
  | received complete left =>
      obtain ⟨same, all⟩ := account
      exact kept.read complete left ⟨by rw [same]; rfl, all⟩
  | queued => exact kept.unread rfl rfl (by simpa [Accounted] using account)
  | published =>
      exact kept.unread rfl rfl
        (by simpa [PassageSight.consumed?, PassageSight.finishes] using account)
  | taken =>
      obtain ⟨next, all⟩ := account
      refine kept.unread rfl rfl ⟨next.symm, ?_⟩
      simp [PassageSight.finishes, PassageSight.consumed?, all]
  | refused =>
      obtain ⟨next, all⟩ := account
      refine kept.unread rfl rfl ⟨next.symm, ?_⟩
      simp [PassageSight.finishes, PassageSight.consumed?, all]
  | finished =>
      obtain ⟨same, all⟩ := account
      refine kept.unread rfl rfl ⟨?_, ?_⟩
      · simpa [PassageSight.consumed?] using same
      · simp [PassageSight.finishes, PassageSight.consumed?, all]

/-! ### Runs -/

variable {last : Bridge} {acts : List Act} {timing : Timing} {queueDepth : Nat}
  {state : DeviceState} {links : OpenLinks}

theorem start_kept : Kept (.settled none) [] := ⟨⟨rfl, rfl⟩, fun _ => rfl⟩

theorem watch_kept (going : .shutdown ∉ acts)
    (watched : (start timing queueDepth state links).watch passageSight? acts =
      some (sights, last)) :
    ∃ place, Placed place last.hostDesk ∧ Kept place sights := by
  refine watch_going (fun seen bridge => ∃ place, Placed place bridge.hostDesk ∧ Kept place seen)
    ?_ ⟨_, start_placed timing queueDepth state links, start_kept⟩ going watched
  rintro seen next before after goesOn ⟨place, placed, kept⟩ acted
  obtain ⟨following, onward, passes⟩ := act_passes goesOn placed acted
  exact ⟨following, onward, kept.passes passes⟩

/-- What was seen of the payloads up to some moment. -/
structure InOrder (sights : List PassageSight) : Prop where
  /-- The consumer acts on what was received, on each payload once and in order. At most the newest one
  has not come to it. -/
  once : ∃ pending, received sights = consumed sights ++ pending ∧ pending.length ≤ 1
  /-- Nothing is read from the link before the consumer is done with everything received before. -/
  paced : ∀ earlier item payload later, sights = earlier ++ .read item payload :: later →
    consumed earlier = received earlier ∧ finished earlier = (received earlier).length
  /-- The intake's publications succeed. -/
  published : ∀ result, .published result ∈ sights → result = .ok ()
  /-- What was received are the payloads of the transfers that the link brought so far. -/
  faithful : ∀ stream : List Delivery, items sights <+: stream.flatMap Delivery.items →
    received sights <+: stream.filterMap Delivery.payload?

theorem Kept.once (kept : Kept place sights) :
    ∃ pending, received sights = consumed sights ++ pending ∧ pending.length ≤ 1 := by
  obtain ⟨account, -⟩ := kept
  cases place with
  | settled | inHand => exact ⟨[], by rw [account.1, List.append_nil], by decide⟩
  | offered payload | queued payload => exact ⟨[payload.data], account.1, by simp⟩

theorem Kept.completed (kept : Kept place sights) : completed none (items sights) = received sights := by
  have whole := kept.gathering []
  simpa [CameraBridge.completed] using whole

theorem watch_inOrder (going : .shutdown ∉ acts)
    (watched : (start timing queueDepth state links).watch passageSight? acts = some (sights, last)) :
    InOrder sights := by
  obtain ⟨place, -, kept⟩ := watch_kept going watched
  have goesOn {before after : List PassageSight} {sight : PassageSight}
      (same : sights = before ++ sight :: after) :
      ∃ place following, Kept place before ∧ Passes place (some sight) following := by
    rw [same] at watched
    obtain ⟨first, next, rest, middle, between, rfl, reached, acted, seen, -⟩ := watch_split watched
    simp only [List.mem_append, List.mem_cons, not_or] at going
    obtain ⟨place, placed, kept⟩ := watch_kept going.1 reached
    obtain ⟨following, -, passes⟩ := act_passes (Ne.symm going.2.1) placed acted
    exact ⟨place, following, kept, seen ▸ passes⟩
  refine ⟨kept.once, ?_, ?_, ?_⟩
  · intro earlier item payload later same
    obtain ⟨place, following, kept, passes⟩ := goesOn same
    cases passes with
    | read | received => exact ⟨kept.account.1, kept.account.1 ▸ kept.account.2⟩
  · intro result member
    obtain ⟨before, after, same⟩ := List.append_of_mem member
    obtain ⟨place, following, -, passes⟩ := goesOn same
    cases passes
    rfl
  · intro stream brought
    rw [← kept.completed, ← completed_stream]
    exact completed_prefix brought

end Passage

end CameraBridge.Bridge
