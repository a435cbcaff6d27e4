import Mathlib.Data.List.Nodup
import Mathlib.Data.List.Perm.Basic
import CameraBridge.Bridge.Policy
import CameraBridge.Clock
import CameraBridge.Proofs.Trace

namespace CameraBridge

/-! Several writers of one device state. A call changes the state first, and it announces the
connectivity that it left there later, so that others may change the state and announce between the
two halves. Watchers are left with what was announced last, which need not be what was changed last. -/

/-- A device with all calls that change its state. A call under way has changed it, and remembers the
connectivity that it has still to announce. -/
structure DeviceSession where
  device : Device
  calls : List (Call Connectivity Unit) := []

namespace DeviceSession

def start (state : DeviceState) : DeviceSession := { device := Device.ofState state }

/-- A call begins with its first half. -/
def change (change : DeviceState → DeviceState) (session : DeviceSession) : DeviceSession :=
  { device := session.device.mutate change
    calls := session.calls ++ [.running (session.device.mutate change).connectivity] }

/-- A call ends with its second half. -/
def announce (call : Nat) (session : DeviceSession) : Option DeviceSession :=
  match session.calls[call]? with
  | some (.running connectivity) =>
      some
        { device := session.device.announce connectivity
          calls := session.calls.set call (.finished ()) }
  | _ => none

/-- Both halves at once are one update of the device. -/
theorem announce_change (rule : DeviceState → DeviceState) (session : DeviceSession) :
    (session.change rule).announce session.calls.length =
      some { device := session.device.update rule, calls := session.calls ++ [.finished ()] } := by
  simp [announce, change, Device.update]

/-- One half of a call. -/
inductive Act where
  | update (change : DeviceState → DeviceState)
  | apply (event : ConnectionEvent)
  | announce (call : Nat)

def act (next : Act) (session : DeviceSession) : Option DeviceSession :=
  match next with
  | .update rule => some (session.change rule)
  | .apply event => some (session.change fun state => state.next event)
  | .announce call => session.announce call

inductive Sight where
  /-- A call left this connectivity in the state. -/
  | changed (call : Nat) (connectivity : Connectivity)
  /-- A call returned, and watchers see this connectivity. -/
  | announced (call : Nat) (connectivity : Connectivity)
  deriving DecidableEq

def sight? (next : Act) (before after : DeviceSession) : Option Sight :=
  match next with
  | .update _ | .apply _ => some (.changed before.calls.length after.device.connectivity)
  | .announce call => some (.announced call after.device.announced)

/-- What a turn does and what is seen of it. -/
inductive Turn (session : DeviceSession) : Option Sight → DeviceSession → Prop where
  | changed (rule : DeviceState → DeviceState) :
      Turn session (some (.changed session.calls.length (session.change rule).device.connectivity))
        (session.change rule)
  | announced {call : Nat} {connectivity : Connectivity}
      (own : session.calls[call]? = some (.running connectivity)) :
      Turn session (some (.announced call connectivity))
        { device := session.device.announce connectivity
          calls := session.calls.set call (.finished ()) }

variable {session after : DeviceSession} {sights : List Sight} {seen : Option Sight}

theorem act_turn {next : Act} (acted : session.act next = some after) :
    Turn session (sight? next session after) after := by
  cases next with
  | update rule =>
      cases acted
      exact .changed rule
  | apply event =>
      cases acted
      exact .changed fun state => state.next event
  | announce call =>
      simp only [act, announce] at acted
      split at acted
      · next connectivity own =>
          cases acted
          rw [sight?, Device.announce_announced]
          exact .announced own
      · cases acted

/-! ### The two orders of the calls -/

namespace Sight

def changed? : Sight → Option (Nat × Connectivity)
  | .changed call connectivity => some (call, connectivity)
  | _ => none

def announced? : Sight → Option (Nat × Connectivity)
  | .announced call connectivity => some (call, connectivity)
  | _ => none

end Sight

/-- All changes in their order, each with its call and the connectivity that it left. -/
def changes (sights : List Sight) : List (Nat × Connectivity) := sights.filterMap Sight.changed?

/-- All announcements in their order. -/
def announcements (sights : List Sight) : List (Nat × Connectivity) :=
  sights.filterMap Sight.announced?

/-- The connectivity that comes last, if there is one at all. -/
def latest (first : Connectivity) (told : List (Nat × Connectivity)) : Connectivity :=
  (told.getLast?.map Prod.snd).getD first

theorem latest_snoc (first connectivity : Connectivity) (told : List (Nat × Connectivity))
    (call : Nat) : latest first (told ++ [(call, connectivity)]) = connectivity := by
  rw [latest, List.getLast?_concat]
  rfl

/-- The state is what the last change left, the watchers have what the last announcement said, and each
call announces what it left, once. -/
structure Told (first : Connectivity) (sights : List Sight) (session : DeviceSession) : Prop where
  current : session.device.connectivity = latest first (changes sights)
  announced : session.device.announced = latest first (announcements sights)
  numbered : (changes sights).map Prod.fst = List.range session.calls.length
  remembered : ∀ call connectivity, session.calls[call]? = some (.running connectivity) →
    (call, connectivity) ∈ changes sights ∧ call ∉ (announcements sights).map Prod.fst
  told : ∀ call connectivity, (call, connectivity) ∈ changes sights →
    session.calls[call]? = some (.finished ()) → (call, connectivity) ∈ announcements sights
  genuine : ∀ announcement ∈ announcements sights, announcement ∈ changes sights
  once : ((announcements sights).map Prod.fst).Nodup

variable {first : Connectivity}

theorem start_told (state : DeviceState) : Told state.connectivity [] (start state) where
  current := rfl
  announced := rfl
  numbered := rfl
  remembered := nofun
  told := nofun
  genuine := nofun
  once := List.nodup_nil

theorem Told.known (told : Told first sights session) {call : Nat} {connectivity : Connectivity}
    (changed : (call, connectivity) ∈ changes sights) : call < session.calls.length := by
  have among : call ∈ (changes sights).map Prod.fst := List.mem_map_of_mem changed
  rw [told.numbered] at among
  exact List.mem_range.mp among

/-- A call left one connectivity only. -/
theorem Told.unique (told : Told first sights session) {call : Nat} {one other : Connectivity}
    (left : (call, one) ∈ changes sights) (also : (call, other) ∈ changes sights) : one = other := by
  have nodup : ((changes sights).map Prod.fst).Nodup := told.numbered ▸ List.nodup_range
  exact congrArg Prod.snd (List.inj_on_of_nodup_map nodup left also rfl)

theorem Told.change (told : Told first sights session) (rule : DeviceState → DeviceState) :
    Told first
      (sights ++ [.changed session.calls.length (session.change rule).device.connectivity])
      (session.change rule) := by
  have changed : changes (sights ++
        [.changed session.calls.length (session.change rule).device.connectivity]) =
      changes sights ++
        [(session.calls.length, (session.change rule).device.connectivity)] :=
    filterMap_seen Sight.changed? sights (some (.changed _ _))
  have announced : announcements (sights ++
        [.changed session.calls.length (session.change rule).device.connectivity]) =
      announcements sights :=
    (filterMap_seen Sight.announced? sights (some (.changed _ _))).trans (List.append_nil _)
  have older : ∀ call state, (session.change rule).calls[call]? = some state →
      session.calls[call]? = some state ∨ call = session.calls.length ∧
        state = .running (session.change rule).device.connectivity := by
    intro call state found
    rw [DeviceSession.change, List.getElem?_append] at found
    split at found
    · exact .inl found
    · next beyond =>
        obtain ⟨within, same⟩ := List.getElem?_eq_some_iff.mp found
        have last : call = session.calls.length := by
          simp only [List.length_singleton] at within
          omega
        subst last
        simp only [Nat.sub_self, List.getElem_cons_zero] at same
        exact .inr ⟨rfl, same.symm⟩
  constructor
  · rw [changed, latest_snoc]
  · rw [announced]
    exact told.announced
  · rw [changed, List.map_append, told.numbered, DeviceSession.change, List.length_append]
    exact List.range_succ.symm
  · intro call connectivity running
    rw [changed, announced, List.mem_append, List.mem_singleton]
    obtain before | ⟨rfl, same⟩ := older call _ running
    · obtain ⟨left, untold⟩ := told.remembered call connectivity before
      exact ⟨.inl left, untold⟩
    · cases same
      refine ⟨.inr rfl, ?_⟩
      intro among
      obtain ⟨⟨call, left⟩, announcement, rfl⟩ := List.mem_map.mp among
      exact Nat.lt_irrefl _ (told.known (told.genuine _ announcement))
  · intro call connectivity left ended
    rw [announced]
    obtain before | ⟨-, running⟩ := older call _ ended
    · rw [changed, List.mem_append, List.mem_singleton] at left
      obtain left | same := left
      · exact told.told call connectivity left before
      · cases same
        exact absurd (List.getElem?_eq_some_iff.mp before).1 (Nat.lt_irrefl _)
    · cases running
  · rw [announced, changed]
    exact fun announcement member => List.mem_append_left _ (told.genuine announcement member)
  · rw [announced]
    exact told.once

theorem Told.announce (told : Told first sights session) {call : Nat} {connectivity : Connectivity}
    (own : session.calls[call]? = some (.running connectivity)) :
    Told first (sights ++ [.announced call connectivity])
      { device := session.device.announce connectivity
        calls := session.calls.set call (.finished ()) } := by
  have changed : changes (sights ++ [.announced call connectivity]) = changes sights :=
    (filterMap_seen Sight.changed? sights (some (.announced _ _))).trans (List.append_nil _)
  have announced : announcements (sights ++ [.announced call connectivity]) =
      announcements sights ++ [(call, connectivity)] :=
    filterMap_seen Sight.announced? sights (some (.announced _ _))
  have within : call < session.calls.length := (List.getElem?_eq_some_iff.mp own).1
  obtain ⟨left, untold⟩ := told.remembered call connectivity own
  constructor
  · rw [changed, Device.connectivity, Device.announce_state]
    exact told.current
  · rw [announced, latest_snoc, Device.announce_announced]
  · rw [changed, List.length_set]
    exact told.numbered
  · intro other remembered running
    have apart : call ≠ other := by
      rintro rfl
      rw [List.getElem?_set_self within] at running
      cases running
    rw [List.getElem?_set_ne apart] at running
    obtain ⟨before, silent⟩ := told.remembered other remembered running
    rw [changed, announced, List.map_append, List.mem_append, not_or]
    exact ⟨before, silent, fun same => apart (List.mem_singleton.mp same).symm⟩
  · intro other remembered before ended
    rw [announced, List.mem_append, List.mem_singleton]
    rw [changed] at before
    by_cases same : call = other
    · subst same
      exact .inr (by rw [told.unique before left])
    · rw [List.getElem?_set_ne same] at ended
      exact .inl (told.told other remembered before ended)
  · rw [announced, changed]
    intro announcement member
    rcases List.mem_append.mp member with before | new
    · exact told.genuine announcement before
    · exact List.mem_singleton.mp new ▸ left
  · rw [announced, List.map_append, List.nodup_append]
    refine ⟨told.once, List.nodup_singleton _, ?_⟩
    intro before member other same
    rw [List.mem_singleton.mp same]
    rintro rfl
    exact untold member

theorem Turn.told (turn : Turn session seen after) (told : Told first sights session) :
    Told first (sights ++ seen.toList) after := by
  cases turn with
  | changed rule => exact told.change rule
  | announced own => exact told.announce own

theorem trace_told {state : DeviceState} {acts : List Act} {last : DeviceSession}
    (traced : trace act sight? (start state) acts = some (sights, last)) :
    Told state.connectivity sights last :=
  trace_history (fun _ _ _ _ told acted => (act_turn acted).told told) (start_told state) traced

/-! ### When all calls have returned -/

def isSettled (session : DeviceSession) : Bool :=
  session.calls.all fun call => call.result?.isSome

theorem Told.told_all (told : Told first sights session) (settled : session.isSettled = true) :
    (announcements sights).Perm (changes sights) := by
  rw [List.perm_ext_iff_of_nodup (List.Nodup.of_map Prod.fst told.once)
    (List.Nodup.of_map Prod.fst (told.numbered ▸ List.nodup_range))]
  rintro ⟨call, connectivity⟩
  constructor
  · exact told.genuine _
  · intro left
    have within := told.known left
    have returned := List.all_eq_true.mp settled _ (List.getElem_mem within)
    apply told.told call connectivity left
    rw [List.getElem?_eq_getElem within]
    cases state : session.calls[call] with
    | running remembered => simp [state, Call.result?] at returned
    | finished => rfl

theorem Told.latest_eq (told : Told first sights session)
    (same : ((announcements sights).map Prod.fst).getLast? =
      ((changes sights).map Prod.fst).getLast?) :
    latest first (announcements sights) = latest first (changes sights) := by
  rw [List.getLast?_map, List.getLast?_map] at same
  cases spoke : (announcements sights).getLast? with
  | none =>
      rw [spoke, Option.map_none, eq_comm, Option.map_eq_none_iff] at same
      rw [latest, latest, spoke, same]
  | some announcement =>
      rw [spoke, Option.map_some, eq_comm, Option.map_eq_some_iff] at same
      obtain ⟨change, final, number⟩ := same
      obtain ⟨call, one⟩ := announcement
      obtain ⟨_, other⟩ := change
      cases number
      have left := told.genuine _ (List.mem_of_getLast? spoke)
      have equal := told.unique left (List.mem_of_getLast? final)
      rw [latest, latest, spoke, final, equal]

/-- When all calls have returned, each has announced what it left, and the watchers have the
connectivity of the state unless the last announcement says something else than the last change. That
is so when the call that changed the state last announces last. -/
theorem announced_by_last_change {state : DeviceState} {acts : List Act} {sights : List Sight}
    {last : DeviceSession} (traced : trace act sight? (start state) acts = some (sights, last))
    (settled : last.isSettled = true) :
    (announcements sights).Perm (changes sights) ∧
      (last.device.announced = last.device.connectivity ↔
        latest state.connectivity (announcements sights) =
          latest state.connectivity (changes sights)) ∧
      (((announcements sights).map Prod.fst).getLast? = ((changes sights).map Prod.fst).getLast? →
        last.device.announced = last.device.connectivity) := by
  have told := trace_told traced
  have agree : last.device.announced = last.device.connectivity ↔
      latest state.connectivity (announcements sights) =
        latest state.connectivity (changes sights) := by
    rw [told.announced, told.current]
  exact ⟨told.told_all settled, agree, fun same => agree.mpr (told.latest_eq same)⟩

/-- The host stores its credentials while the camera connects. The connection is announced first. -/
def storeWhileConnecting : List Act :=
  [.update (WifiCredentials.store ⟨"hotel", "secret"⟩), .apply .connected, .announce 1, .announce 0]

theorem trace_storeWhileConnecting :
    (trace act sight? (start {}) storeWhileConnecting).map (fun (_, last) =>
        (last.isSettled, last.device.announced, last.device.connectivity)) =
      some (true, .unknown, .connected) := by
  decide +kernel

/-- Both calls have returned, and the watchers take a connected camera for an unknown one. -/
theorem announced_goes_stale : ¬ ∀ (state : DeviceState) (acts : List Act) (sights : List Sight)
    (last : DeviceSession), trace act sight? (start state) acts = some (sights, last) →
      last.isSettled = true → last.device.announced = last.device.connectivity := by
  intro current
  obtain ⟨⟨sights, last⟩, traced, shown⟩ := Option.map_eq_some_iff.mp trace_storeWhileConnecting
  simp only [Prod.mk.injEq] at shown
  obtain ⟨settled, announced, connectivity⟩ := shown
  have same := current _ _ _ _ traced settled
  rw [announced, connectivity] at same
  cases same

/-- The same calls, with the connection changed last and announced last. -/
theorem trace_announceInOrder :
    (trace act sight? (start {}) [.update (WifiCredentials.store ⟨"hotel", "secret"⟩),
        .apply .connected, .announce 0, .announce 1]).map (fun (sights, last) =>
        (sights, last.isSettled)) =
      some ([.changed 0 .unknown, .changed 1 .connected, .announced 0 .unknown,
        .announced 1 .connected], true) := by
  decide +kernel

theorem announced_by_last_change_in_order : ∃ sights last,
    trace act sight? (start {}) [.update (WifiCredentials.store ⟨"hotel", "secret"⟩),
        .apply .connected, .announce 0, .announce 1] = some (sights, last) ∧
      last.isSettled = true ∧
      ((announcements sights).map Prod.fst).getLast? = ((changes sights).map Prod.fst).getLast? ∧
      last.device.announced = last.device.connectivity := by
  obtain ⟨⟨sights, last⟩, traced, shown⟩ := Option.map_eq_some_iff.mp trace_announceInOrder
  simp only [Prod.mk.injEq] at shown
  obtain ⟨rfl, settled⟩ := shown
  exact ⟨_, last, traced, settled, rfl, (announced_by_last_change traced settled).2.2 rfl⟩

end DeviceSession

end CameraBridge
