import CameraBridge.Demux
import CameraBridge.Proofs.Replies.StatusLists

namespace CameraBridge

/-! What the bridge learns from a reply, and what it leaves alone. A list of status values is written as
a whole or not at all, each field ends at the last entry for it, and hardware info is one field. -/

/-! ### Status lists -/

/-- Status values change three fields at most. -/
theorem StatusValue.applyAll_eq (values : List StatusValue) (state : DeviceState) :
    applyAll values state =
      { state with
        recording := (applyAll values state).recording
        videoCount := (applyAll values state).videoCount
        battery := (applyAll values state).battery } := by
  induction values generalizing state with
  | nil => rfl
  | cons value rest ih =>
      have onward : applyAll (value :: rest) state = applyAll rest (value.apply state) := rfl
      rw [onward, ih]
      cases value <;> rfl

namespace StatusEntry

/-- The three kinds of entries that are understood. -/
def isKnown (entry : StatusEntry) : Bool := entry.id ∈ [10, 39, 70]

/-- Where entries leave a field that those with some identifier set: at what the last one of these says,
and unchanged if there is none. -/
def EndsAt (id : UInt8) (entries : List StatusEntry) (value : StatusValue) (unchanged : Prop) : Prop :=
  match (entries.filter (·.id = id)).getLast? with
  | none => unchanged
  | some last => last.Means value

variable {entries : List StatusEntry} {values : List StatusValue}

theorem Means.isKnown_eq {entry : StatusEntry} {value : StatusValue} (means : entry.Means value) :
    value.isKnown = entry.isKnown := by
  cases means with
  | recording | battery | videoCount => rfl
  | other unknown => simpa [StatusValue.isKnown, isKnown] using unknown

theorem countP_isKnown (mean : List.Forall₂ Means entries values) :
    values.countP StatusValue.isKnown = entries.countP isKnown := by
  induction mean with
  | nil => rfl
  | cons means _ ih => rw [List.countP_cons, List.countP_cons, ih, means.isKnown_eq]

/-- A field that the entries of one identifier set, and no others, ends at the last one of them. -/
theorem endsAt_applyAll {Kind : Type} {id : UInt8} {get : DeviceState → Kind}
    {wrap : Kind → StatusValue}
    (sets : ∀ {entry value} state, Means entry value → entry.id = id →
      value = wrap (get (value.apply state)))
    (keeps : ∀ {entry value} state, Means entry value → entry.id ≠ id →
      get (value.apply state) = get state)
    (mean : List.Forall₂ Means entries values) (state : DeviceState) :
    EndsAt id entries (wrap (get (StatusValue.applyAll values state)))
      (get (StatusValue.applyAll values state) = get state) := by
  induction mean generalizing state with
  | nil => rfl
  | @cons entry value rest others means _ ih =>
      have onward : StatusValue.applyAll (value :: others) state =
          StatusValue.applyAll others (value.apply state) := rfl
      have later := ih (value.apply state)
      rw [onward]
      unfold EndsAt at later ⊢
      by_cases own : entry.id = id
      · rw [List.filter_cons_of_pos (by simpa using own), List.getLast?_cons]
        cases last : (rest.filter (·.id = id)).getLast? with
        | none =>
            rw [last] at later
            simp only at later
            rw [later]
            exact sets state means own ▸ means
        | some final =>
            rw [last] at later
            exact later
      · rw [List.filter_cons_of_neg (by simpa using own)]
        rwa [keeps state means own] at later

/-- Each of the three fields is set by the entries of its identifier and by no others. -/
theorem endsAt_fields (mean : List.Forall₂ Means entries values) (state : DeviceState) :
    let after := StatusValue.applyAll values state
    EndsAt 10 entries (.recording after.recording) (after.recording = state.recording) ∧
      EndsAt 39 entries (.videoCount after.videoCount) (after.videoCount = state.videoCount) ∧
      EndsAt 70 entries (.battery after.battery) (after.battery = state.battery) := by
  refine ⟨@endsAt_applyAll _ _ _ 10 DeviceState.recording .recording ?_ ?_ mean state,
    @endsAt_applyAll _ _ _ 39 DeviceState.videoCount .videoCount ?_ ?_ mean state,
    @endsAt_applyAll _ _ _ 70 DeviceState.battery .battery ?_ ?_ mean state⟩
  all_goals
    intro entry value state means own
    cases means <;> simp_all [StatusValue.apply]

end StatusEntry

/-! ### Replies -/

theorem Device.update_quiet {change : DeviceState → DeviceState} {device : Device}
    (told : (change device.state).connectivity = device.announced) :
    device.update change = { device with state := change device.state } := by
  simp only [update, mutate, announce, connectivity, told, if_true]

namespace Assembled

/-- A row of status values, asked for, registered for or sent unasked. -/
structure IsStatusList (reply : Assembled) : Prop where
  channel : reply.channel = .query
  feature : reply.feature? = some 0x13 ∨ reply.feature? = some 0x53 ∨ reply.feature? = some 0x93
  success : reply.action? = some 0

/-- The camera's description of its hardware. -/
structure IsHardwareInfo (reply : Assembled) : Prop where
  channel : reply.channel = .cmd
  feature : reply.feature? = some 0x3C
  success : reply.action? = some 0

end Assembled

namespace Demuxed

open StatusValue (applyAll readList)
open StatusEntry (listed EndsAt)
open Assembled (IsStatusList IsHardwareInfo feature?)

variable {reply : Assembled} {device after : Device} {result : Demuxed}

theorem ofReply_status (list : reply.IsStatusList) (device : Device) :
    ofReply reply device = ofStatus reply.payload device := by
  obtain ⟨channel, body, frames⟩ := reply
  obtain ⟨onQuery, feature, success⟩ := list
  obtain rfl : channel = .query := onQuery
  match body with
  | [] | [_] => cases success
  | _ :: _ :: payload =>
      cases success
      rcases feature with same | same | same <;>
      · cases same
        rfl

theorem ofReply_hardware (described : reply.IsHardwareInfo) (device : Device) :
    ofReply reply device = ofHardwareInfo reply.payload device := by
  obtain ⟨channel, body, frames⟩ := reply
  obtain ⟨onCmd, feature, success⟩ := described
  obtain rfl : channel = .cmd := onCmd
  match body with
  | [] | [_] => cases success
  | _ :: _ :: payload =>
      cases success
      cases feature
      rfl

/-- What a reply leads to. -/
inductive Learnt (reply : Assembled) (device : Device) : Demuxed → Device → Prop where
  | nothing {result : Demuxed}
      (unread : result = .ignored ∨ result = .malformed ∨ ∃ code, result = .errorResult code) :
      Learnt reply device result device
  | status {values : List StatusValue} (list : reply.IsStatusList)
      (read : readList reply.payload = .ok values) :
      Learnt reply device (.status (values.countP StatusValue.isKnown))
        (device.update (applyAll values))
  | hardware {info : ModelInfo} {exact : Bool} (described : reply.IsHardwareInfo)
      (read : HardwareInfo.read reply.payload = .ok (info, exact)) :
      Learnt reply device .hardwareInfo
        (device.update fun state => { state with modelInfo := some info })

theorem ofReply_learnt (demuxed : ofReply reply device = (result, after)) :
    Learnt reply device result after := by
  suffices learnt : Learnt reply device (ofReply reply device).1 (ofReply reply device).2 by
    rwa [demuxed] at learnt
  clear demuxed
  obtain ⟨channel, body, frames⟩ := reply
  match body with
  | [] | [_] => exact .nothing (.inl rfl)
  | feature :: code :: payload =>
      simp only [ofReply]
      split
      · next status =>
          simp only [isStatusReply, Bool.and_eq_true, Bool.or_eq_true, decide_eq_true_eq,
            or_assoc] at status
          obtain ⟨onQuery, feature⟩ := status
          split
          · next success =>
              have list : IsStatusList ⟨channel, _ :: code :: payload, frames⟩ :=
                ⟨onQuery, feature.imp (congrArg some) (Or.imp (congrArg some) (congrArg some)),
                  congrArg some success⟩
              unfold ofStatus
              split
              · exact .nothing (.inr (.inl rfl))
              · next read => exact .status list read
          · exact .nothing (.inr (.inr ⟨code, rfl⟩))
      · split
        · next hardware =>
            simp only [isHardwareReply, Bool.and_eq_true, decide_eq_true_eq] at hardware
            obtain ⟨onCmd, feature⟩ := hardware
            split
            · next success =>
                have described : IsHardwareInfo ⟨channel, _ :: code :: payload, frames⟩ :=
                  ⟨onCmd, congrArg some feature, congrArg some success⟩
                unfold ofHardwareInfo
                split
                · exact .nothing (.inr (.inl rfl))
                · next read => exact .hardware described read
            · exact .nothing (.inr (.inr ⟨code, rfl⟩))
        · exact .nothing (.inl rfl)

/-- All else in the device state is left alone. -/
theorem ofReply_state (demuxed : ofReply reply device = (result, after)) :
    after.state = { device.state with
      recording := after.state.recording
      videoCount := after.state.videoCount
      battery := after.state.battery
      modelInfo := after.state.modelInfo } := by
  cases ofReply_learnt demuxed with
  | nothing => rfl
  | status =>
      rw [Device.update_state, StatusValue.applyAll_eq]
  | hardware => rw [Device.update_state]

/-- Watchers who are up to date are told nothing. -/
theorem ofReply_quiet (demuxed : ofReply reply device = (result, after))
    (told : device.announced = device.connectivity) : after = { device with state := after.state } := by
  have connectivity := congrArg DeviceState.connectivity (ofReply_state demuxed)
  cases ofReply_learnt demuxed with
  | nothing => rfl
  | status | hardware =>
      rw [Device.update_state] at connectivity ⊢
      exact Device.update_quiet (connectivity.trans told.symm)

theorem ofReply_broken {entries : List StatusEntry} {rest : Bytes} {cause : StatusError}
    (list : reply.IsStatusList) (payload : reply.payload = listed entries ++ rest)
    (grammatical : ∀ entry ∈ entries, entry.IsGrammatical) (breaks : cause.Breaks rest) :
    ofReply reply device = (.malformed, device) := by
  rw [ofReply_status list, ofStatus, payload, StatusEntry.readList_broken grammatical breaks]

theorem ofReply_listed {entries : List StatusEntry} (list : reply.IsStatusList)
    (payload : reply.payload = listed entries)
    (grammatical : ∀ entry ∈ entries, entry.IsGrammatical) :
    ∃ applied after, ofReply reply device = (.status applied, after) := by
  obtain ⟨values, mean⟩ := StatusEntry.means_exist grammatical
  rw [ofReply_status list, ofStatus, payload, StatusEntry.readList_listed mean]
  exact ⟨_, _, rfl⟩

/-- A reply that is not read leaves all as it was, also where a broken list begins with entries that are
not. A status list leaves three fields where the last entry for each says, and hardware info is one
field; both are read of the right replies only. Nothing else changes, and nobody is told of it. -/
theorem demux_touches_only (demuxed : ofReply reply device = (result, after)) :
    (result = .ignored ∨ result = .malformed ∨ (∃ code, result = .errorResult code) →
      after = device) ∧
    (∀ applied, result = .status applied → reply.IsStatusList ∧
      ∃ entries, reply.payload = listed entries ∧ (∀ entry ∈ entries, entry.IsGrammatical) ∧
        applied = entries.countP (·.id ∈ [10, 39, 70]) ∧
        after.state = { device.state with
          recording := after.state.recording
          videoCount := after.state.videoCount
          battery := after.state.battery } ∧
        EndsAt 10 entries (.recording after.state.recording)
          (after.state.recording = device.state.recording) ∧
        EndsAt 39 entries (.videoCount after.state.videoCount)
          (after.state.videoCount = device.state.videoCount) ∧
        EndsAt 70 entries (.battery after.state.battery)
          (after.state.battery = device.state.battery)) ∧
    (result = .hardwareInfo → reply.IsHardwareInfo ∧
      ∃ info exact, HardwareInfo.read reply.payload = .ok (info, exact) ∧
        after.state = { device.state with modelInfo := some info }) ∧
    (reply.IsStatusList → ∀ entries, (∀ entry ∈ entries, entry.IsGrammatical) →
      (reply.payload = listed entries → ∃ applied, result = .status applied) ∧
      ∀ rest cause, reply.payload = listed entries ++ rest → StatusError.Breaks rest cause →
        result = .malformed) ∧
    (reply.IsHardwareInfo → ∀ info exact, HardwareInfo.read reply.payload = .ok (info, exact) →
      result = .hardwareInfo) ∧
    (after.state.connectivity = device.state.connectivity ∧ after.state.name = device.state.name ∧
      after.state.wifiSsid = device.state.wifiSsid ∧
      after.state.wifiPassword = device.state.wifiPassword) ∧
    (device.announced = device.connectivity → after = { device with state := after.state }) := by
  have learnt := ofReply_learnt demuxed
  have state := ofReply_state demuxed
  refine ⟨?_, ?_, ?_, ?_, ?_, ?_, ofReply_quiet demuxed⟩
  · intro unread
    cases learnt with
    | nothing => rfl
    | status | hardware => simp at unread
  · intro applied same
    subst same
    cases learnt with
    | nothing unread => simp at unread
    | status list read =>
        obtain ⟨entries, payload, mean⟩ := StatusEntry.readList_ok_iff.mp read
        have fields := StatusEntry.endsAt_fields mean device.state
        rw [Device.update_state]
        exact ⟨list, entries, payload, StatusEntry.grammatical_of_mean mean,
          StatusEntry.countP_isKnown mean, StatusValue.applyAll_eq _ _, fields⟩
  · intro same
    subst same
    cases learnt with
    | nothing unread => simp at unread
    | hardware described read => exact ⟨described, _, _, read, Device.update_state _ _⟩
  · intro list entries grammatical
    constructor
    · intro payload
      obtain ⟨applied, _, same⟩ := @ofReply_listed reply device entries list payload grammatical
      exact ⟨applied, congrArg Prod.fst (demuxed.symm.trans same)⟩
    · intro rest cause payload breaks
      have broken := @ofReply_broken reply device entries rest cause list payload grammatical breaks
      exact congrArg Prod.fst (demuxed.symm.trans broken)
  · intro described info exact read
    rw [ofReply_hardware described, ofHardwareInfo, read] at demuxed
    exact congrArg Prod.fst demuxed.symm
  · rw [state]
    exact ⟨rfl, rfl, rfl, rfl⟩

/-- The battery is told twice. -/
def repeatedBattery : Assembled := ⟨.query, [0x53, 0, 70, 1, 64, 39, 1, 12, 70, 1, 65], 1⟩

theorem demux_touches_only_of_repeated : ∃ after,
    ofReply repeatedBattery {} = (.status 3, after) ∧
      (∃ entries, repeatedBattery.payload = listed entries ∧
        3 = entries.countP (·.id ∈ [10, 39, 70])) ∧
      after.state.battery = 65 ∧ after.state.videoCount = 12 ∧ after.state.name = none ∧
      after = { ({} : Device) with state := after.state } := by
  have list : repeatedBattery.IsStatusList := ⟨rfl, .inr (.inl rfl), rfl⟩
  have read : readList repeatedBattery.payload = .ok [.battery 64, .videoCount 12, .battery 65] :=
    StatusEntry.readList_ok_iff.mpr
      ⟨[⟨70, [64], by decide⟩, ⟨39, [12], by decide⟩, ⟨70, [65], by decide⟩], rfl,
        .cons .battery (.cons (.videoCount (by decide)) (.cons .battery .nil))⟩
  have demuxed : ofReply repeatedBattery {} =
      (.status 3, Device.update (applyAll [.battery 64, .videoCount 12, .battery 65]) {}) := by
    rw [ofReply_status list, ofStatus, read]
    rfl
  obtain ⟨-, status, -, -, -, ⟨-, name, -⟩, quiet⟩ := demux_touches_only demuxed
  obtain ⟨-, entries, payload, -, applied, -⟩ := status 3 rfl
  exact ⟨_, demuxed, ⟨entries, payload, applied⟩, rfl, rfl, name, quiet rfl⟩

end Demuxed

end CameraBridge
