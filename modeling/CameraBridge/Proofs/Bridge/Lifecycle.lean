import CameraBridge.Proofs.Bridge.Footprint
import CameraBridge.Proofs.Bridge.Hearing

namespace CameraBridge

/-! Connection and name over whole runs. The listener is the only one to change them, and what it
handled decides both: the last event that makes or ends a connection, and the last one that gives a
name or takes it away. -/

/-- That what began last was not ended since. -/
def Standing {Occurrence : Type} (begins ends : Occurrence → Prop) (history : List Occurrence) :
    Prop :=
  ∃ earlier occurrence later, history = earlier ++ occurrence :: later ∧ begins occurrence ∧
    ∀ other ∈ later, ¬ ends other

theorem Standing.none {Occurrence : Type} {begins ends : Occurrence → Prop} :
    ¬ Standing begins ends [] := by
  rintro ⟨earlier, occurrence, later, empty, -⟩
  simp at empty

theorem Standing.snoc {Occurrence : Type} {begins ends : Occurrence → Prop}
    {history : List Occurrence} {last : Occurrence} :
    Standing begins ends (history ++ [last]) ↔
      begins last ∨ Standing begins ends history ∧ ¬ ends last := by
  constructor
  · rintro ⟨earlier, occurrence, later, whole, begun, kept⟩
    rcases List.eq_nil_or_concat later with rfl | ⟨before, final, rfl⟩
    · obtain ⟨-, same⟩ := List.append_inj' whole rfl
      cases same
      exact .inl begun
    · rw [List.concat_eq_append, ← List.cons_append, ← List.append_assoc] at whole
      obtain ⟨front, same⟩ := List.append_inj' whole rfl
      cases same
      rw [List.concat_eq_append] at kept
      exact .inr ⟨⟨earlier, occurrence, before, front, begun, fun other member =>
        kept other (List.mem_append_left _ member)⟩, kept last (by simp)⟩
  · rintro (begun | ⟨⟨earlier, occurrence, later, rfl, begun, kept⟩, still⟩)
    · exact ⟨history, last, [], rfl, begun, nofun⟩
    · refine ⟨earlier, occurrence, later ++ [last], by simp, begun, fun other member => ?_⟩
      rcases List.mem_append.mp member with before | final
      · exact kept other before
      · rw [List.mem_singleton.mp final]
        exact still

/-- What the listener handles: an event, or silence, which finds the camera in some state. -/
inductive Occurrence where
  | event (event : CameraEvent)
  | silence (found : Connectivity)
  deriving DecidableEq

namespace Occurrence

def Connects (occurrence : Occurrence) : Prop := occurrence = .event .connected

def Parts (occurrence : Occurrence) : Prop :=
  occurrence = .event .authFailed ∨ occurrence = .event .disconnected

def Names (name : String) (occurrence : Occurrence) : Prop :=
  ∃ status, occurrence = .event (.advertisement status (some name))

def Forgets (occurrence : Occurrence) : Prop :=
  occurrence = .event .disconnected ∨
    ∃ found, occurrence = .silence found ∧ found ≠ .connected ∧ found ≠ .unknown

/-- A name lasts until there is another one, or it is forgotten. -/
def Unnames (occurrence : Occurrence) : Prop :=
  (∃ name, occurrence.Names name) ∨ occurrence.Forgets

/-- What it makes of the device state by itself, whatever a notification has to say. -/
def next (occurrence : Occurrence) (state : DeviceState) : DeviceState :=
  match occurrence with
  | .event (.advertisement status name) =>
      { state.next (.advertised status) with name := name.or state.name }
  | .event .connected => state.next .connected
  | .event .authFailed => state.next .authFailed
  | .event .disconnected => state.next .disconnected
  | .event _ => state
  | .silence found =>
      if found = .connected ∨ found = .unknown then state else state.next .idleTimeout

end Occurrence

/-- The part of a device state that tells who the camera is and whether it is there. -/
structure Presence where
  connectivity : Connectivity
  name : Option String

def DeviceState.presence (state : DeviceState) : Presence := ⟨state.connectivity, state.name⟩

theorem Demuxed.ofReply_presence (reply : Assembled) (device : Device) :
    (ofReply reply device).2.state.presence = device.state.presence := by
  have kept := congrArg DeviceState.presence (@ofReply_state reply device _ _ rfl)
  exact kept

/-! ### The history decides -/

/-- What a history says about connection and name. -/
structure Present (history : List Occurrence) (presence : Presence) : Prop where
  connected : presence.connectivity = .connected ↔
    Standing Occurrence.Connects Occurrence.Parts history
  named : ∀ name, presence.name = some name ↔
    Standing (Occurrence.Names name) Occurrence.Unnames history
  nameless : presence.connectivity = .unknown → presence.name = none

variable {history : List Occurrence} {state : DeviceState} {presence : Presence}

theorem start_present : Present [] ({} : DeviceState).presence where
  connected := ⟨nofun, fun standing => absurd standing Standing.none⟩
  named := fun _ => ⟨nofun, fun standing => absurd standing Standing.none⟩
  nameless := fun _ => rfl

/-- What neither gives nor takes a name or a connection leaves both as they are. -/
theorem Present.kept (present : Present history presence) {occurrence : Occurrence}
    (quiet : ¬ occurrence.Connects ∧ ¬ occurrence.Parts ∧ ¬ occurrence.Unnames) :
    Present (history ++ [occurrence]) presence := by
  obtain ⟨apart, together, anonymous⟩ := quiet
  have unnamed : ∀ name, ¬ occurrence.Names name := fun name named => anonymous (.inl ⟨name, named⟩)
  constructor
  · simp [Standing.snoc, present.connected, apart, together]
  · intro name
    simp [Standing.snoc, present.named, unnamed, anonymous]
  · exact present.nameless

theorem Connectivity.next_advertised_known (connectivity : Connectivity)
    (status : AdvertisedStatus) : connectivity.next (.advertised status) ≠ .unknown := by
  by_cases connected : connectivity = .connected
  · simp [next, connected]
  · cases status <;> simp [next, connected, AdvertisedStatus.connectivity]

theorem Present.advertised (present : Present history state.presence) (status : AdvertisedStatus)
    (name : Option String) :
    Present (history ++ [.event (.advertisement status name)])
      ((Occurrence.event (.advertisement status name)).next state).presence := by
  have connected : state.connectivity = .connected ↔ _ := present.connected
  have named : ∀ name, state.name = some name ↔ _ := present.named
  constructor
  · rw [Standing.snoc, ← connected]
    simp [Occurrence.next, DeviceState.presence, DeviceState.next, Connectivity.next_advertised,
      Occurrence.Connects, Occurrence.Parts]
  · intro wanted
    rw [Standing.snoc, ← named]
    cases name <;>
      simp [Occurrence.next, DeviceState.presence, Occurrence.Names, Occurrence.Unnames,
        Occurrence.Forgets]
  · exact fun unknown => absurd unknown (Connectivity.next_advertised_known _ status)

theorem Present.happened (present : Present history state.presence) (event : CameraEvent) :
    Present (history ++ [.event event]) ((Occurrence.event event).next state).presence := by
  have named : ∀ name, state.name = some name ↔ _ := present.named
  cases event with
  | advertisement status name => exact present.advertised status name
  | connected | authFailed =>
      constructor
      · rw [Standing.snoc]
        simp [Occurrence.next, DeviceState.presence, DeviceState.next, Connectivity.next,
          Occurrence.Connects, Occurrence.Parts]
      · intro wanted
        rw [Standing.snoc, ← named]
        simp [Occurrence.next, DeviceState.presence, DeviceState.next,
          ConnectionEvent.forgetsName, Occurrence.Names, Occurrence.Unnames, Occurrence.Forgets]
      · exact fun unknown => by cases unknown
  | disconnected =>
      constructor
      · rw [Standing.snoc]
        simp [Occurrence.next, DeviceState.presence, DeviceState.next, Connectivity.next,
          Occurrence.Connects, Occurrence.Parts]
      · intro wanted
        rw [Standing.snoc]
        simp [Occurrence.next, DeviceState.presence, DeviceState.next,
          ConnectionEvent.forgetsName, Occurrence.Names, Occurrence.Unnames, Occurrence.Forgets]
      · exact fun _ => rfl
  | subscribed | unsubscribed | notification | writeComplete =>
      exact present.kept (by
        simp [Occurrence.Connects, Occurrence.Parts, Occurrence.Unnames, Occurrence.Names,
          Occurrence.Forgets])

/-- Silence ends what was heard of a camera, unless that is connected or nothing was heard of it. -/
theorem Present.silent (present : Present history state.presence) :
    Present (history ++ [.silence state.connectivity])
      ((Occurrence.silence state.connectivity).next state).presence := by
  have connected : state.connectivity = .connected ↔ _ := present.connected
  by_cases ignored : state.connectivity = .connected ∨ state.connectivity = .unknown
  · simp only [Occurrence.next, if_pos ignored]
    refine present.kept ⟨fun connects => (by cases connects), ?_, ?_⟩
    · rintro (same | same) <;> cases same
    · rintro (⟨name, status, same⟩ | same | ⟨other, same, away, known⟩)
      · cases same
      · cases same
      · cases same
        exact ignored.elim away known
  · have forgets : (Occurrence.silence state.connectivity).Forgets :=
      .inr ⟨_, rfl, fun same => ignored (.inl same), fun same => ignored (.inr same)⟩
    simp only [Occurrence.next, if_neg ignored]
    constructor
    · rw [Standing.snoc, ← connected]
      simp only [not_or] at ignored
      simp [DeviceState.presence, DeviceState.next, Connectivity.next, Occurrence.Connects, ignored]
    · intro wanted
      rw [Standing.snoc]
      simp [DeviceState.presence, DeviceState.next, ConnectionEvent.forgetsName,
        Occurrence.Names, Occurrence.Unnames, forgets]
    · exact fun _ => rfl

theorem Present.changed (present : Present history state.presence) {occurrence : Occurrence}
    (fits : ∀ found, occurrence = .silence found → found = state.connectivity) :
    Present (history ++ [occurrence]) (occurrence.next state).presence := by
  cases occurrence with
  | event event => exact present.happened event
  | silence found =>
      obtain rfl := fits found rfl
      exact present.silent

namespace Bridge

variable {before after bridge : Bridge} {seen : Option Occurrence}

/-! ### What changes the device state -/

/-- What the listener's next move handles, if it takes up anything. -/
def occurrence? (bridge : Bridge) : Option Occurrence :=
  match bridge.listener, bridge.camera.events.unread with
  | .listening _, event :: _ => some (.event event)
  | .listening _, [] => some (.silence bridge.device.connectivity)
  | _, _ => none

def Act.occurrence? (next : Act) (before _after : Bridge) : Option Occurrence :=
  match next with
  | .move .listener => before.occurrence?
  | _ => none

/-- How the device state changes while something is handled, or nothing: notifications and others
leave alone who the camera is and whether it is there. -/
inductive Lived (before after : DeviceState) : Option Occurrence → Prop where
  | changed {occurrence : Occurrence} (same : after = occurrence.next before)
      (fits : ∀ found, occurrence = .silence found → found = before.connectivity) :
      Lived before after (some occurrence)
  | notified {channel : Channel} {data : Bytes} (same : after.presence = before.presence) :
      Lived before after (some (.event (.notification channel data)))
  | unseen (same : after.presence = before.presence) : Lived before after none

theorem forwardBody_device (channel : Channel) (data : Bytes) (assembled : Assembled)
    (bridge : Bridge) : (bridge.forwardBody channel data assembled).device = bridge.device := by
  obtain ⟨outbound, permits, listener, same⟩ := forwardBody_footprint channel data assembled bridge
  rw [same]

theorem gatherNotification_presence (channel : Channel) (data : Bytes) (bridge : Bridge) :
    (bridge.gatherNotification channel data).device.state.presence =
      bridge.device.state.presence := by
  unfold gatherNotification
  cases pushed : bridge.reassembler.push channel data with
  | mk reassembler outcome =>
      simp only
      split
      · rw [forwardBody_device]
        exact Demuxed.ofReply_presence _ _
      · rfl

theorem onNotification_presence (channel : Channel) (data : Bytes) (bridge : Bridge) :
    (bridge.onNotification channel data).device.state.presence = bridge.device.state.presence := by
  unfold onNotification
  split
  · rfl
  · exact gatherNotification_presence channel data bridge

theorem cancelStartup_device (bridge : Bridge) : bridge.cancelStartup.device = bridge.device := by
  obtain ⟨commands, startup, same, -⟩ := cancelStartup_footprint bridge
  rw [same]

theorem onEvent_lived (event : CameraEvent) (bridge : Bridge) :
    Lived bridge.device.state (bridge.onEvent event).device.state (some (.event event)) := by
  have fits : ∀ found, Occurrence.event event = .silence found →
      found = bridge.device.state.connectivity := nofun
  cases event with
  | advertisement status name =>
      refine .changed ?_ fits
      cases name <;>
        simp [onEvent, listen, updateDevice, applyEvent, Occurrence.next, DeviceState.next,
          ConnectionEvent.forgetsName]
  | connected =>
      have same : (bridge.applyEvent .connected).scheduleStartup.device = _ :=
        cancelStartup_device _
      exact .changed ((congrArg Device.state same).trans (Device.apply_state _ _)) fits
  | disconnected =>
      have same := cancelStartup_device (bridge.applyEvent .disconnected)
      exact .changed ((congrArg Device.state same).trans (Device.apply_state _ _)) fits
  | authFailed => exact .changed (Device.apply_state .authFailed bridge.device) fits
  | notification channel data => exact .notified (onNotification_presence channel data bridge)
  | subscribed | unsubscribed | writeComplete => exact .changed rfl fits

theorem onSilence_lived (bridge : Bridge) :
    Lived bridge.device.state bridge.onSilence.device.state
      (some (.silence bridge.device.connectivity)) := by
  refine .changed ?_ fun found same => by cases same; rfl
  unfold onSilence
  split
  · next ignored => simp [listen, Occurrence.next, ignored]
  · next away => simp [listen, applyEvent, Occurrence.next, away]

theorem stepListener_lived (moved : before.stepListener = some after) :
    Lived before.device.state after.device.state before.occurrence? := by
  unfold stepListener at moved
  split at moved
  · next silence listening =>
      split at moved
      · next event rest unread =>
          cases moved
          have taken : before.occurrence? = some (.event event) := by
            simp only [occurrence?, listening, unread]
          rw [taken]
          exact onEvent_lived event { before with
            camera := { before.camera with events := { before.camera.events with unread := rest } } }
      · next unread =>
          have silent : before.occurrence? = some (.silence before.device.connectivity) := by
            simp only [occurrence?, listening, unread]
          rw [silent]
          split at moved
          · simp only [Option.ite_none_left_eq_some, Option.some.injEq] at moved
            obtain ⟨-, rfl⟩ := moved
            exact onSilence_lived before
          · cases moved
  · next channel data publication forwarding =>
      have nothing : before.occurrence? = none := by simp only [occurrence?, forwarding]
      rw [nothing]
      split at moved
      · cases moved
      · next stepped =>
          cases moved
          obtain ⟨replies, rfl⟩ := stepReply_footprint stepped
          exact .unseen rfl
      · next stepped =>
          cases moved
          obtain ⟨replies, rfl⟩ := stepReply_footprint stepped
          exact .unseen (gatherNotification_presence channel data _)
  · next publication replying =>
      have nothing : before.occurrence? = none := by simp only [occurrence?, replying]
      rw [nothing]
      split at moved
      · cases moved
      all_goals
        next stepped =>
          cases moved
          obtain ⟨outbound, -, rfl⟩ := stepOutbound_invert stepped
          exact .unseen rfl
  · cases moved

/-- Of the other workers only the consumer has a part in the device state, that of the credentials. -/
theorem stepConsumer_presence (moved : before.stepConsumer = some after) :
    after.device.state.presence = before.device.state.presence := by
  unfold stepConsumer at moved
  split at moved
  · simp only [Option.map_eq_some_iff, Prod.exists] at moved
    obtain ⟨payload, inbound, -, rfl⟩ := moved
    unfold consume
    split
    · rfl
    · split
      · next begun =>
          obtain ⟨commands, -, rfl⟩ := beginCommand_invert begun
          rfl
      · rfl
    · split
      · next begun =>
          obtain ⟨batches, -, rfl⟩ := beginBatch_invert begun
          rfl
      · rfl
    · simp [finishPayload, DeviceState.presence, WifiCredentials.store]
  · split at moved
    · cases moved
    all_goals
      next stepped =>
        cases moved
        obtain ⟨commands, -, rfl⟩ := stepCommand_invert stepped
        rfl
  · split at moved
    · cases moved
    all_goals
      next stepped =>
        cases moved
        obtain ⟨batches, -, rfl⟩ := stepBatch_invert stepped
        rfl
  · cases moved

theorem step_presence {task : Task} (other : task ≠ .listener)
    (moved : before.step task = some after) :
    after.device.state.presence = before.device.state.presence := by
  cases task with
  | listener => exact absurd rfl other
  | consumer => exact stepConsumer_presence moved
  | writer =>
      obtain ⟨commands, batches, gates, camera, permits, outbound, writer, rfl⟩ :=
        stepWriter_footprint moved
      rfl
  | ingress =>
      obtain ⟨bus, commands, canFrames, ingress, rfl, -⟩ := stepIngress_footprint moved
      rfl
  | mapper =>
      obtain ⟨replies, canFrames, mapper, rfl⟩ := stepMapper_footprint moved
      rfl
  | heartbeat =>
      obtain ⟨canFrames, heartbeat, rfl⟩ := stepHeartbeat_footprint moved
      rfl
  | egress =>
      obtain ⟨bus, canFrames, egress, rfl⟩ := stepEgress_footprint moved
      rfl
  | intake =>
      obtain ⟨hostLink, receiver, inbound, intake, rfl⟩ := stepIntake_footprint moved
      rfl
  | transmitter =>
      obtain ⟨replyLink, outbound, permits, transmitter, rfl⟩ := stepTransmitter_footprint moved
      rfl
  | startup =>
      obtain ⟨commands, startup, rfl, -⟩ := stepStartup_footprint moved
      rfl
  | call number =>
      obtain ⟨bus, commands, outbound, permits, calls, rfl, -⟩ := stepCall_footprint moved
      rfl

theorem shutdown_device (bridge : Bridge) : bridge.shutdown.device = bridge.device := by
  rw [(shutdown_spared bridge).device, stopWriter_device, cancelStartup_device]

theorem act_lived {next : Act} (acted : before.act next = some after) :
    Lived before.device.state after.device.state (next.occurrence? before after) := by
  cases next with
  | move task =>
      by_cases listens : task = .listener
      · subst listens
        exact stepListener_lived acted
      · have unseen : (Act.move task).occurrence? before after = none := by
          cases task <;> first | rfl | exact absurd rfl listens
        rw [unseen]
        exact .unseen (step_presence listens acted)
  | submit message =>
      cases acted
      obtain ⟨commands, calls, same, -⟩ := submit_footprint message before
      exact .unseen (by rw [same])
  | sendLargeReply channel body =>
      cases acted
      obtain ⟨permits, outbound, calls, same⟩ := sendLargeReply_footprint channel body before
      exact .unseen (by rw [same])
  | readTap subscriber =>
      cases acted
      obtain ⟨canFrames, same⟩ := readTap_footprint subscriber before
      exact .unseen (by rw [same])
  | shutdown =>
      cases acted
      exact .unseen (by rw [shutdown_device])
  | pass | relink | sendOnBus | tap | dropTap =>
      cases acted
      exact .unseen rfl

/-! ### Runs -/

theorem Lived.present (lived : Lived before.device.state after.device.state seen)
    (present : Present history before.device.state.presence) :
    Present (history ++ seen.toList) after.device.state.presence := by
  cases lived with
  | changed same fits =>
      rw [same]
      exact present.changed fits
  | notified same =>
      rw [same]
      exact present.kept (by
        simp [Occurrence.Connects, Occurrence.Parts, Occurrence.Unnames, Occurrence.Names,
          Occurrence.Forgets])
  | unseen same =>
      rw [same, Option.toList_none, List.append_nil]
      exact present

/-- What the listener handles touches nothing else of the device state, except for notifications. -/
theorem Lived.lifecycle {occurrence : Occurrence}
    (lived : Lived before.device.state after.device.state (some occurrence))
    (other : ∀ channel data, occurrence ≠ .event (.notification channel data)) :
    after.device.state = { before.device.state with
      connectivity := after.device.state.connectivity, name := after.device.state.name } := by
  cases lived with
  | notified same => exact absurd rfl (other _ _)
  | changed same fits =>
      rw [same]
      cases occurrence with
      | event event => cases event <;> rfl
      | silence found =>
          simp only [Occurrence.next]
          split <;> rfl

/-- Whatever happens to a bridge that starts with nothing known of the camera, it is connected if and
only if the last event to make or end a connection made one, and it has the name that came last unless
that was forgotten since. A camera in no known state has no name. Nothing else that is known of the
camera changes while events other than notifications are handled, or silence is. -/
theorem presence_of_history {timing : Timing} {queueDepth : Nat} {links : OpenLinks} {acts : List Act}
    (watched : (start timing queueDepth {} links).watch Act.occurrence? acts =
      some (history, bridge)) :
    (bridge.device.connectivity = .connected ↔
      Standing Occurrence.Connects Occurrence.Parts history) ∧
    (∀ name, bridge.device.state.name = some name ↔
      Standing (Occurrence.Names name) Occurrence.Unnames history) ∧
    (bridge.device.connectivity = .unknown → bridge.device.state.name = none) ∧
    ∀ next after occurrence, bridge.act next = some after →
      next.occurrence? bridge after = some occurrence →
      (∀ channel data, occurrence ≠ .event (.notification channel data)) →
      after.device.state = { bridge.device.state with
        connectivity := after.device.state.connectivity, name := after.device.state.name } := by
  have present : Present history bridge.device.state.presence := by
    refine watch_history (fun seen reached => Present seen reached.device.state.presence)
      (fun seen next before after present acted => (act_lived acted).present present) ?_ watched
    exact start_present
  refine ⟨present.connected, present.named, present.nameless, ?_⟩
  intro next after occurrence acted seen other
  have lived := act_lived acted
  rw [seen] at lived
  exact lived.lifecycle other

/-- A camera is found, connects, and is late with an advertisement under another name. -/
def findAndRename : List Act :=
  [.relink { events := { unread :=
      [.advertisement .online (some "HERO"), .connected, .advertisement .offline (some "HERO9")] } }
      {} {} {},
    .move .listener, .move .listener, .move .listener]

theorem watch_findAndRename : ((start {} 8 {} {}).watch Act.occurrence? findAndRename).map Prod.fst =
    some [.event (.advertisement .online (some "HERO")), .event .connected,
      .event (.advertisement .offline (some "HERO9"))] := by
  decide +kernel

theorem presence_of_history_while_connected : ∃ history bridge,
    (start {} 8 {} {}).watch Act.occurrence? findAndRename = some (history, bridge) ∧
      history = [.event (.advertisement .online (some "HERO")), .event .connected,
        .event (.advertisement .offline (some "HERO9"))] ∧
      bridge.device.connectivity = .connected ∧ bridge.device.state.name = some "HERO9" := by
  obtain ⟨⟨history, bridge⟩, watched, seen⟩ := Option.map_eq_some_iff.mp watch_findAndRename
  simp only at seen
  obtain ⟨connected, named, -⟩ := presence_of_history watched
  refine ⟨history, bridge, watched, seen, connected.mpr ?_, (named "HERO9").mpr ?_⟩
  · exact ⟨[_], .event .connected, [_], seen, rfl, by simp [Occurrence.Parts]⟩
  · exact ⟨[_, _], .event (.advertisement .offline (some "HERO9")), [], seen, ⟨.offline, rfl⟩, nofun⟩

end Bridge

end CameraBridge
