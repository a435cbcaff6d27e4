import CameraBridge.Proofs.Bridge.Gating
import CameraBridge.Proofs.Framing.RoundTrip
import CameraBridge.Proofs.Record.RoundTrip

namespace CameraBridge

/-! What a host's payload demands, read off its bytes and the connection: one thing, always. What it
is made into agrees with that. -/

/-! ### The frames of a body -/

/-- The messages of a body are its frames on a channel, and a reassembler makes the body of them
again. -/
theorem Frame.messages_exist (channel : Channel) {body : Bytes} (bounded : body.length ≤ maxBody) :
    ∃ messages, Frame.messages channel body = .ok messages ∧ messages ≠ [] ∧
      (∀ message ∈ messages, message.channel = channel) ∧
      (body ≠ [] → ∀ reassembler : Reassembler,
        reassembler.observe (messages.map fun message => .push message.channel message.payload) =
          Reassembler.arrival messages.length ⟨channel, body, messages.length⟩) := by
  obtain ⟨frames, split, framed⟩ := ofBody_framed bounded
  have shape := framed.shape
  obtain ⟨messages, made, same, onChannel⟩ := Message.mapM_make channel (fun _ => .bodyTooLarge body.length)
    fun frame member => (shape.sized frame member).2
  have built : Frame.messages channel body = .ok messages := by
    simp only [Frame.messages, split, bind, Except.bind]
    exact made
  refine ⟨messages, built, ?_, onChannel, ?_⟩
  · rintro rfl
    cases same
    obtain ⟨first, nothing, -⟩ := shape.starts
    cases nothing
  · intro filled reassembler
    obtain ⟨others, again, observed, -⟩ := reassembler.observe_ofBody channel body
      (List.length_pos_iff.mpr filled) bounded
    cases split.symm.trans again
    have pushed : messages.map (fun message => Reassembler.Input.push message.channel message.payload) =
        Reassembler.notifications channel frames := by
      rw [Reassembler.notifications, ← same, List.map_map]
      refine List.map_congr_left fun message member => ?_
      rw [onChannel message member]
      rfl
    rw [pushed, observed, ← same, List.length_map]

/-! ### Demands -/

/-- What a host's payload demands. -/
inductive Demand where
  /-- Nothing that can be done. -/
  | nothing
  | command (content : Bytes)
  | body (channel : Channel) (content : Bytes)
  | credentials (credentials : WifiCredentials)

def Envelope.targets : List UInt32 := [0, 1, 2, 3, 0xFE, 0xFF]

/-- What a payload demands by its bytes, while the camera is connected or not. -/
inductive Demands (payload : Bytes) (connected : Bool) : Demand → Prop where
  | garbled {cause : EnvelopeError} (read : Envelope.ofBytes payload = .error cause) :
      Demands payload connected .nothing
  | astray {envelope : Envelope} (read : Envelope.ofBytes payload = .ok envelope)
      (unknown : envelope.target ∉ Envelope.targets) : Demands payload connected .nothing
  | oversized {content : Bytes} (read : Envelope.ofBytes payload = .ok ⟨0xFF, content⟩)
      (long : 20 < content.length) : Demands payload connected .nothing
  | overlong {channel : Channel} {content : Bytes} (remote : channel ∈ Channel.ble)
      (read : Envelope.ofBytes payload = .ok (.toChannel channel content))
      (long : 65535 < content.length) : Demands payload connected .nothing
  | apart {channel : Channel} {content : Bytes} (remote : channel ∈ Channel.ble)
      (read : Envelope.ofBytes payload = .ok (.toChannel channel content))
      (away : connected = false) : Demands payload connected .nothing
  | unreadable {record : Bytes} {cause : EnvelopeError}
      (read : Envelope.ofBytes payload = .ok ⟨0xFE, record⟩)
      (failed : WifiCredentials.ofBytes record = .error cause) : Demands payload connected .nothing
  | command {content : Bytes} (read : Envelope.ofBytes payload = .ok ⟨0xFF, content⟩)
      (fits : content.length ≤ 20) : Demands payload connected (.command content)
  | body {channel : Channel} {content : Bytes} (remote : channel ∈ Channel.ble)
      (read : Envelope.ofBytes payload = .ok (.toChannel channel content))
      (fits : content.length ≤ 65535) (there : connected = true) :
      Demands payload connected (.body channel content)
  | credentials {record : Bytes} {credentials : WifiCredentials}
      (read : Envelope.ofBytes payload = .ok ⟨0xFE, record⟩)
      (decoded : WifiCredentials.ofBytes record = .ok credentials) :
      Demands payload connected (.credentials credentials)

variable {payload : Bytes} {connected : Bool} {device : Device}

/-- The six targets: the camera's channels, the bridge itself and the store of credentials. -/
theorem Envelope.target_cases (envelope : Envelope) :
    envelope.target ∉ targets ∨ (∃ channel ∈ Channel.ble, envelope = .toChannel channel envelope.data) ∨
      envelope = ⟨0xFE, envelope.data⟩ ∨ envelope = ⟨0xFF, envelope.data⟩ := by
  obtain ⟨target, data⟩ := envelope
  by_cases known : target ∈ targets
  · simp only [targets, List.mem_cons, List.not_mem_nil, or_false] at known
    rcases known with rfl | rfl | rfl | rfl | rfl | rfl
    · exact .inr (.inl ⟨.cmd, by decide, rfl⟩)
    · exact .inr (.inl ⟨.settings, by decide, rfl⟩)
    · exact .inr (.inl ⟨.query, by decide, rfl⟩)
    · exact .inr (.inl ⟨.net, by decide, rfl⟩)
    · exact .inr (.inr (.inl rfl))
    · exact .inr (.inr (.inr rfl))
  · exact .inl known

theorem Envelope.toChannel_inj {channel other : Channel} {content different : Bytes}
    (same : toChannel channel content = toChannel other different) :
    channel = other ∧ content = different := by
  have target := congrArg destination same
  rw [destination_toChannel, destination_toChannel] at target
  cases target
  exact ⟨rfl, congrArg Envelope.data same⟩

theorem Demands.exists (payload : Bytes) (connected : Bool) :
    ∃ demand, Demands payload connected demand := by
  cases read : Envelope.ofBytes payload with
  | error cause => exact ⟨_, .garbled read⟩
  | ok envelope =>
      obtain unknown | ⟨channel, remote, same⟩ | same | same := envelope.target_cases
      · exact ⟨_, .astray read unknown⟩
      · rw [same] at read
        by_cases fits : envelope.data.length ≤ 65535
        · cases connected with
          | false => exact ⟨_, .apart remote read rfl⟩
          | true => exact ⟨_, .body remote read fits rfl⟩
        · exact ⟨_, .overlong remote read (Nat.lt_of_not_le fits)⟩
      · rw [same] at read
        cases decoded : WifiCredentials.ofBytes envelope.data with
        | error cause => exact ⟨_, .unreadable read decoded⟩
        | ok credentials => exact ⟨_, .credentials read decoded⟩
      · rw [same] at read
        by_cases fits : envelope.data.length ≤ 20
        · exact ⟨_, .command read fits⟩
        · exact ⟨_, .oversized read (Nat.lt_of_not_le fits)⟩

/-! ### What is made of a payload -/

namespace Dispatch

theorem ofPayload_garbled {cause : EnvelopeError}
    (read : Envelope.ofBytes payload = .error cause) :
    ofPayload payload = .error (.envelope cause) := by
  simp only [ofPayload, read, mapError_error, bind, Except.bind]

theorem ofPayload_astray {envelope : Envelope} (read : Envelope.ofBytes payload = .ok envelope)
    (unknown : envelope.target ∉ Envelope.targets) :
    ofPayload payload = .error (.envelope (.unknownTarget envelope.target)) := by
  have refused : envelope.destination = .error (.unknownTarget envelope.target) := by
    simp only [Envelope.targets, List.mem_cons, List.not_mem_nil, or_false, not_or] at unknown
    obtain ⟨zero, one, two, three, credentials, control⟩ := unknown
    rw [Envelope.destination, if_neg (show envelope.target ≠ Envelope.wifiTarget from credentials)]
    split
    · next small =>
        have same : UInt32.ofNat (UInt8.ofNat envelope.target.toNat).toNat = envelope.target := by
          rw [UInt8.toNat_ofNat_of_lt' small, UInt32.ofNat_toNat]
        have apart : ∀ tag : UInt8, envelope.target ≠ UInt32.ofNat tag.toNat →
            UInt8.ofNat envelope.target.toNat ≠ tag := fun tag other found =>
          other (by rw [← found, same])
        simp only [Channel.ofWire?, apart 0 zero, apart 1 one, apart 2 two, apart 3 three,
          apart 0xFF control, if_false]
    · rfl
  simp only [ofPayload, read, refused, mapError_error, mapError_ok, bind, Except.bind]

theorem ofPayload_command {content : Bytes} (read : Envelope.ofBytes payload = .ok ⟨0xFF, content⟩) :
    ofPayload payload =
      ((Message.make .control content).mapError DispatchError.message).map .command := by
  have target : Envelope.destination ⟨0xFF, content⟩ = .ok (.channel .control) := rfl
  simp only [ofPayload, read, target, mapError_ok, bind, Except.bind, pure, Except.pure]
  cases made : Message.make .control content <;> rfl

theorem ofPayload_body {channel : Channel} {content : Bytes} (remote : channel ∈ Channel.ble)
    (read : Envelope.ofBytes payload = .ok (.toChannel channel content)) :
    ofPayload payload = ((Frame.messages channel content).mapError DispatchError.frame).map .batch := by
  have data : (Envelope.toChannel channel content).data = content := rfl
  simp only [ofPayload, read, Envelope.destination_toChannel, data, mapError_ok, bind, Except.bind,
    pure, Except.pure]
  cases channel with
  | control => exact absurd remote (by decide)
  | cmd | settings | query | net =>
      cases made : Frame.messages _ content <;> simp only [made] <;> rfl

theorem ofPayload_credentials {record : Bytes}
    (read : Envelope.ofBytes payload = .ok ⟨0xFE, record⟩) :
    ofPayload payload =
      ((WifiCredentials.ofBytes record).mapError DispatchError.envelope).map .credentials := by
  have target : Envelope.destination ⟨0xFE, record⟩ = .ok .wifiCredentials := rfl
  simp only [ofPayload, read, target, Envelope.credentials, mapError_ok, bind, Except.bind, pure,
    Except.pure]
  cases decoded : WifiCredentials.ofBytes record <;> rfl

end Dispatch

/-- What a payload is made into agrees with the demand. Frames for the camera are made all the same
while it is not connected, only to be refused. -/
def Demand.Made (connected : Bool) (made : Except DispatchError Dispatch) : Demand → Prop
  | .nothing =>
      (∃ cause, made = .error cause) ∨ connected = false ∧
        ∃ messages, made = .ok (.batch messages) ∧ AreRemote messages ∧ messages ≠ []
  | .command content => ∃ fits, made = .ok (.command ⟨.control, content, fits⟩)
  | .body channel content =>
      connected = true ∧ ∃ messages, made = .ok (.batch messages) ∧ messages ≠ [] ∧
        (∀ message ∈ messages, message.channel = channel) ∧
        (content ≠ [] → ∀ reassembler : Reassembler,
          reassembler.observe (messages.map fun message => .push message.channel message.payload) =
            Reassembler.arrival messages.length ⟨channel, content, messages.length⟩)
  | .credentials record => made = .ok (.credentials record)

theorem Demands.made {demand : Demand} (demands : Demands payload connected demand) :
    demand.Made connected (Dispatch.ofPayload payload) := by
  cases demands with
  | garbled read => exact .inl ⟨_, Dispatch.ofPayload_garbled read⟩
  | astray read unknown => exact .inl ⟨_, Dispatch.ofPayload_astray read unknown⟩
  | @oversized content read long =>
      have above : ¬ content.length ≤ maxWrite := by simp only [maxWrite]; omega
      rw [Demand.Made, Dispatch.ofPayload_command read, Message.make, dif_neg above]
      exact .inl ⟨_, rfl⟩
  | overlong remote read long =>
      rw [Demand.Made, Dispatch.ofPayload_body remote read, Frame.messages, Frame.ofBody_long long]
      exact .inl ⟨_, rfl⟩
  | @apart channel content remote read away =>
      rw [Demand.Made, Dispatch.ofPayload_body remote read]
      by_cases bounded : content.length ≤ Frame.maxBody
      · obtain ⟨messages, built, nonempty, onChannel, -⟩ := Frame.messages_exist channel bounded
        rw [built]
        refine .inr ⟨away, messages, rfl, fun message member => ?_, nonempty⟩
        rw [onChannel message member]
        rintro rfl
        exact absurd remote (by decide)
      · rw [Frame.messages, Frame.ofBody_long (Nat.lt_of_not_le bounded)]
        exact .inl ⟨_, rfl⟩
  | unreadable read failed =>
      rw [Demand.Made, Dispatch.ofPayload_credentials read, failed]
      exact .inl ⟨_, rfl⟩
  | @command content read fits =>
      have fits : content.length ≤ maxWrite := fits
      rw [Demand.Made, Dispatch.ofPayload_command read, Message.make, dif_pos fits]
      exact ⟨fits, rfl⟩
  | @body channel content remote read fits there =>
      obtain ⟨messages, built, whole⟩ := Frame.messages_exist channel fits
      rw [Demand.Made, Dispatch.ofPayload_body remote read, built]
      exact ⟨there, messages, rfl, whole⟩
  | credentials read decoded =>
      rw [Demand.Made, Dispatch.ofPayload_credentials read, decoded]
      rfl

theorem Demands.unique {one other : Demand} (first : Demands payload connected one)
    (second : Demands payload connected other) : one = other := by
  -- What is made of the payload tells the demands apart, but for the channel of a body.
  have made := first.made
  have also := second.made
  generalize Dispatch.ofPayload payload = dispatch at made also
  cases one with
  | nothing =>
      obtain ⟨cause, rfl⟩ | ⟨away, messages, rfl, -⟩ := made
      · cases other <;> simp [Demand.Made] at also ⊢
      · cases other <;> simp [Demand.Made, away] at also ⊢
  | command content =>
      obtain ⟨fits, rfl⟩ := made
      cases other <;> simp [Demand.Made] at also ⊢
      exact also.2
  | body channel content =>
      obtain ⟨there, messages, rfl, -⟩ := made
      cases other with
      | nothing | command | credentials => simp [Demand.Made, there] at also
      | body target text =>
          cases first with
          | body _ read =>
              cases second with
              | body _ again =>
                  obtain ⟨rfl, rfl⟩ := Envelope.toChannel_inj (Except.ok.inj (read.symm.trans again))
                  rfl
  | credentials record =>
      cases made
      cases other <;> simp [Demand.Made] at also ⊢
      exact also

end CameraBridge
