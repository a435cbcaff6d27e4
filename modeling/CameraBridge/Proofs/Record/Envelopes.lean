import CameraBridge.Proofs.Record.RoundTrip
import Mathlib.Data.List.Induction

namespace CameraBridge

/-! Envelopes and the credentials in them, written and read back. A length is written as a number of
sixty-four bits at most, so that bytes come back exactly when their length is such a number; whatever
was read has such a length. -/

namespace Record

variable {schema : List Rule} {bytes rest taken : Bytes}

theorem read_failed {cause : Error} (nonempty : bytes ≠ [])
    (failed : readField schema bytes = .error cause) : read schema bytes = .error cause := by
  cases bytes with
  | nil => exact absurd rfl nonempty
  | cons byte tail =>
      rw [read]
      split
      · next same =>
          rw [failed] at same
          cases same
          rfl
      · next same => cases failed.symm.trans same

theorem readBlob_lt (found : readBlob bytes = .ok (taken, rest)) : taken.length < 2 ^ 64 := by
  unfold readBlob readNumber at found
  split at found
  · next length left number =>
      split at number
      · next pair same =>
          cases number
          have bound := Varint.read_lt same
          unfold readExactly at found
          split at found
          · cases found
          · cases found
            rw [List.length_take]
            omega
      · cases number
  · cases found

theorem readValue_blob_lt {kind : Kind} (found : readValue kind bytes = .ok (.blob taken, rest)) :
    taken.length < 2 ^ 64 := by
  cases kind with
  | number =>
      simp only [readValue] at found
      cases same : readNumber bytes <;> simp [same, Except.map] at found
  | blob =>
      simp only [readValue] at found
      cases same : readBlob bytes with
      | error cause => simp [same, Except.map] at found
      | ok pair =>
          simp only [same, Except.map, Except.ok.injEq, Prod.mk.injEq, Value.blob.injEq] at found
          obtain ⟨rfl, rfl⟩ := found
          exact readBlob_lt same
  | text =>
      simp only [readValue] at found
      split at found
      · cases found
      · split at found <;> cases found

theorem readField_blob_lt {tag : Nat}
    (found : readField schema bytes = .ok (some (tag, .blob taken), rest)) :
    taken.length < 2 ^ 64 := by
  unfold readField at found
  split at found
  · cases found
  · split at found
    · split at found <;> cases found
    · split at found
      · split at found
        · cases found
        · next value =>
            cases found
            exact readValue_blob_lt value
      · cases found

/-- Every bytes that a record holds are as long as a length can say. -/
theorem read_blob_lt {entries : List Entry} (found : read schema bytes = .ok entries) {tag : Nat}
    (member : (tag, .blob taken) ∈ entries) : taken.length < 2 ^ 64 := by
  fun_induction read schema bytes generalizing entries with
  | case1 =>
      cases found
      exact nomatch member
  | case2 => cases found
  | case3 byte tail entry rest field ih =>
      cases others : read schema rest with
      | error cause => simp [others, Except.map] at found
      | ok later =>
          simp only [others, Except.map, Except.ok.injEq] at found
          subst found
          rcases List.mem_append.mp member with own | later
          · rw [Option.mem_toList.mp own] at field
            exact readField_blob_lt field
          · exact ih others later

/-- What a field holds at the end are the bytes of one of its entries, unless it has none. -/
theorem blob_mem (tag : Nat) (entries : List Entry) :
    blob tag entries = [] ∨ (tag, .blob (blob tag entries)) ∈ entries := by
  induction entries using List.reverseRecOn with
  | nil => exact .inl rfl
  | append_singleton earlier last ih =>
      obtain ⟨found, value⟩ := last
      have kept : blob tag (earlier ++ [(found, value)]) = blob tag earlier →
          blob tag (earlier ++ [(found, value)]) = [] ∨
            (tag, .blob (blob tag (earlier ++ [(found, value)]))) ∈ earlier ++ [(found, value)] := by
        intro same
        rw [same]
        exact ih.imp_right (List.mem_append_left _)
      cases value with
      | number | text => exact kept (by simp [blob])
      | blob bytes =>
          by_cases own : found = tag
          · have last : blob tag (earlier ++ [(found, .blob bytes)]) = bytes := by simp [blob, own]
            rw [last, own]
            exact .inr (List.mem_append_right _ (List.mem_singleton_self _))
          · exact kept (by simp [blob, own])

theorem length_le_encodeBlob (tag : Nat) (bytes : Bytes) :
    bytes.length ≤ (encodeBlob tag bytes).length := by
  cases bytes with
  | nil => exact Nat.zero_le _
  | cons byte tail =>
      simp only [encodeBlob, List.length_append]
      omega

end Record

theorem Utf8.empty_of_encode {text : String} (nothing : Utf8.encode text = []) : text = "" := by
  have back := Utf8.decode?_encode text
  rw [nothing] at back
  exact (Option.some.inj back).symm

/-! ### Credentials -/

namespace WifiCredentials

open Record in
theorem ofBytes_toBytes (credentials : WifiCredentials)
    (bound : credentials.toBytes.length < 2 ^ 64) :
    ofBytes credentials.toBytes = .ok credentials := by
  obtain ⟨ssid, password⟩ := credentials
  simp only [toBytes, List.length_append] at bound
  have short := length_le_encodeBlob 1 (Utf8.encode ssid)
  have less := length_le_encodeBlob 2 (Utf8.encode password)
  have names := @read_encodeText schema ⟨1, "WifiCredentials.ssid", .text⟩ (by decide) (by decide)
    rfl rfl ssid (by omega) (encodeBlob 2 (Utf8.encode password))
  have secrets := @read_encodeText schema ⟨2, "WifiCredentials.password", .text⟩ (by decide)
    (by decide) rfl rfl password (by omega) []
  rw [List.append_nil, Record.read] at secrets
  rw [ofBytes, toBytes, decode, names, secrets]
  -- A field that is left out is empty, and so is what is read in its place.
  by_cases unnamed : Utf8.encode ssid = [] <;> by_cases open? : Utf8.encode password = [] <;>
    simp only [unnamed, open?, if_true, if_false]
  · rw [Utf8.empty_of_encode unnamed, Utf8.empty_of_encode open?]
    rfl
  · rw [Utf8.empty_of_encode unnamed]
    rfl
  · rw [Utf8.empty_of_encode open?]
    rfl
  · rfl

end WifiCredentials

/-! ### Envelopes -/

namespace Envelope

open Record in
/-- The length of longer data is no number that can be read. -/
theorem ofBytes_toBytes_long (envelope : Envelope) (long : 2 ^ 64 ≤ envelope.data.length) :
    ofBytes envelope.toBytes = .error (.decode (.inField "Envelope.data" .invalidVarint)) := by
  obtain ⟨target, data⟩ := envelope
  have nonempty : data ≠ [] := List.ne_nil_of_length_pos (by simp only at long; omega)
  have numbers := @read_encodeNumber schema ⟨1, "Envelope.target_channel", .number⟩ (by decide)
    (by decide) rfl rfl target (encodeBlob 2 data)
  have field := @readField_encodeBlob schema ⟨2, "Envelope.data", .blob⟩ (by decide) (by decide) rfl
    rfl data nonempty []
  simp only [readValue, readBlob, readNumber, Varint.read_encode_long long, Except.map,
    List.append_nil] at field
  have written : encodeBlob 2 data ≠ [] := by
    intro nothing
    rw [nothing] at field
    cases field
  rw [ofBytes, toBytes, decode, numbers, read_failed written field]
  rfl

theorem lt_of_ofBytes_toBytes {written found : Envelope}
    (back : ofBytes written.toBytes = .ok found) : written.data.length < 2 ^ 64 :=
  Nat.lt_of_not_le fun long => nomatch back.symm.trans (ofBytes_toBytes_long written long)

theorem data_lt {bytes : Bytes} {envelope : Envelope} (found : ofBytes bytes = .ok envelope) :
    envelope.data.length < 2 ^ 64 := by
  unfold ofBytes Record.decode at found
  cases entries : Record.read schema bytes with
  | error cause =>
      rw [entries] at found
      cases found
  | ok fields =>
      rw [entries] at found
      cases found
      obtain nothing | member := Record.blob_mem 2 fields
      · simp [nothing]
      · exact Record.read_blob_lt entries member

theorem destination_ofCredentials (credentials : WifiCredentials) :
    (ofCredentials credentials).destination = .ok .wifiCredentials := rfl

/-- What is written with one of the targets is read back with that target and the same content,
exactly when the length of the data is one that can be written. What was read can always be. -/
theorem envelope_round_trip :
    (∀ target data, ofBytes (toBytes ⟨target, data⟩) = .ok ⟨target, data⟩ ↔
      data.length < 2 ^ 64) ∧
    (∀ channel data, (∃ envelope, ofBytes (toChannel channel data).toBytes = .ok envelope ∧
        envelope.destination = .ok (.channel channel) ∧ envelope.data = data) ↔
      data.length < 2 ^ 64) ∧
    (∀ credentials : WifiCredentials,
      (∃ envelope, ofBytes (ofCredentials credentials).toBytes = .ok envelope ∧
        envelope.destination = .ok .wifiCredentials ∧ envelope.credentials = .ok credentials) ↔
      credentials.toBytes.length < 2 ^ 64) ∧
    ∀ bytes envelope, ofBytes bytes = .ok envelope →
      ofBytes envelope.toBytes = .ok envelope := by
  refine ⟨fun target data => ⟨lt_of_ofBytes_toBytes, ofBytes_toBytes ⟨target, data⟩⟩,
    fun channel data => ⟨?_, ?_⟩, fun credentials => ⟨?_, ?_⟩,
    fun bytes envelope found => ofBytes_toBytes envelope (data_lt found)⟩
  · rintro ⟨envelope, back, -, -⟩
    exact lt_of_ofBytes_toBytes back
  · intro bound
    exact ⟨_, ofBytes_toBytes _ bound, destination_toChannel channel data, rfl⟩
  · rintro ⟨envelope, back, -, -⟩
    exact lt_of_ofBytes_toBytes back
  · intro bound
    exact ⟨_, ofBytes_toBytes _ bound, destination_ofCredentials credentials,
      WifiCredentials.ofBytes_toBytes credentials bound⟩

/-- An unknown field is left out and the last of two targets stays. -/
theorem envelope_round_trip_of_repeated :
    ofBytes [0x1A, 1, 9, 0x08, 7, 0x08, 2, 0x12, 1, 5] = .ok ⟨2, [5]⟩ ∧
      ofBytes (toBytes ⟨2, [5]⟩) = .ok ⟨2, [5]⟩ := by
  have read : ofBytes [0x1A, 1, 9, 0x08, 7, 0x08, 2, 0x12, 1, 5] = .ok ⟨2, [5]⟩ := by
    have unknown : Record.readField schema [0x1A, 1, 9, 0x08, 7, 0x08, 2, 0x12, 1, 5] =
        .ok (none, [0x08, 7, 0x08, 2, 0x12, 1, 5]) := rfl
    have first : Record.readField schema [0x08, 7, 0x08, 2, 0x12, 1, 5] =
        .ok (some (1, .number 7), [0x08, 2, 0x12, 1, 5]) := rfl
    have last : Record.readField schema [0x08, 2, 0x12, 1, 5] =
        .ok (some (1, .number 2), [0x12, 1, 5]) := rfl
    have data : Record.readField schema [0x12, 1, 5] = .ok (some (2, .blob [5]), []) := rfl
    rw [ofBytes, Record.decode, Record.read_field unknown, Record.read_field first,
      Record.read_field last, Record.read_field data, Record.read]
    rfl
  exact ⟨read, envelope_round_trip.2.2.2 _ _ read⟩

end Envelope

end CameraBridge
