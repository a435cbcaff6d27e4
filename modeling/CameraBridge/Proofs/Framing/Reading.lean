import CameraBridge.Frame.Split

/-! Frames as they are written: header bytes read back, and continuations one by one. -/

namespace CameraBridge.Header

theorem read_short {length : Nat} (bound : length < 32) (part : Bytes) :
    read (UInt8.ofNat length :: part) =
      .ok (ofStart .short length (UInt8.ofNat length :: part)) := by
  have value : (UInt8.ofNat length).toNat = length :=
    UInt8.toNat_ofNat_of_lt' (show _ < 256 by omega)
  have start : ¬ 128 ≤ length := by omega
  simp only [read, value, if_neg start, if_pos bound]

theorem read_medium {length : Nat} (bound : length < 8192) (part : Bytes) :
    read (UInt8.ofNat (32 + length / 256) :: UInt8.ofNat (length % 256) :: part) =
      .ok (ofStart .medium length
        (UInt8.ofNat (32 + length / 256) :: UInt8.ofNat (length % 256) :: part)) := by
  have first : (UInt8.ofNat (32 + length / 256)).toNat = 32 + length / 256 :=
    UInt8.toNat_ofNat_of_lt' (show _ < 256 by omega)
  have low : (UInt8.ofNat (length % 256)).toNat = length % 256 :=
    UInt8.toNat_ofNat_of_lt' (show _ < 256 by omega)
  have start : ¬ 128 ≤ 32 + length / 256 := by omega
  have notShort : ¬ 32 + length / 256 < 32 := by omega
  have medium : 32 + length / 256 < 64 := by omega
  have whole : (32 + length / 256) % 32 * 256 + length % 256 = length := by omega
  simp only [read, first, low, if_neg start, if_neg notShort, if_pos medium, whole]

theorem read_long {length : Nat} (bound : length < 65536) (part : Bytes) :
    read (64 :: UInt8.ofNat (length / 256) :: UInt8.ofNat (length % 256) :: part) =
      .ok (ofStart .long length
        (64 :: UInt8.ofNat (length / 256) :: UInt8.ofNat (length % 256) :: part)) := by
  have first : (64 : UInt8).toNat = 64 := rfl
  have high : (UInt8.ofNat (length / 256)).toNat = length / 256 :=
    UInt8.toNat_ofNat_of_lt' (show _ < 256 by omega)
  have low : (UInt8.ofNat (length % 256)).toNat = length % 256 :=
    UInt8.toNat_ofNat_of_lt' (show _ < 256 by omega)
  have whole : length / 256 * 256 + length % 256 = length := by omega
  simp [read, first, high, low, whole]

theorem read_continuation (sequence : Nat) (part : Bytes) :
    read (UInt8.ofNat (128 + sequence % 16) :: part) = .ok (.continuation (sequence % 16)) := by
  have first : (UInt8.ofNat (128 + sequence % 16)).toNat = 128 + sequence % 16 :=
    UInt8.toNat_ofNat_of_lt' (show _ < 256 by omega)
  have continues : 128 ≤ 128 + sequence % 16 := by omega
  have number : (128 + sequence % 16) % 16 = sequence % 16 := by omega
  simp only [read, first, if_pos continues, number]

end CameraBridge.Header

namespace CameraBridge.Frame

theorem continuations_cons (sequence : Nat) {rest : Bytes} (nonempty : rest ≠ []) :
    continuations sequence rest =
      (UInt8.ofNat (128 + sequence % 16) :: rest.take chunk) ::
        continuations (sequence + 1) (rest.drop chunk) := by
  cases rest with
  | nil => exact absurd rfl nonempty
  | cons byte tail => rw [continuations]; rfl

theorem continuations_length_pos (sequence : Nat) {rest : Bytes} (nonempty : rest ≠ []) :
    0 < (continuations sequence rest).length := by
  rw [continuations_cons sequence nonempty]
  exact Nat.succ_pos _

end CameraBridge.Frame
