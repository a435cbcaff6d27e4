import CameraBridge.Bytes

/-!
Variable-length numbers: seven bits a byte, the least significant first, the top bit set on all
bytes but the last. Reading takes at most ten bytes, and of the tenth only its lowest bit, so that
every number read is below two to the power sixty-four.
-/

namespace CameraBridge.Varint

def encode (value : Nat) : Bytes :=
  if value < 128 then [UInt8.ofNat value]
  else UInt8.ofNat (128 + value % 128) :: encode (value / 128)

/-- Reads a number of at most `places` bytes, the last of which may be no more than one. -/
def readWithin : (places : Nat) → Bytes → Option (Nat × Bytes)
  | 0, _ => none
  | _ + 1, [] => none
  | places + 1, byte :: rest =>
      if places = 0 ∧ 1 < byte.toNat then none
      else if byte.toNat < 128 then some (byte.toNat, rest)
      else (readWithin places rest).map fun (high, rest) => (byte.toNat - 128 + 128 * high, rest)

def read (bytes : Bytes) : Option (Nat × Bytes) := readWithin 10 bytes

theorem readWithin_shorter {places : Nat} {bytes : Bytes} {value : Nat} {rest : Bytes}
    (found : readWithin places bytes = some (value, rest)) : rest.length < bytes.length := by
  induction places generalizing bytes value rest with
  | zero => simp [readWithin] at found
  | succ places ih =>
      cases bytes with
      | nil => simp [readWithin] at found
      | cons byte tail =>
          simp only [readWithin] at found
          split at found
          · contradiction
          · split at found
            · simp only [Option.some.injEq, Prod.mk.injEq] at found
              simp [found.2]
            · obtain ⟨⟨high, left⟩, inner, same⟩ := Option.map_eq_some_iff.1 found
              simp only [Prod.mk.injEq] at same
              have := ih inner
              rw [← same.2, List.length_cons]
              omega

theorem read_shorter {bytes : Bytes} {value : Nat} {rest : Bytes}
    (found : read bytes = some (value, rest)) : rest.length < bytes.length :=
  readWithin_shorter found

end CameraBridge.Varint
