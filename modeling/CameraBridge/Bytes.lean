/-!
Byte strings, the form in which every link hands over its data, and the number that a byte string
denotes when its most significant byte comes first.
-/

namespace CameraBridge

abbrev Bytes := List UInt8

namespace Bytes

/-- Reads a number whose most significant byte comes first; no bytes denote zero. -/
def bigEndian (bytes : Bytes) : Nat :=
  bytes.foldl (fun value byte => 256 * value + byte.toNat) 0

theorem bigEndian_nil : bigEndian [] = 0 := rfl

theorem bigEndian_append_singleton (bytes : Bytes) (byte : UInt8) :
    bigEndian (bytes ++ [byte]) = 256 * bigEndian bytes + byte.toNat := by
  simp [bigEndian, List.foldl_append]

end Bytes

end CameraBridge
