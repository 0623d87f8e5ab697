/-!
Machine code to be stored: bytes that are themselves held in memory, so there are fewer than half of all
addresses of them, and their number is a word.
-/

namespace TwinView

structure Code where
  bytes : List UInt8
  length_lt : bytes.length < 0x8000000000000000 := by decide

namespace Code

def ofList? (bytes : List UInt8) : Option Code :=
  if bound : bytes.length < 0x8000000000000000 then some ⟨bytes, bound⟩ else none

def size (code : Code) : UInt64 :=
  UInt64.ofNat code.bytes.length

theorem size_toNat (code : Code) : code.size.toNat = code.bytes.length := by
  have bound := code.length_lt
  exact UInt64.toNat_ofNat_of_lt' (Nat.lt_trans bound (by decide))

end Code

end TwinView
