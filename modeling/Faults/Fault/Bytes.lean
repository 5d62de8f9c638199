import Faults.Fault.Basic
import Faults.Text.Utf8

/-!
# The byte stream of a fault

A fault is fed to a hasher as bytes: the status as the four bytes of its two's
complement word, the least significant first, then the message in UTF-8, then
one byte that never occurs in UTF-8.
-/

namespace Faults

/-- The four bytes of a status, the least significant first. -/
def statusBytes (status : Int32) : List UInt8 :=
  let word := status.toUInt32.toNat
  [.ofNat word, .ofNat (word / 0x100), .ofNat (word / 0x10000), .ofNat (word / 0x1000000)]

namespace Fault

/-- The byte that ends the stream of a fault. -/
def terminator : UInt8 := 0xff

def hashBytes (e : Fault) : List UInt8 :=
  statusBytes e.status ++ Utf8.encode e.message.toList ++ [terminator]

end Fault

end Faults
