/-
# CRC-32

The 32-bit cyclic redundancy check with the reflected polynomial `0xEDB88320`, as used by the
meta page: the register starts with all bits set, takes each byte into its low end, and is
complemented at the end.

* `checksum` : the check value of a byte string;
* `Crc32.run_append` : feeding two strings in turn feeds their concatenation.
-/
import PagedTables.Bytes

namespace PagedTables

namespace Crc32

/-- The polynomial, lowest bit first. -/
def polynomial : UInt32 := 0xEDB88320

/-- One step of the shift register. -/
def shift (r : UInt32) : UInt32 :=
  if r &&& 1 = 1 then (r >>> 1) ^^^ polynomial else r >>> 1

/-- Takes one byte into the register. -/
def feed (r : UInt32) (b : UInt8) : UInt32 :=
  Nat.repeat shift 8 (r ^^^ b.toUInt32)

/-- Takes a byte string into the register. -/
def run (r : UInt32) (b : Bytes) : UInt32 :=
  b.foldl feed r

theorem run_append (r : UInt32) (a b : Bytes) : run r (a ++ b) = run (run r a) b :=
  List.foldl_append

end Crc32

/-- The CRC-32 of a byte string. -/
def checksum (b : Bytes) : UInt32 :=
  Crc32.run 0xFFFFFFFF b ^^^ 0xFFFFFFFF

end PagedTables
