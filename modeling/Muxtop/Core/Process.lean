import Mathlib.Data.Nat.Notation
import Muxtop.Foundation.FloatBits

/-!
# Processes

Reference: `muxtop-core/src/process.rs`.
-/

namespace Muxtop.Core

/-- Information about a single process. -/
structure ProcessInfo where
  pid : UInt32
  parentPid : Option UInt32
  name : String
  command : String
  user : String
  cpuPercent : F32
  memoryBytes : UInt64
  memoryPercent : F32
  status : String
deriving DecidableEq, Repr, Inhabited

end Muxtop.Core
