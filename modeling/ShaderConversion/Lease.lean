import ShaderConversion.Journal

namespace ShaderConversion

-- A compiler runs while anyone holds a lease on it. Only the number of leases is
-- kept; each one is given back once.
structure Leases where
  count : Nat
  deriving DecidableEq, Repr

namespace Leases

def none : Leases := ⟨0⟩

def isLive (l : Leases) : Bool := 0 < l.count

def acquire (l : Leases) : Leases × List Event :=
  (⟨l.count + 1⟩, [if l.count = 0 then .compilerStarted else .compilerJoined])

def release (l : Leases) : Leases × List Event :=
  (⟨l.count - 1⟩, if l.count = 1 then [.compilerStopped] else [])

end Leases

end ShaderConversion
