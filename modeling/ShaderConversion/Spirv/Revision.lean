import ShaderConversion.Text.Decimal

namespace ShaderConversion

structure Revision where
  major : UInt8
  minor : UInt8
  deriving DecidableEq, Repr

namespace Revision

def text (r : Revision) : Text :=
  Text.decimal r.major.toNat ++ '.' :: Text.decimal r.minor.toNat

instance : ToString Revision := ⟨fun r => String.ofList r.text⟩

def compare (r s : Revision) : Ordering :=
  (Ord.compare r.major.toNat s.major.toNat).then (Ord.compare r.minor.toNat s.minor.toNat)

def atMost (r s : Revision) : Bool := (r.compare s).isLE

end Revision

end ShaderConversion
