import EntityWire.Message.Conversion

namespace EntityWire

open Message (MessageError)

/-- The kinds of components of a program: what a component of each carries, and how that travels.
Kinds are told apart by themselves; their names are for those who read reports. -/
class Kinds (K : Type) where
  decEq : DecidableEq K
  Value : K → Type
  default : (k : K) → Value k
  same : (k : K) → Value k → Value k → Bool
  describe : (k : K) → Value k → String
  encode : (k : K) → Value k → Except MessageError Octets
  decode : (k : K) → Octets → Except MessageError (Value k)
  tag : K → String
  typeName : K → String
  /-- The text of a kind where nothing but its identity is known. -/
  identity : K → String

instance {K : Type} [Kinds K] : DecidableEq K := Kinds.decEq

end EntityWire
