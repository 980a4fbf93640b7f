import EntityWire.Text.Display
import EntityWire.Wire.Form

namespace EntityWire

structure Entity where
  id : UInt64
  deriving DecidableEq, Repr, Inhabited

namespace Entity

def invalid : Entity := ⟨0⟩

def isValid (e : Entity) : Bool := e.id ≠ 0

instance : Ord Entity := ⟨fun a b ↦ compare a.id b.id⟩

instance : Std.TransOrd Entity where
  eq_swap {a b} := show compare a.id b.id = (compare b.id a.id).swap from Std.OrientedCmp.eq_swap
  isLE_trans {a b c} h₁ h₂ := show (compare a.id c.id).isLE from
    Std.TransCmp.isLE_trans (show (compare a.id b.id).isLE from h₁)
      (show (compare b.id c.id).isLE from h₂)

instance : Std.LawfulEqOrd Entity where
  compare_self {a} := show compare a.id a.id = .eq from Std.ReflCmp.compare_self
  eq_of_compare {a b} h := by
    cases a; cases b
    exact congrArg mk (Std.LawfulEqCmp.eq_of_compare (show compare (_ : UInt64) _ = .eq from h))

def text (e : Entity) : String := "Entity(" ++ toString e.id.toNat ++ ")"

instance : Display Entity := ⟨text⟩

instance : Wire.Codec Entity := ⟨.wrapped "Entity" .word Entity.mk Entity.id⟩

end Entity

end EntityWire
