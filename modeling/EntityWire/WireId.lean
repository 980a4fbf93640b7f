import EntityWire.Text.Display
import EntityWire.Text.Hex
import EntityWire.Wire.Form

namespace EntityWire

structure WireId where
  value : UInt64
  deriving DecidableEq, Repr, Inhabited

namespace WireId

def basis : UInt64 := 0xcbf29ce484222325

def prime : UInt64 := 0x100000001b3

def step (hash : UInt64) (b : UInt8) : UInt64 := (hash ^^^ b.toUInt64) * prime

/-- The FNV-1a hash of octets, in 64 bits. -/
def hash (s : Octets) : UInt64 := s.foldl step basis

def ofName (name : String) : WireId := ⟨hash (Utf8.encode name)⟩

def text (id : WireId) : String := "0x" ++ Hex.ofNat 16 id.value.toNat

instance : Display WireId := ⟨fun id ↦ Display.applied "ComponentTypeId" [toString id.value.toNat]⟩

instance : Wire.Codec WireId := ⟨.wrapped "ComponentTypeId" .word WireId.mk WireId.value⟩

end WireId

end EntityWire
