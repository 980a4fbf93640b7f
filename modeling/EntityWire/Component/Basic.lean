import EntityWire.Component.Kinds

namespace EntityWire

open Message (MessageError)

variable {K : Type} [Kinds K]

structure Component (k : K) where
  data : Kinds.Value k

namespace Component

variable {k : K} (c : Component k)

def default : Component k := ⟨Kinds.default k⟩

def same (d : Component k) : Bool := Kinds.same k c.data d.data

def serialize : Except MessageError Octets := Kinds.encode k c.data

def ofOctets (s : Octets) : Except MessageError (Component k) := (Kinds.decode k s).map mk

/-- Fills a component from octets; it keeps its value if they are refused. -/
def fill (s : Octets) : Component k × Except MessageError Unit :=
  match Kinds.decode k s with
  | .ok v => (⟨v⟩, .ok ())
  | .error e => (c, .error e)

instance : Display (Component k) where
  display c := Display.record "Component"
    [("kind", quote (Kinds.tag k)), ("data", Kinds.describe k c.data)]

end Component

structure Handle (K : Type) [Kinds K] where
  kind : K
  component : Component kind

namespace Handle

variable (h : Handle K)

def ofKind (k : K) : Handle K := ⟨k, .default⟩

def typeName : String := Kinds.typeName h.kind

def serialize : Except MessageError Octets := h.component.serialize

def fill (s : Octets) : Handle K × Except MessageError Unit :=
  let (component, outcome) := h.component.fill s
  (⟨h.kind, component⟩, outcome)

def as? (k : K) : Option (Component k) :=
  if e : h.kind = k then some (e ▸ h.component) else none

def same (g : Handle K) : Bool :=
  match g.as? h.kind with
  | some d => h.component.same d
  | none => false

instance : Display (Handle K) := ⟨fun h ↦ display h.component⟩

end Handle

end EntityWire
