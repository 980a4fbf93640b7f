import EntityWire.Registry.Lookup

namespace EntityWire

variable {K : Type} [Kinds K]

namespace Descriptor

variable (d : Descriptor K)

def checkKind (h : Handle K) : Except RegistryError Unit :=
  if h.kind = d.kind then .ok ()
  else .error (.kindMismatch d.name d.typeName h.typeName)

def serialize (h : Handle K) : Except RegistryError Octets := do
  d.checkKind h
  (d.encode h).mapError .content

def deserialize (h : Handle K) (s : Octets) : Handle K × Except RegistryError Unit :=
  match d.checkKind h with
  | .error e => (h, .error e)
  | .ok () =>
    let (filled, outcome) := d.fill h s
    (filled, outcome.mapError .content)

end Descriptor

namespace Registry

variable (r : Registry K)

def serialize (h : Handle K) : Except RegistryError Octets :=
  match r.descriptorByKind? h.kind with
  | some d => d.serialize h
  | none => .error (.unknownKind h.typeName)

def deserialize (name : String) (s : Octets) : Except RegistryError (Handle K) := do
  let d ← r.descriptor name
  let (h, outcome) := d.deserialize d.construct s
  outcome.map fun _ ↦ h

/-- Fills a handle that is there from octets; it keeps its value on an error. -/
def deserializeInto (name : String) (h : Handle K) (s : Octets) :
    Handle K × Except RegistryError Unit :=
  match r.descriptor name with
  | .error e => (h, .error e)
  | .ok d => d.deserialize h s

end Registry

end EntityWire
