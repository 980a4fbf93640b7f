import EntityWire.Registry.Basic

namespace EntityWire.Registry

variable {K : Type} [Kinds K] (r : Registry K)

def descriptor (name : String) : Except RegistryError (Descriptor K) :=
  match r.byName.find? name with
  | some d => .ok d
  | none => .error (.unknownName name)

def descriptorById? (id : WireId) : Option (Descriptor K) :=
  (r.byId.lookup id).bind r.byName.find?

def descriptorById (id : WireId) : Except RegistryError (Descriptor K) :=
  match r.descriptorById? id with
  | some d => .ok d
  | none => .error (.unknownId id)

def descriptorByKind? (k : K) : Option (Descriptor K) :=
  (r.byKind.lookup k).bind r.byName.find?

def construct (name : String) : Except RegistryError (Handle K) :=
  (r.descriptor name).map Descriptor.construct

def constructById (id : WireId) : Except RegistryError (Handle K) :=
  (r.descriptorById id).map Descriptor.construct

def hasName (name : String) : Bool := (r.byName.find? name).isSome

def hasId (id : WireId) : Bool := (r.byId.lookup id).isSome

def nameOfKind (k : K) : Except RegistryError String :=
  match r.byKind.lookup k with
  | some name => .ok name
  | none => .error (.unknownKind (Kinds.identity k))

/-- The name of a handle's kind; an error calls the kind by its type. -/
def nameOfHandle (h : Handle K) : Except RegistryError String :=
  (r.nameOfKind h.kind).mapError fun _ ↦ .unknownKind h.typeName

def nameOfId (id : WireId) : Except RegistryError String :=
  match r.byId.lookup id with
  | some name => .ok name
  | none => .error (.unknownId id)

def idOfKind (k : K) : Except RegistryError WireId :=
  match r.descriptorByKind? k with
  | some d => .ok d.id
  | none => .error (.unknownKind (Kinds.typeName k))

def names : List String := r.byName.keys

def descriptors : List (Descriptor K) := r.byName.values

def size : Nat := r.byName.size

end EntityWire.Registry
