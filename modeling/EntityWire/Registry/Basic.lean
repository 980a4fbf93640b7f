import EntityWire.Component.Basic
import EntityWire.Component.Kind
import EntityWire.Ordered.Map
import EntityWire.WireId

namespace EntityWire

open Message (MessageError)

variable {K : Type} [Kinds K]

/-- All that a registry knows of a kind: its name there, and operations on handles. -/
structure Descriptor (K : Type) [Kinds K] where
  name : String
  kind : K
  typeName : String
  construct : Handle K
  encode : Handle K → Except MessageError Octets
  fill : Handle K → Octets → Handle K × Except MessageError Unit

namespace Descriptor

def ofKind (name : String) (k : K) : Descriptor K where
  name := name
  kind := k
  typeName := Kinds.typeName k
  construct := .ofKind k
  encode := Handle.serialize
  fill := Handle.fill

variable (d : Descriptor K)

def id : WireId := .ofName d.name

instance : Display (Descriptor K) where
  display d := "ComponentDescriptor " ++ Display.braced (" " ++ Display.commas
    ["name: " ++ quote d.name, "id: " ++ display d.id, "type_name: " ++ quote d.typeName, ".."] ++
      " ")

end Descriptor

inductive RegistryError
  | duplicate (name attempted existingName existing : String)
  | unknownName (name : String)
  | unknownId (id : WireId)
  | unknownKind (typeName : String)
  | kindMismatch (name expected found : String)
  | content (e : MessageError)
  deriving DecidableEq

namespace RegistryError

def message : RegistryError → String
  | .duplicate name attempted existingName existing =>
    "duplicate registration of " ++ ticked name ++ " (" ++ attempted ++ "): already bound to " ++
      ticked existingName ++ " (" ++ existing ++ ")"
  | .unknownName name => "no component registered under name " ++ ticked name
  | .unknownId id => "no component registered for " ++ display id
  | .unknownKind typeName => "component type " ++ ticked typeName ++ " is not registered"
  | .kindMismatch name expected found =>
    "component " ++ ticked name ++ " expects " ++ ticked expected ++ ", got " ++ ticked found
  | .content e => e.message

end RegistryError

structure Registry (K : Type) [Kinds K] where
  byName : OrderedMap String (Descriptor K)
  byKind : List (K × String)
  byId : List (WireId × String)

namespace Registry

def empty : Registry K := ⟨.empty, [], []⟩

variable (r : Registry K)

def duplicate (d : Descriptor K) (existingName : String) : RegistryError :=
  .duplicate d.name d.typeName existingName
    (((r.byName.find? existingName).map Descriptor.typeName).getD "<unknown>")

def add (d : Descriptor K) : Registry K where
  byName := r.byName.insert d.name d
  byKind := (d.kind, d.name) :: r.byKind
  byId := (d.id, d.name) :: r.byId

/-- Registers a descriptor, which must build its own kind. Under its name there may be the same
kind, in which case nothing changes; no other name may have its kind or its id. -/
def install (d : Descriptor K) : Registry K × Except RegistryError WireId :=
  if d.construct.kind ≠ d.kind then
    (r, .error (.kindMismatch d.name d.typeName d.construct.typeName))
  else
    match r.byName.find? d.name with
    | some e => (r, if e.kind = d.kind then .ok e.id else .error (r.duplicate d e.name))
    | none =>
      match r.byKind.lookup d.kind with
      | some name => (r, .error (r.duplicate d name))
      | none =>
        match r.byId.lookup d.id with
        | some name => (r, .error (r.duplicate d name))
        | none => (r.add d, .ok d.id)

def register (name : String) (k : K) : Registry K × Except RegistryError WireId :=
  r.install (.ofKind name k)

def startupMessage (e : RegistryError) : String := "component registration failed: " ++ e.message

/-- Registers declared kinds; the first one that fails stops the program. -/
def declare : List (String × K) → Registry K → Except String (Registry K)
  | [], r => .ok r
  | (name, k) :: rest, r =>
    match r.register name k with
    | (r, .ok _) => declare rest r
    | (_, .error e) => .error (startupMessage e)

def ofList (kinds : List (String × K)) : Registry K :=
  kinds.foldl (fun r e ↦ (r.register e.1 e.2).1) empty

def builtin : Registry Kind := ofList Builtin.all

end Registry

end EntityWire
