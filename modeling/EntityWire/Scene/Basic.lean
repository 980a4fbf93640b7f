import EntityWire.Json.Pack
import EntityWire.Registry.Transfer
import EntityWire.Scene.File

namespace EntityWire

variable {K : Type} [Kinds K]

namespace Scene

structure Member (K : Type) [Kinds K] where
  entity : Entity
  components : List (Handle K)

inductive LoadError
  | parse (fault : Json.Fault)
  | encode (entity : Entity) (name : String) (source : Wire.EncodeError)
  | component (entity : Entity) (name : String) (source : RegistryError)
  deriving DecidableEq

def LoadError.message : LoadError → String
  | .parse fault => "invalid scene JSON: " ++ fault.message
  | .encode entity name source =>
    entity.text ++ ": component " ++ name ++ ": cannot encode value: " ++ source.message
  | .component entity name source =>
    entity.text ++ ": component " ++ name ++ ": " ++ source.message

end Scene

structure Scene (K : Type) [Kinds K] where
  members : List (Scene.Member K)

namespace Scene

variable (r : Registry K)

def buildComponent (entity : Entity) (name : String) (value : Json) :
    Except LoadError (Handle K) := do
  let s ← value.encode.mapError (.encode entity name)
  (r.deserialize name s).mapError (.component entity name)

def buildEntry (e : Entry) : Except LoadError (Member K) := do
  let entity : Entity := ⟨e.id⟩
  let members := OrderedMap.ofList e.components
  let components ← members.entries.mapM fun (name, value) ↦ buildComponent r entity name value
  return ⟨entity, components⟩

def build (f : File) : Except LoadError (Scene K) := do
  let members ← f.entries.mapM (buildEntry r)
  return ⟨members⟩

def load (text : String) : Except LoadError (Scene K) := do
  let file ← (File.parse text).mapError .parse
  build r file

def componentCount (s : Scene K) : Nat := (s.members.flatMap Member.components).length

/-- The record of a component; an error names the component by its kind. -/
def record (entity : Entity) (h : Handle K) : Except LoadError Message.Record :=
  let made : Except RegistryError Message.Record := do
    let d ← r.descriptor (← r.nameOfHandle h)
    return ⟨entity, d.id, ← d.serialize h⟩
  made.mapError (.component entity h.typeName)

def records (s : Scene K) : Except LoadError (List Message.Record) := do
  let parts ← s.members.mapM fun m ↦ m.components.mapM (record r m.entity)
  return parts.flatten

end Scene

end EntityWire
