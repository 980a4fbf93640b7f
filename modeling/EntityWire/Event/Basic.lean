import EntityWire.Entity
import EntityWire.Wire.Choice
import EntityWire.Wire.Collection
import EntityWire.Wire.Record

namespace EntityWire.Event

open Wire

structure EntitiesSelected where
  entities : List Entity
  fromUser : Bool
  deriving DecidableEq

structure AllDeselected where
  fromUser : Bool
  deriving DecidableEq

structure EntitiesChanged where
  added : OrderedSet Entity
  removed : OrderedSet Entity
  deriving DecidableEq

structure TransformToggled where
  active : Bool
  deriving DecidableEq

structure EntityRequested where
  entity : String
  entityType : String
  parent : Entity
  data : OrderedMap String String
  deriving DecidableEq

structure PluginAttached where
  entity : Entity
  element : String
  deriving DecidableEq

inductive Kind
  | entitiesSelected
  | allDeselected
  | editorEntitiesChanged
  | entitiesChanged
  | transformToggled
  | entityRequested
  | pluginAttached
  deriving DecidableEq, Repr

end Event

inductive Event
  | entitiesSelected (e : Event.EntitiesSelected)
  | allDeselected (e : Event.AllDeselected)
  | editorEntitiesChanged (e : Event.EntitiesChanged)
  | entitiesChanged (e : Event.EntitiesChanged)
  | transformToggled (e : Event.TransformToggled)
  | entityRequested (e : Event.EntityRequested)
  | pluginAttached (e : Event.PluginAttached)
  deriving DecidableEq

namespace Event

open Wire

def kind : Event → Kind
  | .entitiesSelected _ => .entitiesSelected
  | .allDeselected _ => .allDeselected
  | .editorEntitiesChanged _ => .editorEntitiesChanged
  | .entitiesChanged _ => .entitiesChanged
  | .transformToggled _ => .transformToggled
  | .entityRequested _ => .entityRequested
  | .pluginAttached _ => .pluginAttached

namespace Kind

def all : List Kind :=
  [.entitiesSelected, .allDeselected, .editorEntitiesChanged, .entitiesChanged, .transformToggled,
    .entityRequested, .pluginAttached]

/-- Codes of user events start here. -/
def base : Nat := 1000

def code : Kind → Nat
  | .entitiesSelected => base + 1
  | .allDeselected => base + 2
  | .editorEntitiesChanged => base + 3
  | .entitiesChanged => base + 4
  | .transformToggled => base + 6
  | .entityRequested => base + 7
  | .pluginAttached => base + 8

def ofCode? (n : Nat) : Option Kind := all.find? (·.code = n)

def name : Kind → String
  | .entitiesSelected => "EntitiesSelected"
  | .allDeselected => "DeselectAllEntities"
  | .editorEntitiesChanged => "GuiNewRemovedEntities"
  | .entitiesChanged => "NewRemovedEntities"
  | .transformToggled => "TransformControlModeActive"
  | .entityRequested => "ModelEditorAddEntity"
  | .pluginAttached => "VisualPlugin"

instance : Codec Kind := ⟨.names "EventKind" all name⟩

instance : Display Kind := ⟨name⟩

end Kind

instance : Codec (OrderedSet Entity) := ⟨.set Codec.form⟩

instance : Display (OrderedSet Entity) := ⟨fun s ↦ Display.set (s.elements.map display)⟩

instance : Display (OrderedMap String String) :=
  ⟨fun m ↦ Display.map (m.entries.map fun e ↦ (display e.1, display e.2))⟩

namespace EntitiesSelected

def fields : Fields [List Entity, Bool] :=
  .cons (.required "entities" (.list Codec.form)) <| .cons (.required "from_user" .bool) .nil

instance : Codec EntitiesSelected where
  form := (Form.record "EntitiesSelected" fields).via
    (fun (entities, fromUser, _) ↦ ⟨entities, fromUser⟩) (fun e ↦ (e.entities, e.fromUser, ()))

instance : Display EntitiesSelected where
  display e := Display.record "EntitiesSelected"
    [("entities", display e.entities), ("from_user", display e.fromUser)]

end EntitiesSelected

namespace AllDeselected

def fields : Fields [Bool] := .cons (.required "from_user" .bool) .nil

instance : Codec AllDeselected where
  form := (Form.record "DeselectAllEntities" fields).via
    (fun (fromUser, _) ↦ ⟨fromUser⟩) (fun e ↦ (e.fromUser, ()))

instance : Display AllDeselected :=
  ⟨fun e ↦ Display.record "DeselectAllEntities" [("from_user", display e.fromUser)]⟩

end AllDeselected

namespace EntitiesChanged

def default : EntitiesChanged := ⟨.empty, .empty⟩

def fields : Fields [OrderedSet Entity, OrderedSet Entity] :=
  .cons (.required "new_entities" Codec.form) <|
    .cons (.required "removed_entities" Codec.form) .nil

instance : Codec EntitiesChanged where
  form := (Form.record "NewRemovedEntities" fields).via
    (fun (added, removed, _) ↦ ⟨added, removed⟩) (fun e ↦ (e.added, e.removed, ()))

instance : Display EntitiesChanged where
  display e := Display.record "NewRemovedEntities"
    [("new_entities", display e.added), ("removed_entities", display e.removed)]

end EntitiesChanged

namespace TransformToggled

def fields : Fields [Bool] := .cons (.required "active" .bool) .nil

instance : Codec TransformToggled where
  form := (Form.record "TransformControlModeActive" fields).via
    (fun (active, _) ↦ ⟨active⟩) (fun e ↦ (e.active, ()))

instance : Display TransformToggled :=
  ⟨fun e ↦ Display.record "TransformControlModeActive" [("active", display e.active)]⟩

end TransformToggled

namespace EntityRequested

def fields : Fields [String, String, Entity, OrderedMap String String] :=
  .cons (.required "entity" .text) <| .cons (.required "entity_type" .text) <|
    .cons (.required "parent" Codec.form) <| .cons (.required "data" .dictionary) .nil

instance : Codec EntityRequested where
  form := (Form.record "ModelEditorAddEntity" fields).via
    (fun (entity, entityType, parent, data, _) ↦ ⟨entity, entityType, parent, data⟩)
    (fun e ↦ (e.entity, e.entityType, e.parent, e.data, ()))

instance : Display EntityRequested where
  display e := Display.record "ModelEditorAddEntity"
    [("entity", display e.entity), ("entity_type", display e.entityType),
      ("parent", display e.parent), ("data", display e.data)]

end EntityRequested

namespace PluginAttached

def fields : Fields [Entity, String] :=
  .cons (.required "entity" Codec.form) <| .cons (.required "element" .text) .nil

instance : Codec PluginAttached where
  form := (Form.record "VisualPlugin" fields).via
    (fun (entity, element, _) ↦ ⟨entity, element⟩) (fun e ↦ (e.entity, e.element, ()))

instance : Display PluginAttached where
  display e := Display.record "VisualPlugin"
    [("entity", display e.entity), ("element", display e.element)]

end PluginAttached

def writeContent : Event → Octets
  | .entitiesSelected e => encode e
  | .allDeselected e => encode e
  | .editorEntitiesChanged e => encode e
  | .entitiesChanged e => encode e
  | .transformToggled e => encode e
  | .entityRequested e => encode e
  | .pluginAttached e => encode e

def displayContent : Event → String
  | .entitiesSelected e => display e
  | .allDeselected e => display e
  | .editorEntitiesChanged e => display e
  | .entitiesChanged e => display e
  | .transformToggled e => display e
  | .entityRequested e => display e
  | .pluginAttached e => display e

instance : Codec Event where
  form := .choice "GuiEvent"
    [.holding Kind.entitiesSelected.name Codec.form .entitiesSelected,
      .holding Kind.allDeselected.name Codec.form .allDeselected,
      .holding Kind.editorEntitiesChanged.name Codec.form .editorEntitiesChanged,
      .holding Kind.entitiesChanged.name Codec.form .entitiesChanged,
      .holding Kind.transformToggled.name Codec.form .transformToggled,
      .holding Kind.entityRequested.name Codec.form .entityRequested,
      .holding Kind.pluginAttached.name Codec.form .pluginAttached]
    fun e ↦ writeMapping [(writeText e.kind.name, e.writeContent)]

instance : Display Event := ⟨fun e ↦ Display.applied e.kind.name [e.displayContent]⟩

end Event

end EntityWire
