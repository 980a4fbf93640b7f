import EntityWire.Event.Basic
import EntityWire.Proofs.Component.Settles
import EntityWire.Proofs.Wire.Positional
import EntityWire.Proofs.Wire.Written

namespace EntityWire

open Wire

/-- The same values, of whatever kind and however deeply nested, make the same `M` in a sequence and
in a mapping. -/
def Positional (M : Type) [Codec M] (names : List String) : Prop :=
  ∀ ⦃vs : List Octets⦄ ⦃s s' : Octets⦄, Fields.Aligned names (levelLimit - 1) vs s s' → ∀ m : M,
    decode M s = .ok m ↔ decode M s' = .ok m

section Records

variable {M : Type} [Codec M] {Γ : List Type} {fields : Fields Γ} {name : String}
  {back : M → Row Γ}

theorem positional_of_via {make : Row Γ → M}
    (hf : Codec.form (α := M) = (Form.record name fields).via make back)
    (hr : fields.Resolve .unbounded) (hn : fields.names.Nodup) : Positional M fields.names := by
  intro vs s s' h m
  rw [decode, decode, hf]
  exact (Form.positional_record hr hn name).via (Form.resolves_record name hr) h m

theorem positional_of_checked {accept : Row Γ → Except Complaint M}
    (hf : Codec.form (α := M) = (Form.record name fields).checked accept back)
    (hr : fields.Resolve .unbounded) (hn : fields.names.Nodup) : Positional M fields.names := by
  intro vs s s' h m
  rw [decode, decode, hf]
  exact (Form.positional_record hr hn name).checked (Form.resolves_record name hr) h m

end Records

/-- The records that travel, with the names of their fields in order. -/
structure PositionalRecords : Prop where
  vector : Positional Message.Vector3 ["x", "y", "z"]
  quaternion : Positional Message.Quaternion ["x", "y", "z", "w"]
  pose : Positional Message.Pose ["name", "position", "orientation"]
  coordinates : Positional Message.Coordinates
    ["surface_model", "latitude", "longitude", "elevation", "heading"]
  text : Positional Message.Text ["data"]
  flag : Positional Message.Flag ["data"]
  record : Positional Message.Record ["entity", "component", "data"]
  spatialPose : Positional Spatial.Pose ["position", "rotation"]
  origin : Positional Spatial.Origin
    ["surface", "latitude_deg", "longitude_deg", "elevation", "heading_deg"]
  entitiesSelected : Positional Event.EntitiesSelected ["entities", "from_user"]
  allDeselected : Positional Event.AllDeselected ["from_user"]
  entitiesChanged : Positional Event.EntitiesChanged ["new_entities", "removed_entities"]
  transformToggled : Positional Event.TransformToggled ["active"]
  entityRequested : Positional Event.EntityRequested ["entity", "entity_type", "parent", "data"]
  pluginAttached : Positional Event.PluginAttached ["entity", "element"]

section Events

open Form

variable {D : Dialect}

theorem resolve_entitiesSelected : Event.EntitiesSelected.fields.Resolve D :=
  ⟨resolves_entity.list, resolves_bool, trivial⟩

theorem resolve_allDeselected : Event.AllDeselected.fields.Resolve D := ⟨resolves_bool, trivial⟩

theorem resolve_entitiesChanged : Event.EntitiesChanged.fields.Resolve D :=
  ⟨resolves_entity.list.via, resolves_entity.list.via, trivial⟩

theorem resolve_transformToggled : Event.TransformToggled.fields.Resolve D :=
  ⟨resolves_bool, trivial⟩

theorem resolve_entityRequested : Event.EntityRequested.fields.Resolve D :=
  ⟨resolves_text, resolves_text, resolves_entity, resolves_dictionary, trivial⟩

theorem resolve_pluginAttached : Event.PluginAttached.fields.Resolve D :=
  ⟨resolves_entity, resolves_text, trivial⟩

end Events

theorem records_are_positional : PositionalRecords where
  vector := positional_of_via rfl Message.resolve_vector (by decide)
  quaternion := positional_of_via rfl Message.resolve_quaternion (by decide)
  pose := positional_of_via rfl Message.resolve_pose (by decide)
  coordinates := positional_of_via rfl Message.resolve_coordinates (by decide)
  text := positional_of_via rfl Message.resolve_text (by decide)
  flag := positional_of_via rfl Message.resolve_flag (by decide)
  record := positional_of_via rfl Message.resolve_record (by decide)
  spatialPose := positional_of_via rfl resolve_spatialPose (by decide)
  origin := positional_of_checked rfl resolve_origin (by decide)
  entitiesSelected := positional_of_via rfl resolve_entitiesSelected (by decide)
  allDeselected := positional_of_via rfl resolve_allDeselected (by decide)
  entitiesChanged := positional_of_via rfl resolve_entitiesChanged (by decide)
  transformToggled := positional_of_via rfl resolve_transformToggled (by decide)
  entityRequested := positional_of_via rfl resolve_entityRequested (by decide)
  pluginAttached := positional_of_via rfl resolve_pluginAttached (by decide)

/-- The name of a pose, and the unit in the place of its position. -/
def bareName : List Octets := [writeText "née", writeNull]

theorem wellFormed_bareName :
    ∀ v ∈ bareName, WellFormed .unbounded (levelLimit - 1) v :=
  List.forall_mem_cons.2
    ⟨wellFormed_writeText (by decide) trivial, List.forall_mem_singleton.2 (.scalar begins_null)⟩

/-- The values in a sequence, under their names and under their indices. -/
theorem bareName_is_positional :
    decode Message.Pose (writeSequence bareName) = .ok ⟨some "née", none, none⟩ ∧
      decode Message.Pose
          (writeMapping [(writeText "name", writeText "née"), (writeText "position", writeNull)]) =
        .ok ⟨some "née", none, none⟩ ∧
      decode Message.Pose
          (writeMapping [(writeUnsigned 0, writeText "née"), (writeUnsigned 1, writeNull)]) =
        .ok ⟨some "née", none, none⟩ := by
  have hs : decode Message.Pose (writeSequence bareName) = .ok ⟨some "née", none, none⟩ := by
    decide +kernel
  have named := Fields.aligned_written wellFormed_bareName
    (by decide : 2 ≤ ["name", "position", "orientation"].length) (by decide) (by decide)
  have indexed := Fields.aligned_indexed wellFormed_bareName
    (by decide : 2 ≤ ["name", "position", "orientation"].length) (by decide)
  exact ⟨hs, (records_are_positional.pose named _).1 hs,
    (records_are_positional.pose indexed _).1 hs⟩

end EntityWire
