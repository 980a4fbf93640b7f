import EntityWire.Message.Basic
import EntityWire.Proofs.Wire.Resolves

namespace EntityWire

open Wire Wire.Form

variable {D : Dialect}

theorem resolves_word : word.Resolves D := resolves_ofScalar _ _

theorem resolves_entity : (Codec.form (α := Entity)).Resolves D := Resolves.wrapped resolves_word

namespace Message

theorem resolve_vector : Vector3.fields.Resolve D :=
  ⟨resolves_double, resolves_double, resolves_double, trivial⟩

theorem resolve_quaternion : Quaternion.fields.Resolve D :=
  ⟨resolves_double, resolves_double, resolves_double, resolves_double, trivial⟩

theorem resolve_pose : Pose.fields.Resolve D :=
  ⟨resolves_text.option, (resolves_record _ resolve_vector).via.option,
    (resolves_record _ resolve_quaternion).via.option, trivial⟩

theorem resolve_coordinates : Coordinates.fields.Resolve D :=
  ⟨(resolves_names _ _ _).option, resolves_double.option, resolves_double.option,
    resolves_double.option, resolves_double.option, trivial⟩

theorem resolve_text : Text.fields.Resolve D := ⟨resolves_text, trivial⟩

theorem resolve_flag : Flag.fields.Resolve D := ⟨resolves_bool, trivial⟩

theorem resolve_record : Record.fields.Resolve D :=
  ⟨resolves_entity, Resolves.wrapped resolves_word, Resolves.list (resolves_ofScalar _ _), trivial⟩

end Message

end EntityWire
