import EntityWire.Component.Kind
import EntityWire.Event.Basic
import EntityWire.Proofs.Wire.Extent

namespace EntityWire.Wire

/-- Octets in which a value shows where it ends. -/
structure SelfDelimiting (α : Type) [Codec α] : Prop where
  /-- The octets of a value are a front of what it was read from. All of them are needed, and
  nothing behind them counts. -/
  ends {s : Octets} {a : α} (h : decode α s = .ok a) : ∃ n ≤ s.length,
    (∀ m < n, ∃ x : Shortage, decode α (s.take m) = .error (.short x)) ∧
      ∀ rest, decode α (s.take n ++ rest) = .ok a
  /-- What is refused for anything but its end is refused for the same with more behind it. -/
  refused {s : Octets} {e : DecodeError} (h : decode α s = .error e)
    (he : ∀ x : Shortage, e ≠ .short x) (rest : Octets) : decode α (s ++ rest) = .error e

theorem decoding_is_self_delimiting (α : Type) [Codec α] : SelfDelimiting α where
  ends := by
    intro s a h
    obtain ⟨⟨a', rest⟩, hr, rfl⟩ := of_map_ok h
    obtain ⟨front, rfl, he⟩ := Scan.ends_of_run hr
    refine ⟨front.length, by simp, fun m hm ↦ ?_, fun t ↦ ?_⟩
    · obtain ⟨x, hx⟩ := he.short hm
      refine ⟨x, ?_⟩
      rw [List.take_append_of_le_length (Nat.le_of_lt hm), decode, Form.decode, hx]
      rfl
    · rw [List.take_left, decode, Form.decode, he.answers t]
      rfl
  refused := by
    intro s e h he rest
    have hr := map_error_iff.1 h
    cases e with
    | short x => exact absurd rfl (he x)
    | refused r => exact map_error_iff.2 (Scan.run_append_refused hr rest)

/-- What is decoded: messages and lists of records, payloads that travel as they are, and events. -/
structure DelimitedTypes : Prop where
  vectorMessage : SelfDelimiting Message.Vector3
  quaternionMessage : SelfDelimiting Message.Quaternion
  poseMessage : SelfDelimiting Message.Pose
  coordinatesMessage : SelfDelimiting Message.Coordinates
  textMessage : SelfDelimiting Message.Text
  flagMessage : SelfDelimiting Message.Flag
  record : SelfDelimiting Message.Record
  records : SelfDelimiting (List Message.Record)
  single : SelfDelimiting Binary32
  double : SelfDelimiting Binary64
  text : SelfDelimiting String
  flag : SelfDelimiting Bool
  entity : SelfDelimiting Entity
  vector : SelfDelimiting Spatial.Vector3
  pose : SelfDelimiting Spatial.Pose
  origin : SelfDelimiting Spatial.Origin
  event : SelfDelimiting Event
  entitiesSelected : SelfDelimiting Event.EntitiesSelected
  allDeselected : SelfDelimiting Event.AllDeselected
  entitiesChanged : SelfDelimiting Event.EntitiesChanged
  transformToggled : SelfDelimiting Event.TransformToggled
  entityRequested : SelfDelimiting Event.EntityRequested
  pluginAttached : SelfDelimiting Event.PluginAttached

def flagBehindOther : Octets := [0x82, 0xa1, 0x6b, 0xc0, 0xa4, 0x64, 0x61, 0x74, 0x61, 0xc3]

theorem types_are_self_delimiting :
    DelimitedTypes ∧
    (decode Message.Flag flagBehindOther = .ok ⟨true⟩ ∧
      ∃ n ≤ flagBehindOther.length,
        (∀ m < n, ∃ x : Shortage,
          decode Message.Flag (flagBehindOther.take m) = .error (.short x)) ∧
          ∀ rest, decode Message.Flag (flagBehindOther.take n ++ rest) = .ok ⟨true⟩) ∧
    ∀ rest, decode Message.Text ([0x80] ++ rest) =
      .error (.refused (.content (.missingField "data"))) := by
  have hf : decode Message.Flag flagBehindOther = .ok ⟨true⟩ := rfl
  have ht : decode Message.Text [0x80] = .error (.refused (.content (.missingField "data"))) := rfl
  refine ⟨?_, ⟨hf, (decoding_is_self_delimiting _).ends hf⟩,
    (decoding_is_self_delimiting _).refused ht nofun⟩
  constructor <;> exact decoding_is_self_delimiting _

end EntityWire.Wire
