import EntityWire.Proofs.Component.Settles
import EntityWire.Proofs.Registry.Acceptance
import EntityWire.Proofs.Scene.File
import EntityWire.Proofs.Scene.Loading

namespace EntityWire.Scene

open Wire

variable {r : Registry Kind} {text : String} {f : File}

def File.Short (f : File) : Prop := f.All (Json.Each Json.Short)

def Settled (c : Carriage) (s : Octets) : Prop :=
  (c.unread s = .ok [] ∧ ∀ err, c.decode s ≠ .error (.decode err)) ∨
    ∃ fault : Refusal, fault.OfContent ∧ c.unread s = .error (.refused fault) ∧
      c.decode s = .error (.decode (.refused fault))

theorem settled_pack (c : Carriage) {j : Json} (hj : j.Portable levelLimit) :
    Settled c j.pack := by
  rcases c.unread_pack hj with hu | ⟨fault, hf, hu⟩
  · refine .inl ⟨hu, fun err he ↦ ?_⟩
    rw [Carriage.decode_eq_error_iff, hu] at he
    nomatch he
  · exact .inr ⟨fault, hf, hu, Carriage.decode_eq_error_iff.2 hu⟩

theorem portable_of_parse (hp : File.parse text = .ok f) (hs : f.Short) {e : Entry}
    (he : e ∈ f.entries) {m : String × Json} (hm : m ∈ e.components) :
    m.2.Portable levelLimit := by
  have hw := File.all_of_parse (Json.Reader.gives_value_within File.valueDepth) hp e he m hm
  exact ⟨hs e he m hm, hw.mono (by decide)⟩

theorem mem_of_value? {e : Entry} {name : String} {value : Json}
    (h : e.value? name = some value) : (name, value) ∈ e.components :=
  List.mem_reverse.1 (mem_of_lookup h)

/-- What the way from JSON to payloads promises for a file. -/
structure Bridged (r : Registry Kind) (text : String) (f : File) : Prop where
  settled {e : Entry} (he : e ∈ f.entries) {m : String × Json} (hm : m ∈ e.components)
    (c : Carriage) : Settled c m.2.pack
  whole {scene : Scene Kind} (hl : load r text = .ok scene) {e : Entry} (he : e ∈ f.entries)
    {name : String} {value : Json} (hv : e.value? name = some value) :
    ∃ k : Kind, r.descriptor name = .ok (.ofKind name k) ∧ k.carriage.unread value.pack = .ok []
  blamed {entity : Entity} {name : String} {err : DecodeError}
    (hl : load r text = .error (.component entity name (.content (.decode err)))) :
    ∃ fault : Refusal, fault.OfContent ∧ err = .refused fault

theorem packed_components_are_well_formed (hr : r.Registered) (hp : File.parse text = .ok f)
    (hs : f.Short) : Bridged r text f where
  settled he _ hm c := settled_pack c (portable_of_parse hp hs he hm)
  whole := by
    intro scene hl e he name value hv
    have hd : e.outcome? r name = some (r.deserialize name value.pack) := congrArg (Option.map _) hv
    obtain ⟨g, hg⟩ := (load_isOk_iff hp).1 ⟨scene, hl⟩ e he name _ hd
    obtain ⟨k, v, hk, hv', -⟩ := hr.of_deserialize hg
    refine ⟨k, hk, ?_⟩
    have hj := portable_of_parse hp hs he (mem_of_value? hv)
    rcases settled_pack k.carriage hj with ⟨hu, -⟩ | ⟨fault, -, -, hf⟩
    · exact hu
    · nomatch hf.symm.trans hv'
  blamed := by
    intro entity name err hl
    obtain ⟨before, e, after, name', source, hf, -, hfails, hx⟩ := (load_error_iff hp).1 hl
    obtain ⟨-, rfl, rfl⟩ := LoadError.component.inj hx
    obtain ⟨value, hv, hd⟩ := Option.map_eq_some_iff.1 hfails.here
    obtain ⟨k, -, hk⟩ := hr.of_deserialize_content hd
    have he : e ∈ f.entries := hf ▸ List.mem_append_right before List.mem_cons_self
    have hj := portable_of_parse hp hs he (mem_of_value? hv)
    -- The payload is packed JSON, so either all of it is read or its content is what is refused.
    rcases settled_pack k.carriage hj with ⟨-, hn⟩ | ⟨fault, hc, -, hd'⟩
    · exact absurd hk (hn err)
    · have hr := Message.MessageError.decode.inj (Except.error.inj (hk.symm.trans hd'))
      exact ⟨fault, hc, hr⟩

/-- A file whose component has a member that no message knows before the one that it knows. -/
def crowdedFile : String :=
  "\x7b\"entities\": [[7, \x7b\"Static\": \x7b\"a\": [[1]], \"data\": true\x7d\x7d]]\x7d"

def crowded : File :=
  ⟨[⟨7, [("Static", .object [("a", .array [.array [.unsigned 1]]), ("data", .bool true)])]⟩]⟩

theorem short_crowded : crowded.Short := by
  refine List.forall_mem_singleton.2 (List.forall_mem_singleton.2 ?_)
  have one : 1 < 0x100000000 := by decide
  have number : Json.Each Json.Short (.unsigned 1) := .intro trivial nofun
  have inner : Json.Each Json.Short (.array [.unsigned 1]) :=
    .intro one (List.forall_mem_singleton.2 number)
  have outer : Json.Each Json.Short (.array [.array [.unsigned 1]]) :=
    .intro one (List.forall_mem_singleton.2 inner)
  have flag : Json.Each Json.Short (.bool true) := .intro trivial nofun
  refine .intro ⟨by decide, by decide +kernel⟩ ?_
  exact List.forall_mem_cons.2 ⟨outer, List.forall_mem_singleton.2 flag⟩

theorem crowdedFile_is_well_formed : Registry.builtin.Registered ∧
    File.parse crowdedFile = .ok crowded ∧ crowded.Short ∧
      Bridged .builtin crowdedFile crowded := by
  have hr : Registry.builtin.Registered := Registry.registered_ofList Builtin.all
  have hp : File.parse crowdedFile = .ok crowded := rfl
  exact ⟨hr, hp, short_crowded, packed_components_are_well_formed hr hp short_crowded⟩

end EntityWire.Scene
