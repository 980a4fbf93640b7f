import EntityWire.Proofs.Component.Foreign
import EntityWire.Proofs.Registry.Filling

namespace EntityWire.Registry

open Message (MessageError)

section Kinds

variable {K : Type} [Kinds K] {r : Registry K} {k : K} {n : String} {s : Octets} {e : MessageError}

/-- Octets that a registry refuses under a name: nothing is built of them, and no component, of
whatever kind, is changed by them. -/
structure Refuses (r : Registry K) (n : String) (s : Octets) (e : MessageError) : Prop where
  built : r.deserialize n s = .error (.content e)
  kept (h : Handle K) : ∃ x, r.deserializeInto n h s = (h, .error x)

theorem Registered.refuses (hr : r.Registered) (hn : r.nameOfKind k = .ok n)
    (hs : Kinds.decode k s = .error e) : Refuses r n s e := by
  have hd := hr.descriptor_of_nameOfKind hn
  have hb : r.deserialize n s = .error (.content e) := by
    rw [deserialize_eq hd, Component.ofOctets, hs]
    rfl
  refine ⟨hb, fun h ↦ ?_⟩
  have hi : r.deserializeInto n h s = (Descriptor.ofKind n k).deserialize h s := by
    rw [Registry.deserializeInto, hd]
  rw [hi]
  by_cases hk : h.kind = k
  · exact ⟨_, ((hr.fillsAs hd h s).replaces hk).kept hb⟩
  · exact ⟨_, Descriptor.deserialize_of_ne hk s⟩

end Kinds

variable {r : Registry Kind} {k : Kind}

/-- What becomes of the octets of a component of a built-in kind under the names of other kinds. -/
structure Misaddressed (r : Registry Kind) (k : Kind) (s : Octets) : Prop where
  parentEntity (hk : k ≠ Builtin.parentEntity) : ∃ e, Refuses r "ParentEntity" s e
  name (hk : k ≠ Builtin.name) : ∃ e, Refuses r "Name" s e
  coordinates (hk : k ≠ Builtin.sphericalCoordinates) : ∃ e, Refuses r "SphericalCoordinates" s e
  latitude (hk : k ≠ Builtin.sphericalCoordinates) (hp : k ≠ Builtin.parentEntity) :
    Refuses r "SphericalCoordinates" s (.missingField "latitude")
  static (hk : k = Builtin.name ∨ k = Builtin.parentEntity) : ∃ e, Refuses r "Static" s e
  messages (hk : k = Builtin.parentEntity) {n : String} {k' : Kind} (hm : (n, k') ∈ Builtin.all)
    (hk' : k' ≠ Builtin.parentEntity) : ∃ e, Refuses r n s e

section Carriages

theorem messageName?_ne_none : ∀ k ∈ Builtin.all.map Prod.snd, k ≠ Builtin.parentEntity →
    k.carriage.messageName? ≠ none := by decide +kernel

theorem carriage_ne_text : ∀ k ∈ Builtin.all.map Prod.snd, k ≠ Builtin.name →
    k.carriage ≠ .textMessage := by decide +kernel

theorem carriage_ne_coordinates : ∀ k ∈ Builtin.all.map Prod.snd,
    k ≠ Builtin.sphericalCoordinates → k.carriage ≠ .coordinatesMessage := by decide +kernel

end Carriages

section Refusals

variable (hr : r.Registered) (hb : ∀ e ∈ Builtin.all, r.nameOfKind e.2 = .ok e.1)
  (hk : k ∈ Builtin.all.map Prod.snd) {v : k.Value} (hv : k.carriage.Accepts v)

include hr hb

theorem refuses_entity {n : String} {k' : Kind} (hm : (n, k') ∈ Builtin.all)
    (hk' : k' ≠ Builtin.parentEntity) (entity : Entity) :
    ∃ e, Refuses r n ((Carriage.direct .entity).encode entity) e := by
  have hc := messageName?_ne_none k' (List.mem_map_of_mem hm) hk'
  obtain ⟨e, he⟩ := Carriage.decode_message_of_entity hc entity
  exact ⟨e, hr.refuses (hb _ hm) he⟩

include hk hv

theorem refuses_at_parentEntity (hne : k ≠ Builtin.parentEntity) :
    ∃ e, Refuses r "ParentEntity" (k.carriage.encode v) e := by
  obtain ⟨e, he⟩ := Carriage.decode_entity_of_message (messageName?_ne_none k hk hne) hv
  exact ⟨e, hr.refuses (hb ("ParentEntity", Builtin.parentEntity) (by decide)) he⟩

theorem refuses_at_name (hne : k ≠ Builtin.name) :
    ∃ e, Refuses r "Name" (k.carriage.encode v) e := by
  by_cases hp : k = Builtin.parentEntity
  · subst hp
    have hm : ("Name", Builtin.name) ∈ Builtin.all := by decide
    exact refuses_entity hr hb hm (by decide) v
  · obtain ⟨e, he⟩ := Carriage.decode_text_of_foreign (messageName?_ne_none k hk hp)
      (carriage_ne_text k hk hne) hv
    exact ⟨e, hr.refuses (hb ("Name", Builtin.name) (by decide)) he⟩

theorem misses_latitude (hne : k ≠ Builtin.sphericalCoordinates) (hp : k ≠ Builtin.parentEntity) :
    Refuses r "SphericalCoordinates" (k.carriage.encode v) (.missingField "latitude") :=
  hr.refuses (hb ("SphericalCoordinates", Builtin.sphericalCoordinates) (by decide)) <|
    Carriage.decode_coordinates_of_foreign (messageName?_ne_none k hk hp)
      (carriage_ne_coordinates k hk hne) hv

theorem refuses_at_coordinates (hne : k ≠ Builtin.sphericalCoordinates) :
    ∃ e, Refuses r "SphericalCoordinates" (k.carriage.encode v) e := by
  by_cases hp : k = Builtin.parentEntity
  · subst hp
    have hm : ("SphericalCoordinates", Builtin.sphericalCoordinates) ∈ Builtin.all := by decide
    exact refuses_entity hr hb hm (by decide) v
  · exact ⟨_, misses_latitude hr hb hk hv hne hp⟩

theorem refuses_at_static (h : k = Builtin.name ∨ k = Builtin.parentEntity) :
    ∃ e, Refuses r "Static" (k.carriage.encode v) e := by
  rcases h with rfl | rfl
  · obtain ⟨e, he⟩ := Carriage.decode_flag_of_text hv
    exact ⟨e, hr.refuses (hb ("Static", Builtin.static) (by decide)) he⟩
  · have hm : ("Static", Builtin.static) ∈ Builtin.all := by decide
    exact refuses_entity hr hb hm (by decide) v

end Refusals

/-- The octets of any component of a built-in kind are refused under the names of other kinds, where
these are registered under their names. -/
theorem misaddressed_octets_are_refused (hr : r.Registered)
    (hb : ∀ e ∈ Builtin.all, r.nameOfKind e.2 = .ok e.1) (hk : k ∈ Builtin.all.map Prod.snd)
    {v : k.Value} (hv : k.carriage.Accepts v) :
    ∃ s, r.serialize ⟨k, ⟨v⟩⟩ = .ok s ∧ Misaddressed r k s := by
  obtain ⟨⟨n, k⟩, hm, rfl⟩ := List.mem_map.1 hk
  have hd := hr.descriptor_of_nameOfKind (hb _ hm)
  refine ⟨_, hr.consistent.serialize_of_encode hd (k.encode_eq v), ?_⟩
  constructor
  case parentEntity => exact refuses_at_parentEntity hr hb hk hv
  case name => exact refuses_at_name hr hb hk hv
  case coordinates => exact refuses_at_coordinates hr hb hk hv
  case latitude => exact misses_latitude hr hb hk hv
  case static => exact refuses_at_static hr hb hk hv
  case messages =>
    rintro rfl n' k' hm' hk'
    exact refuses_entity hr hb hm' hk' v

theorem misaddressed_name_is_refused :
    builtin.Registered ∧ (∀ e ∈ Builtin.all, builtin.nameOfKind e.2 = .ok e.1) ∧
      Builtin.name ∈ Builtin.all.map Prod.snd ∧ Builtin.name.carriage.Accepts "probe" ∧
      ∃ s, builtin.serialize ⟨Builtin.name, ⟨"probe"⟩⟩ = .ok s ∧
        Refuses builtin "SphericalCoordinates" s (.missingField "latitude") := by
  have hr : builtin.Registered := registered_ofList Builtin.all
  have hk : Builtin.name ∈ Builtin.all.map Prod.snd := by decide
  have hv : Builtin.name.carriage.Accepts "probe" :=
    (by decide : (Utf8.encode "probe").length < 0x100000000)
  obtain ⟨s, hs, hm⟩ := misaddressed_octets_are_refused hr nameOfKind_builtin hk hv
  exact ⟨hr, nameOfKind_builtin, hk, hv, s, hs, hm.latitude (by decide) (by decide)⟩

end EntityWire.Registry
