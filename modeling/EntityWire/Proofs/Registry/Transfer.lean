import EntityWire.Proofs.Component.Carriage
import EntityWire.Proofs.Registry.Consistency
import EntityWire.Proofs.Registry.Lookup
import EntityWire.Registry.Transfer

namespace EntityWire.Registry

variable {K : Type} [Kinds K]

/-- The registries whose descriptors are all made for a kind. -/
inductive Registered : Registry K → Prop
  | empty : Registered .empty
  | register {r : Registry K} (h : Registered r) (name : String) (k : K) :
      Registered (r.register name k).1

namespace Registered

variable {r : Registry K} {n : String} {k : K} {d : Descriptor K}

theorem reachable (h : r.Registered) : r.Reachable := by
  induction h with
  | empty => exact .empty
  | register _ name k ih => exact ih.register name k

theorem consistent (h : r.Registered) : r.Consistent := h.reachable.consistent

theorem eq_ofKind (h : r.Registered) (hd : r.byName.find? n = some d) :
    d = .ofKind n d.kind := by
  induction h with
  | empty => nomatch hd
  | @register r _ name k ih =>
    have hs := installs r (.ofKind name k)
    simp only [Registry.register] at hd
    generalize r.install (.ofKind name k) = p at hs hd
    cases hs with
    | added =>
      rw [find?_add] at hd
      split at hd
      · next hn =>
        obtain rfl := Option.some.inj hd
        rw [hn]
        rfl
      · exact ih hd
    | foreign | again | nameTaken | kindTaken | idTaken => exact ih hd

theorem find?_of_nameOfKind (h : r.Registered) (hk : r.nameOfKind k = .ok n) :
    r.byName.find? n = some (.ofKind n k) := by
  obtain ⟨d, hd, rfl⟩ := h.consistent.find?_of_nameOfKind hk
  rw [hd, ← h.eq_ofKind hd]

theorem descriptor_of_nameOfKind (h : r.Registered) (hk : r.nameOfKind k = .ok n) :
    r.descriptor n = .ok (.ofKind n k) := by
  rw [descriptor, h.find?_of_nameOfKind hk]

end Registered

theorem find?_of_descriptor {r : Registry K} {n : String} {d : Descriptor K}
    (h : r.descriptor n = .ok d) : r.byName.find? n = some d := descriptor_eq_ok_iff.1 h

theorem registered_ofList (kinds : List (String × K)) : (ofList kinds).Registered := by
  have step : ∀ {r : Registry K}, r.Registered →
      (kinds.foldl (fun r e ↦ (r.register e.1 e.2).1) r).Registered := by
    intro r hr
    induction kinds generalizing r with
    | nil => exact hr
    | cons e rest ih => exact ih (hr.register e.1 e.2)
  exact step .empty

theorem nameOfKind_builtin : ∀ e ∈ Builtin.all, builtin.nameOfKind e.2 = .ok e.1 := by
  have hl : ∀ e ∈ Builtin.all, builtin.byKind.lookup e.2 = some e.1 := by decide +kernel
  intro e he
  rw [nameOfKind, hl e he]

end EntityWire.Registry

namespace EntityWire

open Message (MessageError)

section Kinds

variable {K : Type} [Kinds K] {k : K} {v : Kinds.Value k} {s : Octets}

theorem Component.ofOctets_of_decode (hd : Kinds.decode k s = .ok v) :
    Component.ofOctets s = .ok (⟨v⟩ : Component k) := by
  rw [Component.ofOctets, hd]
  rfl

theorem Component.fill_of_decode (hd : Kinds.decode k s = .ok v) (w : Component k) :
    w.fill s = (⟨v⟩, .ok ()) := by
  rw [Component.fill, hd]

namespace Descriptor

variable (n : String) (c : Component k)

theorem checkKind_ofKind : (ofKind n k).checkKind ⟨k, c⟩ = .ok () := if_pos rfl

theorem serialize_ofKind : (ofKind n k).serialize ⟨k, c⟩ = c.serialize.mapError .content := by
  rw [serialize, checkKind_ofKind]
  rfl

theorem deserialize_ofKind (s : Octets) : (ofKind n k).deserialize ⟨k, c⟩ s =
    (⟨k, (c.fill s).1⟩, (c.fill s).2.mapError .content) := by
  rw [deserialize, checkKind_ofKind]
  rfl

theorem serialize_of_encode (hs : Kinds.encode k v = .ok s) :
    (ofKind n k).serialize ⟨k, ⟨v⟩⟩ = .ok s := by
  rw [serialize_ofKind, Component.serialize, hs]
  rfl

theorem deserialize_of_decode (hd : Kinds.decode k s = .ok v) :
    (ofKind n k).deserialize ⟨k, c⟩ s = (⟨k, ⟨v⟩⟩, .ok ()) := by
  rw [deserialize_ofKind, Component.fill_of_decode hd]
  rfl

end Descriptor

namespace Registry

variable {r : Registry K} {n : String}

theorem Consistent.serialize_of_encode (h : r.Consistent)
    (hd : r.descriptor n = .ok (.ofKind n k)) (hs : Kinds.encode k v = .ok s) :
    r.serialize ⟨k, ⟨v⟩⟩ = .ok s := by
  have hk : r.descriptorByKind? k = some (.ofKind n k) :=
    h.descriptorByKind? (find?_of_descriptor hd)
  rw [Registry.serialize, hk]
  exact Descriptor.serialize_of_encode n hs

theorem deserialize_eq (hd : r.descriptor n = .ok (.ofKind n k)) (s : Octets) :
    r.deserialize n s =
      ((Component.ofOctets s).map (Handle.mk k)).mapError RegistryError.content := by
  have hs : (Descriptor.ofKind n k).deserialize (Descriptor.ofKind n k).construct s = _ :=
    Descriptor.deserialize_ofKind n Component.default s
  rw [Registry.deserialize, hd]
  simp only [bind, Except.bind, hs, Component.fill, Component.ofOctets]
  cases Kinds.decode k s <;> rfl

theorem deserialize_of_decode (hn : r.descriptor n = .ok (.ofKind n k))
    (hd : Kinds.decode k s = .ok v) : r.deserialize n s = .ok ⟨k, ⟨v⟩⟩ := by
  rw [deserialize_eq hn, Component.ofOctets_of_decode hd]
  rfl

theorem deserializeInto_of_decode (hn : r.descriptor n = .ok (.ofKind n k))
    (hd : Kinds.decode k s = .ok v) (w : Component k) :
    r.deserializeInto n ⟨k, w⟩ s = (⟨k, ⟨v⟩⟩, .ok ()) := by
  rw [Registry.deserializeInto, hn]
  exact Descriptor.deserialize_of_decode n w hd

end Registry

end Kinds

namespace Registry

variable {r : Registry Kind} {k : Kind} {v : k.Value} {n : String}

/-- A component of a registered kind gives the same octets by every path, and these octets give
the component by every path back, whatever component they are filled into. -/
theorem component_returns_by_every_path (h : r.Registered) (hk : r.nameOfKind k = .ok n)
    (hv : k.carriage.Accepts v) :
    ∃ d s, r.descriptor n = .ok d ∧ r.descriptorById (.ofName n) = .ok d ∧
      (⟨v⟩ : Component k).serialize = .ok s ∧ r.serialize ⟨k, ⟨v⟩⟩ = .ok s ∧
      d.serialize ⟨k, ⟨v⟩⟩ = .ok s ∧ r.deserialize n s = .ok ⟨k, ⟨v⟩⟩ ∧
      Component.ofOctets s = .ok (⟨v⟩ : Component k) ∧
      ∀ w : Component k, r.deserializeInto n ⟨k, w⟩ s = (⟨k, ⟨v⟩⟩, .ok ()) ∧
        d.deserialize ⟨k, w⟩ s = (⟨k, ⟨v⟩⟩, .ok ()) ∧ w.fill s = (⟨v⟩, .ok ()) := by
  have hn := h.descriptor_of_nameOfKind hk
  have hs := k.encode_eq v
  have hd : Kinds.decode k (k.carriage.encode v) = .ok v := Carriage.decode_encode hv
  refine ⟨.ofKind n k, k.carriage.encode v, hn,
    h.consistent.descriptorById (find?_of_descriptor hn), hs,
    h.consistent.serialize_of_encode hn hs, Descriptor.serialize_of_encode n hs,
    deserialize_of_decode hn hd, Component.ofOctets_of_decode hd, ?_⟩
  intro w
  exact ⟨deserializeInto_of_decode hn hd w, Descriptor.deserialize_of_decode n w hd,
    Component.fill_of_decode hd w⟩

def placements : Registry Kind := (empty.register "Placement" Builtin.pose).1

def edgePose : Spatial.Pose := ⟨⟨⟨0x8000000000000000⟩, ⟨1⟩, .one⟩, .identity⟩

theorem edgePose_returns_by_every_path :
    placements.Registered ∧ placements.nameOfKind Builtin.pose = .ok "Placement" ∧
      Builtin.pose.carriage.Accepts edgePose ∧
      ∃ s, placements.serialize ⟨Builtin.pose, ⟨edgePose⟩⟩ = .ok s ∧
        placements.deserialize "Placement" s = .ok ⟨Builtin.pose, ⟨edgePose⟩⟩ := by
  have h : placements.Registered := Registered.empty.register _ _
  have hk : placements.nameOfKind Builtin.pose = .ok "Placement" := rfl
  have hv : Builtin.pose.carriage.Accepts edgePose :=
    ⟨⟨by decide, by decide, by decide⟩, Message.finite_identity, Message.isOffUnit_identity⟩
  obtain ⟨d, s, -, -, -, hs, -, hd, -⟩ := component_returns_by_every_path h hk hv
  exact ⟨h, hk, hv, s, hs, hd⟩

end Registry

end EntityWire
