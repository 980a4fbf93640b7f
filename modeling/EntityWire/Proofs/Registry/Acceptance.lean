import EntityWire.Proofs.Component.Domain
import EntityWire.Proofs.Registry.Transfer

namespace EntityWire.Registry

open Message (MessageError)

section Kinds

variable {K : Type} [Kinds K] {r : Registry K} {n : String}

theorem Registered.of_deserialize (h : r.Registered) {s : Octets} {g : Handle K}
    (hg : r.deserialize n s = .ok g) :
    ∃ (k : K) (v : Kinds.Value k), r.descriptor n = .ok (.ofKind n k) ∧
      Kinds.decode k s = .ok v ∧ g = ⟨k, ⟨v⟩⟩ := by
  obtain ⟨d, hd, -⟩ := of_bind_ok hg
  have hk : r.descriptor n = .ok (.ofKind n d.kind) :=
    hd.trans (congrArg _ (h.eq_ofKind (find?_of_descriptor hd)))
  rw [deserialize_eq hk] at hg
  obtain ⟨c, hc, rfl⟩ := of_map_ok (of_mapError_ok hg)
  obtain ⟨v, hv, rfl⟩ := of_map_ok hc
  exact ⟨d.kind, v, hk, hv, rfl⟩

theorem Registered.of_deserialize_content (h : r.Registered) {s : Octets} {e : MessageError}
    (he : r.deserialize n s = .error (.content e)) :
    ∃ k : K, r.descriptor n = .ok (.ofKind n k) ∧ Kinds.decode k s = .error e := by
  cases hd : r.descriptor n with
  | error x =>
    have hx : r.deserialize n s = .error x := by
      rw [deserialize, hd]
      rfl
    obtain rfl := Except.error.inj (hx.symm.trans he)
    unfold descriptor at hd
    split at hd <;> cases hd
  | ok d =>
    have hk : r.descriptor n = .ok (.ofKind n d.kind) :=
      hd.trans (congrArg _ (h.eq_ofKind (find?_of_descriptor hd)))
    rw [deserialize_eq hk, mapError_error_iff] at he
    obtain ⟨e', hm, hc⟩ := he
    obtain rfl := RegistryError.content.inj hc
    refine ⟨d.kind, congrArg _ (h.eq_ofKind (find?_of_descriptor hd)), ?_⟩
    exact map_error_iff.1 (map_error_iff.1 hm)

end Kinds

variable {r : Registry Kind} {k : Kind} {n : String}

/-- No octets make a component outside its domain, and a component that octets made is written and
read again without a change, to the same octets each time. -/
theorem accepted_components_are_stable (h : r.Registered) (hk : r.nameOfKind k = .ok n)
    {s : Octets} {g : Handle Kind} (hg : r.deserialize n s = .ok g) :
    (∃ v : k.Value, g = ⟨k, ⟨v⟩⟩ ∧ k.carriage.Domain v) ∧
      ∃ s', r.serialize g = .ok s' ∧
        ∃ g', r.deserialize n s' = .ok g' ∧ g' = g ∧ r.serialize g' = .ok s' := by
  obtain ⟨k', v, hd', hv, rfl⟩ := h.of_deserialize hg
  have hd := h.descriptor_of_nameOfKind hk
  obtain rfl : k' = k := congrArg Descriptor.kind (Except.ok.inj (hd'.symm.trans hd))
  have ha : k'.carriage.Accepts v := Carriage.accepts_of_decode hv
  have hs := h.consistent.serialize_of_encode hd (k'.encode_eq v)
  have hb := deserialize_of_decode hd (Carriage.decode_encode ha)
  exact ⟨⟨v, rfl, ha.domain⟩, _, hs, _, hb, rfl, hs⟩

def oddVelocity : Octets := [0x93, 0x01, 0xfe, 0xca, 0x3f, 0x00, 0x00, 0x00]

theorem oddVelocity_is_stable :
    builtin.Registered ∧ builtin.nameOfKind Builtin.linearVelocity = .ok "LinearVelocity" ∧
      ∃ g, builtin.deserialize "LinearVelocity" oddVelocity = .ok g ∧
        ∃ s', builtin.serialize g = .ok s' ∧
          ∃ g', builtin.deserialize "LinearVelocity" s' = .ok g' ∧ g' = g := by
  have h : builtin.Registered := registered_ofList Builtin.all
  have hk : builtin.nameOfKind Builtin.linearVelocity = .ok "LinearVelocity" :=
    nameOfKind_builtin ("LinearVelocity", Builtin.linearVelocity) (by decide)
  have ho : (builtin.deserialize "LinearVelocity" oddVelocity).isOk = true := by decide +kernel
  cases hg : builtin.deserialize "LinearVelocity" oddVelocity with
  | error e => simp [hg, Except.isOk, Except.toBool] at ho
  | ok g =>
    obtain ⟨-, s', hs, g', hd, he, -⟩ := accepted_components_are_stable h hk hg
    exact ⟨h, hk, g, rfl, s', hs, g', hd, he⟩

end EntityWire.Registry
