import EntityWire.Registry.Lookup

namespace EntityWire.Registry

variable {K : Type} [Kinds K] {r : Registry K} {n : String} {k : K} {i : WireId} {d : Descriptor K}

theorem descriptor_eq_ok_iff : r.descriptor n = .ok d ↔ r.byName.find? n = some d := by
  unfold descriptor
  cases r.byName.find? n <;> simp

theorem descriptor_eq_error_iff {e : RegistryError} :
    r.descriptor n = .error e ↔ r.hasName n = false ∧ e = .unknownName n := by
  unfold descriptor hasName
  cases r.byName.find? n <;> simp [eq_comm]

theorem nameOfKind_eq_ok_iff : r.nameOfKind k = .ok n ↔ r.byKind.lookup k = some n := by
  unfold nameOfKind
  cases r.byKind.lookup k <;> simp

theorem nameOfId_eq_ok_iff : r.nameOfId i = .ok n ↔ r.byId.lookup i = some n := by
  unfold nameOfId
  cases r.byId.lookup i <;> simp

theorem descriptorById_eq_ok_iff :
    r.descriptorById i = .ok d ↔ ∃ n, r.byId.lookup i = some n ∧ r.byName.find? n = some d := by
  unfold descriptorById descriptorById?
  cases r.byId.lookup i with
  | none => simp
  | some n => cases hf : r.byName.find? n <;> simp [hf]

theorem idOfKind_eq_ok_iff : r.idOfKind k = .ok i ↔
    ∃ n d, r.byKind.lookup k = some n ∧ r.byName.find? n = some d ∧ d.id = i := by
  unfold idOfKind descriptorByKind?
  cases r.byKind.lookup k with
  | none => simp
  | some n => cases hf : r.byName.find? n <;> simp [hf]

end EntityWire.Registry
