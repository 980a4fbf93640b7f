import EntityWire.Proofs.Association
import EntityWire.Registry.Lookup

namespace EntityWire.Registry

variable {K : Type} [Kinds K]

/-- The registries that calls lead to, in any order and whatever becomes of each. -/
inductive Reachable : Registry K → Prop
  | empty : Reachable .empty
  | register {r : Registry K} (h : Reachable r) (name : String) (k : K) :
      Reachable (r.register name k).1
  | install {r : Registry K} (h : Reachable r) (d : Descriptor K) : Reachable (r.install d).1

/-- What may become of an installation, in the order in which conflicts are looked for. -/
inductive Installs (r : Registry K) (d : Descriptor K) :
    Registry K × Except RegistryError WireId → Prop
  | foreign (hd : d.construct.kind ≠ d.kind) :
      Installs r d (r, .error (.kindMismatch d.name d.typeName d.construct.typeName))
  | again (hd : d.construct.kind = d.kind) (e : Descriptor K) (he : r.byName.find? d.name = some e)
      (hk : e.kind = d.kind) : Installs r d (r, .ok e.id)
  | nameTaken (hd : d.construct.kind = d.kind) (e : Descriptor K)
      (he : r.byName.find? d.name = some e) (hk : e.kind ≠ d.kind) :
      Installs r d (r, .error (r.duplicate d e.name))
  | kindTaken (hd : d.construct.kind = d.kind) (hn : r.byName.find? d.name = none) (name : String)
      (hk : r.byKind.lookup d.kind = some name) : Installs r d (r, .error (r.duplicate d name))
  | idTaken (hd : d.construct.kind = d.kind) (hn : r.byName.find? d.name = none)
      (hk : r.byKind.lookup d.kind = none) (name : String)
      (hi : r.byId.lookup d.id = some name) : Installs r d (r, .error (r.duplicate d name))
  | added (hd : d.construct.kind = d.kind) (hn : r.byName.find? d.name = none)
      (hk : r.byKind.lookup d.kind = none) (hi : r.byId.lookup d.id = none) :
      Installs r d (r.add d, .ok d.id)

theorem installs (r : Registry K) (d : Descriptor K) : Installs r d (r.install d) := by
  unfold install
  split
  · next hd => exact .foreign hd
  · next hd =>
    have hd : d.construct.kind = d.kind := Decidable.not_not.1 hd
    split
    · next e he =>
      by_cases hk : e.kind = d.kind
      · rw [if_pos hk]
        exact .again hd e he hk
      · rw [if_neg hk]
        exact .nameTaken hd e he hk
    · next hn =>
      split
      · next name hk => exact .kindTaken hd hn name hk
      · next hk =>
        split
        · next name hi => exact .idTaken hd hn hk name hi
        · next hi => exact .added hd hn hk hi

/-- The three look-ups agree: each finds what the others say of it, and nothing else. -/
structure Consistent (r : Registry K) : Prop where
  name_eq {n : String} {d : Descriptor K} (h : r.byName.find? n = some d) : d.name = n
  id_eq {n : String} {d : Descriptor K} (h : r.byName.find? n = some d) : d.id = .ofName n
  kind_lookup {n : String} {d : Descriptor K} (h : r.byName.find? n = some d) :
    r.byKind.lookup d.kind = some n
  id_lookup {n : String} {d : Descriptor K} (h : r.byName.find? n = some d) :
    r.byId.lookup d.id = some n
  construct_kind {n : String} {d : Descriptor K} (h : r.byName.find? n = some d) :
    d.construct.kind = d.kind
  kind_entry {k : K} {n : String} (h : (k, n) ∈ r.byKind) :
    ∃ d, r.byName.find? n = some d ∧ d.kind = k
  id_entry {i : WireId} {n : String} (h : (i, n) ∈ r.byId) :
    ∃ d, r.byName.find? n = some d ∧ d.id = i

variable {r : Registry K} {d : Descriptor K}

theorem find?_add (r : Registry K) (d : Descriptor K) (n : String) :
    (r.add d).byName.find? n = if n = d.name then some d else r.byName.find? n :=
  OrderedMap.find?_insert r.byName d.name n d

theorem find?_add_of_some {n : String} {e : Descriptor K} (hn : r.byName.find? d.name = none)
    (he : r.byName.find? n = some e) : (r.add d).byName.find? n = some e := by
  have hne : n ≠ d.name := by
    rintro rfl
    exact absurd (hn.symm.trans he) (by simp)
  rw [find?_add, if_neg hne, he]

theorem of_find?_add {n : String} {e : Descriptor K} (he : (r.add d).byName.find? n = some e) :
    (n = d.name ∧ e = d) ∨ r.byName.find? n = some e := by
  rw [find?_add] at he
  split at he
  · next hn => exact .inl ⟨hn, (Option.some.inj he).symm⟩
  · exact .inr he

section Entries

variable {κ : Type} {key : Descriptor K → κ} {entries : List (κ × String)}

theorem lookup_add [BEq κ] [LawfulBEq κ] (hk : entries.lookup (key d) = none)
    (h : ∀ {n e}, r.byName.find? n = some e → entries.lookup (key e) = some n) {n : String}
    {e : Descriptor K} (he : (r.add d).byName.find? n = some e) :
    ((key d, d.name) :: entries).lookup (key e) = some n := by
  rw [List.lookup_cons]
  obtain ⟨rfl, rfl⟩ | he := of_find?_add he
  · rw [beq_self_eq_true]
  · have hne : key e ≠ key d := by
      intro hek
      have hd := h he
      rw [hek, hk] at hd
      cases hd
    rw [beq_false_of_ne hne]
    exact h he

theorem entry_add (hn : r.byName.find? d.name = none)
    (h : ∀ {k n}, (k, n) ∈ entries → ∃ e, r.byName.find? n = some e ∧ key e = k) {k : κ}
    {n : String} (hm : (k, n) ∈ (key d, d.name) :: entries) :
    ∃ e, (r.add d).byName.find? n = some e ∧ key e = k := by
  obtain he | hm := List.mem_cons.1 hm
  · obtain ⟨rfl, rfl⟩ := Prod.mk.inj he
    exact ⟨d, by rw [find?_add, if_pos rfl], rfl⟩
  · obtain ⟨e, he, hek⟩ := h hm
    exact ⟨e, find?_add_of_some hn he, hek⟩

end Entries

theorem consistent_empty : Consistent (empty : Registry K) where
  name_eq h := nomatch h
  id_eq h := nomatch h
  kind_lookup h := nomatch h
  id_lookup h := nomatch h
  construct_kind h := nomatch h
  kind_entry h := nomatch h
  id_entry h := nomatch h

theorem Consistent.add (h : r.Consistent) (hd : d.construct.kind = d.kind)
    (hn : r.byName.find? d.name = none) (hk : r.byKind.lookup d.kind = none)
    (hi : r.byId.lookup d.id = none) : (r.add d).Consistent := by
  constructor
  case name_eq =>
    intro n e he
    obtain ⟨rfl, rfl⟩ | he := of_find?_add he
    · rfl
    · exact h.name_eq he
  case id_eq =>
    intro n e he
    obtain ⟨rfl, rfl⟩ | he := of_find?_add he
    · rfl
    · exact h.id_eq he
  case construct_kind =>
    intro n e he
    obtain ⟨rfl, rfl⟩ | he := of_find?_add he
    · exact hd
    · exact h.construct_kind he
  case kind_lookup => exact lookup_add hk h.kind_lookup
  case id_lookup => exact lookup_add hi h.id_lookup
  case kind_entry => exact entry_add hn h.kind_entry
  case id_entry => exact entry_add hn h.id_entry

theorem Consistent.install (h : r.Consistent) (d : Descriptor K) : (r.install d).1.Consistent := by
  have hs := installs r d
  generalize r.install d = p at hs
  cases hs with
  | added hd hn hk hi => exact h.add hd hn hk hi
  | foreign | again | nameTaken | kindTaken | idTaken => exact h

theorem Reachable.consistent (h : r.Reachable) : r.Consistent := by
  induction h with
  | empty => exact consistent_empty
  | register _ name k ih => exact ih.install (.ofKind name k)
  | install _ d ih => exact ih.install d

namespace Consistent

variable {n : String} {k : K}

theorem nameOfKind (h : r.Consistent) (hd : r.byName.find? n = some d) :
    r.nameOfKind d.kind = .ok n := by
  rw [Registry.nameOfKind, h.kind_lookup hd]

theorem nameOfHandle (h : r.Consistent) {c : Handle K} (hd : r.byName.find? n = some d)
    (hk : c.kind = d.kind) : r.nameOfHandle c = .ok n := by
  rw [Registry.nameOfHandle, hk, h.nameOfKind hd]
  rfl

theorem nameOfId (h : r.Consistent) (hd : r.byName.find? n = some d) :
    r.nameOfId (.ofName n) = .ok n := by
  rw [Registry.nameOfId, ← h.id_eq hd, h.id_lookup hd]

theorem descriptorById (h : r.Consistent) (hd : r.byName.find? n = some d) :
    r.descriptorById (.ofName n) = .ok d := by
  have hi : r.descriptorById? (.ofName n) = some d := by
    rw [descriptorById?, ← h.id_eq hd, h.id_lookup hd, Option.bind_some, hd]
  rw [Registry.descriptorById, hi]

theorem descriptorByKind? (h : r.Consistent) (hd : r.byName.find? n = some d) :
    r.descriptorByKind? d.kind = some d := by
  rw [Registry.descriptorByKind?, h.kind_lookup hd, Option.bind_some, hd]

theorem find?_of_nameOfKind (h : r.Consistent) (hk : r.nameOfKind k = .ok n) :
    ∃ d, r.byName.find? n = some d ∧ d.kind = k := by
  unfold Registry.nameOfKind at hk
  split at hk
  · next name hl =>
    obtain rfl := Except.ok.inj hk
    exact h.kind_entry (mem_of_lookup hl)
  · nomatch hk

theorem hasId_iff (h : r.Consistent) (id : WireId) :
    r.hasId id = true ↔ ∃ d, r.descriptorById id = .ok d := by
  constructor
  · intro hi
    obtain ⟨n, hn⟩ := Option.isSome_iff_exists.1 hi
    obtain ⟨d, hd, rfl⟩ := h.id_entry (mem_of_lookup hn)
    exact ⟨d, h.id_eq hd ▸ h.descriptorById hd⟩
  · rintro ⟨d, hd⟩
    unfold hasId
    cases hl : r.byId.lookup id with
    | some n => rfl
    | none => simp [Registry.descriptorById, descriptorById?, hl] at hd

end Consistent

theorem names_ascending (r : Registry K) : r.names.Pairwise (· < ·) := by
  rw [names, OrderedMap.keys, List.pairwise_map]
  exact r.byName.ascending.imp fun h ↦ compareOfLessAndEq_eq_lt.1 h

theorem mem_names (r : Registry K) (n : String) : n ∈ r.names ↔ r.hasName n = true := by
  simp only [names, OrderedMap.keys, List.mem_map, hasName, Option.isSome_iff_exists,
    OrderedMap.find?_eq_some_iff]
  constructor
  · rintro ⟨⟨m, d⟩, hm, rfl⟩
    exact ⟨d, hm⟩
  · rintro ⟨d, hd⟩
    exact ⟨(n, d), hd, rfl⟩

/-- Names, kinds and ids of a registry correspond one to one, after any calls. -/
theorem names_kinds_ids_correspond (h : r.Reachable) :
    r.Consistent ∧
    (∀ n, r.hasName n = true → ∃ c, r.construct n = .ok c ∧ r.nameOfKind c.kind = .ok n ∧
      r.nameOfHandle c = .ok n ∧ r.nameOfId (.ofName n) = .ok n ∧
      ∃ c', r.constructById (.ofName n) = .ok c' ∧ c'.kind = c.kind) ∧
    (∀ id, r.hasId id = true ↔ ∃ d, r.descriptorById id = .ok d) ∧
    r.names.Pairwise (· < ·) ∧ (∀ n, n ∈ r.names ↔ r.hasName n = true) ∧
    r.names.length = r.size := by
  have hc := h.consistent
  refine ⟨hc, ?_, hc.hasId_iff, r.names_ascending, r.mem_names, List.length_map _⟩
  intro n hn
  obtain ⟨d, hd⟩ := Option.isSome_iff_exists.1 hn
  have hk : r.nameOfKind d.construct.kind = .ok n := by
    rw [hc.construct_kind hd]
    exact hc.nameOfKind hd
  refine ⟨d.construct, ?_, hk, hc.nameOfHandle hd (hc.construct_kind hd), hc.nameOfId hd,
    d.construct, ?_, rfl⟩
  · rw [construct, Registry.descriptor, hd]
    rfl
  · rw [constructById, hc.descriptorById hd]
    rfl

/-- A kind under its name, then another kind under that name, and the kind under another name. -/
def contested : Registry Kind :=
  (((empty.register "Pose" Builtin.pose).1.register "Pose" Builtin.name).1.install
    (.ofKind "Position" Builtin.pose)).1

theorem contested_names_correspond :
    contested.Reachable ∧ contested.hasName "Pose" = true ∧ contested.Consistent ∧
      contested.names.Pairwise (· < ·) := by
  have h : contested.Reachable := ((Reachable.empty.register _ _).register _ _).install _
  have hc := names_kinds_ids_correspond h
  exact ⟨h, by decide +kernel, hc.1, hc.2.2.2.1⟩

end EntityWire.Registry
