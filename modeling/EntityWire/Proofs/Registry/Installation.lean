import EntityWire.Proofs.Ordered.Map
import EntityWire.Proofs.Registry.Consistency
import EntityWire.Proofs.Registry.Lookup

namespace EntityWire.Registry

variable {K : Type} [Kinds K] {r r' : Registry K} {d e : Descriptor K} {n : String}

/-- A registry with one entry more, and nothing else that is new. -/
structure Gains (r r' : Registry K) (d : Descriptor K) : Prop where
  byName (n : String) : r'.byName.find? n = if n = d.name then some d else r.byName.find? n
  byKind (k : K) : r'.byKind.lookup k = if k = d.kind then some d.name else r.byKind.lookup k
  byId (i : WireId) : r'.byId.lookup i = if i = d.id then some d.name else r.byId.lookup i
  names : r'.names.Perm (d.name :: r.names)

/-- A registry in which every look-up that had an answer has it still. -/
structure Keeps (r r' : Registry K) : Prop where
  descriptor {n : String} {d : Descriptor K} (h : r.descriptor n = .ok d) : r'.descriptor n = .ok d
  descriptorById {i : WireId} {d : Descriptor K} (h : r.descriptorById i = .ok d) :
    r'.descriptorById i = .ok d
  nameOfKind {k : K} {n : String} (h : r.nameOfKind k = .ok n) : r'.nameOfKind k = .ok n
  nameOfId {i : WireId} {n : String} (h : r.nameOfId i = .ok n) : r'.nameOfId i = .ok n
  idOfKind {k : K} {i : WireId} (h : r.idOfKind k = .ok i) : r'.idOfKind k = .ok i

theorem gains_add (hn : r.byName.find? d.name = none) : Gains r (r.add d) d where
  byName n := find?_add r d n
  byKind k := lookup_cons_ite d.kind k d.name r.byKind
  byId i := lookup_cons_ite d.id i d.name r.byId
  names := OrderedMap.keys_insert_perm hn d

theorem Gains.keeps (h : Gains r r' d) (hn : r.byName.find? d.name = none)
    (hk : r.byKind.lookup d.kind = none) (hi : r.byId.lookup d.id = none) : Keeps r r' := by
  have name : ∀ {n e}, r.byName.find? n = some e → r'.byName.find? n = some e :=
    eq_some_of_ite h.byName hn
  have kind : ∀ {k n}, r.byKind.lookup k = some n → r'.byKind.lookup k = some n :=
    eq_some_of_ite h.byKind hk
  have id : ∀ {i n}, r.byId.lookup i = some n → r'.byId.lookup i = some n :=
    eq_some_of_ite h.byId hi
  constructor
  case descriptor =>
    intro n e he
    exact descriptor_eq_ok_iff.2 (name (descriptor_eq_ok_iff.1 he))
  case descriptorById =>
    intro i e he
    obtain ⟨n, hl, hf⟩ := descriptorById_eq_ok_iff.1 he
    exact descriptorById_eq_ok_iff.2 ⟨n, id hl, name hf⟩
  case nameOfKind =>
    intro k n he
    exact nameOfKind_eq_ok_iff.2 (kind (nameOfKind_eq_ok_iff.1 he))
  case nameOfId =>
    intro i n he
    exact nameOfId_eq_ok_iff.2 (id (nameOfId_eq_ok_iff.1 he))
  case idOfKind =>
    intro k i he
    obtain ⟨n, e, hl, hf, hid⟩ := idOfKind_eq_ok_iff.1 he
    exact idOfKind_eq_ok_iff.2 ⟨n, e, kind hl, name hf, hid⟩

namespace Consistent

theorem lookup_kind_eq_none (h : r.Consistent) {k : K}
    (hk : ∀ n e, r.byName.find? n = some e → e.kind ≠ k) : r.byKind.lookup k = none := by
  cases hl : r.byKind.lookup k with
  | none => rfl
  | some n =>
    obtain ⟨e, he, rfl⟩ := h.kind_entry (mem_of_lookup hl)
    exact absurd rfl (hk n e he)

theorem lookup_id_eq_none (h : r.Consistent) {i : WireId}
    (hi : ∀ n e, r.byName.find? n = some e → WireId.ofName n ≠ i) : r.byId.lookup i = none := by
  cases hl : r.byId.lookup i with
  | none => rfl
  | some n =>
    obtain ⟨e, he, rfl⟩ := h.id_entry (mem_of_lookup hl)
    exact absurd (h.id_eq he).symm (hi n e he)

end Consistent

theorem duplicate_eq (d : Descriptor K) (he : r.byName.find? n = some e) :
    r.duplicate d n = .duplicate d.name d.typeName n e.typeName := by
  rw [duplicate, he]
  rfl

section Cases

variable (hd : d.construct.kind = d.kind)

include hd

theorem install_again (he : r.byName.find? d.name = some e) (hk : e.kind = d.kind) :
    r.install d = (r, .ok e.id) := by
  simp [install, hd, he, hk]

theorem install_nameTaken (h : r.Consistent) (he : r.byName.find? d.name = some e)
    (hk : e.kind ≠ d.kind) :
    r.install d = (r, .error (.duplicate d.name d.typeName d.name e.typeName)) := by
  simp [install, hd, he, hk, h.name_eq he, duplicate_eq d he]

variable (hn : r.byName.find? d.name = none)

include hn

theorem install_kindTaken (h : r.Consistent) (he : r.byName.find? n = some e)
    (hk : e.kind = d.kind) :
    r.install d = (r, .error (.duplicate d.name d.typeName n e.typeName)) := by
  have hl : r.byKind.lookup d.kind = some n := hk ▸ h.kind_lookup he
  simp [install, hd, hn, hl, duplicate_eq d he]

variable (hk : ∀ m f, r.byName.find? m = some f → f.kind ≠ d.kind)

include hk

theorem install_idTaken (h : r.Consistent) (he : r.byName.find? n = some e)
    (hi : WireId.ofName n = WireId.ofName d.name) :
    r.install d = (r, .error (.duplicate d.name d.typeName n e.typeName)) := by
  have hl : r.byId.lookup d.id = some n := by
    rw [Descriptor.id, ← hi, ← h.id_eq he, h.id_lookup he]
  simp [install, hd, hn, h.lookup_kind_eq_none hk, hl, duplicate_eq d he]

theorem install_added (h : r.Consistent)
    (hi : ∀ m f, r.byName.find? m = some f → WireId.ofName m ≠ WireId.ofName d.name) :
    r.install d = (r.add d, .ok d.id) := by
  simp [install, hd, hn, h.lookup_kind_eq_none hk, Descriptor.id, h.lookup_id_eq_none hi]

end Cases

theorem find?_install (d : Descriptor K) (he : r.byName.find? n = some e) :
    (r.install d).1.byName.find? n = some e := by
  have hs := installs r d
  generalize r.install d = p at hs
  cases hs with
  | added hd hn hk hi => exact find?_add_of_some hn he
  | foreign | again | nameTaken | kindTaken | idTaken => exact he

theorem of_find?_install (he : (r.install d).1.byName.find? n = some e) :
    (n = d.name ∧ e = d) ∨ r.byName.find? n = some e := by
  have hs := installs r d
  generalize r.install d = p at hs he
  cases hs with
  | added => exact of_find?_add he
  | foreign | again | nameTaken | kindTaken | idTaken => exact .inr he

theorem find?_of_install_ok {i : WireId} (h : (r.install d).2 = .ok i) :
    ∃ e, (r.install d).1.byName.find? d.name = some e ∧ e.kind = d.kind := by
  have hs := installs r d
  generalize r.install d = p at hs h
  cases hs with
  | again hd e he hk => exact ⟨e, he, hk⟩
  | added => exact ⟨d, by rw [find?_add, if_pos rfl], rfl⟩
  | foreign | nameTaken | kindTaken | idTaken => nomatch h

/-- What an installation answers and leaves, in the order in which conflicts are looked for. -/
structure Decided (r : Registry K) (d : Descriptor K) : Prop where
  mismatch_iff : (∃ name expected found,
    (r.install d).2 = .error (.kindMismatch name expected found)) ↔ d.construct.kind ≠ d.kind
  mismatch (hd : d.construct.kind ≠ d.kind) :
    r.install d = (r, .error (.kindMismatch d.name d.typeName d.construct.typeName))
  /-- The first descriptor stays, with its operations. -/
  again (hd : d.construct.kind = d.kind) {e : Descriptor K} (he : r.byName.find? d.name = some e)
    (hk : e.kind = d.kind) : r.install d = (r, .ok e.id) ∧ e.id = .ofName d.name
  nameTaken (hd : d.construct.kind = d.kind) {e : Descriptor K}
    (he : r.byName.find? d.name = some e) (hk : e.kind ≠ d.kind) :
    r.install d = (r, .error (.duplicate d.name d.typeName d.name e.typeName))
  kindTaken (hd : d.construct.kind = d.kind) (hn : r.byName.find? d.name = none) {n : String}
    {e : Descriptor K} (he : r.byName.find? n = some e) (hk : e.kind = d.kind) :
    r.install d = (r, .error (.duplicate d.name d.typeName n e.typeName))
  idTaken (hd : d.construct.kind = d.kind) (hn : r.byName.find? d.name = none)
    (hk : ∀ m f, r.byName.find? m = some f → f.kind ≠ d.kind) {n : String} {e : Descriptor K}
    (he : r.byName.find? n = some e) (hi : WireId.ofName n = WireId.ofName d.name) :
    r.install d = (r, .error (.duplicate d.name d.typeName n e.typeName))
  added (hd : d.construct.kind = d.kind) (hn : r.byName.find? d.name = none)
    (hk : ∀ m f, r.byName.find? m = some f → f.kind ≠ d.kind)
    (hi : ∀ m f, r.byName.find? m = some f → WireId.ofName m ≠ WireId.ofName d.name) :
    (r.install d).2 = .ok d.id ∧ Gains r (r.install d).1 d ∧ Keeps r (r.install d).1
  unchanged {e : RegistryError} (h : (r.install d).2 = .error e) : (r.install d).1 = r
  /-- The entry that a duplicate met is there, and is called by its own type. -/
  named {name attempted existingName existing : String}
    (h : (r.install d).2 = .error (.duplicate name attempted existingName existing)) :
    name = d.name ∧ attempted = d.typeName ∧
      ∃ e, r.byName.find? existingName = some e ∧ existing = e.typeName

theorem installation_is_decided (h : r.Reachable) (d : Descriptor K) : Decided r d := by
  have hc := h.consistent
  have mismatch : d.construct.kind ≠ d.kind →
      r.install d = (r, .error (.kindMismatch d.name d.typeName d.construct.typeName)) :=
    fun hd ↦ if_pos hd
  have hs := installs r d
  constructor
  case mismatch_iff =>
    constructor
    · rintro ⟨name, expected, found, he⟩ hd
      generalize r.install d = p at hs he
      cases hs with
      | foreign hne => exact hne hd
      | again | nameTaken | kindTaken | idTaken | added => nomatch he
    · intro hd
      exact ⟨_, _, _, congrArg Prod.snd (mismatch hd)⟩
  case mismatch => exact mismatch
  case again =>
    intro hd e he hk
    exact ⟨install_again hd he hk, hc.id_eq he⟩
  case nameTaken =>
    intro hd e he hk
    exact install_nameTaken hd hc he hk
  case kindTaken =>
    intro hd hn n e he hk
    exact install_kindTaken hd hn hc he hk
  case idTaken =>
    intro hd hn hk n e he hi
    exact install_idTaken hd hn hk hc he hi
  case added =>
    intro hd hn hk hi
    have hg : Gains r (r.add d) d := gains_add hn
    rw [install_added hd hn hk hc hi]
    exact ⟨rfl, hg, hg.keeps hn (hc.lookup_kind_eq_none hk) (hc.lookup_id_eq_none hi)⟩
  case unchanged =>
    intro e he
    generalize r.install d = p at hs he
    cases hs with
    | added => nomatch he
    | foreign | again | nameTaken | kindTaken | idTaken => rfl
  case named =>
    have existing : ∀ {n e name attempted existingName existing},
        r.byName.find? n = some e →
        r.duplicate d n = .duplicate name attempted existingName existing →
        name = d.name ∧ attempted = d.typeName ∧
          ∃ e, r.byName.find? existingName = some e ∧ existing = e.typeName := by
      intro n e name attempted existingName existing he hx
      rw [duplicate_eq d he] at hx
      injection hx with h₁ h₂ h₃ h₄
      subst h₁ h₂ h₃ h₄
      exact ⟨rfl, rfl, e, he, rfl⟩
    intro name attempted existingName existing' he
    generalize r.install d = p at hs he
    cases hs with
    | foreign | again | added => nomatch he
    | nameTaken hd e hf hk =>
      exact existing (hc.name_eq hf ▸ hf) (Except.error.inj he)
    | kindTaken hd hn n hk =>
      obtain ⟨e, hf, -⟩ := hc.kind_entry (mem_of_lookup hk)
      exact existing hf (Except.error.inj he)
    | idTaken hd hn hk n hi =>
      obtain ⟨e, hf, -⟩ := hc.id_entry (mem_of_lookup hi)
      exact existing hf (Except.error.inj he)

/-- A registry of two entries. The id of the first name is that of one more name, too. -/
def rivals : Registry Kind :=
  ((empty.register "8yn0iYCKYHlIj4-BwPqk" Builtin.pose).1.register "Name" Builtin.name).1

/-- Conflicts by id alone, by kind and id, and by name and kind: the one looked for first is met. -/
theorem rivals_refuse_in_order :
    rivals.Reachable ∧
      WireId.ofName "8yn0iYCKYHlIj4-BwPqk" = WireId.ofName "GReLUrM4wMqfg9yzV3KQ" ∧
      rivals.install (.ofKind "GReLUrM4wMqfg9yzV3KQ" Builtin.static) =
        (rivals, .error (.duplicate "GReLUrM4wMqfg9yzV3KQ" Builtin.static.typeName
          "8yn0iYCKYHlIj4-BwPqk" Builtin.pose.typeName)) ∧
      rivals.install (.ofKind "GReLUrM4wMqfg9yzV3KQ" Builtin.name) =
        (rivals, .error (.duplicate "GReLUrM4wMqfg9yzV3KQ" Builtin.name.typeName "Name"
          Builtin.name.typeName)) ∧
      rivals.install (.ofKind "Name" Builtin.pose) =
        (rivals, .error (.duplicate "Name" Builtin.pose.typeName "Name"
          Builtin.name.typeName)) := by
  have h : rivals.Reachable := (Reachable.empty.register _ _).register _ _
  have hid : WireId.ofName "8yn0iYCKYHlIj4-BwPqk" = WireId.ofName "GReLUrM4wMqfg9yzV3KQ" := by
    decide +kernel
  have hfirst : rivals.byName.find? "8yn0iYCKYHlIj4-BwPqk" =
      some (.ofKind "8yn0iYCKYHlIj4-BwPqk" Builtin.pose) := rfl
  have hname : rivals.byName.find? "Name" = some (.ofKind "Name" Builtin.name) := rfl
  have hfree : rivals.byName.find? "GReLUrM4wMqfg9yzV3KQ" = none := rfl
  have hkind : ∀ n e, rivals.byName.find? n = some e → e.kind ≠ Builtin.static := by
    intro n e he hk
    have hl := h.consistent.kind_lookup he
    rw [hk] at hl
    nomatch hl
  refine ⟨h, hid, ?_, ?_, ?_⟩
  · exact (installation_is_decided h _).idTaken rfl hfree hkind hfirst hid
  · exact (installation_is_decided h _).kindTaken rfl hfree hname rfl
  · have hk : (Descriptor.ofKind "Name" Builtin.name).kind ≠ Builtin.pose := by decide
    exact (installation_is_decided h (.ofKind "Name" Builtin.pose)).nameTaken rfl hname hk

end EntityWire.Registry
