import EntityWire.Proofs.Registry.Installation
import EntityWire.Proofs.WireId

namespace EntityWire

variable {K : Type} [Kinds K]

namespace Descriptor

variable (d : Descriptor K) (tail : String)

def tailed : Descriptor K := { d with name := d.name ++ tail }

@[simp]
theorem kind_tailed : (d.tailed tail).kind = d.kind := rfl

@[simp]
theorem construct_tailed : (d.tailed tail).construct = d.construct := rfl

end Descriptor

namespace Registry

variable {r r' : Registry K} {d : Descriptor K} {name tail : String}

def installAll (ds : List (Descriptor K)) (r : Registry K) : Registry K :=
  ds.foldl (fun r d ↦ (r.install d).1) r

/-- An installation that is refused because of `name` though neither the name nor the kind of the
descriptor is taken: only its id is left. -/
structure Collides (r : Registry K) (d : Descriptor K) (name : String) : Prop where
  own : d.construct.kind = d.kind
  newName : r.byName.find? d.name = none
  newKind : r.byKind.lookup d.kind = none
  refused : (r.install d).2 = .error (r.duplicate d name)

theorem reachable_installAll (h : r.Reachable) (ds : List (Descriptor K)) :
    (installAll ds r).Reachable := by
  induction ds generalizing r with
  | nil => exact h
  | cons d ds ih => exact ih (h.install d)

theorem install_fst (r : Registry K) (d : Descriptor K) :
    (r.install d).1 = if d.construct.kind = d.kind ∧ (r.byName.find? d.name).isNone ∧
      (r.byKind.lookup d.kind).isNone ∧ (r.byId.lookup d.id).isNone then r.add d else r := by
  have hs := installs r d
  generalize r.install d = p at hs
  cases hs with
  | foreign hd => simp [hd]
  | again hd e he | nameTaken hd e he => simp [he]
  | kindTaken hd hn n hk => simp [hk]
  | idTaken hd hn hk n hi => simp [hi]
  | added hd hn hk hi => simp [hd, hn, hk, hi]

theorem collides_iff : Collides r d name ↔ d.construct.kind = d.kind ∧
    r.byName.find? d.name = none ∧ r.byKind.lookup d.kind = none ∧
      r.byId.lookup d.id = some name := by
  constructor
  · rintro ⟨own, newName, newKind, refused⟩
    refine ⟨own, newName, newKind, ?_⟩
    have hs := installs r d
    generalize r.install d = p at hs refused
    cases hs with
    | foreign hd => exact absurd own hd
    | again hd e he | nameTaken hd e he => exact absurd (newName.symm.trans he) (by simp)
    | kindTaken hd hn n hk => exact absurd (newKind.symm.trans hk) (by simp)
    | idTaken hd hn hk n hi =>
      rw [duplicate, duplicate] at refused
      injection refused with he
      injection he with _ _ hname
      rw [hi, hname]
    | added => cases refused
  · rintro ⟨own, newName, newKind, hi⟩
    exact ⟨own, newName, newKind, by simp [install, own, newName, newKind, hi]⟩

theorem Collides.ofName_eq (hr : r.Consistent) (h : Collides r d name) :
    WireId.ofName name = .ofName d.name := by
  obtain ⟨-, -, -, hi⟩ := collides_iff.1 h
  obtain ⟨e, he, hid⟩ := hr.id_entry (mem_of_lookup hi)
  exact (hr.id_eq he).symm.trans hid

/-- A registry whose look-ups are those of another one, with a tail behind every name. -/
structure Tailed (tail : String) (r r' : Registry K) : Prop where
  byName (n : String) : r'.byName.find? (n ++ tail) = (r.byName.find? n).map (·.tailed tail)
  byKind (k : K) : r'.byKind.lookup k = (r.byKind.lookup k).map (· ++ tail)
  byId (n : String) :
    r'.byId.lookup (.ofName (n ++ tail)) = (r.byId.lookup (.ofName n)).map (· ++ tail)

theorem tailed_empty (tail : String) : Tailed tail (empty : Registry K) empty := by
  constructor <;> intro <;> rfl

namespace Tailed

theorem add (h : Tailed tail r r') (d : Descriptor K) :
    Tailed tail (r.add d) (r'.add (d.tailed tail)) := by
  constructor
  case byName =>
    intro n
    simp only [find?_add, Descriptor.tailed, String.append_left_inj, h.byName]
    split <;> rfl
  case byKind =>
    intro k
    simp only [Registry.add, lookup_cons_ite, Descriptor.tailed, h.byKind]
    split <;> rfl
  case byId =>
    intro n
    simp only [Registry.add, lookup_cons_ite, Descriptor.id, Descriptor.tailed,
      WireId.ofName_append_inj, h.byId]
    split <;> rfl

theorem find?_tailed (h : Tailed tail r r') (d : Descriptor K) :
    r'.byName.find? (d.tailed tail).name = (r.byName.find? d.name).map (·.tailed tail) :=
  h.byName d.name

theorem lookup_id_tailed (h : Tailed tail r r') (d : Descriptor K) :
    r'.byId.lookup (d.tailed tail).id = (r.byId.lookup d.id).map (· ++ tail) :=
  h.byId d.name

theorem install (h : Tailed tail r r') (d : Descriptor K) :
    Tailed tail (r.install d).1 (r'.install (d.tailed tail)).1 := by
  rw [install_fst, install_fst, Descriptor.kind_tailed, Descriptor.construct_tailed, h.find?_tailed,
    h.byKind, h.lookup_id_tailed, Option.isNone_map, Option.isNone_map, Option.isNone_map]
  -- the same test decides on both sides
  split
  · exact h.add d
  · exact h

theorem installAll (h : Tailed tail r r') (ds : List (Descriptor K)) :
    Tailed tail (installAll ds r) (installAll (ds.map (·.tailed tail)) r') := by
  induction ds generalizing r r' with
  | nil => exact h
  | cons d ds ih => exact ih (h.install d)

theorem collides_iff (h : Tailed tail r r') {name' : String} :
    Collides r' (d.tailed tail) name' ↔ ∃ name, Collides r d name ∧ name' = name ++ tail := by
  rw [Registry.collides_iff, Descriptor.kind_tailed, Descriptor.construct_tailed, h.find?_tailed,
    h.byKind, h.lookup_id_tailed, Option.map_eq_none_iff, Option.map_eq_none_iff,
    Option.map_eq_some_iff]
  simp only [Registry.collides_iff]
  constructor
  · rintro ⟨own, newName, newKind, name, hl, rfl⟩
    exact ⟨name, ⟨own, newName, newKind, hl⟩, rfl⟩
  · rintro ⟨name, ⟨own, newName, newKind, hl⟩, rfl⟩
    exact ⟨own, newName, newKind, name, hl, rfl⟩

end Tailed

/-- Names whose octets differ at one place have different ids, and what stands behind two names
neither makes nor parts a collision. So no installation is refused for the id of a name one octet
apart, and with a tail behind all names the same ones are refused for an id, by the same entries. -/
theorem collisions_need_two_octets_and_keep_under_tails :
    (∀ s t tail : Octets,
      WireId.hash (s ++ tail) = WireId.hash (t ++ tail) ↔ WireId.hash s = WireId.hash t) ∧
    (∀ s t : Octets, OneApart s t → WireId.hash s ≠ WireId.hash t) ∧
    (∀ m n tail : String,
      WireId.ofName (m ++ tail) = .ofName (n ++ tail) ↔ WireId.ofName m = .ofName n) ∧
    (∀ m n : String, OneApart (Utf8.encode m) (Utf8.encode n) → WireId.ofName m ≠ .ofName n) ∧
    (∀ (r : Registry K) (d : Descriptor K) (name : String), r.Reachable → Collides r d name →
      WireId.ofName name = .ofName d.name ∧
        ¬OneApart (Utf8.encode name) (Utf8.encode d.name)) ∧
    ∀ (tail : String) (ds : List (Descriptor K)) (d : Descriptor K) (name' : String),
      Collides (installAll (ds.map (·.tailed tail)) empty) (d.tailed tail) name' ↔
        ∃ name, Collides (installAll ds empty) d name ∧ name' = name ++ tail := by
  refine ⟨WireId.hash_append_inj, fun _ _ ↦ WireId.hash_ne, WireId.ofName_append_inj,
    fun _ _ ↦ WireId.ofName_ne, ?_, ?_⟩
  · intro r d name hr h
    have hid := h.ofName_eq hr.consistent
    exact ⟨hid, fun ho ↦ WireId.ofName_ne ho hid⟩
  · intro tail ds d name'
    exact ((tailed_empty tail).installAll ds).collides_iff

/-- Letters of two octets that differ in the second one, and two names of one id with a tail. -/
theorem rivals_collide_with_a_tail :
    OneApart (Utf8.encode "café") (Utf8.encode "cafè") ∧
      WireId.ofName "café" ≠ .ofName "cafè" ∧
      (installAll [.ofKind "8yn0iYCKYHlIj4-BwPqk" Builtin.pose] empty).Reachable ∧
      Collides (installAll [.ofKind "8yn0iYCKYHlIj4-BwPqk" Builtin.pose] empty)
        (.ofKind "GReLUrM4wMqfg9yzV3KQ" Builtin.static) "8yn0iYCKYHlIj4-BwPqk" ∧
      ¬OneApart (Utf8.encode "8yn0iYCKYHlIj4-BwPqk") (Utf8.encode "GReLUrM4wMqfg9yzV3KQ") ∧
      Collides (installAll [.ofKind "8yn0iYCKYHlIj4-BwPqk/é" Builtin.pose] empty)
        (.ofKind "GReLUrM4wMqfg9yzV3KQ/é" Builtin.static) "8yn0iYCKYHlIj4-BwPqk/é" := by
  obtain ⟨-, -, -, apart, single, tails⟩ :=
    collisions_need_two_octets_and_keep_under_tails (K := Kind)
  have ho : OneApart (Utf8.encode "café") (Utf8.encode "cafè") := by decide +kernel
  have hr : (installAll [.ofKind "8yn0iYCKYHlIj4-BwPqk" Builtin.pose] empty).Reachable :=
    reachable_installAll .empty _
  have hc : Collides (installAll [.ofKind "8yn0iYCKYHlIj4-BwPqk" Builtin.pose] empty)
      (.ofKind "GReLUrM4wMqfg9yzV3KQ" Builtin.static) "8yn0iYCKYHlIj4-BwPqk" :=
    collides_iff.2 ⟨rfl, rfl, rfl, by decide +kernel⟩
  refine ⟨ho, apart _ _ ho, hr, hc, (single _ _ _ hr hc).2, ?_⟩
  exact (tails "/é" [.ofKind "8yn0iYCKYHlIj4-BwPqk" Builtin.pose]
    (.ofKind "GReLUrM4wMqfg9yzV3KQ" Builtin.static) _).2 ⟨_, hc, rfl⟩

end Registry

end EntityWire
