import EntityWire.Proofs.Registry.Installation
import EntityWire.Proofs.Registry.Transfer

namespace EntityWire.Registry

variable {K : Type} {l l' : List (String × K)}

/-- Each name goes with one kind, each kind with one name, and no two names share an id. -/
def Compatible (l : List (String × K)) : Prop :=
  ∀ a ∈ l, ∀ b ∈ l, (a.1 = b.1 ↔ a.2 = b.2) ∧ (WireId.ofName a.1 = WireId.ofName b.1 → a.1 = b.1)

instance [DecidableEq K] : DecidablePred (Compatible : List (String × K) → Prop) := fun l ↦
  inferInstanceAs (Decidable (∀ a ∈ l, ∀ b ∈ l, _ ∧ _))

theorem Compatible.of_mem_iff (h : Compatible l) (hm : ∀ a, a ∈ l' ↔ a ∈ l) : Compatible l' :=
  fun a ha b hb ↦ h a ((hm a).1 ha) b ((hm b).1 hb)

variable [Kinds K] {r r' : Registry K} {n m : String} {k : K} {e f : Descriptor K}

def answers : List (String × K) → Registry K → List (Except RegistryError WireId)
  | [], _ => []
  | a :: rest, r => (r.register a.1 a.2).2 :: answers rest (r.register a.1 a.2).1

def registerAll (l : List (String × K)) (r : Registry K) : Registry K :=
  l.foldl (fun r a ↦ (r.register a.1 a.2).1) r

/-- Registries that answer every question alike. -/
structure Alike (r r' : Registry K) : Prop where
  descriptor : r.descriptor = r'.descriptor
  descriptorById : r.descriptorById = r'.descriptorById
  nameOfKind : r.nameOfKind = r'.nameOfKind
  nameOfHandle : r.nameOfHandle = r'.nameOfHandle
  nameOfId : r.nameOfId = r'.nameOfId
  idOfKind : r.idOfKind = r'.idOfKind
  hasName : r.hasName = r'.hasName
  hasId : r.hasId = r'.hasId
  names : r.names = r'.names
  descriptors : r.descriptors = r'.descriptors
  size : r.size = r'.size
  construct : r.construct = r'.construct
  constructById : r.constructById = r'.constructById
  serialize : r.serialize = r'.serialize
  deserialize : r.deserialize = r'.deserialize
  deserializeInto : r.deserializeInto = r'.deserializeInto

namespace Consistent

theorem name_eq_iff (h : r.Consistent) (he : r.byName.find? m = some e)
    (hf : r.byName.find? n = some f) : m = n ↔ e.kind = f.kind := by
  constructor
  · rintro rfl
    rw [Option.some.inj (he.symm.trans hf)]
  · intro hk
    have hl := h.kind_lookup he
    rw [hk, h.kind_lookup hf] at hl
    exact (Option.some.inj hl).symm

theorem name_eq_of_id (h : r.Consistent) (he : r.byName.find? m = some e)
    (hf : r.byName.find? n = some f) (hi : WireId.ofName m = WireId.ofName n) : m = n := by
  have hl := h.id_lookup he
  rw [h.id_eq he, hi, ← h.id_eq hf, h.id_lookup hf] at hl
  exact (Option.some.inj hl).symm

theorem lookup_kind_iff (h : r.Consistent) :
    r.byKind.lookup k = some n ↔ ∃ e, r.byName.find? n = some e ∧ e.kind = k := by
  constructor
  · intro hl
    exact h.kind_entry (mem_of_lookup hl)
  · rintro ⟨e, he, rfl⟩
    exact h.kind_lookup he

theorem lookup_id_iff (h : r.Consistent) {i : WireId} :
    r.byId.lookup i = some n ↔ ∃ e, r.byName.find? n = some e ∧ e.id = i := by
  constructor
  · intro hl
    exact h.id_entry (mem_of_lookup hl)
  · rintro ⟨e, he, rfl⟩
    exact h.id_lookup he

theorem alike (h : r.Consistent) (h' : r'.Consistent) (hn : r.byName = r'.byName) :
    Alike r r' := by
  -- The map of names fixes the other two, which are lists and may stand in another order.
  have hk : ∀ k, r.byKind.lookup k = r'.byKind.lookup k := by
    intro k
    ext n
    rw [h.lookup_kind_iff, h'.lookup_kind_iff, hn]
  have hi : ∀ i, r.byId.lookup i = r'.byId.lookup i := by
    intro i
    ext n
    rw [h.lookup_id_iff, h'.lookup_id_iff, hn]
  have hd : r.descriptor = r'.descriptor := by
    funext n
    simp only [Registry.descriptor, hn]
  have hdi : r.descriptorById = r'.descriptorById := by
    funext i
    simp only [Registry.descriptorById, descriptorById?, hn, hi]
  have hdk : ∀ k, r.descriptorByKind? k = r'.descriptorByKind? k := by
    intro k
    simp only [Registry.descriptorByKind?, hn, hk]
  have hnk : r.nameOfKind = r'.nameOfKind := by
    funext k
    simp only [Registry.nameOfKind, hk]
  constructor
  case descriptor => exact hd
  case descriptorById => exact hdi
  case nameOfKind => exact hnk
  case nameOfHandle => funext g; simp only [Registry.nameOfHandle, hnk]
  case nameOfId => funext i; simp only [Registry.nameOfId, hi]
  case idOfKind => funext k; simp only [Registry.idOfKind, hdk]
  case hasName => funext n; simp only [hasName, hn]
  case hasId => funext i; simp only [hasId, hi]
  case names => simp only [Registry.names, hn]
  case descriptors => simp only [descriptors, hn]
  case size => simp only [size, hn]
  case construct => funext n; simp only [construct, hd]
  case constructById => funext i; simp only [constructById, hdi]
  case serialize => funext g; simp only [Registry.serialize, hdk]
  case deserialize => funext n s; simp only [Registry.deserialize, hd]
  case deserializeInto => funext n g s; simp only [Registry.deserializeInto, hd]

theorem register_ok (h : r.Consistent)
    (hc : ∀ m e, r.byName.find? m = some e →
      (m = n ↔ e.kind = k) ∧ (WireId.ofName m = WireId.ofName n → m = n)) :
    ∃ i, (r.register n k).2 = .ok i := by
  have hd : (Descriptor.ofKind n k).construct.kind = (Descriptor.ofKind n k).kind := rfl
  cases hn : r.byName.find? n with
  | some e =>
    have hk : e.kind = k := (hc n e hn).1.1 rfl
    exact ⟨e.id, congrArg Prod.snd (install_again hd hn hk)⟩
  | none =>
    have free : ∀ m f, r.byName.find? m = some f → m ≠ n := by
      rintro m f hf rfl
      simp [hn] at hf
    have hk : ∀ m f, r.byName.find? m = some f → f.kind ≠ k :=
      fun m f hf he ↦ free m f hf ((hc m f hf).1.2 he)
    have hi : ∀ m f, r.byName.find? m = some f → WireId.ofName m ≠ WireId.ofName n :=
      fun m f hf he ↦ free m f hf ((hc m f hf).2 he)
    exact ⟨_, congrArg Prod.snd (install_added hd hn hk h hi)⟩

theorem registerAll (h : r.Consistent) (l : List (String × K)) :
    (registerAll l r).Consistent := by
  induction l generalizing r with
  | nil => exact h
  | cons a rest ih => exact ih (h.install (.ofKind a.1 a.2))

end Consistent

theorem find?_registerAll (l : List (String × K)) (he : r.byName.find? n = some e) :
    (registerAll l r).byName.find? n = some e := by
  induction l generalizing r with
  | nil => exact he
  | cons a rest ih => exact ih (find?_install (.ofKind a.1 a.2) he)

theorem of_find?_registerAll (he : (registerAll l r).byName.find? n = some e) :
    (n, e.kind) ∈ l ∨ r.byName.find? n = some e := by
  induction l generalizing r with
  | nil => exact .inr he
  | cons a rest ih =>
    obtain hm | he := ih he
    · exact .inl (List.mem_cons_of_mem a hm)
    · obtain ⟨rfl, rfl⟩ | he := of_find?_install he
      · exact .inl List.mem_cons_self
      · exact .inr he

theorem find?_of_answers (h : ∀ o ∈ answers l r, ∃ i, o = .ok i) {a : String × K}
    (ha : a ∈ l) : ∃ e, (registerAll l r).byName.find? a.1 = some e ∧ e.kind = a.2 := by
  induction l generalizing r with
  | nil => nomatch ha
  | cons b rest ih =>
    obtain ⟨hb, hrest⟩ := List.forall_mem_cons.1 h
    obtain rfl | ha := List.mem_cons.1 ha
    · obtain ⟨i, hi⟩ := hb
      obtain ⟨e, he, hk⟩ := find?_of_install_ok hi
      exact ⟨e, find?_registerAll rest he, hk⟩
    · exact ih hrest ha

theorem compatible_of_answers (hr : r.Consistent) (h : ∀ o ∈ answers l r, ∃ i, o = .ok i) :
    Compatible l := by
  -- all that was declared is found together, in one registry whose tables agree
  have hc := hr.registerAll l
  intro a ha b hb
  obtain ⟨e, he, hek⟩ := find?_of_answers h ha
  obtain ⟨f, hf, hfk⟩ := find?_of_answers h hb
  refine ⟨?_, hc.name_eq_of_id he hf⟩
  rw [hc.name_eq_iff he hf, hek, hfk]

theorem answers_of_compatible (hr : r.Consistent) (hc : Compatible l')
    (hf : ∀ m e, r.byName.find? m = some e → (m, e.kind) ∈ l') (hl : ∀ a ∈ l, a ∈ l') :
    ∀ o ∈ answers l r, ∃ i, o = .ok i := by
  -- the invariant: what is registered so far was declared by the compatible list
  induction l generalizing r with
  | nil => exact fun o ho ↦ nomatch ho
  | cons a rest ih =>
    obtain ⟨ha, hrest⟩ := List.forall_mem_cons.1 hl
    have hok : ∃ i, (r.register a.1 a.2).2 = .ok i :=
      hr.register_ok fun m e he ↦ hc _ (hf m e he) a ha
    refine List.forall_mem_cons.2 ⟨hok, ih (hr.install _) (fun m e he ↦ ?_) hrest⟩
    obtain ⟨rfl, rfl⟩ | he := of_find?_install he
    · exact ha
    · exact hf m e he

theorem answers_ok_iff (l : List (String × K)) :
    (∀ o ∈ answers l empty, ∃ i, o = .ok i) ↔ Compatible l := by
  constructor
  · exact compatible_of_answers consistent_empty
  · intro hc
    exact answers_of_compatible consistent_empty hc (fun _ _ he ↦ nomatch he) fun _ ha ↦ ha

theorem declare_eq_ok_iff : declare l r = .ok r' ↔
    (∀ o ∈ answers l r, ∃ i, o = .ok i) ∧ registerAll l r = r' := by
  induction l generalizing r with
  | nil => simp [declare, answers, registerAll]
  | cons a rest ih =>
    rw [declare, answers, List.forall_mem_cons]
    change _ ↔ _ ∧ registerAll rest (r.register a.1 a.2).1 = r'
    cases hr : r.register a.1 a.2 with
    | mk s o =>
      cases o with
      | error x => simp
      | ok i => simpa using ih

theorem declare_ok_iff (l : List (String × K)) :
    (∃ r, declare l empty = .ok r) ↔ Compatible l := by
  simp only [declare_eq_ok_iff, exists_and_left, exists_eq', and_true, answers_ok_iff]

theorem find?_ofList_iff (h : Compatible l) :
    (ofList l).byName.find? n = some e ↔ ∃ k, (n, k) ∈ l ∧ e = .ofKind n k := by
  have hr := registered_ofList l
  constructor
  · intro he
    obtain hm | he' := of_find?_registerAll he
    · exact ⟨e.kind, hm, hr.eq_ofKind he⟩
    · nomatch he'
  · rintro ⟨k, hm, rfl⟩
    obtain ⟨e, he, hk⟩ := find?_of_answers ((answers_ok_iff l).2 h) hm
    have hk : e.kind = k := hk
    have ho := hr.eq_ofKind he
    rw [hk] at ho
    exact ho ▸ he

theorem alike_ofList (h : Compatible l) (hm : ∀ a, a ∈ l' ↔ a ∈ l) :
    Alike (ofList l) (ofList l') := by
  refine (registered_ofList l).consistent.alike (registered_ofList l').consistent ?_
  refine OrderedMap.eq_of_find? fun n ↦ ?_
  ext e
  rw [find?_ofList_iff h, find?_ofList_iff (h.of_mem_iff hm)]
  simp only [hm]

/-- Whether a program with declared kinds starts, and how its registry answers then, depends on
which declarations there are: the first conflict in any order is a conflict in all. -/
theorem declarations_act_as_a_set (l : List (String × K)) :
    ((∀ o ∈ answers l empty, ∃ i, o = .ok i) ↔ Compatible l) ∧
    ((∃ r, declare l empty = .ok r) ↔ Compatible l) ∧
    (Compatible l → declare l empty = .ok (ofList l)) ∧
    ∀ l', (∀ a, a ∈ l' ↔ a ∈ l) →
      ((∃ r, declare l' empty = .ok r) ↔ ∃ r, declare l empty = .ok r) ∧
      ∀ r r', declare l empty = .ok r → declare l' empty = .ok r' → Alike r r' := by
  refine ⟨answers_ok_iff l, declare_ok_iff l, ?_, ?_⟩
  · intro hc
    exact declare_eq_ok_iff.2 ⟨(answers_ok_iff l).2 hc, rfl⟩
  · intro l' hm
    constructor
    · rw [declare_ok_iff, declare_ok_iff]
      exact ⟨fun h ↦ h.of_mem_iff fun a ↦ (hm a).symm, fun h ↦ h.of_mem_iff hm⟩
    · intro r r' h h'
      obtain ⟨ha, rfl⟩ := declare_eq_ok_iff.1 h
      obtain ⟨-, rfl⟩ := declare_eq_ok_iff.1 h'
      exact alike_ofList ((answers_ok_iff l).1 ha) hm

/-- The kinds that every program has, declared from the last to the first and then once more. -/
theorem builtin_kinds_in_another_order :
    ∃ r r', declare Builtin.all empty = .ok r ∧
      declare (Builtin.all.reverse ++ Builtin.all) empty = .ok r' ∧ Alike r r' := by
  obtain ⟨-, hs, -, ho⟩ := declarations_act_as_a_set Builtin.all
  obtain ⟨hs', ha⟩ := ho (Builtin.all.reverse ++ Builtin.all) (by simp)
  obtain ⟨r, hr⟩ := hs.2 (by decide +kernel)
  obtain ⟨r', hr'⟩ := hs'.2 ⟨r, hr⟩
  exact ⟨r, r', hr, hr', ha r r' hr hr'⟩

end EntityWire.Registry
