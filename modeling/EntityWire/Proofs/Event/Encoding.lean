import EntityWire.Event.Basic
import EntityWire.Proofs.Message.Passage

namespace EntityWire.Event

open Wire Message

variable {levels : Nat}

def Writable (s : String) : Prop := (Utf8.encode s).length < 0x100000000

instance (s : String) : Decidable (Writable s) := inferInstanceAs (Decidable (_ < _))

def EntitiesSelected.Fits (e : EntitiesSelected) : Prop := e.entities.length < 0x100000000

def EntitiesChanged.Fits (e : EntitiesChanged) : Prop :=
  e.added.elements.length < 0x100000000 ∧ e.removed.elements.length < 0x100000000

structure EntityRequested.Fits (e : EntityRequested) : Prop where
  entity : Writable e.entity
  entityType : Writable e.entityType
  size : e.data.size < 0x100000000
  data : ∀ m ∈ e.data.entries, Writable m.1 ∧ Writable m.2

def PluginAttached.Fits (e : PluginAttached) : Prop := Writable e.element

def Fits : Event → Prop
  | .entitiesSelected e => e.Fits
  | .editorEntitiesChanged e | .entitiesChanged e => e.Fits
  | .entityRequested e => e.Fits
  | .pluginAttached e => e.Fits
  | .allDeselected _ | .transformToggled _ => True

theorem Kind.writable_name (k : Kind) : Writable k.name := by
  cases k <;> decide

theorem Kind.find?_name (k : Kind) : all.find? (·.name = k.name) = some k := by
  cases k <;> decide

theorem Kind.name_injective {k k' : Kind} (h : k.name = k'.name) : k = k' := by
  have hk := k.find?_name
  rw [h, k'.find?_name] at hk
  exact (Option.some.inj hk).symm

section Returning

open Form

theorem returns_entitiesSelected {e : EntitiesSelected} (h : e.Fits) :
    (Codec.form (α := EntitiesSelected)).Returns (levels + 2) e := by
  refine returns_via (Form.returns_record (by decide) ?_) rfl
  exact ⟨Field.returns_required (returns_list h fun e _ ↦ returns_entity e),
    Field.returns_required (returns_bool e.fromUser), trivial⟩

theorem returns_allDeselected (e : AllDeselected) :
    (Codec.form (α := AllDeselected)).Returns (levels + 1) e := by
  refine returns_via (Form.returns_record (by decide) ?_) rfl
  exact ⟨Field.returns_required (returns_bool e.fromUser), trivial⟩

theorem returns_entitiesChanged {e : EntitiesChanged} (h : e.Fits) :
    (Codec.form (α := EntitiesChanged)).Returns (levels + 2) e := by
  refine returns_via (Form.returns_record (by decide) ?_) rfl
  exact ⟨Field.returns_required (returns_set h.1 fun e _ ↦ returns_entity e),
    Field.returns_required (returns_set h.2 fun e _ ↦ returns_entity e), trivial⟩

theorem returns_transformToggled (e : TransformToggled) :
    (Codec.form (α := TransformToggled)).Returns (levels + 1) e := by
  refine returns_via (Form.returns_record (by decide) ?_) rfl
  exact ⟨Field.returns_required (returns_bool e.active), trivial⟩

theorem returns_entityRequested {e : EntityRequested} (h : e.Fits) :
    (Codec.form (α := EntityRequested)).Returns (levels + 2) e := by
  refine returns_via (Form.returns_record (by decide) ?_) rfl
  have data : dictionary.Returns (levels + 1) e.data :=
    returns_dictionary h.size fun m hm ↦ ⟨returns_text (h.data m hm).1, returns_text (h.data m hm).2⟩
  exact ⟨Field.returns_required (returns_text h.entity),
    Field.returns_required (returns_text h.entityType),
    Field.returns_required (returns_entity e.parent), Field.returns_required data, trivial⟩

theorem returns_pluginAttached {e : PluginAttached} (h : e.Fits) :
    (Codec.form (α := PluginAttached)).Returns (levels + 1) e := by
  refine returns_via (Form.returns_record (by decide) ?_) rfl
  exact ⟨Field.returns_required (returns_entity e.entity), Field.returns_required (returns_text h),
    trivial⟩

theorem returns_event {e : Event} (h : e.Fits) :
    (Codec.form (α := Event)).Returns (levels + 2) e := by
  have name := e.kind.writable_name
  cases e with
  | entitiesSelected e => exact (returns_entitiesSelected h).spells.choice name rfl
  | allDeselected e => exact (returns_allDeselected e).spells.choice name rfl
  | editorEntitiesChanged e => exact (returns_entitiesChanged h).spells.choice name rfl
  | entitiesChanged e => exact (returns_entitiesChanged h).spells.choice name rfl
  | transformToggled e => exact (returns_transformToggled e).spells.choice name rfl
  | entityRequested e => exact (returns_entityRequested h).spells.choice name rfl
  | pluginAttached e => exact (returns_pluginAttached h).spells.choice name rfl

end Returning

/-- Octets that are read as a sequence of entities, whichever way its length and they are spelled. -/
def Lists (s : Octets) (entities : List Entity) : Prop :=
  ∃ lead parts, s = lead ++ parts.flatten ∧ Begins lead (.sequence entities.length) ∧
    List.Forall₂ ((Codec.form (α := Entity)).Spells 0) parts entities

def writeEntities (entities : List Entity) : Octets :=
  writeSequence (entities.map fun e ↦ writeUnsigned e.id.toNat)

theorem lists_writeEntities {entities : List Entity} (h : entities.length < 0x100000000) :
    Lists (writeEntities entities) entities := by
  refine ⟨_, entities.map fun e ↦ writeUnsigned e.id.toNat, rfl, ?_, ?_⟩
  · rw [List.length_map]
    exact begins_sequenceHead h
  · rw [List.forall₂_map_left_iff, List.forall₂_same]
    exact fun e _ ↦ returns_entity e

theorem Lists.spells {s : Octets} {entities : List Entity} (h : Lists s entities) :
    (Codec.form (α := OrderedSet Entity)).Spells (levels + 1) s (.ofList entities) := by
  obtain ⟨lead, parts, rfl, hl, hp⟩ := h
  -- An entity is a scalar: it is read alike at every level.
  have hp' : List.Forall₂ ((Codec.form (α := Entity)).Spells levels) parts entities := hp
  exact Form.spells_set hl hp'

/-- Octets that report some entities as added and others as removed, in either order. -/
def Reports (s : Octets) (added removed : List Entity) : Prop :=
  ∃ a r, Lists a added ∧ Lists r removed ∧
    (s = writeMapping [(writeText "new_entities", a), (writeText "removed_entities", r)] ∨
      s = writeMapping [(writeText "removed_entities", r), (writeText "new_entities", a)])

theorem Reports.spells {s : Octets} {added removed : List Entity} (h : Reports s added removed) :
    (Codec.form (α := EntitiesChanged)).Spells (levels + 2) s
      ⟨.ofList added, .ofList removed⟩ := by
  obtain ⟨a, r, ha, hr, hs⟩ := h
  have hn : ∀ name ∈ EntitiesChanged.fields.names, (Utf8.encode name).length < 0x100000000 := by
    decide
  have two : 2 < 0x100000000 := by decide
  have new : ∀ slot, EntitiesChanged.fields.Moves (levels + 1) "new_entities" a (none, slot)
      (some (OrderedSet.ofList added), slot) := fun _ ↦ Fields.moves_here ha.spells
  have removed' : ∀ slot, EntitiesChanged.fields.Moves (levels + 1) "removed_entities" r
      (slot, none, ()) (slot, some (OrderedSet.ofList removed), ()) :=
    fun _ ↦ (Fields.moves_here hr.spells).there (by decide) _
  refine Form.Spells.via (b := (OrderedSet.ofList added, OrderedSet.ofList removed, ())) ?_ _ _
  obtain rfl | rfl := hs
  · refine Form.spells_record two hn (.step ?_ (new _) (.step ?_ (removed' _) (.done _))) rfl
    all_goals decide
  · refine Form.spells_record two hn (.step ?_ (removed' _) (.step ?_ (new _) (.done _))) rfl
    all_goals decide

theorem spells_report {s : Octets} {c : EntitiesChanged} {report : EntitiesChanged → Event}
    (h : (Codec.form (α := EntitiesChanged)).Spells levels s c)
    (hr : report = .editorEntitiesChanged ∨ report = .entitiesChanged) :
    (Codec.form (α := Event)).Spells levels (writeMapping [(writeText (report c).kind.name, s)])
      (report c) := by
  have name := (report c).kind.writable_name
  obtain rfl | rfl := hr
  · exact h.choice name rfl
  · exact h.choice name rfl

/-- What the ends of a wire can rely on for events. -/
structure Canonical : Prop where
  entitiesSelected : Passes EntitiesSelected EntitiesSelected.Fits
  allDeselected : Passes AllDeselected fun _ ↦ True
  entitiesChanged : Passes EntitiesChanged EntitiesChanged.Fits
  transformToggled : Passes TransformToggled fun _ ↦ True
  entityRequested : Passes EntityRequested EntityRequested.Fits
  pluginAttached : Passes PluginAttached PluginAttached.Fits
  event : Passes Event Event.Fits
  /-- The kind can be told from the octets, also where the rest is too long to come back. -/
  kind {e e' : Event} (h : encode e = encode e') : e.kind = e'.kind
  encode_iff {e e' : Event} (h : e.Fits) (h' : e'.Fits) : encode e = encode e' ↔ e = e'
  members {a r a' r' : List Entity} (h : EntitiesChanged.Fits ⟨.ofList a, .ofList r⟩)
    (h' : EntitiesChanged.Fits ⟨.ofList a', .ofList r'⟩) :
    encode (EntitiesChanged.mk (.ofList a) (.ofList r)) =
        encode (EntitiesChanged.mk (.ofList a') (.ofList r')) ↔
      (∀ e, e ∈ a ↔ e ∈ a') ∧ ∀ e, e ∈ r ↔ e ∈ r'
  /-- Of insertions under one key the last counts, whichever other keys come between. -/
  data {entity entityType : String} {parent : Entity} {d d' : List (String × String)}
    (h : EntityRequested.Fits ⟨entity, entityType, parent, .ofList d⟩)
    (h' : EntityRequested.Fits ⟨entity, entityType, parent, .ofList d'⟩) :
    encode (EntityRequested.mk entity entityType parent (.ofList d)) =
        encode (EntityRequested.mk entity entityType parent (.ofList d')) ↔
      ∀ key, d.reverse.lookup key = d'.reverse.lookup key
  listed {entities : List Entity} (h : entities.length < 0x100000000) :
    Lists (writeEntities entities) entities
  reported {s : Octets} {added removed : List Entity} (h : Reports s added removed)
    (rest : Octets) : decode EntitiesChanged (s ++ rest) = .ok ⟨.ofList added, .ofList removed⟩
  reported_by {s : Octets} {added removed : List Entity} (h : Reports s added removed)
    (rest : Octets) {report : EntitiesChanged → Event}
    (hr : report = .editorEntitiesChanged ∨ report = .entitiesChanged) :
    let e := report ⟨.ofList added, .ofList removed⟩
    decode Event (writeMapping [(writeText e.kind.name, s)] ++ rest) = .ok e
  /-- What was read in any order is written strictly ascending, each entity once. -/
  rewritten (added removed : List Entity) : ∃ a r : List Entity,
    encode (EntitiesChanged.mk (.ofList added) (.ofList removed)) =
      writeMapping [(writeText "new_entities", writeEntities a),
        (writeText "removed_entities", writeEntities r)] ∧
    a.Pairwise (·.id < ·.id) ∧ r.Pairwise (·.id < ·.id) ∧
    (∀ e, e ∈ a ↔ e ∈ added) ∧ ∀ e, e ∈ r ↔ e ∈ removed
  tagged (e : Event) : encode e = writeMapping [(writeText e.kind.name, e.writeContent)]

theorem kind_of_encode {e e' : Event} (h : encode e = encode e') : e.kind = e'.kind := by
  have hw : ∀ e : Event, encode e = mappingHead 1 ++ (writeText e.kind.name ++ e.writeContent) := by
    intro e
    exact congrArg (mappingHead 1 ++ ·) (List.append_nil _)
  rw [hw, hw] at h
  have ht : ∀ e : Event, Form.text.Returns 0 e.kind.name :=
    fun e ↦ Form.returns_text e.kind.writable_name
  have hr := ht e e.writeContent
  have hs : Form.text.write e.kind.name ++ e.writeContent =
      Form.text.write e'.kind.name ++ e'.writeContent := List.append_cancel_left h
  rw [hs, ht e'] at hr
  exact Kind.name_injective (ok_pair_inj hr).1.symm

theorem ascending_entities (s : OrderedSet Entity) : s.elements.Pairwise (·.id < ·.id) :=
  s.ascending.imp fun {a b} h ↦ (Std.compare_eq_lt.1 h : a.id < b.id)

theorem events_have_one_encoding : Canonical where
  entitiesSelected := passes_of_returns fun _ h ↦ returns_entitiesSelected h
  allDeselected := passes_of_returns fun e _ ↦ returns_allDeselected e
  entitiesChanged := passes_of_returns fun _ h ↦ returns_entitiesChanged h
  transformToggled := passes_of_returns fun e _ ↦ returns_transformToggled e
  entityRequested := passes_of_returns fun _ h ↦ returns_entityRequested h
  pluginAttached := passes_of_returns fun _ h ↦ returns_pluginAttached h
  event := passes_of_returns fun _ h ↦ returns_event h
  kind := kind_of_encode
  encode_iff := Passes.encode_iff (passes_of_returns fun _ h ↦ returns_event h)
  members h h' := by
    have hp : Passes EntitiesChanged EntitiesChanged.Fits :=
      passes_of_returns fun _ h ↦ returns_entitiesChanged h
    rw [hp.encode_iff h h', EntitiesChanged.mk.injEq, OrderedSet.ofList_eq_iff,
      OrderedSet.ofList_eq_iff]
  data h h' := by
    have hp : Passes EntityRequested EntityRequested.Fits :=
      passes_of_returns fun _ h ↦ returns_entityRequested h
    rw [hp.encode_iff h h', ← OrderedMap.ofList_eq_iff]
    simp only [EntityRequested.mk.injEq, true_and]
  listed := lists_writeEntities
  reported h rest := h.spells.decode_append rest
  reported_by h rest _ hr := (spells_report h.spells hr).decode_append rest
  rewritten added removed := by
    refine ⟨_, _, rfl, ascending_entities _, ascending_entities _, ?_, ?_⟩
    · exact fun e ↦ OrderedSet.mem_ofList
    · exact fun e ↦ OrderedSet.mem_ofList
  tagged _ := rfl

def crossed : List Entity := [⟨9⟩, ⟨2⟩, ⟨9⟩]

def crossedReport : Octets :=
  writeMapping [(writeText "removed_entities", writeEntities []),
    (writeText "new_entities", writeEntities crossed)]

def changed : EntitiesChanged := ⟨.ofList [⟨2⟩, ⟨9⟩], .empty⟩

theorem reports_crossedReport : Reports crossedReport crossed [] :=
  ⟨_, _, lists_writeEntities (by decide), lists_writeEntities (by decide), .inr rfl⟩

def overwritten : List (String × String) :=
  [("pose", "0 0 0"), ("static", "true"), ("pose", "1 0 0")]

theorem reports_are_told_apart :
    decode Event (writeMapping [(writeText "GuiNewRemovedEntities", crossedReport)] ++ [0xc1]) =
        .ok (.editorEntitiesChanged changed) ∧
      decode Event (writeMapping [(writeText "NewRemovedEntities", crossedReport)] ++ [0xc1]) =
        .ok (.entitiesChanged changed) ∧
      encode (Event.editorEntitiesChanged changed) ≠ encode (Event.entitiesChanged changed) ∧
      encode (EntityRequested.mk "box" "urdf" ⟨1⟩ (.ofList overwritten)) =
        encode (EntityRequested.mk "box" "urdf" ⟨1⟩ (.ofList overwritten.tail)) := by
  have editor := events_have_one_encoding.reported_by reports_crossedReport [0xc1] (.inl rfl)
  have simulation := events_have_one_encoding.reported_by reports_crossedReport [0xc1] (.inr rfl)
  have fits : changed.Fits := ⟨by decide, by decide⟩
  have fitsEditor : (Event.editorEntitiesChanged changed).Fits := fits
  have fitsSimulation : (Event.entitiesChanged changed).Fits := fits
  refine ⟨editor, simulation, fun he ↦ ?_, ?_⟩
  · cases (events_have_one_encoding.encode_iff fitsEditor fitsSimulation).1 he
  · have long : EntityRequested.Fits ⟨"box", "urdf", ⟨1⟩, .ofList overwritten⟩ :=
      ⟨by decide, by decide, by decide, by decide⟩
    have short : EntityRequested.Fits ⟨"box", "urdf", ⟨1⟩, .ofList overwritten.tail⟩ :=
      ⟨by decide, by decide, by decide, by decide⟩
    refine (events_have_one_encoding.data long short).2 fun key ↦ ?_
    simp only [overwritten, List.tail_cons, List.reverse_cons, List.reverse_nil, List.nil_append,
      List.cons_append, List.lookup_cons]
    split <;> rfl

end EntityWire.Event
