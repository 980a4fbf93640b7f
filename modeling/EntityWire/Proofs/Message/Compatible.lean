import EntityWire.Proofs.Message.Resolves
import EntityWire.Proofs.Wire.Entries

namespace EntityWire.Message

open Wire

/-- An entry under a text, with a well-formed value of any kind. -/
structure Member (levels : Nat) where
  lead : Octets
  name : Octets
  value : Octets
  begins : Begins lead (.text name.length)
  whole : WellFormed .bounded levels value

namespace Member

variable {levels : Nat} {Γ : List Type} {fields : Fields Γ} {members : List (Member levels)}

def entry (m : Member levels) : Octets × Octets := (m.lead ++ m.name, m.value)

def isOf (names : List String) (m : Member levels) : Bool :=
  decide (m.name ∈ names.map Utf8.encode)

def Spell (members : List (Member levels)) (s : Octets) : Prop :=
  ∃ lead, Begins lead (.mapping members.length) ∧
    s = lead ++ members.flatMap fun m ↦ m.lead ++ m.name ++ m.value

theorem wellFormed_key (m : Member levels) : WellFormed .bounded levels m.entry.1 :=
  .text m.begins trivial

theorem Spell.lists {s : Octets} (h : Spell members s) :
    Lists .bounded levels (members.map entry) s := by
  obtain ⟨lead, hb, rfl⟩ := h
  refine ⟨⟨lead, by rwa [List.length_map], ?_⟩, ?_, ?_⟩
  · rw [List.flatMap_map]
    rfl
  · exact List.forall_mem_map.2 fun m _ ↦ m.wellFormed_key
  · exact List.forall_mem_map.2 fun m _ ↦ m.whole

theorem outcome_key (m : Member levels) :
    (Key.scan levels).outcome m.entry.1 = .ok (.name m.name) :=
  outcome_key_text m.begins levels

theorem names_iff {α : Type} {m : Member levels} {p : Place α Γ} :
    fields.Names levels m.entry.1 p ↔ fields.place? (.name m.name) = some ⟨α, p⟩ := by
  constructor
  · rintro ⟨key, hk, hp⟩
    obtain rfl := Except.ok.inj (m.outcome_key.symm.trans hk)
    exact hp
  · exact fun h ↦ ⟨_, m.outcome_key, h⟩

theorem turn_of_not_isOf {m : Member levels} (h : ¬m.isOf fields.names = true) (slots : Slots Γ) :
    fields.turn levels slots m.entry = .ok slots := by
  have hp : fields.place? (.name m.name) = none :=
    Fields.place?_name_eq_none fun name hn he ↦
      h (decide_eq_true (List.mem_map.2 ⟨name, hn, he.symm⟩))
  rw [Fields.turn_of_none m.outcome_key hp]
  exact congrArg (Except.map _) (m.whole.outcome_skip not_false)

theorem gather_filter (fields : Fields Γ) (members : List (Member levels)) :
    fields.gather levels (members.map entry) =
      fields.gather levels ((members.filter (isOf fields.names)).map entry) := by
  have hfold (slots : Slots Γ) : (members.map entry).foldlM (fields.turn levels) slots =
      ((members.filter (isOf fields.names)).map entry).foldlM (fields.turn levels) slots := by
    induction members generalizing slots with
    | nil => rfl
    | cons m members ih =>
      by_cases hm : m.isOf fields.names = true
      · rw [List.filter_cons_of_pos hm, List.map_cons, List.map_cons,
          List.foldlM_cons, List.foldlM_cons]
        exact congrArg _ (funext ih)
      · rw [List.filter_cons_of_neg hm, List.map_cons, List.foldlM_cons,
          turn_of_not_isOf hm]
        exact ih slots
  rw [Fields.gather, hfold, Fields.gather]

theorem count_le {α : Type} {name : Octets} {p : Place α Γ} {slots slots' : Slots Γ}
    (hp : fields.place? (.name name) = some ⟨α, p⟩)
    (h : (members.map entry).foldlM (fields.turn levels) slots = .ok slots') :
    (members.map Member.name).count name + (p.get slots).toList.length ≤ 1 := by
  induction members generalizing slots with
  | nil =>
    rw [List.map_nil, List.count_nil]
    cases p.get slots with
    | none => exact Nat.zero_le 1
    | some a => exact Nat.le_refl 1
  | cons m members ih =>
    obtain ⟨slots₁, h₁, h₂⟩ := of_bind_ok (List.foldlM_cons.symm.trans h)
    have hrest := ih h₂
    by_cases hm : m.name = name
    · obtain ⟨hg, a, -, rfl⟩ := Fields.of_turn (names_iff.2 (hm.symm ▸ hp)) h₁
      rw [Place.get_put] at hrest
      rw [List.map_cons, hm, List.count_cons_self, hg]
      exact hrest
    · have hn : ¬fields.Names levels m.entry.1 p := fun hn ↦
        hm ((Fields.name_of_place? (names_iff.1 hn)).trans (Fields.name_of_place? hp).symm)
      rw [Fields.get_turn hn h₁] at hrest
      rw [List.map_cons, List.count_cons_of_ne hm]
      exact hrest

end Member

/-- A message reads the fields with the given names from a mapping, wherever they stand in it. -/
structure Tolerant (M : Type) [Codec M] (names : List String) : Prop where
  /-- Mappings that have the same members of these names, whatever their order and whatever other
  members stand among them, are the same message. -/
  same {members members' : List (Member (levelLimit - 1))} {s s' : Octets}
    (hs : Member.Spell members s) (hs' : Member.Spell members' s')
    (h : (members.filter (Member.isOf names)).Perm (members'.filter (Member.isOf names))) (m : M) :
    decode M s = .ok m ↔ decode M s' = .ok m
  /-- A field that stands in the mapping twice is refused. -/
  twice {members : List (Member (levelLimit - 1))} {s : Octets} (hs : Member.Spell members s)
    {name : String} (hn : name ∈ names)
    (h : 2 ≤ (members.map Member.name).count (Utf8.encode name)) :
    ∃ r : Refusal, decode M s = .error (.refused r)

section Records

variable {M : Type} [Codec M] {Γ : List Type} {fields : Fields Γ} {name : String}
  {make : Row Γ → M} {back : M → Row Γ} {members members' : List (Member (levelLimit - 1))}
  {s s' : Octets}

theorem decode_of_perm (hf : Codec.form (α := M) = (Form.record name fields).via make back)
    (hr : fields.Resolve .bounded) (hs : Member.Spell members s) (hs' : Member.Spell members' s')
    (h : (members.filter (Member.isOf fields.names)).Perm
      (members'.filter (Member.isOf fields.names))) {m : M} (hm : decode M s = .ok m) :
    decode M s' = .ok m := by
  rw [hr.decode_record hf hs.lists, Member.gather_filter] at hm
  obtain ⟨row, hrow, rfl⟩ := of_map_ok hm
  rw [hr.decode_record hf hs'.lists, Member.gather_filter,
    Fields.gather_perm (h.map Member.entry) hrow]
  rfl

theorem tolerant_of_record (hf : Codec.form (α := M) = (Form.record name fields).via make back)
    (hr : fields.Resolve .bounded) : Tolerant M fields.names where
  same hs hs' h _ := ⟨decode_of_perm hf hr hs hs' h, decode_of_perm hf hr hs' hs h.symm⟩
  twice := by
    intro members s hs key hn h
    obtain ⟨⟨α, p⟩, hp⟩ := Option.isSome_iff_exists.1 (Fields.place?_name_isSome hn)
    have hne (m : M) : decode M s ≠ .ok m := by
      intro hm
      rw [hr.decode_record hf hs.lists] at hm
      obtain ⟨row, hrow, -⟩ := of_map_ok hm
      obtain ⟨slots, hslots, -⟩ := of_bind_ok hrow
      have hc := Member.count_le hp hslots
      omega
    have hform : (Codec.form (α := M)).Resolves .bounded := hf ▸ (Form.resolves_record name hr).via
    obtain ⟨r, -, he⟩ := hform.decode_refused hs.lists.wellFormed hne
    exact ⟨r, he⟩

end Records

/-- What every message keeps to, with the names of its fields. -/
structure Compatible : Prop where
  vector : Tolerant Vector3 ["x", "y", "z"]
  quaternion : Tolerant Quaternion ["x", "y", "z", "w"]
  pose : Tolerant Pose ["name", "position", "orientation"]
  coordinates :
    Tolerant Coordinates ["surface_model", "latitude", "longitude", "elevation", "heading"]
  text : Tolerant Text ["data"]
  flag : Tolerant Flag ["data"]
  record : Tolerant Record ["entity", "component", "data"]

theorem messages_are_compatible : Compatible where
  vector := tolerant_of_record rfl resolve_vector
  quaternion := tolerant_of_record rfl resolve_quaternion
  pose := tolerant_of_record rfl resolve_pose
  coordinates := tolerant_of_record rfl resolve_coordinates
  text := tolerant_of_record rfl resolve_text
  flag := tolerant_of_record rfl resolve_flag
  record := tolerant_of_record rfl resolve_record

namespace Member

def ofName (name : String) (h : (Utf8.encode name).length < 0x100000000) (value : Octets)
    (hv : WellFormed .bounded (levelLimit - 1) value) : Member (levelLimit - 1) :=
  ⟨_, _, value, begins_textHead h, hv⟩

def write (members : List (Member (levelLimit - 1))) : Octets :=
  mappingHead members.length ++ members.flatMap fun m ↦ m.lead ++ m.name ++ m.value

theorem spell_write {members : List (Member (levelLimit - 1))} (h : members.length < 0x100000000) :
    Spell members (write members) :=
  ⟨_, begins_mappingHead h, rfl⟩

def east : Member (levelLimit - 1) :=
  ofName "x" (by decide) (writeDouble .one) (.scalar (begins_double _))

def north : Member (levelLimit - 1) :=
  ofName "y" (by decide) (writeDouble ⟨0x8000000000000000⟩) (.scalar (begins_double _))

def unheard : Member (levelLimit - 1) :=
  ofName "frame" (by decide) (writeSequence [[0xd4] ++ 7 :: [0xff]]) <| by
    have one : Begins [0xd4] (.extension 1) := begins_of_marker rfl rfl
    refine .sequence (fun h ↦ absurd h (by decide)) (begins_sequenceHead (by decide))
      (List.forall_mem_singleton.2 ?_)
    exact .extension (fun h ↦ absurd h (by decide)) one 7

end Member

theorem unheard_members_are_passed_over :
    decode Vector3 (Member.write [.east, .unheard, .north]) =
        .ok ⟨.one, ⟨0x8000000000000000⟩, .zero⟩ ∧
      decode Vector3 (Member.write [.north, .east]) = .ok ⟨.one, ⟨0x8000000000000000⟩, .zero⟩ ∧
      ∃ r : Refusal, decode Vector3 (Member.write [.east, .unheard, .east]) =
        .error (.refused r) := by
  have hn : decode Vector3 (Member.write [.north, .east]) =
      .ok ⟨.one, ⟨0x8000000000000000⟩, .zero⟩ := rfl
  refine ⟨?_, hn, ?_⟩
  · refine (messages_are_compatible.vector.same (Member.spell_write (by decide))
      (Member.spell_write (by decide)) ?_ _).2 hn
    exact .swap Member.north Member.east []
  · exact messages_are_compatible.vector.twice (Member.spell_write (by decide))
      (List.mem_cons_self : "x" ∈ _) (by decide)

end EntityWire.Message
