import EntityWire.Proofs.Ordered.Map
import EntityWire.Proofs.Ordered.Set
import EntityWire.Proofs.Wire.RoundTrip
import EntityWire.Wire.Collection
import Mathlib.Data.List.Forall2

namespace EntityWire.Wire

variable {α : Type} {item : Form α} {levels : Nat}

theorem run_iterate_items {parts : List Octets} {items : List α}
    (h : List.Forall₂ (item.Spells levels) parts items) (before : List α) (t : Octets) :
    (Scan.iterate (fun items ↦ (item.value levels).bind fun a ↦ .done (a :: items)) items.length
      before).run (parts.flatten ++ t) = .ok (items.reverse ++ before, t) := by
  induction h generalizing before with
  | nil => rfl
  | @cons s a parts items ha _ ih =>
    have hstep : ((item.value levels).bind fun a ↦ .done (a :: before)).run
        (s ++ (parts.flatten ++ t)) = .ok (a :: before, parts.flatten ++ t) :=
      Scan.run_bind_ok (ha _)
    rw [List.length_cons, Scan.iterate, List.flatten_cons, List.append_assoc,
      Scan.run_bind_ok hstep, ih, List.reverse_cons, List.append_assoc]
    rfl

theorem run_replicate_parts {parts : List Octets} {items : List α}
    (h : List.Forall₂ (item.Spells levels) parts items) (t : Octets) :
    (Scan.replicate (item.value levels) items.length).run (parts.flatten ++ t) = .ok (items, t) := by
  rw [Scan.replicate, Scan.run_bind_ok (run_iterate_items h [] t), List.append_nil,
    List.reverse_reverse]
  rfl

theorem run_replicate {items : List α} (h : ∀ a ∈ items, item.Returns levels a) (t : Octets) :
    (Scan.replicate (item.value levels) items.length).run (items.flatMap item.write ++ t) =
      .ok (items, t) := by
  have hp : List.Forall₂ (item.Spells levels) (items.map item.write) items :=
    List.forall₂_map_left_iff.2 (List.forall₂_same.2 h)
  rw [List.flatMap_def]
  exact run_replicate_parts hp t

namespace Form

theorem list_write (items : List α) :
    (list item).write items = sequenceHead items.length ++ items.flatMap item.write := by
  rw [List.flatMap_def, ← List.length_map item.write]
  rfl

/-- The items that are read back: all of them, unless there are too many. -/
theorem run_list {items : List α} (h : ∀ a ∈ items, item.Returns levels a) (t : Octets) :
    ((list item).value (levels + 1)).run ((list item).write items ++ t) =
      .ok (items.take (counted items.length),
        (items.drop (counted items.length)).flatMap item.write ++ t) := by
  generalize hn : counted items.length = n
  have hl : (items.take n).length = n := List.length_take_of_le (hn ▸ Nat.mod_le _ _)
  have hb : Begins (sequenceHead items.length) (.sequence n) := hn ▸ begins_sequenceHead_counted _
  have hw : (list item).write items ++ t = sequenceHead items.length ++
      ((items.take n).flatMap item.write ++ ((items.drop n).flatMap item.write ++ t)) := by
    rw [list_write, List.append_assoc, ← List.append_assoc (List.flatMap _ _), ← List.flatMap_append,
      List.take_append_drop]
  have ht : ∀ a ∈ items.take n, item.Returns levels a := fun a ha ↦ h a (List.mem_of_mem_take ha)
  have hr := run_replicate ht ((items.drop n).flatMap item.write ++ t)
  rw [hl] at hr
  rw [hw, value, list, hb.run_token]
  exact hr

theorem returns_list {items : List α} (hn : items.length < 0x100000000)
    (h : ∀ a ∈ items, item.Returns levels a) : (list item).Returns (levels + 1) items := by
  intro t
  rw [run_list h, counted_of_lt hn, List.take_length, List.drop_length]
  rfl

theorem spells_list {lead : Octets} {parts : List Octets} {items : List α}
    (hl : Begins lead (.sequence items.length))
    (h : List.Forall₂ (item.Spells levels) parts items) :
    (list item).Spells (levels + 1) (lead ++ parts.flatten) items := by
  intro t
  rw [List.append_assoc, value, list, hl.run_token]
  exact run_replicate_parts h t

theorem flatMap_write_injective {items items' : List α} (h : ∀ a ∈ items, item.Returns levels a)
    (h' : ∀ a ∈ items', item.Returns levels a)
    (he : items.flatMap item.write = items'.flatMap item.write) : items = items' := by
  induction items generalizing items' with
  | nil =>
    cases items' with
    | nil => rfl
    | cons b items' =>
      rw [List.flatMap_nil, List.flatMap_cons] at he
      exact absurd (List.append_eq_nil_iff.1 he.symm).1 (h' b List.mem_cons_self).write_ne_nil
  | cons a items ih =>
    obtain ⟨ha, hi⟩ := List.forall_mem_cons.1 h
    cases items' with
    | nil =>
      rw [List.flatMap_nil, List.flatMap_cons] at he
      exact absurd (List.append_eq_nil_iff.1 he).1 ha.write_ne_nil
    | cons b items' =>
      obtain ⟨hb, hi'⟩ := List.forall_mem_cons.1 h'
      rw [List.flatMap_cons, List.flatMap_cons] at he
      -- Reading the first item off both lists gives the item and what is left, which must agree.
      have hr := ha (items.flatMap item.write)
      rw [he, hb] at hr
      obtain ⟨rfl, ht⟩ := ok_pair_inj hr
      rw [ih hi hi' ht.symm]

theorem list_write_injective {items items' : List α} (h : ∀ a ∈ items, item.Returns levels a)
    (h' : ∀ a ∈ items', item.Returns levels a)
    (he : (list item).write items = (list item).write items') : items = items' := by
  refine flatMap_write_injective h h' ?_
  rw [list_write, list_write] at he
  have hr := begins_sequenceHead_counted items.length (items.flatMap item.write)
  rw [he, begins_sequenceHead_counted] at hr
  exact (ok_pair_inj hr).2.symm

section Sets

variable [Ord α] [Std.TransOrd α]

theorem spells_set {lead : Octets} {parts : List Octets} {items : List α}
    (hl : Begins lead (.sequence items.length))
    (h : List.Forall₂ (item.Spells levels) parts items) :
    (set item).Spells (levels + 1) (lead ++ parts.flatten) (.ofList items) :=
  (spells_list hl h).via OrderedSet.ofList OrderedSet.elements

theorem returns_set [Std.LawfulEqOrd α] {s : OrderedSet α} (hn : s.elements.length < 0x100000000)
    (h : ∀ a ∈ s.elements, item.Returns levels a) : (set item).Returns (levels + 1) s :=
  returns_via (returns_list hn h) s.ofList_elements

end Sets

theorem run_iterate_insert {entries : List (String × String)}
    (h : ∀ e ∈ entries, text.Returns levels e.1 ∧ text.Returns levels e.2)
    (m : OrderedMap String String) (t : Octets) :
    (Scan.iterate (fun (m : OrderedMap String String) ↦
      (text.value levels).bind fun k ↦ (text.value levels).bind fun v ↦ .done (m.insert k v))
      entries.length m).run ((entries.flatMap fun e ↦ writeText e.1 ++ writeText e.2) ++ t) =
      .ok (entries.foldl (fun m e ↦ m.insert e.1 e.2) m, t) := by
  induction entries generalizing m with
  | nil => rfl
  | cons e entries ih =>
    obtain ⟨⟨hk, hv⟩, hrest⟩ := List.forall_mem_cons.1 h
    have hstep : ∀ u, ((text.value levels).bind fun k ↦ (text.value levels).bind fun v ↦
        .done (m.insert k v)).run (writeText e.1 ++ (writeText e.2 ++ u)) =
        .ok (m.insert e.1 e.2, u) := by
      intro u
      exact (Scan.run_bind_ok (hk _)).trans (Scan.run_bind_ok (hv u))
    rw [List.length_cons, Scan.iterate, List.flatMap_cons, List.append_assoc, List.append_assoc,
      Scan.run_bind_ok (hstep _), ih hrest]
    rfl

theorem returns_dictionary {m : OrderedMap String String} (hn : m.entries.length < 0x100000000)
    (h : ∀ e ∈ m.entries, text.Returns levels e.1 ∧ text.Returns levels e.2) :
    dictionary.Returns (levels + 1) m := by
  intro t
  have hw : dictionary.write m ++ t = mappingHead m.entries.length ++
      ((m.entries.flatMap fun e ↦ writeText e.1 ++ writeText e.2) ++ t) := by
    simp [dictionary, writeMapping, List.flatMap_map]
  have hm : m.entries.foldl (fun m e ↦ m.insert e.1 e.2) OrderedMap.empty = m := m.ofList_entries
  have hr := run_iterate_insert h .empty t
  rw [hm] at hr
  rw [hw, value, dictionary, (begins_mappingHead hn).run_token]
  exact hr

theorem returns_octet (b : UInt8) : octet.Returns levels b := by
  have hlt : b.toNat < 0x10000000000000000 := Nat.lt_trans (UInt8.toNat_lt b) (by decide)
  have hn : (UInt64.ofNat b.toNat).toNat = b.toNat := UInt64.toNat_ofNat_of_lt' hlt
  refine returns_ofScalar (begins_unsigned hlt) ?_
  dsimp only
  rw [hn, if_pos (UInt8.toNat_lt b), UInt8.ofNat_toNat]

end Form

end EntityWire.Wire
