import EntityWire.Proofs.Wire.RoundTrip
import EntityWire.Wire.Record

namespace EntityWire.Wire

namespace Field

variable {α : Type} {levels : Nat}

def Returns (field : Field α) (levels : Nat) (a : α) : Prop :=
  if field.omitted a then field.standing = some a else field.form.Returns levels a

theorem returns_required {name : String} {form : Form α} {a : α} (h : form.Returns levels a) :
    (required name form).Returns levels a := h

theorem returns_defaulted {name : String} {form : Form α} {standing a : α}
    (h : form.Returns levels a) : (defaulted name form standing).Returns levels a := h

theorem returns_optional {name : String} {form : Form α} {o : Option α}
    (h : ∀ a ∈ o, form.Returns levels a) (hs : ∀ a ∈ o, Solid (form.write a)) :
    (optional name form).Returns levels o := by
  cases o with
  | none => exact rfl
  | some a => exact Form.returns_option_some (h a rfl) (hs a rfl)

end Field

namespace Fields

variable {α : Type} {Γ : List Type} {levels : Nat}

def Returns {Γ : List Type} (levels : Nat) : Fields Γ → Row Γ → Prop
  | .nil, _ => True
  | .cons field rest, (a, row) => field.Returns levels a ∧ rest.Returns levels row

def found {Γ : List Type} : Fields Γ → Row Γ → Slots Γ
  | .nil, _ => ()
  | .cons field rest, (a, row) => (if field.omitted a then none else some a, rest.found row)

theorem complete_found {fields : Fields Γ} {row : Row Γ} (h : fields.Returns levels row) :
    fields.complete (fields.found row) = .ok row := by
  induction fields with
  | nil => rfl
  | cons field rest ih =>
    obtain ⟨a, row⟩ := row
    obtain ⟨ha, hrest⟩ := h
    simp only [Field.Returns] at ha
    simp only [found, complete]
    split at ha
    · next ho => rw [if_pos ho, ha, ih hrest]; rfl
    · next ho => rw [if_neg ho, ih hrest]; rfl

/-- A value under a name moves the slots. -/
def Moves (levels : Nat) (fields : Fields Γ) (name : String) (s : Octets) (slots slots' : Slots Γ) :
    Prop :=
  ∃ scan, fields.assign levels (.name (Utf8.encode name)) slots = some scan ∧
    ∀ t, scan.run (s ++ t) = .ok (slots', t)

theorem moves_here {field : Field α} {rest : Fields Γ} {s : Octets} {a : α} {slots : Slots Γ}
    (h : field.form.Spells levels s a) :
    Moves levels (.cons field rest) field.name s (none, slots) (some a, slots) := by
  refine ⟨_, if_pos rfl, fun t ↦ ?_⟩
  exact Scan.run_bind_ok (h t)

theorem Moves.there {field : Field α} {rest : Fields Γ} {name : String} {s : Octets}
    {slots slots' : Slots Γ} (h : Moves levels rest name s slots slots') (hn : name ≠ field.name)
    (slot : Option α) :
    Moves levels (.cons field rest) name s (slot, slots) (slot, slots') := by
  obtain ⟨scan, ha, hr⟩ := h
  refine ⟨_, (if_neg fun he ↦ hn (Utf8.encode_injective he)).trans (by rw [ha]; rfl), fun t ↦ ?_⟩
  exact Scan.run_bind_ok (hr t)

inductive Path (levels : Nat) (fields : Fields Γ) (names : List String) :
    List (Octets × Octets) → Slots Γ → Slots Γ → Prop
  | done (slots : Slots Γ) : Path levels fields names [] slots slots
  | step {name : String} {s : Octets} {entries : List (Octets × Octets)}
      {slots slots' slots'' : Slots Γ} (hn : name ∈ names)
      (hm : Moves levels fields name s slots slots')
      (hp : Path levels fields names entries slots' slots'') :
      Path levels fields names ((writeText name, s) :: entries) slots slots''

theorem Path.there {field : Field α} {rest : Fields Γ} {names : List String}
    {entries : List (Octets × Octets)} {slots slots' : Slots Γ}
    (h : Path levels rest names entries slots slots') (hn : field.name ∉ names)
    (slot : Option α) :
    Path levels (.cons field rest) (field.name :: names) entries (slot, slots) (slot, slots') := by
  induction h with
  | done => exact .done _
  | step hm hs hp ih =>
    exact .step (List.mem_cons_of_mem _ hm) (hs.there (fun he ↦ hn (he ▸ hm)) slot) ih

theorem path_found {fields : Fields Γ} {row : Row Γ} (hn : fields.names.Nodup)
    (h : fields.Returns levels row) :
    Path levels fields fields.names (fields.entries row) fields.noSlots (fields.found row) := by
  induction fields with
  | nil => exact .done _
  | cons field rest ih =>
    obtain ⟨a, row⟩ := row
    obtain ⟨ha, hrest⟩ := h
    obtain ⟨hf, hn⟩ := List.nodup_cons.1 hn
    have hp := ih hn hrest
    simp only [Field.Returns] at ha
    simp only [entries, found, noSlots, names]
    split at ha
    · next ho =>
      rw [if_pos ho, if_pos ho]
      exact hp.there hf none
    · next ho =>
      rw [if_neg ho, if_neg ho]
      exact .step List.mem_cons_self (moves_here (Form.Returns.spells ha)) (hp.there hf (some a))

theorem run_key {name : String} (h : (Utf8.encode name).length < 0x100000000) (t : Octets) :
    (Key.scan levels).run (writeText name ++ t) = .ok (.name (Utf8.encode name), t) := by
  rw [Key.scan, writeText_append, (begins_textHead h).run_token, Form.run_text]
  rfl

theorem run_entry {fields : Fields Γ} {name : String} {s : Octets} {slots slots' : Slots Γ}
    (hl : (Utf8.encode name).length < 0x100000000)
    (h : Moves levels fields name s slots slots') (t : Octets) :
    (fields.entry levels slots).run (writeText name ++ s ++ t) = .ok (slots', t) := by
  obtain ⟨scan, ha, hr⟩ := h
  rw [entry, List.append_assoc, Scan.run_bind_ok (run_key hl _), ha]
  exact hr t

theorem Path.run {fields : Fields Γ} {names : List String} {entries : List (Octets × Octets)}
    {slots slots' : Slots Γ} (h : Path levels fields names entries slots slots')
    (hl : ∀ name ∈ names, (Utf8.encode name).length < 0x100000000) (t : Octets) :
    (Scan.iterate (fields.entry levels) entries.length slots).run
      ((entries.flatMap fun e ↦ e.1 ++ e.2) ++ t) = .ok (slots', t) := by
  induction h with
  | done => rfl
  | step hn hm hp ih =>
    rw [List.length_cons, Scan.iterate, List.flatMap_cons, List.append_assoc,
      Scan.run_bind_ok (run_entry (hl _ hn) hm _)]
    exact ih

def written {Γ : List Type} : Fields Γ → Row Γ → List String
  | .nil, _ => []
  | .cons field rest, (a, row) =>
    if field.omitted a then rest.written row else field.name :: rest.written row

theorem map_fst_entries (fields : Fields Γ) (row : Row Γ) :
    (fields.entries row).map Prod.fst = (fields.written row).map writeText := by
  induction fields with
  | nil => rfl
  | cons field rest ih =>
    obtain ⟨a, row⟩ := row
    simp only [entries, written]
    split
    · exact ih row
    · rw [List.map_cons, List.map_cons, ih row]

theorem length_entries_le (fields : Fields Γ) (row : Row Γ) :
    (fields.entries row).length ≤ fields.length := by
  induction fields with
  | nil => exact Nat.le_refl 0
  | cons field rest ih =>
    obtain ⟨a, row⟩ := row
    have h := ih row
    simp only [entries, length]
    split
    · omega
    · rw [List.length_cons]
      omega

def Named (fields : Fields Γ) : Prop :=
  fields.length < 0x100000000 ∧
    (∀ name ∈ fields.names, (Utf8.encode name).length < 0x100000000) ∧ fields.names.Nodup

instance (fields : Fields Γ) : Decidable fields.Named := inferInstanceAs (Decidable (_ ∧ _ ∧ _))

def Whole {Γ : List Type} (levels : Nat) : Fields Γ → Row Γ → Prop
  | .nil, _ => True
  | .cons field rest, (a, row) => field.form.Returns levels a ∧ rest.Whole levels row

theorem run_items {fields : Fields Γ} {expected : String} {row : Row Γ}
    (h : fields.Whole levels row) (taken : Nat) (t : Octets) :
    (fields.items expected levels fields.length taken).run ((fields.values row).flatten ++ t) =
      .ok ((row, 0), t) := by
  induction fields generalizing taken with
  | nil => rfl
  | cons field rest ih =>
    obtain ⟨a, row⟩ := row
    obtain ⟨ha, hrest⟩ := h
    rw [length, items, values, List.flatten_cons, List.append_assoc, Scan.run_bind_ok (ha _),
      Scan.run_bind_ok (ih hrest (taken + 1))]
    rfl

theorem length_values (fields : Fields Γ) (row : Row Γ) :
    (fields.values row).length = fields.length := by
  induction fields with
  | nil => rfl
  | cons field rest ih => exact congrArg (· + 1) (ih row.2)

end Fields

namespace Form

variable {Γ : List Type} {fields : Fields Γ} {levels : Nat}

theorem spells_record {name : String} {names : List String} {entries : List (Octets × Octets)}
    {slots : Slots Γ} {row : Row Γ} (hlen : entries.length < 0x100000000)
    (hl : ∀ name ∈ names, (Utf8.encode name).length < 0x100000000)
    (hp : Fields.Path levels fields names entries fields.noSlots slots)
    (hc : fields.complete slots = .ok row) :
    (record name fields).Spells (levels + 1) (writeMapping entries) row := by
  intro t
  rw [writeMapping, List.append_assoc, value, record, (begins_mappingHead hlen).run_token]
  refine (Scan.run_bind_ok (hp.run hl t)).trans ?_
  rw [hc]
  rfl

theorem returns_record {name : String} {row : Row Γ} (hf : fields.Named)
    (h : fields.Returns levels row) : (record name fields).Returns (levels + 1) row :=
  spells_record (Nat.lt_of_le_of_lt (fields.length_entries_le row) hf.1) hf.2.1
    (Fields.path_found hf.2.2 h) (Fields.complete_found h)

theorem solid_record (name : String) {row : Row Γ} (hf : fields.Named) :
    Solid ((record name fields).write row) :=
  (begins_mappingHead (Nat.lt_of_le_of_lt (fields.length_entries_le row) hf.1)).solid (by simp) _

theorem returns_tuple {expected : String} {row : Row Γ} (hf : fields.length < 0x100000000)
    (h : fields.Whole levels row) : (tuple expected fields).Returns (levels + 1) row := by
  intro t
  have hl := fields.length_values row
  have hw : (tuple expected fields).write row ++ t =
      sequenceHead (fields.values row).length ++ ((fields.values row).flatten ++ t) :=
    List.append_assoc _ _ _
  rw [hw, hl, value, tuple, (begins_sequenceHead hf).run_token]
  exact (Scan.run_bind_ok (Fields.run_items h 0 t)).trans rfl

end Form

end EntityWire.Wire
