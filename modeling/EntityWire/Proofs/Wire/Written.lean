import EntityWire.Proofs.Wire.Entries
import EntityWire.Proofs.Wire.Record

namespace EntityWire.Wire

variable {D : Dialect} {levels : Nat} {s : Octets} {es : List (Octets × Octets)}

theorem wellFormed_writeText {s : String} (h : (Utf8.encode s).length < 0x100000000)
    (hs : D.Text (Utf8.encode s)) : WellFormed D levels (writeText s) :=
  .text (begins_textHead h) hs

theorem wellFormed_writeDouble (x : Binary64) : WellFormed D levels (writeDouble x) :=
  .scalar (begins_double x)

theorem wellFormed_option {α : Type} {f : Form α} {o : Option α}
    (h : ∀ a ∈ o, WellFormed D levels (f.write a)) : WellFormed D levels (f.option.write o) := by
  cases o with
  | none => exact .scalar begins_null
  | some a => exact h a rfl

/-- Octets that are the mapping of some entries, in any order. -/
def Arranges (es : List (Octets × Octets)) (s : Octets) : Prop :=
  ∃ es' : List (Octets × Octets), ∃ lead, es'.Perm es ∧
    Begins lead (.mapping es'.length) ∧ s = lead ++ es'.flatMap fun e ↦ e.1 ++ e.2

theorem arranges_writeMapping (h : es.length < 0x100000000) : Arranges es (writeMapping es) :=
  ⟨es, _, .refl es, begins_mappingHead h, rfl⟩

theorem Arranges.lists (h : Arranges es s) (hk : ∀ e ∈ es, WellFormed D levels e.1)
    (hv : ∀ e ∈ es, WellFormed D levels e.2) : ∃ es' : List (Octets × Octets),
      es'.Perm es ∧ Lists D levels es' s := by
  obtain ⟨es', lead, hp, hb, rfl⟩ := h
  exact ⟨es', hp, ⟨lead, hb, rfl⟩, fun e he ↦ hk e (hp.subset he), fun e he ↦ hv e (hp.subset he)⟩

namespace Fields

variable {Γ : List Type} {fields : Fields Γ} {row : Row Γ}

theorem written_subset (fields : Fields Γ) (row : Row Γ) : fields.written row ⊆ fields.names := by
  induction fields with
  | nil => exact fun _ h ↦ h
  | cons field rest ih =>
    obtain ⟨a, row⟩ := row
    rw [written, names]
    split
    · exact fun name h ↦ List.mem_cons_of_mem _ (ih row h)
    · exact List.cons_subset_cons _ (ih row)

theorem entries_nil : ∀ e ∈ Fields.nil.entries (), WellFormed D levels e.2 := nofun

theorem entries_cons {α : Type} {field : Field α} {a : α}
    (ha : WellFormed D levels (field.form.write a))
    (h : ∀ e ∈ fields.entries row, WellFormed D levels e.2) :
    ∀ e ∈ (Fields.cons field fields).entries (a, row), WellFormed D levels e.2 := by
  rw [entries]
  split
  · exact h
  · exact List.forall_mem_cons.2 ⟨ha, h⟩

theorem wellFormed_key (hf : fields.Named) {e : Octets × Octets} (he : e ∈ fields.entries row) :
    WellFormed .bounded levels e.1 := by
  have hk : e.1 ∈ (fields.written row).map writeText :=
    fields.map_fst_entries row ▸ List.mem_map_of_mem he
  obtain ⟨name, hn, hw⟩ := List.mem_map.1 hk
  exact hw ▸ wellFormed_writeText (hf.2.1 name (fields.written_subset row hn)) trivial

theorem lists_entries (fields : Fields Γ) (row : Row Γ) (hf : fields.Named)
    (hv : ∀ e ∈ fields.entries row, WellFormed .bounded levels e.2) :
    Lists .bounded levels (fields.entries row) (writeMapping (fields.entries row)) :=
  lists_writeMapping (Nat.lt_of_le_of_lt (fields.length_entries_le row) hf.1)
    (fun _ he ↦ wellFormed_key hf he) hv

section Arranged

variable (hr : fields.Resolve .bounded) (hf : fields.Named) (h : fields.Returns levels row)
  (hv : ∀ e ∈ fields.entries row, WellFormed .bounded levels e.2)
  (hs : Arranges (fields.entries row) s)

include hf hv hs

theorem wellFormed_arranged : WellFormed .bounded (levels + 1) s := by
  obtain ⟨es, -, hl⟩ := hs.lists (fun _ he ↦ wellFormed_key hf he) hv
  exact hl.wellFormed

include hr h

theorem outcome_arranged (name : String) :
    ((Form.record name fields).value (levels + 1)).outcome s = .ok row := by
  obtain ⟨es, hp, hl⟩ := hs.lists (fun _ he ↦ wellFormed_key hf he) hv
  have hreturns : (Form.record name fields).Returns (levels + 1) row := Form.returns_record hf h
  have hg : fields.gather levels (fields.entries row) = .ok row :=
    (hr.outcome_record name (fields.lists_entries row hf hv)).symm.trans hreturns.spells.outcome
  rw [hr.outcome_record name hl, gather_perm hp.symm hg]

theorem outcome_arranged_via {α : Type} (name : String) (make : Row Γ → α) (back : α → Row Γ) :
    (((Form.record name fields).via make back).value (levels + 1)).outcome s = .ok (make row) := by
  rw [(Form.resolves_record name hr).outcome_via (wellFormed_arranged hf hv hs),
    outcome_arranged hr hf h hv hs]
  rfl

theorem outcome_arranged_checked {α : Type} (name : String) (accept : Row Γ → Except Complaint α)
    (back : α → Row Γ) :
    (((Form.record name fields).checked accept back).value (levels + 1)).outcome s =
      (accept row).mapError fun c ↦ .refused (.content c) := by
  rw [(Form.resolves_record name hr).outcome_checked (wellFormed_arranged hf hv hs),
    outcome_arranged hr hf h hv hs]
  rfl

end Arranged

end Fields

end EntityWire.Wire
