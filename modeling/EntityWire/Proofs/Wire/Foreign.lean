import EntityWire.Proofs.Wire.Written

namespace EntityWire.Wire

variable {α : Type} {Γ : List Type} {fields : Fields Γ} {levels : Nat} {s : Octets}
  {es : List (Octets × Octets)} {names : List String}

/-- The mapping of well-formed values under some of the names. -/
def Mapped (names : List String) (levels : Nat) (s : Octets) : Prop :=
  ∃ es : List (Octets × Octets), Lists .bounded levels es s ∧
    ∀ e ∈ es, ∃ name ∈ names, (Key.scan levels).outcome e.1 = .ok (.name (Utf8.encode name))

theorem Mapped.wellFormed (h : Mapped names levels s) : WellFormed .bounded (levels + 1) s := by
  obtain ⟨es, hl, -⟩ := h
  exact hl.wellFormed

theorem Fields.mapped_entries (fields : Fields Γ) {row : Row Γ} (hf : fields.Named)
    (hv : ∀ e ∈ fields.entries row, WellFormed .bounded levels e.2) :
    Mapped fields.names levels (writeMapping (fields.entries row)) := by
  refine ⟨fields.entries row, fields.lists_entries row hf hv, fun e he ↦ ?_⟩
  have hk : e.1 ∈ (fields.written row).map writeText :=
    fields.map_fst_entries row ▸ List.mem_map_of_mem he
  obtain ⟨name, hn, hw⟩ := List.mem_map.1 hk
  have hn := fields.written_subset row hn
  exact ⟨name, hn, hw ▸ outcome_key_text (begins_textHead (hf.2.1 name hn)) levels⟩

theorem Fields.gather_of_strange
    (hk : ∀ e ∈ es, ∃ key, (Key.scan levels).outcome e.1 = .ok key ∧ fields.place? key = none)
    (hv : ∀ e ∈ es, WellFormed .bounded levels e.2) :
    fields.gather levels es = fields.gather levels [] := by
  have hfold (slots : Slots Γ) : es.foldlM (fields.turn levels) slots = .ok slots := by
    induction es with
    | nil => rfl
    | cons e es ih =>
      obtain ⟨⟨key, hkey, hp⟩, hk⟩ := List.forall_mem_cons.1 hk
      obtain ⟨hv, hvs⟩ := List.forall_mem_cons.1 hv
      have hturn : fields.turn levels slots e = .ok slots := by
        rw [turn_of_none hkey hp, hv.outcome_skip not_false]
        rfl
      rw [List.foldlM_cons, hturn]
      exact ih hk hvs
  rw [gather, hfold]
  rfl

theorem Fields.gather_of_refused {e : Octets × Octets} {p : Place α Γ} {x : DecodeError}
    (hp : fields.Names levels e.1 p)
    (hx : ((p.field fields).form.value levels).outcome e.2 = .error x) :
    fields.gather levels [e] = .error x := by
  have hturn : fields.turn levels fields.noSlots e = .error x := by
    rw [turn_of_names hp, p.get_noSlots fields, Field.fill, hx]
    rfl
  rw [gather, List.foldlM_cons, hturn]
  rfl

section Records

variable {M : Type} [Codec M] {name : String} {make : Row Γ → M} {back : M → Row Γ}

theorem Mapped.decode (hf : Codec.form (α := M) = (Form.record name fields).via make back)
    (hr : fields.Resolve .bounded) (h : Mapped names (levelLimit - 1) s)
    (hd : ∀ name ∈ names, name ∉ fields.names) :
    decode M s = (fields.gather (levelLimit - 1) []).map make := by
  obtain ⟨es, hl, hk⟩ := h
  rw [hr.decode_record hf hl, Fields.gather_of_strange (fun e he ↦ ?_) hl.values]
  obtain ⟨name, hn, hkey⟩ := hk e he
  refine ⟨_, hkey, Fields.place?_name_eq_none fun name' hn' heq ↦ ?_⟩
  exact hd name hn (Utf8.encode_injective heq ▸ hn')

theorem decode_record_scalar (hf : Codec.form (α := M) = (Form.record name fields).via make back)
    {c : Scalar} (hb : Begins s (.scalar c)) : ∃ e, Wire.decode M s = .error e := by
  have hrun : ∃ e, ((Form.record name fields).value levelLimit).run s = .error e := by
    rw [← List.append_nil s, Form.value, Form.record, hb.run_token]
    exact ⟨_, rfl⟩
  obtain ⟨e, he⟩ := hrun
  have hv : (Codec.form (α := M)).value levelLimit =
      ((Form.record name fields).value levelLimit).bind fun row ↦ .done (make row) :=
    hf ▸ (Scan.bind_assoc _ _ _).symm
  rw [Wire.decode, Form.decode, hv, Scan.run_bind_error he]
  exact ⟨e, rfl⟩

end Records

theorem Mapped.run_ofScalar (h : Mapped names levels s) (accept : Scalar → Except Complaint α)
    (write : α → Octets) (levels' : Nat) :
    ∃ m, ((Form.ofScalar accept write).value levels').run s = .error (.refused (.marker m)) := by
  obtain ⟨es, ⟨⟨lead, hb, rfl⟩, -, -⟩, -⟩ := h
  obtain ⟨m, -, hm⟩ := Form.run_ofScalar_of_other hb nofun accept write _
  exact ⟨m, hm⟩

end EntityWire.Wire
