import EntityWire.Proofs.Wire.Resolves

namespace EntityWire.Wire

variable {D : Dialect} {α β : Type} {levels : Nat} {s : Octets}
  {es es' : List (Octets × Octets)} {e e' : Octets × Octets}

/-- Octets that are the mapping of some well-formed entries. -/
structure Lists (D : Dialect) (levels : Nat) (es : List (Octets × Octets)) (s : Octets) :
    Prop where
  layout : ∃ lead, Begins lead (.mapping es.length) ∧ s = lead ++ es.flatMap fun e ↦ e.1 ++ e.2
  keys : ∀ e ∈ es, WellFormed D levels e.1
  values : ∀ e ∈ es, WellFormed D levels e.2

theorem lists_writeMapping (h : es.length < 0x100000000) (hk : ∀ e ∈ es, WellFormed D levels e.1)
    (hv : ∀ e ∈ es, WellFormed D levels e.2) : Lists D levels es (writeMapping es) :=
  ⟨⟨_, begins_mappingHead h, rfl⟩, hk, hv⟩

theorem Lists.wellFormed (h : Lists D levels es s) : WellFormed D (levels + 1) s := by
  obtain ⟨⟨lead, hb, rfl⟩, hk, hv⟩ := h
  exact .mapping nofun hb hk hv

theorem Lists.solid (h : Lists D levels es s) : Solid s := by
  obtain ⟨⟨lead, hb, rfl⟩, -, -⟩ := h
  exact hb.solid nofun _

theorem outcome_key_text {lead : Octets} (hb : Begins lead (.text s.length)) (levels : Nat) :
    (Key.scan levels).outcome (lead ++ s) = .ok (.name s) := by
  have hk : (Key.scan levels).run (lead ++ s) = .ok (.name s, []) := by
    rw [Key.scan, hb.run_token, Head.token, Scan.bind_assoc, Scan.run_bind_ok (Scan.run_content_all s),
      Scan.bind, Token.ofText]
    cases hd : Utf8.decode s with
    | error fault => rfl
    | ok chars => exact congrArg (fun s ↦ Except.ok (Key.name s, [])) (Utf8.encode_of_decode hd)
  exact congrArg (Except.map Prod.fst) hk

theorem outcome_key_index {n : UInt64} (hb : Begins s (.scalar (.unsigned n))) (levels : Nat) :
    (Key.scan levels).outcome s = .ok (.index n.toNat) := by
  have hk : (Key.scan levels).run (s ++ []) = .ok (.index n.toNat, []) := hb.run_token levels _ []
  rw [List.append_nil] at hk
  exact congrArg (Except.map Prod.fst) hk

theorem Scan.outcome_ofExcept (x : Except Complaint α) :
    (ofExcept x).outcome [] = x.mapError fun c ↦ .refused (.content c) := by
  cases x <;> rfl

theorem Form.Resolves.outcome_via {g : Form β} (h : g.Resolves D) {make : β → α} {back : α → β}
    (hs : WellFormed D levels s) :
    ((g.via make back).value levels).outcome s = ((g.value levels).outcome s).map make := by
  have hv : (g.via make back).value levels = (g.value levels).bind fun b ↦ .done (make b) :=
    (Scan.bind_assoc _ _ _).symm
  rw [hv, (h hs).outcome_bind_nil]
  cases (g.value levels).outcome s <;> rfl

theorem Form.Resolves.outcome_checked {g : Form β} (h : g.Resolves D)
    {accept : β → Except Complaint α} {back : α → β} (hs : WellFormed D levels s) :
    ((g.checked accept back).value levels).outcome s = ((g.value levels).outcome s).bind fun b ↦
      (accept b).mapError fun c ↦ .refused (.content c) := by
  have hv : (g.checked accept back).value levels =
      (g.value levels).bind fun b ↦ Scan.ofExcept (accept b) := (Scan.bind_assoc _ _ _).symm
  rw [hv, (h hs).outcome_bind_nil]
  exact congrArg _ (funext fun b ↦ Scan.outcome_ofExcept (accept b))

namespace Fields

variable {Γ : List Type} {fields : Fields Γ} {slots slots' : Slots Γ} {p : Place α Γ}

/-- What an entry makes of the slots. -/
def turn (fields : Fields Γ) (levels : Nat) (slots : Slots Γ) (e : Octets × Octets) :
    Except DecodeError (Slots Γ) :=
  ((Key.scan levels).outcome e.1).bind fun key ↦
    match fields.place? key with
    | none => ((skip levels).outcome e.2).map fun _ ↦ slots
    | some p => (((p.2.field fields).fill levels (p.2.get slots)).outcome e.2).map fun a ↦
        p.2.put (some a) slots

theorem Resolve.outcome_entry (h : fields.Resolve D) (hk : WellFormed D levels e.1)
    (hv : WellFormed D levels e.2) (slots : Slots Γ) :
    (fields.entry levels slots).outcome (e.1 ++ e.2) = fields.turn levels slots e := by
  rw [Fields.entry, (resolves_key hk).outcome_bind, turn]
  congr 1
  funext key
  rw [assign_eq]
  cases fields.place? key with
  | none =>
    refine (hv.resolves_skip.outcome_bind_nil _).trans ?_
    dsimp only
    cases (skip levels).outcome e.2 <;> rfl
  | some p =>
    refine ((resolves_fill (h.field p.2) hv _).outcome_bind_nil _).trans ?_
    dsimp only
    cases ((p.2.field fields).fill levels (p.2.get slots)).outcome e.2 <;> rfl

def gather (fields : Fields Γ) (levels : Nat) (es : List (Octets × Octets)) :
    Except DecodeError (Row Γ) :=
  (es.foldlM (fields.turn levels) fields.noSlots).bind fun slots ↦
    (fields.complete slots).mapError fun c ↦ .refused (.content c)

theorem Resolve.outcome_record (h : fields.Resolve D) (name : String)
    (hs : Lists D levels es s) :
    ((Form.record name fields).value (levels + 1)).outcome s = fields.gather levels es := by
  obtain ⟨⟨lead, hb, rfl⟩, hk, hv⟩ := hs
  have hentry : ∀ e ∈ es, ∀ slots,
      (fields.entry levels slots).Resolves (·.OfValue D) (e.1 ++ e.2) :=
    fun e he slots ↦ h.entry (hk e he) (hv e he) slots
  have hfold : (Scan.iterate (fields.entry levels) es.length fields.noSlots).outcome
      (es.flatMap fun e ↦ e.1 ++ e.2) = es.foldlM (fields.turn levels) fields.noSlots :=
    Scan.outcome_iterate hentry
      (fun e he slots ↦ h.outcome_entry (hk e he) (hv e he) slots) fields.noSlots
  have hrun : ((Form.record name fields).value (levels + 1)).outcome
      (lead ++ es.flatMap fun e ↦ e.1 ++ e.2) =
        ((Scan.iterate (fields.entry levels) es.length fields.noSlots).bind fun slots ↦
          .ofExcept (fields.complete slots)).outcome (es.flatMap fun e ↦ e.1 ++ e.2) := by
    rw [Scan.outcome, Form.value, Form.record, hb.run_token]
    rfl
  rw [hrun, (Scan.resolves_iterate hentry _).outcome_bind_nil, hfold]
  exact congrArg _ (funext fun slots ↦ Scan.outcome_ofExcept _)

theorem Resolve.decode_record {M : Type} [Codec M] {name : String} {make : Row Γ → M}
    {back : M → Row Γ} (hf : Codec.form (α := M) = (Form.record name fields).via make back)
    (h : fields.Resolve D) (hs : Lists D (levelLimit - 1) es s) :
    decode M s = (fields.gather (levelLimit - 1) es).map make := by
  rw [decode, hf]
  refine ((Form.resolves_record name h).outcome_via hs.wellFormed).trans ?_
  rw [h.outcome_record name hs]

def Names (fields : Fields Γ) (levels : Nat) (k : Octets) (p : Place α Γ) : Prop :=
  ∃ key, (Key.scan levels).outcome k = .ok key ∧ fields.place? key = some ⟨α, p⟩

def Calls (fields : Fields Γ) (levels : Nat) (k : Octets) (name : String) : Prop :=
  ∃ α, ∃ p : Place α Γ, fields.Names levels k p ∧ (p.field fields).name = name

theorem names_writeText {name : String} (hn : (Utf8.encode name).length < 0x100000000)
    (hp : fields.place? (.name (Utf8.encode name)) = some ⟨α, p⟩) :
    fields.Names levels (writeText name) p :=
  ⟨_, outcome_key_text (begins_textHead hn) levels, hp⟩

theorem name_of_calls_writeText {name name' : String}
    (hn : (Utf8.encode name).length < 0x100000000)
    (h : fields.Calls levels (writeText name) name') : name = name' := by
  obtain ⟨α, p, ⟨key, hk, hp⟩, rfl⟩ := h
  obtain rfl := Except.ok.inj ((outcome_key_text (begins_textHead hn) levels).symm.trans hk)
  exact Utf8.encode_injective (name_of_place? hp)

theorem turn_of_names (h : fields.Names levels e.1 p) (slots : Slots Γ) :
    fields.turn levels slots e = (((p.field fields).fill levels (p.get slots)).outcome e.2).map
      fun a ↦ p.put (some a) slots := by
  obtain ⟨key, hk, hp⟩ := h
  rw [turn, hk]
  dsimp only [Except.bind]
  rw [hp]

theorem turn_of_none {key : Key} (hk : (Key.scan levels).outcome e.1 = .ok key)
    (hp : fields.place? key = none) (slots : Slots Γ) :
    fields.turn levels slots e = ((skip levels).outcome e.2).map fun _ ↦ slots := by
  rw [turn, hk]
  dsimp only [Except.bind]
  rw [hp]

theorem turn_cases (fields : Fields Γ) (levels : Nat) (e : Octets × Octets) :
    (∃ x, ∀ slots, fields.turn levels slots e = .error x) ∨
      (∀ slots, fields.turn levels slots e = .ok slots) ∨
        ∃ α, ∃ p : Place α Γ, fields.Names levels e.1 p := by
  cases hk : (Key.scan levels).outcome e.1 with
  | error x => exact .inl ⟨x, fun slots ↦ by rw [turn, hk]; rfl⟩
  | ok key =>
    cases hp : fields.place? key with
    | none =>
      cases hs : (skip levels).outcome e.2 with
      | error x => exact .inl ⟨x, fun slots ↦ by rw [turn_of_none hk hp, hs]; rfl⟩
      | ok _ => exact .inr (.inl fun slots ↦ by rw [turn_of_none hk hp, hs]; rfl)
    | some p => exact .inr (.inr ⟨p.1, p.2, key, hk, hp⟩)

theorem turn_put (hn : ¬fields.Names levels e.1 p) (x : Option α) (slots : Slots Γ) :
    fields.turn levels (p.put x slots) e = (fields.turn levels slots e).map (p.put x) := by
  rcases fields.turn_cases levels e with ⟨r, hr⟩ | hr | ⟨β, q, hq⟩
  · rw [hr, hr]
    rfl
  · rw [hr, hr]
    rfl
  · have hne : p.index ≠ q.index := by
      intro he
      cases Place.eq_of_index he
      exact hn hq
    rw [turn_of_names hq, turn_of_names hq, Place.get_put_of_ne hne.symm]
    cases ((q.field fields).fill levels (q.get slots)).outcome e.2 with
    | error r => rfl
    | ok a => exact congrArg Except.ok (Place.put_comm hne.symm _ _ _)

theorem get_turn (hn : ¬fields.Names levels e.1 p) (h : fields.turn levels slots e = .ok slots') :
    p.get slots' = p.get slots := by
  have hp := turn_put hn (p.get slots) slots
  rw [Place.put_get] at hp
  exact Place.get_of_map_put hp h

theorem foldlM_turn_put (hn : ∀ e ∈ es, ¬fields.Names levels e.1 p) (x : Option α)
    (slots : Slots Γ) : es.foldlM (fields.turn levels) (p.put x slots) =
      (es.foldlM (fields.turn levels) slots).map (p.put x) := by
  induction es generalizing slots with
  | nil => rfl
  | cons e es ih =>
    obtain ⟨he, hes⟩ := List.forall_mem_cons.1 hn
    rw [List.foldlM_cons, List.foldlM_cons, turn_put he]
    cases fields.turn levels slots e with
    | error r => rfl
    | ok slots => exact ih hes slots

theorem get_foldlM (hn : ∀ e ∈ es, ¬fields.Names levels e.1 p)
    (h : es.foldlM (fields.turn levels) slots = .ok slots') : p.get slots' = p.get slots := by
  have hp := foldlM_turn_put hn (p.get slots) slots
  rw [Place.put_get] at hp
  exact Place.get_of_map_put hp h

theorem of_turn (hp : fields.Names levels e.1 p) (h : fields.turn levels slots e = .ok slots') :
    p.get slots = none ∧ ∃ a, ((p.field fields).form.value levels).outcome e.2 = .ok a ∧
      slots' = p.put (some a) slots := by
  rw [turn_of_names hp] at h
  obtain ⟨a, ha, rfl⟩ := of_map_ok h
  cases hg : p.get slots with
  | some b =>
    rw [hg] at ha
    nomatch ha
  | none =>
    rw [hg] at ha
    exact ⟨rfl, a, ha, rfl⟩

theorem turn_of_empty (hp : fields.Names levels e.1 p) {a : α}
    (ha : ((p.field fields).form.value levels).outcome e.2 = .ok a) (hg : p.get slots = none) :
    fields.turn levels slots e = .ok (p.put (some a) slots) := by
  rw [turn_of_names hp, hg]
  exact congrArg (Except.map _) ha

theorem foldlM_turn_drop {before after : List (Octets × Octets)} {a : α}
    (hp : fields.Names levels e.1 p)
    (ha : ((p.field fields).form.value levels).outcome e.2 = .ok a)
    (hn : ∀ e' ∈ before ++ after, ¬fields.Names levels e'.1 p) (hg : p.get slots = none) :
    (before ++ e :: after).foldlM (fields.turn levels) slots =
      ((before ++ after).foldlM (fields.turn levels) slots).map (p.put (some a)) := by
  induction before generalizing slots with
  | nil =>
    rw [List.nil_append, List.foldlM_cons, turn_of_empty hp ha hg]
    exact foldlM_turn_put hn _ _
  | cons e' before ih =>
    obtain ⟨he, hrest⟩ := List.forall_mem_cons.1 hn
    rw [List.cons_append, List.cons_append, List.foldlM_cons, List.foldlM_cons]
    cases ht : fields.turn levels slots e' with
    | error r => rfl
    | ok slots' => exact ih hrest ((get_turn he ht).trans hg)

theorem turn_swap (h : (fields.turn levels slots e).bind (fields.turn levels · e') = .ok slots') :
    (fields.turn levels slots e').bind (fields.turn levels · e) = .ok slots' := by
  obtain ⟨slots₁, h₁, h₂⟩ := of_bind_ok h
  rcases fields.turn_cases levels e with ⟨r, hr⟩ | hr | ⟨α, p, hp⟩
  · nomatch (hr slots).symm.trans h₁
  · obtain rfl := Except.ok.inj ((hr slots).symm.trans h₁)
    rw [h₂]
    exact hr slots'
  -- Two turns that fill one place would be a duplicate, so they fill different ones and commute.
  · obtain ⟨hg, a, ha, rfl⟩ := of_turn hp h₁
    by_cases hp' : fields.Names levels e'.1 p
    · obtain ⟨hg', -⟩ := of_turn hp' h₂
      rw [Place.get_put] at hg'
      nomatch hg'
    · rw [turn_put hp'] at h₂
      obtain ⟨slots₂, ht, rfl⟩ := of_map_ok h₂
      rw [ht]
      exact turn_of_empty hp ha ((get_turn hp' ht).trans hg)

theorem foldlM_turn_perm (hp : es.Perm es')
    (h : es.foldlM (fields.turn levels) slots = .ok slots') :
    es'.foldlM (fields.turn levels) slots = .ok slots' := by
  induction hp generalizing slots with
  | nil => exact h
  | cons e _ ih =>
    obtain ⟨slots₁, h₁, h₂⟩ := of_bind_ok (List.foldlM_cons.symm.trans h)
    rw [List.foldlM_cons, h₁]
    exact ih h₂
  | swap e e' es =>
    obtain ⟨slots₁, h₁, h⟩ := of_bind_ok (List.foldlM_cons.symm.trans h)
    obtain ⟨slots₂, h₂, h₃⟩ := of_bind_ok (List.foldlM_cons.symm.trans h)
    have hs : (fields.turn levels slots e').bind (fields.turn levels · e) = .ok slots₂ := by
      rw [h₁]
      exact h₂
    obtain ⟨slots₁', h₁', h₂'⟩ := of_bind_ok (turn_swap hs)
    rw [List.foldlM_cons, h₁']
    refine (List.foldlM_cons (m := Except DecodeError)).trans ?_
    rw [h₂']
    exact h₃
  | trans _ _ ih₁ ih₂ => exact ih₂ (ih₁ h)

theorem value_of_gather {a : α} (hs : (p.field fields).standing = some a)
    (hn : ∀ e ∈ es, ¬fields.Names levels e.1 p) {row : Row Γ}
    (h : fields.gather levels es = .ok row) : p.value row = a := by
  obtain ⟨slots, hf, hc⟩ := of_bind_ok h
  have hg : p.get slots = none := (get_foldlM hn hf).trans (p.get_noSlots fields)
  exact Place.value_of_complete hs hg (of_mapError_ok hc)

theorem Resolve.of_decode {M : Type} [Codec M] {name : String} {make : Row Γ → M}
    {back : M → Row Γ} (hf : Codec.form (α := M) = (Form.record name fields).via make back)
    (h : fields.Resolve D) (hs : Lists D (levelLimit - 1) es s) {m : M} (hm : decode M s = .ok m)
    (p : Place α Γ) {a : α} (ha : (p.field fields).standing = some a)
    (hn : ∀ e ∈ es, ¬fields.Calls (levelLimit - 1) e.1 (p.field fields).name) :
    ∃ row, make row = m ∧ p.value row = a := by
  rw [h.decode_record hf hs] at hm
  obtain ⟨row, hrow, rfl⟩ := of_map_ok hm
  have hp : ∀ e ∈ es, ¬fields.Names (levelLimit - 1) e.1 p :=
    fun e he hk ↦ hn e he ⟨α, p, hk, rfl⟩
  exact ⟨row, rfl, value_of_gather ha hp hrow⟩

theorem gather_perm (hp : es.Perm es') {row : Row Γ} (h : fields.gather levels es = .ok row) :
    fields.gather levels es' = .ok row := by
  obtain ⟨slots, hs, hc⟩ := of_bind_ok h
  rw [gather, foldlM_turn_perm hp hs]
  exact hc

end Fields

end EntityWire.Wire
