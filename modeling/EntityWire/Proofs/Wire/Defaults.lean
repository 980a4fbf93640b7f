import EntityWire.Proofs.Wire.Entries
import EntityWire.Proofs.Wire.Gives

namespace EntityWire.Wire

variable {α γ : Type} {Γ : List Type} {fields : Fields Γ}
  {defaults : Preds Γ} {view : Row Γ → γ} {levels : Nat} {s s' : Octets}
  {before after : List (Octets × Octets)} {e : Octets × Octets} {p : Place α Γ}

def Place.pred : {Γ : List Type} → Place α Γ → Preds Γ → α → Prop
  | _, .here, .cons P _ => P
  | _, .there p, .cons _ preds => p.pred preds

namespace Fields

/-- An entry that gives a field one of its defaults. -/
def Idle (fields : Fields Γ) (defaults : Preds Γ) (levels : Nat) (p : Place α Γ)
    (e : Octets × Octets) : Prop :=
  fields.Names levels e.1 p ∧
    ∃ d, (p.field fields).form.Spells levels e.2 d ∧ p.pred defaults d

/-- Two mappings that differ in one field, which each of them leaves out or gives a default, in
whatever spelling. -/
inductive UpToDefault (fields : Fields Γ) (defaults : Preds Γ) (levels : Nat) :
    Octets → Octets → Prop
  | intro {α : Type} (p : Place α Γ) {before after : List (Octets × Octets)}
      {o o' : Option (Octets × Octets)} {s s' : Octets}
      (hs : Lists .unbounded levels (before ++ o.toList ++ after) s)
      (hs' : Lists .unbounded levels (before ++ o'.toList ++ after) s')
      (ho : ∀ e ∈ o, fields.Idle defaults levels p e)
      (ho' : ∀ e ∈ o', fields.Idle defaults levels p e)
      (hn : ∀ e ∈ before ++ after, ¬fields.Names levels e.1 p) :
      UpToDefault fields defaults levels s s'

theorem upToDefault_of_idle (before : List (Octets × Octets))
    (hs : Lists .unbounded levels (before ++ e :: after) s)
    (hs' : Lists .unbounded levels (before ++ after) s') (he : fields.Idle defaults levels p e)
    (hn : ∀ e ∈ before ++ after, ¬fields.Names levels e.1 p) :
    fields.UpToDefault defaults levels s s' := by
  rw [List.append_cons] at hs
  rw [← List.append_nil before] at hs'
  refine @UpToDefault.intro _ _ _ _ _ p before after (some e) none _ _ hs hs' ?_ nofun hn
  rintro e ⟨⟩
  exact he

inductive Inside (fields : Fields Γ) (p : Place α Γ) (R : Octets → Octets → Prop) (levels : Nat) :
    Octets → Octets → Prop
  | intro {before after : List (Octets × Octets)} {k v v' s s' : Octets}
      (hs : Lists .unbounded levels (before ++ (k, v) :: after) s)
      (hs' : Lists .unbounded levels (before ++ (k, v') :: after) s')
      (hk : fields.Names levels k p) (h : R v v') : Inside fields p R levels s s'

def Standing : {Γ : List Type} → Fields Γ → Prop
  | _, .nil => True
  | _, .cons field rest => field.standing.isSome ∧ rest.Standing

theorem Standing.field (h : fields.Standing) (p : Place α Γ) :
    ∃ a, (p.field fields).standing = some a := by
  induction p with
  | here =>
    cases fields
    exact Option.isSome_iff_exists.1 h.1
  | there p ih =>
    cases fields
    exact ih h.2

/-- What is seen of a record does not tell a default from the standing value. -/
def Overlooks (fields : Fields Γ) (defaults : Preds Γ) (view : Row Γ → γ) : Prop :=
  ∀ ⦃α : Type⦄ (p : Place α Γ) (d : α) (row : Row Γ), p.pred defaults d →
    (p.field fields).standing = some (p.value row) → view (p.set d row) = view row

theorem overlooks_nil (view : Row [] → γ) : Overlooks .nil .nil view :=
  fun _ p ↦ nomatch p

theorem Overlooks.cons {field : Field α} {P : α → Prop} {view : Row (α :: Γ) → γ}
    (hhere : ∀ d a row, P d → field.standing = some a → view (d, row) = view (a, row))
    (hthere : ∀ b, Overlooks fields defaults fun row ↦ view (b, row)) :
    Overlooks (.cons field fields) (.cons P defaults) view := by
  intro β p d row hd hs
  cases p with
  | here => exact hhere d row.1 row.2 hd hs
  | there p => exact hthere row.1 p d row.2 hd hs

theorem overlooks_defaulted {name : String} {form : Form α} {a : α} {view : Row (α :: Γ) → γ}
    (hthere : ∀ b, Overlooks fields defaults fun row ↦ view (b, row)) :
    Overlooks (.cons (.defaulted name form a) fields) (.cons (· = a) defaults) view := by
  refine Overlooks.cons (fun d a' row hd ha ↦ ?_) hthere
  rw [hd, Option.some.inj ha]

theorem overlooks_optional {name : String} {form : Form α} {P : Option α → Prop}
    {view : Row (Option α :: Γ) → γ} (hhere : ∀ d row, P d → view (d, row) = view (none, row))
    (hthere : ∀ b, Overlooks fields defaults fun row ↦ view (b, row)) :
    Overlooks (.cons (.optional name form) fields) (.cons P defaults) view := by
  refine Overlooks.cons (fun d a' row hd ha ↦ ?_) hthere
  rw [hhere d row hd, Option.some.inj ha]

theorem gather_map_of_idle (hst : fields.Standing) (hv : Overlooks fields defaults view)
    (he : fields.Idle defaults levels p e)
    (hn : ∀ e' ∈ before ++ after, ¬fields.Names levels e'.1 p) :
    (fields.gather levels (before ++ e :: after)).map view =
      (fields.gather levels (before ++ after)).map view := by
  obtain ⟨hk, d, hd, hP⟩ := he
  obtain ⟨a, hs⟩ := hst.field p
  have hempty := p.get_noSlots fields
  rw [gather, foldlM_turn_drop hk hd.outcome hn hempty, gather]
  cases hf : (before ++ after).foldlM (fields.turn levels) fields.noSlots with
  | error x => rfl
  | ok slots =>
    have hg : p.get slots = none := (get_foldlM hn hf).trans hempty
    dsimp only [Except.map, Except.bind]
    rw [Place.complete_put hs hg]
    cases hc : fields.complete slots with
    | error c => rfl
    | ok row =>
      have hr : p.value row = a := Place.value_of_complete hs hg hc
      exact congrArg Except.ok (hv p d row hP (hr ▸ hs))

theorem UpToDefault.wellFormed (h : fields.UpToDefault defaults levels s s') :
    WellFormed .unbounded (levels + 1) s ∧ WellFormed .unbounded (levels + 1) s' := by
  cases h with
  | intro p hs hs' => exact ⟨hs.wellFormed, hs'.wellFormed⟩

theorem UpToDefault.solid (h : fields.UpToDefault defaults levels s s') : Solid s ∧ Solid s' := by
  cases h with
  | intro p hs hs' => exact ⟨hs.solid, hs'.solid⟩

theorem UpToDefault.outcome (hr : fields.Resolve .unbounded) (hst : fields.Standing)
    (hv : Overlooks fields defaults view) (h : fields.UpToDefault defaults levels s s')
    (name : String) :
    (((Form.record name fields).value (levels + 1)).outcome s).map view =
      (((Form.record name fields).value (levels + 1)).outcome s').map view := by
  cases h with
  | @intro α p before after o o' _ _ hs hs' ho ho' hn =>
    have base {o : Option (Octets × Octets)} (ho : ∀ e ∈ o, fields.Idle defaults levels p e) :
        (fields.gather levels (before ++ o.toList ++ after)).map view =
          (fields.gather levels (before ++ after)).map view := by
      cases o with
      | none => rw [Option.toList_none, List.append_nil]
      | some e =>
        rw [Option.toList_some, List.append_assoc]
        exact gather_map_of_idle hst hv (ho e rfl) hn
    rw [hr.outcome_record name hs, hr.outcome_record name hs', base ho, base ho']

theorem Inside.wellFormed {R : Octets → Octets → Prop} (h : fields.Inside p R levels s s') :
    WellFormed .unbounded (levels + 1) s ∧ WellFormed .unbounded (levels + 1) s' := by
  cases h with
  | intro hs hs' => exact ⟨hs.wellFormed, hs'.wellFormed⟩

theorem Inside.outcome (hr : fields.Resolve .unbounded) {R : Octets → Octets → Prop}
    (hR : ∀ v v', R v v' → ((p.field fields).form.value levels).outcome v =
      ((p.field fields).form.value levels).outcome v')
    (h : fields.Inside p R levels s s') (name : String) :
    ((Form.record name fields).value (levels + 1)).outcome s =
      ((Form.record name fields).value (levels + 1)).outcome s' := by
  cases h with
  | @intro before after k v v' _ _ hs hs' hk h =>
    have hturn (slots : Slots Γ) :
        fields.turn levels slots (k, v) = fields.turn levels slots (k, v') := by
      rw [turn_of_names hk, turn_of_names hk]
      cases p.get slots with
      | none => exact congrArg (Except.map _) (hR v v' h)
      | some a => rfl
    rw [hr.outcome_record name hs, hr.outcome_record name hs', gather, gather, List.foldlM_append,
      List.foldlM_append]
    congr 2
    funext slots
    rw [List.foldlM_cons, List.foldlM_cons, hturn]

end Fields

end EntityWire.Wire
