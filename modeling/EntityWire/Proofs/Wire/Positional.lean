import EntityWire.Proofs.Wire.Entries

namespace EntityWire.Wire

variable {D : Dialect} {α : Type} {levels : Nat} {s s' : Octets} {vs : List Octets}

theorem exists_ok_iff {ε : Type} {a : α} {P : α → Prop} :
    (∃ b, (Except.ok a : Except ε α) = .ok b ∧ P b) ↔ P a := by
  constructor
  · rintro ⟨b, hb, h⟩
    obtain rfl := Except.ok.inj hb
    exact h
  · exact fun h ↦ ⟨a, rfl, h⟩

theorem zip_take_length {β γ : Type*} {as : List β} {bs : List γ} (h : bs.length ≤ as.length) :
    (as.take bs.length).zip bs = as.zip bs := by
  have hz : as.zip bs = (as.take (min as.length bs.length)).zip
      (bs.take (min as.length bs.length)) := List.zip_eq_zip_take_min
  rw [hz, Nat.min_eq_right h, List.take_length]

theorem Scan.outcome_bind_done {β : Type} (m : Scan α) (f : α → β) (s : Octets) :
    (m.bind fun a ↦ .done (f a)).outcome s = (m.outcome s).map f := by
  rw [outcome, run_bind, outcome]
  cases m.run s <;> rfl

def Slots.cons {Γ : List Type} (slot : Option α) (slots : Slots Γ) : Slots (α :: Γ) := (slot, slots)

namespace Fields

variable {Γ : List Type} {fields : Fields Γ}

/-- The values of a record are read from octets in field order; behind them are the standing
values. -/
def Lined (levels : Nat) : {Γ : List Type} → Fields Γ → List Octets → Row Γ → Prop
  | _, .nil, vs, _ => vs = []
  | _, .cons field rest, [], (a, row) => field.standing = some a ∧ rest.Lined levels [] row
  | _, .cons field rest, v :: vs, (a, row) =>
    (field.form.value levels).outcome v = .ok a ∧ rest.Lined levels vs row

section Sequences

theorem outcome_cons_ok_iff {m : Scan (Row Γ × Nat)} {a b : α} {row : Row Γ} {left : Nat} :
    (m.bind fun p ↦ .done (((b, p.1) : Row (α :: Γ)), p.2)).outcome s = .ok ((a, row), left) ↔
      b = a ∧ m.outcome s = .ok (row, left) := by
  rw [Scan.outcome_bind_done]
  constructor
  · intro he
    obtain ⟨⟨row', left'⟩, hp, he⟩ := of_map_ok he
    obtain ⟨hrow, rfl⟩ := Prod.mk.inj he
    obtain ⟨rfl, rfl⟩ := Prod.mk.inj hrow
    exact ⟨rfl, hp⟩
  · rintro ⟨rfl, hp⟩
    rw [hp]
    rfl

theorem Resolve.items_ok_iff (h : fields.Resolve D) (expected : String)
    (hv : ∀ v ∈ vs, WellFormed D levels v) (hl : vs.length ≤ fields.length) (taken : Nat)
    {row : Row Γ} {left : Nat} :
    (fields.items expected levels vs.length taken).outcome vs.flatten = .ok (row, left) ↔
      left = 0 ∧ fields.Lined levels vs row := by
  induction fields generalizing vs taken with
  | nil =>
    obtain rfl := List.length_eq_zero_iff.1 (Nat.le_zero.1 hl)
    constructor
    · intro he
      exact ⟨(ok_pair_inj he).2.symm, rfl⟩
    · rintro ⟨rfl, -⟩
      rfl
  | cons field rest ih =>
    obtain ⟨hf, hrest⟩ := h
    obtain ⟨a, row⟩ := row
    -- What is behind the field is read to the rest of the record.
    have behind {vs : List Octets} (hv : ∀ v ∈ vs, WellFormed D levels v)
        (hl : vs.length ≤ rest.length) (b : _) :
        ((rest.items expected levels vs.length (taken + 1)).bind fun p ↦
          .done ((b, p.1), p.2)).outcome vs.flatten = .ok ((a, row), left) ↔
            left = 0 ∧ b = a ∧ rest.Lined levels vs row := by
      rw [outcome_cons_ok_iff, ih hrest hv hl (taken + 1), and_left_comm]
    cases vs with
    | nil =>
      rw [List.length_nil, Fields.items, Lined]
      cases field.standing with
      | none =>
        refine iff_of_false ?_ ?_
        · rintro ⟨⟩
        · rintro ⟨-, ⟨⟩, -⟩
      | some b =>
        rw [Option.some.injEq]
        exact behind hv (Nat.zero_le _) b
    | cons v vs =>
      obtain ⟨hv, hvs⟩ := List.forall_mem_cons.1 hv
      rw [List.length_cons, Fields.items, List.flatten_cons, (hf hv).outcome_bind, Lined]
      cases (field.form.value levels).outcome v with
      | error e =>
        refine iff_of_false ?_ ?_
        · rintro ⟨⟩
        · rintro ⟨-, ⟨⟩, -⟩
      | ok b =>
        rw [Except.ok.injEq]
        exact behind hvs (Nat.le_of_succ_le_succ hl) b

theorem Resolve.sequence_ok_iff (h : fields.Resolve D) (expected : String)
    (hv : ∀ v ∈ vs, WellFormed D levels v) (hl : vs.length ≤ fields.length) {row : Row Γ} :
    (fields.sequence expected levels vs.length).outcome vs.flatten = .ok row ↔
      fields.Lined levels vs row := by
  have hi {left : Nat} :
      (fields.items expected levels vs.length 0).outcome vs.flatten = .ok (row, left) ↔
        left = 0 ∧ fields.Lined levels vs row := h.items_ok_iff expected hv hl 0
  rw [Scan.outcome, Fields.sequence, Scan.run_bind]
  rw [Scan.outcome] at hi
  cases hr : (fields.items expected levels vs.length 0).run vs.flatten with
  | error e =>
    rw [hr] at hi
    refine iff_of_false ?_ fun hn ↦ ?_
    · rintro ⟨⟩
    · cases hi.2 ⟨rfl, hn⟩
  | ok p =>
    obtain ⟨⟨row', left⟩, t⟩ := p
    rw [hr] at hi
    have hl : (Except.ok (row', left) : Except DecodeError _) = .ok (row, 0) ↔
        fields.Lined levels vs row := hi.trans (and_iff_right rfl)
    rw [← hl]
    by_cases hz : left = 0
    · subst hz
      exact ⟨fun h ↦ congrArg _ (congrArg (·, 0) (Except.ok.inj h)),
        fun h ↦ congrArg _ (ok_pair_inj h).1⟩
    · refine iff_of_false (fun h ↦ ?_) fun h ↦ hz (ok_pair_inj h).2
      dsimp only [Except.bind] at h
      rw [if_neg hz] at h
      cases h

end Sequences

section Mappings

def places : {Γ : List Type} → Fields Γ → List (Σ α, Place α Γ)
  | _, .nil => []
  | _, .cons _ rest => ⟨_, .here⟩ :: rest.places.map fun p ↦ ⟨p.1, .there p.2⟩

theorem place?_index (fields : Fields Γ) (n : Nat) :
    fields.place? (.index n) = fields.places[n]? := by
  induction fields generalizing n with
  | nil => rfl
  | cons field rest ih =>
    cases n with
    | zero => rfl
    | succ n => rw [place?, ih, places, List.getElem?_cons_succ, List.getElem?_map]

theorem place?_name (hf : fields.names.Nodup) {n : Nat} {name : String}
    (hn : fields.names[n]? = some name) :
    fields.place? (.name (Utf8.encode name)) = fields.places[n]? := by
  induction fields generalizing n with
  | nil => nomatch hn
  | cons field rest ih =>
    obtain ⟨hfield, hrest⟩ := List.nodup_cons.1 hf
    rw [place?, places]
    cases n with
    | zero =>
      obtain rfl := Option.some.inj hn
      exact if_pos rfl
    | succ n =>
      have hn : rest.names[n]? = some name := hn
      have hne : Utf8.encode name ≠ Utf8.encode field.name := fun he ↦
        hfield (Utf8.encode_injective he ▸ List.mem_of_getElem? hn)
      rw [if_neg hne, ih hrest hn, List.getElem?_cons_succ, List.getElem?_map]

def fillAt (fields : Fields Γ) (levels : Nat) (slots : Slots Γ)
    (e : (Σ α, Place α Γ) × Octets) : Except DecodeError (Slots Γ) :=
  (((e.1.2.field fields).fill levels (e.1.2.get slots)).outcome e.2).map fun a ↦
    e.1.2.put (some a) slots

theorem foldlM_turn_eq {es : List (Octets × Octets)} {ps : List (Σ α, Place α Γ)}
    (h : List.Forall₂ (fun e p ↦ fields.Names levels e.1 p.2) es ps) (slots : Slots Γ) :
    es.foldlM (fields.turn levels) slots =
      (ps.zip (es.map Prod.snd)).foldlM (fields.fillAt levels) slots := by
  induction h generalizing slots with
  | nil => rfl
  | cons he _ ih =>
    rw [List.foldlM_cons, List.map_cons, List.zip_cons_cons, List.foldlM_cons, turn_of_names he]
    exact congrArg _ (funext ih)

theorem fillAt_there (field : Field α) (rest : Fields Γ) (p : Σ β, Place β Γ) (v : Octets)
    (slot : Option α) (slots : Slots Γ) :
    (Fields.cons field rest).fillAt levels (slots.cons slot) (⟨p.1, .there p.2⟩, v) =
      (rest.fillAt levels slots (p, v)).map (Slots.cons slot) := by
  have hf : (Place.there p.2).field (Fields.cons field rest) = p.2.field rest := rfl
  have hg : (Place.there p.2).get (slots.cons slot) = p.2.get slots := rfl
  rw [fillAt, fillAt, hf, hg]
  cases ((p.2.field rest).fill levels (p.2.get slots)).outcome v <;> rfl

theorem foldlM_fillAt_there (field : Field α) (rest : Fields Γ) (ps : List (Σ α, Place α Γ))
    (vs : List Octets) (slot : Option α) (slots : Slots Γ) :
    ((ps.map fun p ↦ (⟨p.1, .there p.2⟩ : Σ β, Place β (α :: Γ))).zip vs).foldlM
        ((Fields.cons field rest).fillAt levels) (slots.cons slot) =
      ((ps.zip vs).foldlM (rest.fillAt levels) slots).map (Slots.cons slot) := by
  induction ps generalizing vs slots with
  | nil => rfl
  | cons p ps ih =>
    cases vs with
    | nil => rfl
    | cons v vs =>
      rw [List.map_cons, List.zip_cons_cons, List.zip_cons_cons, List.foldlM_cons, List.foldlM_cons,
        fillAt_there]
      cases rest.fillAt levels slots (p, v) with
      | error e => rfl
      | ok slots => exact ih vs slots

theorem complete_cons_ok_iff {field : Field α} {rest : Fields Γ} {slot : Option α}
    {slots : Slots Γ} {a : α} {row : Row Γ} :
    (Fields.cons field rest).complete (slots.cons slot) = .ok (a, row) ↔
      slot.or field.standing = some a ∧ rest.complete slots = .ok row := by
  rw [Slots.cons, complete]
  cases slot.or field.standing with
  | none =>
    refine iff_of_false ?_ ?_
    · rintro ⟨⟩
    · rintro ⟨⟨⟩, -⟩
  | some b =>
    constructor
    · intro h
      obtain ⟨row', hr, he⟩ := of_map_ok h
      obtain ⟨rfl, rfl⟩ := Prod.mk.inj he
      exact ⟨rfl, hr⟩
    · rintro ⟨hb, hr⟩
      obtain rfl := Option.some.inj hb
      exact congrArg (Except.map _) hr

theorem foldlM_fillAt_cons (field : Field α) (rest : Fields Γ) (v : Octets) (vs : List Octets) :
    ((Fields.cons field rest).places.zip (v :: vs)).foldlM
        ((Fields.cons field rest).fillAt levels) (rest.noSlots.cons none) =
      ((field.form.value levels).outcome v).bind fun b ↦
        ((rest.places.zip vs).foldlM (rest.fillAt levels) rest.noSlots).map
          (Slots.cons (some b)) := by
  have hstep : (Fields.cons field rest).fillAt levels (rest.noSlots.cons none) (⟨α, .here⟩, v) =
      ((field.form.value levels).outcome v).map fun b ↦ rest.noSlots.cons (some b) := rfl
  rw [places, List.zip_cons_cons, List.foldlM_cons, hstep]
  cases (field.form.value levels).outcome v with
  | error e => rfl
  | ok b => exact foldlM_fillAt_there field rest rest.places vs (some b) rest.noSlots

theorem fill_places_iff (hl : vs.length ≤ fields.length) {row : Row Γ} :
    (∃ slots, (fields.places.zip vs).foldlM (fields.fillAt levels) fields.noSlots = .ok slots ∧
      fields.complete slots = .ok row) ↔ fields.Lined levels vs row := by
  induction fields generalizing vs with
  | nil =>
    obtain rfl := List.length_eq_zero_iff.1 (Nat.le_zero.1 hl)
    exact iff_of_true ⟨(), rfl, rfl⟩ rfl
  | @cons α Γ field rest ih =>
    obtain ⟨a, row⟩ := row
    cases vs with
    | nil =>
      -- No value is left: the field takes its default, and so do all that follow.
      have hrest : rest.complete rest.noSlots = .ok row ↔ rest.Lined levels [] row := by
        have hi : (∃ slots, (rest.places.zip []).foldlM (rest.fillAt levels) rest.noSlots =
            .ok slots ∧ rest.complete slots = .ok row) ↔ rest.Lined levels [] row :=
          ih (Nat.zero_le _)
        rw [List.zip_nil_right] at hi
        exact (exists_ok_iff (P := fun slots ↦ rest.complete slots = .ok row)).symm.trans hi
      rw [Lined, ← hrest, List.zip_nil_right]
      exact exists_ok_iff.trans complete_cons_ok_iff
    | cons v vs =>
      rw [Lined, ← ih (Nat.le_of_succ_le_succ hl)]
      constructor
      · rintro ⟨slots, hf, hc⟩
        obtain ⟨b, hb, hf⟩ := of_bind_ok ((foldlM_fillAt_cons field rest v vs).symm.trans hf)
        obtain ⟨slots', hrest, rfl⟩ := of_map_ok hf
        obtain ⟨hb', hc⟩ := complete_cons_ok_iff.1 hc
        exact ⟨Option.some.inj hb' ▸ hb, slots', hrest, hc⟩
      · rintro ⟨hb, slots, hf, hc⟩
        refine ⟨slots.cons (some a), (foldlM_fillAt_cons field rest v vs).trans ?_,
          complete_cons_ok_iff.2 ⟨rfl, hc⟩⟩
        rw [hb, hf]
        rfl

/-- A key that stands for the field at an index: its name as text, or the index, in any width. -/
inductive Addresses (names : List String) (i : Nat) : Octets → Prop
  | name {lead : Octets} {name : String} (hn : names[i]? = some name)
      (h : Begins lead (.text (Utf8.encode name).length)) :
      Addresses names i (lead ++ Utf8.encode name)
  | index {k : Octets} {n : UInt64} (hn : n.toNat = i) (h : Begins k (.scalar (.unsigned n))) :
      Addresses names i k

theorem Addresses.wellFormed {names : List String} {i : Nat} {k : Octets}
    (h : Addresses names i k) : WellFormed .unbounded levels k := by
  cases h with
  | name _ h => exact .text h trivial
  | index _ h => exact .scalar h

theorem Addresses.names (hf : fields.names.Nodup) {i : Nat} {k : Octets}
    (h : Addresses fields.names i k) {p : Σ α, Place α Γ} (hp : fields.places[i]? = some p) :
    fields.Names levels k p.2 := by
  cases h with
  | name hn h => exact ⟨_, outcome_key_text h levels, (place?_name hf hn).trans hp⟩
  | index hn h =>
    exact ⟨_, outcome_key_index h levels, (place?_index fields _).trans (hn ▸ hp)⟩

theorem length_places (fields : Fields Γ) : fields.places.length = fields.length := by
  induction fields with
  | nil => rfl
  | cons field rest ih => rw [places, List.length_cons, List.length_map, ih, length]

theorem gather_ok_iff (hf : fields.names.Nodup) {ks : List Octets} (hl : vs.length ≤ fields.length)
    (hk : List.Forall₂ (Addresses fields.names) (List.range vs.length) ks) {row : Row Γ} :
    fields.gather levels (ks.zip vs) = .ok row ↔ fields.Lined levels vs row := by
  have hn : ks.length = vs.length := hk.length_eq.symm.trans List.length_range
  have hle : vs.length ≤ fields.places.length := fields.length_places.symm ▸ hl
  have hp : List.Forall₂ (fun (e : Octets × Octets) p ↦ fields.Names levels e.1 p.2) (ks.zip vs)
      (fields.places.take vs.length) := by
    rw [List.forall₂_iff_get] at hk ⊢
    refine ⟨by rw [List.length_zip, hn, Nat.min_self, List.length_take_of_le hle], fun i hi hi' ↦ ?_⟩
    rw [List.length_zip, hn, Nat.min_self] at hi
    have ha := hk.2 i (List.length_range.symm ▸ hi) (hn.symm ▸ hi)
    simp only [List.get_eq_getElem, List.getElem_range, List.getElem_zip] at ha ⊢
    exact ha.names hf ((List.getElem?_take_of_lt hi).symm.trans (List.getElem?_eq_getElem hi'))
  have hz : (fields.places.take vs.length).zip ((ks.zip vs).map Prod.snd) =
      fields.places.zip vs := by
    rw [List.map_snd_zip hn.ge, zip_take_length hle]
  rw [gather, foldlM_turn_eq hp, hz, ← fill_places_iff hl]
  constructor
  · intro h
    obtain ⟨slots, hs, hc⟩ := of_bind_ok h
    exact ⟨slots, hs, of_mapError_ok hc⟩
  · rintro ⟨slots, hs, hc⟩
    rw [hs]
    exact congrArg (Except.mapError _) hc

end Mappings

/-- Values in a sequence, and the same values in a mapping whose keys stand for the first fields in
order. -/
structure Aligned (names : List String) (levels : Nat) (vs : List Octets) (s s' : Octets) :
    Prop where
  values : ∀ v ∈ vs, WellFormed .unbounded levels v
  fits : vs.length ≤ names.length
  sequence : ∃ lead, Begins lead (.sequence vs.length) ∧ s = lead ++ vs.flatten
  mapping : ∃ lead ks, Begins lead (.mapping vs.length) ∧
    List.Forall₂ (Addresses names) (List.range vs.length) ks ∧
      s' = lead ++ (ks.zip vs).flatMap fun e ↦ e.1 ++ e.2

theorem length_names (fields : Fields Γ) : fields.names.length = fields.length := by
  induction fields with
  | nil => rfl
  | cons field rest ih => exact congrArg (· + 1) ih

theorem Aligned.wellFormed {names : List String} (h : Aligned names levels vs s s') :
    WellFormed .unbounded (levels + 1) s := by
  obtain ⟨hv, -, ⟨lead, hb, rfl⟩, -⟩ := h
  exact .sequence nofun hb hv

theorem Aligned.lists {names : List String} (h : Aligned names levels vs s s') :
    ∃ ks : List Octets, List.Forall₂ (Addresses names) (List.range vs.length) ks ∧
      Lists .unbounded levels (ks.zip vs) s' := by
  obtain ⟨hv, -, -, lead, ks, hb, hk, rfl⟩ := h
  have hl : ks.length = vs.length := hk.length_eq.symm.trans List.length_range
  have hkeys : ∀ k ∈ ks, WellFormed .unbounded levels k :=
    ((List.forall₂_and_left _ _).1 (hk.flip.imp fun _ _ h ↦ ⟨h.wellFormed, h⟩)).1
  refine ⟨ks, hk, ⟨lead, ?_, rfl⟩, fun e he ↦ ?_, fun e he ↦ ?_⟩
  · rwa [List.length_zip, hl, Nat.min_self]
  · exact hkeys _ (List.of_mem_zip he).1
  · exact hv _ (List.of_mem_zip he).2

section Written

variable {names : List String} (hv : ∀ v ∈ vs, WellFormed .unbounded levels v)
  (hl : vs.length ≤ names.length) (hlen : vs.length < 0x100000000)

include hv hl hlen

theorem aligned_zip {ks : List Octets}
    (hk : List.Forall₂ (Addresses names) (List.range vs.length) ks) :
    Aligned names levels vs (writeSequence vs) (writeMapping (ks.zip vs)) := by
  have hz : (ks.zip vs).length = vs.length := by
    rw [List.length_zip, ← hk.length_eq, List.length_range, Nat.min_self]
  refine ⟨hv, hl, ⟨_, begins_sequenceHead hlen, rfl⟩, mappingHead vs.length, ks,
    begins_mappingHead hlen, hk, ?_⟩
  rw [writeMapping, hz]

theorem aligned_written (hn : ∀ name ∈ names, (Utf8.encode name).length < 0x100000000) :
    Aligned names levels vs (writeSequence vs) (writeMapping ((names.map writeText).zip vs)) := by
  have hz : ((names.map writeText).take vs.length).zip vs = (names.map writeText).zip vs :=
    zip_take_length (List.length_map writeText ▸ hl)
  rw [← hz]
  refine aligned_zip hv hl hlen (List.forall₂_iff_get.2 ⟨?_, fun i hi hi' ↦ ?_⟩)
  · rw [List.length_range, List.length_take, List.length_map, Nat.min_eq_left hl]
  · rw [List.length_range] at hi
    have hi : i < names.length := Nat.lt_of_lt_of_le hi hl
    simp only [List.get_eq_getElem, List.getElem_range, List.getElem_take, List.getElem_map]
    exact .name (List.getElem?_eq_getElem hi) (begins_textHead (hn _ (List.getElem_mem hi)))

theorem aligned_indexed : Aligned names levels vs (writeSequence vs)
    (writeMapping (((List.range vs.length).map writeUnsigned).zip vs)) := by
  refine aligned_zip hv hl hlen (List.forall₂_map_right_iff.2 (List.forall₂_same.2 fun i hi ↦ ?_))
  have hi : i < 0x10000000000000000 :=
    Nat.lt_trans (Nat.lt_trans (List.mem_range.1 hi) hlen) (by decide)
  exact .index (UInt64.toNat_ofNat_of_lt' hi) (begins_unsigned hi)

end Written

end Fields

namespace Form

open Fields

variable {β : Type} {Γ : List Type} {fields : Fields Γ} {f : Form β} {names : List String}

def Positional (f : Form α) (names : List String) : Prop :=
  ∀ ⦃levels : Nat⦄ ⦃vs : List Octets⦄ ⦃s s' : Octets⦄, Aligned names levels vs s s' → ∀ a,
    (f.value (levels + 1)).outcome s = .ok a ↔ (f.value (levels + 1)).outcome s' = .ok a

theorem positional_record (h : fields.Resolve .unbounded) (hn : fields.names.Nodup)
    (name : String) : (record name fields).Positional fields.names := by
  intro levels vs s s' ha row
  obtain ⟨ks, hk, hs⟩ := ha.lists
  obtain ⟨hv, hl, ⟨lead, hb, rfl⟩, -⟩ := ha
  rw [length_names] at hl
  have hseq : ((record name fields).value (levels + 1)).outcome (lead ++ vs.flatten) =
      (fields.sequence (elementsText ("struct " ++ name) fields.length) levels vs.length).outcome
        vs.flatten := by
    rw [Scan.outcome, Form.value, record, hb.run_token]
    rfl
  rw [hseq, h.sequence_ok_iff _ hv hl, h.outcome_record name hs, gather_ok_iff hn hl hk]

theorem Positional.bind {g : Form α} {next : α → Scan β} (h : g.Positional names)
    (hg : g.Resolves .unbounded) (hf : ∀ levels, f.value levels = (g.value levels).bind next) :
    f.Positional names := by
  intro levels vs s s' ha b
  obtain ⟨ks, -, hs'⟩ := ha.lists
  rw [hf, (hg ha.wellFormed).outcome_bind_nil, (hg hs'.wellFormed).outcome_bind_nil]
  constructor
  · intro hb
    obtain ⟨a, hga, hb⟩ := of_bind_ok hb
    rw [(h ha a).1 hga]
    exact hb
  · intro hb
    obtain ⟨a, hga, hb⟩ := of_bind_ok hb
    rw [(h ha a).2 hga]
    exact hb

theorem Positional.via {g : Form α} {make : α → β} {back : β → α} (h : g.Positional names)
    (hg : g.Resolves .unbounded) : (g.via make back).Positional names :=
  h.bind hg fun _ ↦ (Scan.bind_assoc _ _ _).symm

theorem Positional.checked {g : Form α} {accept : α → Except Complaint β} {back : β → α}
    (h : g.Positional names) (hg : g.Resolves .unbounded) :
    (g.checked accept back).Positional names :=
  h.bind hg fun _ ↦ (Scan.bind_assoc _ _ _).symm

end Form

end EntityWire.Wire
