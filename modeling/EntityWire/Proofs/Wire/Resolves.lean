import EntityWire.Proofs.Wire.Place
import EntityWire.Proofs.Wire.WellFormed
import EntityWire.Wire.Collection

namespace EntityWire.Wire

variable {D : Dialect} {α β : Type} {levels : Nat} {s : Octets}

/-- Well-formed values are taken whole or refused for what they hold, at any level. -/
def Form.Resolves (D : Dialect) (f : Form α) : Prop :=
  ∀ ⦃levels : Nat⦄ ⦃s : Octets⦄, WellFormed D levels s → (f.value levels).Resolves (·.OfValue D) s

namespace Form

variable {f : Form α} {g : Form β}

theorem Resolves.decode_refused (h : f.Resolves D) (hs : WellFormed D levelLimit s)
    (hn : ∀ a, f.decode s ≠ .ok a) :
    ∃ r : Refusal, r.OfValue D ∧ f.decode s = .error (.refused r) := by
  rcases h hs with ⟨a, ha⟩ | ⟨r, hr, he⟩
  · exact absurd (congrArg (Except.map Prod.fst) ha) (hn a)
  · exact ⟨r, hr, congrArg (Except.map Prod.fst) he⟩

theorem resolves_of_token {next : Nat → Token → Scan α} {ofOctet : UInt8 → Except Complaint α}
    {write : α → Octets}
    (h : ∀ levels tok rest, tok.Heads D levels rest →
      (next levels tok).Resolves (·.OfValue D) rest) :
    Form.Resolves D ⟨fun levels m ↦ (m.token levels).bind (next levels), ofOctet, write⟩ :=
  fun levels _ hs ↦ hs.resolves_token (h levels)

theorem scalar_of_other {m : Marker} {h : Head} {s t : Octets} (hr : m.head.run s = .ok (h, t))
    (hh : ∀ c, h ≠ .scalar c) : m ≠ .reserved ∧ m.scalar = .refuse (.marker m) := by
  cases m with
  | fixStr | fixArray | fixMap | fixExt | str | bin | array | map | ext => exact ⟨nofun, rfl⟩
  | _ =>
    obtain ⟨c, u, -, hc⟩ := Scan.of_run_bind hr
    exact absurd (ok_pair_inj hc).1.symm (hh c)

theorem run_ofScalar_of_other {lead : Octets} {head : Head} (hb : Begins lead head)
    (hh : ∀ c, head ≠ .scalar c) (accept : Scalar → Except Complaint α) (write : α → Octets)
    (rest : Octets) : ∃ m ≠ Marker.reserved,
      ((ofScalar accept write).value levels).run (lead ++ rest) = .error (.refused (.marker m)) := by
  obtain ⟨b, r, rfl, hr⟩ := hb.cons
  obtain ⟨hm, he⟩ := scalar_of_other (hr []) hh
  refine ⟨_, hm, ?_⟩
  rw [List.cons_append, run_value_cons]
  dsimp only [ofScalar]
  rw [he]
  rfl

theorem resolves_ofScalar (accept : Scalar → Except Complaint α) (write : α → Octets) :
    (ofScalar accept write).Resolves D := by
  intro levels s hs
  obtain ⟨lead, head, rest, rfl, hb, hrest⟩ := hs.layout
  by_cases hh : ∃ c, head = .scalar c
  · obtain ⟨c, rfl⟩ := hh
    obtain rfl := hrest c rfl
    exact (Scan.resolves_ofExcept (accept c)).of_run (value_ofScalar hb [])
  · obtain ⟨m, hm, he⟩ := run_ofScalar_of_other hb (fun c hc ↦ hh ⟨c, hc⟩) accept write rest
    exact (Scan.resolves_marker hm []).of_run he

theorem resolves_double : double.Resolves D := resolves_ofScalar _ _

theorem resolves_bool : bool.Resolves D := resolves_ofScalar _ _

theorem resolves_text : text.Resolves D := by
  refine resolves_of_token fun levels tok rest h ↦ ?_
  cases h with
  | text chars => exact Scan.resolves_done chars
  | octets s =>
    dsimp only
    split
    · exact Scan.resolves_done _
    · exact Scan.resolves_complain _ []
  | badText hs hd => exact Scan.resolves_refuse (Refusal.text_ofValue hs hd) []
  | scalar | extension | sequence | mapping => exact Scan.resolves_complain _ _

theorem Resolves.via {make : β → α} {back : α → β} (h : g.Resolves D) :
    (g.via make back).Resolves D := by
  intro levels s hs
  have hv : (g.via make back).value levels = (g.value levels).bind fun b ↦ .done (make b) :=
    (Scan.bind_assoc _ _ _).symm
  rw [hv]
  exact (h hs).bind_nil fun b ↦ Scan.resolves_done (make b)

theorem Resolves.checked {accept : β → Except Complaint α} {back : α → β} (h : g.Resolves D) :
    (g.checked accept back).Resolves D := by
  intro levels s hs
  have hv : (g.checked accept back).value levels =
      (g.value levels).bind fun b ↦ Scan.ofExcept (accept b) := (Scan.bind_assoc _ _ _).symm
  rw [hv]
  exact (h hs).bind_nil fun b ↦ Scan.resolves_ofExcept (accept b)

theorem Resolves.wrapped {name : String} {make : β → α} {back : α → β} (h : g.Resolves D) :
    (g.wrapped name make back).Resolves D :=
  (h.via : (g.via make back).Resolves D)

theorem run_option {s : Octets} (hs : Solid s) :
    (f.option.value levels).run s = ((f.value levels).bind fun a ↦ .done (some a)).run s := by
  obtain ⟨b, t, rfl, hm⟩ := hs
  rw [run_value_cons, Scan.run_bind, run_value_cons]
  exact (congrArg (Scan.run · t) (if_neg hm)).trans (Scan.run_bind _ _ _)

theorem Resolves.option (h : f.Resolves D) : f.option.Resolves D := by
  intro levels s hs
  rcases hs.first with ⟨b, rfl, hm⟩ | ⟨b, t, rfl, hm, -⟩
  · refine (Scan.resolves_done none).of_run ?_
    rw [run_value_cons]
    exact congrArg (Scan.run · []) (if_pos hm)
  · exact ((h hs).bind_nil fun a ↦ Scan.resolves_done (some a)).of_run (run_option ⟨b, t, rfl, hm⟩)

theorem Resolves.outcome_option (h : f.Resolves D) (hw : WellFormed D levels s) (hs : Solid s) :
    (f.option.value levels).outcome s = ((f.value levels).outcome s).map some := by
  rw [Scan.outcome, run_option hs]
  refine ((h hw).outcome_bind_nil _).trans ?_
  cases (f.value levels).outcome s <;> rfl

theorem Resolves.list (h : f.Resolves D) : (Form.list f).Resolves D := by
  refine resolves_of_token fun levels tok rest ht ↦ ?_
  cases ht with
  | sequence hi =>
    refine Scan.Resolves.bind_nil ?_ fun items ↦ Scan.resolves_done items.reverse
    rw [← List.flatMap_id]
    refine Scan.resolves_iterate (fun i hm items ↦ ?_) []
    exact (h (hi i hm)).bind_nil fun a ↦ Scan.resolves_done (a :: items)
  | octets s => exact Scan.resolves_ofExcept _
  | badText hs hd => exact Scan.resolves_refuse (Refusal.text_ofValue hs hd) []
  | scalar | text | extension | mapping => exact Scan.resolves_complain _ _

theorem resolves_dictionary : dictionary.Resolves D := by
  refine resolves_of_token fun levels tok rest ht ↦ ?_
  cases ht with
  | mapping hk hv =>
    refine Scan.resolves_iterate (fun e he entries ↦ ?_) _
    exact (resolves_text (hk e he)).bind fun k ↦
      (resolves_text (hv e he)).bind_nil fun v ↦ Scan.resolves_done (entries.insert k v)
  | badText hs hd => exact Scan.resolves_refuse (Refusal.text_ofValue hs hd) []
  | scalar | text | octets | extension | sequence => exact Scan.resolves_complain _ _

end Form

namespace Variant

variable {variants : List (Variant α)}

theorem named_cases (variants : List (Variant α)) {tok : Token} {rest : Octets}
    (h : tok.Heads D levels rest) :
    (rest = [] ∧ ∃ v ∈ variants, named variants tok = .done v) ∨
      ∃ r : Refusal, r.OfValue D ∧ named variants tok = .refuse r := by
  cases h with
  | text chars =>
    rw [named]
    split
    · next v hv => exact .inl ⟨rfl, v, List.mem_of_find?_eq_some hv, rfl⟩
    · exact .inr ⟨_, Refusal.content_ofValue _, rfl⟩
  | octets s =>
    rw [named]
    split
    · next v hv => exact .inl ⟨rfl, v, List.mem_of_find?_eq_some hv, rfl⟩
    · exact .inr ⟨_, Refusal.content_ofValue _, rfl⟩
  | scalar c =>
    cases c with
    | unsigned n =>
      rw [named]
      split
      · next v hv => exact .inl ⟨rfl, v, List.mem_of_getElem? hv, rfl⟩
      · exact .inr ⟨_, Refusal.content_ofValue _, rfl⟩
    | _ => exact .inr ⟨_, Refusal.content_ofValue _, rfl⟩
  | badText hs hd => exact .inr ⟨_, Refusal.text_ofValue hs hd, rfl⟩
  | extension | sequence | mapping => exact .inr ⟨_, Refusal.content_ofValue _, rfl⟩

def Resolves (D : Dialect) (v : Variant α) : Prop :=
  ∀ ⦃levels : Nat⦄ ⦃s : Octets⦄, WellFormed D levels s → (v.content levels).Resolves (·.OfValue D) s

theorem resolves_bare (name : String) (a : α) : (bare name a).Resolves D := by
  intro levels s hs
  rcases hs.first with ⟨b, rfl, hm⟩ | ⟨b, t, rfl, hm, hr⟩
  · refine (Scan.resolves_done a).of_run ?_
    rw [bare, Scan.run_bind_ok (Scan.run_marker b _), if_pos hm]
  · refine (Scan.resolves_marker hr t).of_run ?_
    rw [bare, Scan.run_bind_ok (Scan.run_marker b _), if_neg hm]

theorem resolves_named (hv : ∀ v ∈ variants, v.Resolves D) {k v : Octets}
    (hk : WellFormed D levels k) (hc : WellFormed D levels v) :
    (Scan.marker.bind fun m ↦ (m.token levels).bind fun t ↦ (named variants t).bind fun w ↦
      w.content levels).Resolves (·.OfValue D) (k ++ v) := by
  refine hk.resolves_token_append fun tok rest ht ↦ ?_
  rcases named_cases variants ht with ⟨rfl, w, hw, he⟩ | ⟨r, hr, he⟩
  · rw [he]
    exact hv w hw hc
  · rw [he]
    exact Scan.resolves_refuse hr _

theorem resolves_alone (hs : WellFormed D levels s) (variants : List (Variant α)) :
    (Scan.marker.bind fun m ↦ (m.token levels).bind fun t ↦ (named variants t).bind fun v ↦
      match v.alone with
      | some a => .done a
      | none => .complain (.wrongKind .bareVariant "newtype variant")).Resolves
        (·.OfValue D) s := by
  refine hs.resolves_token fun tok rest ht ↦ ?_
  rcases named_cases variants ht with ⟨rfl, v, -, he⟩ | ⟨r, hr, he⟩
  · rw [he, Scan.bind]
    split
    · exact Scan.resolves_done _
    · exact Scan.resolves_complain _ []
  · rw [he]
    exact Scan.resolves_refuse hr _

end Variant

theorem Form.resolves_choice {name : String} {variants : List (Variant α)} {write : α → Octets}
    (hv : ∀ v ∈ variants, v.Resolves D) : (choice name variants write).Resolves D := by
  intro levels s hs
  -- Anything but a mapping is read by its token.
  have alone {lead rest : Octets} {head : Head} (he : s = lead ++ rest) (hb : Begins lead head)
      (hn : ∀ n, head ≠ .mapping n) :
      ((choice name variants write).value levels).Resolves (·.OfValue D) s := by
    have ht := Variant.resolves_alone hs variants
    subst he
    exact ht.of_run ((value_choice hb hn rest).trans (hb.run_token levels _ rest).symm)
  cases hs with
  | scalar h => exact alone (List.append_nil _).symm h nofun
  | text h | octets h | extension _ h | sequence _ h => exact alone rfl h nofun
  | @mapping _ lead entries hl hb hk hc =>
    refine (?_ : Scan.Resolves (·.OfValue D) _ (entries.flatMap _)).of_run
      (value_choice_mapping hb _)
    split
    · next hn =>
      obtain ⟨e, rfl⟩ := List.length_eq_one_iff.1 hn
      obtain ⟨hk, -⟩ := List.forall_mem_cons.1 hk
      obtain ⟨hc, -⟩ := List.forall_mem_cons.1 hc
      rw [List.flatMap_singleton]
      exact Variant.resolves_named hv (hk.mono (Nat.sub_le _ 1)) (hc.mono (Nat.sub_le _ 1))
    · exact Scan.resolves_length _ _

theorem Form.resolves_names (name : String) (all : List α) (nameOf : α → String) :
    (names name all nameOf).Resolves D := by
  refine resolves_choice fun v hv ↦ ?_
  obtain ⟨a, -, rfl⟩ := List.mem_map.1 hv
  exact Variant.resolves_bare (nameOf a) a

theorem resolves_key {k : Octets} (hk : WellFormed D levels k) :
    (Key.scan levels).Resolves (·.OfValue D) k := by
  refine hk.resolves_token fun tok rest ht ↦ ?_
  cases ht with
  | text | badText | octets => exact Scan.resolves_done _
  | scalar c =>
    cases c with
    | unsigned n => exact Scan.resolves_done _
    | _ => exact Scan.resolves_complain _ []
  | extension | sequence | mapping => exact Scan.resolves_complain _ _

namespace Fields

variable {Γ : List Type} {fields : Fields Γ}

def Resolve (D : Dialect) : {Γ : List Type} → Fields Γ → Prop
  | _, .nil => True
  | _, .cons field rest => field.form.Resolves D ∧ rest.Resolve D

theorem Resolve.field (h : fields.Resolve D) (p : Place α Γ) :
    (p.field fields).form.Resolves D := by
  induction p with
  | here =>
    cases fields
    exact h.1
  | there p ih =>
    cases fields
    exact ih h.2

theorem resolves_fill {field : Field α} (h : field.form.Resolves D) (hs : WellFormed D levels s)
    (slot : Option α) : (field.fill levels slot).Resolves (·.OfValue D) s := by
  cases slot with
  | none => exact h hs
  | some a => exact Scan.resolves_complain _ _

theorem Resolve.entry (h : fields.Resolve D) {k v : Octets} (hk : WellFormed D levels k)
    (hv : WellFormed D levels v) (slots : Slots Γ) :
    (fields.entry levels slots).Resolves (·.OfValue D) (k ++ v) := by
  refine (resolves_key hk).bind fun key ↦ ?_
  rw [assign_eq]
  cases fields.place? key with
  | none =>
    have hs := hv.resolves_skip.mono fun _ ↦ Refusal.OfDepth.ofValue
    exact hs.bind_nil fun _ ↦ Scan.resolves_done slots
  | some p => exact (resolves_fill (h.field p.2) hv _).bind_nil fun a ↦ Scan.resolves_done _

theorem Resolve.items (h : fields.Resolve D) (expected : String) {items : List Octets}
    (hi : ∀ i ∈ items, WellFormed D levels i) (taken : Nat) :
    (∃ row left, (fields.items expected levels items.length taken).run items.flatten =
        .ok ((row, List.length left), left.flatten)) ∨
      ∃ r : Refusal, r.OfValue D ∧
        (fields.items expected levels items.length taken).run items.flatten =
          .error (.refused r) := by
  -- On the record's fields: once the values run out, every field left falls back to its default.
  induction fields generalizing items taken with
  | nil => exact .inl ⟨(), items, rfl⟩
  | cons field rest ih =>
    obtain ⟨hf, hrest⟩ := h
    cases items with
    | nil =>
      rw [List.length_nil, Fields.items]
      split
      · next a _ =>
        rcases ih hrest hi (taken + 1) with ⟨row, left, hr⟩ | ⟨r, hc, he⟩
        · exact .inl ⟨(a, row), left, Scan.run_bind_ok hr⟩
        · exact .inr ⟨r, hc, Scan.run_bind_error he⟩
      · exact .inr ⟨_, Refusal.content_ofValue _, rfl⟩
    | cons i items =>
      obtain ⟨hs, hi⟩ := List.forall_mem_cons.1 hi
      rw [List.length_cons, Fields.items, List.flatten_cons]
      rcases hf hs with ⟨a, ha⟩ | ⟨r, hc, he⟩
      · rw [Scan.run_bind_ok (Scan.run_append ha items.flatten)]
        rcases ih hrest hi (taken + 1) with ⟨row, left, hr⟩ | ⟨r, hc, he⟩
        · exact .inl ⟨(a, row), left, Scan.run_bind_ok hr⟩
        · exact .inr ⟨r, hc, Scan.run_bind_error he⟩
      · exact .inr ⟨r, hc, Scan.run_bind_error (Scan.run_append_refused he items.flatten)⟩

theorem Resolve.sequence (h : fields.Resolve D) (expected : String) {items : List Octets}
    (hi : ∀ i ∈ items, WellFormed D levels i) :
    (fields.sequence expected levels items.length).Resolves (·.OfValue D) items.flatten := by
  rcases h.items expected hi 0 with ⟨row, left, hr⟩ | ⟨r, hc, he⟩
  · refine (?_ : Scan.Resolves (·.OfValue D) _ left.flatten).of_run (Scan.run_bind_ok hr)
    cases left with
    | nil => exact Scan.resolves_done row
    | cons i left => exact Scan.resolves_length _ _
  · exact .inr ⟨r, hc, Scan.run_bind_error he⟩

end Fields

namespace Form

variable {Γ : List Type} {fields : Fields Γ}

theorem resolves_record (name : String) (h : fields.Resolve D) :
    (record name fields).Resolves D := by
  refine resolves_of_token fun levels tok rest ht ↦ ?_
  cases ht with
  | sequence hi => exact h.sequence _ hi
  | mapping hk hv =>
    refine Scan.Resolves.bind_nil (Scan.resolves_iterate ?_ _) fun slots ↦
      Scan.resolves_ofExcept _
    exact fun e he slots ↦ h.entry (hk e he) (hv e he) slots
  | octets s => exact Scan.resolves_ofExcept _
  | badText hs hd => exact Scan.resolves_refuse (Refusal.text_ofValue hs hd) []
  | scalar | text | extension => exact Scan.resolves_complain _ _

theorem resolves_tuple (expected : String) (h : fields.Resolve D) :
    (tuple expected fields).Resolves D := by
  refine resolves_of_token fun levels tok rest ht ↦ ?_
  cases ht with
  | sequence hi => exact h.sequence _ hi
  | octets s => exact Scan.resolves_ofExcept _
  | badText hs hd => exact Scan.resolves_refuse (Refusal.text_ofValue hs hd) []
  | scalar | text | extension | mapping => exact Scan.resolves_complain _ _

end Form

end EntityWire.Wire
