import EntityWire.Proofs.Wire.Head
import EntityWire.Wire.Choice
import EntityWire.Wire.Record

namespace EntityWire.Wire

/-- A condition on octets that is left standing behind everything that is read or passed over, and
what it says of the tokens found. -/
structure Source where
  Left : Octets → Prop
  Fits : Token → Prop
  token {levels : Nat} {b : UInt8} {s t : Octets} {tok : Token} (hs : Left (b :: s))
    (hr : ((Marker.ofOctet b).token levels).run s = .ok (tok, t)) : Left t ∧ Fits tok
  skip {levels : Nat} {s t : Octets} (hs : Left s)
    (hr : (Wire.skip levels).run s = .ok ((), t)) : Left t

variable {S : Source} {α β σ : Type} {P : α → Prop} {Q : β → Prop}

def Scan.Gives (left : Octets → Prop) (m : Scan α) (P : α → Prop) : Prop :=
  ∀ ⦃s t : Octets⦄ ⦃a : α⦄, left s → m.run s = .ok (a, t) → left t ∧ P a

namespace Scan

variable {left : Octets → Prop}

theorem gives_done {a : α} (ha : P a) : (Scan.done a).Gives left P := by
  intro s t b hs hr
  obtain ⟨rfl, rfl⟩ := ok_pair_inj hr
  exact ⟨hs, ha⟩

theorem gives_refuse (r : Refusal) : (Scan.refuse r : Scan α).Gives left P :=
  fun _ _ _ _ hr ↦ nomatch hr

theorem gives_ofExcept {x : Except Complaint α} (h : ∀ a, x = .ok a → P a) :
    (ofExcept x).Gives left P := by
  cases x with
  | error c => exact gives_refuse _
  | ok a => exact gives_done (h a rfl)

theorem Gives.bind {m : Scan α} {f : α → Scan β} (hm : m.Gives left P)
    (hf : ∀ a, P a → (f a).Gives left Q) : (m.bind f).Gives left Q := by
  intro s u b hs hr
  obtain ⟨a, t, ha, hb⟩ := of_run_bind hr
  obtain ⟨ht, hp⟩ := hm hs ha
  exact hf a hp ht hb

theorem gives_iterate {step : σ → Scan σ} {I : σ → Prop}
    (h : ∀ state, I state → (step state).Gives left I) (n : Nat) {state : σ} (hi : I state) :
    (iterate step n state).Gives left I := by
  induction n generalizing state with
  | zero => exact gives_done hi
  | succ n ih => exact (h state hi).bind fun _ hi' ↦ ih hi'

theorem gives_skip (levels : Nat) : (skip levels).Gives S.Left fun _ ↦ True :=
  fun _ _ _ hs hr ↦ ⟨S.skip hs hr, trivial⟩

theorem of_run_marker {s t : Octets} {m : Marker} (h : marker.run s = .ok (m, t)) :
    ∃ b, s = b :: t ∧ m = .ofOctet b := by
  cases s with
  | nil => nomatch h
  | cons b s =>
    obtain ⟨rfl, rfl⟩ := ok_pair_inj ((run_marker b s).symm.trans h)
    exact ⟨b, rfl, rfl⟩

theorem gives_token (levels : Nat) {next : Token → Scan α}
    (h : ∀ tok, S.Fits tok → (next tok).Gives S.Left P) :
    (marker.bind fun m ↦ (m.token levels).bind next).Gives S.Left P := by
  intro s u a hs hr
  obtain ⟨m, t, hm, hr⟩ := of_run_bind hr
  obtain ⟨b, rfl, rfl⟩ := of_run_marker hm
  obtain ⟨tok, v, ht, hr⟩ := of_run_bind hr
  obtain ⟨hv, hf⟩ := S.token hs ht
  exact h tok hf hv hr

end Scan

theorem head_of_scalar {m : Marker} {c : Scalar} {s t : Octets} (h : m.scalar.run s = .ok (c, t)) :
    m.head.run s = .ok (.scalar c, t) := by
  have sure : (m.scalar.bind fun c ↦ .done (Head.scalar c)).run s = .ok (.scalar c, t) := by
    rw [Scan.run_bind_ok h]
    rfl
  cases m with
  | fixStr | fixArray | fixMap | fixExt | str | bin | array | map | ext => nomatch h
  | _ => exact sure

structure Form.Gives (S : Source) (f : Form α) (P : α → Prop) : Prop where
  read {levels : Nat} {b : UInt8} {s t : Octets} {a : α} (hs : S.Left (b :: s))
    (hr : (f.read levels (.ofOctet b)).run s = .ok (a, t)) : S.Left t ∧ P a
  octet {b : UInt8} {a : α} (h : f.ofOctet b = .ok a) : P a

namespace Form

variable {f : Form α} {g : Form β}

theorem Gives.value (h : f.Gives S P) (levels : Nat) : (f.value levels).Gives S.Left P := by
  intro s u a hs hr
  obtain ⟨m, t, hm, hr⟩ := Scan.of_run_bind hr
  obtain ⟨b, rfl, rfl⟩ := Scan.of_run_marker hm
  exact h.read hs hr

theorem Gives.of_decode (h : f.Gives S P) {s : Octets} {a : α} (hs : S.Left s)
    (hd : f.decode s = .ok a) : P a := by
  obtain ⟨p, hr, rfl⟩ := of_map_ok hd
  exact (h.value levelLimit hs hr).2

theorem gives_of_token {next : Nat → Token → Scan α} {expected : String} {write : α → Octets}
    (h : ∀ levels tok, S.Fits tok → (next levels tok).Gives S.Left P) :
    Gives S ⟨fun levels m ↦ (m.token levels).bind (next levels), octetIsNot expected, write⟩ P where
  read hs hr := by
    obtain ⟨tok, u, ht, hr⟩ := Scan.of_run_bind hr
    obtain ⟨hu, hf⟩ := S.token hs ht
    exact h _ tok hf hu hr
  octet h := nomatch h

theorem gives_unfit (expected : String) (tok : Token) : (tok.unfit expected).Gives S.Left P := by
  cases tok <;> exact Scan.gives_refuse _

theorem gives_ofScalar {accept : Scalar → Except Complaint α} {write : α → Octets}
    (h : ∀ c a, S.Fits (.scalar c) → accept c = .ok a → P a)
    (ho : ∀ n a, accept (.unsigned n) = .ok a → P a) : (ofScalar accept write).Gives S P where
  read {levels b s t a} hs hr := by
    obtain ⟨c, u, hc, hr⟩ := Scan.of_run_bind hr
    have ht : ((Marker.ofOctet b).token levels).run s = .ok (.scalar c, u) := by
      rw [Marker.token, Scan.run_bind_ok (head_of_scalar hc)]
      rfl
    obtain ⟨hu, hf⟩ := S.token hs ht
    exact Scan.gives_ofExcept (h c · hf) hu hr
  octet h := ho _ _ h

theorem gives_text {P : String → Prop} (h : ∀ s, S.Fits (.text s) → P s)
    (ho : ∀ s chars, S.Fits (.octets s) → Utf8.decode s = .ok chars → P chars) :
    text.Gives S P := by
  refine gives_of_token fun levels tok hf ↦ ?_
  cases tok with
  | text s => exact Scan.gives_done (h s hf)
  | octets s =>
    dsimp only
    split
    · next chars hd => exact Scan.gives_done (ho s chars hf hd)
    · exact Scan.gives_refuse _
  | scalar | badText | sequence | mapping | extension => exact gives_unfit _ _

theorem Gives.via {make : β → α} {back : α → β} (h : g.Gives S Q) (hp : ∀ b, Q b → P (make b)) :
    (g.via make back).Gives S P where
  read hs hr := by
    obtain ⟨b, u, hb, hr⟩ := Scan.of_run_bind hr
    obtain ⟨hu, hq⟩ := h.read hs hb
    exact Scan.gives_done (hp b hq) hu hr
  octet {b a} ha := by
    obtain ⟨c, hc, rfl⟩ := of_map_ok ha
    exact hp c (h.octet hc)

end Form

/-- A predicate for every field. -/
inductive Preds : List Type → Type 1
  | nil : Preds []
  | cons {α : Type} {Γ : List Type} (P : α → Prop) (rest : Preds Γ) : Preds (α :: Γ)

namespace Preds

variable {Γ : List Type}

def All {Γ : List Type} : Preds Γ → Row Γ → Prop
  | .nil, _ => True
  | .cons P rest, (a, row) => P a ∧ rest.All row

def Found {Γ : List Type} : Preds Γ → Slots Γ → Prop
  | .nil, _ => True
  | .cons P rest, (slot, slots) => (∀ a, slot = some a → P a) ∧ rest.Found slots

end Preds

namespace Fields

variable {Γ : List Type} {fields : Fields Γ} {preds : Preds Γ}

inductive Gives (S : Source) : {Γ : List Type} → Fields Γ → Preds Γ → Prop
  | nil : Gives S .nil .nil
  | cons {α : Type} {Γ : List Type} {field : Field α} {rest : Fields Γ} {P : α → Prop}
      {preds : Preds Γ} (hf : field.form.Gives S P) (hs : ∀ a, field.standing = some a → P a)
      (hr : Gives S rest preds) : Gives S (.cons field rest) (.cons P preds)

theorem found_noSlots (fields : Fields Γ) (preds : Preds Γ) : preds.Found fields.noSlots := by
  induction fields with
  | nil => cases preds; trivial
  | cons field rest ih =>
    cases preds with
    | cons P preds => exact ⟨fun a ha ↦ (nomatch ha), ih preds⟩

theorem gives_fill {field : Field α} (hf : field.form.Gives S P) (levels : Nat)
    (slot : Option α) : (field.fill levels slot).Gives S.Left P := by
  cases slot with
  | some a => exact Scan.gives_refuse _
  | none => exact hf.value levels

theorem Gives.assign (h : Gives S fields preds) {levels : Nat} {key : Key} {slots : Slots Γ}
    {scan : Scan (Slots Γ)} (hs : preds.Found slots)
    (ha : fields.assign levels key slots = some scan) : scan.Gives S.Left preds.Found := by
  induction h generalizing key with
  | nil => nomatch ha
  | @cons α Γ field rest P preds hf _ _ ih =>
    obtain ⟨slot, slots⟩ := slots
    obtain ⟨hslot, hslots⟩ := hs
    have here : ((field.fill levels slot).bind fun a ↦
        .done ((some a, slots) : Option α × Slots Γ)).Gives S.Left (preds.cons P).Found := by
      refine (gives_fill hf levels slot).bind fun a hp ↦ Scan.gives_done ⟨?_, hslots⟩
      intro b hb
      exact Option.some.inj hb ▸ hp
    have there : ∀ {key}, ((rest.assign levels key slots).map fun scan ↦ scan.bind fun slots ↦
        .done ((slot, slots) : Option α × Slots Γ)) = some scan →
          scan.Gives S.Left (preds.cons P).Found := by
      intro key hk
      obtain ⟨scan', hk', rfl⟩ := Option.map_eq_some_iff.1 hk
      exact (ih hslots hk').bind fun slots' hs' ↦ Scan.gives_done ⟨hslot, hs'⟩
    cases key with
    | index n =>
      cases n with
      | zero => exact Option.some.inj ha ▸ here
      | succ n => exact there ha
    | name s =>
      by_cases hn : s = Utf8.encode field.name
      · exact Option.some.inj ((if_pos hn).symm.trans ha) ▸ here
      · exact there ((if_neg hn).symm.trans ha)

theorem Gives.entry (h : Gives S fields preds) (levels : Nat) {slots : Slots Γ}
    (hs : preds.Found slots) : (fields.entry levels slots).Gives S.Left preds.Found := by
  have hk : (Key.scan levels).Gives S.Left fun _ ↦ True := by
    refine Scan.gives_token levels fun tok _ ↦ ?_
    split
    · exact Scan.gives_done trivial
    · exact Scan.gives_done trivial
    · exact Scan.gives_done trivial
    · exact Scan.gives_done trivial
    · exact Form.gives_unfit _ _
  refine hk.bind fun key _ ↦ ?_
  split
  · next scan ha => exact h.assign hs ha
  · exact (Scan.gives_skip levels).bind fun _ _ ↦ Scan.gives_done hs

theorem Gives.complete (h : Gives S fields preds) {slots : Slots Γ} (hs : preds.Found slots)
    {row : Row Γ} (hc : fields.complete slots = .ok row) : preds.All row := by
  induction h with
  | nil => trivial
  | cons _ hd _ ih =>
    obtain ⟨slot, slots⟩ := slots
    simp only [Fields.complete] at hc
    split at hc
    · next a ha =>
      obtain ⟨row', hr, rfl⟩ := of_map_ok hc
      refine ⟨?_, ih hs.2 hr⟩
      cases slot with
      | some b => exact hs.1 a ha
      | none => exact hd a ha
    · nomatch hc

theorem Gives.items (h : Gives S fields preds) (expected : String) (levels left taken : Nat) :
    (fields.items expected levels left taken).Gives S.Left fun p ↦ preds.All p.1 := by
  induction h generalizing left taken with
  | nil => exact Scan.gives_done trivial
  | @cons α Γ field rest P preds hf hs _ ih =>
    cases left with
    | succ left =>
      refine (hf.value levels).bind fun a ha ↦ (ih left (taken + 1)).bind fun p hp ↦ ?_
      exact Scan.gives_done ⟨ha, hp⟩
    | zero =>
      rw [Fields.items]
      split
      · next a ha =>
        exact (ih 0 (taken + 1)).bind fun p hp ↦ Scan.gives_done ⟨hs a ha, hp⟩
      · exact Scan.gives_refuse _

theorem Gives.sequence (h : Gives S fields preds) (expected : String) (levels n : Nat) :
    (fields.sequence expected levels n).Gives S.Left preds.All := by
  refine (h.items expected levels n 0).bind fun p hp ↦ ?_
  split
  · exact Scan.gives_done hp
  · exact Scan.gives_refuse _

theorem Gives.ofOctets (h : Gives S fields preds) {expected : String} {s : Octets} {taken : Nat}
    {row : Row Γ} (ho : fields.ofOctets expected s taken = .ok row) : preds.All row := by
  induction h generalizing s taken with
  | nil => trivial
  | cons hf hs _ ih =>
    cases s with
    | nil =>
      simp only [Fields.ofOctets] at ho
      split at ho
      · next a ha =>
        obtain ⟨row', hr, rfl⟩ := of_map_ok ho
        exact ⟨hs a ha, ih hr⟩
      · nomatch ho
    | cons b s =>
      obtain ⟨a, ha, ho⟩ := of_bind_ok ho
      obtain ⟨row', hr, rfl⟩ := of_map_ok ho
      exact ⟨hf.octet ha, ih hr⟩

end Fields

namespace Form

variable {Γ : List Type} {fields : Fields Γ} {preds : Preds Γ}

theorem gives_record (name : String) (h : fields.Gives S preds) :
    (record name fields).Gives S preds.All := by
  refine gives_of_token fun levels tok _ ↦ ?_
  cases tok with
  | mapping n =>
    refine (Scan.gives_iterate (fun slots hs ↦ h.entry _ hs) n
      (fields.found_noSlots preds)).bind fun slots hs ↦ ?_
    exact Scan.gives_ofExcept fun row hc ↦ h.complete hs hc
  | sequence n => exact h.sequence _ _ n
  | octets s => exact Scan.gives_ofExcept fun row ho ↦ h.ofOctets ho
  | scalar | text | badText | extension => exact gives_unfit _ _

theorem gives_tuple (expected : String) (h : fields.Gives S preds) :
    (tuple expected fields).Gives S preds.All := by
  refine gives_of_token fun levels tok _ ↦ ?_
  cases tok with
  | sequence n => exact h.sequence _ _ n
  | octets s => exact Scan.gives_ofExcept fun row ho ↦ h.ofOctets ho
  | scalar | text | badText | mapping | extension => exact gives_unfit _ _

end Form

end EntityWire.Wire
