import EntityWire.Proofs.Wire.Extent
import EntityWire.Proofs.Wire.RoundTrip
import EntityWire.Wire.Skip

namespace EntityWire.Wire

/-- Which values there are: what holds of their texts, and whether more containers may be inside one
another than are read. -/
structure Dialect where
  Text : Octets → Prop
  deep : Prop

namespace Dialect

/-- Texts of any octets, and no more levels than are read. -/
def bounded : Dialect := ⟨fun _ ↦ True, False⟩

/-- Texts of any octets, and any number of levels. -/
def unbounded : Dialect := ⟨fun _ ↦ True, True⟩

end Dialect

/-- Octets that are one value where `levels` more containers may be opened. Every length may be
written in any width. -/
inductive WellFormed (D : Dialect) : Nat → Octets → Prop
  | scalar {levels : Nat} {s : Octets} {c : Scalar} (h : Begins s (.scalar c)) :
      WellFormed D levels s
  | text {levels : Nat} {lead s : Octets} (h : Begins lead (.text s.length)) (hs : D.Text s) :
      WellFormed D levels (lead ++ s)
  | octets {levels : Nat} {lead s : Octets} (h : Begins lead (.octets s.length)) :
      WellFormed D levels (lead ++ s)
  | extension {levels : Nat} {lead s : Octets} (hl : levels = 0 → D.deep)
      (h : Begins lead (.extension s.length)) (kind : UInt8) :
      WellFormed D levels (lead ++ kind :: s)
  | sequence {levels : Nat} {lead : Octets} {items : List Octets} (hl : levels = 0 → D.deep)
      (h : Begins lead (.sequence items.length))
      (hi : ∀ i ∈ items, WellFormed D (levels - 1) i) :
      WellFormed D levels (lead ++ items.flatten)
  | mapping {levels : Nat} {lead : Octets} {entries : List (Octets × Octets)}
      (hl : levels = 0 → D.deep) (h : Begins lead (.mapping entries.length))
      (hk : ∀ e ∈ entries, WellFormed D (levels - 1) e.1)
      (hv : ∀ e ∈ entries, WellFormed D (levels - 1) e.2) :
      WellFormed D levels (lead ++ entries.flatMap fun e ↦ e.1 ++ e.2)

/-- Well-formed octets that are not what was asked for. -/
def Refusal.OfContent : Refusal → Prop
  | .marker m => m ≠ .reserved
  | .length _ | .content _ => True
  | .text _ | .depth => False

def Refusal.OfDepth (D : Dialect) (r : Refusal) : Prop := D.deep ∧ r = .depth

/-- What is refused of a well-formed value: that it is not what was asked for, that one of its texts
is no UTF-8, or that it is nested too deeply. -/
def Refusal.OfValue (D : Dialect) (r : Refusal) : Prop :=
  r.OfContent ∨ (∃ s fault, D.Text s ∧ Utf8.decode s = .error fault ∧ r = .text fault) ∨
    r.OfDepth D

variable {D : Dialect} {R : Refusal → Prop} {α β σ : Type} {levels : Nat} {s u : Octets}

namespace Refusal

theorem OfContent.ofValue {r : Refusal} (h : r.OfContent) : r.OfValue D := Or.inl h

theorem content_ofValue (c : Complaint) : (content c).OfValue D := OfContent.ofValue trivial

theorem text_ofValue {fault : Utf8.Fault} (hs : D.Text s) (hd : Utf8.decode s = .error fault) :
    (text fault).OfValue D :=
  Or.inr (Or.inl ⟨s, fault, hs, hd, rfl⟩)

theorem OfDepth.ofValue {r : Refusal} (h : r.OfDepth D) : r.OfValue D := Or.inr (Or.inr h)

end Refusal

theorem WellFormed.mono {levels' : Nat} (h : WellFormed D levels s) (hl : levels ≤ levels') :
    WellFormed D levels' s := by
  induction h generalizing levels' with
  | scalar h => exact .scalar h
  | text h hs => exact .text h hs
  | octets h => exact .octets h
  | extension hd h kind => exact .extension (fun hz ↦ hd (by omega)) h kind
  | sequence hd h hi ih =>
    exact .sequence (fun hz ↦ hd (by omega)) h fun i hm ↦ ih i hm (Nat.sub_le_sub_right hl 1)
  | mapping hd h hk hv ihk ihv =>
    exact .mapping (fun hz ↦ hd (by omega)) h (fun e hm ↦ ihk e hm (Nat.sub_le_sub_right hl 1))
      fun e hm ↦ ihv e hm (Nat.sub_le_sub_right hl 1)

theorem WellFormed.layout (h : WellFormed D levels s) :
    ∃ lead head rest, s = lead ++ rest ∧ Begins lead head ∧ ∀ c, head = .scalar c → rest = [] := by
  cases h with
  | scalar h => exact ⟨_, _, [], (List.append_nil _).symm, h, fun _ _ ↦ rfl⟩
  | text h | octets h | extension _ h | sequence _ h | mapping _ h =>
    exact ⟨_, _, _, rfl, h, nofun⟩

namespace Scan

variable {m : Scan α} {f : α → Scan β}

/-- What a scan says of octets that it takes to their end. -/
def outcome (m : Scan α) (s : Octets) : Except DecodeError α := (m.run s).map Prod.fst

/-- The octets are taken to their end, or they are refused for a reason that satisfies `R`. -/
def Resolves (R : Refusal → Prop) (m : Scan α) (s : Octets) : Prop :=
  (∃ a, m.run s = .ok (a, [])) ∨ ∃ r, R r ∧ m.run s = .error (.refused r)

theorem resolves_done (a : α) : (Scan.done a).Resolves R [] := .inl ⟨a, rfl⟩

theorem resolves_refuse {r : Refusal} (hr : R r) (s : Octets) :
    (Scan.refuse r : Scan α).Resolves R s :=
  .inr ⟨r, hr, rfl⟩

theorem resolves_complain (c : Complaint) (s : Octets) :
    (complain c : Scan α).Resolves (·.OfValue D) s :=
  resolves_refuse (Refusal.content_ofValue c) s

theorem resolves_marker {k : Marker} (hk : k ≠ .reserved) (s : Octets) :
    (Scan.refuse (.marker k) : Scan α).Resolves (·.OfValue D) s :=
  resolves_refuse (Refusal.OfContent.ofValue (r := .marker k) hk) s

theorem resolves_length (n : Nat) (s : Octets) :
    (Scan.refuse (.length n) : Scan α).Resolves (·.OfValue D) s :=
  resolves_refuse (Refusal.OfContent.ofValue (r := .length n) trivial) s

theorem resolves_ofExcept (x : Except Complaint α) : (ofExcept x).Resolves (·.OfValue D) [] := by
  cases x with
  | error c => exact resolves_complain c []
  | ok a => exact resolves_done a

theorem Resolves.mono {R' : Refusal → Prop} (h : m.Resolves R s) (hR : ∀ r, R r → R' r) :
    m.Resolves R' s := by
  rcases h with h | ⟨r, hr, he⟩
  · exact .inl h
  · exact .inr ⟨r, hR r hr, he⟩

theorem Resolves.of_run {m' : Scan α} {s' : Octets} (h : m.Resolves R s)
    (he : m'.run s' = m.run s) : m'.Resolves R s' := by
  unfold Resolves
  rwa [he]

theorem Resolves.run_append (h : m.Resolves R s) (u : Octets) :
    m.run (s ++ u) = (m.outcome s).map fun a ↦ (a, u) := by
  rcases h with ⟨a, ha⟩ | ⟨r, -, he⟩
  · rw [outcome, ha]
    exact Scan.run_append ha u
  · rw [outcome, he]
    exact run_append_refused he u

theorem run_bind_error {e : DecodeError} (h : m.run s = .error e) :
    (m.bind f).run s = .error e := by
  rw [run_bind, h]
  rfl

theorem Resolves.bind (hm : m.Resolves R s) (hf : ∀ a, (f a).Resolves R u) :
    (m.bind f).Resolves R (s ++ u) := by
  rcases hm with ⟨a, ha⟩ | ⟨r, hr, he⟩
  · exact (hf a).of_run (run_bind_ok (Scan.run_append ha u))
  · exact .inr ⟨r, hr, run_bind_error (run_append_refused he u)⟩

theorem Resolves.bind_nil (hm : m.Resolves R s) (hf : ∀ a, (f a).Resolves R []) :
    (m.bind f).Resolves R s := by
  have h := hm.bind hf
  rwa [List.append_nil] at h

theorem Resolves.outcome_bind (hm : m.Resolves R s) (f : α → Scan β) (u : Octets) :
    (m.bind f).outcome (s ++ u) = (m.outcome s).bind fun a ↦ (f a).outcome u := by
  rw [outcome, run_bind, hm.run_append]
  cases m.outcome s with
  | error e => rfl
  | ok a => rfl

theorem Resolves.outcome_bind_nil (hm : m.Resolves R s) (f : α → Scan β) :
    (m.bind f).outcome s = (m.outcome s).bind fun a ↦ (f a).outcome [] := by
  have h := hm.outcome_bind f []
  rwa [List.append_nil] at h

theorem resolves_iterate {step : σ → Scan σ} {parts : List β} {write : β → Octets}
    (h : ∀ b ∈ parts, ∀ state, (step state).Resolves R (write b)) (state : σ) :
    (iterate step parts.length state).Resolves R (parts.flatMap write) := by
  induction parts generalizing state with
  | nil => exact resolves_done state
  | cons b parts ih =>
    obtain ⟨hb, hparts⟩ := List.forall_mem_cons.1 h
    exact (hb state).bind fun state' ↦ ih hparts state'

theorem outcome_iterate {step : σ → Scan σ} {parts : List β} {write : β → Octets}
    {turn : σ → β → Except DecodeError σ}
    (h : ∀ b ∈ parts, ∀ state, (step state).Resolves R (write b))
    (ho : ∀ b ∈ parts, ∀ state, (step state).outcome (write b) = turn state b) (state : σ) :
    (iterate step parts.length state).outcome (parts.flatMap write) = parts.foldlM turn state := by
  induction parts generalizing state with
  | nil => rfl
  | cons b parts ih =>
    obtain ⟨hb, hparts⟩ := List.forall_mem_cons.1 h
    obtain ⟨hob, hoparts⟩ := List.forall_mem_cons.1 ho
    rw [List.length_cons, iterate, List.flatMap_cons, (hb state).outcome_bind, List.foldlM_cons,
      hob state]
    exact congrArg _ (funext fun state' ↦ ih hparts hoparts state')

theorem run_content_all (s : Octets) : (content s.length).run s = .ok (s, []) := by
  have h := run_content s []
  rwa [List.append_nil] at h

theorem resolves_content (s : Octets) : (content s.length).Resolves R s :=
  .inl ⟨s, run_content_all s⟩

end Scan

theorem Form.Spells.outcome {f : Form α} {a : α} (h : f.Spells levels s a) :
    (f.value levels).outcome s = .ok a := by
  have ha := h []
  rw [List.append_nil] at ha
  rw [Scan.outcome, ha]
  rfl

theorem Begins.resolves {next : Head → Scan α} {head : Head} (hb : Begins s head)
    (hn : (next head).Resolves R u) : (Scan.head.bind next).Resolves R (s ++ u) :=
  hn.of_run (Scan.run_bind_ok (hb u))

def Head.pass : Nat → Head → Scan Unit
  | 0, h => if h.isContainer then .refuse .depth else h.skip (.done ())
  | levels + 1, h => h.skip (Wire.skip levels)

theorem skip_eq (levels : Nat) : skip levels = Scan.head.bind (Head.pass levels) := by
  cases levels with
  | zero => exact (Scan.bind_assoc _ _ _).symm
  | succ levels => exact (Scan.bind_assoc Scan.marker Marker.head fun h ↦ h.skip (skip levels)).symm

theorem Head.pass_leaf {h : Head} (hc : h.isContainer = false) (levels : Nat) :
    pass levels h = h.skip (.done ()) := by
  cases h with
  | scalar | text | octets => cases levels <;> rfl
  | sequence | mapping | extension => nomatch hc

theorem Head.resolves_pass {h : Head} (hc : h.isContainer = true) (hl : levels = 0 → D.deep)
    (hn : (h.skip (Wire.skip (levels - 1))).Resolves (·.OfDepth D) u) :
    (pass levels h).Resolves (·.OfDepth D) u := by
  cases levels with
  | zero =>
    rw [pass, if_pos hc]
    exact Scan.resolves_refuse ⟨hl rfl, rfl⟩ u
  | succ levels => exact hn

theorem WellFormed.resolves_skip (h : WellFormed D levels s) :
    (skip levels).Resolves (·.OfDepth D) s := by
  have content (s : Octets) :
      ((Scan.content s.length).bind fun _ ↦ .done ()).Resolves (·.OfDepth D) s :=
    (Scan.resolves_content s).bind_nil fun _ ↦ Scan.resolves_done ()
  -- Skipping reads exactly one value or stops at the nesting limit: no other refusal is in its way.
  induction h with
  | @scalar levels s c h =>
    have hs : (Scan.head.bind (Head.pass levels)).Resolves (·.OfDepth D) (s ++ []) := by
      refine h.resolves ?_
      rw [Head.pass_leaf rfl]
      exact Scan.resolves_done ()
    rwa [List.append_nil, ← skip_eq] at hs
  | text h | octets h =>
    rw [skip_eq]
    refine h.resolves ?_
    rw [Head.pass_leaf rfl]
    exact content _
  | @extension levels lead s hl h kind =>
    rw [skip_eq]
    refine h.resolves (Head.resolves_pass rfl hl ?_)
    have hkind : (Scan.number 1).Resolves (·.OfDepth D) [kind] := .inl ⟨_, rfl⟩
    exact hkind.bind fun _ ↦ content s
  | @sequence levels lead items hl h hi ih =>
    rw [skip_eq, ← List.flatMap_id]
    exact h.resolves (Head.resolves_pass rfl hl (Scan.resolves_iterate (fun i hm _ ↦ ih i hm) ()))
  | mapping hl h hk hv ihk ihv =>
    rw [skip_eq]
    refine h.resolves (Head.resolves_pass rfl hl (Scan.resolves_iterate (fun e he _ ↦ ?_) ()))
    exact (ihk e he).bind fun _ ↦ ihv e he

theorem WellFormed.outcome_skip (h : WellFormed D levels s) (hd : ¬D.deep) :
    (skip levels).outcome s = .ok () := by
  rcases h.resolves_skip with ⟨a, ha⟩ | ⟨r, hr, -⟩
  · rw [Scan.outcome, ha]
    rfl
  · exact absurd hr.1 hd

/-- What stands behind a token of a well-formed value. -/
inductive Token.Heads (D : Dialect) (levels : Nat) : Token → Octets → Prop
  | scalar (c : Scalar) : Heads D levels (.scalar c) []
  | text (chars : String) : Heads D levels (.text chars) []
  | badText {s : Octets} {fault : Utf8.Fault} (hs : D.Text s) (h : Utf8.decode s = .error fault) :
      Heads D levels (.badText s fault) []
  | octets (s : Octets) : Heads D levels (.octets s) []
  | extension (length : Nat) (s : Octets) : Heads D levels (.extension length) s
  | sequence {items : List Octets} (hi : ∀ i ∈ items, WellFormed D (levels - 1) i) :
      Heads D levels (.sequence items.length) items.flatten
  | mapping {entries : List (Octets × Octets)} (hk : ∀ e ∈ entries, WellFormed D (levels - 1) e.1)
      (hv : ∀ e ∈ entries, WellFormed D (levels - 1) e.2) :
      Heads D levels (.mapping entries.length) (entries.flatMap fun e ↦ e.1 ++ e.2)

theorem resolves_descend {next : Token → Scan α} {tok : Token} {rest : Octets}
    (hl : levels = 0 → D.deep) (hn : (next tok).Resolves (·.OfValue D) rest) :
    ((descend levels tok).bind next).Resolves (·.OfValue D) rest := by
  unfold descend
  split
  · next hz => exact Scan.resolves_refuse (Refusal.OfDepth.ofValue ⟨hl hz, rfl⟩) rest
  · exact hn

theorem resolves_ofText {next : Token → Scan α} (hs : D.Text s)
    (hn : ∀ tok, tok.Heads D levels [] → (next tok).Resolves (·.OfValue D) u) :
    (next (.ofText s)).Resolves (·.OfValue D) u := by
  unfold Token.ofText
  split
  · exact hn _ (.text _)
  · next hd => exact hn _ (.badText hs hd)

theorem WellFormed.resolves_token_append (h : WellFormed D levels s) {next : Token → Scan α}
    (hn : ∀ tok rest, tok.Heads D levels rest → (next tok).Resolves (·.OfValue D) (rest ++ u)) :
    (Scan.marker.bind fun m ↦ (m.token levels).bind next).Resolves (·.OfValue D) (s ++ u) := by
  rw [Scan.marker_token]
  cases h with
  | scalar h => exact h.resolves (hn _ _ (.scalar _))
  | @text _ lead s h hs =>
    rw [List.append_assoc]
    refine h.resolves ((resolves_ofText hs fun tok ht ↦ hn tok [] ht).of_run ?_)
    rw [Head.token, Scan.bind_assoc, Scan.run_bind_ok (Scan.run_content s u)]
    rfl
  | @octets _ lead s h =>
    rw [List.append_assoc]
    refine h.resolves ((hn _ _ (.octets s)).of_run ?_)
    rw [Head.token, Scan.bind_assoc, Scan.run_bind_ok (Scan.run_content s u)]
    rfl
  | extension hl h kind =>
    rw [List.append_assoc]
    exact h.resolves (resolves_descend hl (hn _ _ (.extension _ _)))
  | sequence hl h hi =>
    rw [List.append_assoc]
    exact h.resolves (resolves_descend hl (hn _ _ (.sequence hi)))
  | mapping hl h hk hv =>
    rw [List.append_assoc]
    exact h.resolves (resolves_descend hl (hn _ _ (.mapping hk hv)))

theorem WellFormed.resolves_token (h : WellFormed D levels s) {next : Token → Scan α}
    (hn : ∀ tok rest, tok.Heads D levels rest → (next tok).Resolves (·.OfValue D) rest) :
    (Scan.marker.bind fun m ↦ (m.token levels).bind next).Resolves (·.OfValue D) s := by
  have hr := h.resolves_token_append (u := []) fun tok rest ht ↦ by
    rw [List.append_nil]
    exact hn tok rest ht
  rwa [List.append_nil] at hr

theorem WellFormed.first (h : WellFormed D levels s) :
    (∃ b, s = [b] ∧ Marker.ofOctet b = .null) ∨
      ∃ b t, s = b :: t ∧ Marker.ofOctet b ≠ .null ∧ Marker.ofOctet b ≠ .reserved := by
  obtain ⟨lead, head, rest, rfl, hb, hrest⟩ := h.layout
  obtain ⟨b, t, rfl, hr⟩ := hb.cons
  by_cases hm : Marker.ofOctet b = .null
  · have hu := hr []
    rw [hm] at hu
    obtain ⟨rfl, ht⟩ := ok_pair_inj hu
    obtain rfl := hrest _ rfl
    exact .inl ⟨b, by rw [List.append_nil, ← List.append_nil t, ht], hm⟩
  · refine .inr ⟨b, t ++ rest, rfl, hm, fun he ↦ ?_⟩
    have hu := hr []
    rw [he] at hu
    nomatch hu

end EntityWire.Wire
