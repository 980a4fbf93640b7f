import EntityWire.Json.Pack
import EntityWire.Proofs.Json.Reader
import EntityWire.Proofs.Wire.Gives

namespace EntityWire

namespace Wire

def Scalar.Tame : Scalar → Prop
  | .double x => x.isNaN = false
  | .single _ => False
  | _ => True

/-- Octets that are tame scalars, texts, and heads of sequences and mappings, one behind another. -/
inductive Tame : Octets → Prop
  | nil : Tame []
  | scalar {s t : Octets} {c : Scalar} (h : Scan.head.run s = .ok (.scalar c, t)) (hc : c.Tame)
      (ht : Tame t) : Tame s
  | text {s t c u : Octets} {n : Nat} (h : Scan.head.run s = .ok (.text n, t))
      (hc : (Scan.content n).run t = .ok (c, u)) (hu : Tame u) : Tame s
  | sequence {s t : Octets} {n : Nat} (h : Scan.head.run s = .ok (.sequence n, t))
      (ht : Tame t) : Tame s
  | mapping {s t : Octets} {n : Nat} (h : Scan.head.run s = .ok (.mapping n, t))
      (ht : Tame t) : Tame s

def Head.Before : Head → Octets → Prop
  | .scalar c, t => c.Tame ∧ Wire.Tame t
  | .text n, t => ∃ c u, (Scan.content n).run t = .ok (c, u) ∧ Wire.Tame u
  | .sequence _, t | .mapping _, t => Wire.Tame t
  | .octets _, _ | .extension _, _ => False

theorem Tame.before {s t : Octets} {h : Head} (hs : Tame s) (hr : Scan.head.run s = .ok (h, t)) :
    h.Before t := by
  have same : ∀ {h' t'}, Scan.head.run s = .ok (h', t') → h'.Before t' → h.Before t := by
    intro h' t' hr' hb
    obtain ⟨rfl, rfl⟩ := ok_pair_inj (hr.symm.trans hr')
    exact hb
  cases hs with
  | nil => nomatch hr
  | scalar h hc ht => exact same h ⟨hc, ht⟩
  | text h hc hu => exact same h ⟨_, _, hc, hu⟩
  | sequence h ht => exact same h ht
  | mapping h ht => exact same h ht

theorem Head.Before.skip {inner : Scan Unit} (hi : inner.Gives Tame fun _ ↦ True) {h : Head}
    {t u : Octets} (hb : h.Before t) (hr : (h.skip inner).run t = .ok ((), u)) : Tame u := by
  cases h with
  | scalar c => exact (ok_pair_inj hr).2 ▸ hb.2
  | text n =>
    obtain ⟨c, v, hc, hv⟩ := hb
    obtain rfl := (ok_pair_inj ((Scan.run_bind_ok hc).symm.trans hr)).2
    exact hv
  | sequence n => exact (Scan.gives_iterate (fun _ _ ↦ hi) n trivial hb hr).1
  | mapping n =>
    exact (Scan.gives_iterate (fun _ _ ↦ hi.bind fun _ _ ↦ hi) n trivial hb hr).1
  | octets n | extension n => nomatch hb

theorem gives_skip_tame (levels : Nat) : (skip levels).Gives Tame fun _ ↦ True := by
  induction levels with
  | zero =>
    intro s u a hs hr
    rw [skip, ← Scan.bind_assoc] at hr
    obtain ⟨h, t, hh, hr⟩ := Scan.of_run_bind hr
    split at hr
    · nomatch hr
    · exact ⟨(hs.before hh).skip (Scan.gives_done trivial) hr, trivial⟩
  | succ levels ih =>
    intro s u a hs hr
    rw [skip, ← Scan.bind_assoc] at hr
    obtain ⟨h, t, hh, hr⟩ := Scan.of_run_bind hr
    exact ⟨(hs.before hh).skip ih hr, trivial⟩

def tame : Source where
  Left := Tame
  Fits
    | .scalar c => c.Tame
    | _ => True
  token {levels b s t tok} hs hr := by
    obtain ⟨h, u, hh, hr⟩ := Scan.of_run_bind hr
    have hb := hs.before ((Scan.run_head_cons b s).trans hh)
    cases h with
    | scalar c =>
      obtain ⟨rfl, rfl⟩ := ok_pair_inj hr
      exact ⟨hb.2, hb.1⟩
    | text n =>
      obtain ⟨c, v, hc, hv⟩ := hb
      obtain ⟨rfl, rfl⟩ := ok_pair_inj ((Scan.run_bind_ok hc).symm.trans hr)
      refine ⟨hv, ?_⟩
      unfold Token.ofText
      cases Utf8.decode c <;> trivial
    | sequence n | mapping n =>
      simp only [Head.token, descend] at hr
      split at hr
      · nomatch hr
      · obtain ⟨rfl, rfl⟩ := ok_pair_inj hr
        exact ⟨hb, trivial⟩
    | octets n | extension n => nomatch hb
  skip hs hr := (gives_skip_tame _ hs hr).1

theorem Begins.tame_scalar {s t : Octets} {c : Scalar} (h : Begins s (.scalar c)) (hc : c.Tame)
    (ht : Tame t) : Tame (s ++ t) :=
  .scalar (h t) hc ht

theorem tame_text {s : String} {t : Octets} (h : (Utf8.encode s).length < 0x100000000)
    (ht : Tame t) : Tame (writeText s ++ t) := by
  rw [writeText_append]
  exact .text (begins_textHead h _) (Scan.run_content _ t) ht

end Wire

namespace Json

open Wire

/-- The lengths of texts and of containers that can be written. -/
def Short : Json → Prop
  | .text s => (Utf8.encode s).length < 0x100000000
  | .array items => items.length < 0x100000000
  | .object members => members.length < 0x100000000 ∧
      ∀ m ∈ members, (Utf8.encode m.1).length < 0x100000000
  | _ => True

theorem begins_signed (n : Int64) : ∃ c, c.Tame ∧ Begins (writeSigned n.toInt) (.scalar c) := by
  by_cases hz : 0 ≤ n.toInt
  · have hw : writeSigned n.toInt = writeUnsigned n.toInt.toNat := if_pos hz
    have hb : n.toInt.toNat < 0x10000000000000000 := by
      have := n.toInt_lt
      omega
    exact ⟨.unsigned _, trivial, hw ▸ begins_unsigned hb⟩
  · exact ⟨.signed _, trivial, begins_negative n.le_toInt (by omega)⟩

theorem tame_packItems {items : List Json} {t : Octets}
    (h : ∀ j ∈ items, ∀ t, Tame t → Tame (j.pack ++ t)) (ht : Tame t) :
    Tame (packItems items ++ t) := by
  induction items with
  | nil => exact ht
  | cons j rest ih =>
    rw [packItems, List.append_assoc]
    exact h j List.mem_cons_self _ (ih fun j' hj ↦ h j' (List.mem_cons_of_mem _ hj))

theorem tame_packMembers {members : List (String × Json)} {t : Octets}
    (hk : ∀ m ∈ members, (Utf8.encode m.1).length < 0x100000000)
    (h : ∀ m ∈ members, ∀ t, Tame t → Tame (m.2.pack ++ t)) (ht : Tame t) :
    Tame (packMembers members ++ t) := by
  induction members with
  | nil => exact ht
  | cons m rest ih =>
    obtain ⟨k, j⟩ := m
    rw [packMembers, List.append_assoc, List.append_assoc]
    refine tame_text (hk (k, j) List.mem_cons_self) (h (k, j) List.mem_cons_self _ ?_)
    exact ih (fun m hm ↦ hk m (List.mem_cons_of_mem _ hm))
      fun m hm ↦ h m (List.mem_cons_of_mem _ hm)

theorem tame_pack {j : Json} (hn : j.Numeric) (hs : Each Short j) {t : Octets} (ht : Tame t) :
    Tame (j.pack ++ t) := by
  induction hn generalizing t with
  | @intro j h _ ih =>
    obtain ⟨hl, hc⟩ := hs
    have ih' : ∀ c ∈ j.children, ∀ t, Tame t → Tame (c.pack ++ t) :=
      fun c hm t ht ↦ ih c hm (hc c hm) ht
    cases j with
    | null => exact begins_null.tame_scalar trivial ht
    | bool b => exact (begins_bool b).tame_scalar trivial ht
    | unsigned n => exact (begins_unsigned n.toNat_lt).tame_scalar trivial ht
    | signed n =>
      obtain ⟨c, hc, hb⟩ := begins_signed n
      exact hb.tame_scalar hc ht
    | float x => exact (begins_double x).tame_scalar h ht
    | text s => exact tame_text hl ht
    | array items =>
      rw [pack, List.append_assoc]
      exact .sequence (begins_sequenceHead hl _) (tame_packItems ih' ht)
    | object members =>
      rw [pack, List.append_assoc]
      refine .mapping (begins_mappingHead hl.1 _) (tame_packMembers hl.2 (fun m hm ↦ ?_) ht)
      exact ih' m.2 (List.mem_map_of_mem hm)

end Json

end EntityWire
