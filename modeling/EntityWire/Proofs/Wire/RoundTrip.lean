import EntityWire.Proofs.Wire.Head
import EntityWire.Wire.Choice

namespace EntityWire.Wire

theorem Begins.cons {s : Octets} {h : Head} (hs : Begins s h) :
    ∃ b r, s = b :: r ∧ ∀ t, (Marker.ofOctet b).head.run (r ++ t) = .ok (h, t) := by
  cases s with
  | nil => nomatch hs []
  | cons b r => exact ⟨b, r, rfl, fun t ↦ (Scan.run_head_cons b (r ++ t)) ▸ hs t⟩

/-- Octets that start with another marker than that of the unit. -/
def Solid (s : Octets) : Prop := ∃ b r, s = b :: r ∧ Marker.ofOctet b ≠ .null

theorem Begins.solid {s : Octets} {h : Head} (hs : Begins s h) (hh : h ≠ .scalar .unit)
    (t : Octets) : Solid (s ++ t) := by
  obtain ⟨b, r, rfl, hb⟩ := hs.cons
  refine ⟨b, r ++ t, rfl, fun hm ↦ hh ?_⟩
  have hr := hb []
  rw [hm] at hr
  exact (ok_pair_inj hr).1.symm

theorem scalar_of_head {m : Marker} {c : Scalar} {s t : Octets}
    (h : m.head.run s = .ok (.scalar c, t)) : m.scalar.run s = .ok (c, t) := by
  have sure : ∀ {x : Scan Scalar},
      (x.bind fun c ↦ .done (Head.scalar c)).run s = .ok (.scalar c, t) → x.run s = .ok (c, t) := by
    intro x hx
    obtain ⟨d, u, hd, hu⟩ := Scan.of_run_bind hx
    obtain ⟨hc, rfl⟩ := ok_pair_inj hu
    exact Head.scalar.inj hc ▸ hd
  have never : ∀ {width : Nat} {make : Nat → Head}, (∀ n, make n ≠ .scalar c) →
      ((Scan.number width).bind fun n ↦ .done (make n)).run s ≠ .ok (.scalar c, t) := by
    intro width make hn hx
    obtain ⟨n, u, -, hu⟩ := Scan.of_run_bind hx
    exact hn n (ok_pair_inj hu).1
  cases m with
  | fixStr n | fixArray n | fixMap n | fixExt n => nomatch h
  | str | bin | array | map | ext => exact absurd h (never fun _ hn ↦ nomatch hn)
  | _ => exact sure h

theorem Scan.marker_token {α : Type} (levels : Nat) (next : Token → Scan α) :
    (marker.bind fun m ↦ (m.token levels).bind next) =
      head.bind fun h ↦ (h.token levels).bind next := by
  rw [head, bind_assoc]
  congr 1
  funext m
  rw [Marker.token, bind_assoc]

theorem Begins.run_token {α : Type} {s : Octets} {h : Head} (hs : Begins s h) (levels : Nat)
    (next : Token → Scan α) (t : Octets) :
    (Scan.marker.bind fun m ↦ (m.token levels).bind next).run (s ++ t) =
      ((h.token levels).bind next).run t := by
  rw [Scan.marker_token, Scan.run_bind_ok (hs t)]

namespace Form

variable {α β : Type} {f : Form α} {levels : Nat}

/-- A value is read back from what is written of it, whatever comes behind. -/
def Returns (f : Form α) (levels : Nat) (a : α) : Prop :=
  ∀ t, (f.value levels).run (f.write a ++ t) = .ok (a, t)

/-- Octets that are read as a value, whatever comes behind; they need not be those that are written
of it. -/
def Spells (f : Form α) (levels : Nat) (s : Octets) (a : α) : Prop :=
  ∀ t, (f.value levels).run (s ++ t) = .ok (a, t)

theorem Returns.spells {a : α} (h : f.Returns levels a) : f.Spells levels (f.write a) a := h

theorem Spells.decode_append {s : Octets} {a : α} (h : f.Spells levelLimit s a) (t : Octets) :
    f.decode (s ++ t) = .ok a := by
  rw [Form.decode, h t]
  rfl

theorem run_value_cons (f : Form α) (levels : Nat) (b : UInt8) (s : Octets) :
    (f.value levels).run (b :: s) = (f.read levels (Marker.ofOctet b)).run s :=
  Scan.run_bind_ok (Scan.run_marker b s)

theorem Returns.decode {a : α} (h : f.Returns levelLimit a) : f.decode (f.write a) = .ok a := by
  have ha := h []
  rw [List.append_nil] at ha
  rw [Form.decode, ha]
  rfl

theorem Returns.write_injective {a b : α} (ha : f.Returns levels a) (hb : f.Returns levels b)
    (h : f.write a = f.write b) : a = b := by
  have hr := ha []
  rw [h, hb []] at hr
  exact (ok_pair_inj hr).1.symm

theorem Returns.write_ne_nil {a : α} (ha : f.Returns levels a) : f.write a ≠ [] := by
  intro hw
  have hr := ha []
  rw [hw] at hr
  nomatch hr

theorem value_ofScalar {accept : Scalar → Except Complaint α} {write : α → Octets} {s : Octets}
    {c : Scalar} (h : Begins s (.scalar c)) (t : Octets) :
    ((ofScalar accept write).value levels).run (s ++ t) = (Scan.ofExcept (accept c)).run t := by
  obtain ⟨b, r, rfl, hb⟩ := h.cons
  rw [List.cons_append, run_value_cons]
  exact Scan.run_bind_ok (scalar_of_head (hb t))

theorem returns_ofScalar {accept : Scalar → Except Complaint α} {write : α → Octets} {a : α}
    {c : Scalar} (h : Begins (write a) (.scalar c)) (ha : accept c = .ok a) :
    (ofScalar accept write).Returns levels a := by
  intro t
  exact (value_ofScalar h t).trans (by rw [ha]; rfl)

theorem returns_bool (b : Bool) : bool.Returns levels b := returns_ofScalar (begins_bool b) rfl

theorem returns_word (n : UInt64) : word.Returns levels n := by
  refine returns_ofScalar (begins_unsigned (UInt64.toNat_lt n)) ?_
  rw [UInt64.ofNat_toNat]
  exact (if_pos (UInt64.toNat_lt n)).trans (congrArg Except.ok (UInt64.ofNat_toNat))

theorem returns_single (x : Binary32) : single.Returns levels x :=
  returns_ofScalar (begins_single x) rfl

theorem returns_double (x : Binary64) : double.Returns levels x :=
  returns_ofScalar (begins_double x) rfl

theorem run_text (s : String) (t : Octets) (next : Token → Scan α) :
    (((Head.text (Utf8.encode s).length).token levels).bind next).run (Utf8.encode s ++ t) =
      (next (.text s)).run t := by
  have ht : Token.ofText (Utf8.encode s) = .text s := by rw [Token.ofText, Utf8.decode_encode]
  rw [Head.token, Scan.bind_assoc, Scan.run_bind_ok (Scan.run_content _ t), ht]
  rfl

theorem returns_text {s : String} (h : (Utf8.encode s).length < 0x100000000) :
    text.Returns levels s := by
  intro t
  have hw : text.write s ++ t = textHead (Utf8.encode s).length ++ (Utf8.encode s ++ t) :=
    writeText_append s t
  rw [hw, value, text, (begins_textHead h).run_token, run_text]
  rfl

theorem Spells.via {g : Form β} {s : Octets} {b : β} (h : g.Spells levels s b) (make : β → α)
    (back : α → β) : (g.via make back).Spells levels s (make b) := by
  intro t
  have hv : (g.via make back).value levels = (g.value levels).bind fun b ↦ .done (make b) :=
    (Scan.bind_assoc _ _ _).symm
  rw [hv]
  exact Scan.run_bind_ok (h t)

theorem returns_via {g : Form β} {make : β → α} {back : α → β} {a : α}
    (h : g.Returns levels (back a)) (ha : make (back a) = a) :
    (g.via make back).Returns levels a := by
  intro t
  have hv := h.spells.via make back t
  rwa [ha] at hv

theorem returns_checked {g : Form β} {accept : β → Except Complaint α} {back : α → β} {a : α}
    (h : g.Returns levels (back a)) (ha : accept (back a) = .ok a) :
    (g.checked accept back).Returns levels a := by
  intro t
  have hv : (g.checked accept back).value levels =
      (g.value levels).bind fun b ↦ Scan.ofExcept (accept b) := (Scan.bind_assoc _ _ _).symm
  rw [hv]
  exact (Scan.run_bind_ok (h t)).trans (by rw [ha]; rfl)

theorem returns_wrapped {name : String} {g : Form β} {make : β → α} {back : α → β} {a : α}
    (h : g.Returns levels (back a)) (ha : make (back a) = a) :
    (g.wrapped name make back).Returns levels a :=
  returns_via h ha

theorem returns_option_some {a : α} (h : f.Returns levels a) (hs : Solid (f.write a)) :
    f.option.Returns levels (some a) := by
  intro t
  obtain ⟨b, r, hb, hn⟩ := hs
  have ha : (f.read levels (Marker.ofOctet b)).run (r ++ t) = .ok (a, t) := by
    have ha := h t
    rwa [hb, List.cons_append, run_value_cons] at ha
  have hw : f.option.write (some a) = b :: r := hb
  have hr : f.option.read levels (Marker.ofOctet b) =
      (f.read levels (Marker.ofOctet b)).bind fun a ↦ .done (some a) := if_neg hn
  rw [hw, List.cons_append, run_value_cons, hr, Scan.run_bind_ok ha]
  rfl

theorem value_choice {name : String} {variants : List (Variant α)} {write : α → Octets}
    {s : Octets} {h : Head} (hs : Begins s h) (hh : ∀ n, h ≠ .mapping n) (t : Octets) :
    ((choice name variants write).value levels).run (s ++ t) =
      ((h.token levels).bind fun t ↦ (Variant.named variants t).bind fun v ↦
        match v.alone with
        | some a => .done a
        | none => .complain (.wrongKind .bareVariant "newtype variant")).run t := by
  obtain ⟨b, r, rfl, hb⟩ := hs.cons
  rw [List.cons_append, run_value_cons]
  unfold choice
  have hm := hb t
  cases hb' : Marker.ofOctet b with
  | fixMap n =>
    rw [hb'] at hm
    exact absurd (ok_pair_inj hm).1.symm (hh n)
  | map width =>
    rw [hb'] at hm
    obtain ⟨n, u, -, hu⟩ := Scan.of_run_bind hm
    exact absurd (ok_pair_inj hu).1.symm (hh n)
  | _ =>
    rw [hb'] at hm
    dsimp only
    rw [Marker.token, Scan.bind_assoc]
    exact Scan.run_bind_ok hm

theorem value_choice_mapping {name : String} {variants : List (Variant α)} {write : α → Octets}
    {s : Octets} {n : Nat} (hs : Begins s (.mapping n)) (t : Octets) :
    ((choice name variants write).value levels).run (s ++ t) =
      (if n = 1 then
        Scan.marker.bind fun m ↦ (m.token levels).bind fun t ↦
          (Variant.named variants t).bind fun v ↦ v.content levels
      else .refuse (.length n)).run t := by
  obtain ⟨b, r, rfl, hb⟩ := hs.cons
  rw [List.cons_append, run_value_cons]
  unfold choice
  have hm := hb t
  cases hb' : Marker.ofOctet b with
  | fixMap n' =>
    rw [hb'] at hm
    obtain ⟨hn, hr⟩ := ok_pair_inj hm
    obtain rfl := Head.mapping.inj hn
    rw [hr]
  | map width =>
    rw [hb'] at hm
    obtain ⟨n', u, hr, hu⟩ := Scan.of_run_bind hm
    obtain ⟨hn, rfl⟩ := ok_pair_inj hu
    obtain rfl := Head.mapping.inj hn
    exact Scan.run_bind_ok hr
  | fixStr | fixArray | fixExt =>
    rw [hb'] at hm
    nomatch (ok_pair_inj hm).1
  | _ =>
    rw [hb'] at hm
    obtain ⟨x, u, -, hu⟩ := Scan.of_run_bind hm
    nomatch (ok_pair_inj hu).1

theorem Spells.choice {f : Form β} {name key : String} {variants : List (Variant α)}
    {write : α → Octets} {make : β → α} {s : Octets} {b : β} (h : f.Spells levels s b)
    (hl : (Utf8.encode key).length < 0x100000000)
    (hv : variants.find? (·.name = key) = some (.holding key f make)) :
    (Form.choice name variants write).Spells levels (writeMapping [(writeText key, s)])
      (make b) := by
  intro t
  have hw : writeMapping [(writeText key, s)] ++ t =
      mappingHead 1 ++ (textHead (Utf8.encode key).length ++ (Utf8.encode key ++ (s ++ t))) := by
    simp [writeMapping, writeText]
  have hn : Variant.named variants (.text key) = .done (.holding key f make) := by
    rw [Variant.named, hv]
  rw [hw, value_choice_mapping (begins_mappingHead (by decide)), if_pos rfl,
    (begins_textHead hl).run_token, run_text, hn]
  exact Scan.run_bind_ok (h t)

theorem returns_names {name : String} {all : List α} {nameOf : α → String} {a : α}
    (hl : (Utf8.encode (nameOf a)).length < 0x100000000)
    (ha : all.find? (nameOf · = nameOf a) = some a) :
    (names name all nameOf).Returns levels a := by
  intro t
  have hw : (names name all nameOf).write a ++ t =
      textHead (Utf8.encode (nameOf a)).length ++ (Utf8.encode (nameOf a) ++ t) :=
    writeText_append _ t
  have hv : (all.map fun a ↦ Variant.bare (nameOf a) a).find? (·.name = nameOf a) =
      some (.bare (nameOf a) a) := by
    rw [List.find?_map]
    exact congrArg (Option.map _) ha
  rw [hw, names, value_choice (begins_textHead hl) (fun n hn ↦ nomatch hn), run_text,
    Variant.named, hv]
  rfl

end Form

end EntityWire.Wire
