import EntityWire.Proofs.Wire.Gives

namespace EntityWire.Wire

theorem length_of_splitOctets {n : Nat} {s front rest : Octets}
    (h : splitOctets n s = some (front, rest)) : front.length = n := by
  induction n generalizing s front with
  | zero =>
    obtain ⟨rfl, rfl⟩ := Prod.mk.inj (Option.some.inj h)
    rfl
  | succ n ih =>
    cases s with
    | nil => nomatch h
    | cons b s =>
      obtain ⟨p, hp, he⟩ := Option.map_eq_some_iff.1 h
      obtain ⟨rfl, rfl⟩ := Prod.mk.inj he
      exact congrArg (· + 1) (ih hp)

theorem Scan.of_run_take {α : Type} {n : Nat} {short : Shortage} {next : Octets → Scan α}
    {s t : Octets} {a : α} (h : (take n short next).run s = .ok (a, t)) :
    ∃ front rest, front.length = n ∧ (next front).run rest = .ok (a, t) := by
  simp only [run] at h
  cases hs : splitOctets n s with
  | none =>
    rw [hs] at h
    cases h
  | some p =>
    rw [hs] at h
    exact ⟨p.1, p.2, length_of_splitOctets hs, h⟩

theorem foldl_lt (s : Octets) (acc : Nat) :
    s.foldl (fun n b ↦ 256 * n + b.toNat) acc < 256 ^ s.length * (acc + 1) := by
  induction s generalizing acc with
  | nil => simp
  | cons b s ih =>
    have hb : b.toNat < 256 := b.toNat_lt
    have hle : 256 ^ s.length * (256 * acc + b.toNat + 1) ≤ 256 ^ s.length * (256 * (acc + 1)) :=
      Nat.mul_le_mul_left _ (by omega)
    have hpow : 256 ^ s.length * (256 * (acc + 1)) = 256 ^ (s.length + 1) * (acc + 1) := by
      rw [Nat.pow_succ, Nat.mul_assoc]
    rw [List.foldl_cons, List.length_cons, ← hpow]
    exact Nat.lt_of_lt_of_le (ih _) hle

theorem lt_of_run_number {width n : Nat} {s t : Octets}
    (h : (Scan.number width).run s = .ok (n, t)) : n < 256 ^ width := by
  obtain ⟨front, rest, hl, hn⟩ := Scan.of_run_take h
  obtain ⟨rfl, -⟩ := ok_pair_inj hn
  simpa only [hl, Nat.zero_add, Nat.mul_one] using foldl_lt front 0

theorem length_of_run_content {n : Nat} {s c t : Octets}
    (h : (Scan.content n).run s = .ok (c, t)) : c.length = n := by
  obtain ⟨front, rest, hl, hn⟩ := Scan.of_run_take h
  obtain ⟨rfl, -⟩ := ok_pair_inj hn
  exact hl

def Marker.Narrow : Marker → Prop
  | .fixStr n => n < 0x100000000
  | .str width | .bin width => width ≤ 4
  | _ => True

def Head.Narrow : Head → Prop
  | .text n | .octets n => n < 0x100000000
  | _ => True

instance : DecidablePred Marker.Narrow
  | .fixStr n => inferInstanceAs (Decidable (n < 0x100000000))
  | .str width | .bin width => inferInstanceAs (Decidable (width ≤ 4))
  | .fixPos _ | .fixNeg _ | .fixMap _ | .fixArray _ | .null | .reserved | .bool _ | .ext _ | .single
  | .double | .uint _ | .int _ | .fixExt _ | .array _ | .map _ => inferInstanceAs (Decidable True)

theorem narrow_ofOctet (b : UInt8) : (Marker.ofOctet b).Narrow := by
  have h : ∀ n : Fin 256, (Marker.ofOctet (UInt8.ofNat n)).Narrow := by decide +kernel
  have hb := h ⟨b.toNat, b.toNat_lt⟩
  rwa [UInt8.ofNat_toNat] at hb

theorem of_run_number_bind {width : Nat} {make : Nat → Head} {s t : Octets} {h : Head}
    (hr : ((Scan.number width).bind fun n ↦ .done (make n)).run s = .ok (h, t)) :
    ∃ n < 256 ^ width, h = make n := by
  obtain ⟨n, u, hn, hd⟩ := Scan.of_run_bind hr
  exact ⟨n, lt_of_run_number hn, (ok_pair_inj hd).1.symm⟩

theorem narrow_of_head {m : Marker} (hm : m.Narrow) {s t : Octets} {h : Head}
    (hr : m.head.run s = .ok (h, t)) : h.Narrow := by
  have done : ∀ {g : Head}, (Scan.done g).run s = .ok (h, t) → h = g :=
    fun hd ↦ (ok_pair_inj hd).1.symm
  have four : ∀ {width n : Nat}, width ≤ 4 → n < 256 ^ width → n < 0x100000000 :=
    fun hw hn ↦ Nat.lt_of_lt_of_le hn (Nat.pow_le_pow_right (by omega) hw)
  cases m with
  | fixStr n => exact done hr ▸ hm
  | str width =>
    obtain ⟨n, hn, rfl⟩ := of_run_number_bind hr
    exact four hm hn
  | bin width =>
    obtain ⟨n, hn, rfl⟩ := of_run_number_bind hr
    exact four hm hn
  | fixArray | fixMap | fixExt => exact done hr ▸ trivial
  | array | map | ext =>
    obtain ⟨n, -, rfl⟩ := of_run_number_bind hr
    trivial
  | _ =>
    obtain ⟨c, u, -, hd⟩ := Scan.of_run_bind hr
    exact (ok_pair_inj hd).1 ▸ trivial

def anything : Source where
  Left _ := True
  Fits
    | .text s => (Utf8.encode s).length < 0x100000000
    | .octets s => s.length < 0x100000000
    | _ => True
  token {levels b s t tok} _ hr := by
    refine ⟨trivial, ?_⟩
    obtain ⟨h, u, hh, hr⟩ := Scan.of_run_bind hr
    have hn := narrow_of_head (narrow_ofOctet b) hh
    cases h with
    | scalar c => exact (ok_pair_inj hr).1 ▸ trivial
    | text n =>
      obtain ⟨c, v, hc, hd⟩ := Scan.of_run_bind hr
      obtain ⟨rfl, -⟩ := ok_pair_inj hd
      obtain rfl := length_of_run_content hc
      unfold Token.ofText
      cases hd : Utf8.decode c with
      | ok chars => exact (congrArg List.length (Utf8.encode_of_decode hd)).trans_lt hn
      | error fault => trivial
    | octets n =>
      obtain ⟨c, v, hc, hd⟩ := Scan.of_run_bind hr
      obtain ⟨rfl, -⟩ := ok_pair_inj hd
      obtain rfl := length_of_run_content hc
      exact hn
    | sequence n | mapping n | extension n =>
      simp only [Head.token, descend] at hr
      split at hr
      · nomatch hr
      · exact (ok_pair_inj hr).1 ▸ trivial
  skip _ _ := trivial

theorem gives_text_anything :
    Form.text.Gives anything fun s ↦ (Utf8.encode s).length < 0x100000000 :=
  Form.gives_text (fun _ hs ↦ hs) fun _ _ hs hd ↦
    (congrArg List.length (Utf8.encode_of_decode hd)).trans_lt hs

end EntityWire.Wire
