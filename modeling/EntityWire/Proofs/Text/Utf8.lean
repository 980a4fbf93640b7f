import EntityWire.Proofs.Answer
import EntityWire.Text.Utf8
import Mathlib

namespace EntityWire.Utf8

theorem toNat_ofNat_of_lt {n : Nat} (h : n < 256) : (UInt8.ofNat n).toNat = n := by
  rw [UInt8.toNat_ofNat', Nat.mod_eq_of_lt h]

theorem continues_iff {c : UInt8} : continues c = true ↔ 0x80 ≤ c.toNat ∧ c.toNat ≤ 0xbf := by
  simp only [continues, Bool.and_eq_true, decide_eq_true_eq]

theorem follows_iff {b c : UInt8} :
    follows b c = true ↔ 0x80 ≤ c.toNat ∧ c.toNat ≤ 0xbf ∧ (b.toNat = 0xe0 → 0xa0 ≤ c.toNat) ∧
      (b.toNat = 0xed → c.toNat ≤ 0x9f) ∧ (b.toNat = 0xf0 → 0x90 ≤ c.toNat) ∧
      (b.toNat = 0xf4 → c.toNat ≤ 0x8f) := by
  simp only [follows, second, Bool.and_eq_true]
  grind

theorem not_lt_of_toNat {a b : UInt8} (h : a.toNat ≤ b.toNat) : ¬b < a :=
  UInt8.not_lt.2 (UInt8.le_iff_toNat_le.2 h)

theorem pieces_one {b : UInt8} (t : Octets) (hb : b.toNat < 0x80) :
    pieces (b :: t) = .scalar (Char.ofNat b.toNat) 1 :: pieces t := by
  have h : b < 0x80 := UInt8.lt_iff_toNat_lt.2 hb
  rw [pieces.eq_def]
  simp only [if_pos h]

theorem pieces_two {b c : UInt8} (t : Octets) (hb : 0xc2 ≤ b.toNat) (hb' : b.toNat < 0xe0)
    (hc : continues c = true) :
    pieces (b :: c :: t) = .scalar (Char.ofNat (b.toNat % 32 * 64 + low c)) 2 :: pieces t := by
  have h₁ : ¬b < 0x80 := not_lt_of_toNat (Nat.le_trans (by decide) hb)
  have h₂ : ¬b < 0xc2 := not_lt_of_toNat hb
  have h₃ : b < 0xe0 := UInt8.lt_iff_toNat_lt.2 hb'
  rw [pieces.eq_def]
  simp only [if_neg h₁, if_neg h₂, if_pos h₃, if_pos hc]

theorem pieces_three {b c d : UInt8} (t : Octets) (hb : 0xe0 ≤ b.toNat) (hb' : b.toNat < 0xf0)
    (hc : follows b c = true) (hd : continues d = true) :
    pieces (b :: c :: d :: t) =
      .scalar (Char.ofNat ((b.toNat % 16 * 64 + low c) * 64 + low d)) 3 :: pieces t := by
  have h₁ : ¬b < 0x80 := not_lt_of_toNat (Nat.le_trans (by decide) hb)
  have h₂ : ¬b < 0xc2 := not_lt_of_toNat (Nat.le_trans (by decide) hb)
  have h₃ : ¬b < 0xe0 := not_lt_of_toNat hb
  have h₄ : b < 0xf0 := UInt8.lt_iff_toNat_lt.2 hb'
  rw [pieces.eq_def]
  simp only [if_neg h₁, if_neg h₂, if_neg h₃, if_pos h₄, hc, if_pos hd, Bool.not_true,
    Bool.false_eq_true, if_false]

theorem pieces_four {b c d e : UInt8} (t : Octets) (hb : 0xf0 ≤ b.toNat) (hb' : b.toNat < 0xf5)
    (hc : follows b c = true) (hd : continues d = true) (he : continues e = true) :
    pieces (b :: c :: d :: e :: t) =
      .scalar (Char.ofNat (((b.toNat % 8 * 64 + low c) * 64 + low d) * 64 + low e)) 4 ::
        pieces t := by
  have h₁ : ¬b < 0x80 := not_lt_of_toNat (Nat.le_trans (by decide) hb)
  have h₂ : ¬b < 0xc2 := not_lt_of_toNat (Nat.le_trans (by decide) hb)
  have h₃ : ¬b < 0xe0 := not_lt_of_toNat (Nat.le_trans (by decide) hb)
  have h₄ : ¬b < 0xf0 := not_lt_of_toNat hb
  have h₅ : b < 0xf5 := UInt8.lt_iff_toNat_lt.2 hb'
  rw [pieces.eq_def]
  simp only [if_neg h₁, if_neg h₂, if_neg h₃, if_neg h₄, if_pos h₅, hc, hd, if_pos he,
    Bool.not_true, Bool.false_eq_true, if_false]

theorem pieces_encodeChar (c : Char) (t : Octets) :
    pieces (String.utf8EncodeChar c ++ t) =
      .scalar c (String.utf8EncodeChar c).length :: pieces t := by
  have hv : c.val.toNat < 0xd800 ∨ 0xdfff < c.val.toNat ∧ c.val.toNat < 0x110000 := c.valid
  have hc : Char.ofNat c.val.toNat = c := Char.ofNat_toNat c
  unfold String.utf8EncodeChar
  generalize c.val.toNat = v at hv hc
  subst hc
  have tail (n : Nat) : (UInt8.ofNat (n % 64 + 128)).toNat = n % 64 + 128 :=
    toNat_ofNat_of_lt (by omega)
  have tail_continues (n : Nat) : continues (UInt8.ofNat (n % 64 + 128)) = true := by
    rw [continues_iff, tail]
    omega
  dsimp only
  -- One to four octets, by the size of the scalar; `lead` and `tail` say that each of them fits.
  split
  · have lead : (UInt8.ofNat v).toNat = v := toNat_ofNat_of_lt (by omega)
    rw [List.cons_append, pieces_one _ (by omega), lead]
    rfl
  split
  · have lead : (UInt8.ofNat (v / 64 % 32 + 192)).toNat = v / 64 % 32 + 192 :=
      toNat_ofNat_of_lt (by omega)
    have hn : (v / 64 % 32 + 192) % 32 * 64 + (v % 64 + 128) % 64 = v := by omega
    simp only [List.cons_append, List.nil_append]
    rw [pieces_two _ (by omega) (by omega) (tail_continues _), low, lead, tail, hn]
    rfl
  split
  · have lead : (UInt8.ofNat (v / 4096 % 16 + 224)).toNat = v / 4096 % 16 + 224 :=
      toNat_ofNat_of_lt (by omega)
    have hf : follows (UInt8.ofNat (v / 4096 % 16 + 224)) (UInt8.ofNat (v / 64 % 64 + 128)) =
        true := by
      rw [follows_iff, lead, tail]
      omega
    have hn : ((v / 4096 % 16 + 224) % 16 * 64 + (v / 64 % 64 + 128) % 64) * 64 +
        (v % 64 + 128) % 64 = v := by omega
    simp only [List.cons_append, List.nil_append]
    rw [pieces_three _ (by omega) (by omega) hf (tail_continues _), low, low, lead, tail, tail, hn]
    rfl
  · have lead : (UInt8.ofNat (v / 262144 % 8 + 240)).toNat = v / 262144 % 8 + 240 :=
      toNat_ofNat_of_lt (by omega)
    have hf : follows (UInt8.ofNat (v / 262144 % 8 + 240)) (UInt8.ofNat (v / 4096 % 64 + 128)) =
        true := by
      rw [follows_iff, lead, tail]
      omega
    have hn : (((v / 262144 % 8 + 240) % 8 * 64 + (v / 4096 % 64 + 128) % 64) * 64 +
        (v / 64 % 64 + 128) % 64) * 64 + (v % 64 + 128) % 64 = v := by omega
    simp only [List.cons_append, List.nil_append]
    rw [pieces_four _ (by omega) (by omega)
      hf (tail_continues _) (tail_continues _), low, low, low, lead, tail, tail, tail, hn]
    rfl

theorem scalars_pieces_encode (cs : List Char) (start : Nat) :
    scalars start (pieces (cs.flatMap String.utf8EncodeChar)) = .ok cs := by
  induction cs generalizing start with
  | nil => rfl
  | cons c cs ih =>
    rw [List.flatMap_cons, pieces_encodeChar, scalars, ih]
    rfl

@[simp]
theorem decode_encode (s : String) : decode (encode s) = .ok s := by
  rw [decode, encode, scalars_pieces_encode]
  exact congrArg Except.ok String.ofList_toList

theorem encode_append (s t : String) : encode (s ++ t) = encode s ++ encode t := by
  rw [encode, String.toList_append, List.flatMap_append]
  rfl

theorem encode_injective {s t : String} (h : encode s = encode t) : s = t := by
  have hd := decode_encode t
  rw [← h, decode_encode] at hd
  exact Except.ok.inj hd

theorem val_ofNat {n : Nat} (h : n < 0xd800 ∨ 0xdfff < n ∧ n < 0x110000) :
    (Char.ofNat n).val.toNat = n := by
  have hv : n.isValidChar := h
  unfold Char.ofNat
  rw [dif_pos hv]
  rfl

theorem ofNat_eq {n : Nat} {b : UInt8} (h : n = b.toNat) : UInt8.ofNat n = b := by
  rw [h, UInt8.ofNat_toNat]

theorem encodeChar_one {b : UInt8} (hb : b.toNat < 0x80) :
    String.utf8EncodeChar (Char.ofNat b.toNat) = [b] := by
  rw [String.utf8EncodeChar, val_ofNat (by omega), if_pos (by omega), ofNat_eq rfl]

theorem encodeChar_two {b c : UInt8} (hb : 0xc2 ≤ b.toNat) (hb' : b.toNat < 0xe0)
    (hc : continues c = true) :
    String.utf8EncodeChar (Char.ofNat (b.toNat % 32 * 64 + low c)) = [b, c] := by
  rw [continues_iff] at hc
  unfold low
  generalize hv : b.toNat % 32 * 64 + c.toNat % 64 = v
  have hlead : v / 64 % 32 + 192 = b.toNat := by omega
  have htail : v % 64 + 128 = c.toNat := by omega
  rw [String.utf8EncodeChar, val_ofNat (by omega), if_neg (by omega), if_pos (by omega),
    ofNat_eq hlead, ofNat_eq htail]

theorem encodeChar_three {b c d : UInt8} (hb : 0xe0 ≤ b.toNat) (hb' : b.toNat < 0xf0)
    (hc : follows b c = true) (hd : continues d = true) :
    String.utf8EncodeChar (Char.ofNat ((b.toNat % 16 * 64 + low c) * 64 + low d)) = [b, c, d] := by
  rw [follows_iff] at hc
  rw [continues_iff] at hd
  unfold low
  generalize hv : (b.toNat % 16 * 64 + c.toNat % 64) * 64 + d.toNat % 64 = v
  have hlead : v / 4096 % 16 + 224 = b.toNat := by omega
  have hsecond : v / 64 % 64 + 128 = c.toNat := by omega
  have htail : v % 64 + 128 = d.toNat := by omega
  rw [String.utf8EncodeChar, val_ofNat (by omega), if_neg (by omega), if_neg (by omega),
    if_pos (by omega), ofNat_eq hlead, ofNat_eq hsecond, ofNat_eq htail]

theorem encodeChar_four {b c d e : UInt8} (hb : 0xf0 ≤ b.toNat) (hb' : b.toNat < 0xf5)
    (hc : follows b c = true) (hd : continues d = true) (he : continues e = true) :
    String.utf8EncodeChar
      (Char.ofNat (((b.toNat % 8 * 64 + low c) * 64 + low d) * 64 + low e)) = [b, c, d, e] := by
  rw [follows_iff] at hc
  rw [continues_iff] at hd he
  unfold low
  generalize hv :
    ((b.toNat % 8 * 64 + c.toNat % 64) * 64 + d.toNat % 64) * 64 + e.toNat % 64 = v
  have hlead : v / 262144 % 8 + 240 = b.toNat := by omega
  have hsecond : v / 4096 % 64 + 128 = c.toNat := by omega
  have hthird : v / 64 % 64 + 128 = d.toNat := by omega
  have htail : v % 64 + 128 = e.toNat := by omega
  rw [String.utf8EncodeChar, val_ofNat (by omega), if_neg (by omega), if_neg (by omega),
    if_neg (by omega), ofNat_eq hlead, ofNat_eq hsecond, ofNat_eq hthird, ofNat_eq htail]

theorem encode_scalars_cons {start width : Nat} {c : Char} {front t : Octets} {cs : List Char}
    (hc : String.utf8EncodeChar c = front)
    (ih : ∀ {start : Nat} {cs : List Char}, scalars start (pieces t) = .ok cs →
      cs.flatMap String.utf8EncodeChar = t)
    (h : scalars start (.scalar c width :: pieces t) = .ok cs) :
    cs.flatMap String.utf8EncodeChar = front ++ t := by
  rw [scalars] at h
  obtain ⟨ds, hd, rfl⟩ := of_map_ok h
  rw [List.flatMap_cons, hc, ih hd]

theorem encode_scalars_pieces {s : Octets} {start : Nat} {cs : List Char}
    (h : scalars start (pieces s) = .ok cs) : cs.flatMap String.utf8EncodeChar = s := by
  fun_induction pieces s generalizing start cs with
  | case1 =>
    obtain rfl := Except.ok.inj h
    rfl
  | case2 b t hb ih =>
    exact encode_scalars_cons (encodeChar_one (UInt8.lt_iff_toNat_lt.1 hb)) ih h
  | case5 b _ hb hb' c t hc ih =>
    rw [UInt8.not_lt, UInt8.le_iff_toNat_le] at hb
    rw [UInt8.lt_iff_toNat_lt] at hb'
    exact encode_scalars_cons (encodeChar_two hb hb' hc) ih h
  | case10 b _ _ hb hb' c hc d t hd ih =>
    rw [UInt8.not_lt, UInt8.le_iff_toNat_le] at hb
    rw [UInt8.lt_iff_toNat_lt] at hb'
    rw [Bool.not_eq_true, Bool.not_eq_false'] at hc
    exact encode_scalars_cons (encodeChar_three hb hb' hc hd) ih h
  | case17 b _ _ _ hb hb' c hc d hd e t he ih =>
    rw [UInt8.not_lt, UInt8.le_iff_toNat_le] at hb
    rw [UInt8.lt_iff_toNat_lt] at hb'
    rw [Bool.not_eq_true, Bool.not_eq_false'] at hc hd
    exact encode_scalars_cons (encodeChar_four hb hb' hc hd he) ih h
  | _ => nomatch h

theorem encode_of_decode {s : Octets} {t : String} (h : decode s = .ok t) : encode t = s := by
  obtain ⟨cs, hc, rfl⟩ := of_map_ok h
  rw [encode, String.toList_ofList]
  exact encode_scalars_pieces hc

end EntityWire.Utf8
