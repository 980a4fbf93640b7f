import EntityWire.Proofs.Text.Utf8

namespace EntityWire.Utf8

theorem ofNat_cons_lt {n m : Nat} (hn : n < 256) (hm : m < 256) (s t : Octets) :
    UInt8.ofNat n :: s < UInt8.ofNat m :: t ↔ n < m ∨ n = m ∧ s < t := by
  rw [List.cons_lt_cons_iff, UInt8.lt_iff_toNat_lt, ← UInt8.toNat_inj, toNat_ofNat_of_lt hn,
    toNat_ofNat_of_lt hm]

theorem encodeChar_lt {c d : Char} (h : c < d) (s t : Octets) :
    String.utf8EncodeChar c ++ s < String.utf8EncodeChar d ++ t := by
  have hv : c.val.toNat < d.val.toNat := UInt32.lt_iff_toNat_lt.1 h
  have hd : d.val.toNat < 0x110000 := by
    have hd := d.valid
    simp only [UInt32.isValidChar, Nat.isValidChar] at hd
    omega
  unfold String.utf8EncodeChar
  generalize c.val.toNat = v at hv
  generalize d.val.toNat = w at hv hd
  have digits : ∀ n : Nat, n / 4096 = n / 64 / 64 ∧ n / 262144 = n / 64 / 64 / 64 := by omega
  simp only [digits]
  split_ifs
  all_goals
    simp (disch := omega) only [List.cons_append, List.nil_append, ofNat_cons_lt]
    omega

theorem flatMap_encodeChar_lt {cs ds : List Char} (h : cs < ds) :
    cs.flatMap String.utf8EncodeChar < ds.flatMap String.utf8EncodeChar := by
  induction ds generalizing cs with
  | nil => exact absurd h (List.not_lt_nil cs)
  | cons d ds ih =>
    rw [List.flatMap_cons]
    cases cs with
    | nil =>
      cases hd : String.utf8EncodeChar d with
      | nil => exact absurd hd (by simp)
      | cons b s => exact List.nil_lt_cons b _
    | cons c cs =>
      rw [List.flatMap_cons]
      rcases List.cons_lt_cons_iff.1 h with hcd | ⟨rfl, hlt⟩
      · exact encodeChar_lt hcd _ _
      · exact List.append_left_lt (ih hlt)

theorem encode_lt_encode {s t : String} : encode s < encode t ↔ s < t := by
  constructor
  · intro h
    rcases lt_trichotomy s t with hlt | rfl | hgt
    · exact hlt
    · exact absurd h (List.lt_irrefl _)
    · exact absurd h (List.lt_asymm (flatMap_encodeChar_lt hgt))
  · exact fun h ↦ flatMap_encodeChar_lt h

theorem compare_eq_lt {s t : String} : compare s t = .lt ↔ encode s < encode t := by
  rw [encode_lt_encode]
  exact compareOfLessAndEq_eq_lt

end EntityWire.Utf8
