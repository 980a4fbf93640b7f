import EntityWire.Proofs.Text.Utf8
import EntityWire.WireId
import Mathlib.Data.List.Forall2

namespace EntityWire

def OneApart (s t : Octets) : Prop :=
  s.length = t.length ∧ (s.zip t).countP (fun e ↦ e.1 ≠ e.2) = 1

instance : DecidableRel OneApart := fun s t ↦
  inferInstanceAs (Decidable (s.length = t.length ∧ _ = 1))

theorem countP_ne_eq_zero_iff {s t : Octets} (hl : s.length = t.length) :
    (s.zip t).countP (fun e ↦ e.1 ≠ e.2) = 0 ↔ s = t := by
  have hz : s = t ↔ ∀ {a b}, (a, b) ∈ s.zip t → a = b := by
    rw [← List.forall₂_eq_eq_eq, List.forall₂_iff_zip, and_iff_right hl]
  rw [List.countP_eq_zero, hz]
  simp only [decide_eq_true_eq, not_not, Prod.forall]

theorem oneApart_iff {s t : Octets} : OneApart s t ↔
    ∃ front a b back, a ≠ b ∧ s = front ++ a :: back ∧ t = front ++ b :: back := by
  constructor
  · intro h
    induction s generalizing t with
    | nil => exact absurd h.2 (by simp)
    | cons a s ih =>
      cases t with
      | nil => exact absurd h.2 (by simp)
      | cons b t =>
        have hl : s.length = t.length := Nat.succ.inj h.1
        have hc := h.2
        rw [List.zip_cons_cons, List.countP_cons] at hc
        -- The first place where they differ uses up the one difference: behind it they are equal.
        by_cases hab : a = b
        · subst hab
          obtain ⟨front, x, y, back, hxy, rfl, rfl⟩ := ih ⟨hl, by simpa using hc⟩
          exact ⟨a :: front, x, y, back, hxy, rfl, rfl⟩
        · obtain rfl := (countP_ne_eq_zero_iff hl).1 (by simpa [hab] using hc)
          exact ⟨[], a, b, s, hab, rfl, rfl⟩
  · rintro ⟨front, a, b, back, hab, rfl, rfl⟩
    have same (s : Octets) : (s.zip s).countP (fun e ↦ e.1 ≠ e.2) = 0 :=
      (countP_ne_eq_zero_iff rfl).2 rfl
    refine ⟨by simp, ?_⟩
    rw [List.zip_append rfl, List.countP_append, List.zip_cons_cons, List.countP_cons, same, same]
    simp [hab]

namespace WireId

/-- What undoes a multiplication by the prime. There is one because the prime is odd. -/
def inverse : UInt64 := 0xce965057aff6957b

theorem prime_mul_inverse : prime * inverse = 1 := rfl

theorem mul_prime_inj {g h : UInt64} : g * prime = h * prime ↔ g = h := by
  constructor
  · intro he
    calc
      g = g * prime * inverse := by rw [UInt64.mul_assoc, prime_mul_inverse, UInt64.mul_one]
      _ = h * prime * inverse := by rw [he]
      _ = h := by rw [UInt64.mul_assoc, prime_mul_inverse, UInt64.mul_one]
  · exact congrArg (· * prime)

theorem step_left_inj {g h : UInt64} (b : UInt8) : step g b = step h b ↔ g = h := by
  rw [step, step, mul_prime_inj, UInt64.xor_left_inj]

theorem step_right_inj {a b : UInt8} (h : UInt64) : step h a = step h b ↔ a = b := by
  rw [step, step, mul_prime_inj, UInt64.xor_right_inj, UInt8.toUInt64_inj]

theorem foldl_step_inj {g h : UInt64} (s : Octets) : s.foldl step g = s.foldl step h ↔ g = h := by
  induction s generalizing g h with
  | nil => rfl
  | cons b s ih => rw [List.foldl_cons, List.foldl_cons, ih, step_left_inj]

theorem hash_append_inj (s t tail : Octets) :
    hash (s ++ tail) = hash (t ++ tail) ↔ hash s = hash t := by
  rw [hash, List.foldl_append, hash, List.foldl_append, foldl_step_inj]
  rfl

theorem hash_ne {s t : Octets} (h : OneApart s t) : hash s ≠ hash t := by
  obtain ⟨front, a, b, back, hab, rfl, rfl⟩ := oneApart_iff.1 h
  intro he
  rw [hash, List.foldl_append, List.foldl_cons, hash, List.foldl_append, List.foldl_cons,
    foldl_step_inj, step_right_inj] at he
  exact hab he

theorem ofName_eq_iff {m n : String} :
    ofName m = ofName n ↔ hash (Utf8.encode m) = hash (Utf8.encode n) := by
  rw [ofName, ofName, mk.injEq]

theorem ofName_append_inj (m n tail : String) :
    ofName (m ++ tail) = ofName (n ++ tail) ↔ ofName m = ofName n := by
  rw [ofName_eq_iff, Utf8.encode_append, Utf8.encode_append, hash_append_inj, ofName_eq_iff]

theorem ofName_ne {m n : String} (h : OneApart (Utf8.encode m) (Utf8.encode n)) :
    ofName m ≠ ofName n :=
  fun he ↦ hash_ne h (ofName_eq_iff.1 he)

end WireId

end EntityWire
