import EntityWire.Proofs.Wire.Length

namespace EntityWire.Wire

theorem append_of_splitOctets {n : Nat} {s front rest : Octets}
    (h : splitOctets n s = some (front, rest)) : s = front ++ rest := by
  induction n generalizing s front with
  | zero =>
    obtain ⟨rfl, rfl⟩ := Prod.mk.inj (Option.some.inj h)
    rfl
  | succ n ih =>
    cases s with
    | nil => nomatch h
    | cons b s =>
      obtain ⟨p, hp, he⟩ := Option.map_eq_some_iff.1 h
      obtain ⟨rfl, rfl⟩ := Prod.mk.inj he
      exact congrArg (b :: ·) (ih hp)

theorem splitOctets_of_length_lt {n : Nat} {s : Octets} (h : s.length < n) :
    splitOctets n s = none := by
  cases hs : splitOctets n s with
  | none => rfl
  | some p =>
    have hl := length_of_splitOctets hs
    have ha := congrArg List.length (append_of_splitOctets hs)
    rw [List.length_append] at ha
    omega

namespace Scan

variable {α : Type} {m : Scan α} {s : Octets}

theorem run_append_refused {r : Refusal} (h : m.run s = .error (.refused r)) (t : Octets) :
    m.run (s ++ t) = .error (.refused r) := by
  induction m generalizing s with
  | done a => cases h
  | refuse r' => exact h
  | take n short next ih =>
    simp only [run] at h ⊢
    cases hs : splitOctets n s with
    | none =>
      rw [hs] at h
      cases h
    | some p =>
      rw [hs] at h
      rw [splitOctets_append hs]
      exact ih _ h

/-- The front of some octets that an answer takes. -/
structure Ends (m : Scan α) (front : Octets) (a : α) : Prop where
  answers (t : Octets) : m.run (front ++ t) = .ok (a, t)
  short {n : Nat} (h : n < front.length) : ∃ x, m.run (front.take n) = .error (.short x)

theorem ends_of_run {rest : Octets} {a : α} (h : m.run s = .ok (a, rest)) :
    ∃ front, s = front ++ rest ∧ m.Ends front a := by
  induction m generalizing s with
  | done b =>
    obtain ⟨rfl, rfl⟩ := ok_pair_inj h
    exact ⟨[], rfl, fun _ ↦ rfl, fun hn ↦ absurd hn (Nat.not_lt_zero _)⟩
  | refuse r => cases h
  | take n short next ih =>
    simp only [run] at h
    cases hs : splitOctets n s with
    | none =>
      rw [hs] at h
      cases h
    | some p =>
      rw [hs] at h
      obtain ⟨back, hb, he⟩ := ih p.1 h
      have hl : p.1.length = n := length_of_splitOctets hs
      have hlong : ∀ u, (take n short next).run (p.1 ++ u) = (next p.1).run u := fun u ↦ run_take hl
      refine ⟨p.1 ++ back, ?_, fun t ↦ ?_, fun {k} hk ↦ ?_⟩
      · rw [append_of_splitOctets hs, hb, List.append_assoc]
      · rw [List.append_assoc, hlong]
        exact he.answers t
      · -- A front that is cut within the first octets lacks them; another one is cut behind them.
        rw [List.length_append] at hk
        by_cases hkn : k < n
        · have hsplit : splitOctets n ((p.1 ++ back).take k) = none := by
            refine splitOctets_of_length_lt ?_
            rw [List.length_take, List.length_append]
            omega
          exact ⟨short, by rw [run, hsplit]⟩
        · have hcut : (p.1 ++ back).take k = p.1 ++ back.take (k - n) := by
            rw [List.take_append, hl, List.take_of_length_le (by omega)]
          obtain ⟨x, hx⟩ := he.short (n := k - n) (by omega)
          exact ⟨x, by rw [hcut, hlong, hx]⟩

end Scan

end EntityWire.Wire
