import EntityWire.Wire.Error

namespace EntityWire.Wire

inductive Scan (α : Type) : Type
  | done (a : α)
  | refuse (r : Refusal)
  | take (n : Nat) (short : Shortage) (next : Octets → Scan α)

def splitOctets : Nat → Octets → Option (Octets × Octets)
  | 0, s => some ([], s)
  | _ + 1, [] => none
  | n + 1, b :: s => (splitOctets n s).map fun p ↦ (b :: p.1, p.2)

namespace Scan

variable {α β : Type}

def bind : Scan α → (α → Scan β) → Scan β
  | .done a, f => f a
  | .refuse r, _ => .refuse r
  | .take n short next, f => .take n short fun s ↦ (next s).bind f

instance : Monad Scan where
  pure := .done
  bind := bind

def run : Scan α → Octets → Except DecodeError (α × Octets)
  | .done a, s => .ok (a, s)
  | .refuse r, _ => .error (.refused r)
  | .take n short next, s =>
    match splitOctets n s with
    | some (front, rest) => (next front).run rest
    | none => .error (.short short)

def complain (c : Complaint) : Scan α := .refuse (.content c)

def ofExcept : Except Complaint α → Scan α
  | .ok a => .done a
  | .error c => complain c

def number (width : Nat) : Scan Nat :=
  .take width .number fun s ↦ .done (s.foldl (fun n b ↦ 256 * n + b.toNat) 0)

def content (n : Nat) : Scan Octets := .take n .content .done

def marker : Scan Marker :=
  .take 1 .marker fun s ↦ .done (.ofOctet (s.headD 0))

def iterate {σ : Type} (step : σ → Scan σ) : Nat → σ → Scan σ
  | 0, state => .done state
  | n + 1, state => (step state).bind (iterate step n)

def replicate (item : Scan α) (n : Nat) : Scan (List α) :=
  (iterate (fun items ↦ item.bind fun a ↦ .done (a :: items)) n []).bind fun items ↦
    .done items.reverse

end Scan

theorem splitOctets_append {n : Nat} {s front rest : Octets}
    (h : splitOctets n s = some (front, rest)) (t : Octets) :
    splitOctets n (s ++ t) = some (front, rest ++ t) := by
  induction n generalizing s front with
  | zero => simp_all [splitOctets]
  | succ n ih =>
    cases s with
    | nil => simp [splitOctets] at h
    | cons b s =>
      simp only [splitOctets, Option.map_eq_some_iff, List.cons_append] at h ⊢
      obtain ⟨⟨front', rest'⟩, hs, he⟩ := h
      obtain ⟨rfl, rfl⟩ := Prod.mk.injEq .. ▸ he
      exact ⟨_, ih hs, rfl⟩

namespace Scan

variable {α β : Type}

theorem run_bind (m : Scan α) (f : α → Scan β) (s : Octets) :
    (m.bind f).run s = (m.run s).bind fun p ↦ (f p.1).run p.2 := by
  induction m generalizing s with
  | done a => rfl
  | refuse r => rfl
  | take n short next ih =>
    simp only [bind, run]
    split
    · exact ih _ _
    · rfl

theorem run_append {m : Scan α} {s rest : Octets} {a : α} (h : m.run s = .ok (a, rest))
    (t : Octets) : m.run (s ++ t) = .ok (a, rest ++ t) := by
  induction m generalizing s with
  | done b => simp_all [run]
  | refuse r => simp [run] at h
  | take n short next ih =>
    simp only [run] at h ⊢
    cases hs : splitOctets n s with
    | none => simp [hs] at h
    | some p =>
      simp only [hs, splitOctets_append hs] at h ⊢
      exact ih _ h

end Scan

end EntityWire.Wire
