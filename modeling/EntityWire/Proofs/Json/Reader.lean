import EntityWire.Json.Value
import EntityWire.Proofs.Answer
import EntityWire.Proofs.Number.NotNaN
import EntityWire.Proofs.Ordered.Map

namespace EntityWire.Json

def children : Json → List Json
  | .array items => items
  | .object members => members.map Prod.snd
  | _ => []

inductive Each (P : Json → Prop) : Json → Prop
  | intro {j : Json} (h : P j) (hc : ∀ c ∈ j.children, Each P c) : Each P j

def NotNaN : Json → Prop
  | .float x => x.isNaN = false
  | _ => True

abbrev Numeric : Json → Prop := Each NotNaN

def Within : Nat → Json → Prop
  | 0, .array _ | 0, .object _ => False
  | 0, _ => True
  | depth + 1, j => ∀ c ∈ j.children, Within depth c

theorem Within.children_eq_nil {j : Json} (h : j.Within 0) : j.children = [] := by
  cases j with
  | array | object => nomatch h
  | _ => rfl

theorem Within.succ {j : Json} {depth : Nat} (h : j.Within depth) : j.Within (depth + 1) := by
  induction depth generalizing j with
  | zero => exact fun c hc ↦ nomatch h.children_eq_nil ▸ hc
  | succ depth ih => exact fun c hc ↦ ih (h c hc)

theorem Within.mono {j : Json} {depth depth' : Nat} (h : j.Within depth) (hd : depth ≤ depth') :
    j.Within depth' := by
  induction hd with
  | refl => exact h
  | step _ ih => exact ih.succ

namespace Reader

variable {α β σ : Type} {P : α → Prop} {Q : β → Prop}

def Gives (m : Reader α) (P : α → Prop) : Prop :=
  ∀ ⦃s t : List Char⦄ ⦃a : α⦄, m s = .ok (a, t) → P a

theorem gives_pure {a : α} (ha : P a) : (pure a : Reader α).Gives P := by
  intro s t b h
  exact (ok_pair_inj h).1 ▸ ha

theorem gives_fail (f : Fault) : (fail f : Reader α).Gives P := fun _ _ _ h ↦ nomatch h

theorem gives_any (m : Reader α) : m.Gives fun _ ↦ True := fun _ _ _ _ ↦ trivial

theorem Gives.bind {m : Reader α} {f : α → Reader β} (hm : m.Gives P)
    (hf : ∀ a, P a → (f a).Gives Q) : (m >>= f).Gives Q := by
  intro s u b h
  obtain ⟨p, hp, hb⟩ := of_bind_ok h
  exact hf p.1 (hm hp) hb

theorem gives_bind {m : Reader α} {f : α → Reader β} (hf : ∀ a, (f a).Gives Q) :
    (m >>= f).Gives Q :=
  (gives_any m).bind fun a _ ↦ hf a

theorem gives_items {item : Reader α} (h : item.Gives P) (first : Bool) (bound : List Char) :
    (items item first bound).Gives fun as ↦ ∀ a ∈ as, P a := by
  induction bound generalizing first with
  | nil => exact gives_fail _
  | cons c bound ih =>
    refine gives_bind fun more ↦ ?_
    split
    · refine h.bind fun a ha ↦ (ih false).bind fun as has ↦ gives_pure ?_
      exact List.forall_mem_cons.2 ⟨ha, has⟩
    · exact gives_pure fun a ha ↦ nomatch ha

theorem gives_listOf {item : Reader α} (h : item.Gives P) :
    (listOf item).Gives fun as ↦ ∀ a ∈ as, P a := by
  refine gives_bind fun bound ↦ (gives_items h true bound).bind fun as has ↦ ?_
  exact gives_bind fun _ ↦ gives_pure has

theorem gives_entries {entry : σ → Reader σ} {I : σ → Prop}
    (h : ∀ state, I state → (entry state).Gives I) (first : Bool) {state : σ} (hi : I state)
    (bound : List Char) : (entries entry first state bound).Gives I := by
  induction bound generalizing first state with
  | nil => exact gives_fail _
  | cons c bound ih =>
    refine gives_bind fun more ↦ ?_
    split
    · exact (h state hi).bind fun state' hi' ↦ ih false hi'
    · exact gives_pure hi

theorem gives_objectOf {entry : σ → Reader σ} {I : σ → Prop} {start : σ}
    (h : ∀ state, I state → (entry state).Gives I) (hi : I start) :
    (objectOf entry start).Gives I := by
  refine gives_bind fun bound ↦ (gives_entries h true hi bound).bind fun state hs ↦ ?_
  exact gives_bind fun _ ↦ gives_pure hs

theorem isNaN_scale {n : Nat} {f g : Binary64} {e : Int} (hf : f.isNaN = false)
    (h : scale n f e = .ok g) : g.isNaN = false := by
  induction n generalizing f e with
  | zero => exact Except.ok.inj h ▸ hf
  | succ n ih =>
    have hd : ∀ {k : Nat}, k ≤ greatestPower → (f / .ofDecimal 1 k).isNaN = false := fun {k} hk ↦
      Binary64.isNaN_div hf (Binary64.isDivisor_power ⟨k, Nat.lt_succ_of_le hk⟩)
    rw [scale] at h
    split at h
    · next he =>
      dsimp only at h
      split at h
      · split at h
        · next hg => exact Except.ok.inj h ▸ Binary64.isNaN_of_isFinite hg
        · nomatch h
      · exact Except.ok.inj h ▸ hd he
    · split at h
      · exact Except.ok.inj h ▸ hf
      · split at h
        · nomatch h
        · exact ih (hd (Nat.le_refl _)) h

theorem gives_scaled (negative : Bool) (n : Nat) (e : Int) :
    (scaled negative n e).Gives fun x ↦ x.isNaN = false := by
  intro s t x h
  obtain ⟨f, hf, hx⟩ := of_bind_ok h
  obtain ⟨rfl, -⟩ := ok_pair_inj hx
  have hn := isNaN_scale (Binary64.isNaN_ofUnsigned _) hf
  split
  · rw [Binary64.isNaN_negated, hn]
  · exact hn

theorem gives_exponent (negative : Bool) (n : Nat) (e : Int) :
    (exponent negative n e).Gives fun x ↦ x.isNaN = false := by
  have zero : (pure (if negative then Binary64.zero.negated else .zero) : Reader Binary64).Gives
      fun x ↦ x.isNaN = false := by
    refine gives_pure ?_
    cases negative <;> decide
  refine gives_bind fun sign ↦ gives_bind fun sign' ↦ ?_
  dsimp only
  split
  case' isTrue => refine gives_bind fun _ ↦ ?_
  -- with a sign of the exponent taken off or without one, the digits come next
  all_goals
    refine gives_bind fun c ↦ ?_
    split
    · exact gives_fail _
    split
    · exact gives_fail _
    refine gives_bind fun ds ↦ ?_
    split
    · exact gives_scaled _ _ _
    split
    · exact gives_fail _
    · exact zero

theorem gives_exponentOrEnd (negative : Bool) (n : Nat) (e : Int) :
    (exponentOrEnd negative n e).Gives fun x ↦ x.isNaN = false := by
  refine gives_bind fun mark ↦ ?_
  split
  · exact gives_bind fun _ ↦ gives_exponent negative n e
  · exact gives_scaled negative n e

theorem gives_fraction (negative : Bool) (n : Nat) (e : Int) :
    (fraction negative n e).Gives fun x ↦ x.isNaN = false := by
  refine gives_bind fun ds ↦ ?_
  split
  · refine gives_bind fun c ↦ ?_
    split <;> exact gives_fail _
  · exact gives_exponentOrEnd _ _ _

theorem gives_afterInteger (negative : Bool) (n : Nat) (e : Int) :
    (afterInteger negative n e).Gives fun x ↦ x.isNaN = false := by
  refine gives_bind fun c ↦ ?_
  split
  · exact gives_bind fun _ ↦ gives_fraction negative n e
  · exact gives_exponentOrEnd negative n e

theorem notNaN_integer (negative : Bool) (n : Nat) : (integer negative n).value.NotNaN := by
  unfold integer
  split
  · trivial
  · split
    · exact (Binary64.isNaN_negated _).trans (Binary64.isNaN_ofUnsigned _)
    · trivial

theorem gives_number (negative : Bool) : (number negative).Gives fun n ↦ n.value.NotNaN := by
  refine gives_bind fun c ↦ ?_
  split
  · exact gives_fail _
  split
  · exact gives_fail _
  refine gives_bind fun _ ↦ ?_
  dsimp only
  split
  -- behind a leading zero and behind other digits
  all_goals
    refine gives_bind fun ds ↦ gives_bind fun c' ↦ ?_
    split
    · exact gives_fail _
    refine gives_bind fun mark ↦ ?_
    split
    · exact gives_pure (notNaN_integer _ _)
    · exact (gives_afterInteger _ _ _).bind fun x hx ↦ gives_pure hx

theorem gives_member {P : Json → Prop} {inner : Reader Json} (h : inner.Gives P) :
    (member inner).Gives fun m ↦ P m.2 := by
  refine gives_bind fun _ ↦ gives_bind fun key ↦ gives_bind fun _ ↦ ?_
  exact h.bind fun j hj ↦ gives_pure hj

theorem gives_members {P : Json → Prop} {inner : Reader Json} (h : inner.Gives P) :
    (objectOf (fun members ↦ do return (← member inner) :: members) []).Gives
      fun members ↦ ∀ m ∈ members, P m.2 := by
  refine gives_objectOf (fun members hm ↦ ?_) fun m hm ↦ nomatch hm
  exact (gives_member h).bind fun m hj ↦ gives_pure (List.forall_mem_cons.2 ⟨hj, hm⟩)

theorem gives_valueAround {P Q : Json → Prop} {inner : Option (Reader Json)}
    (leaf : ∀ j, j.NotNaN → j.Within 0 → P j)
    (around : ∀ r, inner = some r → r.Gives Q ∧ ∀ j, j.NotNaN → (∀ c ∈ j.children, Q c) → P j) :
    (valueAround inner).Gives P := by
  have number : ∀ negative, (do return (← number negative).value : Reader Json).Gives P :=
    fun negative ↦ (gives_number negative).bind fun n hn ↦
      gives_pure (leaf n.value hn (by cases n <;> trivial))
  refine gives_bind fun c ↦ ?_
  -- Without a reader for what is inside, an array or an object is one level too deep.
  split
  · exact gives_fail _
  · exact gives_bind fun _ ↦ gives_bind fun _ ↦ gives_pure (leaf _ trivial trivial)
  · exact gives_bind fun _ ↦ gives_bind fun _ ↦ gives_pure (leaf _ trivial trivial)
  · exact gives_bind fun _ ↦ gives_bind fun _ ↦ gives_pure (leaf _ trivial trivial)
  · exact gives_bind fun _ ↦ number true
  · exact gives_bind fun _ ↦ gives_bind fun s ↦ gives_pure (leaf _ trivial trivial)
  · split
    · exact gives_fail _
    · next r =>
      obtain ⟨hr, hp⟩ := around r rfl
      refine gives_bind fun _ ↦ (gives_listOf hr).bind fun items hi ↦ gives_pure ?_
      exact hp (.array items) trivial hi
  · split
    · exact gives_fail _
    · next r =>
      obtain ⟨hr, hp⟩ := around r rfl
      refine gives_bind fun _ ↦ (gives_members hr).bind fun members hm ↦ gives_pure ?_
      refine hp (ofMembers members.reverse) trivial fun c hc ↦ ?_
      obtain ⟨m, hmem, rfl⟩ := List.mem_map.1 hc
      exact hm m (List.mem_reverse.1 (OrderedMap.mem_of_mem_ofList hmem))
  · split
    · exact number false
    · exact gives_fail _

theorem gives_wrongKind (expected : String) : (wrongKind expected : Reader α).Gives P := by
  refine gives_bind fun c ↦ ?_
  split
  · exact gives_bind fun _ ↦ gives_bind fun _ ↦ gives_fail _
  · exact gives_bind fun _ ↦ gives_bind fun _ ↦ gives_fail _
  · exact gives_bind fun _ ↦ gives_bind fun _ ↦ gives_fail _
  · exact gives_bind fun _ ↦ gives_bind fun _ ↦ gives_fail _
  · exact gives_bind fun _ ↦ gives_bind fun _ ↦ gives_fail _
  · exact gives_fail _
  · exact gives_fail _
  · split
    · exact gives_bind fun _ ↦ gives_fail _
    · exact gives_fail _
  · exact gives_fail _

theorem gives_value (depth : Nat) : (value depth).Gives Numeric := by
  have leaf : ∀ j : Json, j.NotNaN → j.Within 0 → j.Numeric :=
    fun j hn hw ↦ .intro hn fun _ hm ↦ nomatch hw.children_eq_nil ▸ hm
  induction depth with
  | zero => exact gives_valueAround (Q := Numeric) leaf nofun
  | succ depth ih =>
    exact gives_valueAround leaf fun r hr ↦ ⟨Option.some.inj hr ▸ ih, fun _ hn hc ↦ .intro hn hc⟩

theorem gives_value_within (depth : Nat) : (value depth).Gives (Within depth) := by
  induction depth with
  | zero => exact gives_valueAround (Q := fun _ ↦ True) (fun _ _ hw ↦ hw) nofun
  | succ depth ih =>
    refine gives_valueAround (Q := Within depth) (fun _ _ hw ↦ hw.mono (Nat.zero_le _)) ?_
    exact fun r hr ↦ ⟨Option.some.inj hr ▸ ih, fun _ _ hc ↦ hc⟩

end Reader

end EntityWire.Json
