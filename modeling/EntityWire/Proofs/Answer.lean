import Mathlib.Data.List.Forall2

namespace EntityWire

variable {ε ε' α β : Type} {x : Except ε α}

theorem error_ne_ok {e : ε} {a : α} : (.error e : Except ε α) ≠ .ok a := nofun

theorem of_bind_ok {f : α → Except ε β} {b : β} (h : x.bind f = .ok b) :
    ∃ a, x = .ok a ∧ f a = .ok b := by
  cases x with
  | error e => nomatch h
  | ok a => exact ⟨a, rfl, h⟩

theorem of_bind_error {f : α → Except ε β} {e : ε} (h : x.bind f = .error e) :
    x = .error e ∨ ∃ a, x = .ok a ∧ f a = .error e := by
  cases x with
  | error e' => exact .inl (congrArg _ (Except.error.inj h))
  | ok a => exact .inr ⟨a, rfl, h⟩

theorem bind_ne_error {f : α → Except ε β} {e : ε} (hx : x ≠ .error e) (hf : ∀ a, f a ≠ .error e) :
    x.bind f ≠ .error e := by
  intro h
  rcases of_bind_error h with h | ⟨a, -, h⟩
  · exact hx h
  · exact hf a h

theorem of_map_ok {f : α → β} {b : β} (h : x.map f = .ok b) : ∃ a, x = .ok a ∧ f a = b := by
  cases x with
  | error e => nomatch h
  | ok a => exact ⟨a, rfl, Except.ok.inj h⟩

theorem of_mapError_ok {f : ε → ε'} {a : α} (h : x.mapError f = .ok a) : x = .ok a := by
  cases x with
  | error e => nomatch h
  | ok b => exact congrArg _ (Except.ok.inj h)

theorem map_isOk_iff {f : α → β} : (∃ b, x.map f = .ok b) ↔ ∃ a, x = .ok a := by
  cases x with
  | error e => exact iff_of_false nofun nofun
  | ok a => exact ⟨fun _ ↦ ⟨a, rfl⟩, fun _ ↦ ⟨f a, rfl⟩⟩

theorem map_error_iff {f : α → β} {e : ε} : x.map f = .error e ↔ x = .error e := by
  cases x with
  | error e' =>
    exact ⟨fun h ↦ congrArg _ (Except.error.inj h), fun h ↦ congrArg _ (Except.error.inj h)⟩
  | ok a => exact ⟨nofun, nofun⟩

theorem mapError_error_iff {f : ε → ε'} {e : ε'} :
    x.mapError f = .error e ↔ ∃ e', x = .error e' ∧ e = f e' := by
  cases x with
  | error e' =>
    constructor
    · exact fun h ↦ ⟨e', rfl, (Except.error.inj h).symm⟩
    · rintro ⟨e', he, rfl⟩
      exact congrArg (Except.error ∘ f) (Except.error.inj he)
  | ok a => exact ⟨nofun, nofun⟩

theorem ok_pair_inj {a b : α} {s t : β} (h : (.ok (a, s) : Except ε (α × β)) = .ok (b, t)) :
    a = b ∧ s = t :=
  Prod.mk.inj (Except.ok.inj h)

section Passes

variable {f : α → Except ε β} {as : List α}

theorem mapM_ok_iff {bs : List β} :
    as.mapM f = .ok bs ↔ List.Forall₂ (fun a b ↦ f a = .ok b) as bs := by
  induction as generalizing bs with
  | nil =>
    rw [List.mapM_nil, List.forall₂_nil_left_iff]
    exact ⟨fun h ↦ (Except.ok.inj h).symm, fun h ↦ congrArg Except.ok h.symm⟩
  | cons a as ih =>
    rw [List.mapM_cons, List.forall₂_cons_left_iff]
    constructor
    · intro h
      obtain ⟨b, hb, h⟩ := of_bind_ok h
      obtain ⟨bs', hbs, h⟩ := of_bind_ok h
      exact ⟨b, bs', hb, ih.1 hbs, (Except.ok.inj h).symm⟩
    · rintro ⟨b, bs', hb, hbs, rfl⟩
      rw [hb, ih.2 hbs]
      rfl

theorem mapM_error_iff {x : ε} : as.mapM f = .error x ↔
    ∃ before a after, as = before ++ a :: after ∧ f a = .error x ∧
      ∀ b ∈ before, ∃ c, f b = .ok c := by
  induction as with
  | nil =>
    constructor
    · exact nofun
    · rintro ⟨before, a, after, h, -⟩
      exact absurd h.symm (by simp)
  | cons a as ih =>
    rw [List.mapM_cons]
    cases ha : f a with
    -- The first step fails, so nothing can stand before the one that is blamed.
    | error y =>
      constructor
      · intro h
        obtain rfl := Except.error.inj h
        exact ⟨[], a, as, rfl, ha, nofun⟩
      · rintro ⟨before, a', after, h, hx, hb⟩
        cases before with
        | nil =>
          obtain ⟨rfl, rfl⟩ := List.cons.inj h
          obtain rfl := Except.error.inj (ha.symm.trans hx)
          rfl
        | cons a'' before =>
          obtain ⟨rfl, -⟩ := List.cons.inj h
          obtain ⟨c, hc⟩ := hb a List.mem_cons_self
          exact absurd (ha.symm.trans hc) nofun
    | ok b =>
      have hm : (do let bs ← as.mapM f; pure (b :: bs) : Except ε (List β)) = .error x ↔
          as.mapM f = .error x := by
        cases as.mapM f with
        | error y => exact Iff.rfl
        | ok bs => exact ⟨nofun, nofun⟩
      refine (Iff.trans hm ih).trans ?_
      constructor
      · rintro ⟨before, a', after, rfl, hx, hb⟩
        exact ⟨a :: before, a', after, rfl, hx, List.forall_mem_cons.2 ⟨⟨b, ha⟩, hb⟩⟩
      · rintro ⟨before, a', after, h, hx, hb⟩
        cases before with
        | nil =>
          obtain ⟨rfl, rfl⟩ := List.cons.inj h
          exact absurd (ha.symm.trans hx) nofun
        | cons a'' before =>
          obtain ⟨rfl, rfl⟩ := List.cons.inj h
          exact ⟨before, a', after, rfl, hx, (List.forall_mem_cons.1 hb).2⟩

theorem mapM_congr {as' : List α} (h : List.Forall₂ (fun a a' ↦ f a = f a') as as') :
    as.mapM f = as'.mapM f := by
  induction h with
  | nil => rfl
  | cons ha _ ih => rw [List.mapM_cons, List.mapM_cons, ha, ih]

theorem mapM_isOk_iff : (∃ bs, as.mapM f = .ok bs) ↔ ∀ a ∈ as, ∃ b, f a = .ok b := by
  constructor
  · rintro ⟨bs, h⟩
    induction mapM_ok_iff.1 h with
    | nil => exact nofun
    | cons hb hrest ih => exact List.forall_mem_cons.2 ⟨⟨_, hb⟩, ih (mapM_ok_iff.2 hrest)⟩
  · intro h
    cases hm : as.mapM f with
    | ok bs => exact ⟨bs, rfl⟩
    | error x =>
      obtain ⟨before, a, after, rfl, hx, -⟩ := mapM_error_iff.1 hm
      obtain ⟨b, hb⟩ := h a (List.mem_append_right before List.mem_cons_self)
      exact absurd (hx.symm.trans hb) nofun

end Passes

end EntityWire
