namespace EntityWire

variable {κ ν : Type}

theorem mem_of_lookup [BEq κ] [LawfulBEq κ] {l : List (κ × ν)} {a : κ} {b : ν}
    (h : l.lookup a = some b) : (a, b) ∈ l := by
  obtain ⟨l₁, l₂, rfl, -⟩ := List.lookup_eq_some_iff.1 h
  exact List.mem_append_right l₁ List.mem_cons_self

theorem lookup_of_mem [BEq κ] [LawfulBEq κ] {l : List (κ × ν)}
    (hl : l.Pairwise fun p q ↦ p.1 ≠ q.1) {a : κ} {b : ν} (h : (a, b) ∈ l) :
    l.lookup a = some b := by
  obtain ⟨l₁, l₂, rfl⟩ := List.append_of_mem h
  rw [List.lookup_eq_some_iff]
  refine ⟨l₁, l₂, rfl, fun p hp ↦ ?_⟩
  have hne := (List.pairwise_append.1 hl).2.2 p hp (a, b) List.mem_cons_self
  exact bne_iff_ne.2 (Ne.symm hne)

theorem lookup_eq_of_perm [BEq κ] [LawfulBEq κ] {l l' : List (κ × ν)} (hp : l.Perm l')
    (hl : l.Pairwise fun p q ↦ p.1 ≠ q.1) (a : κ) : l.lookup a = l'.lookup a := by
  have hl' : l'.Pairwise fun p q ↦ p.1 ≠ q.1 := hp.pairwise hl Ne.symm
  refine Option.ext fun b ↦ ?_
  constructor
  · exact fun h ↦ lookup_of_mem hl' (hp.mem_iff.1 (mem_of_lookup h))
  · exact fun h ↦ lookup_of_mem hl (hp.mem_iff.2 (mem_of_lookup h))

variable [DecidableEq κ]

theorem eq_some_of_ite {f f' : κ → Option ν} {k : κ} {v : ν}
    (h : ∀ a, f' a = if a = k then some v else f a) (hk : f k = none) {a : κ} {b : ν}
    (ha : f a = some b) : f' a = some b := by
  have hne : a ≠ k := by
    rintro rfl
    simp [hk] at ha
  rw [h, if_neg hne, ha]

theorem lookup_cons_ite (k k' : κ) (v : ν) (l : List (κ × ν)) :
    ((k, v) :: l).lookup k' = if k' = k then some v else l.lookup k' := by
  by_cases h : k' = k
  · simp [h]
  · rw [List.lookup_cons, beq_false_of_ne h, if_neg h]

theorem lookup_filter_ne (l : List (κ × ν)) (k k' : κ) :
    (l.filter fun p ↦ p.1 ≠ k).lookup k' = if k' = k then none else l.lookup k' := by
  induction l with
  | nil => simp
  | cons p rest ih =>
    obtain ⟨a, v⟩ := p
    rw [lookup_cons_ite]
    by_cases ha : a = k
    · rw [List.filter_cons_of_neg (by simpa using ha), ih, ha]
      split <;> rfl
    · rw [List.filter_cons_of_pos (by simpa using ha), lookup_cons_ite, ih]
      grind

theorem lookup_map_ite (l : List (κ × ν)) (k k' : κ) (v : ν) :
    (l.map fun p ↦ if p.1 = k then (k, v) else p).lookup k' =
      if k' = k then (l.lookup k').map fun _ ↦ v else l.lookup k' := by
  induction l with
  | nil => simp
  | cons p rest ih =>
    obtain ⟨a, u⟩ := p
    rw [List.map_cons, lookup_cons_ite]
    by_cases ha : a = k
    · rw [if_pos ha, lookup_cons_ite, ih, ha]
      grind
    · rw [if_neg ha, lookup_cons_ite, ih]
      grind

end EntityWire
