namespace EntityWire

variable {α : Type} [Ord α]

namespace Elements

def insert (a : α) : List α → List α
  | [] => [a]
  | b :: rest =>
    match compare a b with
    | .lt => a :: b :: rest
    | .eq => b :: rest
    | .gt => b :: insert a rest

def Ascending (elements : List α) : Prop := elements.Pairwise fun a b ↦ compare a b = .lt

theorem mem_insert_or {a b : α} {elements : List α} (h : b ∈ insert a elements) :
    b = a ∨ b ∈ elements := by
  induction elements with
  | nil => simpa [insert] using h
  | cons c rest ih =>
    simp only [insert] at h
    split at h <;> simp only [List.mem_cons] at h ⊢ <;> grind

theorem ascending_insert [Std.TransOrd α] (a : α) {elements : List α} (h : Ascending elements) :
    Ascending (insert a elements) := by
  induction elements with
  | nil => simp [insert, Ascending]
  | cons b rest ih =>
    obtain ⟨hb, hrest⟩ := List.pairwise_cons.1 h
    simp only [insert]
    split
    · rename_i ha
      refine List.pairwise_cons.2 ⟨fun c h' ↦ ?_, h⟩
      rcases List.mem_cons.1 h' with rfl | h'
      · exact ha
      · exact Std.TransCmp.lt_trans ha (hb c h')
    · exact h
    · rename_i ha
      refine List.pairwise_cons.2 ⟨fun c h' ↦ ?_, ih hrest⟩
      rcases mem_insert_or h' with rfl | h'
      · exact Std.OrientedCmp.gt_iff_lt.1 ha
      · exact hb c h'

theorem mem_insert [Std.LawfulEqOrd α] {a b : α} {elements : List α} :
    b ∈ insert a elements ↔ b = a ∨ b ∈ elements := by
  refine ⟨mem_insert_or, ?_⟩
  induction elements with
  | nil => simp [insert]
  | cons c rest ih =>
    simp only [insert]
    split
    · simp
    · rename_i h
      rw [Std.LawfulEqCmp.eq_of_compare h]
      simp
    · simp only [List.mem_cons]
      grind

end Elements

structure OrderedSet (α : Type) [Ord α] where
  elements : List α
  ascending : Elements.Ascending elements

namespace OrderedSet

instance [DecidableEq α] : DecidableEq (OrderedSet α) := fun s t ↦
  decidable_of_iff (s.elements = t.elements) (by cases s; cases t; simp)

def empty : OrderedSet α := ⟨[], .nil⟩

instance : Inhabited (OrderedSet α) := ⟨empty⟩

variable [Std.TransOrd α]

def insert (s : OrderedSet α) (a : α) : OrderedSet α :=
  ⟨Elements.insert a s.elements, Elements.ascending_insert a s.ascending⟩

def ofList (elements : List α) : OrderedSet α := elements.foldl insert empty

@[simp]
theorem mem_insert [Std.LawfulEqOrd α] {s : OrderedSet α} {a b : α} :
    b ∈ (s.insert a).elements ↔ b = a ∨ b ∈ s.elements :=
  Elements.mem_insert

end OrderedSet

end EntityWire
