import EntityWire.Ordered.Set

namespace EntityWire.OrderedSet

variable {α : Type} [Ord α]

theorem nodup_elements [Std.LawfulEqOrd α] (s : OrderedSet α) : s.elements.Nodup := by
  refine s.ascending.imp fun {a b} h he ↦ ?_
  rw [he, Std.compare_self] at h
  nomatch h

variable [Std.TransOrd α] [Std.LawfulEqOrd α] {s t : OrderedSet α} {l m : List α}

theorem eq_of_mem_iff (h : ∀ a, a ∈ s.elements ↔ a ∈ t.elements) : s = t := by
  have hp : s.elements.Perm t.elements :=
    (List.perm_ext_iff_of_nodup s.nodup_elements t.nodup_elements).2 h
  have he : s.elements = t.elements := by
    refine hp.eq_of_pairwise (fun a b _ _ hab hba ↦ ?_) s.ascending t.ascending
    have hs : compare a b = (compare b a).swap := Std.OrientedCmp.eq_swap
    rw [hab, hba] at hs
    nomatch hs
  cases s
  cases t
  congr

theorem mem_foldl_insert {a : α} :
    a ∈ (l.foldl insert s).elements ↔ a ∈ s.elements ∨ a ∈ l := by
  induction l generalizing s with
  | nil => simp
  | cons b l ih =>
    rw [List.foldl_cons, ih, mem_insert, List.mem_cons]
    grind

@[simp]
theorem mem_ofList {a : α} : a ∈ (ofList l).elements ↔ a ∈ l := by
  rw [ofList, mem_foldl_insert]
  exact or_iff_right List.not_mem_nil

theorem ofList_elements (s : OrderedSet α) : ofList s.elements = s :=
  eq_of_mem_iff fun _ ↦ mem_ofList

theorem ofList_eq_iff : ofList l = ofList m ↔ ∀ a, a ∈ l ↔ a ∈ m := by
  constructor
  · intro h a
    rw [← mem_ofList, h, mem_ofList]
  · intro h
    exact eq_of_mem_iff fun a ↦ by rw [mem_ofList, mem_ofList, h]

end EntityWire.OrderedSet
