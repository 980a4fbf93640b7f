import EntityWire.Ordered.Map
import EntityWire.Proofs.Association

namespace EntityWire

variable {κ ν : Type} [Ord κ]

theorem Entries.insert_perm {k : κ} {entries : List (κ × ν)} (h : find? k entries = none) (v : ν) :
    (insert k v entries).Perm ((k, v) :: entries) := by
  induction entries with
  | nil => exact .refl _
  | cons e rest ih =>
    by_cases he : compare k e.1 = .eq
    · simp [find?, he] at h
    · have hr : find? k rest = none := by simpa [find?, he] using h
      cases hc : compare k e.1 with
      | lt => simp [insert, hc]
      | eq => exact absurd hc he
      | gt =>
        simp only [insert, hc]
        exact ((ih hr).cons e).trans (.swap _ _ _)

namespace OrderedMap

theorem keys_insert_perm [Std.TransOrd κ] {m : OrderedMap κ ν} {k : κ} (h : m.find? k = none)
    (v : ν) : (m.insert k v).keys.Perm (k :: m.keys) :=
  (Entries.insert_perm h v).map Prod.fst

theorem mem_foldl_insert [Std.TransOrd κ] {entries : List (κ × ν)} {e : κ × ν}
    {m : OrderedMap κ ν} (h : e ∈ (entries.foldl (fun m e ↦ m.insert e.1 e.2) m).entries) :
    e ∈ m.entries ∨ e ∈ entries := by
  induction entries generalizing m with
  | nil => exact .inl h
  | cons e' rest ih =>
    rcases ih h with hm | hr
    · rcases Entries.mem_insert hm with rfl | hm
      · exact .inr List.mem_cons_self
      · exact .inl hm
    · exact .inr (List.mem_cons_of_mem _ hr)

theorem mem_of_mem_ofList [Std.TransOrd κ] {entries : List (κ × ν)} {e : κ × ν}
    (h : e ∈ (ofList entries).entries) : e ∈ entries :=
  (mem_foldl_insert h).resolve_left nofun

theorem nodup_keys [Std.LawfulEqOrd κ] (m : OrderedMap κ ν) : m.keys.Nodup := by
  rw [keys, List.nodup_iff_pairwise_ne, List.pairwise_map]
  refine m.ascending.imp fun {a b} h he ↦ ?_
  rw [he, Std.compare_self] at h
  nomatch h

theorem eq_of_find? [Std.TransOrd κ] [Std.LawfulEqOrd κ] {m m' : OrderedMap κ ν}
    (h : ∀ k, m.find? k = m'.find? k) : m = m' := by
  have hn : ∀ m : OrderedMap κ ν, m.entries.Nodup := by
    intro m
    exact (List.pairwise_map.1 m.nodup_keys).imp fun hne he ↦ hne (congrArg Prod.fst he)
  have hm : ∀ e, e ∈ m.entries ↔ e ∈ m'.entries := by
    intro e
    rw [← find?_eq_some_iff, ← find?_eq_some_iff, h]
  have hp : m.entries.Perm m'.entries :=
    (List.perm_ext_iff_of_nodup (hn m) (hn m')).2 hm
  have he : m.entries = m'.entries := by
    refine hp.eq_of_pairwise (fun a b _ _ hab hba ↦ ?_) m.ascending m'.ascending
    have hs : compare a.1 b.1 = (compare b.1 a.1).swap := Std.OrientedCmp.eq_swap
    rw [hab, hba] at hs
    nomatch hs
  cases m
  cases m'
  congr

section Making

variable [Std.TransOrd κ] [Std.LawfulEqOrd κ] [DecidableEq κ]

theorem find?_foldl_insert (entries : List (κ × ν)) (m : OrderedMap κ ν) (k : κ) :
    (entries.foldl (fun m e ↦ m.insert e.1 e.2) m).find? k =
      (entries.reverse.lookup k).or (m.find? k) := by
  induction entries generalizing m with
  | nil => rfl
  | cons e rest ih =>
    obtain ⟨k', v⟩ := e
    rw [List.foldl_cons, ih, find?_insert, List.reverse_cons, List.lookup_append, lookup_cons_ite,
      Option.or_assoc]
    congr 1
    split <;> rfl

theorem find?_ofList (entries : List (κ × ν)) (k : κ) :
    (ofList entries).find? k = entries.reverse.lookup k := by
  rw [ofList, find?_foldl_insert]
  exact Option.or_none

theorem ofList_eq_iff {entries entries' : List (κ × ν)} :
    ofList entries = ofList entries' ↔
      ∀ k, entries.reverse.lookup k = entries'.reverse.lookup k := by
  constructor
  · intro h k
    rw [← find?_ofList, h, find?_ofList]
  · intro h
    exact eq_of_find? fun k ↦ by rw [find?_ofList, find?_ofList, h]

theorem ofList_entries (m : OrderedMap κ ν) : ofList m.entries = m := by
  refine eq_of_find? fun k ↦ Option.ext fun v ↦ ?_
  rw [find?_ofList, find?_eq_some_iff]
  have hn : m.entries.reverse.Pairwise fun a b ↦ a.1 ≠ b.1 := by
    rw [List.pairwise_reverse]
    exact (List.pairwise_map.1 m.nodup_keys).imp fun h ↦ Ne.symm h
  constructor
  · intro h
    exact List.mem_reverse.1 (mem_of_lookup h)
  · intro h
    exact lookup_of_mem hn (List.mem_reverse.2 h)

end Making

end OrderedMap

end EntityWire
