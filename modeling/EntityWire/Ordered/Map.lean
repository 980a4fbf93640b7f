namespace EntityWire

variable {κ ν : Type} [Ord κ]

namespace Entries

def insert (k : κ) (v : ν) : List (κ × ν) → List (κ × ν)
  | [] => [(k, v)]
  | e :: rest =>
    match compare k e.1 with
    | .lt => (k, v) :: e :: rest
    | .eq => (k, v) :: rest
    | .gt => e :: insert k v rest

def find? (k : κ) : List (κ × ν) → Option ν
  | [] => none
  | e :: rest => if compare k e.1 = .eq then some e.2 else find? k rest

def Ascending (entries : List (κ × ν)) : Prop :=
  entries.Pairwise fun a b ↦ compare a.1 b.1 = .lt

theorem mem_insert {k : κ} {v : ν} {entries : List (κ × ν)} {e : κ × ν}
    (h : e ∈ insert k v entries) : e = (k, v) ∨ e ∈ entries := by
  induction entries with
  | nil => simpa [insert] using h
  | cons e' rest ih =>
    simp only [insert] at h
    split at h <;> simp only [List.mem_cons] at h ⊢ <;> grind

theorem find?_insert [Std.LawfulEqOrd κ] [DecidableEq κ] (k k' : κ) (v : ν)
    (entries : List (κ × ν)) :
    find? k' (insert k v entries) = if k' = k then some v else find? k' entries := by
  have h : ∀ a b : κ, compare a b = .eq ↔ a = b :=
    fun a b ↦ Std.LawfulEqCmp.compare_eq_iff_eq
  induction entries with
  | nil => simp [insert, find?, h]
  | cons e rest ih =>
    simp only [insert]
    split <;> simp only [find?, h] <;> grind

theorem ascending_insert [Std.TransOrd κ] (k : κ) (v : ν) {entries : List (κ × ν)}
    (h : Ascending entries) : Ascending (insert k v entries) := by
  induction entries with
  | nil => simp [insert, Ascending]
  | cons e rest ih =>
    obtain ⟨he, hrest⟩ := List.pairwise_cons.1 h
    simp only [insert]
    split
    · rename_i hk
      refine List.pairwise_cons.2 ⟨fun e' h' ↦ ?_, h⟩
      rcases List.mem_cons.1 h' with rfl | h'
      · exact hk
      · exact Std.TransCmp.lt_trans hk (he e' h')
    · rename_i hk
      exact List.pairwise_cons.2 ⟨fun e' h' ↦ Std.TransCmp.lt_of_eq_of_lt hk (he e' h'), hrest⟩
    · rename_i hk
      refine List.pairwise_cons.2 ⟨fun e' h' ↦ ?_, ih hrest⟩
      rcases mem_insert h' with rfl | h'
      · exact Std.OrientedCmp.gt_iff_lt.1 hk
      · exact he e' h'

theorem find?_eq_some_iff [Std.LawfulEqOrd κ] {entries : List (κ × ν)} (h : Ascending entries)
    {k : κ} {v : ν} : find? k entries = some v ↔ (k, v) ∈ entries := by
  induction entries with
  | nil => simp [find?]
  | cons e rest ih =>
    obtain ⟨he, hrest⟩ := List.pairwise_cons.1 h
    obtain ⟨k', v'⟩ := e
    simp only [find?, Std.LawfulEqCmp.compare_eq_iff_eq, List.mem_cons, Prod.mk.injEq, ← ih hrest]
    by_cases hk : k = k'
    · subst hk
      have hn : find? k rest ≠ some v := fun hf ↦ by
        simpa [Std.compare_self] using he _ ((ih hrest).1 hf)
      simp [hn, eq_comm]
    · simp [hk]

end Entries

structure OrderedMap (κ ν : Type) [Ord κ] where
  entries : List (κ × ν)
  ascending : Entries.Ascending entries

namespace OrderedMap

instance [DecidableEq κ] [DecidableEq ν] : DecidableEq (OrderedMap κ ν) := fun m n ↦
  decidable_of_iff (m.entries = n.entries) (by cases m; cases n; simp)

def empty : OrderedMap κ ν := ⟨[], .nil⟩

instance : Inhabited (OrderedMap κ ν) := ⟨empty⟩

def keys (m : OrderedMap κ ν) : List κ := m.entries.map Prod.fst

def values (m : OrderedMap κ ν) : List ν := m.entries.map Prod.snd

def size (m : OrderedMap κ ν) : Nat := m.entries.length

def find? (m : OrderedMap κ ν) (k : κ) : Option ν := Entries.find? k m.entries

theorem find?_eq_some_iff [Std.LawfulEqOrd κ] {m : OrderedMap κ ν} {k : κ} {v : ν} :
    m.find? k = some v ↔ (k, v) ∈ m.entries :=
  Entries.find?_eq_some_iff m.ascending

variable [Std.TransOrd κ]

def insert (m : OrderedMap κ ν) (k : κ) (v : ν) : OrderedMap κ ν :=
  ⟨Entries.insert k v m.entries, Entries.ascending_insert k v m.ascending⟩

/-- The map of a list of entries; of entries with one key the last one stays. -/
def ofList (entries : List (κ × ν)) : OrderedMap κ ν :=
  entries.foldl (fun m e ↦ m.insert e.1 e.2) empty

@[simp]
theorem find?_insert [Std.LawfulEqOrd κ] [DecidableEq κ] (m : OrderedMap κ ν) (k k' : κ) (v : ν) :
    (m.insert k v).find? k' = if k' = k then some v else m.find? k' :=
  Entries.find?_insert k k' v m.entries

end OrderedMap

end EntityWire
