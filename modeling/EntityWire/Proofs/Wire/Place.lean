import EntityWire.Proofs.Wire.Head
import EntityWire.Wire.Record

namespace EntityWire.Wire

/-- A field of a record by where it stands among the others. -/
inductive Place (α : Type) : List Type → Type 1
  | here {Γ : List Type} : Place α (α :: Γ)
  | there {β : Type} {Γ : List Type} (p : Place α Γ) : Place α (β :: Γ)

namespace Place

variable {α β : Type} {Γ : List Type}

def index : {Γ : List Type} → Place α Γ → Nat
  | _, .here => 0
  | _, .there p => p.index + 1

def field : {Γ : List Type} → Place α Γ → Fields Γ → Field α
  | _, .here, .cons field _ => field
  | _, .there p, .cons _ rest => p.field rest

def get : {Γ : List Type} → Place α Γ → Slots Γ → Option α
  | _, .here, (slot, _) => slot
  | _, .there p, (_, slots) => p.get slots

def put : {Γ : List Type} → Place α Γ → Option α → Slots Γ → Slots Γ
  | _, .here, x, (_, slots) => (x, slots)
  | _, .there p, x, (slot, slots) => (slot, p.put x slots)

def value : {Γ : List Type} → Place α Γ → Row Γ → α
  | _, .here, (a, _) => a
  | _, .there p, (_, row) => p.value row

def set : {Γ : List Type} → Place α Γ → α → Row Γ → Row Γ
  | _, .here, a, (_, row) => (a, row)
  | _, .there p, a, (b, row) => (b, p.set a row)

@[simp] theorem get_put (p : Place α Γ) (x : Option α) (slots : Slots Γ) :
    p.get (p.put x slots) = x := by
  induction p with
  | here => rfl
  | there p ih => exact ih slots.2

@[simp] theorem put_get (p : Place α Γ) (slots : Slots Γ) : p.put (p.get slots) slots = slots := by
  induction p with
  | here => rfl
  | there p ih => exact congrArg (Prod.mk slots.1) (ih slots.2)

theorem get_put_of_ne {p : Place α Γ} {q : Place β Γ} (h : p.index ≠ q.index) (x : Option β)
    (slots : Slots Γ) : p.get (q.put x slots) = p.get slots := by
  induction p with
  | here =>
    cases q with
    | here => exact absurd rfl h
    | there q => rfl
  | there p ih =>
    cases q with
    | here => rfl
    | there q => exact ih (fun he ↦ h (congrArg (· + 1) he)) slots.2

theorem put_comm {p : Place α Γ} {q : Place β Γ} (h : p.index ≠ q.index) (x : Option α)
    (y : Option β) (slots : Slots Γ) : p.put x (q.put y slots) = q.put y (p.put x slots) := by
  induction p with
  | here =>
    cases q with
    | here => exact absurd rfl h
    | there q => rfl
  | there p ih =>
    cases q with
    | here => rfl
    | there q => exact congrArg _ (ih (fun he ↦ h (congrArg (· + 1) he)) slots.2)

theorem eq_of_index {p : Place α Γ} {q : Place β Γ} (h : p.index = q.index) :
    (⟨α, p⟩ : Σ α, Place α Γ) = ⟨β, q⟩ := by
  induction p with
  | here =>
    cases q with
    | here => rfl
    | there q => nomatch h
  | there p ih =>
    cases q with
    | here => nomatch h
    | there q =>
      cases ih (Nat.succ.inj h)
      rfl

variable {p : Place α Γ} {fields : Fields Γ} {slots : Slots Γ}

theorem get_of_map_put {ε : Type} {x : Except ε (Slots Γ)} {slots' : Slots Γ}
    (hx : x = x.map (p.put (p.get slots))) (h : x = .ok slots') : p.get slots' = p.get slots := by
  rw [h] at hx
  rw [Except.ok.inj hx, get_put]

theorem get_noSlots (p : Place α Γ) (fields : Fields Γ) : p.get fields.noSlots = none := by
  induction p with
  | here =>
    cases fields
    rfl
  | there p ih =>
    cases fields with
    | cons field rest => exact ih rest

theorem complete_put {a : α} (hs : (p.field fields).standing = some a) (hg : p.get slots = none)
    (d : α) :
    fields.complete (p.put (some d) slots) = (fields.complete slots).map (p.set d) := by
  induction p with
  | here =>
    cases fields with
    | cons field rest =>
      obtain ⟨slot, slots⟩ := slots
      obtain rfl : slot = none := hg
      have hs : field.standing = some a := hs
      rw [put, Fields.complete, Fields.complete, hs]
      dsimp only [Option.or]
      cases rest.complete slots <;> rfl
  | there p ih =>
    cases fields with
    | cons field rest =>
      obtain ⟨slot, slots⟩ := slots
      rw [put, Fields.complete, Fields.complete]
      cases slot.or field.standing with
      | none => rfl
      | some b =>
        dsimp only
        rw [ih hs hg]
        cases rest.complete slots <;> rfl

theorem value_of_complete {a : α} (hs : (p.field fields).standing = some a)
    (hg : p.get slots = none) {row : Row Γ} (h : fields.complete slots = .ok row) :
    p.value row = a := by
  induction p with
  | here =>
    cases fields with
    | cons field rest =>
      obtain ⟨slot, slots⟩ := slots
      obtain rfl : slot = none := hg
      have hs : field.standing = some a := hs
      rw [Fields.complete, hs] at h
      obtain ⟨row', -, rfl⟩ := of_map_ok h
      rfl
  | there p ih =>
    cases fields with
    | cons field rest =>
      obtain ⟨slot, slots⟩ := slots
      rw [Fields.complete] at h
      cases ho : slot.or field.standing with
      | none =>
        rw [ho] at h
        nomatch h
      | some b =>
        rw [ho] at h
        obtain ⟨row', hr, rfl⟩ := of_map_ok h
        exact ih hs hg hr

end Place

namespace Fields

variable {Γ : List Type}

def place? : {Γ : List Type} → Fields Γ → Key → Option (Σ α, Place α Γ)
  | _, .nil, _ => none
  | _, .cons _ _, .index 0 => some ⟨_, .here⟩
  | _, .cons _ rest, .index (n + 1) => (rest.place? (.index n)).map fun p ↦ ⟨p.1, .there p.2⟩
  | _, .cons field rest, .name s =>
    if s = Utf8.encode field.name then some ⟨_, .here⟩
    else (rest.place? (.name s)).map fun p ↦ ⟨p.1, .there p.2⟩

theorem assign_eq (levels : Nat) (fields : Fields Γ) (key : Key) (slots : Slots Γ) :
    fields.assign levels key slots = (fields.place? key).map fun p ↦
      ((p.2.field fields).fill levels (p.2.get slots)).bind fun a ↦
        .done (p.2.put (some a) slots) := by
  induction fields generalizing key with
  | nil => rfl
  | @cons α Γ field rest ih =>
    obtain ⟨slot, slots⟩ := slots
    have there (key : Key) : ((rest.assign levels key slots).map fun scan ↦ scan.bind fun slots ↦
        .done ((slot, slots) : Slots (α :: Γ))) =
        ((rest.place? key).map fun p ↦ (⟨p.1, .there p.2⟩ : Σ β, Place β (α :: Γ))).map fun p ↦
          ((p.2.field (.cons field rest)).fill levels (p.2.get (slot, slots))).bind fun a ↦
            .done (p.2.put (some a) (slot, slots)) := by
      rw [ih, Option.map_map, Option.map_map]
      congr 1
      funext p
      exact Scan.bind_assoc _ _ _
    -- A key that is not for the first field goes on to the rest, an index as its predecessor.
    match key with
    | .index 0 => rfl
    | .index (n + 1) => exact there (.index n)
    | .name s =>
      by_cases hs : s = Utf8.encode field.name
      · rw [place?, if_pos hs]
        exact if_pos hs
      · rw [place?, if_neg hs]
        exact (if_neg hs).trans (there (.name s))

theorem place?_name_eq_none {fields : Fields Γ} {s : Octets}
    (h : ∀ name ∈ fields.names, s ≠ Utf8.encode name) : fields.place? (.name s) = none := by
  induction fields with
  | nil => rfl
  | cons field rest ih =>
    obtain ⟨hf, hrest⟩ := List.forall_mem_cons.1 h
    rw [place?, if_neg hf, ih hrest]
    rfl

theorem name_of_place? {α : Type} {fields : Fields Γ} {s : Octets} {p : Place α Γ}
    (h : fields.place? (.name s) = some ⟨α, p⟩) : s = Utf8.encode (p.field fields).name := by
  induction fields with
  | nil => nomatch h
  | cons field rest ih =>
    rw [place?] at h
    split at h
    · next hs =>
      cases h
      exact hs
    · obtain ⟨q, hq, he⟩ := Option.map_eq_some_iff.1 h
      cases he
      exact ih hq

theorem place?_name_isSome {fields : Fields Γ} {name : String} (h : name ∈ fields.names) :
    (fields.place? (.name (Utf8.encode name))).isSome := by
  induction fields with
  | nil => nomatch h
  | cons field rest ih =>
    rw [place?]
    split
    · rfl
    · next hn =>
      have hr : name ∈ rest.names := by
        rcases List.mem_cons.1 h with rfl | hr
        · exact absurd rfl hn
        · exact hr
      rw [Option.isSome_map]
      exact ih hr

end Fields

end EntityWire.Wire
