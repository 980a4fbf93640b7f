import EntityWire.Text.Hex
import Mathlib.Data.List.Basic

namespace EntityWire.Hex

/-- A text of two lower-case digits for each octet, which gives the octets back. -/
structure Spells (text : String) (s : Octets) : Prop where
  length : text.length = 2 * s.length
  digits : ∀ c ∈ text.toList, c ∈ "0123456789abcdef".toList
  read : read text = some s

theorem value?_digit : ∀ {n : Nat}, n < 16 → value? (digit n) = some n := by decide

theorem digit_mem : ∀ {n : Nat}, n < 16 → digit n ∈ "0123456789abcdef".toList := by decide

theorem toList_write (s : Octets) :
    (write s).toList = s.flatMap fun b ↦ [digit (b.toNat / 16), digit (b.toNat % 16)] :=
  String.toList_ofList

theorem high_lt (b : UInt8) : b.toNat / 16 < 16 := by
  have hb := b.toNat_lt
  omega

theorem low_lt (b : UInt8) : b.toNat % 16 < 16 := Nat.mod_lt _ (by decide)

theorem read_write (s : Octets) : read (write s) = some s := by
  rw [read, toList_write]
  induction s with
  | nil => rfl
  | cons b s ih =>
    have hb : UInt8.ofNat (16 * (b.toNat / 16) + b.toNat % 16) = b := by
      rw [Nat.div_add_mod, UInt8.ofNat_toNat]
    rw [List.flatMap_cons, List.cons_append, List.cons_append, List.nil_append, readDigits,
      value?_digit (high_lt b), value?_digit (low_lt b), ih]
    exact congrArg (fun b ↦ some (b :: s)) hb

theorem spells_write (s : Octets) : Spells (write s) s where
  length := by
    rw [← String.length_toList, toList_write]
    induction s with
    | nil => rfl
    | cons b s ih =>
      rw [List.flatMap_cons, List.length_append, ih, List.length_cons]
      exact Nat.add_comm 2 _
  digits := by
    intro c hc
    rw [toList_write, List.mem_flatMap] at hc
    obtain ⟨b, -, hb⟩ := hc
    rcases List.mem_pair.1 hb with rfl | rfl
    · exact digit_mem (high_lt b)
    · exact digit_mem (low_lt b)
  read := read_write s

end EntityWire.Hex
