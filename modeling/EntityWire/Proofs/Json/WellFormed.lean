import EntityWire.Proofs.Json.Pack
import EntityWire.Proofs.Wire.WellFormed

namespace EntityWire.Json

open Wire

variable {levels : Nat} {j : Json} {s : Octets}

/-- Values whose lengths can be written, and that need no more levels than there are. -/
structure Portable (levels : Nat) (j : Json) : Prop where
  short : Each Short j
  within : j.Within levels

def dialect : Dialect := ⟨fun s ↦ ∃ chars, Utf8.decode s = .ok chars, False⟩

theorem wellFormed_text {s : String} (h : (Utf8.encode s).length < 0x100000000) (levels : Nat) :
    WellFormed dialect levels (writeText s) :=
  .text (begins_textHead h) ⟨s, Utf8.decode_encode s⟩

theorem packItems_eq (items : List Json) : packItems items = (items.map pack).flatten := by
  induction items with
  | nil => rfl
  | cons j items ih => rw [packItems, ih, List.map_cons, List.flatten_cons]

def packMember (m : String × Json) : Octets × Octets := (writeText m.1, m.2.pack)

theorem packMembers_eq (members : List (String × Json)) :
    packMembers members = (members.map packMember).flatMap fun e ↦ e.1 ++ e.2 := by
  induction members with
  | nil => rfl
  | cons m members ih => rw [packMembers, ih, List.map_cons, List.flatMap_cons, packMember]

theorem Portable.wellFormed (h : j.Portable levels) : WellFormed dialect levels j.pack := by
  obtain ⟨hs, hw⟩ := h
  induction hs generalizing levels with
  | @intro j h _ ih =>
    cases j with
    | null => exact .scalar begins_null
    | bool b => exact .scalar (begins_bool b)
    | unsigned n => exact .scalar (begins_unsigned n.toNat_lt)
    | signed n =>
      obtain ⟨c, -, hb⟩ := begins_signed n
      exact .scalar hb
    | float x => exact .scalar (begins_double x)
    | text s => exact wellFormed_text h levels
    | array items =>
      -- An array or an object takes a level of its own, so some level is left for it.
      cases levels with
      | zero => exact hw.elim
      | succ levels =>
        rw [pack, packItems_eq]
        have hb : Begins (sequenceHead items.length) (.sequence (items.map pack).length) := by
          rw [List.length_map]
          exact begins_sequenceHead h
        exact .sequence (absurd · (Nat.succ_ne_zero levels)) hb
          (List.forall_mem_map.2 fun c hc ↦ ih c hc (hw c hc))
    | object members =>
      cases levels with
      | zero => exact hw.elim
      | succ levels =>
        rw [pack, packMembers_eq]
        have hb : Begins (mappingHead members.length)
            (.mapping (members.map packMember).length) := by
          rw [List.length_map]
          exact begins_mappingHead h.1
        refine .mapping (absurd · (Nat.succ_ne_zero levels)) hb ?_ ?_
        · exact List.forall_mem_map.2 fun m hm ↦ wellFormed_text (h.2 m hm) levels
        · refine List.forall_mem_map.2 fun m hm ↦ ?_
          have hc : m.2 ∈ (Json.object members).children := List.mem_map_of_mem hm
          exact ih m.2 hc (hw m.2 hc)

theorem ofContent_of_ofValue {r : Refusal} (h : r.OfValue dialect) : r.OfContent := by
  rcases h with h | ⟨s, fault, ⟨chars, hc⟩, hd, -⟩ | ⟨hd, -⟩
  · exact h
  · nomatch hc.symm.trans hd
  · exact hd.elim

end EntityWire.Json
