import EntityWire.Proofs.Json.Reader
import EntityWire.Scene.File

namespace EntityWire.Scene

open Json Json.Reader

variable {P : Json → Prop}

namespace Entry

def All (P : Json → Prop) (e : Entry) : Prop := ∀ c ∈ e.components, P c.2

def Numeric (e : Entry) : Prop := ∀ c ∈ e.components, c.2.Numeric

theorem gives_readComponents {depth : Nat} (hv : (value depth).Gives P) :
    (readComponents depth).Gives fun components ↦ ∀ c ∈ components, P c.2 := by
  refine gives_bind fun c ↦ ?_
  split
  · exact gives_fail _
  · refine gives_bind fun _ ↦ (gives_members hv).bind fun members hm ↦ ?_
    exact gives_pure fun m hr ↦ hm m (List.mem_reverse.1 hr)
  · exact gives_wrongKind _

def Found.All (P : Json → Prop) (found : Found) : Prop :=
  ∀ components, found.components = some components → ∀ c ∈ components, P c.2

theorem gives_readMember {depth : Nat} (hv : (value depth).Gives P) {found : Found}
    (h : found.All P) : (readMember depth found).Gives (Found.All P) := by
  refine gives_bind fun _ ↦ gives_bind fun key ↦ ?_
  split
  · split
    · exact gives_fail _
    · exact gives_bind fun _ ↦ gives_bind fun id ↦ gives_pure h
  split
  · split
    · exact gives_fail _
    · refine gives_bind fun _ ↦ (gives_readComponents hv).bind fun components hc ↦ ?_
      exact gives_pure fun _ he ↦ Option.some.inj he ▸ hc
  · exact gives_bind fun _ ↦ gives_bind fun _ ↦ gives_pure h

theorem gives_read {depth : Nat} (hv : (value depth).Gives P) : (read depth).Gives (All P) := by
  refine gives_bind fun c ↦ ?_
  split
  · exact gives_fail _
  · refine gives_bind fun _ ↦ gives_bind fun more ↦ ?_
    split
    · refine gives_bind fun id ↦ gives_bind fun more ↦ ?_
      have finish : ∀ components : List (String × Json), (∀ c ∈ components, P c.2) →
          (do listEnd; return ⟨id, components⟩ : Reader Entry).Gives (All P) :=
        fun _ hc ↦ gives_bind fun _ ↦ gives_pure hc
      split
      · exact (gives_readComponents hv).bind finish
      · exact finish [] fun _ hc ↦ nomatch hc
    · exact gives_fail _
  · have start : Found.All P {} := fun _ he ↦ nomatch he
    refine gives_bind fun _ ↦
      (gives_objectOf (fun _ h ↦ gives_readMember hv h) start).bind fun found hf ↦ ?_
    split
    · refine gives_pure fun c hc ↦ ?_
      cases hs : found.components with
      | none => simp [hs] at hc
      | some components => exact hf components hs c (by simpa [hs] using hc)
    · exact gives_fail _
  · exact gives_wrongKind _

end Entry

namespace File

def All (P : Json → Prop) (f : File) : Prop := ∀ e ∈ f.entries, e.All P

def Numeric (f : File) : Prop := ∀ e ∈ f.entries, e.Numeric

variable (hv : (value valueDepth).Gives P)

include hv

theorem gives_readEntries : readEntries.Gives fun entries ↦ ∀ e ∈ entries, e.All P := by
  refine gives_bind fun c ↦ ?_
  split
  · exact gives_fail _
  · exact gives_bind fun _ ↦ gives_listOf (Entry.gives_read hv)
  · exact gives_wrongKind _

theorem gives_readMember {found : Option (List Entry)}
    (h : ∀ entries, found = some entries → ∀ e ∈ entries, e.All P) :
    (readMember found).Gives fun found ↦
      ∀ entries, found = some entries → ∀ e ∈ entries, e.All P := by
  refine gives_bind fun _ ↦ gives_bind fun key ↦ ?_
  split
  · split
    · exact gives_fail _
    · refine gives_bind fun _ ↦ (gives_readEntries hv).bind fun entries he ↦ ?_
      exact gives_pure fun _ hs ↦ Option.some.inj hs ▸ he
  · exact gives_bind fun _ ↦ gives_bind fun _ ↦ gives_pure h

theorem gives_read : read.Gives (All P) := by
  refine gives_bind fun c ↦ ?_
  split
  · exact gives_fail _
  · refine gives_bind fun _ ↦ gives_bind fun more ↦ ?_
    split
    · exact (gives_readEntries hv).bind fun entries he ↦ gives_bind fun _ ↦ gives_pure he
    · exact gives_fail _
  · have start : ∀ entries, (none : Option (List Entry)) = some entries →
        ∀ e ∈ entries, e.All P := fun _ he ↦ nomatch he
    refine gives_bind fun _ ↦
      (gives_objectOf (fun _ h ↦ gives_readMember hv h) start).bind fun found hf ↦ ?_
    split
    · exact gives_pure (hf _ rfl)
    · exact gives_fail _
  · exact gives_wrongKind _

theorem all_of_parse {s : String} {f : File} (h : parse s = .ok f) : f.All P := by
  obtain ⟨p, hp, h⟩ := of_bind_ok h
  dsimp only at h
  split at h
  · exact Except.ok.inj h ▸ gives_read hv hp
  · nomatch h

omit hv

theorem numeric_of_parse {s : String} {f : File} (h : parse s = .ok f) : f.Numeric :=
  all_of_parse (gives_value valueDepth) h

end File

end EntityWire.Scene
