import EntityWire.Proofs.Registry.Transfer

namespace EntityWire

/-- What is built anew takes the place of the old, or its error leaves the old as it was. -/
structure Replaces {ε γ : Type} (fresh : Except ε γ) (old : γ) (filled : γ × Except ε Unit) :
    Prop where
  made {new : γ} (h : fresh = .ok new) : filled = (new, .ok ())
  kept {e : ε} (h : fresh = .error e) : filled = (old, .error e)

namespace Replaces

variable {ε γ : Type} {fresh : Except ε γ} {old : γ} {filled : γ × Except ε Unit}

theorem of_error (h : Replaces fresh old filled) {e : ε} (he : filled.2 = .error e) :
    fresh = .error e ∧ filled.1 = old := by
  cases hx : fresh with
  | ok new =>
    rw [h.made hx] at he
    nomatch he
  | error e' =>
    rw [h.kept hx] at he ⊢
    exact ⟨congrArg _ (Except.error.inj he), rfl⟩

theorem map {ε' γ' : Type} (h : Replaces fresh old filled) (f : γ → γ') (g : ε → ε') :
    Replaces ((fresh.map f).mapError g) (f old) (f filled.1, filled.2.mapError g) := by
  cases hx : fresh with
  | ok new =>
    rw [h.made hx]
    exact ⟨fun hn ↦ Except.ok.inj hn ▸ rfl, nofun⟩
  | error e =>
    rw [h.kept hx]
    exact ⟨nofun, fun he ↦ Except.error.inj he ▸ rfl⟩

end Replaces

variable {K : Type} [Kinds K]

theorem Component.replaces_fill {k : K} (c : Component k) (s : Octets) :
    Replaces (ofOctets s) c (c.fill s) := by
  unfold ofOctets fill
  cases Kinds.decode k s with
  | ok v => exact ⟨fun h ↦ Except.ok.inj h ▸ rfl, nofun⟩
  | error e => exact ⟨nofun, fun h ↦ Except.error.inj h ▸ rfl⟩

namespace Descriptor

theorem deserialize_of_ne {d : Descriptor K} {h : Handle K} (hk : h.kind ≠ d.kind) (s : Octets) :
    d.deserialize h s = (h, .error (.kindMismatch d.name d.typeName h.typeName)) := by
  have hc : d.checkKind h = .error (.kindMismatch d.name d.typeName h.typeName) := if_neg hk
  rw [deserialize, hc]

theorem replaces_deserialize (n : String) {k : K} (c : Component k) (s : Octets) :
    Replaces (((Component.ofOctets s).map (Handle.mk k)).mapError RegistryError.content) ⟨k, c⟩
      ((ofKind n k).deserialize ⟨k, c⟩ s) := by
  rw [deserialize_ofKind]
  exact (c.replaces_fill s).map (Handle.mk k) RegistryError.content

end Descriptor

/-- How a handle is filled where a descriptor's kind is expected: one of another kind is refused
whatever the octets are, and one of that kind becomes what is built from them. -/
structure FillsAs (d : Descriptor K) (fresh : Except RegistryError (Handle K)) (h : Handle K)
    (filled : Handle K × Except RegistryError Unit) : Prop where
  mismatch_iff : filled.2 = .error (.kindMismatch d.name d.typeName h.typeName) ↔ h.kind ≠ d.kind
  replaces (hk : h.kind = d.kind) : Replaces fresh h filled
  /-- What else can be wrong is wrong with the octets. -/
  content {e : RegistryError} (hk : h.kind = d.kind) (he : filled.2 = .error e) :
    ∃ fault, e = .content fault
  kept {e : RegistryError} (he : filled.2 = .error e) : filled.1 = h
  kind : filled.1.kind = h.kind

namespace Registry

variable {r : Registry K} {n : String} {d : Descriptor K} {h : Handle K} {s : Octets}

theorem fillsAs_of_ne (hk : h.kind ≠ d.kind) (fresh : Except RegistryError (Handle K)) :
    FillsAs d fresh h (d.deserialize h s) := by
  rw [Descriptor.deserialize_of_ne hk]
  exact ⟨iff_of_true rfl hk, fun he ↦ absurd he hk, fun he ↦ absurd he hk, fun _ ↦ rfl, rfl⟩

theorem Registered.fillsAs (hr : r.Registered) (hd : r.descriptor n = .ok d) (h : Handle K)
    (s : Octets) : FillsAs d (r.deserialize n s) h (d.deserialize h s) := by
  by_cases hk : h.kind = d.kind
  · obtain ⟨k, c⟩ := h
    obtain rfl : d = .ofKind n k := (hr.eq_ofKind (find?_of_descriptor hd)).trans (hk ▸ rfl)
    have hf := deserialize_eq hd s
    have hs : Replaces (r.deserialize n s) ⟨k, c⟩ ((Descriptor.ofKind n k).deserialize ⟨k, c⟩ s) :=
      hf ▸ Descriptor.replaces_deserialize n c s
    have content : ∀ {e}, ((Descriptor.ofKind n k).deserialize ⟨k, c⟩ s).2 = .error e →
        ∃ fault, e = .content fault := by
      intro e he
      have hx := (hs.of_error he).1
      rw [hf, mapError_error_iff] at hx
      obtain ⟨fault, -, hm⟩ := hx
      exact ⟨fault, hm⟩
    refine ⟨iff_of_false (fun he ↦ ?_) (fun hn ↦ hn hk), fun _ ↦ hs, fun _ ↦ content,
      fun he ↦ (hs.of_error he).2, ?_⟩
    · obtain ⟨fault, hm⟩ := content he
      nomatch hm
    · cases hx : r.deserialize n s with
      | error e => rw [hs.kept hx]
      | ok g =>
        rw [hs.made hx]
        rw [hf] at hx
        obtain ⟨c', -, rfl⟩ := of_map_ok (of_mapError_ok hx)
        rfl
  · exact fillsAs_of_ne hk _

/-- What a registry promises to those who fill a handle under a name. -/
structure Filling (r : Registry K) (n : String) (h : Handle K) (s : Octets) : Prop where
  unknown_iff : (r.deserializeInto n h s).2 = .error (.unknownName n) ↔ r.hasName n = false
  unknown (hn : r.hasName n = false) : r.deserialize n s = .error (.unknownName n)
  known {d : Descriptor K} (hd : r.descriptor n = .ok d) :
    FillsAs d (r.deserialize n s) h (r.deserializeInto n h s)
  described {d : Descriptor K} (hd : r.descriptor n = .ok d) :
    FillsAs d (r.deserialize n s) h (d.deserialize h s)
  component : Replaces (Component.ofOctets s) h.component (h.component.fill s)
  kept {e : RegistryError} (he : (r.deserializeInto n h s).2 = .error e) :
    (r.deserializeInto n h s).1 = h
  kind : (r.deserializeInto n h s).1.kind = h.kind

theorem filling_agrees_with_building (hr : r.Registered) (n : String) (h : Handle K) (s : Octets) :
    Filling r n h s := by
  -- A name that is not known fails in both ways before the octets are looked at.
  cases hd : r.descriptor n with
  | error e =>
    obtain ⟨hn, rfl⟩ := descriptor_eq_error_iff.1 hd
    have hi : r.deserializeInto n h s = (h, .error (.unknownName n)) := by rw [deserializeInto, hd]
    have hf : r.deserialize n s = .error (.unknownName n) := by
      rw [deserialize, hd]
      rfl
    constructor
    case unknown_iff => exact iff_of_true (by rw [hi]) hn
    case unknown => exact fun _ ↦ hf
    case known => exact fun hk ↦ absurd (hd.symm.trans hk) error_ne_ok
    case described => exact fun hk ↦ absurd (hd.symm.trans hk) error_ne_ok
    case component => exact h.component.replaces_fill s
    case kept => exact fun _ ↦ by rw [hi]
    case kind => rw [hi]
  | ok d =>
    have hi : r.deserializeInto n h s = d.deserialize h s := by rw [deserializeInto, hd]
    have hf := hr.fillsAs hd h s
    have unknown : r.hasName n ≠ false := fun hn ↦
      error_ne_ok ((descriptor_eq_error_iff.2 ⟨hn, rfl⟩).symm.trans hd)
    have described : ∀ {d'}, r.descriptor n = .ok d' →
        FillsAs d' (r.deserialize n s) h (d'.deserialize h s) := fun hk ↦ hr.fillsAs hk h s
    constructor
    case unknown_iff =>
      refine iff_of_false (fun he ↦ ?_) unknown
      rw [hi] at he
      by_cases hk : h.kind = d.kind
      · obtain ⟨fault, hm⟩ := hf.content hk he
        cases hm
      · cases (hf.mismatch_iff.2 hk).symm.trans he
    case unknown => exact fun hn ↦ absurd hn unknown
    case known =>
      intro d' hk
      obtain rfl := Except.ok.inj (hd.symm.trans hk)
      exact hi ▸ hf
    case described => exact described
    case component => exact h.component.replaces_fill s
    case kept => exact hi ▸ hf.kept
    case kind => exact hi ▸ hf.kind

end Registry

/-- The kinds of a program of its own: one travels as it is, and the message of the other may lack
what it is for. -/
inductive Ware
  | health
  | label
  deriving DecidableEq

namespace Ware

structure LabelMessage where
  text : Option String

instance : Wire.Codec LabelMessage where
  form := (Wire.Form.record "LabelMsg" (.cons (.optional "text" .text) .nil)).via
    (fun (text, _) ↦ ⟨text⟩) (fun m ↦ (m.text, ()))

instance : Message.Carries LabelMessage String where
  toMessage s := ⟨some s⟩
  ofMessage
    | ⟨some s⟩ => .ok s
    | ⟨none⟩ => .error (.missingField "text")

def tag : Ware → String
  | .health => "HealthTag"
  | .label => "LabelTag"

instance : Kinds Ware where
  decEq := instDecidableEqWare
  Value
    | .health => Binary32
    | .label => String
  default
    | .health => .zero
    | .label => ""
  same
    | .health => Binary32.same
    | .label => fun a b ↦ decide (a = b)
  describe
    | .health => display (α := Binary32)
    | .label => display (α := String)
  encode
    | .health, v => .ok (Carriage.encode (.direct .single) v)
    | .label, v => .ok (Carriage.encodeAs (P := String) LabelMessage v)
  decode
    | .health => Carriage.decode (.direct .single)
    | .label => Carriage.decodeAs (P := String) LabelMessage
  tag := tag
  typeName k := "Component<" ++ k.tag ++ ">"
  identity k := "TypeId(" ++ k.tag ++ ")"

def registry : Registry Ware := .ofList [("Health", health), ("Label", label)]

def kept : Handle Ware := ⟨label, ⟨"keep"⟩⟩

end Ware

namespace Registry

def brokenFlag : Octets := [0x81, 0xa4, 0x64, 0x61]

/-- A flag whose octets break off and a label whose message has no text; neither changes. -/
theorem refused_octets_fill_nothing :
    (builtin.Registered ∧ Filling builtin "Static" ⟨Builtin.static, ⟨true⟩⟩ brokenFlag ∧
      builtin.deserializeInto "Static" ⟨Builtin.static, ⟨true⟩⟩ brokenFlag =
        (⟨Builtin.static, ⟨true⟩⟩, .error (.content (.decode (.short .content))))) ∧
    Ware.registry.Registered ∧
      Ware.registry.deserializeInto "Label" Ware.kept (Wire.encode (⟨none⟩ : Ware.LabelMessage)) =
        (Ware.kept, .error (.content (.missingField "text"))) ∧
      (Ware.registry.deserializeInto "Health" Ware.kept []).2 = .error
        (.kindMismatch "Health" "Component<HealthTag>" "Component<LabelTag>") := by
  have hr : builtin.Registered := registered_ofList Builtin.all
  have hd : builtin.descriptor "Static" = .ok (.ofKind "Static" Builtin.static) :=
    hr.descriptor_of_nameOfKind (nameOfKind_builtin ("Static", Builtin.static) (by decide))
  have hf := filling_agrees_with_building hr "Static" ⟨Builtin.static, ⟨true⟩⟩ brokenFlag
  have hw : Ware.registry.Registered := registered_ofList _
  have hl : Ware.registry.descriptor "Label" = .ok (.ofKind "Label" .label) := rfl
  have hh : Ware.registry.descriptor "Health" = .ok (.ofKind "Health" .health) := rfl
  refine ⟨⟨hr, hf, ((hf.known hd).replaces rfl).kept ?_⟩, hw, ?_, ?_⟩
  · rw [deserialize_eq hd]
    rfl
  · have hk := (filling_agrees_with_building hw "Label" Ware.kept
      (Wire.encode (⟨none⟩ : Ware.LabelMessage))).known hl
    refine (hk.replaces rfl).kept ?_
    rw [deserialize_eq hl]
    rfl
  · have hk := (filling_agrees_with_building hw "Health" Ware.kept []).known hh
    exact hk.mismatch_iff.2 nofun

end Registry

end EntityWire
