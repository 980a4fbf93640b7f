import EntityWire.Component.Kind
import EntityWire.Proofs.Message.Domain
import EntityWire.Proofs.Message.Resolves
import EntityWire.Proofs.Wire.Defaults
import EntityWire.Proofs.Wire.Written
import Mathlib.Logic.Relation

namespace EntityWire.Message

open Wire

namespace Vector3

def defaults : Preds [Binary64, Binary64, Binary64] :=
  .cons (· = .zero) <| .cons (· = .zero) <| .cons (· = .zero) .nil

end Vector3

namespace Quaternion

def defaults : Preds [Binary64, Binary64, Binary64, Binary64] :=
  .cons (· = .zero) <| .cons (· = .zero) <| .cons (· = .zero) <| .cons (· = .one) .nil

end Quaternion

namespace Pose

/-- Of an optional field the unit is a default too; the name may be anything. -/
def defaults : Preds [Option String, Option Vector3, Option Quaternion] :=
  .cons (fun _ ↦ True) <| .cons (∀ v ∈ ·, v = ⟨.zero, .zero, .zero⟩) <|
    .cons (∀ q ∈ ·, q = ⟨.zero, .zero, .zero, .one⟩) .nil

def positionPlace : Place (Option Vector3) [Option String, Option Vector3, Option Quaternion] :=
  .there .here

def orientationPlace :
    Place (Option Quaternion) [Option String, Option Vector3, Option Quaternion] :=
  .there (.there .here)

end Pose

namespace Coordinates

/-- The latitude and the longitude have no default but the unit. -/
def defaults : Preds [Option SurfaceModel, Option Binary64, Option Binary64, Option Binary64,
    Option Binary64] :=
  .cons (∀ m ∈ ·, m = .earthWgs84) <| .cons (· = none) <| .cons (· = none) <|
    .cons (∀ x ∈ ·, x = .zero) <| .cons (∀ x ∈ ·, x = .zero) .nil

end Coordinates

namespace Flag

def defaults : Preds [Bool] := .cons (· = false) .nil

end Flag

/-- Mappings of a pose that differ in one of its fields, or in one of the fields inside its position
or its orientation, which each of them leaves out or gives a default. -/
inductive Pose.UpToDefault : Octets → Octets → Prop
  | field {s s' : Octets} (h : Pose.fields.UpToDefault Pose.defaults (levelLimit - 1) s s') :
      UpToDefault s s'
  | position {s s' : Octets} (h : Pose.fields.Inside Pose.positionPlace
      (Vector3.fields.UpToDefault Vector3.defaults (levelLimit - 2)) (levelLimit - 1) s s') :
      UpToDefault s s'
  | orientation {s s' : Octets} (h : Pose.fields.Inside Pose.orientationPlace
      (Quaternion.fields.UpToDefault Quaternion.defaults (levelLimit - 2)) (levelLimit - 1) s s') :
      UpToDefault s s'

section Views

variable {γ : Type}

theorem overlooks_vector (view : Row [Binary64, Binary64, Binary64] → γ) :
    Vector3.fields.Overlooks Vector3.defaults view :=
  Fields.overlooks_defaulted fun _ ↦ Fields.overlooks_defaulted fun _ ↦
    Fields.overlooks_defaulted fun _ ↦ Fields.overlooks_nil _

theorem overlooks_quaternion (view : Row [Binary64, Binary64, Binary64, Binary64] → γ) :
    Quaternion.fields.Overlooks Quaternion.defaults view :=
  Fields.overlooks_defaulted fun _ ↦ Fields.overlooks_defaulted fun _ ↦
    Fields.overlooks_defaulted fun _ ↦ Fields.overlooks_defaulted fun _ ↦ Fields.overlooks_nil _

theorem overlooks_flag (view : Row [Bool] → γ) : Flag.fields.Overlooks Flag.defaults view :=
  Fields.overlooks_defaulted fun _ ↦ Fields.overlooks_nil _

end Views

theorem none_or_default {α : Type} {o : Option α} {d : α} (h : ∀ a ∈ o, a = d) :
    o = none ∨ o = some d := by
  cases o with
  | none => exact .inl rfl
  | some a => exact .inr (congrArg some (h a rfl))

theorem ofMessageOr_zero {o : Option Vector3} (h : ∀ v ∈ o, v = ⟨.zero, .zero, .zero⟩) :
    ofMessageOr Spatial.Vector3.zero o = .ok .zero := by
  obtain rfl | rfl := none_or_default h
  · rfl
  · rfl

theorem ofMessageOr_identity {o : Option Quaternion}
    (h : ∀ q ∈ o, q = ⟨.zero, .zero, .zero, .one⟩) :
    ofMessageOr Spatial.Quaternion.identity o = .ok .identity := by
  have hd : ∀ q ∈ o, q = toMessage Spatial.Quaternion.identity := h
  obtain rfl | rfl := none_or_default hd
  · rfl
  · rw [ofMessageOr]
    exact ofMessage_toMessage_quaternion finite_identity isOffUnit_identity

theorem ofMessage_pose (m : Pose) : (ofMessage m : Except MessageError Spatial.Pose) =
    (ofMessageOr Spatial.Vector3.zero m.position).bind fun v ↦
      (ofMessageOr Spatial.Quaternion.identity m.orientation).bind fun q ↦ .ok ⟨v, q⟩ := rfl

theorem overlooks_pose : Pose.fields.Overlooks Pose.defaults
    fun (name, position, orientation, _) ↦
      (ofMessage (⟨name, position, orientation⟩ : Pose) : Except MessageError Spatial.Pose) := by
  refine Fields.overlooks_optional (fun name row _ ↦ rfl) fun name ↦ ?_
  refine Fields.overlooks_optional (fun position row h ↦ ?_) fun position ↦ ?_
  · change ofMessage (⟨name, position, row.1⟩ : Pose) = ofMessage (⟨name, none, row.1⟩ : Pose)
    rw [ofMessage_pose, ofMessage_pose, ofMessageOr_zero h]
    rfl
  refine Fields.overlooks_optional (fun orientation row h ↦ ?_) fun orientation ↦ ?_
  · change ofMessage (⟨name, position, orientation⟩ : Pose) =
      ofMessage (⟨name, position, none⟩ : Pose)
    rw [ofMessage_pose, ofMessage_pose, ofMessageOr_identity h]
    rfl
  exact Fields.overlooks_nil _

theorem overlooks_coordinates : Coordinates.fields.Overlooks Coordinates.defaults
    fun (surface, latitude, longitude, elevation, heading, _) ↦
      (ofMessage (⟨surface, latitude, longitude, elevation, heading⟩ : Coordinates) :
        Except MessageError Spatial.Origin) := by
  refine Fields.overlooks_optional (fun surface row h ↦ ?_) fun surface ↦ ?_
  · obtain rfl | rfl := none_or_default h <;> rfl
  refine Fields.overlooks_optional (fun latitude row h ↦ by rw [h]) fun latitude ↦ ?_
  refine Fields.overlooks_optional (fun longitude row h ↦ by rw [h]) fun longitude ↦ ?_
  refine Fields.overlooks_optional (fun elevation row h ↦ ?_) fun elevation ↦ ?_
  · obtain rfl | rfl := none_or_default h <;> rfl
  refine Fields.overlooks_optional (fun heading row h ↦ ?_) fun heading ↦ ?_
  · obtain rfl | rfl := none_or_default h <;> rfl
  exact Fields.overlooks_nil _

section Records

variable {M P : Type} [Codec M] {Γ : List Type} {fields : Fields Γ} {defaults : Preds Γ}
  {name : String} {make : Row Γ → M} {back : M → Row Γ} {levels : Nat} {s s' : Octets}

theorem outcome_option_eq (hf : Codec.form (α := M) = (Form.record name fields).via make back)
    (hr : fields.Resolve .unbounded) (hst : fields.Standing) (hv : fields.Overlooks defaults make)
    (h : fields.UpToDefault defaults levels s s') :
    ((Codec.form (α := M)).option.value (levels + 1)).outcome s =
      ((Codec.form (α := M)).option.value (levels + 1)).outcome s' := by
  have hrecord := Form.resolves_record name hr
  have hform : (Codec.form (α := M)).Resolves .unbounded := hf ▸ hrecord.via
  obtain ⟨hw, hw'⟩ := h.wellFormed
  obtain ⟨hs, hs'⟩ := h.solid
  rw [hform.outcome_option hw hs, hform.outcome_option hw' hs', hf, hrecord.outcome_via hw,
    hrecord.outcome_via hw', h.outcome hr hst hv]

variable [Carries M P]

theorem decodeAs_eq (hf : Codec.form (α := M) = (Form.record name fields).via make back)
    (hr : fields.Resolve .unbounded) (hs : WellFormed .unbounded levelLimit s)
    (hs' : WellFormed .unbounded levelLimit s')
    (h : (((Form.record name fields).value levelLimit).outcome s).map
        (fun row ↦ (ofMessage (make row) : Except MessageError P)) =
      (((Form.record name fields).value levelLimit).outcome s').map
        fun row ↦ (ofMessage (make row) : Except MessageError P)) :
    (Carriage.decodeAs M s : Except MessageError P) = Carriage.decodeAs M s' := by
  have hdecode {s : Octets} (hs : WellFormed .unbounded levelLimit s) : decode M s =
      (((Form.record name fields).value levelLimit).outcome s).map make := by
    rw [decode, hf]
    exact (Form.resolves_record name hr).outcome_via hs
  rw [Carriage.decodeAs, Carriage.decodeAs, hdecode hs, hdecode hs']
  cases hx : ((Form.record name fields).value levelLimit).outcome s with
  | error e =>
    rw [hx] at h
    rw [map_error_iff.1 h.symm]
  | ok row =>
    rw [hx] at h
    obtain ⟨row', hy, he⟩ := of_map_ok h.symm
    rw [hy]
    exact he.symm

theorem decodeAs_upToDefault (hf : Codec.form (α := M) = (Form.record name fields).via make back)
    (hr : fields.Resolve .unbounded) (hst : fields.Standing)
    (hv : fields.Overlooks defaults fun row ↦ (ofMessage (make row) : Except MessageError P))
    (h : fields.UpToDefault defaults (levelLimit - 1) s s') :
    (Carriage.decodeAs M s : Except MessageError P) = Carriage.decodeAs M s' := by
  obtain ⟨hs, hs'⟩ := h.wellFormed
  exact decodeAs_eq hf hr hs hs' (h.outcome hr hst hv name)

theorem decodeAs_inside {α : Type} {p : Place α Γ} {R : Octets → Octets → Prop}
    (hf : Codec.form (α := M) = (Form.record name fields).via make back)
    (hr : fields.Resolve .unbounded)
    (hR : ∀ v v', R v v' → ((p.field fields).form.value (levelLimit - 1)).outcome v =
      ((p.field fields).form.value (levelLimit - 1)).outcome v')
    (h : fields.Inside p R (levelLimit - 1) s s') :
    (Carriage.decodeAs M s : Except MessageError P) = Carriage.decodeAs M s' := by
  obtain ⟨hs, hs'⟩ := h.wellFormed
  exact decodeAs_eq hf hr hs hs' (congrArg _ (h.outcome hr hR name))

end Records

theorem Pose.UpToDefault.decodeAs_eq {s s' : Octets} (h : Pose.UpToDefault s s') :
    (Carriage.decodeAs Pose s : Except MessageError Spatial.Pose) = Carriage.decodeAs Pose s' := by
  cases h with
  | field h => exact decodeAs_upToDefault rfl resolve_pose ⟨rfl, rfl, rfl, trivial⟩ overlooks_pose h
  | position h =>
    refine decodeAs_inside rfl resolve_pose (fun v v' hv ↦ ?_) h
    exact outcome_option_eq rfl resolve_vector ⟨rfl, rfl, rfl, trivial⟩ (overlooks_vector _) hv
  | orientation h =>
    refine decodeAs_inside rfl resolve_pose (fun v v' hv ↦ ?_) h
    exact outcome_option_eq rfl resolve_quaternion ⟨rfl, rfl, rfl, rfl, trivial⟩
      (overlooks_quaternion _) hv

section Missing

variable {s : Octets} {m : Coordinates}

theorem complete_of_latitude (h : m.latitude = none) :
    m.complete = .error (.missingField "latitude") := by
  rw [Coordinates.complete, h]

theorem complete_of_longitude (h : m.longitude = none) : m.complete =
    .error (.missingField (if m.latitude = none then "latitude" else "longitude")) := by
  rw [Coordinates.complete, h]
  cases m.latitude <;> rfl

theorem decode_of_complete {missing : Coordinates → String}
    (h : ∀ m, decode Coordinates s = .ok m → m.complete = .error (.missingField (missing m))) :
    (∀ o, Carriage.coordinatesMessage.decode s ≠ .ok o) ∧ ∀ m, decode Coordinates s = .ok m →
      Carriage.coordinatesMessage.decode s = .error (.missingField (missing m)) := by
  have hok (m : Coordinates) (hm : decode Coordinates s = .ok m) :
      Carriage.coordinatesMessage.decode s = .error (.missingField (missing m)) := by
    rw [Carriage.decode, Carriage.decodeAs, hm]
    change m.complete.bind (fun c ↦
      (Spatial.Origin.ofCoordinates c).mapError Coordinates.outOfDomain) = _
    rw [h m hm]
    rfl
  refine ⟨fun o ho ↦ ?_, hok⟩
  cases hm : decode Coordinates s with
  | error e =>
    rw [Carriage.decode, Carriage.decodeAs, hm] at ho
    nomatch ho
  | ok m => nomatch (hok m hm).symm.trans ho

end Missing

/-- What the absence of fields comes to, in every message that carries a payload. -/
structure DefaultsStand : Prop where
  vector {s s' : Octets} (h : Relation.ReflTransGen
      (Vector3.fields.UpToDefault Vector3.defaults (levelLimit - 1)) s s') :
    Carriage.vectorMessage.decode s = Carriage.vectorMessage.decode s'
  pose {s s' : Octets} (h : Relation.ReflTransGen Pose.UpToDefault s s') :
    Carriage.poseMessage.decode s = Carriage.poseMessage.decode s'
  coordinates {s s' : Octets} (h : Relation.ReflTransGen
      (Coordinates.fields.UpToDefault Coordinates.defaults (levelLimit - 1)) s s') :
    Carriage.coordinatesMessage.decode s = Carriage.coordinatesMessage.decode s'
  flag {s s' : Octets} (h : Relation.ReflTransGen
      (Flag.fields.UpToDefault Flag.defaults (levelLimit - 1)) s s') :
    Carriage.flagMessage.decode s = Carriage.flagMessage.decode s'
  /-- Without a latitude there is no origin; if a message can be read, the latitude is missed. -/
  latitude {es : List (Octets × Octets)} {s : Octets} (hs : Lists .unbounded (levelLimit - 1) es s)
    (hn : ∀ e ∈ es, ¬Coordinates.fields.Calls (levelLimit - 1) e.1 "latitude") :
    (∀ o, Carriage.coordinatesMessage.decode s ≠ .ok o) ∧ ∀ m, decode Coordinates s = .ok m →
      Carriage.coordinatesMessage.decode s = .error (.missingField "latitude")
  /-- Without a longitude, it is missed unless there is no latitude either. -/
  longitude {es : List (Octets × Octets)} {s : Octets} (hs : Lists .unbounded (levelLimit - 1) es s)
    (hn : ∀ e ∈ es, ¬Coordinates.fields.Calls (levelLimit - 1) e.1 "longitude") :
    (∀ o, Carriage.coordinatesMessage.decode s ≠ .ok o) ∧ ∀ m, decode Coordinates s = .ok m →
      Carriage.coordinatesMessage.decode s =
        .error (.missingField (if m.latitude = none then "latitude" else "longitude"))

theorem eq_of_reflTransGen {β : Type} {R : Octets → Octets → Prop} {f : Octets → β}
    (h : ∀ s s', R s s' → f s = f s') {s s' : Octets} (hs : Relation.ReflTransGen R s s') :
    f s = f s' := by
  induction hs with
  | refl => rfl
  | tail _ hr ih => exact ih.trans (h _ _ hr)

theorem absent_fields_have_defaults : DefaultsStand where
  vector := eq_of_reflTransGen fun _ _ h ↦
    decodeAs_upToDefault rfl resolve_vector ⟨rfl, rfl, rfl, trivial⟩ (overlooks_vector _) h
  pose := eq_of_reflTransGen fun _ _ h ↦ h.decodeAs_eq
  coordinates := eq_of_reflTransGen fun _ _ h ↦ decodeAs_upToDefault rfl resolve_coordinates
    ⟨rfl, rfl, rfl, rfl, rfl, trivial⟩ overlooks_coordinates h
  flag := eq_of_reflTransGen fun _ _ h ↦
    decodeAs_upToDefault rfl resolve_flag ⟨rfl, trivial⟩ (overlooks_flag _) h
  latitude hs hn := decode_of_complete fun _ hm ↦ by
    obtain ⟨row, rfl, hv⟩ := resolve_coordinates.of_decode rfl hs hm (.there .here) rfl hn
    exact complete_of_latitude hv
  longitude hs hn := decode_of_complete fun _ hm ↦ by
    obtain ⟨row, rfl, hv⟩ := resolve_coordinates.of_decode rfl hs hm (.there (.there .here)) rfl hn
    exact complete_of_longitude hv

section Entries

variable {levels : Nat} {s : Octets}

def zeroEntry : Octets × Octets := (writeText "x", writeDouble .zero)

def longitudeEntry : Octets × Octets := (writeText "longitude", writeDouble .zero)

def nameEntry : Octets × Octets := (writeText "name", writeText "née")

def positionEntry (s : Octets) : Octets × Octets := (writeText "position", s)

theorem lists_number {name : String} (hn : (Utf8.encode name).length < 0x100000000) (x : Binary64) :
    Lists .unbounded levels [(writeText name, writeDouble x)]
      (writeMapping [(writeText name, writeDouble x)]) :=
  lists_writeMapping (List.length_singleton.trans_lt (by decide))
    (List.forall_mem_singleton.2 (wellFormed_writeText hn trivial))
    (List.forall_mem_singleton.2 (wellFormed_writeDouble x))

theorem lists_position (h : WellFormed .unbounded levels s) :
    Lists .unbounded levels [positionEntry s] (writeMapping [positionEntry s]) :=
  lists_writeMapping (List.length_singleton.trans_lt (by decide))
    (List.forall_mem_singleton.2 (wellFormed_writeText (by decide) trivial))
    (List.forall_mem_singleton.2 h)

theorem lists_named (h : WellFormed .unbounded levels s) :
    Lists .unbounded levels [nameEntry, positionEntry s]
      (writeMapping [nameEntry, positionEntry s]) := by
  have hp := lists_position h
  have hname : WellFormed .unbounded levels nameEntry.1 ∧
      WellFormed .unbounded levels nameEntry.2 :=
    ⟨wellFormed_writeText (by decide) trivial, wellFormed_writeText (by decide) trivial⟩
  exact lists_writeMapping (Nat.lt_trans (Nat.lt_add_one 2) (by decide))
    (List.forall_mem_cons.2 ⟨hname.1, hp.keys⟩) (List.forall_mem_cons.2 ⟨hname.2, hp.values⟩)

theorem upToDefault_zero : Vector3.fields.UpToDefault Vector3.defaults (levelLimit - 2)
    (writeMapping [zeroEntry]) (writeMapping []) := by
  have absent : Lists .unbounded (levelLimit - 2) [] _ := lists_writeMapping (by decide) nofun nofun
  have idle : Vector3.fields.Idle Vector3.defaults (levelLimit - 2) .here zeroEntry :=
    ⟨Fields.names_writeText (by decide) rfl, .zero, Form.returns_double _, rfl⟩
  exact Fields.upToDefault_of_idle [] (lists_number (by decide) _) absent idle nofun

theorem upToDefault_name (h : WellFormed .unbounded (levelLimit - 1) s) :
    Pose.fields.UpToDefault Pose.defaults (levelLimit - 1)
      (writeMapping [nameEntry, positionEntry s]) (writeMapping [positionEntry s]) := by
  have hs : Solid (writeText "née") := (begins_textHead (by decide)).solid nofun _
  have idle : Pose.fields.Idle Pose.defaults (levelLimit - 1) .here nameEntry :=
    ⟨Fields.names_writeText (by decide) rfl, some "née",
      Form.returns_option_some (Form.returns_text (by decide)) hs, trivial⟩
  have other : ∀ e ∈ [positionEntry s], ¬Pose.fields.Names (levelLimit - 1) e.1 .here := by
    refine List.forall_mem_singleton.2 fun h ↦ ?_
    have he : "position" = "name" := Fields.name_of_calls_writeText (by decide) ⟨_, _, h, rfl⟩
    exact absurd he (by decide)
  exact Fields.upToDefault_of_idle [] (lists_named h) (lists_position h) idle other

end Entries

theorem idle_entries_do_not_count :
    Carriage.poseMessage.decode
        (writeMapping [nameEntry, positionEntry (writeMapping [zeroEntry])]) =
      .ok ⟨.zero, .identity⟩ ∧
    Carriage.poseMessage.decode (writeMapping [positionEntry (writeMapping [])]) =
      .ok ⟨.zero, .identity⟩ ∧
    Carriage.coordinatesMessage.decode (writeMapping [longitudeEntry]) =
      .error (.missingField "latitude") := by
  obtain ⟨hz, he⟩ := upToDefault_zero.wellFormed
  have given : Lists .unbounded (levelLimit - 1)
      ([nameEntry] ++ (writeText "position", writeMapping [zeroEntry]) :: []) _ := lists_named hz
  have empty : Lists .unbounded (levelLimit - 1)
      ([nameEntry] ++ (writeText "position", writeMapping []) :: []) _ := lists_named he
  have inside : Pose.UpToDefault
      (writeMapping [nameEntry, positionEntry (writeMapping [zeroEntry])])
      (writeMapping [nameEntry, positionEntry (writeMapping [])]) :=
    .position (.intro given empty (Fields.names_writeText (by decide) rfl) upToDefault_zero)
  have unnamed : Pose.UpToDefault (writeMapping [nameEntry, positionEntry (writeMapping [])])
      (writeMapping [positionEntry (writeMapping [])]) := .field (upToDefault_name he)
  have hp : decode Pose (writeMapping [positionEntry (writeMapping [])]) =
      .ok ⟨none, some .default, none⟩ := by decide +kernel
  have hd : Carriage.poseMessage.decode (writeMapping [positionEntry (writeMapping [])]) =
      .ok ⟨.zero, .identity⟩ := by
    rw [Carriage.decode, Carriage.decodeAs, hp]
    rfl
  have hc : decode Coordinates (writeMapping [longitudeEntry]) =
      .ok ⟨none, none, some .zero, none, none⟩ := by decide +kernel
  have noLatitude : ∀ e ∈ [longitudeEntry],
      ¬Coordinates.fields.Calls (levelLimit - 1) e.1 "latitude" := by
    refine List.forall_mem_singleton.2 fun h ↦ ?_
    exact absurd (Fields.name_of_calls_writeText (by decide) h) (by decide)
  refine ⟨?_, hd, ?_⟩
  · exact (absent_fields_have_defaults.pose (.head inside (.single unnamed))).trans hd
  · exact (absent_fields_have_defaults.latitude (lists_number (by decide) _) noLatitude).2 _ hc

end EntityWire.Message
