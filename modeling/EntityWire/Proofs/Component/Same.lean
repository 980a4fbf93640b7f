import EntityWire.Component.Basic
import EntityWire.Proofs.Component.Domain
import EntityWire.Proofs.Json.Pack

namespace EntityWire

open Wire

theorem Binary64.same_self {x : Binary64} (h : x.isNaN = false) : x.same x = true := by
  simp [same, h]

theorem Binary32.same_self {x : Binary32} (h : x.isNaN = false) : x.same x = true := by
  simp [same, h]

namespace Spatial

def Vector3.NotNaN (v : Vector3) : Prop :=
  v.x.isNaN = false ∧ v.y.isNaN = false ∧ v.z.isNaN = false

def Quaternion.NotNaN (q : Quaternion) : Prop :=
  q.x.isNaN = false ∧ q.y.isNaN = false ∧ q.z.isNaN = false ∧ q.w.isNaN = false

theorem Vector3.Finite.notNaN {v : Vector3} (h : v.Finite) : v.NotNaN :=
  ⟨Binary64.isNaN_of_isFinite h.1, Binary64.isNaN_of_isFinite h.2.1,
    Binary64.isNaN_of_isFinite h.2.2⟩

theorem Quaternion.Finite.notNaN {q : Quaternion} (h : q.Finite) : q.NotNaN :=
  ⟨Binary64.isNaN_of_isFinite h.1, Binary64.isNaN_of_isFinite h.2.1,
    Binary64.isNaN_of_isFinite h.2.2.1, Binary64.isNaN_of_isFinite h.2.2.2⟩

theorem Vector3.NotNaN.same_self {v : Vector3} (h : v.NotNaN) : v.same v = true := by
  simp [same, Binary64.same_self h.1, Binary64.same_self h.2.1, Binary64.same_self h.2.2]

theorem Quaternion.NotNaN.same_self {q : Quaternion} (h : q.NotNaN) : q.same q = true := by
  simp [same, Binary64.same_self h.1, Binary64.same_self h.2.1, Binary64.same_self h.2.2.1,
    Binary64.same_self h.2.2.2]

theorem Pose.same_self {p : Pose} (hp : p.position.NotNaN) (hr : p.rotation.NotNaN) :
    p.same p = true := by
  simp [same, hp.same_self, hr.same_self]

theorem Origin.same_self (o : Origin) : o.same o = true := by
  have h : ∀ which, (o.coordinates.get which).same (o.coordinates.get which) = true := fun which ↦
    Binary64.same_self (Binary64.isNaN_of_isFinite
      ((Coordinates.proper_of_faultless o.faultless).finite which))
  have hlat := h .latitude
  have hlong := h .longitude
  have helev := h .elevation
  have hhead := h .heading
  simp only [Coordinates.get] at hlat hlong helev hhead
  simp [same, hlat, hlong, helev, hhead]

end Spatial

theorem gives_double_tame : Form.double.Gives tame fun x ↦ x.isNaN = false := by
  refine Form.gives_ofScalar (fun c x hc hx ↦ ?_) fun n x hx ↦ ?_
  · cases c with
    | unsigned n => exact Except.ok.inj hx ▸ Binary64.isNaN_ofUnsigned n
    | signed n => exact Except.ok.inj hx ▸ Binary64.isNaN_ofSigned n
    | double y => exact Except.ok.inj hx ▸ hc
    | single y => nomatch hc
    | unit | bool => nomatch hx
  · exact Except.ok.inj hx ▸ Binary64.isNaN_ofUnsigned n

theorem gives_single_tame : Form.single.Gives tame fun x ↦ x.isNaN = false := by
  refine Form.gives_ofScalar (fun c x hc hx ↦ ?_) fun n x hx ↦ ?_
  · cases c with
    | unsigned n => exact Except.ok.inj hx ▸ Binary32.isNaN_ofUnsigned n
    | signed n => exact Except.ok.inj hx ▸ Binary32.isNaN_ofSigned n
    | double y => exact Except.ok.inj hx ▸ Binary32.isNaN_narrow hc
    | single y => nomatch hc
    | unit | bool => nomatch hx
  · exact Except.ok.inj hx ▸ Binary32.isNaN_ofUnsigned n

theorem gives_required_double (name : String) {Γ : List Type} {rest : Fields Γ} {preds : Preds Γ}
    (h : rest.Gives tame preds) :
    (Fields.cons (.required name .double) rest).Gives tame
      (.cons (fun x ↦ x.isNaN = false) preds) :=
  .cons gives_double_tame nofun h

theorem gives_vector_tame :
    (Codec.form (α := Spatial.Vector3)).Gives tame Spatial.Vector3.NotNaN := by
  have h := gives_required_double "x" <| gives_required_double "y" <|
    gives_required_double "z" .nil
  refine (Form.gives_tuple _ h).via fun row hr ↦ ?_
  exact ⟨hr.1, hr.2.1, hr.2.2.1⟩

theorem gives_quaternion_tame :
    (Codec.form (α := Spatial.Quaternion)).Gives tame Spatial.Quaternion.NotNaN := by
  have h := gives_required_double "x" <| gives_required_double "y" <|
    gives_required_double "z" <| gives_required_double "w" .nil
  refine (Form.gives_tuple _ h).via fun row hr ↦ ?_
  exact ⟨hr.1, hr.2.1, hr.2.2.1, hr.2.2.2.1⟩

theorem gives_pose_tame : (Codec.form (α := Spatial.Pose)).Gives tame fun p ↦
    p.position.NotNaN ∧ p.rotation.NotNaN := by
  have h : (Fields.cons (.required "position" Codec.form)
      (.cons (.required "rotation" Codec.form) .nil)).Gives tame
        (.cons Spatial.Vector3.NotNaN (.cons Spatial.Quaternion.NotNaN .nil)) :=
    .cons gives_vector_tame nofun (.cons gives_quaternion_tame nofun .nil)
  exact (Form.gives_record _ h).via fun row hr ↦ ⟨hr.1, hr.2.1⟩

namespace Carriage

theorem same_self_of_decode {c : Carriage} {s : Octets} {v : c.Value} (hs : Tame s)
    (h : c.decode s = .ok v) : c.payload.same v v = true := by
  have ha := accepts_of_decode h
  cases c with
  | vectorMessage => exact ha.notNaN.same_self
  | poseMessage => exact Spatial.Pose.same_self ha.position.notNaN ha.rotation.notNaN
  | coordinatesMessage => exact v.same_self
  | textMessage | flagMessage =>
    simp only [payload, Payload.same, decide_eq_true_eq]
    rfl
  | direct p =>
    have hd := of_mapError_ok h
    cases p with
    | single => exact Binary32.same_self (gives_single_tame.of_decode hs hd)
    | double => exact Binary64.same_self (gives_double_tame.of_decode hs hd)
    | text | flag | entity =>
      simp only [payload, Payload.same, decide_eq_true_eq]
      rfl
    | vector => exact (gives_vector_tame.of_decode hs hd).same_self
    | pose =>
      have hp := gives_pose_tame.of_decode hs hd
      exact Spatial.Pose.same_self hp.1 hp.2
    | origin => exact v.same_self

end Carriage

theorem Handle.same_self {K : Type} [Kinds K] {k : K} {v : Kinds.Value k}
    (h : Kinds.same k v v = true) : (⟨k, ⟨v⟩⟩ : Handle K).same ⟨k, ⟨v⟩⟩ = true := by
  rw [Handle.same, Handle.as?, dif_pos rfl]
  exact h

end EntityWire
