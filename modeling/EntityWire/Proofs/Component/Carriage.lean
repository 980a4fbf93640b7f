import EntityWire.Component.Kind
import EntityWire.Proofs.Message.RoundTrip

namespace EntityWire

open Wire

namespace Carriage

/-- The payloads that a carriage delivers: texts of a length that can be written, and the vectors
and poses in the domain of their messages. -/
def Accepts : (c : Carriage) → c.Value → Prop
  | .direct .text, s | .textMessage, s => (Utf8.encode s).length < 0x100000000
  | .vectorMessage, v => v.Finite
  | .poseMessage, p => p.Proper
  | _, _ => True

end Carriage

theorem Payload.returns_form {p : Payload} {v : p.Value} (h : (Carriage.direct p).Accepts v) :
    p.form.Returns levelLimit v := by
  cases p with
  | single => exact Form.returns_single v
  | double => exact Form.returns_double v
  | text => exact Form.returns_text h
  | flag => exact Form.returns_bool v
  | entity => exact returns_entity v
  | vector => exact returns_spatialVector v
  | pose => exact returns_spatialPose v
  | origin => exact returns_origin v

namespace Carriage

open Message in
theorem decodeAs_encodeAs {P M : Type} [Carries M P] [Codec M] {p : P}
    (h : (Codec.form (α := M)).Returns levelLimit (toMessage p))
    (hp : ofMessage (toMessage p : M) = .ok p) : decodeAs M (encodeAs M p) = .ok p := by
  have hd : (Wire.decode M (encodeAs M p)).mapError MessageError.decode = .ok (toMessage p) := by
    rw [Wire.decode, encodeAs, Wire.encode, h.decode]
    rfl
  rw [decodeAs, hd]
  exact hp

theorem decode_encode {c : Carriage} {v : c.Value} (h : c.Accepts v) :
    c.decode (c.encode v) = .ok v := by
  cases c with
  | direct p =>
    simp only [decode, encode, (Payload.returns_form h).decode]
    rfl
  | vectorMessage =>
    exact decodeAs_encodeAs (Message.returns_vector _) (Message.ofMessage_toMessage_vector h)
  | poseMessage =>
    exact decodeAs_encodeAs (Message.returns_pose _ nofun) (Message.ofMessage_toMessage_pose h)
  | coordinatesMessage =>
    exact decodeAs_encodeAs (Message.returns_coordinates _)
      (Message.ofMessage_toMessage_coordinates v)
  | textMessage => exact decodeAs_encodeAs (Message.returns_textMessage h) rfl
  | flagMessage => exact decodeAs_encodeAs (Message.returns_flag v) rfl

end Carriage

end EntityWire
