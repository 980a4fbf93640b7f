import EntityWire.Proofs.Answer
import EntityWire.Proofs.Text.Utf8
import EntityWire.Wire.Token
import EntityWire.Wire.Write

namespace EntityWire.Wire

theorem length_bigEndian (width n : Nat) : (bigEndian width n).length = width := by
  induction width with
  | zero => rfl
  | succ width ih => rw [bigEndian, List.length_cons, ih]

theorem foldl_bigEndian (width n acc : Nat) :
    (bigEndian width n).foldl (fun n b ↦ 256 * n + b.toNat) acc =
      acc * 256 ^ width + n % 256 ^ width := by
  induction width generalizing acc with
  | zero =>
    simp only [bigEndian, List.foldl_nil, Nat.pow_zero, Nat.mul_one, Nat.mod_one, Nat.add_zero]
  | succ width ih =>
    have hlead : (UInt8.ofNat (n >>> (8 * width))).toNat = n / 256 ^ width % 256 := by
      rw [UInt8.toNat_ofNat', Nat.shiftRight_eq_div_pow, Nat.pow_mul]
    have hacc : 256 * acc * 256 ^ width = acc * 256 ^ (width + 1) := by
      rw [Nat.mul_comm 256 acc, Nat.mul_assoc, Nat.pow_succ']
    have hn : n % 256 ^ (width + 1) = n % 256 ^ width + 256 ^ width * (n / 256 ^ width % 256) :=
      Nat.mod_pow_succ
    rw [bigEndian, List.foldl_cons, ih, hlead, Nat.add_mul, hacc, hn,
      Nat.mul_comm _ (256 ^ width), Nat.add_assoc, Nat.add_comm (n % 256 ^ width)]

theorem splitOctets_append_left (s t : Octets) : splitOctets s.length (s ++ t) = some (s, t) := by
  induction s with
  | nil => rfl
  | cons b s ih => rw [List.length_cons, List.cons_append, splitOctets, ih, Option.map_some]

namespace Scan

variable {α β γ : Type} {m : Scan α} {f : α → Scan β} {s t u : Octets}

theorem run_bind_ok {a : α} (h : m.run s = .ok (a, t)) : (m.bind f).run s = (f a).run t := by
  rw [run_bind, h]
  rfl

theorem of_run_bind {b : β} (h : (m.bind f).run s = .ok (b, u)) :
    ∃ a t, m.run s = .ok (a, t) ∧ (f a).run t = .ok (b, u) := by
  rw [run_bind] at h
  obtain ⟨p, hp, hb⟩ := of_bind_ok h
  exact ⟨p.1, p.2, hp, hb⟩

theorem bind_assoc (m : Scan α) (f : α → Scan β) (g : β → Scan γ) :
    (m.bind f).bind g = m.bind fun a ↦ (f a).bind g := by
  induction m with
  | done a => rfl
  | refuse r => rfl
  | take n short next ih =>
    simp only [bind]
    congr 1
    funext s
    exact ih s

theorem run_take {n : Nat} {short : Shortage} {next : Octets → Scan α} (h : s.length = n) :
    (take n short next).run (s ++ t) = (next s).run t := by
  subst h
  simp only [run, splitOctets_append_left]

theorem run_number (width n : Nat) (t : Octets) :
    (number width).run (bigEndian width n ++ t) = .ok (n % 256 ^ width, t) := by
  rw [number, run_take (length_bigEndian width n), foldl_bigEndian, Nat.zero_mul, Nat.zero_add]
  rfl

theorem run_content (s t : Octets) : (content s.length).run (s ++ t) = .ok (s, t) := by
  rw [content, run_take rfl]
  rfl

theorem run_marker (b : UInt8) (s : Octets) : marker.run (b :: s) = .ok (.ofOctet b, s) := rfl

def head : Scan Head := marker.bind Marker.head

theorem run_head_cons (b : UInt8) (s : Octets) :
    head.run (b :: s) = (Marker.ofOctet b).head.run s :=
  run_bind_ok (run_marker b s)

end Scan

/-- Octets that are read as a head, whatever comes behind them. -/
def Begins (s : Octets) (h : Head) : Prop := ∀ t, Scan.head.run (s ++ t) = .ok (h, t)

theorem begins_of_marker {b : UInt8} {m : Marker} {h : Head} (hb : Marker.ofOctet b = m)
    (hm : m.head = .done h) : Begins [b] h := by
  intro t
  rw [List.cons_append, Scan.run_head_cons, hb, hm]
  rfl

theorem begins_of_number {n : Nat} (b : UInt8) (m : Marker) (width : Nat) (make : Nat → Head)
    (hb : Marker.ofOctet b = m) (hm : m.head = (Scan.number width).bind fun n ↦ .done (make n))
    (hn : n < 256 ^ width) : Begins (b :: bigEndian width n) (make n) := by
  intro t
  rw [List.cons_append, Scan.run_head_cons, hb, hm, Scan.run_bind_ok (Scan.run_number width n t),
    Nat.mod_eq_of_lt hn]
  rfl

section Markers

variable {n : Nat}

theorem ofOctet_fixPos (h : n < 0x80) : Marker.ofOctet (UInt8.ofNat n) = .fixPos n := by
  have hn : (UInt8.ofNat n).toNat = n := Utf8.toNat_ofNat_of_lt (by omega)
  simp only [Marker.ofOctet, hn, if_pos h]

theorem ofOctet_fixMap (h : n < 0x10) : Marker.ofOctet (UInt8.ofNat (0x80 + n)) = .fixMap n := by
  have hn : (UInt8.ofNat (0x80 + n)).toNat = 0x80 + n := Utf8.toNat_ofNat_of_lt (by omega)
  simp only [Marker.ofOctet, hn]
  rw [if_neg (by omega), if_pos (by omega), Nat.add_sub_cancel_left]

theorem ofOctet_fixArray (h : n < 0x10) :
    Marker.ofOctet (UInt8.ofNat (0x90 + n)) = .fixArray n := by
  have hn : (UInt8.ofNat (0x90 + n)).toNat = 0x90 + n := Utf8.toNat_ofNat_of_lt (by omega)
  simp only [Marker.ofOctet, hn]
  rw [if_neg (by omega), if_neg (by omega), if_pos (by omega), Nat.add_sub_cancel_left]

theorem ofOctet_fixStr (h : n < 0x20) : Marker.ofOctet (UInt8.ofNat (0xa0 + n)) = .fixStr n := by
  have hn : (UInt8.ofNat (0xa0 + n)).toNat = 0xa0 + n := Utf8.toNat_ofNat_of_lt (by omega)
  simp only [Marker.ofOctet, hn]
  rw [if_neg (by omega), if_neg (by omega), if_neg (by omega), if_pos (by omega),
    Nat.add_sub_cancel_left]

theorem ofOctet_fixNeg (h : 0xe0 ≤ n) (h' : n < 0x100) :
    Marker.ofOctet (UInt8.ofNat n) = .fixNeg (n - 256 : Int) := by
  have hn : (UInt8.ofNat n).toNat = n := Utf8.toNat_ofNat_of_lt h'
  simp only [Marker.ofOctet, hn]
  repeat rw [if_neg (by omega)]

end Markers

theorem begins_null : Begins writeNull (.scalar .unit) := begins_of_marker rfl rfl

theorem begins_bool (b : Bool) : Begins (writeBool b) (.scalar (.bool b)) := by
  cases b <;> exact begins_of_marker rfl rfl

theorem begins_unsigned {n : Nat} (h : n < 0x10000000000000000) :
    Begins (writeUnsigned n) (.scalar (.unsigned (UInt64.ofNat n))) := by
  unfold writeUnsigned
  split
  · next h' => exact begins_of_marker (ofOctet_fixPos h') rfl
  split
  · next h' => exact begins_of_number 0xcc (.uint 1) 1 (.scalar <| .unsigned <| .ofNat ·) rfl rfl h'
  split
  · next h' => exact begins_of_number 0xcd (.uint 2) 2 (.scalar <| .unsigned <| .ofNat ·) rfl rfl h'
  split
  · next h' => exact begins_of_number 0xce (.uint 4) 4 (.scalar <| .unsigned <| .ofNat ·) rfl rfl h'
  · exact begins_of_number 0xcf (.uint 8) 8 (.scalar <| .unsigned <| .ofNat ·) rfl rfl h

theorem signedValue_complement {i : Int} (width : Nat) (span : Int) (hs : span = 2 ^ (8 * width))
    (hl : -span ≤ 2 * i) (hn : i < 0) : signedValue width (i + span).toNat = i := by
  have hp : ((1 <<< (8 * width) : Nat) : Int) = span := by
    rw [Nat.one_shiftLeft, hs, Int.natCast_pow]
    rfl
  have ht : ((i + span).toNat : Int) = i + span := Int.toNat_of_nonneg (by omega)
  rw [signedValue, Int.bmod_def, hp, ht, Int.emod_eq_of_lt (by omega) (by omega), if_neg (by omega)]
  omega

theorem begins_negative {i : Int} (hl : -0x8000000000000000 ≤ i) (hn : i < 0) :
    Begins (writeSigned i) (.scalar (.signed (Int64.ofInt i))) := by
  have number : ∀ (b : UInt8) (width : Nat) (span : Int), Marker.ofOctet b = .int width →
      span = 2 ^ (8 * width) → -span ≤ 2 * i →
      Begins (b :: bigEndian width (i + span).toNat) (.scalar (.signed (Int64.ofInt i))) := by
    intro b width span hb hs hi
    have hw : (i + span).toNat < 256 ^ width := by
      have hp : (256 ^ width : Int) = span := by rw [hs, Int.pow_mul]; rfl
      have hc : ((256 ^ width : Nat) : Int) = 256 ^ width := Int.natCast_pow 256 width
      omega
    have hh := begins_of_number b (.int width) width
      (fun n ↦ .scalar (.signed (Int64.ofInt (signedValue width n)))) hb rfl hw
    rwa [signedValue_complement width span hs hi hn] at hh
  unfold writeSigned
  rw [if_neg (by omega)]
  split
  · have hm := ofOctet_fixNeg (n := (i + 0x100).toNat) (by omega) (by omega)
    have hi : ((i + 0x100).toNat : Int) - 256 = i := by omega
    rw [hi] at hm
    exact begins_of_marker hm rfl
  split
  · exact number 0xd0 1 0x100 rfl rfl (by omega)
  split
  · exact number 0xd1 2 0x10000 rfl rfl (by omega)
  split
  · exact number 0xd2 4 0x100000000 rfl rfl (by omega)
  · exact number 0xd3 8 0x10000000000000000 rfl rfl (by omega)

theorem begins_single (x : Binary32) : Begins (writeSingle x) (.scalar (.single x)) := by
  have h := begins_of_number 0xca .single 4 (fun n ↦ .scalar (.single ⟨UInt32.ofNat n⟩)) rfl rfl
    (UInt32.toNat_lt x.bits)
  rwa [UInt32.ofNat_toNat] at h

theorem begins_double (x : Binary64) : Begins (writeDouble x) (.scalar (.double x)) := by
  have h := begins_of_number 0xcb .double 8 (fun n ↦ .scalar (.double ⟨UInt64.ofNat n⟩)) rfl rfl
    (UInt64.toNat_lt x.bits)
  rwa [UInt64.ofNat_toNat] at h

section Lengths

variable (n : Nat)

theorem counted_lt : counted n < 0x100000000 := Nat.mod_lt n (by decide)

theorem counted_of_lt {n : Nat} (h : n < 0x100000000) : counted n = n := Nat.mod_eq_of_lt h

theorem begins_textHead_counted : Begins (textHead n) (.text (counted n)) := by
  unfold textHead
  dsimp only
  split
  · next h => exact begins_of_marker (ofOctet_fixStr h) rfl
  split
  · next h => exact begins_of_number 0xd9 (.str 1) 1 .text rfl rfl h
  split
  · next h => exact begins_of_number 0xda (.str 2) 2 .text rfl rfl h
  · exact begins_of_number 0xdb (.str 4) 4 .text rfl rfl (counted_lt n)

theorem begins_sequenceHead_counted : Begins (sequenceHead n) (.sequence (counted n)) := by
  unfold sequenceHead
  dsimp only
  split
  · next h => exact begins_of_marker (ofOctet_fixArray h) rfl
  split
  · next h => exact begins_of_number 0xdc (.array 2) 2 .sequence rfl rfl h
  · exact begins_of_number 0xdd (.array 4) 4 .sequence rfl rfl (counted_lt n)

theorem begins_mappingHead_counted : Begins (mappingHead n) (.mapping (counted n)) := by
  unfold mappingHead
  dsimp only
  split
  · next h => exact begins_of_marker (ofOctet_fixMap h) rfl
  split
  · next h => exact begins_of_number 0xde (.map 2) 2 .mapping rfl rfl h
  · exact begins_of_number 0xdf (.map 4) 4 .mapping rfl rfl (counted_lt n)

variable {n}

theorem begins_textHead (h : n < 0x100000000) : Begins (textHead n) (.text n) := by
  have hn := begins_textHead_counted n
  rwa [counted_of_lt h] at hn

theorem begins_sequenceHead (h : n < 0x100000000) : Begins (sequenceHead n) (.sequence n) := by
  have hn := begins_sequenceHead_counted n
  rwa [counted_of_lt h] at hn

theorem begins_mappingHead (h : n < 0x100000000) : Begins (mappingHead n) (.mapping n) := by
  have hn := begins_mappingHead_counted n
  rwa [counted_of_lt h] at hn

end Lengths

theorem writeText_append (s : String) (t : Octets) :
    writeText s ++ t = textHead (Utf8.encode s).length ++ (Utf8.encode s ++ t) :=
  List.append_assoc _ _ _

end EntityWire.Wire
