import EntityWire.Proofs.Message.RoundTrip

namespace EntityWire.Message

open Wire

/-- Messages of a type, all that fit, are read back as they were, and what follows them is left. -/
structure Passes (M : Type) [Codec M] (Fits : M → Prop) : Prop where
  decode_encode {m : M} (h : Fits m) : decode M (encode m) = .ok m
  decode_append {m : M} (h : Fits m) (rest : Octets) : decode M (encode m ++ rest) = .ok m
  leaves {m : M} (h : Fits m) (rest : Octets) :
    (Codec.form.value levelLimit).run (encode m ++ rest) = .ok (m, rest)
  encode_injective {m m' : M} (h : Fits m) (h' : Fits m') (he : encode m = encode m') : m = m'

theorem passes_of_returns {M : Type} [Codec M] {Fits : M → Prop}
    (h : ∀ m, Fits m → (Codec.form (α := M)).Returns levelLimit m) : Passes M Fits := by
  have hd : ∀ m, Fits m → ∀ rest, decode M (encode m ++ rest) = .ok m := by
    intro m hm rest
    rw [decode, encode, Form.decode, h m hm rest]
    rfl
  refine ⟨fun hm ↦ (h _ hm).decode, fun hm ↦ hd _ hm, fun hm ↦ h _ hm, ?_⟩
  intro m m' hm hm' he
  exact (h m hm).write_injective (h m' hm') he

theorem Passes.encode_iff {M : Type} [Codec M] {Fits : M → Prop} (hp : Passes M Fits) {m m' : M}
    (h : Fits m) (h' : Fits m') : encode m = encode m' ↔ m = m' :=
  ⟨hp.encode_injective h h', congrArg encode⟩

def Text.Fits (t : Text) : Prop := (Utf8.encode t.data).length < 0x100000000

def Pose.Fits (p : Pose) : Prop := ∀ name ∈ p.name, (Utf8.encode name).length < 0x100000000

def Record.Fits (r : Record) : Prop := r.data.length < 0x100000000

def Pose.present (p : Pose) : List String :=
  (p.name.map fun _ ↦ "name").toList ++ (p.position.map fun _ ↦ "position").toList ++
    (p.orientation.map fun _ ↦ "orientation").toList

def Coordinates.present (c : Coordinates) : List String :=
  (c.surfaceModel.map fun _ ↦ "surface_model").toList ++
    (c.latitude.map fun _ ↦ "latitude").toList ++ (c.longitude.map fun _ ↦ "longitude").toList ++
    (c.elevation.map fun _ ↦ "elevation").toList ++ (c.heading.map fun _ ↦ "heading").toList

/-- A message is written as a mapping with these names. -/
def WrittenUnder {M : Type} [Codec M] (m : M) (names : List String) : Prop :=
  ∃ entries, encode m = writeMapping entries ∧ entries.map Prod.fst = names.map writeText

theorem Pose.writtenUnder (p : Pose) : WrittenUnder p p.present := by
  refine ⟨_, rfl, (Fields.map_fst_entries _ _).trans (congrArg _ ?_)⟩
  obtain ⟨name, position, orientation⟩ := p
  cases name <;> cases position <;> cases orientation <;> rfl

theorem Coordinates.writtenUnder (c : Coordinates) : WrittenUnder c c.present := by
  refine ⟨_, rfl, (Fields.map_fst_entries _ _).trans (congrArg _ ?_)⟩
  obtain ⟨surface, latitude, longitude, elevation, heading⟩ := c
  cases surface <;> cases latitude <;> cases longitude <;> cases elevation <;> cases heading <;> rfl

theorem decode_records_append {l : List Record} (h : ∀ r ∈ l, r.Fits) (rest : Octets) :
    decode (List Record) (encode l ++ rest) = .ok (l.take (counted l.length)) := by
  have hr : ((Codec.form (α := List Record)).value levelLimit).run (encode l ++ rest) = _ :=
    Form.run_list (fun r hm ↦ returns_record (h r hm)) rest
  rw [decode, Form.decode, hr]
  rfl

/-- What the messages promise to peers. -/
structure Faithful : Prop where
  vector : Passes Vector3 fun _ ↦ True
  quaternion : Passes Quaternion fun _ ↦ True
  pose : Passes Pose Pose.Fits
  pose_names (p : Pose) : WrittenUnder p p.present
  coordinates : Passes Coordinates fun _ ↦ True
  coordinates_names (c : Coordinates) : WrittenUnder c c.present
  text : Passes Text Text.Fits
  flag : Passes Flag fun _ ↦ True
  record : Passes Record Record.Fits
  record_written (r : Record) : encode r = writeMapping
    [(writeText "entity", writeUnsigned r.entity.id.toNat),
      (writeText "component", writeUnsigned r.component.value.toNat),
      (writeText "data", writeSequence (r.data.map fun b ↦ writeUnsigned b.toNat))]
  records : Passes (List Record) fun l ↦ l.length < 0x100000000 ∧ ∀ r ∈ l, r.Fits
  /-- Of more records than can be counted, those that are counted come back. -/
  records_begin {l : List Record} (h : ∀ r ∈ l, r.Fits) (rest : Octets) :
    decode (List Record) (encode l ++ rest) = .ok (l.take (l.length % 0x100000000))
  records_differ {l l' : List Record} (h : ∀ r ∈ l, r.Fits) (h' : ∀ r ∈ l', r.Fits)
    (he : encode l = encode l') : l = l'

theorem messages_come_back : Faithful where
  vector := passes_of_returns fun v _ ↦ returns_vector v
  quaternion := passes_of_returns fun q _ ↦ returns_quaternion q
  pose := passes_of_returns fun p h ↦ returns_pose p h
  pose_names := Pose.writtenUnder
  coordinates := passes_of_returns fun c _ ↦ returns_coordinates c
  coordinates_names := Coordinates.writtenUnder
  text := passes_of_returns fun _ h ↦ returns_textMessage h
  flag := passes_of_returns fun f _ ↦ returns_flag f.data
  record := passes_of_returns fun _ h ↦ returns_record h
  record_written _ := rfl
  records := passes_of_returns fun _ h ↦ Form.returns_list h.1 fun r hr ↦ returns_record (h.2 r hr)
  records_begin h rest := decode_records_append h rest
  records_differ := by
    intro l l' h h' he
    have item : ∀ r : Record, r.Fits → (Codec.form (α := Record)).Returns 2 r :=
      fun r hr ↦ returns_record hr
    exact Form.list_write_injective (fun r hr ↦ item r (h r hr)) (fun r hr ↦ item r (h' r hr)) he

/-- A pose with a name and an orientation of another kind of zero, and no position. -/
def namedPose : Pose := ⟨some "née", none, some ⟨.zero, ⟨0x8000000000000000⟩, .zero, .one⟩⟩

def reading : Record := ⟨⟨0xffffffffffffffff⟩, .ofName "Name", [0x00, 0x80, 0xff]⟩

/-- What is absent comes back as absent, before an octet that begins no value, and is not written as
its default is. -/
theorem namedPose_comes_back :
    namedPose.Fits ∧ decode Pose (encode namedPose ++ [0xc1]) = .ok namedPose ∧
      namedPose.present = ["name", "orientation"] ∧ WrittenUnder namedPose namedPose.present ∧
      encode (⟨none, none, none, none, none⟩ : Coordinates) ≠
        encode (⟨none, none, none, some .zero, none⟩ : Coordinates) ∧
      (∀ r ∈ [reading, reading], r.Fits) ∧
      decode (List Record) (encode [reading, reading] ++ [0xc1]) = .ok [reading, reading] := by
  have hp : namedPose.Fits := by
    rintro name ⟨⟩
    decide
  have hr : ∀ r ∈ [reading, reading], r.Fits := by
    simp [Record.Fits, reading]
  refine ⟨hp, messages_come_back.pose.decode_append hp _, rfl, messages_come_back.pose_names _,
    ?_, hr, messages_come_back.records.decode_append ⟨by decide, hr⟩ _⟩
  intro he
  cases messages_come_back.coordinates.encode_injective trivial trivial he

/-- One record more than a length of 32 bits can tell. -/
def uncounted : List Record := List.replicate 0x100000000 reading

/-- So many records are written as none with something behind it, and are read as none. -/
theorem uncounted_records_are_lost :
    (∀ r ∈ uncounted, r.Fits) ∧ decode (List Record) (encode uncounted) = .ok [] ∧
      decode (List Record) (encode uncounted) ≠ .ok uncounted := by
  have hf : ∀ r ∈ uncounted, r.Fits := by
    intro r hr
    obtain rfl := List.eq_of_mem_replicate hr
    exact (by decide : reading.data.length < 0x100000000)
  have hl : uncounted.length = 0x100000000 := List.length_replicate
  have hd : decode (List Record) (encode uncounted) = .ok [] := by
    have hr := decode_records_append hf []
    rw [List.append_nil, hl] at hr
    exact hr
  refine ⟨hf, hd, fun he ↦ ?_⟩
  have hn : [] = uncounted := Except.ok.inj (hd.symm.trans he)
  rw [← hn] at hl
  nomatch hl

end EntityWire.Message
