import EntityWire.Inspect.Command
import EntityWire.Proofs.Scene.Loading
import EntityWire.Proofs.Scene.Transport
import EntityWire.Proofs.Text.Hex

namespace EntityWire

open Wire
open Message (Record)

section Lists

variable {α β γ : Type} {R : α → β → γ → Prop}

theorem Aligned.append {as as' : List α} {bs bs' : List β} {cs cs' : List γ}
    (h : Aligned R as bs cs) (h' : Aligned R as' bs' cs') :
    Aligned R (as ++ as') (bs ++ bs') (cs ++ cs') := by
  induction h with
  | nil => exact h'
  | cons h _ ih => exact .cons h ih

theorem Aligned.eq_iff (hR : ∀ {a a' b b' c c'}, R a b c → R a' b' c' → (b = b' ↔ c = c'))
    {as as' : List α} {bs bs' : List β} {cs cs' : List γ} (h : Aligned R as bs cs)
    (h' : Aligned R as' bs' cs') : bs = bs' ↔ cs = cs' := by
  induction h generalizing as' bs' cs' with
  | nil =>
    cases h' with
    | nil => exact iff_of_true rfl rfl
    | cons => exact iff_of_false nofun nofun
  | cons h _ ih =>
    cases h' with
    | nil => exact iff_of_false nofun nofun
    | cons h' hs' => rw [List.cons.injEq, List.cons.injEq, hR h h', ih hs']

theorem cut_first_inj {a : α} {x x' z z' : List α} (h : a ∉ x) (h' : a ∉ x')
    (he : x ++ a :: z = x' ++ a :: z') : x = x' ∧ z = z' := by
  induction x generalizing x' with
  | nil =>
    cases x' with
    | nil => exact ⟨rfl, (List.cons.inj he).2⟩
    | cons b x' =>
      obtain ⟨rfl, -⟩ := List.cons.inj he
      exact absurd List.mem_cons_self h'
  | cons b x ih =>
    cases x' with
    | nil =>
      obtain ⟨rfl, -⟩ := List.cons.inj he
      exact absurd List.mem_cons_self h
    | cons b' x' =>
      obtain ⟨rfl, ht⟩ := List.cons.inj he
      obtain ⟨rfl, rfl⟩ := ih (fun hm ↦ h (List.mem_cons_of_mem _ hm))
        (fun hm ↦ h' (List.mem_cons_of_mem _ hm)) ht
      exact ⟨rfl, rfl⟩

theorem cut_last_inj {a : α} {x x' z z' : List α} (h : a ∉ z) (h' : a ∉ z')
    (he : x ++ a :: z = x' ++ a :: z') : x = x' ∧ z = z' := by
  have hr : z.reverse ++ a :: x.reverse = z'.reverse ++ a :: x'.reverse := by
    simpa using congrArg List.reverse he
  obtain ⟨hz, hx⟩ := cut_first_inj (fun hm ↦ h (List.mem_reverse.1 hm))
    (fun hm ↦ h' (List.mem_reverse.1 hm)) hr
  exact ⟨List.reverse_injective hx, List.reverse_injective hz⟩

end Lists

namespace Entity

theorem toList_text (e : Entity) :
    e.text.toList = "Entity(".toList ++ (Nat.toDigits 10 e.id.toNat ++ [')']) := by
  rw [text, String.toList_append, String.toList_append, List.append_assoc]
  congr 2
  exact Nat.toList_repr

theorem space_notMem_text (e : Entity) : ' ' ∉ e.text.toList := by
  rw [toList_text, List.mem_append, List.mem_append]
  rintro (h | h | h)
  · revert h
    decide
  · exact absurd (Nat.isDigit_of_mem_toDigits (by decide) (by decide) h) (by decide)
  · revert h
    decide

theorem text_injective {e e' : Entity} (h : e.text = e'.text) : e = e' := by
  have hl := congrArg String.toList h
  rw [toList_text, toList_text, List.append_cancel_left_eq, List.append_cancel_right_eq] at hl
  have hn := congrArg (Nat.ofDigitChars 10 · 0) hl
  simp only [Nat.ofDigitChars_ten_toDigits] at hn
  exact congrArg mk (UInt64.toNat_inj.1 hn)

end Entity

theorem Hex.space_notMem {text : String} {s : Octets} (h : Spells text s) : ' ' ∉ text.toList :=
  fun hm ↦ absurd (h.digits _ hm) (by decide)

/-- The components of a file in scene order, each by its entity and its name: by entry, and in an
entry by name. -/
def Scene.File.keys (f : File) : List (Entity × String) :=
  f.entries.flatMap fun e ↦ (OrderedMap.ofList e.components).keys.map fun name ↦ (⟨e.id⟩, name)

namespace Inspect

variable {r : Registry Kind} {key key' : Entity × String} {c c' : Record} {line line' : String}

/-- The record of a component and its line: the entity, the name that its id has in the registry,
and the octets in hexadecimal digits. -/
structure Shown (r : Registry Kind) (key : Entity × String) (c : Record) (line : String) :
    Prop where
  entity : c.entity = key.1
  component : c.component = .ofName key.2
  name : r.nameOfId c.component = .ok key.2
  text : line = "Entity(" ++ toString key.1.id.toNat ++ ")" ++ " " ++ key.2 ++ " " ++
    Hex.write c.data
  digits : Hex.Spells (Hex.write c.data) c.data

theorem toList_line (entity : Entity) (name hex : String) :
    (entity.text ++ " " ++ name ++ " " ++ hex).toList =
      entity.text.toList ++ ' ' :: (name.toList ++ ' ' :: hex.toList) := by
  simp only [String.toList_append, List.append_assoc]
  rfl

theorem Shown.eq_iff (h : Shown r key c line) (h' : Shown r key' c' line') :
    c = c' ↔ line = line' := by
  obtain ⟨entity, name⟩ := key
  obtain ⟨entity', name'⟩ := key'
  constructor
  · rintro rfl
    obtain rfl : entity = entity' := h.entity.symm.trans h'.entity
    obtain rfl : name = name' := Except.ok.inj (h.name.symm.trans h'.name)
    exact h.text.trans h'.text.symm
  · intro hl
    have hl : entity.text ++ " " ++ name ++ " " ++ Hex.write c.data =
        entity'.text ++ " " ++ name' ++ " " ++ Hex.write c'.data :=
      h.text.symm.trans (hl.trans h'.text)
    have hl := congrArg String.toList hl
    rw [toList_line, toList_line] at hl
    obtain ⟨he, hl⟩ := cut_first_inj entity.space_notMem_text entity'.space_notMem_text hl
    obtain ⟨hn, hd⟩ := cut_last_inj (Hex.space_notMem h.digits) (Hex.space_notMem h'.digits) hl
    have hentity : c.entity = c'.entity :=
      h.entity.trans ((Entity.text_injective (String.toList_inj.1 he)).trans h'.entity.symm)
    have hcomponent : c.component = c'.component :=
      h.component.trans ((congrArg WireId.ofName (String.toList_inj.1 hn)).trans h'.component.symm)
    have hdata : c.data = c'.data := by
      have hr := h.digits.read
      rw [String.toList_inj.1 hd, h'.digits.read] at hr
      exact (Option.some.inj hr).symm
    obtain ⟨_, _, _⟩ := c
    obtain ⟨_, _, _⟩ := c'
    exact Record.mk.injEq .. ▸ ⟨hentity, hcomponent, hdata⟩

theorem printed_of_mapM {α : Type} {line : α → Except (List String) String} {as : List α}
    {lines : List String} (h : as.mapM line = .ok lines) : printed line as = (lines, .ok ()) := by
  induction mapM_ok_iff.1 h with
  | nil => rfl
  | cons ha hs ih => rw [printed, ha, ih (mapM_ok_iff.2 hs)]

section Loading

open Scene

structure Printable (r : Registry Kind) (keys : List (Entity × String))
    (handles : List (Handle Kind)) (records : List Record) : Prop where
  lines : ∃ lines, records.mapM (recordLine r) = .ok lines ∧ Aligned (Shown r) keys records lines
  names : ∀ h ∈ handles, ∃ name, r.nameOfHandle h = .ok name

theorem printable_of_carried (hr : r.Registered) {entity : Entity} {members : List (String × Json)}
    {handles : List (Handle Kind)} {records : List Record}
    (h : Aligned (Carried r entity) members handles records) :
    Printable r (members.map fun m ↦ (entity, m.1)) handles records := by
  induction h with
  | nil => exact ⟨⟨[], rfl, .nil⟩, List.forall_mem_nil _⟩
  | @cons m h c members handles records hc _ ih =>
    obtain ⟨⟨lines, hl, ha⟩, hn⟩ := ih
    have hid := hc.nameOfId hr
    have hline : recordLine r c =
        .ok (c.entity.text ++ " " ++ m.1 ++ " " ++ Hex.write c.data) := by
      rw [recordLine, hid]
    have hshown : Shown r (entity, m.1) c
        (c.entity.text ++ " " ++ m.1 ++ " " ++ Hex.write c.data) :=
      ⟨hc.entity, hc.component, hid, by rw [hc.entity]; rfl, Hex.spells_write c.data⟩
    refine ⟨⟨_ :: lines, ?_, .cons hshown ha⟩, List.forall_mem_cons.2 ⟨⟨m.1, ?_⟩, hn⟩⟩
    · rw [List.mapM_cons, hline, hl]
      rfl
    · obtain ⟨k, v, hd, -, rfl⟩ := hr.of_deserialize hc.loaded
      exact hr.consistent.nameOfHandle (Registry.find?_of_descriptor hd) rfl

theorem Printable.append {keys keys' : List (Entity × String)}
    {handles handles' : List (Handle Kind)} {records records' : List Record}
    (h : Printable r keys handles records)
    (h' : Printable r keys' handles' records') :
    Printable r (keys ++ keys') (handles ++ handles') (records ++ records') := by
  obtain ⟨⟨lines, hl, ha⟩, hn⟩ := h
  obtain ⟨⟨lines', hl', ha'⟩, hn'⟩ := h'
  refine ⟨⟨lines ++ lines', ?_, ha.append ha'⟩, List.forall_mem_append.2 ⟨hn, hn'⟩⟩
  rw [List.mapM_append, hl, hl']
  rfl

theorem printable_flatten {α β : Type} {keys : α → List (Entity × String)}
    {handles : β → List (Handle Kind)} {as : List α} {bs : List β} {parts : List (List Record)}
    (h : Aligned (fun a b records ↦ Printable r (keys a) (handles b) records) as bs parts) :
    Printable r (as.flatMap keys) (bs.flatMap handles) parts.flatten := by
  induction h with
  | nil => exact ⟨⟨[], rfl, .nil⟩, List.forall_mem_nil _⟩
  | cons h _ ih => exact h.append ih

theorem printable_of_buildEntry (hr : r.Registered) {e : Entry} (hn : e.Numeric) {m : Member Kind}
    (hb : buildEntry r e = .ok m) : ∃ records, m.components.mapM (record r m.entity) = .ok records ∧
      Printable r ((OrderedMap.ofList e.components).keys.map fun name ↦ (⟨e.id⟩, name)) m.components
        records := by
  obtain ⟨records, hrec, hd⟩ := delivered_of_buildEntry hr hn hb
  refine ⟨records, hrec, ?_⟩
  rw [OrderedMap.keys, List.map_map]
  exact printable_of_carried hr hd.components

theorem printable_of_load (hr : r.Registered) {text : String} {scene : Scene Kind}
    (hl : Scene.load r text = .ok scene) : ∃ file records, File.parse text = .ok file ∧
      scene.records r = .ok records ∧
        Printable r file.keys (scene.members.flatMap Member.components) records := by
  obtain ⟨file, hf, -⟩ := of_bind_ok hl
  have hf := of_mapError_ok hf
  rw [load_eq r hf] at hl
  obtain ⟨members, hm, rfl⟩ := of_map_ok hl
  have hn := File.numeric_of_parse hf
  obtain ⟨parts, hp, ha⟩ := aligned_of_mapM (g := fun m ↦ m.components.mapM (record r m.entity)) hm
    fun e m he hm ↦ printable_of_buildEntry hr (hn e he) hm
  refine ⟨file, parts.flatten, hf, ?_, printable_flatten ha⟩
  rw [records, hp]
  rfl

end Loading

structure Report.Fails (report : Report) : Prop where
  silent : report.lines = []
  failed : ∃ chain, report.outcome = .error chain

/-- What becomes of a loaded scene: each of its records has a line, in scene order, under the name
that the component has in the file; the lines are printed and the records are written. -/
structure Dumped (r : Registry Kind) (path text : String) (scene : Scene Kind) (file : Scene.File)
    (records : List Record) (lines : List String) : Prop where
  parsed : Scene.File.parse text = .ok file
  recorded : scene.records r = .ok records
  shown : Aligned (Shown r) file.keys records lines
  named : ∀ m ∈ scene.members, ∀ h ∈ m.components, ∃ name, r.nameOfHandle h = .ok name
  loaded : (loadScene r path (.ok text)).outcome = .ok ()
  dumped (output : Option String) :
    ((dumpScene r path (.ok text) output).settle (.ok ())).outcome = .ok ()
  printed (output : Option String) :
    ((dumpScene r path (.ok text) output).settle (.ok ())).lines = lines
  written (output : Option String) :
    (dumpScene r path (.ok text) output).write = output.map fun name ↦ (name, encode records)
  decoded (hl : records.length < 0x100000000) (hd : ∀ c ∈ records, c.data.length < 0x100000000) :
    decode (List Record) (encode records) = .ok records

theorem readScene_of_load_error (path : String) {text : String} {x : Scene.LoadError}
    (h : Scene.load r text = .error x) :
    ∃ log chain, readScene r path (.ok text) = (log, .error chain) := by
  rw [readScene]
  simp only [h]
  exact ⟨_, _, rfl⟩

theorem readScene_of_load (path : String) {text : String} {scene : Scene Kind}
    (h : Scene.load r text = .ok scene) :
    ∃ log, readScene r path (.ok text) = (log, .ok scene) := by
  rw [readScene]
  simp only [h]
  exact ⟨_, rfl⟩

theorem loadScene_outcome {path text : String} {scene : Scene Kind}
    (hl : Scene.load r text = .ok scene)
    (hn : ∀ m ∈ scene.members, ∀ h ∈ m.components, ∃ name, r.nameOfHandle h = .ok name) :
    (loadScene r path (.ok text)).outcome = .ok () := by
  obtain ⟨log, hread⟩ := readScene_of_load path hl
  have hlines : ∀ i ∈ scene.members.flatMap fun m ↦ .inl m.entity :: m.components.map .inr,
      ∃ line, sceneLine r i = .ok line := by
    intro i hi
    obtain ⟨m, hm, hi⟩ := List.mem_flatMap.1 hi
    rcases List.mem_cons.1 hi with rfl | hi
    · exact ⟨_, rfl⟩
    · obtain ⟨h, hh, rfl⟩ := List.mem_map.1 hi
      obtain ⟨name, hname⟩ := hn m hm h hh
      exact ⟨_, by rw [sceneLine, hname]⟩
  obtain ⟨lines, hlines⟩ := mapM_isOk_iff.2 hlines
  rw [loadScene, hread]
  dsimp only
  rw [printed_of_mapM hlines]

theorem dumpScene_eq (path : String) {text : String} {scene : Scene Kind} {records : List Record}
    {lines : List String} (hl : Scene.load r text = .ok scene) (hrec : scene.records r = .ok records)
    (hlines : records.mapM (recordLine r) = .ok lines) (output : Option String) :
    ∃ log, dumpScene r path (.ok text) output =
      ⟨⟨lines, log, .ok ()⟩, output.map fun name ↦ (name, encode records)⟩ := by
  obtain ⟨log, hread⟩ := readScene_of_load path hl
  refine ⟨log, ?_⟩
  rw [dumpScene, hread]
  dsimp only
  rw [hrec]
  dsimp only
  rw [printed_of_mapM hlines]

theorem decode_records {records : List Record} (hl : records.length < 0x100000000)
    (hd : ∀ c ∈ records, c.data.length < 0x100000000) :
    decode (List Record) (encode records) = .ok records :=
  (Form.returns_list hl fun c hc ↦ Message.returns_record (hd c hc)).decode

theorem dumped_of_load (hr : r.Registered) (path : String) {text : String} {scene : Scene Kind}
    (hl : Scene.load r text = .ok scene) :
    ∃ file records lines, Dumped r path text scene file records lines := by
  obtain ⟨file, records, hf, hrec, ⟨lines, hlines, ha⟩, hn⟩ := printable_of_load hr hl
  have hn : ∀ m ∈ scene.members, ∀ h ∈ m.components, ∃ name, r.nameOfHandle h = .ok name :=
    fun m hm h hh ↦ hn h (List.mem_flatMap.2 ⟨m, hm, hh⟩)
  refine ⟨file, records, lines, ?_⟩
  constructor
  case parsed => exact hf
  case recorded => exact hrec
  case shown => exact ha
  case named => exact hn
  case loaded => exact loadScene_outcome hl hn
  case dumped =>
    intro output
    obtain ⟨log, hd⟩ := dumpScene_eq path hl hrec hlines output
    rw [hd]
    cases output <;> rfl
  case printed =>
    intro output
    obtain ⟨log, hd⟩ := dumpScene_eq path hl hrec hlines output
    rw [hd]
    cases output <;> rfl
  case written =>
    intro output
    obtain ⟨log, hd⟩ := dumpScene_eq path hl hrec hlines output
    rw [hd]
  case decoded => exact decode_records

/-- What the commands do with a scene text that was read, when what they write is written. -/
structure Reported (r : Registry Kind) (path text : String) : Prop where
  failed {x : Scene.LoadError} (h : Scene.load r text = .error x) :
    (loadScene r path (.ok text)).Fails ∧ ∀ output written,
      ((dumpScene r path (.ok text) output).settle written).Fails ∧
        (dumpScene r path (.ok text) output).write = none
  loaded {scene : Scene Kind} (h : Scene.load r text = .ok scene) :
    ∃ file records lines, Dumped r path text scene file records lines
  determined {path' text' : String} {scene scene' : Scene Kind} {file file' : Scene.File}
    {records records' : List Record} {lines lines' : List String}
    (h : Dumped r path text scene file records lines)
    (h' : Dumped r path' text' scene' file' records' lines') : records = records' ↔ lines = lines'

theorem dump_prints_what_it_writes (path text : String) : Reported .builtin path text where
  failed := by
    intro x h
    obtain ⟨log, chain, hread⟩ := readScene_of_load_error path h
    refine ⟨?_, fun output written ↦ ?_⟩
    · rw [loadScene, hread]
      exact ⟨rfl, chain, rfl⟩
    · rw [dumpScene, hread]
      exact ⟨⟨rfl, chain, rfl⟩, rfl⟩
  loaded := dumped_of_load (Registry.registered_ofList _) path
  determined h h' := Aligned.eq_iff Shown.eq_iff h.shown h'.shown

def probeScene : String :=
  "\x7b\"entities\": [\x7b\"id\": 7, \"components\": " ++
    "\x7b\"Name\": \x7b\"data\": \"probe\"\x7d\x7d\x7d]\x7d"

/-- The scene is dumped in one line, and its text without an end is not. -/
theorem probeScene_is_dumped :
    (∃ scene file records, Scene.load .builtin probeScene = .ok scene ∧
      Dumped .builtin "probe.json" probeScene scene file records
        ["Entity(7) Name 81a464617461a570726f6265"]) ∧
    (loadScene .builtin "probe.json" (.ok "\x7b")).Fails ∧
      (dumpScene .builtin "probe.json" (.ok "\x7b") (some "out")).write = none := by
  have loads : (Scene.load .builtin probeScene).isOk = true := by decide +kernel
  have broken : (Scene.load .builtin "\x7b").isOk = false := by decide +kernel
  constructor
  · cases hl : Scene.load .builtin probeScene with
    | error e =>
      rw [hl] at loads
      nomatch loads
    | ok scene =>
      have reported := dump_prints_what_it_writes "probe.json" probeScene
      obtain ⟨file, records, lines, hd⟩ := reported.loaded hl
      have hlines : lines = ["Entity(7) Name 81a464617461a570726f6265"] := by
        rw [← hd.printed none]
        decide +kernel
      exact ⟨scene, file, records, rfl, hlines ▸ hd⟩
  · cases hl : Scene.load .builtin "\x7b" with
    | ok scene =>
      rw [hl] at broken
      nomatch broken
    | error e =>
      have hf := (dump_prints_what_it_writes "probe.json" "\x7b").failed hl
      exact ⟨hf.1, (hf.2 (some "out") (.ok ())).2⟩

end Inspect

end EntityWire
