import EntityWire.Proofs.Component.Same
import EntityWire.Proofs.Registry.Acceptance
import EntityWire.Proofs.Scene.File
import EntityWire.Proofs.Scene.Loading
import EntityWire.Scene.Basic

namespace EntityWire

/-- Three lists that correspond, position by position. -/
inductive Aligned {α β γ : Type} (R : α → β → γ → Prop) : List α → List β → List γ → Prop
  | nil : Aligned R [] [] []
  | cons {a : α} {b : β} {c : γ} {as : List α} {bs : List β} {cs : List γ} (h : R a b c)
      (hs : Aligned R as bs cs) : Aligned R (a :: as) (b :: bs) (c :: cs)

section Lists

variable {ε ε' α β γ δ : Type} {R : α → β → γ → Prop}

theorem aligned_of_mapM {f : α → Except ε β} {g : β → Except ε' γ} {as : List α} {bs : List β}
    (h : as.mapM f = .ok bs)
    (step : ∀ a b, a ∈ as → f a = .ok b → ∃ c, g b = .ok c ∧ R a b c) :
    ∃ cs, bs.mapM g = .ok cs ∧ Aligned R as bs cs := by
  induction as generalizing bs with
  | nil =>
    obtain rfl := Except.ok.inj h
    exact ⟨[], rfl, .nil⟩
  | cons a as ih =>
    rw [List.mapM_cons] at h
    obtain ⟨b, hb, h⟩ := of_bind_ok h
    obtain ⟨bs', hbs, h⟩ := of_bind_ok h
    obtain rfl := Except.ok.inj h
    obtain ⟨c, hc, hr⟩ := step a b List.mem_cons_self hb
    obtain ⟨cs, hcs, ha⟩ := ih hbs fun a' b' hm ↦ step a' b' (List.mem_cons_of_mem _ hm)
    refine ⟨c :: cs, ?_, .cons hr ha⟩
    rw [List.mapM_cons, hc, hcs]
    rfl

theorem Aligned.length_eq {as : List α} {bs : List β} {cs : List γ} (h : Aligned R as bs cs) :
    cs.length = bs.length := by
  induction h with
  | nil => rfl
  | cons _ _ ih => rw [List.length_cons, List.length_cons, ih]

theorem Aligned.map_eq {as : List α} {bs : List β} {cs : List γ} (h : Aligned R as bs cs)
    {f : α → δ} {g : γ → δ} (hf : ∀ a b c, R a b c → g c = f a) : cs.map g = as.map f := by
  induction h with
  | nil => rfl
  | cons h _ ih => rw [List.map_cons, List.map_cons, ih, hf _ _ _ h]

theorem Aligned.length_flatten {as : List α} {bs : List β} {cs : List (List γ)}
    {R : α → β → List γ → Prop} (h : Aligned R as bs cs) {f : β → List δ}
    (hf : ∀ a b c, R a b c → c.length = (f b).length) :
    cs.flatten.length = (bs.flatMap f).length := by
  induction h with
  | nil => rfl
  | cons h _ ih =>
    rw [List.flatten_cons, List.flatMap_cons, List.length_append, List.length_append, ih,
      hf _ _ _ h]

end Lists

namespace Scene

open Message (Record)

/-- A record that carries a component which was loaded from a member of an entry. -/
structure Carried (r : Registry Kind) (entity : Entity) (m : String × Json) (h : Handle Kind)
    (c : Record) : Prop where
  loaded : r.deserialize m.1 m.2.pack = .ok h
  entity : c.entity = entity
  component : c.component = .ofName m.1
  name {g : Registry Kind} (hg : g.Reachable) (hd : g.descriptor m.1 = .ok (.ofKind m.1 h.kind)) :
    g.nameOfId c.component = .ok m.1 ∧
      g.descriptorById c.component = .ok (.ofKind m.1 h.kind)
  back {g : Registry Kind} (hg : g.Reachable) (hd : g.descriptor m.1 = .ok (.ofKind m.1 h.kind)) :
    g.deserialize m.1 c.data = .ok h ∧ g.serialize h = .ok c.data
  same (hs : Json.Each Json.Short m.2) : h.same h = true

/-- The records of what was loaded from an entry: one for each name, in the order of the names. -/
structure Delivered (r : Registry Kind) (e : Entry) (m : Member Kind) (records : List Record) :
    Prop where
  entity : m.entity = ⟨e.id⟩
  components :
    Aligned (Carried r ⟨e.id⟩) (OrderedMap.ofList e.components).entries m.components records
  ids : (records.map Record.component).Nodup

variable {r : Registry Kind}

theorem Carried.nameOfId (hr : r.Registered) {entity : Entity} {m : String × Json} {h : Handle Kind}
    {c : Record} (hc : Carried r entity m h c) : r.nameOfId c.component = .ok m.1 := by
  obtain ⟨k, v, hd, -, rfl⟩ := hr.of_deserialize hc.loaded
  exact (hc.name hr.reachable hd).1

theorem nodup_ids (hr : r.Registered) {entity : Entity} {members : OrderedMap String Json}
    {handles : List (Handle Kind)} {records : List Record}
    (h : Aligned (Carried r entity) members.entries handles records) :
    (records.map Record.component).Nodup := by
  have hm : (records.map Record.component).map r.nameOfId = members.keys.map Except.ok := by
    rw [List.map_map, OrderedMap.keys, List.map_map]
    exact h.map_eq fun m g c hc ↦ hc.nameOfId hr
  refine List.Nodup.of_map r.nameOfId ?_
  rw [hm]
  exact members.nodup_keys.map fun _ _ he ↦ Except.ok.inj he

theorem record_of_buildComponent (hr : r.Registered) {entity : Entity} {name : String}
    {value : Json} (hn : value.Numeric) {h : Handle Kind}
    (hb : buildComponent r entity name value = .ok h) :
    ∃ c, record r entity h = .ok c ∧ Carried r entity (name, value) h c := by
  rw [buildComponent_eq] at hb
  have hg := of_mapError_ok hb
  obtain ⟨k, v, hd, hv, rfl⟩ := hr.of_deserialize hg
  have ha := Carriage.accepts_of_decode hv
  have hs := k.encode_eq v
  refine ⟨⟨entity, .ofName name, k.carriage.encode v⟩, ?_, ?_⟩
  · have hname : r.nameOfHandle ⟨k, ⟨v⟩⟩ = .ok name :=
      hr.consistent.nameOfHandle (Registry.find?_of_descriptor hd) rfl
    have hser := Descriptor.serialize_of_encode name hs
    rw [record, hname]
    simp only [bind, Except.bind, hd, hser]
    rfl
  · constructor
    case loaded => exact hg
    case entity => rfl
    case component => rfl
    case name =>
      intro g hg hgd
      have hf := Registry.find?_of_descriptor hgd
      exact ⟨hg.consistent.nameOfId hf, hg.consistent.descriptorById hf⟩
    case back =>
      intro g hg hgd
      exact ⟨Registry.deserialize_of_decode hgd (Carriage.decode_encode ha),
        hg.consistent.serialize_of_encode hgd hs⟩
    case same =>
      intro hshort
      have ht : Wire.Tame (value.pack ++ []) := Json.tame_pack hn hshort .nil
      rw [List.append_nil] at ht
      exact Handle.same_self (Carriage.same_self_of_decode ht hv)

theorem delivered_of_buildEntry (hr : r.Registered) {e : Entry} (hn : e.Numeric) {m : Member Kind}
    (hb : buildEntry r e = .ok m) :
    ∃ records, m.components.mapM (record r m.entity) = .ok records ∧ Delivered r e m records := by
  obtain ⟨components, hc, hm⟩ := of_bind_ok hb
  obtain rfl := Except.ok.inj hm
  obtain ⟨records, hrec, ha⟩ := aligned_of_mapM (R := Carried r ⟨e.id⟩) hc fun a h ha hh ↦
    record_of_buildComponent hr (hn a (OrderedMap.mem_of_mem_ofList ha)) hh
  exact ⟨records, hrec, rfl, ha, nodup_ids hr ha⟩

/-- The records of a scene that could be loaded, and what they carry: for every entry of the file,
and in it for every name, the component's record goes to the entity under the id of the name, and
brings the same component to every peer that has its kind under the name, where it is written to
the same octets again. -/
theorem loaded_scene_reaches_peers (hr : r.Registered) {text : String} {scene : Scene Kind}
    (hl : load r text = .ok scene) :
    ∃ file parts, File.parse text = .ok file ∧ records r scene = .ok parts.flatten ∧
      parts.flatten.length = scene.componentCount ∧
      Aligned (Delivered r) file.entries scene.members parts := by
  obtain ⟨file, hf, hb⟩ := of_bind_ok hl
  have hf := of_mapError_ok hf
  obtain ⟨members, hm, hs⟩ := of_bind_ok hb
  obtain rfl := Except.ok.inj hs
  have hn := File.numeric_of_parse hf
  obtain ⟨parts, hp, ha⟩ := aligned_of_mapM (R := Delivered r) hm fun e m he hm ↦
    delivered_of_buildEntry hr (hn e he) hm
  refine ⟨file, parts, hf, ?_, ?_, ha⟩
  · rw [records]
    simp only [hp]
    rfl
  · exact ha.length_flatten fun _ _ _ hd ↦ hd.components.length_eq

def probes : Registry Kind :=
  .ofList [("Mass", ⟨.direct .double, "MassTag"⟩), ("Name", Builtin.name)]

def probeFile : String :=
  "\x7b\"entities\": [\x7b\"id\": 7, \"components\": " ++
    "\x7b\"Name\": \x7b\"data\": \"probe\"\x7d, \"Mass\": 2\x7d\x7d]\x7d"

theorem probeFile_reaches_peers :
    probes.Registered ∧ ∃ scene, load probes probeFile = .ok scene ∧
      ∃ file parts, File.parse probeFile = .ok file ∧
        records probes scene = .ok parts.flatten ∧ parts.flatten.length = scene.componentCount ∧
        Aligned (Delivered probes) file.entries scene.members parts := by
  have h : probes.Registered := Registry.registered_ofList _
  have ho : (load probes probeFile).isOk = true := by decide +kernel
  cases hl : load probes probeFile with
  | error e => simp [hl, Except.isOk, Except.toBool] at ho
  | ok scene => exact ⟨h, scene, rfl, loaded_scene_reaches_peers h hl⟩

end Scene

end EntityWire
