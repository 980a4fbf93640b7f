import EntityWire.Proofs.Answer
import EntityWire.Proofs.Ordered.Map
import EntityWire.Proofs.Text.Order
import EntityWire.Scene.Basic

namespace EntityWire.Scene

variable {K : Type} [Kinds K]

namespace Entry

def value? (e : Entry) (name : String) : Option Json := e.components.reverse.lookup name

theorem mem_entries_iff {e : Entry} {name : String} {value : Json} :
    (name, value) ∈ (OrderedMap.ofList e.components).entries ↔ e.value? name = some value := by
  rw [← OrderedMap.find?_eq_some_iff, OrderedMap.find?_ofList, value?]

def outcome? (r : Registry K) (e : Entry) (name : String) :
    Option (Except RegistryError (Handle K)) :=
  (e.value? name).map fun value ↦ r.deserialize name value.pack

theorem outcome?_eq_some_iff {r : Registry K} {e : Entry} {name : String}
    {outcome : Except RegistryError (Handle K)} : e.outcome? r name = some outcome ↔
      ∃ value, (name, value) ∈ (OrderedMap.ofList e.components).entries ∧
        r.deserialize name value.pack = outcome := by
  simp only [outcome?, Option.map_eq_some_iff, mem_entries_iff]

end Entry

variable {r : Registry K} {e e' : Entry} {name : String} {source : RegistryError}

def Entry.Sound (r : Registry K) (e : Entry) : Prop :=
  ∀ name outcome, e.outcome? r name = some outcome → ∃ h, outcome = .ok h

/-- The component under a name fails, and none before it does. -/
structure Entry.Fails (r : Registry K) (e : Entry) (name : String) (source : RegistryError) :
    Prop where
  here : e.outcome? r name = some (.error source)
  first : ∀ {name' source'}, e.outcome? r name' = some (.error source') →
    ¬Utf8.encode name' < Utf8.encode name

/-- An entity whose components are those of an entry, in the order of their names. -/
structure BuiltFrom (r : Registry K) (e : Entry) (m : Member K) : Prop where
  entity : m.entity = ⟨e.id⟩
  components : ∃ names : List String, names.Pairwise (Utf8.encode · < Utf8.encode ·) ∧
    (∀ name, name ∈ names ↔ ∃ value, (name, value) ∈ e.components) ∧
    List.Forall₂ (fun name h ↦ e.outcome? r name = some (.ok h)) names m.components

section Order

variable {ν : Type} {m : OrderedMap String ν}

theorem ascending_keys (m : OrderedMap String ν) :
    m.keys.Pairwise (Utf8.encode · < Utf8.encode ·) :=
  List.pairwise_map.2 (m.ascending.imp Utf8.compare_eq_lt.1)

theorem mem_before_iff {before after : List (String × ν)} {c c' : String × ν}
    (hs : m.entries = before ++ c :: after) :
    c' ∈ before ↔ c' ∈ m.entries ∧ Utf8.encode c'.1 < Utf8.encode c.1 := by
  have hp := List.pairwise_map.1 (ascending_keys m)
  rw [hs, List.pairwise_append, List.pairwise_cons] at hp
  obtain ⟨-, ⟨hafter, -⟩, hbefore⟩ := hp
  rw [hs, List.mem_append, List.mem_cons]
  constructor
  · exact fun h ↦ ⟨.inl h, hbefore c' h c List.mem_cons_self⟩
  · rintro ⟨h | rfl | h, hlt⟩
    · exact h
    · exact absurd hlt (List.lt_irrefl _)
    · exact absurd hlt (List.lt_asymm (hafter c' h))

end Order

theorem buildComponent_eq (r : Registry K) (entity : Entity) (name : String) (value : Json) :
    buildComponent r entity name value =
      (r.deserialize name value.pack).mapError (.component entity name) := rfl

def buildSteps (r : Registry K) (e : Entry) : Except LoadError (List (Handle K)) :=
  (OrderedMap.ofList e.components).entries.mapM fun c ↦ buildComponent r ⟨e.id⟩ c.1 c.2

theorem buildEntry_eq (r : Registry K) (e : Entry) :
    buildEntry r e = (buildSteps r e).map (Member.mk ⟨e.id⟩) := by
  rw [buildEntry, ← buildSteps]
  cases buildSteps r e <;> rfl

theorem buildEntry_isOk_iff : (∃ m, buildEntry r e = .ok m) ↔ e.Sound r := by
  rw [buildEntry_eq, map_isOk_iff, buildSteps, mapM_isOk_iff]
  constructor
  · intro h name outcome ho
    obtain ⟨value, hm, hd⟩ := Entry.outcome?_eq_some_iff.1 ho
    obtain ⟨c, hc⟩ := h _ hm
    exact ⟨c, hd.symm.trans (of_mapError_ok hc)⟩
  · rintro h ⟨name, value⟩ hm
    obtain ⟨c, hc⟩ := h name _ (Entry.outcome?_eq_some_iff.2 ⟨value, hm, rfl⟩)
    exact ⟨c, by rw [buildComponent_eq, hc]; rfl⟩

theorem builtFrom_of_buildEntry {m : Member K} (h : buildEntry r e = .ok m) : BuiltFrom r e m := by
  rw [buildEntry_eq] at h
  obtain ⟨components, hc, rfl⟩ := of_map_ok h
  refine ⟨rfl, (OrderedMap.ofList e.components).keys, ascending_keys _, fun name ↦ ?_, ?_⟩
  · constructor
    · intro hn
      obtain ⟨⟨name, value⟩, hm, rfl⟩ := List.mem_map.1 hn
      exact ⟨value, OrderedMap.mem_of_mem_ofList hm⟩
    · rintro ⟨value, hm⟩
      obtain ⟨value', hv⟩ : ∃ value', e.value? name = some value' := by
        rw [← Option.isSome_iff_exists, Entry.value?, List.lookup_isSome_iff]
        exact ⟨(name, value), List.mem_reverse.2 hm, BEq.rfl⟩
      exact List.mem_map_of_mem (Entry.mem_entries_iff.2 hv)
  · rw [OrderedMap.keys, List.forall₂_map_left_iff]
    have hf := mapM_ok_iff.1 hc
    have hm := (List.forall₂_and_left _ _).2 ⟨fun c hm ↦ hm, hf⟩
    exact hm.imp fun c g hg ↦ Entry.outcome?_eq_some_iff.2 ⟨c.2, hg.1, of_mapError_ok hg.2⟩

theorem buildEntry_error_iff {x : LoadError} : buildEntry r e = .error x ↔
    ∃ name source, x = .component ⟨e.id⟩ name source ∧ e.Fails r name source := by
  rw [buildEntry_eq, map_error_iff, buildSteps, mapM_error_iff]
  constructor
  · rintro ⟨before, ⟨name, value⟩, after, hs, hx, hb⟩
    obtain ⟨source, hd, rfl⟩ := mapError_error_iff.1 hx
    have hm : (name, value) ∈ (OrderedMap.ofList e.components).entries :=
      hs ▸ List.mem_append_right before List.mem_cons_self
    refine ⟨name, source, rfl, Entry.outcome?_eq_some_iff.2 ⟨value, hm, hd⟩, ?_⟩
    intro name' source' ho hlt
    obtain ⟨value', hm', hd'⟩ := Entry.outcome?_eq_some_iff.1 ho
    obtain ⟨h, hh⟩ := hb (name', value') ((mem_before_iff hs).2 ⟨hm', hlt⟩)
    exact absurd (hd'.symm.trans (of_mapError_ok hh)) nofun
  · rintro ⟨name, source, rfl, hf⟩
    obtain ⟨value, hm, hd⟩ := Entry.outcome?_eq_some_iff.1 hf.here
    -- All that stands before the blamed name is smaller, so none of it can fail.
    obtain ⟨before, after, hs⟩ := List.append_of_mem hm
    refine ⟨before, (name, value), after, hs, ?_, ?_⟩
    · rw [buildComponent_eq, hd]
      rfl
    · rintro ⟨name', value'⟩ hb
      obtain ⟨hm', hlt⟩ := (mem_before_iff hs).1 hb
      cases ho : r.deserialize name' value'.pack with
      | ok h => exact ⟨h, by rw [buildComponent_eq, ho]; rfl⟩
      | error source' =>
        exact absurd hlt (hf.first (Entry.outcome?_eq_some_iff.2 ⟨value', hm', ho⟩))

def Entry.Agrees (e e' : Entry) : Prop := e.id = e'.id ∧ ∀ name, e.value? name = e'.value? name

theorem buildEntry_of_agrees (h : e.Agrees e') : buildEntry r e = buildEntry r e' := by
  have hm : OrderedMap.ofList e.components = OrderedMap.ofList e'.components :=
    OrderedMap.ofList_eq_iff.2 h.2
  rw [buildEntry, buildEntry, h.1, hm]

/-- Entries that have the same members in some order, each name once. -/
structure Entry.Rearranges (e e' : Entry) : Prop where
  id : e.id = e'.id
  components : e.components.Perm e'.components
  names : (e.components.map Prod.fst).Nodup

theorem Entry.Rearranges.agrees (h : e.Rearranges e') : e.Agrees e' := by
  refine ⟨h.id, fun name ↦ lookup_eq_of_perm ?_ ?_ name⟩
  · exact (List.reverse_perm _).trans (h.components.trans (List.reverse_perm _).symm)
  · rw [List.pairwise_reverse]
    exact (List.pairwise_map.1 h.names).imp Ne.symm

def File.Fails (r : Registry K) (f : File) (x : LoadError) : Prop :=
  ∃ before e after name source, f.entries = before ++ e :: after ∧ (∀ e' ∈ before, e'.Sound r) ∧
    e.Fails r name source ∧ x = .component ⟨e.id⟩ name source

theorem build_eq (r : Registry K) (f : File) :
    build r f = (f.entries.mapM (buildEntry r)).map Scene.mk := by
  rw [build]
  cases f.entries.mapM (buildEntry r) <;> rfl

theorem load_eq (r : Registry K) {text : String} {f : File} (h : File.parse text = .ok f) :
    load r text = (f.entries.mapM (buildEntry r)).map Scene.mk := by
  rw [← build_eq, load, h]
  rfl

theorem load_isOk_iff {text : String} {f : File} (hp : File.parse text = .ok f) :
    (∃ scene, load r text = .ok scene) ↔ ∀ e ∈ f.entries, e.Sound r := by
  rw [load_eq r hp, map_isOk_iff, mapM_isOk_iff]
  exact forall₂_congr fun e _ ↦ buildEntry_isOk_iff

theorem load_error_iff {text : String} {f : File} (hp : File.parse text = .ok f) {x : LoadError} :
    load r text = .error x ↔ f.Fails r x := by
  rw [load_eq r hp, map_error_iff, mapM_error_iff]
  constructor
  · rintro ⟨before, e, after, hs, hx, hb⟩
    obtain ⟨name, source, rfl, hf⟩ := buildEntry_error_iff.1 hx
    have sound : ∀ e' ∈ before, e'.Sound r := fun e' he ↦ buildEntry_isOk_iff.1 (hb e' he)
    exact ⟨before, e, after, name, source, hs, sound, hf, rfl⟩
  · rintro ⟨before, e, after, name, source, hs, hb, hf, rfl⟩
    refine ⟨before, e, after, hs, buildEntry_error_iff.2 ⟨name, source, rfl, hf⟩, ?_⟩
    exact fun e' he ↦ buildEntry_isOk_iff.2 (hb e' he)

/-- What loading a text gives, once it is read as a file. -/
structure Decided (r : Registry K) (text : String) (f : File) : Prop where
  loads_iff : (∃ scene, load r text = .ok scene) ↔ ∀ e ∈ f.entries, e.Sound r
  built {scene : Scene K} (h : load r text = .ok scene) :
    List.Forall₂ (BuiltFrom r) f.entries scene.members
  fails_iff {x : LoadError} : load r text = .error x ↔ f.Fails r x
  /-- Of values under one name only the last one matters. -/
  agreeing {text' : String} {f' : File} (hp : File.parse text' = .ok f')
    (h : List.Forall₂ Entry.Agrees f.entries f'.entries) : load r text' = load r text
  rearranged {text' : String} {f' : File} (hp : File.parse text' = .ok f')
    (h : List.Forall₂ Entry.Rearranges f.entries f'.entries) : load r text' = load r text

theorem load_agreeing {text text' : String} {f f' : File} (hp : File.parse text = .ok f)
    (hp' : File.parse text' = .ok f') (h : List.Forall₂ Entry.Agrees f.entries f'.entries) :
    load r text' = load r text := by
  have hm : f.entries.mapM (buildEntry r) = f'.entries.mapM (buildEntry r) :=
    mapM_congr (h.imp fun _ _ ha ↦ buildEntry_of_agrees ha)
  rw [load_eq r hp, load_eq r hp', hm]

theorem loading_is_decided (r : Registry K) {text : String} {f : File}
    (hp : File.parse text = .ok f) : Decided r text f where
  loads_iff := load_isOk_iff hp
  built := by
    intro scene h
    rw [load_eq r hp] at h
    obtain ⟨members, hm, rfl⟩ := of_map_ok h
    exact (mapM_ok_iff.1 hm).imp fun _ _ hb ↦ builtFrom_of_buildEntry hb
  fails_iff := load_error_iff hp
  agreeing hp' h := load_agreeing hp hp' h
  rearranged hp' h := load_agreeing hp hp' (h.imp fun _ _ hr ↦ hr.agrees)

/-- Two entities of one number; what fails in the second one is written before what fails first. -/
def brokenFile : String :=
  "\x7b\"entities\": [\x7b\"id\": 1, \"components\": " ++
    "\x7b\"Name\": 3, \"Name\": \x7b\"data\": \"n\"\x7d\x7d\x7d, " ++
    "\x7b\"id\": 1, \"components\": \x7b\"Nil\": 0, \"Mass\": 1\x7d\x7d]\x7d"

theorem brokenFile_is_decided : ∃ f, File.parse brokenFile = .ok f ∧
    Decided .builtin brokenFile f ∧
    load .builtin brokenFile = .error (.component ⟨1⟩ "Mass" (.unknownName "Mass")) := by
  have ho : (File.parse brokenFile).isOk = true := by decide +kernel
  have hx : (load .builtin brokenFile).map (fun _ ↦ ()) =
    .error (.component ⟨1⟩ "Mass" (.unknownName "Mass")) := by decide +kernel
  cases hp : File.parse brokenFile with
  | error e => simp [hp, Except.isOk, Except.toBool] at ho
  | ok f => exact ⟨f, rfl, loading_is_decided .builtin hp, map_error_iff.1 hx⟩

end EntityWire.Scene
