import CaseSuite.Collaborator.Registry
import CaseSuite.Proofs.Entries.Rising
/-!
Plugins registered one after the other. A name belongs to the first plugin of its kind that takes it,
and to no other one after that: a registry is at all times the list of the plugins that it accepted.
-/
set_option autoImplicit false

namespace CaseSuite

variable {m : Type → Type} {ρ α : Type}

inductive Registration (m : Type → Type) (ρ : Type) where
  | service (type : String) (factory : ServiceFactory m)
  | requester (type : String) (factory : RequestFactory ρ)
  | initializer (name : String) (factory : InitializerFactory m)

namespace Registration

def kind : Registration m ρ → PluginKind
  | .service .. => .service
  | .requester .. => .requester
  | .initializer .. => .environment

def name : Registration m ρ → String
  | .service type _ => type
  | .requester type _ => type
  | .initializer name _ => name

/-- What a plugin takes: a name among those of its kind. -/
def slot (plugin : Registration m ρ) : PluginKind × String := (plugin.kind, plugin.name)

def addTo (r : Registry m ρ) : Registration m ρ → Except Error (Registry m ρ)
  | .service type factory => r.registerService type factory
  | .requester type factory => r.registerRequester type factory
  | .initializer name factory => r.registerInitializer name factory

def perform (plugin : Registration m ρ) : ExceptT Error (StateM (Registry m ρ)) Unit := do
  set (← plugin.addTo (← get))

def service? : Registration m ρ → Option (String × ServiceFactory m)
  | .service type factory => some (type, factory)
  | _ => none

def requester? : Registration m ρ → Option (String × RequestFactory ρ)
  | .requester type factory => some (type, factory)
  | _ => none

def initializer? : Registration m ρ → Option (String × InitializerFactory m)
  | .initializer name factory => some (name, factory)
  | _ => none

end Registration

namespace Registry

def register (r : Registry m ρ) (plugin : Registration m ρ) : Except Error Unit × Registry m ρ :=
  plugin.perform.run.run r

/-- Registers plugins one after the other, whether they are refused or not. Returns those that were
accepted, and the registry after that. -/
def registerAll (r : Registry m ρ) : List (Registration m ρ) → List (Registration m ρ) × Registry m ρ
  | [] => ([], r)
  | plugin :: plugins =>
    let rest := (r.register plugin).2.registerAll plugins
    match (r.register plugin).1 with
    | .ok () => (plugin :: rest.1, rest.2)
    | .error _ => rest

def plugins (r : Registry m ρ) : List (Registration m ρ) :=
  r.services.map (fun e => .service e.1 e.2) ++ r.requesters.map (fun e => .requester e.1 e.2) ++
    r.initializers.map (fun e => .initializer e.1 e.2)

def Builds (r : Registry m ρ) : Registration m ρ → Prop
  | .service type factory => r.services.find? type = some factory ∧
      ∀ context params, r.service context type params = factory context params
  | .requester type factory => r.requestFactory type = .ok factory
  | .initializer name factory => r.initializers.find? name = some factory ∧
      ∀ params, r.initializer name params = factory params

def Lacks (r : Registry m ρ) : PluginKind → String → Prop
  | .service, type => r.services.find? type = none ∧
      ∀ context params, r.service context type params = .error (.unknownServiceType type)
  | .requester, type => r.requestFactory type = .error (.unknownRequesterType type)
  | .environment, name => r.initializers.find? name = none ∧
      ∀ params, r.initializer name params = .error (.unknownInitializer name)

def SameOf (r r' : Registry m ρ) : PluginKind → Prop
  | .service => r.services = r'.services
  | .requester => r.requesters = r'.requesters
  | .environment => r.initializers = r'.initializers

/-- The registry has these plugins and no others: no two take the same name of one kind, each
builds what is asked for under its name, and their names are listed in rising order. -/
structure Holds (r : Registry m ρ) (plugins : List (Registration m ρ)) : Prop where
  apart : (plugins.map Registration.slot).Nodup
  builds : ∀ plugin ∈ plugins, r.Builds plugin
  rising : ∀ kind, (r.names kind).Pairwise (· < ·)
  mem_names : ∀ kind name, name ∈ r.names kind ↔ (kind, name) ∈ plugins.map Registration.slot
  lacks_iff : ∀ kind name, r.Lacks kind name ↔ name ∉ r.names kind

/-- One more plugin is accepted if its name is free. If it is refused nothing changes, and in no case
do the other kinds. -/
structure Takes (r : Registry m ρ) (plugin : Registration m ρ) : Prop where
  ok_iff : (r.register plugin).1 = .ok () ↔ plugin.name ∉ r.names plugin.kind
  refused : plugin.name ∈ r.names plugin.kind → r.register plugin =
    (.error (.config (.alreadyRegistered plugin.kind plugin.name)), r)
  others : ∀ kind, kind ≠ plugin.kind → (r.register plugin).2.SameOf r kind

/-- Whatever is registered, the plugins that were there and those that were accepted stay. -/
def KeepsPlugins (start : Registry m ρ) : Prop :=
  ∀ plugins, (start.registerAll plugins).2.Holds
      (start.plugins ++ (start.registerAll plugins).1) ∧
    ∀ plugin, (start.registerAll plugins).2.Takes plugin

/-! ### Registries as lists of plugins -/

def ofPlugins (plugins : List (Registration m ρ)) : Registry m ρ where
  services := plugins.filterMap Registration.service?
  requesters := plugins.filterMap Registration.requester?
  initializers := plugins.filterMap Registration.initializer?

theorem ofPlugins_plugins (r : Registry m ρ) : ofPlugins r.plugins = r := by
  have hservices : r.plugins.filterMap Registration.service? = r.services := by
    simp [plugins, List.filterMap_append, List.filterMap_map, Function.comp_def,
      Registration.service?]
  have hrequesters : r.plugins.filterMap Registration.requester? = r.requesters := by
    simp [plugins, List.filterMap_append, List.filterMap_map, Function.comp_def,
      Registration.requester?]
  have hinitializers : r.plugins.filterMap Registration.initializer? = r.initializers := by
    simp [plugins, List.filterMap_append, List.filterMap_map, Function.comp_def,
      Registration.initializer?]
  rw [ofPlugins, hservices, hrequesters, hinitializers]

end Registry

namespace Registration

def Picks (kind : PluginKind) (pick : Registration m ρ → Option (String × α)) : Prop :=
  ∀ plugin, (pick plugin).map Prod.fst = if plugin.kind = kind then some plugin.name else none

theorem picks_service : Picks .service (service? (m := m) (ρ := ρ)) := by
  rintro (_ | _ | _) <;> rfl

theorem picks_requester : Picks .requester (requester? (m := m) (ρ := ρ)) := by
  rintro (_ | _ | _) <;> rfl

theorem picks_initializer : Picks .environment (initializer? (m := m) (ρ := ρ)) := by
  rintro (_ | _ | _) <;> rfl

variable {kind : PluginKind} {pick : Registration m ρ → Option (String × α)}
  {plugins : List (Registration m ρ)}

theorem Picks.eq_slot (h : Picks kind pick) {plugin : Registration m ρ} {e : String × α}
    (he : pick plugin = some e) : plugin.slot = (kind, e.1) := by
  have hpick := h plugin
  rw [he, Option.map_some] at hpick
  split at hpick
  case isTrue hkind => rw [slot, hkind, Option.some.inj hpick]
  case isFalse => contradiction

theorem Picks.mem_names (h : Picks kind pick) {name : String} :
    name ∈ Entries.names (plugins.filterMap pick) ↔ (kind, name) ∈ plugins.map slot := by
  rw [Entries.names, List.mem_map, List.mem_map]
  constructor
  · rintro ⟨e, he, rfl⟩
    obtain ⟨plugin, hplugin, hpick⟩ := List.mem_filterMap.mp he
    exact ⟨plugin, hplugin, h.eq_slot hpick⟩
  · rintro ⟨plugin, hplugin, hslot⟩
    obtain ⟨rfl, rfl⟩ := Prod.mk.inj hslot
    have hpick := h plugin
    rw [if_pos rfl] at hpick
    obtain ⟨e, he, hname⟩ := Option.map_eq_some_iff.mp hpick
    exact ⟨e, List.mem_filterMap.mpr ⟨plugin, hplugin, he⟩, hname⟩

theorem Picks.distinct (h : Picks kind pick) (hapart : (plugins.map slot).Nodup) :
    Entries.Distinct (plugins.filterMap pick) := by
  refine List.pairwise_map.mpr (List.pairwise_filterMap.mpr ?_)
  refine (List.pairwise_map.mp hapart).imp fun hne e he f hf hname => hne ?_
  rw [h.eq_slot he, h.eq_slot hf, hname]

theorem Picks.find?_eq_some (h : Picks kind pick) (hapart : (plugins.map slot).Nodup)
    {plugin : Registration m ρ} (hplugin : plugin ∈ plugins) {name : String} {a : α}
    (hpick : pick plugin = some (name, a)) : Entries.find? name (plugins.filterMap pick) = some a :=
  (h.distinct hapart).find?_of_mem (List.mem_filterMap.mpr ⟨plugin, hplugin, hpick⟩)

theorem Picks.filterMap_append (h : Picks kind pick) {plugin : Registration m ρ}
    (hkind : kind ≠ plugin.kind) :
    (plugins ++ [plugin]).filterMap pick = plugins.filterMap pick := by
  have hnone : pick plugin = none := by simpa [Ne.symm hkind] using h plugin
  rw [List.filterMap_append, List.filterMap_cons_none hnone, List.filterMap_nil, List.append_nil]

end Registration

namespace Registry

open Registration (slot service? requester? initializer? picks_service picks_requester
  picks_initializer)

theorem addFactory_of_mem {factories : Entries α} {name : String} (h : name ∈ factories.names)
    (kind : PluginKind) (factory : α) : addFactory kind factories name factory =
      .error (.config (.alreadyRegistered kind name)) :=
  if_pos (Entries.has_iff.mpr h)

theorem addFactory_of_not_mem {factories : Entries α} {name : String} (h : name ∉ factories.names)
    (kind : PluginKind) (factory : α) :
    addFactory kind factories name factory = .ok (factories ++ [(name, factory)]) := by
  rw [addFactory, if_neg (mt Entries.has_iff.mp h), Entries.insert_of_not_mem h]

variable {plugins : List (Registration m ρ)} {plugin : Registration m ρ}

theorem mem_names_ofPlugins {kind : PluginKind} {name : String} :
    name ∈ (ofPlugins plugins).names kind ↔ (kind, name) ∈ plugins.map slot := by
  cases kind with
  | service => exact Entries.mem_names_sort.trans picks_service.mem_names
  | requester => exact Entries.mem_names_sort.trans picks_requester.mem_names
  | environment => exact Entries.mem_names_sort.trans picks_initializer.mem_names

theorem register_eq (r : Registry m ρ) (plugin : Registration m ρ) : r.register plugin =
    ((plugin.addTo r).map fun _ => (), (plugin.addTo r).toOption.getD r) := by
  have hrun : r.register plugin =
      ((ExceptT.bindCont set (plugin.addTo r) : StateM (Registry m ρ) (Except Error Unit)) r) := rfl
  rw [hrun]
  cases plugin.addTo r <;> rfl

theorem register_of_mem (h : plugin.slot ∈ plugins.map slot) :
    (ofPlugins plugins).register plugin =
      (.error (.config (.alreadyRegistered plugin.kind plugin.name)), ofPlugins plugins) := by
  have haddTo : plugin.addTo (ofPlugins plugins) =
      .error (.config (.alreadyRegistered plugin.kind plugin.name)) := by
    cases plugin with
    | service type factory =>
      have htaken := addFactory_of_mem (picks_service.mem_names.mpr h) .service factory
      exact congrArg (· >>= _) htaken
    | requester type factory =>
      have htaken := addFactory_of_mem (picks_requester.mem_names.mpr h) .requester factory
      exact congrArg (· >>= _) htaken
    | initializer name factory =>
      have htaken := addFactory_of_mem (picks_initializer.mem_names.mpr h) .environment factory
      exact congrArg (· >>= _) htaken
  rw [register_eq, haddTo]
  rfl

theorem register_of_not_mem (h : plugin.slot ∉ plugins.map slot) :
    (ofPlugins plugins).register plugin = (.ok (), ofPlugins (plugins ++ [plugin])) := by
  have haddTo : plugin.addTo (ofPlugins plugins) = .ok (ofPlugins (plugins ++ [plugin])) := by
    cases plugin with
    | service type factory =>
      have hfree := addFactory_of_not_mem (mt picks_service.mem_names.mp h) .service factory
      refine (congrArg (· >>= _) hfree).trans ?_
      simp [ofPlugins, service?, requester?, initializer?, Registration.name]
    | requester type factory =>
      have hfree := addFactory_of_not_mem (mt picks_requester.mem_names.mp h) .requester factory
      refine (congrArg (· >>= _) hfree).trans ?_
      simp [ofPlugins, service?, requester?, initializer?, Registration.name]
    | initializer name factory =>
      have hfree := addFactory_of_not_mem (mt picks_initializer.mem_names.mp h) .environment factory
      refine (congrArg (· >>= _) hfree).trans ?_
      simp [ofPlugins, service?, requester?, initializer?, Registration.name]
  rw [register_eq, haddTo]
  rfl

theorem sameOf_ofPlugins_append {kind : PluginKind} (hkind : kind ≠ plugin.kind) :
    (ofPlugins (plugins ++ [plugin])).SameOf (ofPlugins plugins) kind := by
  cases kind with
  | service => exact picks_service.filterMap_append hkind
  | requester => exact picks_requester.filterMap_append hkind
  | environment => exact picks_initializer.filterMap_append hkind

/-! ### Single registrations -/

theorem takes_ofPlugins (plugins : List (Registration m ρ)) (plugin : Registration m ρ) :
    (ofPlugins plugins).Takes plugin := by
  by_cases h : plugin.slot ∈ plugins.map slot
  · have hrefused := register_of_mem h
    refine ⟨?_, fun _ => hrefused, fun kind _ => ?_⟩
    · rw [hrefused, mem_names_ofPlugins]
      exact iff_of_false (by simp) (not_not_intro h)
    · rw [hrefused]
      cases kind <;> rfl
  · have hok := register_of_not_mem h
    refine ⟨?_, fun hmem => absurd (mem_names_ofPlugins.mp hmem) h, fun kind hkind => ?_⟩
    · rw [hok, mem_names_ofPlugins]
      exact iff_of_true rfl h
    · rw [hok]
      exact sameOf_ofPlugins_append hkind

theorem builds_ofPlugins (hapart : (plugins.map slot).Nodup) (h : plugin ∈ plugins) :
    (ofPlugins plugins).Builds plugin := by
  cases plugin with
  | service type factory =>
    have hfind : (ofPlugins plugins).services.find? type = some factory :=
      picks_service.find?_eq_some hapart h rfl
    exact ⟨hfind, fun context params => by rw [service, hfind]⟩
  | requester type factory =>
    have hfind : (ofPlugins plugins).requesters.find? type = some factory :=
      picks_requester.find?_eq_some hapart h rfl
    rw [Builds, requestFactory, hfind]
  | initializer name factory =>
    have hfind : (ofPlugins plugins).initializers.find? name = some factory :=
      picks_initializer.find?_eq_some hapart h rfl
    exact ⟨hfind, fun params => by rw [initializer, hfind]⟩

theorem lacks_iff_not_mem (r : Registry m ρ) (kind : PluginKind) (name : String) :
    r.Lacks kind name ↔ name ∉ r.names kind := by
  cases kind with
  | service =>
    rw [Lacks, names, Entries.mem_names_sort, ← Entries.find?_eq_none, and_iff_left_iff_imp]
    intro hfind context params
    rw [service, hfind]
  | requester =>
    rw [Lacks, names, Entries.mem_names_sort, ← Entries.find?_eq_none, requestFactory]
    cases r.requesters.find? name <;> simp
  | environment =>
    rw [Lacks, names, Entries.mem_names_sort, ← Entries.find?_eq_none, and_iff_left_iff_imp]
    intro hfind params
    rw [initializer, hfind]

theorem rising_names (r : Registry m ρ) (kind : PluginKind) : (r.names kind).Pairwise (· < ·) := by
  cases kind <;> exact Entries.rising_sort _

theorem holds_ofPlugins (hapart : (plugins.map slot).Nodup) : (ofPlugins plugins).Holds plugins where
  apart := hapart
  builds _ h := builds_ofPlugins hapart h
  rising := rising_names _
  mem_names _ _ := mem_names_ofPlugins
  lacks_iff := lacks_iff_not_mem _

/-! ### One registration after the other -/

/-- Induction on the plugins that are registered, for all that are there before them. -/
theorem registerAll_ofPlugins (hapart : (plugins.map slot).Nodup) (calls : List (Registration m ρ)) :
    ((ofPlugins plugins).registerAll calls).2 =
        ofPlugins (plugins ++ ((ofPlugins plugins).registerAll calls).1) ∧
      ((plugins ++ ((ofPlugins plugins).registerAll calls).1).map slot).Nodup := by
  induction calls generalizing plugins with
  | nil => simpa [registerAll] using hapart
  | cons plugin calls ih =>
    by_cases h : plugin.slot ∈ plugins.map slot
    · rw [registerAll, register_of_mem h]
      exact ih hapart
    · rw [registerAll, register_of_not_mem h]
      have happend : ((plugins ++ [plugin]).map slot).Nodup := by
        rw [List.map_append]
        exact List.nodup_append_comm.mp (List.nodup_cons.mpr ⟨h, hapart⟩)
      simpa using ih happend

theorem keepsPlugins_of_apart {start : Registry m ρ} (hapart : (start.plugins.map slot).Nodup) :
    start.KeepsPlugins := by
  intro calls
  obtain ⟨heq, hnodup⟩ := registerAll_ofPlugins hapart calls
  rw [ofPlugins_plugins] at heq hnodup
  rw [heq]
  exact ⟨holds_ofPlugins hnodup, takes_ofPlugins _⟩

/-- From an empty registry on, and from the one with everything that is always there, no plugin is
ever replaced: what is built under a name is built by the plugin that took it first. -/
theorem keepsPlugins_start : (empty : Registry m ρ).KeepsPlugins ∧
    ∀ [Monad m] [Storage m] (graphql : GraphqlRequest → ρ),
      (builtin graphql : Registry m ρ).KeepsPlugins := by
  refine ⟨keepsPlugins_of_apart List.nodup_nil, fun graphql => keepsPlugins_of_apart ?_⟩
  simp [builtin, plugins, slot, Registration.kind]

example [Monad m] [Storage m] (graphql : GraphqlRequest → ρ) :
    (builtin graphql : Registry m ρ).plugins.map slot =
      [(.service, "filesystem"), (.requester, "graphql"), (.environment, "clocks")] :=
  rfl

end Registry

end CaseSuite
