import ModuleBundler.Proofs.Execution.Answers
import ModuleBundler.Proofs.Execution.GraphTable
import ModuleBundler.Proofs.Graph.Closure

/-!
# A table staged for loading

The factories of a staged table first require all that their modules import, in order, and then do
whatever neither requires nor fails.  Here are the stretches of turns that such factories go
through: a requirement that gets a stand-in, one that gets the exports of its target, one that has
to wait, and the way to a return.
-/

namespace ModuleBundler.Execution

open Discovery (Yields importMapOf)
open Loading (Activation Config Exports Leads Loader Step Table Waiting)

/-- The loader after some sayings. -/
def saying (l : Loader) (texts : List String) : Loader :=
  { l with events := l.events ++ texts.map .said }

/-- **What is discovered and what is loaded**: modules to discover, names for them, and a table
    that has under the name of each module a factory that requires all its imports. -/
structure Staging (σ : Type) [FileStore σ] where
  resolver : Resolver σ
  compile : Compiler
  entry : ModuleId
  name : ModuleId → String
  tail : ModuleId → List Step
  table : Table
  injective : ∀ {a b : ModuleId}, Discovery.Reachable resolver compile entry a →
    Discovery.Reachable resolver compile entry b → name a = name b → a = b
  quiet : ∀ id, ∀ step ∈ tail id, isQuiet step = true
  get? : ∀ {id : ModuleId} {unit : CompiledModule},
    Discovery.Reachable resolver compile entry id → Yields resolver compile id unit →
      table.get? (name id) = some ⟨(importMapOf resolver id unit.imports).mapValues name,
        requiring (importMapOf resolver id unit.imports).keys (tail id)⟩

namespace Staging

variable {σ : Type} [FileStore σ] (S : Staging σ)

/-- What the scan reaches. -/
abbrev Reachable (id : ModuleId) : Prop :=
  Discovery.Reachable S.resolver S.compile S.entry id

/-- What the specifiers of a compiled module stand for. -/
abbrev importMap (u : ModuleId) (unit : CompiledModule) : ImportMap :=
  importMapOf S.resolver u unit.imports

/-! ## Turns of the loading -/

/-- The factory of a module that has yet to require some of its imports. -/
def activation (u : ModuleId) (m : ImportMap) (pending : List (String × ModuleId))
    (f : Loader.Frame) : Activation :=
  ⟨S.name u, m.mapValues S.name, requiring (pending.map Prod.fst) (S.tail u), f⟩

/-- The factory of a module that waits for one of its imports. -/
def waitingFor (u : ModuleId) (m : ImportMap) (e : String × ModuleId)
    (pending : List (String × ModuleId)) (f : Loader.Frame) : Waiting :=
  ⟨S.activation u m pending f, e.1, e.1, S.name e.2, false⟩

variable {S} {l : Loader} {ws : List Waiting} {u : ModuleId} {m : ImportMap}
  {e : String × ModuleId} {pending : List (String × ModuleId)} {f : Loader.Frame}

lemma name_inj {a b : ModuleId} (ha : S.Reachable a) (hb : S.Reachable b) :
    S.name a = S.name b ↔ a = b :=
  ⟨S.injective ha hb, congrArg S.name⟩

lemma get?_mapValues_of_mem (hmem : e ∈ m.toList) :
    (m.mapValues S.name).get? e.1 = some (S.name e.2) := by
  rw [OrderedMap.get?_mapValues, (OrderedMap.get?_eq_some_iff_mem m e.1 e.2).2 hmem]
  rfl

/-- A requirement is answered with a stand-in if its target counts as instantiating, or else waits
    for the target. -/
lemma turn_require (hmem : e ∈ m.toList) :
    Config.turn S.table ⟨l, ws, .working (S.activation u m (e :: pending) f)⟩
      = if l.isInstantiating (S.name e.2) then
          ⟨l.note (.answered (S.name u) e.1 (S.name e.2) true .empty), ws,
            .working ((S.activation u m pending f).bind e.1 .empty)⟩
        else ⟨l, S.waitingFor u m e pending f :: ws, .loading (S.name e.2)⟩ := by
  change Config.ask l ws (S.activation u m pending f) e.1 e.1 false = _
  have hget : (S.activation u m pending f).importMap.get? e.1 = some (S.name e.2) :=
    get?_mapValues_of_mem hmem
  rw [Config.ask, hget]
  rfl

lemma leads_standIn (u : ModuleId) (ws : List Waiting) (pending : List (String × ModuleId))
    (f : Loader.Frame) (hmem : e ∈ m.toList) (hin : l.isInstantiating (S.name e.2) = true) :
    ∃ f', Leads S.table ⟨l, ws, .working (S.activation u m (e :: pending) f)⟩
      ⟨l.note (.answered (S.name u) e.1 (S.name e.2) true .empty), ws,
        .working (S.activation u m pending f')⟩ := by
  refine ⟨{ f with slots := f.slots.insert e.1 .empty }, .turn ?_⟩
  rw [turn_require hmem, if_pos hin]
  exact .refl _

lemma leads_wait (u : ModuleId) (ws : List Waiting) (pending : List (String × ModuleId))
    (f : Loader.Frame) (hmem : e ∈ m.toList)
    (hout : l.isInstantiating (S.name e.2) = false) :
    Leads S.table ⟨l, ws, .working (S.activation u m (e :: pending) f)⟩
      ⟨l, S.waitingFor u m e pending f :: ws, .loading (S.name e.2)⟩ := by
  refine .turn ?_
  rw [turn_require hmem, if_neg (by simp [hout])]
  exact .refl _

lemma leads_resume (l : Loader) (ws : List Waiting) (u : ModuleId) (m : ImportMap)
    (e : String × ModuleId) (pending : List (String × ModuleId)) (f : Loader.Frame)
    (exports : Exports) :
    ∃ f', Leads S.table ⟨l, S.waitingFor u m e pending f :: ws, .answering (.ok exports)⟩
      ⟨l.note (.answered (S.name u) e.1 (S.name e.2) false exports), ws,
        .working (S.activation u m pending f')⟩ :=
  ⟨_, .turn (.refl _)⟩

/-- A requirement of a module that has its exports. -/
lemma leads_exports (u : ModuleId) (ws : List Waiting) (pending : List (String × ModuleId))
    (f : Loader.Frame) (hmem : e ∈ m.toList) {exports : Exports}
    (hcache : l.cache.get? (S.name e.2) = some exports) :
    ∃ f', Leads S.table ⟨l, ws, .working (S.activation u m (e :: pending) f)⟩
      ⟨l.note (.answered (S.name u) e.1 (S.name e.2) false exports), ws,
        .working (S.activation u m pending f')⟩ := by
  have hout : l.isInstantiating (S.name e.2) = false := by
    have hcontains := (OrderedMap.contains_iff_mem_keys l.cache _).2
      (OrderedMap.mem_keys_of_get? hcache)
    simp [Loader.isInstantiating, hcontains]
  have hrecall : Leads S.table ⟨l, S.waitingFor u m e pending f :: ws, .loading (S.name e.2)⟩
      ⟨l, S.waitingFor u m e pending f :: ws, .answering (.ok exports)⟩ := by
    refine .turn ?_
    change Leads S.table (Config.begin S.table l _ (S.name e.2)) _
    rw [Config.begin, hcache]
    exact .refl _
  obtain ⟨f', hresume⟩ := leads_resume (S := S) l ws u m e pending f exports
  exact ⟨f', ((leads_wait u ws pending f hmem hout).trans hrecall).trans hresume⟩

/-- Loading a module that has no exports yet enters its factory. -/
lemma leads_enter {t : ModuleId} {unit : CompiledModule} (ht : S.Reachable t)
    (hunit : Yields S.resolver S.compile t unit) (hcache : l.cache.get? (S.name t) = none) :
    Leads S.table ⟨l, ws, .loading (S.name t)⟩
      ⟨l.enter (S.name t), ws,
        .working (S.activation t (S.importMap t unit) (S.importMap t unit).toList .initial)⟩ := by
  refine .turn ?_
  change Leads S.table (Config.begin S.table l ws (S.name t)) _
  rw [Config.begin, hcache, S.get? ht hunit]
  exact .refl _

/-- Steps that neither require nor fail lead to a return. -/
lemma leads_quiet {table : Table} (id : String) (importMap : OrderedMap String String)
    (ws : List Waiting) (steps : List Step) (hquiet : ∀ step ∈ steps, isQuiet step = true)
    (f : Loader.Frame) (l : Loader) :
    ∃ texts exports, Leads table ⟨l, ws, .working ⟨id, importMap, steps, f⟩⟩
      ⟨(saying l texts).keep id exports, ws, .answering (.ok exports)⟩ := by
  induction steps generalizing f l with
  | nil =>
      refine ⟨[], f.exports, .turn ?_⟩
      rw [saying, List.map_nil, List.append_nil]
      exact .refl _
  | cons step rest ih =>
      have hstep : isQuiet step = true := hquiet step (by simp)
      have hnext := ih fun s hs => hquiet s (by simp [hs])
      have hsaid : ∀ text, ∃ texts exports,
          Leads table ⟨l.note (.said text), ws, .working ⟨id, importMap, rest, f⟩⟩
            ⟨(saying l texts).keep id exports, ws, .answering (.ok exports)⟩ := by
        intro text
        obtain ⟨texts, exports, hleads⟩ := hnext f (l.note (.said text))
        refine ⟨text :: texts, exports, ?_⟩
        simpa [saying, Loader.note] using hleads
      have hcomputed : ∀ f', ∃ texts exports,
          Leads table ⟨l, ws, .working ⟨id, importMap, rest, f'⟩⟩
            ⟨(saying l texts).keep id exports, ws, .answering (.ok exports)⟩ := fun f' => hnext f' l
      have hturn : ∀ c, Config.turn table ⟨l, ws, .working ⟨id, importMap, step :: rest, f⟩⟩ = c →
          (∃ texts exports, Leads table c
            ⟨(saying l texts).keep id exports, ws, .answering (.ok exports)⟩) →
          ∃ texts exports, Leads table ⟨l, ws, .working ⟨id, importMap, step :: rest, f⟩⟩
            ⟨(saying l texts).keep id exports, ws, .answering (.ok exports)⟩ := by
        rintro c rfl ⟨texts, exports, hleads⟩
        exact ⟨texts, exports, .turn hleads⟩
      cases step with
      | require specifier slot => cases hstep
      | tryRequire specifier slot => cases hstep
      | fail message => cases hstep
      | say text => exact hturn _ rfl (hsaid _)
      | exhibit slot => exact hturn _ rfl (hsaid _)
      | publish name value => exact hturn _ rfl (hcomputed _)
      | publishFrom name slot property => exact hturn _ rfl (hcomputed _)
      | replace slot => exact hturn _ rfl (hcomputed _)

/-- A factory that has required everything goes on to return. -/
lemma leads_return (l : Loader) (ws : List Waiting) (u : ModuleId) (m : ImportMap)
    (f : Loader.Frame) :
    ∃ texts exports, Leads S.table ⟨l, ws, .working (S.activation u m [] f)⟩
      ⟨(saying l texts).keep (S.name u) exports, ws, .answering (.ok exports)⟩ :=
  leads_quiet _ _ ws (S.tail u) (S.quiet u) f l

end Staging

end ModuleBundler.Execution
