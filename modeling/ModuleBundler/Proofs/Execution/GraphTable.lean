import ModuleBundler.Graph.Basic
import ModuleBundler.Loading.Table
import ModuleBundler.Proofs.OrderedMap

/-!
# The table of a graph

Given names for the modules of a graph, the graph is turned into a table: each module stands
under its name, and its import map leads to the names of its targets.  What the factories do is
left open; `requiring` is the beginning of a factory that requires all that its module imports.
-/

namespace ModuleBundler.Execution

open Loading (Step Table TableModule)

/-- **The table of a graph**, with the modules in the order found. -/
def graphTable (name : ModuleId → String) (factory : ModuleId → ModuleRecord → List Step)
    (g : DependencyGraph) : Table :=
  ⟨name g.entry, .ofList (g.modules.toList.map fun e =>
    (name e.1, ⟨e.2.importMap.mapValues name, factory e.1 e.2⟩))⟩

/-- Require specifiers, each into a variable of its own name, and then take further steps. -/
def requiring (specifiers : List String) (tail : List Step) : List Step :=
  specifiers.map (fun s => .require s s) ++ tail

/-- Whether a step requires nothing and does not fail. -/
def isQuiet : Step → Bool
  | .require _ _ => false
  | .tryRequire _ _ => false
  | .fail _ => false
  | _ => true

variable {name : ModuleId → String} {factory : ModuleId → ModuleRecord → List Step}

section Injective

variable {g : DependencyGraph} (hname : ∀ a ∈ g.ids, ∀ b ∈ g.ids, name a = name b → a = b)

include hname

lemma toList_graphTable : (graphTable name factory g).modules.toList
    = g.modules.toList.map fun e =>
        (name e.1, ⟨e.2.importMap.mapValues name, factory e.1 e.2⟩) := by
  refine OrderedMap.toList_ofList ?_
  rw [List.map_map]
  have hmap := List.Nodup.map_on hname g.modules.keys_nodup
  rwa [DependencyGraph.ids, OrderedMap.keys_eq_map, List.map_map] at hmap

lemma keys_graphTable : (graphTable name factory g).modules.keys = g.ids.map name := by
  rw [OrderedMap.keys_eq_map, toList_graphTable hname, DependencyGraph.ids,
    OrderedMap.keys_eq_map, List.map_map, List.map_map]
  rfl

/-- **The entry of a module** in the table, if no two modules have one name. -/
theorem get?_graphTable {id : ModuleId} {record : ModuleRecord} (h : g.get? id = some record) :
    (graphTable name factory g).get? (name id)
      = some ⟨record.importMap.mapValues name, factory id record⟩ := by
  refine (OrderedMap.get?_eq_some_iff_mem _ _ _).2 ?_
  rw [toList_graphTable hname]
  exact List.mem_map.2 ⟨(id, record), (OrderedMap.get?_eq_some_iff_mem _ _ _).1 h, rfl⟩

/-- Every entry of the table is that of a module. -/
lemma exists_get?_of_graphTable {key : String} {m : TableModule}
    (h : (graphTable name factory g).get? key = some m) :
    ∃ id record, g.get? id = some record ∧ name id = key
      ∧ ⟨record.importMap.mapValues name, factory id record⟩ = m := by
  have hmem := (OrderedMap.get?_eq_some_iff_mem _ _ _).1 h
  rw [toList_graphTable hname] at hmem
  obtain ⟨⟨id, record⟩, hentry, heq⟩ := List.mem_map.1 hmem
  cases heq
  exact ⟨id, record, (OrderedMap.get?_eq_some_iff_mem _ _ _).2 hentry, rfl, rfl⟩

end Injective

end ModuleBundler.Execution
