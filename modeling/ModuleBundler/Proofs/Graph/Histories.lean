import Mathlib.Data.List.Induction
import ModuleBundler.Proofs.Graph.Turns

/-!
# What a graph remembers of its history

A graph is built by reservations and finishings, in any order and of any modules: a module may be
finished before it is reserved, several times or never, and reserved again after it was finished.

**One operation.**  A reservation adds to the ids if it is the first (`ids_perform_reserve`), and
`get?_perform` says what an operation does to a module that is reserved.  What is refused does
nothing at all (`reserve_of_mem`, `finish_of_notMem`).

**All operations.**  The ids are those of the reservations, each at its first place
(`ids_performAll`).  From the reservation of a module on, its code stays and its import map is that
of the last finishing (`get?_performAll`).
-/

namespace ModuleBundler.DependencyGraph

/-- **A change to a graph.** -/
inductive Operation where
  | reserve (id : ModuleId) (code : String)
  | finish (id : ModuleId) (importMap : ImportMap)

namespace Operation

/-- The module that an operation reserves. -/
def reserved? : Operation → Option ModuleId
  | .reserve id _ => some id
  | .finish _ _ => none

/-- The import map with which an operation finishes the given module. -/
def importMap? (id : ModuleId) : Operation → Option ImportMap
  | .reserve _ _ => none
  | .finish id' importMap => if id' = id then some importMap else none

end Operation

/-- What an operation makes of a graph. -/
def perform (g : DependencyGraph) : Operation → DependencyGraph
  | .reserve id code => (g.tryReserve id code).1
  | .finish id importMap => g.finish id importMap

/-- **Perform operations** one after the other. -/
def performAll (g : DependencyGraph) (operations : List Operation) : DependencyGraph :=
  operations.foldl perform g

lemma perform_reserve (g : DependencyGraph) (id : ModuleId) (code : String) :
    g.perform (.reserve id code) = g.reserve id code := rfl

lemma perform_finish (g : DependencyGraph) (id : ModuleId) (importMap : ImportMap) :
    g.perform (.finish id importMap) = g.finish id importMap := rfl

lemma performAll_concat (g : DependencyGraph) (before : List Operation) (operation : Operation) :
    g.performAll (before ++ [operation]) = (g.performAll before).perform operation :=
  List.foldl_concat ..

lemma performAll_append_cons (g : DependencyGraph) (before : List Operation) (operation : Operation)
    (after : List Operation) :
    g.performAll (before ++ operation :: after)
      = ((g.performAll before).perform operation).performAll after :=
  List.foldl_append ..

/-- Whether some of the operations reserve a module. -/
def Reserves (operations : List Operation) (id : ModuleId) : Prop :=
  ∃ code, .reserve id code ∈ operations

/-- The import map of the last operation that finishes the given module. -/
def lastImportMap? (id : ModuleId) (operations : List Operation) : Option ImportMap :=
  (operations.filterMap (Operation.importMap? id)).getLast?

lemma mem_reserved_iff (operations : List Operation) (id : ModuleId) :
    id ∈ operations.filterMap Operation.reserved? ↔ Reserves operations id := by
  rw [List.mem_filterMap]
  constructor
  · rintro ⟨operation, hmem, hid⟩
    cases operation with
    | reserve id' code =>
        cases hid
        exact ⟨code, hmem⟩
    | finish id' importMap => cases hid
  · rintro ⟨code, hmem⟩
    exact ⟨_, hmem, rfl⟩

/-! ## One operation -/

/-- **A second reservation** does nothing. -/
lemma reserve_of_mem (g : DependencyGraph) {id : ModuleId} (code : String) (h : id ∈ g.ids) :
    g.reserve id code = g :=
  if_pos ((contains_iff_mem_ids g id).2 h)

/-- **To finish a module that was not reserved** does nothing. -/
lemma finish_of_notMem (g : DependencyGraph) {id : ModuleId} (importMap : ImportMap)
    (h : id ∉ g.ids) : g.finish id importMap = g := by
  have hnone : g.modules.get? id = none := (OrderedMap.get?_eq_none_iff _ _).2 h
  rw [finish, OrderedMap.modify, hnone]

lemma tryReserve_taken_iff (g : DependencyGraph) (id : ModuleId) (code : String) :
    (g.tryReserve id code).2 = true ↔ id ∉ g.ids := by
  rw [tryReserve, Bool.not_eq_true', ← Bool.not_eq_true, contains_iff_mem_ids]

@[simp] lemma entry_perform (g : DependencyGraph) (operation : Operation) :
    (g.perform operation).entry = g.entry := by
  cases operation with
  | reserve id code => exact entry_reserve g id code
  | finish id importMap => rfl

/-- **A reservation** adds a module to the ids if it is not among them. -/
lemma ids_perform_reserve (g : DependencyGraph) (id : ModuleId) (code : String) :
    (g.perform (.reserve id code)).ids = if id ∈ g.ids then g.ids else g.ids ++ [id] := by
  rw [perform_reserve]
  split
  · next hmem => rw [reserve_of_mem g code hmem]
  · next hnew => rw [ids_reserve g code hnew]

/-- **A module that is reserved** keeps its code, and has a new import map if it is finished. -/
lemma get?_perform {g : DependencyGraph} {id : ModuleId} {record : ModuleRecord}
    (h : g.get? id = some record) (operation : Operation) :
    (g.perform operation).get? id
      = some ⟨record.code, (operation.importMap? id).getD record.importMap⟩ := by
  cases operation with
  | reserve id' code =>
      rw [perform_reserve]
      by_cases hmem : id' ∈ g.ids
      · rw [reserve_of_mem g code hmem, h]
        rfl
      · have hne : id' ≠ id := fun heq => hmem (heq ▸ mem_ids_of_get? h)
        rw [get?_reserve g code hmem, if_neg hne, h]
        rfl
  | finish id' importMap =>
      rw [perform_finish, get?_finish, Operation.importMap?, h]
      split <;> rfl

/-! ## All operations -/

lemma entry_performAll (g : DependencyGraph) (operations : List Operation) :
    (g.performAll operations).entry = g.entry := by
  induction operations generalizing g with
  | nil => rfl
  | cons operation rest ih => exact (ih _).trans (entry_perform g operation)

/-- Only a new member is not a repetition. -/
lemma eraseDups_concat {α : Type} [DecidableEq α] (xs : List α) (x : α) :
    (xs ++ [x]).eraseDups = if x ∈ xs then xs.eraseDups else xs.eraseDups ++ [x] := by
  rw [List.eraseDups_append]
  split
  · next hmem => simp [List.removeAll, hmem]
  · next hnew => simp [List.removeAll, hnew, List.eraseDups_cons]

/-- **The ids** are those of the reservations, each at its first place. -/
theorem ids_performAll (entry : ModuleId) (operations : List Operation) :
    ((new entry).performAll operations).ids
      = (operations.filterMap Operation.reserved?).eraseDups := by
  induction operations using List.reverseRecOn with
  | nil => rfl
  | append_singleton before operation ih =>
      rw [performAll_concat, List.filterMap_append]
      cases operation with
      | reserve id code =>
          have hnew : [Operation.reserve id code].filterMap Operation.reserved? = [id] := rfl
          rw [ids_perform_reserve, ih, hnew, eraseDups_concat]
          simp only [List.mem_eraseDups]
      | finish id importMap =>
          have hnone : [Operation.finish id importMap].filterMap Operation.reserved? = [] := rfl
          rw [perform_finish, ids_finish, ih, hnone, List.append_nil]

/-- **The ids are the reserved ones.** -/
lemma mem_ids_performAll (entry : ModuleId) (operations : List Operation) (id : ModuleId) :
    id ∈ ((new entry).performAll operations).ids ↔ Reserves operations id := by
  rw [ids_performAll, List.mem_eraseDups, mem_reserved_iff]

/-- **From its reservation on** a module keeps its code, and its import map is that of the last
    finishing. -/
theorem get?_performAll {g : DependencyGraph} {id : ModuleId} {record : ModuleRecord}
    (h : g.get? id = some record) (operations : List Operation) :
    (g.performAll operations).get? id
      = some ⟨record.code, (lastImportMap? id operations).getD record.importMap⟩ := by
  induction operations generalizing g record with
  | nil => exact h
  | cons operation rest ih =>
      refine (ih (get?_perform h operation)).trans ?_
      rw [lastImportMap?, lastImportMap?, List.filterMap_cons]
      cases hmap : operation.importMap? id with
      | none => rfl
      | some importMap => rw [List.getLast?_cons]; rfl

/-- **What a graph remembers.**  Take any history of a new graph.  The entry is as it was.  The ids
    are those of the reservations without repetitions, in the order of the first ones.  A module
    that was never reserved has no record.  Any other has the code of its first reservation and
    the import map of the last finishing after it, or an empty one if there is none.  A further
    reservation is taken exactly if it is the first one of its module.  If it is not taken, the
    graph stays as it is, and so it does if a module is finished that was never reserved. -/
theorem performAll_history (entry : ModuleId) (operations : List Operation) :
    let g := (new entry).performAll operations
    g.entry = entry
      ∧ g.ids = (operations.filterMap Operation.reserved?).eraseDups
      ∧ (∀ id, g.get? id = none ↔ ¬ Reserves operations id)
      ∧ (∀ before id code after, operations = before ++ .reserve id code :: after →
          ¬ Reserves before id →
            g.get? id = some ⟨code, (lastImportMap? id after).getD .empty⟩)
      ∧ (∀ id code, (g.tryReserve id code).2 = true ↔ ¬ Reserves operations id)
      ∧ (∀ id code, (g.tryReserve id code).2 = false → (g.tryReserve id code).1 = g)
      ∧ ∀ id importMap, ¬ Reserves operations id → g.finish id importMap = g := by
  intro g
  have hmem : ∀ id, id ∈ g.ids ↔ Reserves operations id := mem_ids_performAll entry operations
  refine ⟨entry_performAll _ operations, ids_performAll entry operations, fun id => ?_, ?_,
    fun id code => ?_, fun id code htaken => ?_, fun id importMap hnone => ?_⟩
  · rw [← hmem id]
    exact OrderedMap.get?_eq_none_iff g.modules id
  · rintro before id code after rfl hnew
    rw [← mem_ids_performAll entry] at hnew
    have hreserved := get?_reserve _ code hnew id
    rw [if_pos rfl] at hreserved
    exact (congrArg (fun g : DependencyGraph => g.get? id) (performAll_append_cons ..)).trans
      (get?_performAll hreserved after)
  · rw [tryReserve_taken_iff, hmem]
  · have hreserved : id ∈ g.ids := by
      by_contra hnot
      rw [(tryReserve_taken_iff g id code).2 hnot] at htaken
      cases htaken
    exact reserve_of_mem g code hreserved
  · exact finish_of_notMem g importMap fun hid => hnone ((hmem id).1 hid)

/-- To finish a module before it is reserved is in vain, and to reserve it again changes nothing. -/
example :
    let g := (new ⟨"/a"⟩).performAll [.finish ⟨"/a"⟩ (.ofList [("./x", ⟨"/x"⟩)]),
      .reserve ⟨"/a"⟩ "first", .finish ⟨"/a"⟩ (.ofList [("./b", ⟨"/b"⟩)]),
      .reserve ⟨"/a"⟩ "second", .reserve ⟨"/b"⟩ "", .finish ⟨"/a"⟩ (.ofList [("./c", ⟨"/c"⟩)])]
    g.ids = [⟨"/a"⟩, ⟨"/b"⟩]
      ∧ (g.get? ⟨"/a"⟩).map ModuleRecord.code = some "first"
      ∧ (g.get? ⟨"/a"⟩).map (fun record => record.importMap.toList)
          = some [("./c", ⟨"/c"⟩)] := by
  decide +kernel

end ModuleBundler.DependencyGraph
