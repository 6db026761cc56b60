import ModuleBundler.Proofs.Loading.Machine

/-!
# Tables in which no module is missing

A table is closed if every import map leads to modules of the table only.  Loading a module of a
closed table may fail in many ways, but never because a module is missing.

The argument is an invariant of the single turns (`Supplied`): every module that is to be loaded is
in the table, every factory that has been entered has its import map from the table, and no answer
under way complains about a missing module.
-/

namespace ModuleBundler.Loading

open Config (turn ended)
open Loader (load)

/-- Whether an import map leads to modules of the table only. -/
def Table.Provides (table : Table) (importMap : OrderedMap String String) : Prop :=
  ∀ specifier target, importMap.get? specifier = some target → target ∈ table.modules.keys

/-- **A closed table**: no import leads out of it. -/
def Table.Closed (table : Table) : Prop :=
  ∀ id m, table.get? id = some m → table.Provides m.importMap

/-- The problem is that a module is missing. -/
def Problem.IsMissing (p : Problem) : Prop := ∃ id, p = .moduleNotFound id

variable {table : Table}

/-- What is under way does not lead out of the table. -/
def Phase.Supplied (table : Table) : Phase → Prop
  | .loading id => id ∈ table.modules.keys
  | .working a => table.Provides a.importMap
  | .answering (.ok _) => True
  | .answering (.error failure) => ¬ failure.problem.IsMissing

/-- **What holds at every moment** of a loading from a closed table. -/
structure Supplied (table : Table) (c : Config) : Prop where
  waiting : ∀ w ∈ c.waiting, table.Provides w.activation.importMap
  phase : c.phase.Supplied table

namespace Supplied

variable {l : Loader} {ws : List Waiting} {a : Activation}

lemma fault (hws : ∀ w ∈ ws, table.Provides w.activation.importMap)
    (ha : table.Provides a.importMap) (guarded : Bool) {failure : Failure}
    (hproblem : ¬ failure.problem.IsMissing) :
    Supplied table (Config.fault l ws a guarded failure) := by
  rw [Config.fault]
  split
  · exact ⟨hws, ha⟩
  · exact ⟨hws, hproblem⟩

lemma ask (hws : ∀ w ∈ ws, table.Provides w.activation.importMap)
    (ha : table.Provides a.importMap) (specifier slot : String) (guarded : Bool) :
    Supplied table (Config.ask l ws a specifier slot guarded) := by
  rw [Config.ask]
  split
  · refine fault hws ha guarded ?_
    rintro ⟨id, h⟩
    cases h
  · next target hmap =>
      split
      · exact ⟨hws, ha⟩
      · exact ⟨List.forall_mem_cons.2 ⟨ha, hws⟩, ha specifier target hmap⟩

lemma work (hws : ∀ w ∈ ws, table.Provides w.activation.importMap)
    (ha : table.Provides a.importMap) : Supplied table (Config.work l ws a) := by
  have hrest : ∀ rest, table.Provides (a.proceed rest).importMap := fun _ => ha
  rw [Config.work]
  split
  · exact ⟨hws, trivial⟩
  · exact ⟨hws, ha⟩
  · exact ask hws (hrest _) _ _ _
  · exact ask hws (hrest _) _ _ _
  · exact ⟨hws, ha⟩
  · exact ⟨hws, ha⟩
  · exact ⟨hws, ha⟩
  · exact ⟨hws, ha⟩
  · refine fault hws (hrest _) false ?_
    rintro ⟨id, h⟩
    cases h

lemma begin (hclosed : table.Closed) (hws : ∀ w ∈ ws, table.Provides w.activation.importMap)
    {id : String} (hid : id ∈ table.modules.keys) :
    Supplied table (Config.begin table l ws id) := by
  rw [Config.begin]
  split
  · exact ⟨hws, trivial⟩
  · obtain ⟨m, hm⟩ := OrderedMap.exists_get?_of_mem_keys hid
    rw [show table.get? id = some m from hm]
    exact ⟨hws, hclosed id m hm⟩

lemma resume {w : Waiting} (hws : ∀ w ∈ ws, table.Provides w.activation.importMap)
    (hw : table.Provides w.activation.importMap) {answer : Except Failure Exports}
    (hanswer : (Phase.answering answer).Supplied table) :
    Supplied table (Config.resume l ws w answer) := by
  cases answer with
  | ok exports => exact ⟨hws, hw⟩
  | error failure => exact fault hws hw w.guarded hanswer

/-- **Every turn keeps the invariant.** -/
theorem turn (hclosed : table.Closed) {c : Config} (h : Supplied table c) :
    Supplied table (turn table c) := by
  obtain ⟨l, ws, phase⟩ := c
  obtain ⟨hws, hphase⟩ := h
  cases phase with
  | loading id => exact begin hclosed hws hphase
  | working a => exact work hws hphase
  | answering answer =>
      cases ws with
      | nil => exact ⟨hws, hphase⟩
      | cons w ws => exact resume (fun v hv => hws v (by simp [hv])) (hws w (by simp)) hphase

end Supplied

/-- **In a closed table no module is missing.**  Whatever has been loaded before, loading a module
    of the table does not come to the answer that some module cannot be found. -/
theorem not_isMissing_of_load (hclosed : table.Closed) (l : Loader) {id : String}
    (hid : id ∈ table.modules.keys) {failure : Failure}
    (hfailed : (load table id l).2 = .error failure) : ¬ failure.problem.IsMissing := by
  have hended : Supplied table (ended [] (load table id l)) :=
    ended_induction ⟨List.forall_mem_nil _, hid⟩ fun _ h => h.turn hclosed
  have hanswered := hended.phase
  simp only [ended, hfailed] at hanswered
  exact hanswered

end ModuleBundler.Loading
