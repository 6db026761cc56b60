import ModuleBundler.Proofs.Loading.Chains
import ModuleBundler.Proofs.Loading.Closed

/-!
# Factories that return

A factory ends without its exports if it fails of its own accord, if it requires a specifier that
its import map does not have, or if a module that it requires cannot be loaded.  The first two can
be read off its steps (`Step.suits`), and the third does not come up in a closed table whose other
factories return.

So in a closed table whose factories suit their import maps every factory returns, and a loading
fails only if the module that is asked for is not in the table (`Unfailing.turn`).
-/

namespace ModuleBundler.Loading

open Config (turn)

/-- Whether a step can be taken by a factory with this import map: it does not fail, and what it
    requires without a guard is among the specifiers. -/
def Step.suits {β : Type} (importMap : OrderedMap String β) : Step → Bool
  | .require specifier _ => importMap.contains specifier
  | .fail _ => false
  | _ => true

/-- Every factory of the table suits the import map of its module. -/
def Table.Suiting (table : Table) : Prop :=
  ∀ id m, table.get? id = some m → ∀ step ∈ m.steps, step.suits m.importMap = true

variable {table : Table}

/-- In a closed table every running factory has an import map that the table provides. -/
lemma Activation.Listed.provides (hclosed : table.Closed) {a : Activation} (h : a.Listed table) :
    table.Provides a.importMap := by
  obtain ⟨m, hm, himports, -⟩ := h
  rw [himports]
  exact hclosed a.id m hm

/-- Only what was asked for from outside can be missing or fail. -/
def Phase.Granted (table : Table) (ws : List Waiting) : Phase → Prop
  | .loading id => ws ≠ [] → id ∈ table.modules.keys
  | .working _ => True
  | .answering (.ok _) => True
  | .answering (.error _) => ws = []

/-- **No factory has failed**, and none is about to. -/
structure Unfailing (table : Table) (c : Config) : Prop where
  unfailed : ∀ id, .left id none ∉ c.loader.events
  granted : c.phase.Granted table c.waiting

namespace Unfailing

variable {l : Loader} {ws : List Waiting} {a : Activation}

lemma fresh (id : String) : Unfailing table ⟨.fresh, [], .loading id⟩ where
  unfailed id' := by simp [Loader.fresh]
  granted h := absurd rfl h

lemma again {answer : Except Failure Exports} (h : Unfailing table ⟨l, [], .answering answer⟩)
    (id : String) : Unfailing table ⟨l, [], .loading id⟩ where
  unfailed := h.unfailed
  granted hne := absurd rfl hne

/-- Nothing is a failure that was noted, but a failure. -/
lemma unfailed_concat {events : List Event} (h : ∀ id, Event.left id none ∉ events) {e : Event}
    (he : ∀ id, e ≠ .left id none) (id : String) : Event.left id none ∉ events ++ [e] := by
  rw [List.mem_append, List.mem_singleton]
  rintro (hmem | heq)
  · exact h id hmem
  · exact he id heq.symm

lemma begin (hl : ∀ id, .left id none ∉ l.events) {id : String}
    (hid : ws ≠ [] → id ∈ table.modules.keys) : Unfailing table (Config.begin table l ws id) := by
  rw [Config.begin]
  split
  · exact ⟨hl, trivial⟩
  · split
    · next hmissing =>
        refine ⟨hl, by_contra fun hne => ?_⟩
        exact (OrderedMap.get?_eq_none_iff _ _).1 hmissing (hid hne)
    · exact ⟨unfailed_concat hl (by simp), trivial⟩

lemma recovered (hl : ∀ id, .left id none ∉ l.events) (failure : Failure) :
    Unfailing table (Config.fault l ws a true failure) := by
  rw [Config.fault, if_pos rfl]
  exact ⟨unfailed_concat hl (by simp), trivial⟩

lemma ask (hl : ∀ id, .left id none ∉ l.events) (ha : table.Provides a.importMap)
    {specifier : String} (slot : String) {guarded : Bool}
    (hknown : guarded = false → a.importMap.contains specifier = true) :
    Unfailing table (Config.ask l ws a specifier slot guarded) := by
  rw [Config.ask]
  split
  · next hunknown =>
      cases guarded with
      | false =>
          have hnone := (OrderedMap.contains_eq_false_iff _ _).2 hunknown
          rw [hknown rfl] at hnone
          cases hnone
      | true => exact recovered hl _
  · next target hmap =>
      split
      · exact ⟨unfailed_concat hl (by simp), trivial⟩
      · exact ⟨hl, fun _ => ha specifier target hmap⟩

/-- A factory whose steps suit its import map does not fail. -/
lemma work (hl : ∀ id, .left id none ∉ l.events) (ha : table.Provides a.importMap)
    (hsuits : ∀ step ∈ a.steps, step.suits a.importMap = true) :
    Unfailing table (Config.work l ws a) := by
  have hrest : ∀ rest, table.Provides (a.proceed rest).importMap := fun _ => ha
  rw [Config.work]
  split
  · exact ⟨unfailed_concat hl (by simp), trivial⟩
  · exact ⟨unfailed_concat hl (by simp), trivial⟩
  · next specifier slot rest hsteps =>
      have hknown := hsuits (.require specifier slot) (hsteps ▸ List.mem_cons_self ..)
      exact ask hl (hrest rest) slot fun _ => hknown
  · exact ask hl (hrest _) _ fun hguarded => by cases hguarded
  · exact ⟨unfailed_concat hl (by simp), trivial⟩
  · exact ⟨hl, trivial⟩
  · exact ⟨hl, trivial⟩
  · exact ⟨hl, trivial⟩
  · next message rest hsteps =>
      have hsuit := hsuits (.fail message) (hsteps ▸ List.mem_cons_self ..)
      cases hsuit

/-- **Every turn keeps factories from failing**, in a closed table whose factories suit. -/
theorem turn (hclosed : table.Closed) (hsuiting : table.Suiting) {c : Config}
    (hlisted : c.Listed table) (h : Unfailing table c) : Unfailing table (turn table c) := by
  obtain ⟨l, ws, phase⟩ := c
  obtain ⟨hl, hgranted⟩ := h
  cases phase with
  | loading id => exact begin hl hgranted
  | working a =>
      have ha : a.Listed table := hlisted a (List.mem_cons_self ..)
      have hsuits :=
        ha.forall_steps (P := fun importMap step => step.suits importMap = true) hsuiting
      exact work hl (ha.provides hclosed) hsuits
  | answering answer =>
      cases ws with
      | nil => exact ⟨hl, hgranted⟩
      | cons w ws =>
          cases answer with
          | ok exports => exact ⟨unfailed_concat hl (by simp), trivial⟩
          | error failure => cases hgranted

end Unfailing

/-- **In a closed table whose factories suit** no factory fails, whatever is loaded. -/
theorem unfailed_of_suiting (hclosed : table.Closed) (hsuiting : table.Suiting)
    (earlier : List String) (id : String) (n : ℕ) (id' : String) :
    .left id' none
      ∉ ((Config.turn table)^[n] ⟨loadAll table earlier, [], .loading id⟩).loader.events := by
  have hmoment := moment_induction (P := fun c => c.Listed table ∧ Unfailing table c)
    (fun id => ⟨List.forall_mem_nil _, .fresh id⟩)
    (fun c h => ⟨h.1.turn, h.2.turn hclosed hsuiting h.1⟩)
    (fun l answer id h => ⟨List.forall_mem_nil _, h.2.again id⟩) earlier id n
  exact hmoment.2.unfailed id'

end ModuleBundler.Loading
