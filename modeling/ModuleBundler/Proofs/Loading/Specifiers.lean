import ModuleBundler.Proofs.Loading.Chains

/-!
# Specifiers that are known

A factory that requires only what its import map has is never told that it does not know a
specifier.  Neither is the caller of a loading from a table of such factories, whatever was loaded
before (`not_isUnknown_of_load`).
-/

namespace ModuleBundler.Loading

open Config (ended turn)
open Loader (load)

/-- The specifier that a step requires. -/
def Step.specifier? : Step → Option String
  | .require specifier _ => some specifier
  | .tryRequire specifier _ => some specifier
  | _ => none

/-- The problem is a specifier that the import map does not have. -/
def Problem.IsUnknown (p : Problem) : Prop :=
  ∃ importer specifier, p = .unknownSpecifier importer specifier

/-- Every factory requires only what its import map has. -/
def Table.Knowing (table : Table) : Prop :=
  ∀ id m, table.get? id = some m →
    ∀ step ∈ m.steps, ∀ specifier ∈ step.specifier?, m.importMap.contains specifier = true

variable {table : Table}

/-- No failure that is under way comes from an unknown specifier. -/
def Phase.Informed : Phase → Prop
  | .answering (.error failure) => ¬ failure.problem.IsUnknown
  | _ => True

namespace Phase.Informed

variable {l : Loader} {ws : List Waiting} {a : Activation}

lemma begin (id : String) : (Config.begin table l ws id).phase.Informed := by
  rw [Config.begin]
  split
  · trivial
  · split
    · rintro ⟨importer, specifier, h⟩
      cases h
    · trivial

lemma fault (guarded : Bool) {failure : Failure} (h : ¬ failure.problem.IsUnknown) :
    (Config.fault l ws a guarded failure).phase.Informed := by
  rw [Config.fault]
  split
  · trivial
  · exact h

lemma ask {specifier : String} (h : a.importMap.contains specifier = true) (slot : String)
    (guarded : Bool) : (Config.ask l ws a specifier slot guarded).phase.Informed := by
  rw [Config.ask]
  split
  · next hunknown =>
      rw [(OrderedMap.contains_eq_false_iff _ _).2 hunknown] at h
      cases h
  · split <;> trivial

lemma work (h : ∀ step ∈ a.steps, ∀ specifier ∈ step.specifier?,
    a.importMap.contains specifier = true) : (Config.work l ws a).phase.Informed := by
  rw [Config.work]
  split
  · trivial
  · trivial
  · next specifier slot rest hsteps =>
      have hknown := h (.require specifier slot) (hsteps ▸ List.mem_cons_self ..) specifier rfl
      exact ask (a := a.proceed rest) hknown slot false
  · next specifier slot rest hsteps =>
      have hknown := h (.tryRequire specifier slot) (hsteps ▸ List.mem_cons_self ..) specifier rfl
      exact ask (a := a.proceed rest) hknown slot true
  · trivial
  · trivial
  · trivial
  · trivial
  · refine fault false ?_
    rintro ⟨importer, specifier, h⟩
    cases h

/-- **No turn fails on an unknown specifier**, if the factories know theirs. -/
theorem turn (hknowing : table.Knowing) {c : Config} (hlisted : c.Listed table)
    (h : c.phase.Informed) : (turn table c).phase.Informed := by
  obtain ⟨l, ws, phase⟩ := c
  cases phase with
  | loading id => exact begin id
  | working a =>
      have ha : a.Listed table := hlisted a (List.mem_cons_self ..)
      exact work (ha.forall_steps
        (P := fun importMap step => ∀ s ∈ step.specifier?, importMap.contains s = true) hknowing)
  | answering answer =>
      cases ws with
      | nil => exact h
      | cons w ws =>
          cases answer with
          | ok exports => trivial
          | error failure => exact fault w.guarded h

end Phase.Informed

/-- **If all factories know their specifiers**, a loading does not fail on an unknown one, whatever
    was loaded before. -/
theorem not_isUnknown_of_load (hknowing : table.Knowing) (l : Loader) (id : String)
    {failure : Failure} (hfailed : (load table id l).2 = .error failure) :
    ¬ failure.problem.IsUnknown := by
  have hstart : Config.Listed table ⟨l, [], .loading id⟩ ∧ (Phase.loading id).Informed :=
    ⟨List.forall_mem_nil _, trivial⟩
  have hended := ended_induction (P := fun c => c.Listed table ∧ c.phase.Informed) hstart
    fun c h => ⟨h.1.turn, h.2.turn hknowing h.1⟩
  have hanswered := hended.2
  simp only [ended, hfailed] at hanswered
  exact hanswered

end ModuleBundler.Loading
