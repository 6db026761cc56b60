import Mathlib.Algebra.GroupWithZero.Nat
import Mathlib.Algebra.Order.BigOperators.Group.List
import Mathlib.Algebra.Order.Group.Nat
import ModuleBundler.Proofs.Loading.Chains

/-!
# Every loading comes to an end

Factories call each other through the loader, over imports that may go round in circles, and no
factory is smaller than the one that it requires.  What runs out is the work that is left.

**What is left.**  `Config.remaining` adds up what there is to do for the modules whose count is
zero, for the factories that wait, and for the phase.  A requirement enters a module only if its
count is zero, and then the module takes its work from the first of the three (`exists_pending_eq`).
A module that is loaded again from outside brings its work along, and once more for the case that
its count begins at zero again.  So every turn leaves less, from any moment whatever, reachable or
not (`Config.ended_or_remaining_lt`).

**The bound.**  At the beginning of a loading no more is left than it takes to run every factory of
the table twice (`Config.remaining_loading_le`).

**At one time** only modules of the table are running, each of them once, as long as the counts fit.
-/

namespace ModuleBundler.Loading

open Config (ended turn)
open Loader (load loadWithin)

/-- **What it takes to run a factory**: three turns for each of its steps, which are to take it, to
    look for the target and to get the answer, and one to leave. -/
def TableModule.work (m : TableModule) : ℕ :=
  3 * m.steps.length + 1

/-- What it takes to run every factory of the table once. -/
def Table.work (table : Table) : ℕ :=
  (table.modules.toList.map fun e => e.2.work).sum

/-- What it takes to run the factories whose count is zero. -/
def Table.pending (table : Table) (l : Loader) : ℕ :=
  (table.modules.toList.map fun e => if l.count e.1 = 0 then e.2.work else 0).sum

/-- What it takes to run the rest of a factory. -/
def Activation.remaining (a : Activation) : ℕ :=
  3 * a.steps.length + 1

/-- A factory that waits has yet to get its answer. -/
def Waiting.remaining (w : Waiting) : ℕ :=
  w.activation.remaining + 1

/-- A module that counts as instantiating can be entered again.  It was not left among those whose
    count is zero, and may get there. -/
def Phase.remaining (table : Table) (l : Loader) : Phase → ℕ
  | .loading id =>
      1 + if l.isInstantiating id then 2 * ((table.get? id).map TableModule.work).getD 0 else 0
  | .working a => a.remaining
  | .answering _ => 0

/-- **How many turns are left**, at most. -/
def Config.remaining (table : Table) (c : Config) : ℕ :=
  table.pending c.loader + (c.waiting.map Waiting.remaining).sum + c.phase.remaining table c.loader

variable {table : Table} {l : Loader} {ws : List Waiting} {a : Activation}

@[simp] lemma remaining_bind (a : Activation) (slot : String) (exports : Exports) :
    (a.bind slot exports).remaining = a.remaining := rfl

@[simp] lemma remaining_exporting (a : Activation) (exports : Exports) :
    (a.exporting exports).remaining = a.remaining := rfl

/-- A step that is done takes three turns off the measure. -/
lemma remaining_proceed {step : Step} {rest : List Step} (hsteps : a.steps = step :: rest) :
    a.remaining = (a.proceed rest).remaining + 3 := by
  rw [Activation.remaining, hsteps, List.length_cons]
  rfl

/-! ## Modules whose count is zero -/

@[simp] lemma pending_note (l : Loader) (e : Event) : table.pending (l.note e) = table.pending l :=
  rfl

@[simp] lemma pending_keep (l : Loader) (id : String) (exports : Exports) :
    table.pending (l.keep id exports) = table.pending l := rfl

/-- **One module and the others.**  What is pending is pending for the others, which do not notice
    that the module is entered, or for the module, if its count is zero. -/
lemma exists_pending_eq {id : String} {m : TableModule} (hm : table.get? id = some m) :
    ∃ others : Loader → ℕ,
      (∀ l, table.pending l = others l + if l.count id = 0 then m.work else 0)
        ∧ (∀ l, others (l.enter id) = others l) ∧ ∀ l, others l + m.work ≤ table.work := by
  obtain ⟨before, after, hsplit⟩ :=
    List.append_of_mem ((OrderedMap.get?_eq_some_iff_mem _ _ _).1 hm)
  have hkeys := table.modules.keys_nodup
  rw [OrderedMap.keys_eq_map, hsplit, List.map_append, List.map_cons] at hkeys
  have hother : ∀ e ∈ before ++ after, id ≠ e.1 := by
    rintro e he rfl
    have hmem : e.1 ∈ before.map Prod.fst ++ after.map Prod.fst := by
      rw [← List.map_append]
      exact List.mem_map_of_mem he
    exact (List.nodup_cons.1 (List.perm_middle.nodup_iff.1 hkeys)).1 hmem
  refine ⟨fun l => ((before ++ after).map fun e => if l.count e.1 = 0 then e.2.work else 0).sum,
    fun l => ?_, fun l => ?_, fun l => ?_⟩
  · rw [Table.pending, hsplit]
    simp only [List.map_append, List.map_cons, List.sum_append, List.sum_cons]
    omega
  · refine congrArg List.sum (List.map_congr_left fun e he => ?_)
    rw [count_enter, if_neg (hother e he)]
  · have hle : ((before ++ after).map fun e => if l.count e.1 = 0 then e.2.work else 0).sum
        ≤ ((before ++ after).map fun e => e.2.work).sum := by
      refine List.sum_le_sum fun e _ => ?_
      split
      · exact Nat.le_refl _
      · exact Nat.zero_le _
    rw [Table.work, hsplit]
    simp only [List.map_append, List.map_cons, List.sum_append, List.sum_cons] at hle ⊢
    omega

lemma pending_le_work (table : Table) (l : Loader) : table.pending l ≤ table.work := by
  refine List.sum_le_sum fun e _ => ?_
  split
  · exact Nat.le_refl _
  · exact Nat.zero_le _

/-! ## Every turn leaves less -/

namespace Config

@[simp] lemma remaining_loading (l : Loader) (ws : List Waiting) (id : String) :
    (Config.mk l ws (.loading id)).remaining table
      = table.pending l + (ws.map Waiting.remaining).sum + (Phase.loading id).remaining table l :=
  rfl

@[simp] lemma remaining_working (l : Loader) (ws : List Waiting) (a : Activation) :
    (Config.mk l ws (.working a)).remaining table
      = table.pending l + (ws.map Waiting.remaining).sum + a.remaining := rfl

@[simp] lemma remaining_answering (l : Loader) (ws : List Waiting)
    (answer : Except Failure Exports) :
    (Config.mk l ws (.answering answer)).remaining table
      = table.pending l + (ws.map Waiting.remaining).sum := rfl

lemma remaining_fault (guarded : Bool) (failure : Failure) :
    (fault l ws a guarded failure).remaining table
      ≤ table.pending l + (ws.map Waiting.remaining).sum + a.remaining := by
  cases guarded <;> simp [fault]

/-- To look for a target and to get the answer take two turns. -/
lemma remaining_ask (specifier slot : String) (guarded : Bool) :
    (ask l ws a specifier slot guarded).remaining table
      ≤ table.pending l + (ws.map Waiting.remaining).sum + a.remaining + 2 := by
  rw [ask]
  split
  · exact (remaining_fault guarded _).trans (Nat.le_add_right _ 2)
  · split
    · rw [remaining_working, pending_note, remaining_bind]
      omega
    · next hout =>
        simp only [remaining, Phase.remaining, Waiting.remaining, List.map_cons, List.sum_cons,
          if_neg hout]
        omega

/-- **A turn of a running factory** lowers the measure. -/
lemma remaining_work :
    (work l ws a).remaining table
      < table.pending l + (ws.map Waiting.remaining).sum + a.remaining := by
  rw [work]
  split
  · rw [remaining_answering, pending_keep, Activation.remaining]
    omega
  · next hsteps => simp [remaining_proceed hsteps]
  · next hsteps =>
      refine (remaining_ask _ _ _).trans_lt ?_
      rw [remaining_proceed hsteps]
      omega
  · next hsteps =>
      refine (remaining_ask _ _ _).trans_lt ?_
      rw [remaining_proceed hsteps]
      omega
  · next hsteps => simp [remaining_proceed hsteps]
  · next hsteps => simp [remaining_proceed hsteps]
  · next hsteps => simp [remaining_proceed hsteps]
  · next hsteps => simp [remaining_proceed hsteps]
  · next hsteps =>
      refine (remaining_fault _ _).trans_lt ?_
      rw [remaining_proceed hsteps]
      omega

/-- To load a module leaves less: if it is entered, its work is taken from what is pending, or it
    came along with the loading. -/
lemma remaining_begin (id : String) :
    (begin table l ws id).remaining table < (Config.mk l ws (.loading id)).remaining table := by
  rw [begin, remaining_loading, Phase.remaining]
  split
  · rw [remaining_answering]
    omega
  · next hcache =>
      split
      · rw [remaining_answering]
        omega
      · next m hm =>
          have hin : l.isInstantiating id = decide (l.count id ≠ 0) := by
            rw [Loader.isInstantiating, (OrderedMap.contains_eq_false_iff _ _).2 hcache]
            simp [Nat.pos_iff_ne_zero]
          have hwork : (Activation.mk id m.importMap m.steps .initial).remaining = m.work := rfl
          obtain ⟨others, hpending, hothers, -⟩ := exists_pending_eq hm
          rw [remaining_working, hwork, hin, hm, Option.map_some, Option.getD_some, hpending,
            hpending, hothers]
          by_cases hcount : l.count id = 0
          · rw [count_enter_of_eq_zero hcount]
            simp only [hcount, if_true, ne_eq, not_true_eq_false, decide_false, one_ne_zero,
              if_false, Bool.false_eq_true]
            omega
          · have hnext : (if (l.enter id).count id = 0 then m.work else 0) ≤ m.work := by
              split <;> omega
            simp only [hcount, if_false, ne_eq, not_false_eq_true, decide_true, if_true]
            omega

/-- **Going on with an answer** lowers the measure. -/
lemma remaining_resume (w : Waiting) (answer : Except Failure Exports) :
    (resume l ws w answer).remaining table
      < table.pending l + ((w :: ws).map Waiting.remaining).sum := by
  rw [List.map_cons, List.sum_cons, Waiting.remaining]
  cases answer with
  | ok exports =>
      rw [resume, remaining_working, pending_note, remaining_bind]
      omega
  | error failure =>
      refine (remaining_fault w.guarded failure).trans_lt ?_
      omega

/-- **A turn leaves less to do**, from any moment at which there is anything to do. -/
theorem ended_or_remaining_lt (table : Table) (c : Config) :
    (∃ answer, c = ended [] answer) ∨ (turn table c).remaining table < c.remaining table := by
  obtain ⟨l, ws, phase⟩ := c
  cases phase with
  | loading id => exact .inr (remaining_begin id)
  | working a => exact .inr remaining_work
  | answering answer =>
      cases ws with
      | nil => exact .inl ⟨(l, answer), rfl⟩
      | cons w ws => exact .inr (remaining_resume w answer)

/-- As many turns as are left lead to the end. -/
lemma exists_iterate_eq_ended (table : Table) {c : Config} {n : ℕ} (h : c.remaining table ≤ n) :
    ∃ answer, (turn table)^[n] c = ended [] answer := by
  induction n generalizing c with
  | zero =>
      rcases ended_or_remaining_lt table c with hended | hless
      · exact hended
      · omega
  | succ n ih =>
      rcases ended_or_remaining_lt table c with ⟨answer, rfl⟩ | hless
      · exact ⟨answer, iterate_ended answer _⟩
      · rw [Function.iterate_succ_apply]
        exact ih (by omega)

/-- **At the beginning of a loading** no more is left than two runs of every factory. -/
lemma remaining_loading_le (table : Table) (l : Loader) (id : String) :
    (Config.mk l [] (.loading id)).remaining table ≤ 2 * table.work + 1 := by
  rw [remaining_loading, Phase.remaining, List.map_nil, List.sum_nil]
  cases hm : table.get? id with
  | none =>
      have hpending := pending_le_work table l
      simp only [Option.map_none, Option.getD_none, Nat.mul_zero, ite_self]
      omega
  | some m =>
      obtain ⟨others, hpending, -, hwork⟩ := exists_pending_eq hm
      have hle := hwork l
      rw [Option.map_some, Option.getD_some, hpending]
      by_cases hcount : l.count id = 0
      · rw [if_pos hcount, if_neg (by simp [Loader.isInstantiating, hcount])]
        omega
      · rw [if_neg hcount]
        split <;> omega

end Config

/-! ## How many run at one time -/

lemma running_eq_map (c : Config) : c.running = c.activations.map Activation.id := by
  obtain ⟨l, ws, phase⟩ := c
  cases phase <;> simp [Config.running, Config.activations]

/-- **At every moment of all loadings** at which the counts fit, the factories that run are those of
    modules of the table, each of them once. -/
lemma length_running_le {earlier : List String} {id : String} {n : ℕ}
    (hfit : ((turn table)^[n] ⟨loadAll table earlier, [], .loading id⟩).loader.CountsFit) :
    let c := (turn table)^[n] ⟨loadAll table earlier, [], .loading id⟩
    c.running.Nodup ∧ (∀ m ∈ c.running, m ∈ table.modules.keys)
      ∧ c.running.length ≤ table.size := by
  intro c
  have hrecorded : Recorded table c := .moment hfit
  have hkeys : ∀ m ∈ c.running, m ∈ table.modules.keys := by
    intro m hm
    rw [running_eq_map] at hm
    obtain ⟨a, ha, rfl⟩ := List.mem_map.1 hm
    obtain ⟨m, hm, -⟩ := hrecorded.listed a ha
    exact OrderedMap.mem_keys_of_get? hm
  have hlength := (hrecorded.sound.nodup.subperm hkeys).length_le
  rw [OrderedMap.keys_eq_map, List.length_map] at hlength
  exact ⟨hrecorded.sound.nodup, hkeys, hlength⟩

/-! ## Any depth is enough that allows for every module -/

/-- **The depth that a loading allows for** does not show: with any greater one it comes to the same
    answer. -/
lemma loadWithin_eq_load {depth : ℕ} (hdepth : table.size + 1 < depth) (id : String) (l : Loader) :
    loadWithin table depth id l = load table id l := by
  refine (leads_loadWithin depth id l [] ⟨by omega, fun _ _ => ?_⟩).unique (leads_load table id l)
  have hle := uncounted_le_size table (l.enter id)
  omega

/-- **Every loading comes to an end**, in any state of the loader.  When the turns that begin with
    loading a module have been six for each step of the table, two for each module and one more,
    they have come to the answer of `load`, and to allow for a greater depth would not change it.
    Now take any moment of a loading, after any earlier ones on the same loader, whether they
    succeeded or failed, in the course of which no factory is entered 2^32 times.  The factories
    that have been entered and have not ended are those of distinct modules of the table, and so
    they are no more than there are modules. -/
theorem load_ends (table : Table) (id : String) :
    (∀ l, (turn table)^[2 * table.work + 1] ⟨l, [], .loading id⟩ = ended [] (load table id l)
        ∧ ∀ depth, table.size + 1 < depth → loadWithin table depth id l = load table id l)
      ∧ ∀ earlier, (loadAll table (earlier ++ [id])).CountsFit → ∀ n,
        let c := (turn table)^[n] ⟨loadAll table earlier, [], .loading id⟩
        c.running.Nodup ∧ (∀ m ∈ c.running, m ∈ table.modules.keys)
          ∧ c.running.length ≤ table.size := by
  refine ⟨fun l => ⟨?_, fun depth hdepth => loadWithin_eq_load hdepth id l⟩,
    fun earlier hfit n => length_running_le (hfit.moment n)⟩
  obtain ⟨answer, hanswer⟩ :=
    Config.exists_iterate_eq_ended table (Config.remaining_loading_le table l id)
  have hleads : Leads table ⟨l, [], .loading id⟩ (ended [] answer) := ⟨_, hanswer⟩
  rw [hanswer, hleads.unique (leads_load table id l)]

/-- Two modules that require each other. -/
def mutualTable : Table :=
  ((Table.new "a").insert "a" ⟨.ofList [("./b", "b")], [.require "./b" "b"]⟩).insert "b"
    ⟨.ofList [("./a", "a")], [.require "./a" "a"]⟩

/-- Both of them are running at one time, which is all of the table, and loading comes to its
    answer all the same. -/
theorem load_ends_mutual :
    (loadAll mutualTable ["a"]).CountsFit
      ∧ (turn mutualTable)^[2 * mutualTable.work + 1] ⟨.fresh, [], .loading "a"⟩
        = ended [] (load mutualTable "a" .fresh)
      ∧ ((turn mutualTable)^[3] ⟨.fresh, [], .loading "a"⟩).running = ["b", "a"]
      ∧ ["b", "a"].length ≤ mutualTable.size := by
  obtain ⟨hends, hrunning⟩ := load_ends mutualTable "a"
  have hfit : (loadAll mutualTable ([] ++ ["a"])).CountsFit := .of_length (by decide +kernel)
  have hboth : ((turn mutualTable)^[3] ⟨.fresh, [], .loading "a"⟩).running = ["b", "a"] := by
    decide +kernel
  obtain ⟨-, -, hle⟩ := hrunning [] hfit 3
  exact ⟨hfit, (hends .fresh).1, hboth, hboth ▸ hle⟩

end ModuleBundler.Loading
