import ModuleBundler.Proofs.Loading.Chains

/-!
# The modules that a failure names

A failure is wrapped on its way out, once by every factory that it ends.  It may be caught on this
way, and others may be raised later, after more modules were loaded.

**Demands.**  A factory that waits without a guard has a step that requires the target
(`Table.Demands`), and the factories that wait stand on the way from the module that was loaded from
outside to the one in question (`Queue`).

**Explanations.**  A failure explains why a module cannot be loaded (`Table.Explains`): it names a
chain of demands that begins with this module, and the problem originates from the last one.  Its
modules have ended one after the other, and none of them is waiting any more (`Failure.Told`).
Every turn keeps this (`Telling.turn`).
-/

namespace ModuleBundler.Loading

open Config (ended turn)
open Loader (load)

/-! ## Chains of demands -/

/-- The factory of one module requires the other one, and does not go on without it. -/
def Table.Demands (table : Table) (u t : String) : Prop :=
  ∃ m specifier slot, table.get? u = some m ∧ .require specifier slot ∈ m.steps
    ∧ m.importMap.get? specifier = some t

/-- **The problem comes from a module**: from a failing step of its factory, from a specifier that
    it requires and does not have in its import map, or from a module that it demands and that is
    not in the table. -/
inductive Table.Originates (table : Table) (u : String) : Problem → Prop
  | failed (m : TableModule) (message : String) (hm : table.get? u = some m)
      (hstep : .fail message ∈ m.steps) : Originates table u (.failed message)
  | unknown (m : TableModule) (specifier slot : String) (hm : table.get? u = some m)
      (hstep : .require specifier slot ∈ m.steps) (hmap : m.importMap.get? specifier = none) :
      Originates table u (.unknownSpecifier u specifier)
  | missing (t : String) (hdemands : table.Demands u t) (ht : table.get? t = none) :
      Originates table u (.moduleNotFound t)

/-- **Why a module cannot be loaded**: it is not in the table, or it begins a chain of demands and
    the problem comes from the end of this chain. -/
def Table.Explains (table : Table) (id : String) (failure : Failure) : Prop :=
  failure.within = [] ∧ failure.problem = .moduleNotFound id ∧ table.get? id = none
    ∨ ∃ last, failure.within.head? = some id ∧ failure.within.getLast? = some last
        ∧ failure.within.IsChain table.Demands ∧ table.Originates last failure.problem

variable {table : Table}

/-- A factory that demands a module is ended by what explains why it cannot be loaded. -/
lemma Table.Explains.demanded {u t : String} {failure : Failure} (h : table.Explains t failure)
    (hdemands : table.Demands u t) :
    table.Explains u ⟨u :: failure.within, failure.problem⟩ := by
  obtain ⟨within, problem⟩ := failure
  rcases h with ⟨hwithin, hproblem, hmissing⟩ | ⟨last, hhead, hlast, hchain, horigin⟩
  · dsimp only at hwithin hproblem
    subst hwithin hproblem
    exact .inr ⟨u, rfl, rfl, .singleton u, .missing t hdemands hmissing⟩
  · obtain ⟨rest, rfl⟩ := List.head?_eq_some_iff.1 hhead
    refine .inr ⟨last, rfl, ?_, List.isChain_cons_cons.2 ⟨hdemands, hchain⟩, horigin⟩
    rw [List.getLast?_cons_cons, hlast]

/-- A factory that is ended by its own step. -/
lemma Table.Originates.explains {u : String} {problem : Problem}
    (h : table.Originates u problem) : table.Explains u ⟨[u], problem⟩ :=
  .inr ⟨u, rfl, rfl, .singleton u, h⟩

/-! ## Those that wait -/

/-- The module that is asked for by the innermost factory that waits, or else from outside. -/
def askedFor (id : String) : List Waiting → String
  | [] => id
  | w :: _ => w.target

/-- **The factories that wait**: each of them is that of a module that is asked for, and demands its
    target if it has no guard. -/
def Queue (table : Table) (id : String) : List Waiting → Prop
  | [] => True
  | w :: ws =>
      w.activation.id = askedFor id ws
        ∧ (w.guarded = false → table.Demands w.activation.id w.target) ∧ Queue table id ws

/-- **What a failure tells**: it explains why the module cannot be loaded, and its modules are those
    that have just ended, of which none is still waiting. -/
structure Failure.Told (table : Table) (id : String) (l : Loader) (ws : List Waiting)
    (failure : Failure) : Prop where
  explains : table.Explains id failure
  nodup : (failure.within ++ ws.map fun w => w.activation.id).Nodup
  trail : (failure.within.reverse.map fun m => Event.left m none) <:+ l.events

/-- The phase is about the module that is asked for. -/
def Phase.Tells (table : Table) (id : String) (l : Loader) (ws : List Waiting) : Phase → Prop
  | .loading id' => id' = id
  | .working a => a.id = id
  | .answering (.ok _) => True
  | .answering (.error failure) => failure.Told table id l ws

/-- **What holds at every moment** of loading a module. -/
structure Telling (table : Table) (id : String) (c : Config) : Prop where
  queue : Queue table id c.waiting
  phase : c.phase.Tells table (askedFor id c.waiting) c.loader c.waiting

namespace Telling

variable {l : Loader} {ws : List Waiting} {a : Activation} {id : String}

/-- **A fault** ends the factory, or it goes on. -/
lemma fault (hqueue : Queue table id ws) (ha : a.id = askedFor id ws) {guarded : Bool}
    {failure : Failure}
    (hexplains : guarded = false →
      table.Explains a.id ⟨a.id :: failure.within, failure.problem⟩)
    (hnodup : (failure.within ++ a.id :: ws.map fun w => w.activation.id).Nodup)
    (htrail : (failure.within.reverse.map fun m => Event.left m none) <:+ l.events) :
    Telling table id (Config.fault l ws a guarded failure) := by
  rw [Config.fault]
  split
  · exact ⟨hqueue, ha⟩
  · next hguarded =>
      refine ⟨hqueue, ?_, ?_, ?_⟩
      · rw [← ha]
        exact hexplains (Bool.eq_false_iff.2 hguarded)
      · exact List.perm_middle.nodup_iff.1 hnodup
      · obtain ⟨before, hbefore⟩ := htrail
        exact ⟨before, by simp [← hbefore]⟩

/-- What happens to a step that requires. -/
lemma ask (hqueue : Queue table id ws) (ha : a.id = askedFor id ws)
    (hnodup : (a.id :: ws.map fun w => w.activation.id).Nodup) {m : TableModule}
    (hm : table.get? a.id = some m) (himports : a.importMap = m.importMap)
    {specifier slot : String} {guarded : Bool}
    (hstep : guarded = false → .require specifier slot ∈ m.steps) :
    Telling table id (Config.ask l ws a specifier slot guarded) := by
  rw [Config.ask, himports]
  split
  · next hmap =>
      have horigin (hguarded : guarded = false) :=
        Table.Originates.unknown m specifier slot hm (hstep hguarded) hmap
      exact fault hqueue ha (fun hguarded => (horigin hguarded).explains) hnodup List.nil_suffix
  · next target hmap =>
      split
      · exact ⟨hqueue, ha⟩
      · exact ⟨⟨ha, fun hguarded => ⟨m, specifier, slot, hm, hstep hguarded, hmap⟩, hqueue⟩, rfl⟩

lemma work (hqueue : Queue table id ws) (ha : a.id = askedFor id ws)
    (hnodup : (a.id :: ws.map fun w => w.activation.id).Nodup) (hlisted : a.Listed table) :
    Telling table id (Config.work l ws a) := by
  rw [Config.work]
  split
  · exact ⟨hqueue, trivial⟩
  · exact ⟨hqueue, ha⟩
  · next specifier slot rest hsteps =>
      obtain ⟨m, hm, himports, hstep⟩ := hlisted.exists_step hsteps
      exact ask (a := a.proceed rest) hqueue ha hnodup hm himports fun _ => hstep
  · next specifier slot rest hsteps =>
      obtain ⟨m, hm, himports, -⟩ := hlisted.exists_step hsteps
      exact ask (a := a.proceed rest) hqueue ha hnodup hm himports fun hguarded => by cases hguarded
  · exact ⟨hqueue, ha⟩
  · exact ⟨hqueue, ha⟩
  · exact ⟨hqueue, ha⟩
  · exact ⟨hqueue, ha⟩
  · next message rest hsteps =>
      obtain ⟨m, hm, -, hstep⟩ := hlisted.exists_step hsteps
      have horigin := Table.Originates.failed m message hm hstep
      exact fault (a := a.proceed rest) hqueue ha (fun _ => horigin.explains) hnodup
        List.nil_suffix

lemma begin (hqueue : Queue table id ws) (hnodup : (ws.map fun w => w.activation.id).Nodup) :
    Telling table id (Config.begin table l ws (askedFor id ws)) := by
  rw [Config.begin]
  split
  · exact ⟨hqueue, trivial⟩
  · split
    · next hmissing =>
        exact ⟨hqueue, .inl ⟨rfl, rfl, hmissing⟩, hnodup, List.nil_suffix⟩
    · exact ⟨hqueue, rfl⟩

/-- A failure goes on to the factory that waited, which names itself first, or catches it. -/
lemma resume {w : Waiting} (hqueue : Queue table id (w :: ws)) {answer : Except Failure Exports}
    (hanswer : (Phase.answering answer).Tells table w.target l (w :: ws)) :
    Telling table id (Config.resume l ws w answer) := by
  obtain ⟨hw, hdemands, hws⟩ := hqueue
  cases answer with
  | ok exports => exact ⟨hws, hw⟩
  | error failure =>
      exact fault hws hw (fun hguarded => hanswer.explains.demanded (hdemands hguarded))
        hanswer.nodup hanswer.trail

/-- **Every turn** hands a failure on to the factory that demanded the module, or raises one. -/
theorem turn {c : Config} (hsound : Sound c) (hlisted : c.Listed table) (h : Telling table id c) :
    Telling table id (turn table c) := by
  obtain ⟨l, ws, phase⟩ := c
  obtain ⟨hqueue, hphase⟩ := h
  have hnodup := hsound.nodup
  cases phase with
  | loading id' =>
      obtain rfl : id' = askedFor id ws := hphase
      exact begin hqueue hnodup
  | working a => exact work hqueue hphase hnodup (hlisted a (List.mem_cons_self ..))
  | answering answer =>
      cases ws with
      | nil => exact ⟨hqueue, hphase⟩
      | cons w ws => exact resume hqueue hphase

end Telling

/-- **A failure names the chain of demands that it came along.**  Take a loading that fails, after
    any earlier ones on the same loader, in the course of which no factory is entered 2^32 times.
    Either the failure names no module, and the one that was asked for is not in the table.  Or the
    modules that it names begin with that one, each demands the next by its import map, and the
    problem comes from the last: from a failing step, from a specifier that the import map does not
    have, or from a target that is not in the table.  No module is named twice.  The last that
    happened is that their factories ended, from the innermost one outward.  The message has a part
    for each of them, outermost first, and then the problem. -/
theorem failure_of_load (table : Table) (earlier : List String) (id : String)
    (hfit : (loadAll table (earlier ++ [id])).CountsFit) {failure : Failure}
    (hfailed : (load table id (loadAll table earlier)).2 = .error failure) :
    (failure.within = [] ∧ failure.problem = .moduleNotFound id ∧ table.get? id = none
      ∨ ∃ last, failure.within.head? = some id ∧ failure.within.getLast? = some last
          ∧ failure.within.IsChain table.Demands ∧ table.Originates last failure.problem)
    ∧ failure.within.Nodup
    ∧ (failure.within.reverse.map fun m => Event.left m none)
        <:+ (load table id (loadAll table earlier)).1.events
    ∧ failure.message = ": ".intercalate
        (failure.within.map (fun m => "Failed to instantiate '" ++ m ++ "'")
          ++ [failure.problem.message]) := by
  have hstart : Sound ⟨loadAll table earlier, [], .loading id⟩
      ∧ Config.Listed table ⟨loadAll table earlier, [], .loading id⟩
      ∧ Telling table id ⟨loadAll table earlier, [], .loading id⟩ :=
    ⟨.start earlier id (hfit.moment 0), List.forall_mem_nil _, trivial, rfl⟩
  rw [loadAll_concat] at hfit
  have hended := ended_induction_of_fit
    (P := fun c => Sound c ∧ c.Listed table ∧ Telling table id c) hstart
    (fun c hfit h => ⟨h.1.turn hfit, h.2.1.turn, h.2.2.turn h.1 h.2.1⟩) hfit
  have htold := hended.2.2.phase
  simp only [ended, hfailed] at htold
  refine ⟨htold.explains, ?_, htold.trail, rfl⟩
  simpa using htold.nodup

/-- A module that gets over the failure of one module, and not over that of another one, which
    demands a module that is not in the table. -/
def brokenTable : Table :=
  (((Table.new "a").insert "a" ⟨.ofList [("./c", "c"), ("./b", "b")],
      [.tryRequire "./c" "c", .require "./b" "b"]⟩).insert
    "b" ⟨.ofList [("./d", "d")], [.require "./d" "d"]⟩).insert "c" ⟨.empty, [.fail "boom"]⟩

lemma error_of_map {α β ε : Type} {f : α → β} {x : Except ε α} {e : ε}
    (h : x.map f = .error e) : x = .error e := by
  cases x with
  | error e' =>
      cases h
      rfl
  | ok a => cases h

/-- The failure that was caught is not named by the one that was raised afterwards. -/
theorem failure_of_load_broken :
    (loadAll brokenTable ["d", "a"]).CountsFit
      ∧ (load brokenTable "a" (loadAll brokenTable ["d"])).2
        = .error ⟨["a", "b"], .moduleNotFound "d"⟩
      ∧ brokenTable.Demands "a" "b" ∧ brokenTable.Originates "b" (.moduleNotFound "d")
      ∧ [Event.left "b" none, Event.left "a" none]
          <:+ (load brokenTable "a" (loadAll brokenTable ["d"])).1.events
      ∧ Failure.message ⟨["a", "b"], .moduleNotFound "d"⟩
          = "Failed to instantiate 'a': Failed to instantiate 'b': Cannot find module 'd'" := by
  have hfailed : (load brokenTable "a" (loadAll brokenTable ["d"])).2
      = .error ⟨["a", "b"], .moduleNotFound "d"⟩ := by
    have hkind : (load brokenTable "a" (loadAll brokenTable ["d"])).2.map (fun _ => ())
        = .error ⟨["a", "b"], .moduleNotFound "d"⟩ := by decide +kernel
    exact error_of_map hkind
  have hfit : (loadAll brokenTable (["d"] ++ ["a"])).CountsFit := .of_length (by decide +kernel)
  obtain ⟨hnamed, -, htrail, hmessage⟩ := failure_of_load brokenTable ["d"] "a" hfit hfailed
  rcases hnamed with ⟨hnone, -⟩ | ⟨last, -, hlast, hchain, horigin⟩
  · cases hnone
  · cases hlast
    exact ⟨hfit, hfailed, (List.isChain_cons_cons.1 hchain).1, horigin, htrail, hmessage⟩

end ModuleBundler.Loading
