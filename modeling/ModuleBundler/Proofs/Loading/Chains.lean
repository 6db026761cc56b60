import ModuleBundler.Proofs.Graph.Cycles
import ModuleBundler.Proofs.Loading.Entering

/-!
# What the answers to requirements rest on

**Chains of imports.**  A factory has the import map and the steps that the table gives to its
module (`Config.Listed`), and it waits for a module that it imports.  So the factories that wait
form a chain of imports, which leads from the module that was loaded from outside to the one in
question (`Config.Linked`).

**Stand-ins.**  A module that is running when it is required is on this chain, and the requirement
closes a cycle of imports.  If the imports of a table are acyclic, a stand-in is therefore the
answer for a module only if its factory has failed before.

**Exports.**  The cache holds what the factories have returned, in this order (`Recorded`), and
every other answer is taken from it.  For that no factory may be entered while it is running: it is
not as long as the counts fit (`Recorded.moment`), and never if the imports are acyclic, whatever
the counts say (`Config.Linked.idle`).

`Backed` says what the answers in a list of events rest on, and `Traced.of_acyclic` proves it for
every moment of every loading.
-/

namespace ModuleBundler.Loading

open Config (ended turn)
open Loader (load)

/-- An import map of the table leads from one module to the other. -/
def Table.Imports (table : Table) (u t : String) : Prop :=
  ∃ m specifier, table.get? u = some m ∧ m.importMap.get? specifier = some t

variable {table : Table}

/-! ## Factories and their modules -/

/-- The factory is that of a module of the table, with some of its steps still to be taken. -/
def Activation.Listed (table : Table) (a : Activation) : Prop :=
  ∃ m, table.get? a.id = some m ∧ a.importMap = m.importMap ∧ a.steps <:+ m.steps

lemma Activation.Listed.proceed {a : Activation} (h : a.Listed table) {step : Step}
    {rest : List Step} (hsteps : a.steps = step :: rest) : (a.proceed rest).Listed table := by
  obtain ⟨m, hm, himports, hsuffix⟩ := h
  refine ⟨m, hm, himports, List.IsSuffix.trans ?_ hsuffix⟩
  rw [hsteps]
  exact List.suffix_cons step rest

/-- A step that the factory is about to take is a step of its module. -/
lemma Activation.Listed.exists_step {a : Activation} (h : a.Listed table) {step : Step}
    {rest : List Step} (hsteps : a.steps = step :: rest) :
    ∃ m, table.get? a.id = some m ∧ a.importMap = m.importMap ∧ step ∈ m.steps := by
  obtain ⟨m, hm, himports, hsuffix⟩ := h
  exact ⟨m, hm, himports, hsuffix.subset (hsteps ▸ List.mem_cons_self ..)⟩

/-- What holds of the import map and the steps of every module holds of the factory. -/
lemma Activation.Listed.forall_steps {P : OrderedMap String String → Step → Prop}
    (hmodules : ∀ id m, table.get? id = some m → ∀ step ∈ m.steps, P m.importMap step)
    {a : Activation} (h : a.Listed table) : ∀ step ∈ a.steps, P a.importMap step := by
  obtain ⟨m, hm, himports, hsuffix⟩ := h
  rw [himports]
  exact fun step hstep => hmodules a.id m hm step (hsuffix.subset hstep)

namespace Config

/-- The factories that have been entered and have not ended, innermost first. -/
def activations (c : Config) : List Activation :=
  match c.phase with
  | .working a => a :: c.waiting.map Waiting.activation
  | _ => c.waiting.map Waiting.activation

/-- Every factory that has not ended is that of a module of the table. -/
def Listed (table : Table) (c : Config) : Prop := ∀ a ∈ c.activations, a.Listed table

namespace Listed

variable {l : Loader} {ws : List Waiting} {a : Activation}

lemma working (hws : ∀ w ∈ ws, w.activation.Listed table) (ha : a.Listed table) :
    Listed table ⟨l, ws, .working a⟩ :=
  List.forall_mem_cons.2 ⟨ha, List.forall_mem_map.2 hws⟩

lemma fault (hws : ∀ w ∈ ws, w.activation.Listed table) (ha : a.Listed table) (guarded : Bool)
    (failure : Failure) : Listed table (Config.fault l ws a guarded failure) := by
  rw [Config.fault]
  split
  · exact working hws ha
  · exact List.forall_mem_map.2 hws

lemma ask (hws : ∀ w ∈ ws, w.activation.Listed table) (ha : a.Listed table)
    (specifier slot : String) (guarded : Bool) :
    Listed table (Config.ask l ws a specifier slot guarded) := by
  rw [Config.ask]
  split
  · exact fault hws ha guarded _
  · split
    · exact working hws ha
    · exact List.forall_mem_map.2 (List.forall_mem_cons.2 ⟨ha, hws⟩)

lemma work (hws : ∀ w ∈ ws, w.activation.Listed table) (ha : a.Listed table) :
    Listed table (Config.work l ws a) := by
  rw [Config.work]
  split
  · exact List.forall_mem_map.2 hws
  · next hsteps => exact working hws (ha.proceed hsteps)
  · next hsteps => exact ask hws (ha.proceed hsteps) _ _ _
  · next hsteps => exact ask hws (ha.proceed hsteps) _ _ _
  · next hsteps => exact working hws (ha.proceed hsteps)
  · next hsteps => exact working hws (ha.proceed hsteps)
  · next hsteps => exact working hws (ha.proceed hsteps)
  · next hsteps => exact working hws (ha.proceed hsteps)
  · next hsteps => exact fault hws (ha.proceed hsteps) _ _

lemma begin (hws : ∀ w ∈ ws, w.activation.Listed table) (id : String) :
    Listed table (Config.begin table l ws id) := by
  rw [Config.begin]
  split
  · exact List.forall_mem_map.2 hws
  · split
    · exact List.forall_mem_map.2 hws
    · next m hm => exact working hws ⟨m, hm, rfl, List.suffix_rfl⟩

lemma resume {w : Waiting} (hws : ∀ w ∈ ws, w.activation.Listed table)
    (hw : w.activation.Listed table) (answer : Except Failure Exports) :
    Listed table (Config.resume l ws w answer) := by
  cases answer with
  | ok exports => exact working hws hw
  | error failure => exact fault hws hw w.guarded failure

/-- **Every turn** takes a factory on, or enters that of a module of the table. -/
theorem turn {c : Config} (h : Listed table c) : Listed table (turn table c) := by
  obtain ⟨l, ws, phase⟩ := c
  cases phase with
  | loading id => exact begin (List.forall_mem_map.1 h) id
  | working a =>
      obtain ⟨ha, hws⟩ := List.forall_mem_cons.1 h
      exact work (List.forall_mem_map.1 hws) ha
  | answering answer =>
      cases ws with
      | nil => exact h
      | cons w ws =>
          obtain ⟨hw, hws⟩ := List.forall_mem_cons.1 (List.forall_mem_map.1 h)
          exact resume hws hw answer

end Listed

end Config

/-! ## The chain of those who wait -/

/-- **A chain of imports** that ends with a module: the innermost factory waits for it, the next one
    for the module of the innermost, and so on. -/
def Chained (table : Table) : String → List Waiting → Prop
  | _, [] => True
  | id, w :: ws =>
      w.target = id ∧ table.Imports w.activation.id id ∧ Chained table w.activation.id ws

/-- The phase is about a module; an answer is about the module that it brings the exports of. -/
def Phase.IsAbout (l : Loader) (id : String) : Phase → Prop
  | .loading id' => id' = id
  | .working a => a.id = id
  | .answering (.ok exports) => l.cache.get? id = some exports
  | .answering (.error _) => True

/-- The factories that wait are a chain of imports that ends with the module in question. -/
def Config.Linked (table : Table) (c : Config) : Prop :=
  ∃ id, c.phase.IsAbout c.loader id ∧ Chained table id c.waiting

/-- **Every move keeps the chain.** -/
theorem Config.Linked.move {c c' : Config} (hmove : Move table c c') (hlisted : c.Listed table)
    (h : c.Linked table) : c'.Linked table := by
  obtain ⟨id, habout, hchain⟩ := h
  cases hmove with
  | cached l ws id' exports hcache => exact ⟨id', hcache, habout ▸ hchain⟩
  | miss l ws id' hcache htable => exact ⟨id, trivial, hchain⟩
  | enter l ws id' m hcache htable => exact ⟨id, habout, hchain⟩
  | leave l ws a hsteps =>
      refine ⟨a.id, ?_, habout ▸ hchain⟩
      exact (OrderedMap.get?_insert _ _ _ _).trans (if_pos rfl)
  | compute l ws a a' hid => exact ⟨id, hid.trans habout, hchain⟩
  | speak l ws a a' text hid => exact ⟨id, hid.trans habout, hchain⟩
  | standIn l ws a a' specifier target hmap hid hin => exact ⟨id, hid.trans habout, hchain⟩
  | wait l ws a w hmap hid hout =>
      obtain ⟨m, hm, himports, -⟩ := hlisted a (List.mem_cons_self ..)
      refine ⟨w.target, rfl, rfl, ⟨m, w.specifier, hid ▸ hm, himports ▸ hmap⟩, ?_⟩
      rwa [hid, habout]
  | fail l ws a problem => exact ⟨id, trivial, hchain⟩
  | answer l ws w exports => exact ⟨w.activation.id, rfl, hchain.2.2⟩
  | recover l ws w failure hguarded => exact ⟨w.activation.id, rfl, hchain.2.2⟩
  | abort l ws w failure hguarded => exact ⟨w.activation.id, trivial, hchain.2.2⟩
  | rest l answer => exact ⟨id, habout, hchain⟩

/-- Each factory that waits leads to the module at the end of the chain. -/
lemma Chained.transGen {id : String} {ws : List Waiting} (h : Chained table id ws) {w : Waiting}
    (hw : w ∈ ws) : Relation.TransGen table.Imports w.activation.id id := by
  induction ws generalizing id with
  | nil => cases hw
  | cons first rest ih =>
      obtain ⟨-, himports, hrest⟩ := h
      rcases List.mem_cons.1 hw with rfl | hw
      · exact .single himports
      · exact (ih hrest hw).tail himports

/-- **A running module that is required** closes a cycle of imports. -/
lemma not_mem_running_of_acyclic (hacyclic : Acyclic table.Imports) {l : Loader}
    {ws : List Waiting} {a : Activation} (hlisted : Config.Listed table ⟨l, ws, .working a⟩)
    (hlinked : Config.Linked table ⟨l, ws, .working a⟩) {specifier target : String}
    (hmap : a.importMap.get? specifier = some target) :
    target ∉ (Config.mk l ws (.working a)).running := by
  obtain ⟨id, rfl, hchain⟩ := hlinked
  obtain ⟨m, hm, himports, -⟩ := hlisted a (List.mem_cons_self ..)
  have hback : table.Imports a.id target := ⟨m, specifier, hm, himports ▸ hmap⟩
  intro hrunning
  rcases List.mem_cons.1 hrunning with rfl | hwaits
  · exact hacyclic a.id (.single hback)
  · obtain ⟨w, hw, rfl⟩ := List.mem_map.1 hwaits
    exact hacyclic _ ((hchain.transGen hw).tail hback)

/-- **If the imports are acyclic** no move turns to a module that is running, whatever the counts
    say. -/
lemma Config.Linked.idle (hacyclic : Acyclic table.Imports) {c c' : Config}
    (hmove : Move table c c') (hlisted : c.Listed table) (hlinked : c.Linked table) :
    ∀ id, c'.phase = .loading id → id ∉ c'.running := by
  refine idle_of_required hmove fun l ws a specifier target hc hmap _ => ?_
  subst hc
  exact not_mem_running_of_acyclic hacyclic hlisted hlinked hmap

/-! ## What the loader records -/

/-- What a factory has returned. -/
def Event.returned? : Event → Option (String × Exports)
  | .left id (some exports) => some (id, exports)
  | _ => none

/-- **What the factories have returned**, in order. -/
def returns (l : Loader) : List (String × Exports) :=
  l.events.filterMap Event.returned?

lemma mem_returns_iff {l : Loader} {id : String} {exports : Exports} :
    (id, exports) ∈ returns l ↔ .left id (some exports) ∈ l.events := by
  rw [returns, List.mem_filterMap]
  constructor
  · rintro ⟨e, he, heq⟩
    cases e with
    | left id' o =>
        cases o with
        | none => cases heq
        | some exports' =>
            cases heq
            exact he
    | _ => cases heq
  · exact fun h => ⟨_, h, rfl⟩

/-- **The cache holds what the factories returned.** -/
def Loader.Kept (l : Loader) : Prop :=
  ∀ id exports, l.cache.get? id = some exports ↔ .left id (some exports) ∈ l.events

/-- **What holds at every moment** of all loadings. -/
structure Recorded (table : Table) (c : Config) : Prop where
  sound : Sound c
  listed : c.Listed table
  linked : c.Linked table
  /-- The entries of the cache are what the factories returned, in this order. -/
  cached : c.loader.cache.toList = returns c.loader

namespace Recorded

lemma fresh (id : String) : Recorded table ⟨.fresh, [], .loading id⟩ where
  sound := .fresh id
  listed a ha := by cases ha
  linked := ⟨id, rfl, trivial⟩
  cached := rfl

lemma again {l : Loader} {answer : Except Failure Exports}
    (h : Recorded table ⟨l, [], .answering answer⟩) (id : String) :
    Recorded table ⟨l, [], .loading id⟩ where
  sound := h.sound.again rfl id
  listed a ha := by cases ha
  linked := ⟨id, rfl, trivial⟩
  cached := h.cached

/-- **Every move** that puts exports into the cache adds an entry, because no running module has
    one. -/
lemma cached_move {c c' : Config} (hmove : Move table c c') (h : Recorded table c) :
    c'.loader.cache.toList = returns c'.loader := by
  have hcached := h.cached
  cases hmove with
  | leave l ws a hsteps =>
      have hnew := h.sound.uncached a.id (List.mem_cons_self ..)
      rw [OrderedMap.contains_eq_false_iff, OrderedMap.get?_eq_none_iff] at hnew
      rw [cache_keep, OrderedMap.toList_insert_of_notMem _ _ hnew, hcached, returns, returns,
        events_keep, List.filterMap_append]
      rfl
  | _ => simpa [returns, List.filterMap_cons, Event.returned?] using hcached

/-- **Every turn keeps this**, unless it turns to a module that is running. -/
theorem turn {c : Config} (h : Recorded table c)
    (hidle : ∀ id, (turn table c).phase = .loading id → id ∉ (turn table c).running) :
    Recorded table (turn table c) where
  sound := h.sound.move (move_turn table c) hidle
  listed := h.listed.turn
  linked := h.linked.move (move_turn table c) h.listed
  cached := h.cached_move (move_turn table c)

lemma turn_of_fit {c : Config} (h : Recorded table c) (hfit : c.loader.CountsFit) :
    Recorded table (Config.turn table c) :=
  h.turn (h.sound.idle (move_turn table c) hfit)

lemma kept {c : Config} (h : Recorded table c) : c.loader.Kept := by
  intro id exports
  rw [OrderedMap.get?_eq_some_iff_mem, h.cached, mem_returns_iff]

/-- An answer brings the exports that its module has in the cache. -/
lemma get?_of_answering {c : Config} (h : Recorded table c) {w : Waiting} {ws : List Waiting}
    {exports : Exports} (hwaiting : c.waiting = w :: ws)
    (hphase : c.phase = .answering (.ok exports)) :
    c.loader.cache.get? w.target = some exports := by
  obtain ⟨id, habout, hchain⟩ := h.linked
  rw [hphase] at habout
  rw [hwaiting] at hchain
  obtain ⟨rfl, -⟩ := hchain
  exact habout

/-- What an answer brings was returned. -/
lemma mem_events_of_answering {c : Config} (h : Recorded table c) {w : Waiting} {ws : List Waiting}
    {exports : Exports} (hwaiting : c.waiting = w :: ws)
    (hphase : c.phase = .answering (.ok exports)) :
    .left w.target (some exports) ∈ c.loader.events :=
  (h.kept _ _).1 (h.get?_of_answering hwaiting hphase)

end Recorded

/-! ## What the answers rest on -/

/-- **What an event rests on**: a stand-in on a failure of the target before it, and any other
    answer on a return of the target before it, with the same exports. -/
def Event.RestsOn (before : List Event) : Event → Prop
  | .answered _ _ target true _ => .left target none ∈ before
  | .answered _ _ target false exports => .left target (some exports) ∈ before
  | _ => True

/-- Every event rests on what happened before it. -/
def Backed (events : List Event) : Prop :=
  ∀ before e, before ++ [e] <+: events → e.RestsOn before

lemma Backed.concat {events : List Event} (h : Backed events) {e : Event}
    (he : e.RestsOn events) : Backed (events ++ [e]) := by
  intro before e' hprefix
  rcases List.prefix_concat_iff.1 hprefix with heq | hprefix
  · obtain ⟨rfl, rfl⟩ := List.append_singleton_inj.1 heq
    exact he
  · exact h before e' hprefix

/-- **What holds at every moment** of the loadings from a table whose imports are acyclic. -/
structure Traced (table : Table) (c : Config) : Prop extends Recorded table c where
  backed : Backed c.loader.events

namespace Traced

lemma fresh (id : String) : Traced table ⟨.fresh, [], .loading id⟩ where
  toRecorded := .fresh id
  backed before e hprefix := by
    have hnil := List.prefix_nil.1 hprefix
    simp at hnil

lemma again {l : Loader} {answer : Except Failure Exports}
    (h : Traced table ⟨l, [], .answering answer⟩) (id : String) :
    Traced table ⟨l, [], .loading id⟩ where
  toRecorded := h.toRecorded.again id
  backed := h.backed

/-- **Every turn keeps this**, if the imports are acyclic. -/
theorem turn (hacyclic : Acyclic table.Imports) {c : Config} (h : Traced table c) :
    Traced table (turn table c) := by
  have hidle := h.linked.idle hacyclic (move_turn table c) h.listed
  refine ⟨h.toRecorded.turn hidle, ?_⟩
  have hmove := move_turn table c
  generalize Config.turn table c = c' at hmove
  cases hmove with
  | cached l ws id exports hcache => exact h.backed
  | miss l ws id hcache htable => exact h.backed
  | enter l ws id m hcache htable => exact h.backed.concat trivial
  | leave l ws a hsteps => exact h.backed.concat trivial
  | compute l ws a a' hid => exact h.backed
  | speak l ws a a' text hid => exact h.backed.concat trivial
  | standIn l ws a a' specifier target hmap hid hin =>
      -- The target is not running, so it counts as instantiating because it has failed.
      have habandoned := (h.sound.of_isInstantiating hin).resolve_left
        (not_mem_running_of_acyclic hacyclic h.listed h.linked hmap)
      exact h.backed.concat habandoned.1
  | wait l ws a w hmap hid hout => exact h.backed
  | fail l ws a problem => exact h.backed.concat trivial
  | answer l ws w exports => exact h.backed.concat (h.mem_events_of_answering rfl rfl)
  | recover l ws w failure hguarded => exact h.backed.concat trivial
  | abort l ws w failure hguarded => exact h.backed.concat trivial
  | rest l answer => exact h.backed

end Traced

/-! ## All moments -/

/-- **What holds at every moment of all loadings** on one loader: what holds at the beginning of the
    first one, is kept by every turn, and is kept from the end of a loading to the beginning of the
    next. -/
theorem moment_induction {P : Config → Prop} (hfresh : ∀ id, P ⟨.fresh, [], .loading id⟩)
    (hturn : ∀ c, P c → P (turn table c))
    (hagain : ∀ l answer id, P ⟨l, [], .answering answer⟩ → P ⟨l, [], .loading id⟩)
    (earlier : List String) (id : String) (n : ℕ) :
    P ((turn table)^[n] ⟨loadAll table earlier, [], .loading id⟩) := by
  refine Function.Iterate.rec P ?_ hturn n
  induction earlier using List.reverseRecOn generalizing id with
  | nil => exact hfresh id
  | append_singleton earlier last ih =>
      rw [loadAll_concat]
      exact hagain _ _ id (ended_induction (ih last) hturn)

/-- The same for what is kept as long as the counts fit. -/
theorem moment_induction_of_fit {P : Config → Prop} (hfresh : ∀ id, P ⟨.fresh, [], .loading id⟩)
    (hturn : ∀ c, c.loader.CountsFit → P c → P (turn table c))
    (hagain : ∀ l answer id, P ⟨l, [], .answering answer⟩ → P ⟨l, [], .loading id⟩)
    {earlier : List String} {id : String} {n : ℕ}
    (hfit : ((turn table)^[n] ⟨loadAll table earlier, [], .loading id⟩).loader.CountsFit) :
    P ((turn table)^[n] ⟨loadAll table earlier, [], .loading id⟩) :=
  moment_induction (P := fun c => c.loader.CountsFit → P c) (fun id _ => hfresh id)
    (turn_of_fit hturn) (fun l answer id h hfit => hagain l answer id (h hfit)) earlier id n hfit

/-- **At every moment** at which the counts fit, the cache is what the factories have returned. -/
theorem Recorded.moment {earlier : List String} {id : String} {n : ℕ}
    (hfit : ((Config.turn table)^[n] ⟨loadAll table earlier, [], .loading id⟩).loader.CountsFit) :
    Recorded table ((Config.turn table)^[n] ⟨loadAll table earlier, [], .loading id⟩) :=
  moment_induction_of_fit .fresh (fun _ hfit h => h.turn_of_fit hfit) (fun _ _ id h => h.again id)
    hfit

/-- **Acyclic imports** leave a trace of every answer, at every moment of all loadings. -/
theorem Traced.of_acyclic (hacyclic : Acyclic table.Imports) (earlier : List String) (id : String)
    (n : ℕ) : Traced table ((Config.turn table)^[n] ⟨loadAll table earlier, [], .loading id⟩) :=
  moment_induction .fresh (fun _ h => h.turn hacyclic) (fun _ _ id h => h.again id) earlier id n

end ModuleBundler.Loading
