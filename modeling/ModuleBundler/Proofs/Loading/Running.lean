import Mathlib.Data.List.Induction
import ModuleBundler.Proofs.Loading.Machine

/-!
# Which modules count as instantiating

A loader holds a module for instantiating if its count is not zero and it has no exports in the
cache.  It keeps no list of the factories that are running, so the question is for which modules the
two agree.

**The invariant.**  `Sound` reads both maps of the loader off the events: a module was entered if
its factory is running or has ended, and it is cached if its factory has returned.  Every move
keeps this unless it turns to a module that is running (`Sound.move`), and as long as the counts fit
none does (`Sound.idle`).

**Failed factories.**  A factory that ends with a failure leaves its count behind and puts nothing
into the cache.  So besides the running modules, those that were abandoned by a failure count as
instantiating too, and go on doing so after the loading has come to its answer
(`isInstantiating_iff`).
-/

namespace ModuleBundler.Loading

open Config (ended turn)
open Loader (load)

/-- The factory of the module has failed, and has never returned. -/
def Loader.Abandoned (l : Loader) (id : String) : Prop :=
  .left id none ∈ l.events ∧ ∀ exports, .left id (some exports) ∉ l.events

/-- **A fresh loader after some loadings**, whether they succeeded or failed. -/
def loadAll (table : Table) (ids : List String) : Loader :=
  ids.foldl (fun l id => (load table id l).1) .fresh

variable {table : Table}

/-- **What the maps of the loader say** about the factories. -/
structure Sound (c : Config) : Prop where
  nodup : c.running.Nodup
  uncached : ∀ id ∈ c.running, c.loader.cache.contains id = false
  entered : ∀ id, id ∈ enterings c.loader ↔ id ∈ c.running ∨ ∃ o, .left id o ∈ c.loader.events
  counted : ∀ id, c.loader.count id = (enterings c.loader).count id % UInt32.size
  cached : ∀ id, c.loader.cache.contains id = true
    ↔ ∃ exports, .left id (some exports) ∈ c.loader.events
  /-- A running factory is not entered again. -/
  loading : ∀ id, c.phase = .loading id → id ∉ c.running

@[simp] lemma running_working (l : Loader) (ws : List Waiting) (a : Activation) :
    (Config.mk l ws (.working a)).running = a.id :: ws.map fun w => w.activation.id := rfl

@[simp] lemma running_loading (l : Loader) (ws : List Waiting) (id : String) :
    (Config.mk l ws (.loading id)).running = ws.map fun w => w.activation.id := rfl

@[simp] lemma running_answering (l : Loader) (ws : List Waiting) (answer : Except Failure Exports) :
    (Config.mk l ws (.answering answer)).running = ws.map fun w => w.activation.id := rfl

/-- **Only a requirement turns to a module**, so no move turns to one that is running unless a
    running module is required and not answered with a stand-in. -/
lemma idle_of_required {c c' : Config} (hmove : Move table c c')
    (hrequired : ∀ l ws a specifier target, c = ⟨l, ws, .working a⟩ →
      a.importMap.get? specifier = some target → l.isInstantiating target = false →
        target ∉ c.running) :
    ∀ id, c'.phase = .loading id → id ∉ c'.running := by
  cases hmove with
  | wait l ws a w hmap hid hout =>
      intro id hphase
      cases hphase
      have hsame : (Config.mk l (w :: ws) (.loading w.target)).running
          = (Config.mk l ws (.working a)).running := by
        simp [hid]
      rw [hsame]
      exact hrequired l ws a w.specifier w.target rfl hmap hout
  | rest l answer => exact fun id hphase => by cases hphase
  | _ => simp

namespace Sound

/-- A count that fits is the number of times that the factory was entered. -/
lemma count_eq {c : Config} (h : Sound c) (hfit : c.loader.CountsFit) (id : String) :
    c.loader.count id = (enterings c.loader).count id := by
  rw [h.counted, Nat.mod_eq_of_lt (hfit id)]

/-- What was entered and has no exports is running, or was abandoned. -/
lemma running_or_abandoned {c : Config} (h : Sound c) {id : String}
    (hentered : id ∈ enterings c.loader) (huncached : c.loader.cache.contains id = false) :
    id ∈ c.running ∨ c.loader.Abandoned id := by
  have hnever : ∀ exports, .left id (some exports) ∉ c.loader.events := by
    intro exports hreturned
    have hcached := (h.cached id).2 ⟨exports, hreturned⟩
    rw [huncached] at hcached
    cases hcached
  rcases (h.entered id).1 hentered with hrunning | ⟨o, hleft⟩
  · exact .inl hrunning
  · cases o with
    | none => exact .inr ⟨hleft, hnever⟩
    | some exports => exact absurd hleft (hnever exports)

/-- **What counts as instantiating** is running, or was abandoned, whether or not the counts fit. -/
theorem of_isInstantiating {c : Config} (h : Sound c) {id : String}
    (hin : c.loader.isInstantiating id = true) : id ∈ c.running ∨ c.loader.Abandoned id := by
  rw [Loader.isInstantiating, Bool.and_eq_true, decide_eq_true_eq, Bool.not_eq_true'] at hin
  refine h.running_or_abandoned (List.count_pos_iff.1 ?_) hin.2
  have hpos := hin.1
  rw [h.counted] at hpos
  exact Nat.pos_of_ne_zero fun hzero => by simp [hzero] at hpos

/-- **Which modules count as instantiating**: the running ones, and the abandoned ones. -/
theorem isInstantiating_iff {c : Config} (h : Sound c) (hfit : c.loader.CountsFit) (id : String) :
    c.loader.isInstantiating id = true ↔ id ∈ c.running ∨ c.loader.Abandoned id := by
  refine ⟨h.of_isInstantiating, fun hopen => ?_⟩
  have hentered : 0 < (enterings c.loader).count id := by
    refine List.count_pos_iff.2 ((h.entered id).2 ?_)
    exact hopen.imp_right fun habandoned => ⟨none, habandoned.1⟩
  have huncached : c.loader.cache.contains id = false := by
    rcases hopen with hrunning | ⟨-, hnever⟩
    · exact h.uncached id hrunning
    · refine Bool.eq_false_iff.2 fun hcached => ?_
      obtain ⟨exports, hreturned⟩ := (h.cached id).1 hcached
      exact hnever exports hreturned
  rw [Loader.isInstantiating, h.count_eq hfit, huncached]
  simp [hentered]

/-- A move keeps the invariant if no factory is entered and none ends. -/
lemma still {c c' : Config} (h : Sound c) (hrunning : c'.running = c.running)
    (hcount : ∀ id, c'.loader.count id = c.loader.count id)
    (henterings : enterings c'.loader = enterings c.loader)
    (hcache : c'.loader.cache = c.loader.cache)
    (hleft : ∀ id o, .left id o ∈ c'.loader.events ↔ .left id o ∈ c.loader.events)
    (hloading : ∀ id, c'.phase = .loading id → id ∉ c'.running) : Sound c' where
  nodup := by
    rw [hrunning]
    exact h.nodup
  uncached id hid := by
    rw [hcache]
    exact h.uncached id (hrunning ▸ hid)
  entered id := by
    simp only [henterings, hrunning, hleft]
    exact h.entered id
  counted id := by
    rw [hcount, henterings, h.counted]
  cached id := by
    simp only [hcache, hleft]
    exact h.cached id
  loading := hloading

/-- To enter a module that is not running keeps the invariant. -/
lemma enter {l : Loader} {ws : List Waiting} {id : String} {a : Activation}
    (h : Sound ⟨l, ws, .loading id⟩) (hcache : l.cache.get? id = none) (hid : a.id = id) :
    Sound ⟨l.enter id, ws, .working a⟩ where
  nodup := by
    rw [running_working, hid]
    exact List.nodup_cons.2 ⟨h.loading id rfl, h.nodup⟩
  uncached id' hid' := by
    rw [running_working, hid] at hid'
    rcases List.mem_cons.1 hid' with rfl | hid'
    · exact (OrderedMap.contains_eq_false_iff _ _).2 hcache
    · exact h.uncached id' hid'
  entered id' := by
    have hbefore := h.entered id'
    rw [running_loading] at hbefore
    rw [enterings_enter, List.mem_append, hbefore, running_working, hid]
    by_cases heq : id' = id
    · simp [heq]
    · simp [heq]
  counted id' := by
    have hbefore := h.counted id'
    rw [count_enter, enterings_enter, List.count_append, List.count_singleton]
    by_cases heq : id = id'
    · subst heq
      simp [hbefore]
    · rw [if_neg heq, hbefore]
      simp [heq]
  cached id' := by
    have hbefore := h.cached id'
    simpa using hbefore
  loading id' hphase := by cases hphase

/-- The invariant when the innermost factory has ended. -/
lemma leave {c : Config} (h : Sound c) {l' : Loader} {ws : List Waiting} {id : String}
    {o : Option Exports} (answer : Except Failure Exports)
    (hrunning : c.running = id :: ws.map fun w => w.activation.id)
    (hcount : ∀ id', l'.count id' = c.loader.count id')
    (henterings : enterings l' = enterings c.loader)
    (hevents : l'.events = c.loader.events ++ [.left id o])
    (hcache : ∀ id', l'.cache.contains id' = true
      ↔ c.loader.cache.contains id' = true ∨ id' = id ∧ o.isSome) :
    Sound ⟨l', ws, .answering answer⟩ := by
  have hnodup := h.nodup
  rw [hrunning, List.nodup_cons] at hnodup
  refine ⟨hnodup.2, ?_, ?_, fun id' => ?_, ?_, by simp⟩
  · intro id' hid'
    have hne : id' ≠ id := fun heq => hnodup.1 (heq ▸ hid')
    have huncached := h.uncached id' (hrunning ▸ List.mem_cons_of_mem id hid')
    rw [Bool.eq_false_iff] at huncached ⊢
    rw [Ne, hcache]
    rintro (hcached | ⟨heq, -⟩)
    · exact huncached hcached
    · exact hne heq
  · intro id'
    have hbefore := h.entered id'
    rw [hrunning] at hbefore
    rw [henterings, hbefore, running_answering, hevents]
    by_cases heq : id' = id
    · simp [heq]
    · simp [heq]
  · rw [hcount, henterings, h.counted]
  · intro id'
    rw [hcache, h.cached, hevents]
    by_cases heq : id' = id
    · cases o <;> simp [heq]
    · simp [heq]

/-- **Every move keeps the invariant**, unless it turns to a module that is running. -/
theorem move {c c' : Config} (hmove : Move table c c') (h : Sound c)
    (hidle : ∀ id, c'.phase = .loading id → id ∉ c'.running) : Sound c' := by
  cases hmove with
  | cached l ws id exports hcache =>
      exact h.still rfl (fun _ => rfl) rfl rfl (fun _ _ => Iff.rfl) hidle
  | miss l ws id hcache htable =>
      exact h.still rfl (fun _ => rfl) rfl rfl (fun _ _ => Iff.rfl) hidle
  | enter l ws id m hcache htable => exact h.enter hcache rfl
  | leave l ws a hsteps =>
      exact h.leave _ rfl (fun _ => rfl) (enterings_keep ..) rfl fun id' =>
        (contains_keep l a.id id' a.frame.exports).trans (by simp)
  | compute l ws a a' hid =>
      exact h.still (by simp [hid]) (fun _ => rfl) rfl rfl (fun _ _ => Iff.rfl) hidle
  | speak l ws a a' text hid =>
      exact h.still (by simp [hid]) (fun _ => rfl) (enterings_note rfl l) rfl (by simp) hidle
  | standIn l ws a a' specifier target hmap hid hin =>
      exact h.still (by simp [hid]) (fun _ => rfl) (enterings_note rfl l) rfl (by simp) hidle
  | wait l ws a w hmap hid hout =>
      exact h.still (by simp [hid]) (fun _ => rfl) rfl rfl (fun _ _ => Iff.rfl) hidle
  | fail l ws a problem =>
      exact h.leave _ rfl (fun _ => rfl) (enterings_note rfl l) rfl (by simp)
  | answer l ws w exports =>
      exact h.still rfl (fun _ => rfl) (enterings_note rfl l) rfl (by simp) hidle
  | recover l ws w failure hguarded =>
      exact h.still rfl (fun _ => rfl) (enterings_note rfl l) rfl (by simp) hidle
  | abort l ws w failure hguarded =>
      exact h.leave _ rfl (fun _ => rfl) (enterings_note rfl l) rfl (by simp)
  | rest l answer => exact h

/-- **As long as the counts fit** no move turns to a module that is running: such a target counts as
    instantiating, and is answered with a stand-in. -/
lemma idle {c c' : Config} (hmove : Move table c c') (h : Sound c) (hfit : c.loader.CountsFit) :
    ∀ id, c'.phase = .loading id → id ∉ c'.running := by
  refine idle_of_required hmove fun l ws a specifier target hc _ hout hrunning => ?_
  subst hc
  have hin := (h.isInstantiating_iff hfit target).2 (.inl hrunning)
  rw [hout] at hin
  cases hin

lemma turn {c : Config} (h : Sound c) (hfit : c.loader.CountsFit) : Sound (turn table c) :=
  h.move (move_turn table c) (h.idle (move_turn table c) hfit)

lemma again {l : Loader} {phase : Phase} (h : Sound ⟨l, [], phase⟩)
    (hrunning : (Config.mk l [] phase).running = []) (id : String) :
    Sound ⟨l, [], .loading id⟩ := by
  have hnone : (Config.mk l [] (.loading id)).running = (Config.mk l [] phase).running :=
    hrunning.symm
  exact h.still hnone (fun _ => rfl) rfl rfl (fun _ _ => Iff.rfl) (by simp)

lemma fresh (id : String) : Sound ⟨.fresh, [], .loading id⟩ where
  nodup := List.nodup_nil
  uncached id hid := by cases hid
  entered id := by simp [Loader.fresh, enterings]
  counted id := by simp [Loader.fresh, Loader.count, Loader.stored, enterings]
  cached id := by simp [Loader.fresh]
  loading id _ hid := by cases hid

lemma ended {l : Loader} {id : String} (h : Sound ⟨l, [], .loading id⟩)
    (hfit : (load table id l).1.CountsFit) : Sound (Config.ended [] (load table id l)) :=
  ended_induction_of_fit h (fun _ hfit hs => hs.turn hfit) hfit

end Sound

lemma loadAll_concat (ids : List String) (id : String) :
    loadAll table (ids ++ [id]) = (load table id (loadAll table ids)).1 := by
  rw [loadAll, List.foldl_append]
  rfl

/-- The counts fitted before the last loading, and at every moment of it. -/
lemma Loader.CountsFit.moment {ids : List String} {id : String}
    (h : (loadAll table (ids ++ [id])).CountsFit) (n : ℕ) :
    ((turn table)^[n] ⟨loadAll table ids, [], .loading id⟩).loader.CountsFit := by
  rw [loadAll_concat] at h
  exact h.of_prefix ((leads_load table id (loadAll table ids)).iterate n).keeps_events

/-- The invariant between the loadings of a sequence. -/
lemma Sound.start (ids : List String) (id : String) (hfit : (loadAll table ids).CountsFit) :
    Sound ⟨loadAll table ids, [], .loading id⟩ := by
  induction ids using List.reverseRecOn generalizing id with
  | nil => exact .fresh id
  | append_singleton ids last ih =>
      have hbefore := ih last (hfit.moment 0)
      rw [loadAll_concat] at hfit ⊢
      exact (hbefore.ended hfit).again rfl id

/-- **At every moment** of a loading at which the counts fit. -/
lemma Sound.moment {earlier : List String} {id : String} (n : ℕ)
    (hfit : ((Config.turn table)^[n] ⟨loadAll table earlier, [], .loading id⟩).loader.CountsFit) :
    Sound ((Config.turn table)^[n] ⟨loadAll table earlier, [], .loading id⟩) := by
  have hbefore := hfit.of_prefix (events_prefix_iterate table _ n)
  exact Function.Iterate.rec (fun c => c.loader.CountsFit → Sound c)
    (fun _ => .start earlier id hbefore) (turn_of_fit fun _ hfit hs => hs.turn hfit) n hfit

/-- A stand-in is the answer for a module that counts as instantiating. -/
lemma isInstantiating_of_standIn {c c' : Config} (h : Move table c c')
    {importer specifier target : String} {exports : Exports}
    (hevents : c'.loader.events
      = c.loader.events ++ [.answered importer specifier target true exports]) :
    c.loader.isInstantiating target = true := by
  cases h with
  | standIn l ws a a' specifier target hmap hid hin =>
      simp only [events_note, List.append_cancel_left_eq, List.cons.injEq, Event.answered.injEq]
        at hevents
      exact hevents.1.2.2.1 ▸ hin
  | _ => simp at hevents

/-- **Which modules count as instantiating.**  Take any moment of any loading, after any earlier
    ones on the same loader, in the course of which no factory is entered 2^32 times.  The modules
    that count as instantiating are those whose factory is running and those that were abandoned by
    a failure.  They are the running ones alone exactly if every abandoned module is running again.
    A requirement is answered with a stand-in only if its target is running or abandoned.  The
    moments end with the answer of the loading, and then the abandoned modules count as
    instantiating and no other ones. -/
theorem isInstantiating_iff_running_or_abandoned (table : Table) (earlier : List String)
    (id : String) (n : ℕ) (hfit : (loadAll table (earlier ++ [id])).CountsFit) :
    let c := (turn table)^[n] ⟨loadAll table earlier, [], .loading id⟩
    (∀ m, c.loader.isInstantiating m = true ↔ m ∈ c.running ∨ c.loader.Abandoned m)
      ∧ ((∀ m, c.loader.isInstantiating m = true ↔ m ∈ c.running)
          ↔ ∀ m, c.loader.Abandoned m → m ∈ c.running)
      ∧ (∀ importer specifier target exports,
          (turn table c).loader.events
              = c.loader.events ++ [.answered importer specifier target true exports] →
            target ∈ c.running ∨ c.loader.Abandoned target)
      ∧ Leads table c (ended [] (load table id (loadAll table earlier)))
      ∧ ∀ m, (load table id (loadAll table earlier)).1.isInstantiating m = true
          ↔ (load table id (loadAll table earlier)).1.Abandoned m := by
  have hstart : Sound ⟨loadAll table earlier, [], .loading id⟩ := .moment 0 (hfit.moment 0)
  have hsound : Sound ((turn table)^[n] ⟨loadAll table earlier, [], .loading id⟩) :=
    .moment n (hfit.moment n)
  have hopen := hsound.isInstantiating_iff (hfit.moment n)
  refine ⟨hopen, ?_, ?_, ?_, ?_⟩
  · simp only [hopen, or_iff_left_iff_imp]
  · intro importer specifier target exports hevents
    exact (hopen target).1 (isInstantiating_of_standIn (move_turn table _) hevents)
  · exact (leads_load table id _).iterate n
  · intro m
    rw [loadAll_concat] at hfit
    have hin := (hstart.ended hfit).isInstantiating_iff hfit m
    rw [ended, running_answering, List.map_nil] at hin
    simpa using hin

/-- A module that fails, and one that tries to require it. -/
def retryTable : Table :=
  ((Table.new "a").insert "a" ⟨.ofList [("./b", "b")], [.tryRequire "./b" "b"]⟩).insert "b"
    ⟨.empty, [.fail "boom"]⟩

/-- While the second one is running, the first one still counts as instantiating from an earlier
    loading. -/
theorem isInstantiating_iff_running_or_abandoned_retry :
    (loadAll retryTable ["b", "a"]).CountsFit
      ∧ ((turn retryTable)^[1] ⟨loadAll retryTable ["b"], [], .loading "a"⟩).running = ["a"]
      ∧ ((turn retryTable)^[1] ⟨loadAll retryTable ["b"], [], .loading "a"⟩).loader.Abandoned "b"
      ∧ (load retryTable "a" (loadAll retryTable ["b"])).1.isInstantiating "a" = false := by
  have hfit : (loadAll retryTable (["b"] ++ ["a"])).CountsFit := .of_length (by decide +kernel)
  obtain ⟨hopen, -⟩ := isInstantiating_iff_running_or_abandoned retryTable ["b"] "a" 1 hfit
  refine ⟨hfit, by decide +kernel, ?_, by decide +kernel⟩
  exact ((hopen "b").1 (by decide +kernel)).resolve_left (by decide +kernel)

/-- A module that fails. -/
def failingTable : Table :=
  (Table.new "a").insert "a" ⟨.empty, [.fail "boom"]⟩

/-- After its failure a module goes on to count as instantiating, with no factory running. -/
theorem isInstantiating_after_failure :
    (load failingTable "a" .fresh).1.isInstantiating "a" = true
      ∧ ¬ ∀ (table : Table) (earlier : List String) (id : String) (n : ℕ) (m : String),
          ((turn table)^[n] ⟨loadAll table earlier, [], .loading id⟩).loader.isInstantiating m
            = true ↔ m ∈ ((turn table)^[n] ⟨loadAll table earlier, [], .loading id⟩).running := by
  refine ⟨by decide +kernel, fun hall => ?_⟩
  have hafter := hall failingTable [] "a" 3 "a"
  revert hafter
  decide +kernel

end ModuleBundler.Loading
