import Mathlib.Logic.Function.Iterate
import ModuleBundler.Loading.Loader
import ModuleBundler.Proofs.OrderedMap

/-!
# Loading turn by turn

A loading is one recursive call, and says nothing about the moments in the middle of it.  Here it
is taken apart into turns, so that one can speak of every moment.

**Configurations.**  At each moment there are a loader, the factories that wait for an answer
(innermost first), and a phase: a module is to be loaded, a factory is working, or an answer is
on its way to the innermost factory that waits, or to the caller if none does.

**Turns.**  `turn` takes a configuration to the next one.  `Move` lists what a turn can do, and
every invariant is proved from that list.

**Counts.**  A count has 32 bits, and is the number of times that the factory was entered as long as
this number has no more (`Loader.CountsFit`).  Whether it has can be seen from the events, which
only grow, so what holds as long as the counts fit is proved turn by turn as well
(`ended_induction_of_fit`).

**The same loading.**  `leads_load`: the turns that begin with loading a module end with the answer
of `load`.  The depth that `load` allows for is enough, because a nested loading takes a module of
the table whose count is zero, and leaves it at one (`uncounted`).  So what every turn keeps holds
of the answer too (`ended_induction`).
-/

namespace ModuleBundler.Loading

open Loader (Answer instantiate load loadWithin requireBy runSteps)

/-- **A factory at work**: its module, the steps it has yet to take, and its variables. -/
structure Activation where
  id : String
  importMap : OrderedMap String String
  steps : List Step
  frame : Loader.Frame

namespace Activation

/-- The activation with exports in a variable. -/
def bind (a : Activation) (slot : String) (exports : Exports) : Activation :=
  { a with frame := { a.frame with slots := a.frame.slots.insert slot exports } }

/-- The activation with other exports of its own. -/
def exporting (a : Activation) (exports : Exports) : Activation :=
  { a with frame := { a.frame with exports := exports } }

/-- Drop the first of the steps, whose rest is given. -/
def proceed (a : Activation) (rest : List Step) : Activation :=
  { a with steps := rest }

end Activation

/-- **A factory that waits** for the module that it requires. -/
structure Waiting where
  activation : Activation
  specifier : String
  slot : String
  target : String
  /-- Whether it goes on if the module cannot be loaded. -/
  guarded : Bool

/-- **What a loader is about to do**: load a module, go on with a factory, or give an answer. -/
inductive Phase where
  | loading (id : String)
  | working (a : Activation)
  | answering (answer : Except Failure Exports)

/-- **One moment of a loading.** -/
structure Config where
  loader : Loader
  waiting : List Waiting
  phase : Phase

namespace Config

/-- The modules whose factories have been entered and have not ended, innermost first. -/
def running (c : Config) : List String :=
  match c.phase with
  | .working a => a.id :: c.waiting.map fun w => w.activation.id
  | _ => c.waiting.map fun w => w.activation.id

/-- A factory comes upon a failure, which it catches or passes on. -/
def fault (l : Loader) (waiting : List Waiting) (a : Activation) (guarded : Bool)
    (failure : Failure) : Config :=
  if guarded then ⟨l.note (.said ("caught " ++ failure.message)), waiting, .working a⟩
  else
    ⟨l.note (.left a.id none), waiting,
      .answering (.error { failure with within := a.id :: failure.within })⟩

/-- A factory requires a module. -/
def ask (l : Loader) (waiting : List Waiting) (a : Activation) (specifier slot : String)
    (guarded : Bool) : Config :=
  match a.importMap.get? specifier with
  | none => fault l waiting a guarded ⟨[], .unknownSpecifier a.id specifier⟩
  | some target =>
      if l.isInstantiating target then
        ⟨l.note (.answered a.id specifier target true .empty), waiting,
          .working (a.bind slot .empty)⟩
      else ⟨l, ⟨a, specifier, slot, target, guarded⟩ :: waiting, .loading target⟩

/-- The next step of a factory, or its return if there is none. -/
def work (l : Loader) (waiting : List Waiting) (a : Activation) : Config :=
  match a.steps with
  | [] => ⟨l.keep a.id a.frame.exports, waiting, .answering (.ok a.frame.exports)⟩
  | .say text :: rest => ⟨l.note (.said text), waiting, .working (a.proceed rest)⟩
  | .require specifier slot :: rest => ask l waiting (a.proceed rest) specifier slot false
  | .tryRequire specifier slot :: rest => ask l waiting (a.proceed rest) specifier slot true
  | .exhibit slot :: rest =>
      ⟨l.note (.said (writeExports (a.frame.read slot))), waiting, .working (a.proceed rest)⟩
  | .publish name value :: rest =>
      ⟨l, waiting, .working ((a.proceed rest).exporting (a.frame.exports.insert name value))⟩
  | .publishFrom name slot property :: rest =>
      let value := ((a.frame.read slot).get? property).getD .null
      ⟨l, waiting, .working ((a.proceed rest).exporting (a.frame.exports.insert name value))⟩
  | .replace slot :: rest =>
      ⟨l, waiting, .working ((a.proceed rest).exporting (a.frame.read slot))⟩
  | .fail message :: rest => fault l waiting (a.proceed rest) false ⟨[], .failed message⟩

/-- The beginning of a loading: the answer is known, or a factory is entered. -/
def begin (table : Table) (l : Loader) (waiting : List Waiting) (id : String) : Config :=
  match l.cache.get? id with
  | some exports => ⟨l, waiting, .answering (.ok exports)⟩
  | none =>
      match table.get? id with
      | none => ⟨l, waiting, .answering (.error ⟨[], .moduleNotFound id⟩)⟩
      | some m => ⟨l.enter id, waiting, .working ⟨id, m.importMap, m.steps, .initial⟩⟩

/-- An answer reaches the factory that waits for it. -/
def resume (l : Loader) (waiting : List Waiting) (w : Waiting) :
    Except Failure Exports → Config
  | .ok exports =>
      ⟨l.note (.answered w.activation.id w.specifier w.target false exports), waiting,
        .working (w.activation.bind w.slot exports)⟩
  | .error failure => fault l waiting w.activation w.guarded failure

/-- **One turn.**  Nothing more happens when an answer has reached the caller. -/
def turn (table : Table) (c : Config) : Config :=
  match c.phase, c.waiting with
  | .loading id, waiting => begin table c.loader waiting id
  | .working a, waiting => work c.loader waiting a
  | .answering _, [] => c
  | .answering answer, w :: waiting => resume c.loader waiting w answer

/-- The configuration in which a loading has come to its answer. -/
def ended (waiting : List Waiting) (answer : Answer) : Config :=
  ⟨answer.1, waiting, .answering answer.2⟩

end Config

open Config (turn ended)

variable {table : Table}

/-! ## What is kept and what is noted -/

@[simp] lemma events_note (l : Loader) (e : Event) : (l.note e).events = l.events ++ [e] := rfl

@[simp] lemma events_enter (l : Loader) (id : String) :
    (l.enter id).events = l.events ++ [.entered id] := rfl

@[simp] lemma events_keep (l : Loader) (id : String) (exports : Exports) :
    (l.keep id exports).events = l.events ++ [.left id (some exports)] := rfl

@[simp] lemma cache_note (l : Loader) (e : Event) : (l.note e).cache = l.cache := rfl

@[simp] lemma cache_enter (l : Loader) (id : String) : (l.enter id).cache = l.cache := rfl

@[simp] lemma cache_keep (l : Loader) (id : String) (exports : Exports) :
    (l.keep id exports).cache = l.cache.insert id exports := rfl

lemma contains_keep (l : Loader) (id id' : String) (exports : Exports) :
    (l.keep id exports).cache.contains id' = true
      ↔ l.cache.contains id' = true ∨ id' = id := by
  simp only [OrderedMap.contains_iff_mem_keys, cache_keep, OrderedMap.keys_insert]
  split
  · next hmem =>
      refine ⟨.inl, ?_⟩
      rintro (h | rfl)
      · exact h
      · exact hmem
  · simp

@[simp]
lemma count_note (l : Loader) (e : Event) (id : String) : (l.note e).count id = l.count id := rfl

@[simp] lemma count_keep (l : Loader) (id id' : String) (exports : Exports) :
    (l.keep id exports).count id' = l.count id' := rfl

/-- Entering a factory counts that factory, and no other. -/
lemma stored_enter (l : Loader) (id id' : String) :
    (l.enter id).stored id' = if id = id' then l.stored id + 1 else l.stored id' := by
  have hget : (l.enter id).counts.get? id'
      = if id = id' then some (l.stored id + 1) else l.counts.get? id' :=
    OrderedMap.get?_insert _ _ _ _
  rw [Loader.stored, hget]
  split <;> rfl

/-- **To enter a factory** adds one to its count, which begins at zero again when it is full. -/
lemma count_enter (l : Loader) (id id' : String) :
    (l.enter id).count id' = if id = id' then (l.count id + 1) % UInt32.size else l.count id' := by
  rw [Loader.count, stored_enter]
  split
  · exact UInt32.toNat_add _ _
  · rfl

/-- A count of zero goes to one. -/
lemma count_enter_of_eq_zero {l : Loader} {id : String} (h : l.count id = 0) :
    (l.enter id).count id = 1 := by
  rw [count_enter, if_pos rfl, h]
  exact Nat.mod_eq_of_lt (by decide)

/-- The last number of a count is followed by zero. -/
example : (Loader.enter ⟨.empty, .ofList [("a", 4294967295)], []⟩ "a").count "a" = 0 := by
  decide +kernel

/-- The module whose factory an event enters. -/
def Event.entered? : Event → Option String
  | .entered id => some id
  | _ => none

/-- **The modules whose factories were entered**, in order. -/
def enterings (l : Loader) : List String :=
  l.events.filterMap Event.entered?

@[simp]
lemma enterings_enter (l : Loader) (id : String) :
    enterings (l.enter id) = enterings l ++ [id] := by
  simp [enterings, Event.entered?]

@[simp]
lemma enterings_keep (l : Loader) (id : String) (exports : Exports) :
    enterings (l.keep id exports) = enterings l := by
  simp [enterings, Event.entered?]

lemma enterings_note {e : Event} (h : e.entered? = none) (l : Loader) :
    enterings (l.note e) = enterings l := by
  simp [enterings, h]

/-- **The counts fit**: no factory was entered so often that its count began at zero again. -/
def Loader.CountsFit (l : Loader) : Prop :=
  ∀ id, (enterings l).count id < UInt32.size

/-- The counts fit if there are not that many entries of any factories. -/
lemma Loader.CountsFit.of_length {l : Loader} (h : (enterings l).length < UInt32.size) :
    l.CountsFit :=
  fun _ => Nat.lt_of_le_of_lt List.count_le_length h

/-- The counts fitted as long as less had happened. -/
lemma Loader.CountsFit.of_prefix {l l' : Loader} (h : l'.CountsFit)
    (hevents : l.events <+: l'.events) : l.CountsFit := fun id =>
  Nat.lt_of_le_of_lt ((hevents.filterMap Event.entered?).sublist.count_le id) (h id)

/-! ## What a turn can do -/

/-- **Whatever a turn can do.** -/
inductive Move (table : Table) : Config → Config → Prop
  | cached (l : Loader) (ws : List Waiting) (id : String) (exports : Exports)
      (hcache : l.cache.get? id = some exports) :
      Move table ⟨l, ws, .loading id⟩ ⟨l, ws, .answering (.ok exports)⟩
  | miss (l : Loader) (ws : List Waiting) (id : String) (hcache : l.cache.get? id = none)
      (htable : table.get? id = none) :
      Move table ⟨l, ws, .loading id⟩ ⟨l, ws, .answering (.error ⟨[], .moduleNotFound id⟩)⟩
  | enter (l : Loader) (ws : List Waiting) (id : String) (m : TableModule)
      (hcache : l.cache.get? id = none) (htable : table.get? id = some m) :
      Move table ⟨l, ws, .loading id⟩
        ⟨l.enter id, ws, .working ⟨id, m.importMap, m.steps, .initial⟩⟩
  | leave (l : Loader) (ws : List Waiting) (a : Activation) (hsteps : a.steps = []) :
      Move table ⟨l, ws, .working a⟩
        ⟨l.keep a.id a.frame.exports, ws, .answering (.ok a.frame.exports)⟩
  /-- A factory works on its variables. -/
  | compute (l : Loader) (ws : List Waiting) (a a' : Activation) (hid : a'.id = a.id) :
      Move table ⟨l, ws, .working a⟩ ⟨l, ws, .working a'⟩
  | speak (l : Loader) (ws : List Waiting) (a a' : Activation) (text : String)
      (hid : a'.id = a.id) :
      Move table ⟨l, ws, .working a⟩ ⟨l.note (.said text), ws, .working a'⟩
  | standIn (l : Loader) (ws : List Waiting) (a a' : Activation) (specifier target : String)
      (hmap : a.importMap.get? specifier = some target) (hid : a'.id = a.id)
      (hin : l.isInstantiating target = true) :
      Move table ⟨l, ws, .working a⟩
        ⟨l.note (.answered a.id specifier target true .empty), ws, .working a'⟩
  | wait (l : Loader) (ws : List Waiting) (a : Activation) (w : Waiting)
      (hmap : a.importMap.get? w.specifier = some w.target) (hid : w.activation.id = a.id)
      (hout : l.isInstantiating w.target = false) :
      Move table ⟨l, ws, .working a⟩ ⟨l, w :: ws, .loading w.target⟩
  /-- A factory ends of its own accord, or with a specifier that it does not know. -/
  | fail (l : Loader) (ws : List Waiting) (a : Activation) (problem : Problem) :
      Move table ⟨l, ws, .working a⟩
        ⟨l.note (.left a.id none), ws, .answering (.error ⟨[a.id], problem⟩)⟩
  | answer (l : Loader) (ws : List Waiting) (w : Waiting) (exports : Exports) :
      Move table ⟨l, w :: ws, .answering (.ok exports)⟩
        ⟨l.note (.answered w.activation.id w.specifier w.target false exports), ws,
          .working (w.activation.bind w.slot exports)⟩
  | recover (l : Loader) (ws : List Waiting) (w : Waiting) (failure : Failure)
      (hguarded : w.guarded = true) :
      Move table ⟨l, w :: ws, .answering (.error failure)⟩
        ⟨l.note (.said ("caught " ++ failure.message)), ws, .working w.activation⟩
  | abort (l : Loader) (ws : List Waiting) (w : Waiting) (failure : Failure)
      (hguarded : w.guarded = false) :
      Move table ⟨l, w :: ws, .answering (.error failure)⟩
        ⟨l.note (.left w.activation.id none), ws,
          .answering (.error ⟨w.activation.id :: failure.within, failure.problem⟩)⟩
  /-- The answer has reached the caller. -/
  | rest (l : Loader) (answer : Except Failure Exports) :
      Move table ⟨l, [], .answering answer⟩ ⟨l, [], .answering answer⟩

lemma move_fault (l : Loader) (ws : List Waiting) (a a' : Activation) (guarded : Bool)
    (problem : Problem) (hid : a'.id = a.id) :
    Move table ⟨l, ws, .working a⟩ (Config.fault l ws a' guarded ⟨[], problem⟩) := by
  rw [Config.fault]
  split
  · exact .speak l ws a a' _ hid
  · rw [hid]
    exact .fail l ws a _

/-- Asking for a specifier answers with a stand-in, waits for the target, or fails. -/
lemma move_ask (l : Loader) (ws : List Waiting) (a : Activation) (rest : List Step)
    (specifier slot : String) (guarded : Bool) :
    Move table ⟨l, ws, .working a⟩ (Config.ask l ws (a.proceed rest) specifier slot guarded) := by
  rw [Config.ask]
  split
  · exact move_fault l ws a _ guarded _ rfl
  · next target hmap =>
      split
      · next hin => exact .standIn l ws a _ specifier target hmap rfl hin
      · next hout =>
          exact .wait l ws a ⟨a.proceed rest, specifier, slot, target, guarded⟩ hmap rfl
            (Bool.eq_false_iff.2 hout)

lemma move_work (l : Loader) (ws : List Waiting) (a : Activation) :
    Move table ⟨l, ws, .working a⟩ (Config.work l ws a) := by
  rw [Config.work]
  split
  · next hsteps => exact .leave l ws a hsteps
  · exact .speak l ws a _ _ rfl
  · exact move_ask l ws a _ _ _ _
  · exact move_ask l ws a _ _ _ _
  · exact .speak l ws a _ _ rfl
  · exact .compute l ws a _ rfl
  · exact .compute l ws a _ rfl
  · exact .compute l ws a _ rfl
  · exact move_fault l ws a _ false _ rfl

lemma move_begin (l : Loader) (ws : List Waiting) (id : String) :
    Move table ⟨l, ws, .loading id⟩ (Config.begin table l ws id) := by
  rw [Config.begin]
  split
  · next exports hcache => exact .cached l ws id exports hcache
  · next hcache =>
      split
      · next htable => exact .miss l ws id hcache htable
      · next m htable => exact .enter l ws id m hcache htable

lemma move_resume (l : Loader) (ws : List Waiting) (w : Waiting)
    (answer : Except Failure Exports) :
    Move table ⟨l, w :: ws, .answering answer⟩ (Config.resume l ws w answer) := by
  cases answer with
  | ok exports => exact .answer l ws w exports
  | error failure =>
      rw [Config.resume, Config.fault]
      split
      · next hguarded => exact .recover l ws w failure hguarded
      · next hguarded => exact .abort l ws w failure (Bool.eq_false_iff.2 hguarded)

/-- **A turn is one of the moves.** -/
theorem move_turn (table : Table) (c : Config) : Move table c (turn table c) := by
  obtain ⟨l, ws, phase⟩ := c
  cases phase with
  | loading id => exact move_begin l ws id
  | working a => exact move_work l ws a
  | answering answer =>
      cases ws with
      | nil => exact .rest l answer
      | cons w ws => exact move_resume l ws w answer

/-! ## Runs of turns -/

/-- **One moment leads to another** by some number of turns. -/
def Leads (table : Table) (c c' : Config) : Prop :=
  ∃ n, (turn table)^[n] c = c'

lemma Leads.refl (c : Config) : Leads table c c := ⟨0, rfl⟩

lemma Leads.turn {c c' : Config} (h : Leads table (turn table c) c') : Leads table c c' := by
  obtain ⟨n, hn⟩ := h
  exact ⟨n + 1, hn⟩

lemma Leads.trans {c c' c'' : Config} (h : Leads table c c') (h' : Leads table c' c'') :
    Leads table c c'' := by
  obtain ⟨n, rfl⟩ := h
  obtain ⟨k, rfl⟩ := h'
  exact ⟨k + n, Function.iterate_add_apply _ k n c⟩

/-- What every move keeps holds at every moment. -/
lemma iterate_invariant {P : Config → Prop} (hmove : ∀ c c', Move table c c' → P c → P c')
    {c : Config} (h : P c) (n : ℕ) : P ((turn table)^[n] c) := by
  induction n with
  | zero => exact h
  | succ n ih =>
      rw [Function.iterate_succ_apply']
      exact hmove _ _ (move_turn table _) ih

/-- What has happened is not taken back. -/
lemma events_prefix_of_move {c c' : Config} (h : Move table c c') :
    c.loader.events <+: c'.loader.events := by
  cases h <;> simp

lemma events_prefix_iterate (table : Table) (c : Config) (n : ℕ) :
    c.loader.events <+: ((turn table)^[n] c).loader.events :=
  iterate_invariant (P := fun c' => c.loader.events <+: c'.loader.events)
    (fun _ _ hmove h => h.trans (events_prefix_of_move hmove)) List.prefix_rfl n

lemma events_prefix_succ (table : Table) (c : Config) (n : ℕ) :
    ((turn table)^[n] c).loader.events <+: ((turn table)^[n + 1] c).loader.events := by
  rw [Function.iterate_succ_apply']
  exact events_prefix_of_move (move_turn table _)

lemma Leads.keeps_events {c c' : Config} (h : Leads table c c') :
    c.loader.events <+: c'.loader.events := by
  obtain ⟨n, rfl⟩ := h
  exact events_prefix_iterate table c n

/-- What every turn keeps **as long as the counts fit** is kept by every turn, with that proviso. -/
lemma turn_of_fit {P : Config → Prop} (hturn : ∀ c, c.loader.CountsFit → P c → P (turn table c))
    (c : Config) (h : c.loader.CountsFit → P c) (hfit : (turn table c).loader.CountsFit) :
    P (turn table c) :=
  have hbefore := hfit.of_prefix (events_prefix_of_move (move_turn table c))
  hturn c hbefore (h hbefore)

lemma iterate_ended (answer : Answer) (n : ℕ) :
    (turn table)^[n] (ended [] answer) = ended [] answer :=
  Function.iterate_fixed rfl n

/-- From every moment of a loading the turns lead on to its answer. -/
lemma Leads.iterate {c : Config} {answer : Answer} (h : Leads table c (ended [] answer)) (n : ℕ) :
    Leads table ((Config.turn table)^[n] c) (ended [] answer) := by
  obtain ⟨k, hk⟩ := h
  refine ⟨k, ?_⟩
  rw [← Function.iterate_add_apply, Nat.add_comm, Function.iterate_add_apply, hk, iterate_ended]

/-- A loading comes to one answer only. -/
lemma Leads.unique {c : Config} {answer answer' : Answer}
    (h : Leads table c (ended [] answer)) (h' : Leads table c (ended [] answer')) :
    answer = answer' := by
  obtain ⟨n, hn⟩ := h
  obtain ⟨k, hk⟩ := h'.iterate n
  have hends : ended [] answer = ended [] answer' := by
    rw [← hk, hn, iterate_ended]
  exact Prod.ext (congrArg Config.loader hends) (Phase.answering.inj (congrArg Config.phase hends))

/-! ## The same loading -/

/-- What is to be loaded for a factory does not count as instantiating. -/
def Config.Asked (c : Config) : Prop :=
  ∀ id, c.phase = .loading id → c.loader.isInstantiating id = false

/-- A move turns to what does not count as instantiating, if it turns to a module at all. -/
lemma asked_of_move {c c' : Config} (h : Move table c c') : c'.Asked := by
  intro id hphase
  cases h with
  | wait l ws a w hmap hid hout =>
      cases hphase
      exact hout
  | _ => cases hphase

lemma count_eq_zero_of_out {l : Loader} {id : String} (hcache : l.cache.get? id = none)
    (hout : l.isInstantiating id = false) : l.count id = 0 := by
  rw [Loader.isInstantiating, (OrderedMap.contains_eq_false_iff _ _).2 hcache] at hout
  simpa using hout

/-- To enter a module whose count is zero leaves it no longer at zero, and all others alone. -/
lemma count_eq_zero_of_enter {l : Loader} {id id' : String} (hcount : l.count id = 0)
    (h : (l.enter id).count id' = 0) : id ≠ id' ∧ l.count id' = 0 := by
  by_cases heq : id = id'
  · rw [← heq, count_enter_of_eq_zero hcount] at h
    cases h
  · rw [count_enter, if_neg heq] at h
    exact ⟨heq, h⟩

/-- No count comes down to zero for what a factory asks for. -/
lemma count_eq_zero_of_move {c c' : Config} (hmove : Move table c c') (hasked : c.Asked)
    {id : String} (h : c'.loader.count id = 0) : c.loader.count id = 0 := by
  cases hmove with
  | enter l ws id' m hcache htable =>
      exact (count_eq_zero_of_enter (count_eq_zero_of_out hcache (hasked id' rfl)) h).2
  | _ => exact h

/-- What has a count of zero had one before, since only modules with such a count are entered. -/
lemma count_eq_zero_of_leads {c c' : Config} (hleads : Leads table c c') (hasked : c.Asked)
    {id : String} (h : c'.loader.count id = 0) : c.loader.count id = 0 := by
  let P (d : Config) : Prop := d.Asked ∧ (d.loader.count id = 0 → c.loader.count id = 0)
  have hmove : ∀ d d', Move table d d' → P d → P d' := fun d d' hmove hd =>
    ⟨asked_of_move hmove, fun hzero => hd.2 (count_eq_zero_of_move hmove hd.1 hzero)⟩
  obtain ⟨n, rfl⟩ := hleads
  exact (iterate_invariant hmove ⟨hasked, fun hzero => hzero⟩ n).2 h

/-- **How many modules of the table have a count of zero.** -/
def uncounted (table : Table) (l : Loader) : ℕ :=
  table.modules.keys.countP fun id => l.count id = 0

lemma uncounted_congr {l l' : Loader} (h : l.counts = l'.counts) :
    uncounted table l = uncounted table l' := by
  unfold uncounted Loader.count Loader.stored
  rw [h]

/-- No turn adds to the modules with a count of zero. -/
lemma uncounted_le_of_leads {c c' : Config} (h : Leads table c c') (hasked : c.Asked) :
    uncounted table c'.loader ≤ uncounted table c.loader := by
  refine List.countP_mono_left fun id _ hid => ?_
  simp only [decide_eq_true_eq] at hid ⊢
  exact count_eq_zero_of_leads h hasked hid

/-- A list has more members with a weaker property, if one of them shows the difference. -/
lemma countP_lt_countP {α : Type} {p q : α → Bool} {xs : List α} (hpq : ∀ x, p x → q x) {x : α}
    (hmem : x ∈ xs) (hp : p x = false) (hq : q x = true) : xs.countP p < xs.countP q := by
  obtain ⟨before, after, rfl⟩ := List.append_of_mem hmem
  have hbefore := List.countP_mono_left (l := before) fun x _ => hpq x
  have hafter := List.countP_mono_left (l := after) fun x _ => hpq x
  rw [List.countP_append, List.countP_append, List.countP_cons_of_neg (by simp [hp]),
    List.countP_cons_of_pos hq]
  omega

/-- Entering a module with a count of zero leaves one fewer of them. -/
lemma uncounted_enter_lt {l : Loader} {id : String} (hmem : id ∈ table.modules.keys)
    (hcount : l.count id = 0) : uncounted table (l.enter id) < uncounted table l := by
  refine countP_lt_countP (fun x hx => ?_) hmem ?_ (by simp [hcount])
  · rw [decide_eq_true_eq] at hx ⊢
    exact (count_eq_zero_of_enter hcount hx).2
  · simp [count_enter_of_eq_zero hcount]

lemma uncounted_le_size (table : Table) (l : Loader) : uncounted table l ≤ table.size := by
  have hle : uncounted table l ≤ table.modules.keys.length := List.countP_le_length
  rwa [OrderedMap.keys_eq_map, List.length_map] at hle

/-- What the depth of a loading has to allow for. -/
def Enough (table : Table) (depth : ℕ) (id : String) (l : Loader) : Prop :=
  0 < depth ∧ (id ∈ table.modules.keys → l.cache.get? id = none →
    uncounted table (l.enter id) + 2 ≤ depth)

/-- What the answer of a factory makes of its loading. -/
def conclude (id : String) : Answer → Answer
  | (next, .ok exports) => (next.keep id exports, .ok exports)
  | (next, .error failure) =>
      (next.note (.left id none), .error { failure with within := id :: failure.within })

lemma instantiate_eq (load : String → Loader → Answer) (id : String) (m : TableModule)
    (l : Loader) :
    instantiate load id m l
      = conclude id (runSteps (requireBy load id m.importMap) m.steps .initial (l.enter id)) := by
  rw [instantiate]
  rcases runSteps (requireBy load id m.importMap) m.steps .initial (l.enter id) with ⟨next, _ | _⟩
    <;> rfl

namespace Config

/-- A factory gets the answer to a requirement. -/
def receive (ws : List Waiting) (a : Activation) (slot : String) (guarded : Bool) :
    Answer → Config
  | (l, .ok exports) => ⟨l, ws, .working (a.bind slot exports)⟩
  | (l, .error failure) => fault l ws a guarded failure

end Config

/-- A target that can be loaded from a requirement leaves depth enough for the loading. -/
lemma enough_of_uncounted {depth : ℕ} {target : String} {l : Loader}
    (hdepth : uncounted table l + 1 ≤ depth) (hout : l.isInstantiating target = false) :
    Enough table depth target l := by
  refine ⟨by omega, fun hmem hcache => ?_⟩
  have hlt : uncounted table (l.enter target) < uncounted table l :=
    uncounted_enter_lt hmem (count_eq_zero_of_out hcache hout)
  omega

section Depth

variable {depth : ℕ}
  (hload : ∀ target l ws, Enough table depth target l →
    Leads table ⟨l, ws, .loading target⟩ (ended ws (loadWithin table depth target l)))
include hload

/-- A requirement comes to the answer of `requireBy`. -/
lemma leads_ask {l : Loader} (hdepth : uncounted table l + 1 ≤ depth) (ws : List Waiting)
    (a : Activation) (specifier slot : String) (guarded : Bool) :
    Leads table (Config.ask l ws a specifier slot guarded)
      (Config.receive ws a slot guarded
        (requireBy (loadWithin table depth) a.id a.importMap specifier l)) := by
  rw [Config.ask, requireBy]
  cases hmap : a.importMap.get? specifier with
  | none => exact .refl _
  | some target =>
      cases hin : l.isInstantiating target with
      | true =>
          simp only [hin, ↓reduceIte]
          exact .refl _
      | false =>
          simp only [hin, Bool.false_eq_true, ↓reduceIte]
          have hanswer := hload target l (⟨a, specifier, slot, target, guarded⟩ :: ws)
            (enough_of_uncounted hdepth hin)
          refine hanswer.trans (.turn ?_)
          rcases loadWithin table depth target l with ⟨next, _ | _⟩ <;> exact .refl _

/-- A requirement of a factory brings no count down to zero. -/
lemma uncounted_requireBy_le {l : Loader} (hdepth : uncounted table l + 1 ≤ depth) (id : String)
    (importMap : OrderedMap String String) (specifier : String) :
    uncounted table (requireBy (loadWithin table depth) id importMap specifier l).1
      ≤ uncounted table l := by
  have hasked : ∀ a slot, (Config.ask l [] a specifier slot false).loader.counts = l.counts := by
    intro a slot
    rw [Config.ask]
    split
    · rfl
    · split <;> rfl
  have hcalm : ∀ a slot, (Config.ask l [] a specifier slot false).Asked := fun a slot =>
    asked_of_move (@move_ask table l [] a a.steps specifier slot false)
  have hreceived : ∀ a slot answer,
      (Config.receive [] a slot false answer).loader.counts = answer.1.counts := by
    rintro a slot ⟨next, _ | _⟩ <;> rfl
  have hle := uncounted_le_of_leads
    (leads_ask hload hdepth [] ⟨id, importMap, [], .initial⟩ specifier "" false) (hcalm _ _)
  rwa [uncounted_congr (hasked _ _), uncounted_congr (hreceived _ _ _)] at hle

/-- **The steps of a factory** come to what `runSteps` makes of them. -/
lemma leads_steps (id : String) (importMap : OrderedMap String String) (ws : List Waiting)
    (steps : List Step) (f : Loader.Frame) {l : Loader} (hdepth : uncounted table l + 1 ≤ depth) :
    Leads table ⟨l, ws, .working ⟨id, importMap, steps, f⟩⟩
      (ended ws (conclude id
        (runSteps (requireBy (loadWithin table depth) id importMap) steps f l))) := by
  induction steps generalizing f l with
  | nil => exact .turn (.refl _)
  | cons step rest ih =>
      refine .turn ?_
      cases step with
      | require specifier slot =>
          -- The later steps have the same depth, because no count has come down to zero.
          have hask := leads_ask hload hdepth ws ⟨id, importMap, rest, f⟩ specifier slot false
          have hless := uncounted_requireBy_le hload hdepth id importMap specifier
          refine hask.trans ?_
          rw [runSteps]
          rcases hanswer : requireBy (loadWithin table depth) id importMap specifier l with
            ⟨next, failure | exports⟩ <;> rw [hanswer] at hless
          · exact .refl _
          · exact ih _ (Nat.le_trans (Nat.succ_le_succ hless) hdepth)
      | tryRequire specifier slot =>
          have hask := leads_ask hload hdepth ws ⟨id, importMap, rest, f⟩ specifier slot true
          have hless := uncounted_requireBy_le hload hdepth id importMap specifier
          refine hask.trans ?_
          rw [runSteps]
          rcases hanswer : requireBy (loadWithin table depth) id importMap specifier l with
            ⟨next, failure | exports⟩ <;> rw [hanswer] at hless
          · exact ih _ (Nat.le_trans (Nat.succ_le_succ hless) hdepth)
          · exact ih _ (Nat.le_trans (Nat.succ_le_succ hless) hdepth)
      | say text => exact ih f hdepth
      | exhibit slot => exact ih f hdepth
      | publish name value => exact ih _ hdepth
      | publishFrom name slot property => exact ih _ hdepth
      | replace slot => exact ih _ hdepth
      | fail message => exact .refl _

end Depth

/-- **A loading of enough depth** comes to its answer. -/
theorem leads_loadWithin (depth : ℕ) (id : String) (l : Loader) (ws : List Waiting)
    (henough : Enough table depth id l) :
    Leads table ⟨l, ws, .loading id⟩ (ended ws (loadWithin table depth id l)) := by
  induction depth generalizing id l ws with
  | zero => exact absurd henough.1 (Nat.lt_irrefl 0)
  | succ depth ih =>
      refine .turn ?_
      change Leads table (Config.begin table l ws id) _
      rw [Config.begin, loadWithin]
      cases hcache : l.cache.get? id with
      | some exports => exact .refl _
      | none =>
          cases htable : table.get? id with
          | none => exact .refl _
          | some m =>
              have hdepth := henough.2 (OrderedMap.mem_keys_of_get? htable) hcache
              simp only [instantiate_eq]
              exact leads_steps (fun target l ws henough => ih target l ws henough) id m.importMap
                ws m.steps .initial (by omega)

/-- **The turns that begin with loading a module end with the answer of `load`.** -/
theorem leads_load (table : Table) (id : String) (l : Loader) :
    Leads table ⟨l, [], .loading id⟩ (ended [] (load table id l)) := by
  exact leads_loadWithin _ id l []
    ⟨Nat.succ_pos _, fun _ _ => Nat.add_le_add_right (uncounted_le_size table _) 2⟩

/-- What holds when a loading begins and is kept by every turn holds when it has its answer. -/
lemma ended_induction {P : Config → Prop} {l : Loader} {id : String}
    (hstart : P ⟨l, [], .loading id⟩) (hturn : ∀ c, P c → P (turn table c)) :
    P (ended [] (load table id l)) := by
  obtain ⟨n, hn⟩ := leads_load table id l
  rw [← hn]
  exact Function.Iterate.rec P hstart hturn n

/-- The same for what is kept as long as the counts fit. -/
lemma ended_induction_of_fit {P : Config → Prop} {l : Loader} {id : String}
    (hstart : P ⟨l, [], .loading id⟩) (hturn : ∀ c, c.loader.CountsFit → P c → P (turn table c))
    (hfit : (load table id l).1.CountsFit) : P (ended [] (load table id l)) :=
  ended_induction (P := fun c => c.loader.CountsFit → P c) (fun _ => hstart) (turn_of_fit hturn)
    hfit

end ModuleBundler.Loading
