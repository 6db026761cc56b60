import ModuleBundler.Proofs.Loading.Chains

/-!
# Published exports are final

A factory publishes the exports of its module when it returns.  The loader puts them into its cache
without a look at what is there already, after the factory has had other modules loaded, and these
others in turn.

**Later moments.**  `Later` goes through the rest of the life of a loader: on through the turns of
a loading, and from its end to any further loading.

**Nothing happens to them.**  As long as the counts fit, a module that has exports in the cache is
not running.  It does not count as instantiating and is not entered, so no move can touch its
exports (`Recorded.final_move`).  They stay in the cache, and they are the answer to everything that
asks for them (`Final`).

**Once only.**  The entries of the cache are what the factories have returned, in order, so no
factory returns for a module that has its exports already.
-/

namespace ModuleBundler.Loading

open Config (ended turn)
open Loader (load requireBy)

/-- **The later moments** in the life of a loader: those of the loading that is under way, and then
    those of any further ones. -/
inductive Later (table : Table) (c : Config) : Config → Prop
  | same : Later table c c
  | turn {c' : Config} (h : Later table c c') : Later table c (turn table c')
  | again {l : Loader} {answer : Except Failure Exports} (id : String)
      (h : Later table c ⟨l, [], .answering answer⟩) : Later table c ⟨l, [], .loading id⟩

/-- The event leaves the exports of a module alone: its factory is not entered and does not end,
    and a requirement of it is answered with these exports. -/
def Event.Respects (m : String) (exports : Exports) : Event → Prop
  | .entered id => id ≠ m
  | .left id _ => id ≠ m
  | .answered _ _ target standIn given => target = m → standIn = false ∧ given = exports
  | .said _ => True

/-- **The exports of a module are final** from one moment to another. -/
structure Final (m : String) (exports : Exports) (c c' : Config) : Prop where
  cached : c'.loader.cache.get? m = some exports
  count : c'.loader.count m = c.loader.count m
  events : ∃ after, c'.loader.events = c.loader.events ++ after
    ∧ ∀ e ∈ after, e.Respects m exports

variable {table : Table} {m : String} {exports : Exports}

namespace Final

lemma refl {c : Config} (h : c.loader.cache.get? m = some exports) : Final m exports c c where
  cached := h
  count := rfl
  events := ⟨[], by simp⟩

lemma trans {c c' c'' : Config} (h : Final m exports c c') (h' : Final m exports c' c'') :
    Final m exports c c'' where
  cached := h'.cached
  count := h'.count.trans h.count
  events := by
    obtain ⟨after, hevents, hafter⟩ := h.events
    obtain ⟨after', hevents', hafter'⟩ := h'.events
    refine ⟨after ++ after', by rw [hevents', hevents, List.append_assoc], fun e he => ?_⟩
    exact (List.mem_append.1 he).elim (hafter e) (hafter' e)

/-- Nothing was noted. -/
lemma still {c c' : Config} (h : c.loader.cache.get? m = some exports)
    (hloader : c'.loader = c.loader) : Final m exports c c' where
  cached := by rw [hloader, h]
  count := by rw [hloader]
  events := ⟨[], by simp [hloader]⟩

/-- One event was noted. -/
lemma noted {c c' : Config} {e : Event} (hcached : c'.loader.cache.get? m = some exports)
    (hcount : c'.loader.count m = c.loader.count m)
    (hevents : c'.loader.events = c.loader.events ++ [e]) (he : e.Respects m exports) :
    Final m exports c c' where
  cached := hcached
  count := hcount
  events := ⟨[e], hevents, List.forall_mem_singleton.2 he⟩

end Final

lemma contains_of_cached {l : Loader} (h : l.cache.get? m = some exports) :
    l.cache.contains m = true :=
  (OrderedMap.contains_iff_mem_keys _ _).2 (OrderedMap.mem_keys_of_get? h)

lemma isInstantiating_of_cached {l : Loader} (h : l.cache.get? m = some exports) :
    l.isInstantiating m = false := by
  rw [Loader.isInstantiating, contains_of_cached h, Bool.not_true, Bool.and_false]

/-- **No move touches exports** that are in the cache. -/
theorem Recorded.final_move {c c' : Config} (hmove : Move table c c') (h : Recorded table c)
    (hm : c.loader.cache.get? m = some exports) : Final m exports c c' := by
  have hidle : ∀ id ∈ c.running, id ≠ m := by
    rintro id hid rfl
    have huncached := h.sound.uncached id hid
    rw [contains_of_cached hm] at huncached
    cases huncached
  cases hmove with
  | cached l ws id exports' hcache => exact .still hm rfl
  | miss l ws id hcache htable => exact .still hm rfl
  | enter l ws id module hcache htable =>
      have hne : id ≠ m := by
        rintro rfl
        rw [hcache] at hm
        cases hm
      refine .noted hm ?_ (events_enter l id) hne
      rw [count_enter, if_neg hne]
  | leave l ws a hsteps =>
      have hne : a.id ≠ m := hidle a.id (List.mem_cons_self ..)
      refine .noted ?_ rfl (events_keep l a.id a.frame.exports) hne
      rw [cache_keep, OrderedMap.get?_insert, if_neg hne]
      exact hm
  | compute l ws a a' hid => exact .still hm rfl
  | speak l ws a a' text hid => exact .noted hm rfl (events_note l _) trivial
  | standIn l ws a a' specifier target hmap hid hin =>
      refine .noted hm rfl (events_note l _) fun heq => ?_
      rw [heq, isInstantiating_of_cached hm] at hin
      cases hin
  | wait l ws a w hmap hid hout => exact .still hm rfl
  | fail l ws a problem =>
      exact .noted hm rfl (events_note l _) (hidle a.id (List.mem_cons_self ..))
  | answer l ws w exports' =>
      refine .noted hm rfl (events_note l _) fun heq => ⟨rfl, ?_⟩
      have hanswer := h.get?_of_answering rfl rfl
      rw [heq, hm] at hanswer
      exact (Option.some.inj hanswer).symm
  | recover l ws w failure hguarded => exact .noted hm rfl (events_note l _) trivial
  | abort l ws w failure hguarded =>
      exact .noted hm rfl (events_note l _) (hidle w.activation.id (List.mem_cons_self ..))
  | rest l answer => exact .still hm rfl

/-- **Exports in the cache are final** for the rest of the life of the loader, as long as the counts
    fit. -/
theorem Recorded.final_later {c c' : Config} (hlater : Later table c c')
    (hfit : c'.loader.CountsFit) (h : Recorded table c)
    (hm : c.loader.cache.get? m = some exports) : Recorded table c' ∧ Final m exports c c' := by
  induction hlater with
  | same => exact ⟨h, .refl hm⟩
  | @turn c' _ ih =>
      have hmove := move_turn table c'
      have hbefore := hfit.of_prefix (events_prefix_of_move hmove)
      obtain ⟨hrecorded, hfinal⟩ := ih hbefore
      exact ⟨hrecorded.turn_of_fit hbefore,
        hfinal.trans (hrecorded.final_move hmove hfinal.cached)⟩
  | again id _ ih =>
      obtain ⟨hrecorded, hfinal⟩ := ih hfit
      exact ⟨hrecorded.again id, hfinal.trans (.still hfinal.cached rfl)⟩

/-! ## Later loadings -/

lemma Later.iterate {c c' : Config} (h : Later table c c') (n : ℕ) :
    Later table c ((Config.turn table)^[n] c') := by
  induction n with
  | zero => exact h
  | succ n ih =>
      rw [Function.iterate_succ_apply']
      exact ih.turn

lemma Later.leads {c c' c'' : Config} (h : Later table c c') (hleads : Leads table c' c'') :
    Later table c c'' := by
  obtain ⟨n, rfl⟩ := hleads
  exact h.iterate n

/-- The moments of a loading are earlier than those of all further ones. -/
lemma later_loadAll (table : Table) (earlier : List String) (id : String) (n : ℕ)
    (more : List String) (next : String) (k : ℕ) :
    Later table ((turn table)^[n] ⟨loadAll table earlier, [], .loading id⟩)
      ((turn table)^[k] ⟨loadAll table (earlier ++ id :: more), [], .loading next⟩) := by
  refine .iterate ?_ k
  induction more using List.reverseRecOn generalizing next with
  | nil =>
      rw [loadAll_concat]
      exact (Later.same.leads ((leads_load table id _).iterate n)).again next
  | append_singleton more last ih =>
      rw [← List.cons_append, ← List.append_assoc, loadAll_concat]
      exact ((ih last).leads (leads_load table last _)).again next

/-! ## What asks for published exports -/

/-- A cached module is answered from the cache, and nothing changes. -/
lemma load_of_cached {l : Loader} (h : l.cache.get? m = some exports) :
    load table m l = (l, .ok exports) := by
  rw [load, Loader.loadWithin, h]

/-- To require a cached module notes the answer, and nothing else. -/
lemma requireBy_of_cached {l : Loader} (h : l.cache.get? m = some exports) (importer : String)
    {importMap : OrderedMap String String} {specifier : String}
    (hmap : importMap.get? specifier = some m) :
    requireBy (load table) importer importMap specifier l
      = (l.note (.answered importer specifier m false exports), .ok exports) := by
  rw [requireBy, hmap]
  simp only [isInstantiating_of_cached h, load_of_cached h]
  rfl

/-- A loading that succeeds has the exports in the cache. -/
lemma get?_of_load {l : Loader} (h : (load table m l).2 = .ok exports) :
    (load table m l).1.cache.get? m = some exports := by
  rw [load, Loader.loadWithin] at h ⊢
  cases hcache : l.cache.get? m with
  | some cached =>
      rw [hcache] at h
      cases h
      exact hcache
  | none =>
      simp only [hcache] at h ⊢
      cases hmodule : table.get? m with
      | none =>
          rw [hmodule] at h
          cases h
      | some module =>
          simp only [hmodule, instantiate_eq] at h ⊢
          rcases hsteps : Loader.runSteps _ module.steps .initial (l.enter m) with ⟨next, _ | given⟩
          · rw [hsteps] at h
            cases h
          · rw [hsteps] at h
            cases h
            exact (OrderedMap.get?_insert _ _ _ _).trans (if_pos rfl)

/-- **What holds of the exports** that the factory of a module has returned, from one moment to a
    later one: they are final, to load the module then gives them and changes nothing, and to
    require it does so but for noting the answer. -/
structure Published (table : Table) (m : String) (exports : Exports) (c c' : Config) : Prop where
  final : Final m exports c c'
  load : load table m c'.loader = (c'.loader, .ok exports)
  require : ∀ importer importMap specifier, importMap.get? specifier = some m →
    requireBy (Loader.load table) importer importMap specifier c'.loader
      = (c'.loader.note (.answered importer specifier m false exports), .ok exports)

/-- **Published exports are final.**  Take any moment of any loading, after any earlier ones on the
    same loader, in the course of which no factory is entered 2^32 times.  The entries of the cache
    are what the factories have returned, in order, and no module is among them twice.  Every moment
    of any further loadings is a later one.  A loading that succeeds answers with exports that the
    factory of its module has returned.  And at every moment after a factory has returned, as long
    as the counts fit, the exports are still in the cache and the count of the module is the same;
    since then the factory has not been entered and not ended, and every requirement of the module
    was answered with these exports.  To load the module then gives them and changes nothing, and to
    require it does so but for noting the answer. -/
theorem published_exports_final (table : Table) (earlier : List String) (id : String) (n : ℕ)
    (hfit : (loadAll table (earlier ++ [id])).CountsFit) :
    let c := (turn table)^[n] ⟨loadAll table earlier, [], .loading id⟩
    c.loader.cache.toList = returns c.loader
      ∧ ((returns c.loader).map Prod.fst).Nodup
      ∧ (∀ more next k,
          Later table c
            ((turn table)^[k] ⟨loadAll table (earlier ++ id :: more), [], .loading next⟩))
      ∧ (∀ exports, (load table id (loadAll table earlier)).2 = .ok exports →
          .left id (some exports) ∈ (load table id (loadAll table earlier)).1.events)
      ∧ ∀ m exports, .left m (some exports) ∈ c.loader.events →
          ∀ c', Later table c c' → c'.loader.CountsFit → Published table m exports c c' := by
  intro c
  have hrecorded : Recorded table c := .moment (hfit.moment n)
  refine ⟨hrecorded.cached, ?_, later_loadAll table earlier id n, fun exports hok => ?_, ?_⟩
  · rw [← hrecorded.cached]
    exact c.loader.cache.keys_nodup
  · have hstart : Recorded table ⟨loadAll table earlier, [], .loading id⟩ :=
      .moment (n := 0) (hfit.moment 0)
    rw [loadAll_concat] at hfit
    have hended : Recorded table (ended [] (load table id (loadAll table earlier))) :=
      ended_induction_of_fit hstart (fun c hfit h => h.turn_of_fit hfit) hfit
    exact (hended.kept id exports).1 (get?_of_load hok)
  · intro m exports hleft c' hlater hfit'
    obtain ⟨-, hfinal⟩ := hrecorded.final_later hlater hfit' ((hrecorded.kept m exports).2 hleft)
    exact ⟨hfinal, load_of_cached hfinal.cached, fun importer importMap specifier hmap =>
      requireBy_of_cached hfinal.cached importer hmap⟩

/-- A module that requires another one, and fails afterwards. -/
def publishingTable : Table :=
  ((Table.new "a").insert "b" ⟨.empty, [.publish "x" (.int 1)]⟩).insert "a"
    ⟨.ofList [("./b", "b")], [.require "./b" "b", .fail "boom"]⟩

/-- What is published inside a factory that fails stays published: the failing module is entered
    again by the third loading, and the one that it requires is not. -/
theorem published_exports_final_retried :
    (loadAll publishingTable ["a", "b", "a"]).CountsFit
      ∧ (loadAll publishingTable ["a", "b", "a"]).count "a" = 2
      ∧ (loadAll publishingTable ["a", "b", "a"]).count "b" = 1
      ∧ ∃ exports, load publishingTable "b" (loadAll publishingTable ["a", "b", "a"])
          = (loadAll publishingTable ["a", "b", "a"], .ok exports) := by
  have hfit : (loadAll publishingTable (["a", "b", "a"])).CountsFit :=
    .of_length (by decide +kernel)
  have hfirst : (loadAll publishingTable ([] ++ ["a"])).CountsFit := .of_length (by decide +kernel)
  obtain ⟨hcache, -, hlater, -, hpublished⟩ :=
    published_exports_final publishingTable [] "a" 10 hfirst
  -- After ten turns the first loading has ended, and the second module is in the cache.
  have hkept : "b" ∈ ((turn publishingTable)^[10] ⟨loadAll publishingTable [], [],
      .loading "a"⟩).loader.cache.keys := by
    decide +kernel
  obtain ⟨exports, hexports⟩ := OrderedMap.exists_get?_of_mem_keys hkept
  rw [OrderedMap.get?_eq_some_iff_mem, hcache, mem_returns_iff] at hexports
  have hfinal := hpublished "b" exports hexports _ (hlater ["b", "a"] "b" 0) hfit
  exact ⟨hfit, by decide +kernel, by decide +kernel, exports, hfinal.load⟩

end ModuleBundler.Loading
