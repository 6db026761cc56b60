import Mathlib.Data.List.Induction
import Mathlib.Data.List.Nodup
import ModuleBundler.Proofs.Loading.Running

/-!
# How often factories are entered

A factory is entered for two reasons: another factory requires its module, or its module is loaded
from outside.

**Requirements.**  What a factory requires is loaded only if it has its exports or its count is
zero; anything else is answered with a stand-in (`Tallied.asked`).  So, as long as the counts fit,
no requirement enters a factory that was entered before.

**Loadings from outside.**  A module whose factory failed is entered again each time that it is
loaded again.  `reloads` counts these loadings, and they are all that is entered more than once
(`Counted.tally`).  So the counts fit if there are fewer than 2^32 loadings (`countsFit_loadAll`),
and no factory is entered twice as long as no earlier loading has seen one fail, whatever fails in
the course of the present one.
-/

namespace ModuleBundler.Loading

open Config (ended turn)
open Loader (load)

variable {table : Table}

/-! ## Loadings that enter again -/

/-- Whether loading a module of the table now would enter it again. -/
def Loader.Reenters (l : Loader) (id : String) : Prop :=
  id ∈ enterings l ∧ l.cache.contains id = false

instance (l : Loader) (id : String) : Decidable (l.Reenters id) :=
  inferInstanceAs (Decidable (_ ∧ _))

/-- **How often a module was loaded again**: the loadings of it that found it entered, and without
    exports. -/
def reloads (table : Table) (id : String) (ids : List String) : ℕ :=
  (List.range ids.length).countP fun i =>
    decide (ids[i]? = some id ∧ (loadAll table (ids.take i)).Reenters id)

/-- A further loading is tallied for its own module, and only if it enters that one again. -/
lemma reloads_concat (ids : List String) (id m : String) :
    reloads table m (ids ++ [id])
      = reloads table m ids + if id = m ∧ (loadAll table ids).Reenters m then 1 else 0 := by
  rw [reloads, List.length_append, List.length_singleton, List.range_succ, List.countP_append]
  congr 1
  · refine List.countP_congr fun i hi => ?_
    have hlt : i < ids.length := List.mem_range.1 hi
    rw [List.getElem?_append_left hlt, List.take_append_of_le_length (Nat.le_of_lt hlt)]
  · rw [List.countP_singleton]
    simp

/-- The first loading of all finds nothing entered. -/
lemma reloads_concat_le (ids : List String) (id m : String) :
    reloads table m (ids ++ [id]) ≤ ids.length := by
  induction ids using List.reverseRecOn generalizing id with
  | nil =>
      have hfresh : ¬ (loadAll table []).Reenters m := fun h => by cases h.1
      rw [reloads_concat, if_neg fun h => hfresh h.2]
      exact Nat.le_refl 0
  | append_singleton ids last ih =>
      have hlast := ih last
      rw [reloads_concat, List.length_append, List.length_singleton]
      split <;> omega

/-! ## The tally -/

/-- **How it comes about** that factories were entered, given how often each of them was entered
    over and above the first time. -/
structure Counted (table : Table) (again : String → ℕ) (l : Loader) : Prop where
  listed : ∀ id ∈ enterings l, id ∈ table.modules.keys
  tally : ∀ id, (enterings l).count id = (if id ∈ enterings l then 1 else 0) + again id

/-- **What holds at every moment** of a loading but the first one. -/
structure Tallied (table : Table) (again : String → ℕ) (c : Config) : Prop where
  counted : Counted table again c.loader
  /-- What is to be loaded is required, and has its exports or a count of zero. -/
  asked : ∀ id, c.phase = .loading id → c.waiting ≠ [] ∧ c.loader.isInstantiating id = false

namespace Counted

variable {again again' : String → ℕ} {l l' : Loader}

lemma fresh : Counted table (fun id => reloads table id []) .fresh where
  listed id hid := by cases hid
  tally id := rfl

lemma still (h : Counted table again l) (henterings : enterings l' = enterings l) :
    Counted table again l' where
  listed := henterings ▸ h.listed
  tally id := by rw [henterings, h.tally]

/-- The counts fit if no factory was entered too often over and above the first time. -/
lemma countsFit (h : Counted table again l) (hfew : ∀ id, again id + 1 < UInt32.size) :
    l.CountsFit := by
  intro id
  have htally := h.tally id
  have hagain := hfew id
  split at htally <;> omega

/-- A factory is entered, for the first time or again. -/
lemma enter {id : String} {m : TableModule} (h : Counted table again l)
    (htable : table.get? id = some m)
    (hagain : ∀ id', again' id' = again id' + if id = id' ∧ id' ∈ enterings l then 1 else 0) :
    Counted table again' (l.enter id) where
  listed id' hid' := by
    rw [enterings_enter, List.mem_append, List.mem_singleton] at hid'
    rcases hid' with hid' | rfl
    · exact h.listed id' hid'
    · exact OrderedMap.mem_keys_of_get? htable
  tally id' := by
    rw [hagain, enterings_enter, List.count_append, List.count_singleton, h.tally]
    by_cases heq : id = id'
    · subst heq
      by_cases hmem : id ∈ enterings l
      · simp [hmem, Nat.add_assoc]
      · simp [hmem, Nat.add_comm]
    · simp [heq, Ne.symm heq]

end Counted

namespace Tallied

variable {again : String → ℕ}

lemma still {c c' : Config} (h : Tallied table again c)
    (henterings : enterings c'.loader = enterings c.loader)
    (hasked : ∀ id, c'.phase = .loading id →
      c'.waiting ≠ [] ∧ c'.loader.isInstantiating id = false) : Tallied table again c' where
  counted := h.counted.still henterings
  asked := hasked

/-- **What is entered was never entered before**, as long as the counts fit. -/
lemma not_mem_enterings {c : Config} (h : Tallied table again c) (hsound : Sound c)
    (hfit : c.loader.CountsFit) {id : String} (hphase : c.phase = .loading id)
    (hcache : c.loader.cache.get? id = none) : id ∉ enterings c.loader := by
  have hzero := count_eq_zero_of_out hcache (h.asked id hphase).2
  rw [← List.count_eq_zero, ← hsound.count_eq hfit, hzero]

/-- **Every move keeps the tally**, as long as the counts fit. -/
theorem move {c c' : Config} (hmove : Move table c c') (hsound : Sound c)
    (hfit : c.loader.CountsFit) (h : Tallied table again c) : Tallied table again c' := by
  cases hmove with
  | enter l ws id m hcache htable =>
      have hnew := h.not_mem_enterings hsound hfit rfl hcache
      refine ⟨h.counted.enter htable fun id' => ?_, by simp⟩
      rw [if_neg, Nat.add_zero]
      rintro ⟨rfl, hmem⟩
      exact hnew hmem
  | wait l ws a w hmap hid hout =>
      refine h.still rfl fun id hphase => ⟨by simp, ?_⟩
      cases hphase
      exact hout
  | _ => exact h.still (by simp [enterings, Event.entered?]) (by simp)

/-- What the next turn enters is entered for a requirement, and for the first time. -/
lemma entered_of_events {c c' : Config} (h : Tallied table again c) (hsound : Sound c)
    (hfit : c.loader.CountsFit) (hmove : Move table c c') {id : String}
    (hevents : c'.loader.events = c.loader.events ++ [.entered id]) :
    c.waiting ≠ [] ∧ id ∉ enterings c.loader := by
  cases hmove with
  | enter l ws id' m hcache htable =>
      simp only [events_enter, List.append_cancel_left_eq, List.cons.injEq, Event.entered.injEq]
        at hevents
      rw [← hevents.1]
      exact ⟨(h.asked id' rfl).1, h.not_mem_enterings hsound hfit rfl hcache⟩
  | _ => simp at hevents

/-- **The first turn** of a loading enters a factory again exactly if the loading counts as one
    that does. -/
lemma begin (earlier : List String) (id : String)
    (h : Counted table (fun m => reloads table m earlier) (loadAll table earlier)) :
    Tallied table (fun m => reloads table m (earlier ++ [id]))
      (turn table ⟨loadAll table earlier, [], .loading id⟩) := by
  have hkept (hnot : ¬ (loadAll table earlier).Reenters id) :
      (fun m => reloads table m (earlier ++ [id])) = fun m => reloads table m earlier := by
    funext m
    rw [reloads_concat, if_neg, Nat.add_zero]
    rintro ⟨rfl, hreenters⟩
    exact hnot hreenters
  change Tallied table _ (Config.begin table (loadAll table earlier) [] id)
  rw [Config.begin]
  cases hcache : (loadAll table earlier).cache.get? id with
  | some exports =>
      rw [hkept fun hreenters => ?_]
      · exact ⟨h, by simp⟩
      · rw [(OrderedMap.contains_eq_false_iff _ _).1 hreenters.2] at hcache
        cases hcache
  | none =>
      cases htable : table.get? id with
      | none =>
          rw [hkept fun hreenters => ?_]
          · exact ⟨h, by simp⟩
          · exact (OrderedMap.get?_eq_none_iff _ _).1 htable (h.listed id hreenters.1)
      | some m =>
          refine ⟨h.enter htable fun id' => ?_, by simp⟩
          rw [reloads_concat]
          have huncached := (OrderedMap.contains_eq_false_iff _ _).2 hcache
          by_cases heq : id = id'
          · subst heq
            simp [Loader.Reenters, huncached]
          · simp [heq]

/-- **The tally at every moment** of a loading, if the counts fitted at the moment before. -/
lemma moment {earlier : List String} {id : String}
    (hcounted : Counted table (fun m => reloads table m earlier) (loadAll table earlier)) (n : ℕ)
    (hfit : ((turn table)^[n] ⟨loadAll table earlier, [], .loading id⟩).loader.CountsFit) :
    Tallied table (fun m => reloads table m (earlier ++ [id]))
      ((turn table)^[n + 1] ⟨loadAll table earlier, [], .loading id⟩) := by
  induction n with
  | zero => exact .begin earlier id hcounted
  | succ n ih =>
      have hbefore := ih (hfit.of_prefix (events_prefix_succ table _ n))
      have hnext := hbefore.move (move_turn table _) (.moment (n + 1) hfit) hfit
      rwa [← Function.iterate_succ_apply' (turn table)] at hnext

end Tallied

/-- The tally between the loadings of a sequence. -/
theorem counted_loadAll {ids : List String} (hfit : (loadAll table ids).CountsFit) :
    Counted table (fun m => reloads table m ids) (loadAll table ids) := by
  induction ids using List.reverseRecOn with
  | nil => exact .fresh
  | append_singleton ids id ih =>
      obtain ⟨n, hn⟩ := leads_load table id (loadAll table ids)
      have htallied := Tallied.moment (ih (hfit.moment 0)) n (hfit.moment n)
      rw [Function.iterate_succ_apply', hn] at htallied
      rw [loadAll_concat]
      exact htallied.counted

/-! ## Why the counts fit -/

/-- **The counts fit** if no module was loaded again too often. -/
lemma countsFit_of_reloads {ids : List String}
    (hfew : ∀ id, reloads table id ids + 1 < UInt32.size) : (loadAll table ids).CountsFit := by
  induction ids using List.reverseRecOn with
  | nil => exact .of_length (by simp [loadAll, Loader.fresh, enterings])
  | append_singleton ids id ih =>
      have hbefore : (loadAll table ids).CountsFit := ih fun m => by
        have hm := hfew m
        rw [reloads_concat] at hm
        omega
      obtain ⟨n, hn⟩ := leads_load table id (loadAll table ids)
      -- The tally of one moment says that the counts fit at it, which gives that of the next one.
      have hfit : ((turn table)^[n] ⟨loadAll table ids, [], .loading id⟩).loader.CountsFit := by
        clear hn
        induction n with
        | zero => exact hbefore
        | succ n ihn =>
            exact (Tallied.moment (counted_loadAll hbefore) n ihn).counted.countsFit hfew
      rw [hn] at hfit
      rw [loadAll_concat]
      exact hfit

/-- The counts fit if nothing is loaded again. -/
lemma countsFit_of_reloads_eq_zero {ids : List String} (hnone : ∀ m, reloads table m ids = 0) :
    (loadAll table ids).CountsFit :=
  countsFit_of_reloads fun m => by
    rw [hnone]
    decide

/-- **The counts fit** in the course of fewer than 2^32 loadings. -/
theorem countsFit_loadAll {ids : List String} (hfew : ids.length < UInt32.size) :
    (loadAll table ids).CountsFit := by
  refine countsFit_of_reloads fun m => ?_
  induction ids using List.reverseRecOn with
  | nil => exact (by decide : 0 + 1 < UInt32.size)
  | append_singleton ids id =>
      have hle : reloads table m (ids ++ [id]) ≤ ids.length := reloads_concat_le ids id m
      rw [List.length_append, List.length_singleton] at hfew
      omega

/-- **What was entered has its exports** between two loadings, unless a factory has failed. -/
lemma not_reenters {ids : List String} (hfit : (loadAll table ids).CountsFit)
    (hreturned : ∀ m, .left m none ∉ (loadAll table ids).events) (id : String) :
    ¬ (loadAll table ids).Reenters id := by
  rintro ⟨hentered, huncached⟩
  rcases (Sound.start ids id hfit).running_or_abandoned hentered huncached with hrunning | hfailed
  · cases hrunning
  · exact hreturned id hfailed.1

/-- **Nothing is entered again** until a factory has failed, however many loadings there are. -/
lemma reloads_eq_zero {ids : List String}
    (hreturned : ∀ m, .left m none ∉ (loadAll table ids).events) :
    (loadAll table ids).CountsFit ∧ ∀ id m, reloads table m (ids ++ [id]) = 0 := by
  induction ids using List.reverseRecOn with
  | nil =>
      refine ⟨.of_length (by simp [loadAll, Loader.fresh, enterings]), fun id m => ?_⟩
      exact Nat.le_zero.1 (reloads_concat_le [] id m)
  | append_singleton ids last ih =>
      have hgrown : (loadAll table ids).events <+: (loadAll table (ids ++ [last])).events := by
        rw [loadAll_concat]
        exact (leads_load table last _).keeps_events
      obtain ⟨-, hnone⟩ := ih fun m hfailed => hreturned m (hgrown.subset hfailed)
      have hfit : (loadAll table (ids ++ [last])).CountsFit :=
        countsFit_of_reloads_eq_zero (hnone last)
      refine ⟨hfit, fun id m => ?_⟩
      rw [reloads_concat, hnone, if_neg fun h => not_reenters hfit hreturned m h.2]

/-- **How the counts add up** at a moment of a loading, after some earlier ones. -/
structure AddsUp (table : Table) (earlier : List String) (id : String) (c : Config) : Prop where
  /-- What is entered next is entered for a requirement, and was never entered before. -/
  next : ∀ m, (turn table c).loader.events = c.loader.events ++ [.entered m] →
    c.waiting ≠ [] ∧ m ∉ enterings c.loader
  /-- The count of a module is the number of times that its factory was entered. -/
  entered : ∀ m, c.loader.count m = (enterings c.loader).count m
  /-- That is once, and once more for every loading of it that found it entered and without
      exports. -/
  reloaded : ∀ m, c.loader.count m
    = (if m ∈ enterings c.loader then 1 else 0) + reloads table m (earlier ++ [id])
  /-- The same holds before the loading. -/
  before : ∀ m, (loadAll table earlier).count m
    = (if m ∈ enterings (loadAll table earlier) then 1 else 0) + reloads table m earlier

/-- **How often factories are entered.**  Take any moment of any loading after its first turn, after
    any earlier loadings on the same loader.  If no factory is entered 2^32 times, the counts add
    up: only loadings from outside enter a factory again.  This is so if there are fewer than 2^32
    loadings.  The moments end with the answer of the loading.  No factory is entered twice with a
    fresh loader, whatever fails and is caught on the way, nor as long as no factory has failed, nor
    in the first loading in which one does, however many loadings there are. -/
theorem count_eq_entered_add_reloads (table : Table) (earlier : List String) (id : String)
    (n : ℕ) :
    let c := (turn table)^[n + 1] ⟨loadAll table earlier, [], .loading id⟩
    ((loadAll table (earlier ++ [id])).CountsFit → AddsUp table earlier id c)
      ∧ (earlier.length + 1 < UInt32.size → (loadAll table (earlier ++ [id])).CountsFit)
      ∧ Leads table c (ended [] (load table id (loadAll table earlier)))
      ∧ (earlier = [] ∨ (∀ m, .left m none ∉ (loadAll table earlier).events) →
          (enterings c.loader).Nodup) := by
  have htallied (hfit : (loadAll table (earlier ++ [id])).CountsFit) :
      Tallied table (fun m => reloads table m (earlier ++ [id]))
        ((turn table)^[n + 1] ⟨loadAll table earlier, [], .loading id⟩) :=
    .moment (counted_loadAll (hfit.moment 0)) n (hfit.moment n)
  refine ⟨fun hfit => ?_, fun hfew => countsFit_loadAll (by simpa using hfew),
    (leads_load table id _).iterate _, fun hreturned => ?_⟩
  · have hsound : Sound ((turn table)^[n + 1] ⟨loadAll table earlier, [], .loading id⟩) :=
      .moment (n + 1) (hfit.moment (n + 1))
    have hcount := hsound.count_eq (hfit.moment (n + 1))
    have hstart : Sound ⟨loadAll table earlier, [], .loading id⟩ := .moment 0 (hfit.moment 0)
    refine ⟨fun m hevents => ?_, hcount, fun m => ?_, fun m => ?_⟩
    · exact (htallied hfit).entered_of_events hsound (hfit.moment (n + 1)) (move_turn table _)
        hevents
    · rw [hcount, (htallied hfit).counted.tally]
    · rw [← (counted_loadAll (hfit.moment 0)).tally]
      exact hstart.count_eq (hfit.moment 0) m
  · have hnever : ∀ m, .left m none ∉ (loadAll table earlier).events := by
      rcases hreturned with rfl | hreturned
      · simp [loadAll, Loader.fresh]
      · exact hreturned
    have hnone : ∀ m, reloads table m (earlier ++ [id]) = 0 := (reloads_eq_zero hnever).2 id
    have hfit : (loadAll table (earlier ++ [id])).CountsFit := countsFit_of_reloads_eq_zero hnone
    refine List.nodup_iff_count_le_one.2 fun m => ?_
    rw [(htallied hfit).counted.tally, hnone]
    split <;> simp

/-- A module whose factory fails is entered by each of two loadings, and by the second one again. -/
theorem count_eq_entered_add_reloads_failing :
    (loadAll failingTable ["a", "a"]).CountsFit
      ∧ reloads failingTable "a" ["a", "a"] = 1
      ∧ ((turn failingTable)^[1] ⟨loadAll failingTable ["a"], [], .loading "a"⟩).loader.count "a"
        = 2 := by
  obtain ⟨hadds, hfew, -⟩ := count_eq_entered_add_reloads failingTable ["a"] "a" 0
  have hfit := hfew (by decide)
  have hreloads : reloads failingTable "a" (["a"] ++ ["a"]) = 1 := by decide +kernel
  refine ⟨hfit, hreloads, ?_⟩
  rw [(hadds hfit).reloaded, hreloads, if_pos (by decide +kernel)]

end ModuleBundler.Loading
