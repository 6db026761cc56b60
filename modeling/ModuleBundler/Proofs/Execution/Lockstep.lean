import ModuleBundler.Proofs.Execution.Staging

/-!
# Discovery and loading in lockstep

Loading a staged table goes through the modules just as their discovery does, and here the two run
side by side.

**Two stacks.**  A module is open in the discovery exactly while its factory is running.  What the
discovery still has to visit for an open module, its factory still has to require.  `Suspended`
says this of the modules below the innermost one, and `Follows` of the whole stack.

**Two memories.**  `Agree` compares the graph with the maps of the loader: a module is in the graph
if its factory was entered, and it is cached if it is in the graph and not open.  So an import
meets an open module exactly if its requirement is answered with a stand-in.

**Step by step.**  A turn of the discovery is matched by some turns of the loading
(`Follows.advance`), and so is the whole of it (`Staging.exists_loading`).
-/

namespace ModuleBundler.Execution

open Discovery (Advance Exploring Yields importMapOf)
open Loading (Activation Config Event Exports Leads Loader Waiting enterings)

namespace Staging

variable {σ : Type} [FileStore σ] (S : Staging σ)

/-- **What an open module has been answered so far.**  It closes a cycle with those imports whose
    targets are open, from its own level down. -/
structure Level (cycles : List (List ModuleId)) (l : Loader) (u : ModuleId)
    (lower : List ModuleId) (handled : List (String × ModuleId)) : Prop where
  answered : Answered S.name cycles l u handled
  closes : ∀ t, ClosesCycle cycles u t ↔ t ∈ u :: lower ∧ t ∈ handled.map Prod.snd

/-- **What only one module changes**: its own answers, and the cycles that end with its imports. -/
structure Keeps (u : ModuleId) (cycles cycles' : List (List ModuleId)) (l l' : Loader) :
    Prop where
  replies : ∀ v, S.Reachable v → v ≠ u → replies (S.name v) l' = replies (S.name v) l
  cycles : ∀ v t, v ≠ u → (ClosesCycle cycles' v t ↔ ClosesCycle cycles v t)
  cache : ∀ key exports, l.cache.get? key = some exports → l'.cache.get? key = some exports

/-- What the discovery still has to visit for an open module, and what is below. -/
def visits (u : ModuleId) (m : ImportMap) (pending : List (String × ModuleId))
    (rest : List Frame) : List Frame :=
  pending.map (fun e => .visit e.2 (some u)) ++ .finish u m :: rest

/-- **The stacks below a module**, which is the import that its importer waits for. -/
inductive Suspended (cycles : List (List ModuleId)) (l : Loader) :
    ModuleId → List ModuleId → List Waiting → List Frame → Prop
  | bottom (t : ModuleId) : Suspended cycles l t [] [] []
  | level {u : ModuleId} {lower : List ModuleId} {ws : List Waiting} {rest : List Frame}
      {unit : CompiledModule} {handled pending : List (String × ModuleId)}
      {e : String × ModuleId} {f : Loader.Frame} (hbelow : Suspended cycles l u lower ws rest)
      (hu : S.Reachable u) (hunit : Yields S.resolver S.compile u unit)
      (hsplit : (S.importMap u unit).toList = handled ++ e :: pending)
      (hlevel : S.Level cycles l u lower handled) :
      Suspended cycles l e.2 (u :: lower)
        (S.waitingFor u (S.importMap u unit) e pending f :: ws)
        (visits u (S.importMap u unit) pending rest)

/-- **The graph and the maps of the loader.** -/
structure Agree (d : Discovery) (l : Loader) : Prop where
  nodup : d.opened.Nodup
  opened : ∀ id ∈ d.opened, id ∈ d.graph.ids
  reachable : ∀ id ∈ d.graph.ids, S.Reachable id
  entered : enterings l = d.graph.ids.map S.name
  count : ∀ id, S.Reachable id → (0 < l.count (S.name id) ↔ id ∈ d.graph.ids)
  cached : ∀ id, S.Reachable id →
    (l.cache.contains (S.name id) = true ↔ id ∈ d.graph.ids ∧ id ∉ d.opened)
  cycles : ∀ u t, ClosesCycle d.cycles u t → u ∈ d.graph.ids
  unheard : ∀ id, S.Reachable id → id ∉ d.graph.ids → replies (S.name id) l = []
  closed : ∀ id unit, id ∈ d.graph.ids → id ∉ d.opened → Yields S.resolver S.compile id unit →
    Answered S.name d.cycles l id (S.importMap id unit).toList

/-- **Where the loading is** when the discovery has its stack and its state. -/
inductive Follows : List Frame → Discovery → Config → Prop
  | first {d : Discovery} {l : Loader} (hopened : d.opened = []) (hids : d.graph.ids = []) :
      Follows [.visit S.entry none] d ⟨l, [], .loading (S.name S.entry)⟩
  | inside {d : Discovery} {l : Loader} {u : ModuleId} {lower : List ModuleId}
      {ws : List Waiting} {rest : List Frame} {unit : CompiledModule}
      {handled pending : List (String × ModuleId)} {f : Loader.Frame}
      (hopened : d.opened = (u :: lower).reverse) (hu : S.Reachable u)
      (hunit : Yields S.resolver S.compile u unit)
      (hsplit : (S.importMap u unit).toList = handled ++ pending)
      (hlevel : S.Level d.cycles l u lower handled)
      (hbelow : S.Suspended d.cycles l u lower ws rest) :
      Follows (visits u (S.importMap u unit) pending rest) d
        ⟨l, ws, .working (S.activation u (S.importMap u unit) pending f)⟩
  | last {d : Discovery} {l : Loader} {exports : Exports} (hopened : d.opened = []) :
      Follows [] d ⟨l, [], .answering (.ok exports)⟩

variable {S} {cycles cycles' : List (List ModuleId)} {l l' : Loader} {u t : ModuleId}
  {lower : List ModuleId} {handled : List (String × ModuleId)}

/-! ## Levels -/

/-- A step of one module leaves the level of every other module as it is. -/
lemma Level.keep {v : ModuleId} (h : S.Level cycles l v lower handled)
    (hkeeps : S.Keeps u cycles cycles' l l') (hv : S.Reachable v) (hne : v ≠ u) :
    S.Level cycles' l' v lower handled where
  answered := h.answered.keep (hkeeps.replies v hv hne) (fun e _ => hkeeps.cycles v e.2 hne)
    hkeeps.cache
  closes t := (hkeeps.cycles v t hne).trans (h.closes t)

/-- A step of a module that is not waiting leaves everything that waits as it is. -/
lemma Suspended.keep {ws : List Waiting} {rest : List Frame}
    (h : S.Suspended cycles l t lower ws rest) (hkeeps : S.Keeps u cycles cycles' l l')
    (hu : u ∉ lower) : S.Suspended cycles' l' t lower ws rest := by
  induction h with
  | bottom t => exact .bottom t
  | level hbelow hv hunit hsplit hlevel ih =>
      rw [List.mem_cons, not_or] at hu
      exact .level (ih hu.2) hv hunit hsplit (hlevel.keep hkeeps hv (Ne.symm hu.1))

/-- One more import meets an open module. -/
lemma Level.standIn (h : S.Level cycles l u lower handled) (s : String) (ht : t ∈ u :: lower)
    (hcycles : ∀ t', ClosesCycle cycles' u t' ↔ ClosesCycle cycles u t' ∨ t' = t) :
    S.Level cycles' (l.note (.answered (S.name u) s (S.name t) true .empty)) u lower
      (handled ++ [(s, t)]) where
  answered := by
    refine h.answered.standIn s (fun e he => ?_) ((hcycles t).2 (.inr rfl))
    rw [hcycles, or_iff_left_iff_imp]
    rintro rfl
    exact (h.closes e.2).2 ⟨ht, List.mem_map_of_mem he⟩
  closes t' := by
    rw [hcycles, h.closes, List.map_append, List.mem_append]
    constructor
    · rintro (⟨hopen, hhandled⟩ | rfl)
      · exact ⟨hopen, .inl hhandled⟩
      · exact ⟨ht, .inr (by simp)⟩
    · rintro ⟨hopen, hhandled | hlast⟩
      · exact .inl ⟨hopen, hhandled⟩
      · exact .inr (by simpa using hlast)

/-- One more import meets a closed module. -/
lemma Level.exports (h : S.Level cycles l u lower handled) (s : String) (ht : t ∉ u :: lower)
    {exports : Exports} (hcache : l.cache.get? (S.name t) = some exports) :
    S.Level cycles (l.note (.answered (S.name u) s (S.name t) false exports)) u lower
      (handled ++ [(s, t)]) where
  answered := h.answered.exports s (fun hcloses => ht ((h.closes t).1 hcloses).1) hcache
  closes t' := by
    rw [h.closes, List.map_append, List.mem_append]
    refine and_congr_right fun hopen => ⟨.inl, ?_⟩
    rintro (hhandled | hlast)
    · exact hhandled
    · rw [List.map_singleton, List.mem_singleton] at hlast
      subst hlast
      exact absurd hopen ht

/-! ## What changes with a turn -/

lemma Keeps.answered (hu : S.Reachable u)
    (hcycles : ∀ v t, v ≠ u → (ClosesCycle cycles' v t ↔ ClosesCycle cycles v t))
    (s target : String) (standIn : Bool) (exports : Exports) :
    S.Keeps u cycles cycles' l (l.note (.answered (S.name u) s target standIn exports)) where
  replies _ hv hne := replies_note_other (fun h => hne (S.injective hv hu h.symm)) _ _ _ _ _
  cycles := hcycles
  cache _ _ h := h

lemma replies_enter (importer id : String) (l : Loader) :
    replies importer (l.enter id) = replies importer l := by
  simp [replies, reply?]

lemma Keeps.entered (u : ModuleId) (id : String) : S.Keeps u cycles cycles l (l.enter id) where
  replies _ _ _ := replies_enter _ _ _
  cycles _ _ _ := Iff.rfl
  cache _ _ h := h

lemma filterMap_said {α : Type} {g : Loading.Event → Option α} (hg : ∀ text, g (.said text) = none)
    (texts : List String) : (texts.map Loading.Event.said).filterMap g = [] := by
  rw [List.filterMap_eq_nil_iff]
  intro event hevent
  obtain ⟨text, -, rfl⟩ := List.mem_map.1 hevent
  exact hg text

lemma replies_returned (importer id : String) (l : Loader) (texts : List String)
    (exports : Exports) :
    replies importer ((saying l texts).keep id exports) = replies importer l := by
  simp only [replies, saying, Loading.events_keep, List.filterMap_append,
    filterMap_said (g := reply? importer) (fun _ => rfl)]
  simp [reply?]

lemma enterings_returned (id : String) (l : Loader) (texts : List String) (exports : Exports) :
    enterings ((saying l texts).keep id exports) = enterings l := by
  simp only [enterings, saying, Loading.events_keep, List.filterMap_append,
    filterMap_said (g := Event.entered?) (fun _ => rfl)]
  simp [Event.entered?]

lemma get?_returned {id : String} (hcache : l.cache.get? id = none) (texts : List String)
    (exports : Exports) {key : String} {exports' : Exports}
    (h : l.cache.get? key = some exports') :
    ((saying l texts).keep id exports).cache.get? key = some exports' := by
  rw [Loading.cache_keep, OrderedMap.get?_insert, if_neg]
  · exact h
  · rintro rfl
    rw [hcache] at h
    cases h

lemma Keeps.returned (u : ModuleId) {id : String} (hcache : l.cache.get? id = none)
    (texts : List String) (exports : Exports) :
    S.Keeps u cycles cycles l ((saying l texts).keep id exports) where
  replies _ _ _ := replies_returned _ _ _ _ _
  cycles _ _ _ := Iff.rfl
  cache _ _ h := get?_returned hcache texts exports h

/-! ## The graph and the loader -/

/-- **What counts as instantiating is open.** -/
lemma Agree.isInstantiating_iff {d : Discovery} (h : S.Agree d l) (ht : S.Reachable t) :
    l.isInstantiating (S.name t) = true ↔ t ∈ d.opened := by
  rw [Loader.isInstantiating, Bool.and_eq_true, decide_eq_true_eq, Bool.not_eq_true',
    Bool.eq_false_iff, Ne, h.cached t ht, h.count t ht]
  constructor
  · rintro ⟨hmem, hclosed⟩
    by_contra hopen
    exact hclosed ⟨hmem, hopen⟩
  · intro hopen
    exact ⟨h.opened t hopen, fun hclosed => hclosed.2 hopen⟩

lemma Agree.get?_eq_none {d : Discovery} (h : S.Agree d l) (ht : S.Reachable t)
    (hnot : ¬ (t ∈ d.graph.ids ∧ t ∉ d.opened)) : l.cache.get? (S.name t) = none := by
  rw [← OrderedMap.contains_eq_false_iff, Bool.eq_false_iff, Ne, h.cached t ht]
  exact hnot

lemma Agree.exists_exports {d : Discovery} (h : S.Agree d l) (ht : t ∈ d.graph.ids)
    (hclosed : t ∉ d.opened) : ∃ exports, l.cache.get? (S.name t) = some exports := by
  have hcontains := (h.cached t (h.reachable t ht)).2 ⟨ht, hclosed⟩
  exact OrderedMap.exists_get?_of_mem_keys ((OrderedMap.contains_iff_mem_keys _ _).1 hcontains)

lemma Agree.fresh (start : ModuleId) : S.Agree (Discovery.start start) .fresh where
  nodup := List.nodup_nil
  opened id hid := nomatch hid
  reachable id hid := nomatch hid
  entered := rfl
  count id _ := by simp [Discovery.start, Loader.fresh, Loader.count, Loader.stored]
  cached id _ := by simp [Discovery.start, Loader.fresh]
  cycles u t hcloses := by simp [ClosesCycle, Discovery.start] at hcloses
  unheard id _ _ := rfl
  closed id unit hid := nomatch hid

/-- An open module gets an answer. -/
lemma Agree.answered {d d' : Discovery} (h : S.Agree d l) (hu : u ∈ d.opened)
    (hgraph : d'.graph = d.graph) (hopened : d'.opened = d.opened)
    (hcycles : ∀ v t, v ≠ u → (ClosesCycle d'.cycles v t ↔ ClosesCycle d.cycles v t))
    (s target : String) (standIn : Bool) (exports : Exports) :
    S.Agree d' (l.note (.answered (S.name u) s target standIn exports)) := by
  have hmem := h.opened u hu
  have hkeeps : S.Keeps u d.cycles d'.cycles l _ :=
    .answered (h.reachable u hmem) hcycles s target standIn exports
  refine ⟨?_, ?_, ?_, ?_, ?_, ?_, ?_, ?_, ?_⟩ <;> simp only [hgraph, hopened]
  · exact h.nodup
  · exact h.opened
  · exact h.reachable
  · rw [← h.entered]
    simp [enterings, Event.entered?]
  · exact h.count
  · exact h.cached
  · intro v t hcloses
    by_cases hv : v = u
    · rwa [hv]
    · exact h.cycles v t ((hcycles v t hv).1 hcloses)
  · intro id hid hnew
    rw [hkeeps.replies id hid fun heq => hnew (heq ▸ hmem)]
    exact h.unheard id hid hnew
  · intro id unit hid hclosed hunit
    have hne : id ≠ u := fun heq => hclosed (heq ▸ hu)
    exact (h.closed id unit hid hclosed hunit).keep (hkeeps.replies id (h.reachable id hid) hne)
      (fun e _ => hcycles id e.2 hne) hkeeps.cache

/-- The discovery and the loader enter a new module together. -/
lemma Agree.entering {d : Discovery} (h : S.Agree d l) (ht : S.Reachable t)
    (hnew : t ∉ d.graph.ids) (compiled : List ModuleId) (code : String) :
    S.Agree ({ d with compiled := compiled }.enter t code) (l.enter (S.name t)) := by
  have hids : (d.graph.reserve t code).ids = d.graph.ids ++ [t] := d.graph.ids_reserve code hnew
  have hclosed : t ∉ d.opened := fun hopen => hnew (h.opened t hopen)
  refine ⟨?_, ?_, ?_, ?_, ?_, ?_, ?_, ?_, ?_⟩ <;> simp only [Discovery.enter, hids]
  · exact List.nodup_append.2 ⟨h.nodup, List.nodup_singleton t, by
      rintro a ha b hb rfl
      exact hclosed (List.mem_singleton.1 hb ▸ ha)⟩
  · intro id hid
    rw [List.mem_append] at hid ⊢
    exact hid.imp_left (h.opened id)
  · intro id hid
    rcases List.mem_append.1 hid with hid | hid
    · exact h.reachable id hid
    · exact List.mem_singleton.1 hid ▸ ht
  · rw [List.map_append, ← h.entered]
    simp [enterings, Event.entered?]
  · intro id hid
    by_cases heq : t = id
    · -- What is discovered for the first time has a count of zero, which goes to one.
      have hzero : l.count (S.name t) = 0 :=
        Nat.eq_zero_of_not_pos fun hpos => hnew ((h.count t ht).1 hpos)
      rw [← heq, Loading.count_enter_of_eq_zero hzero]
      simp
    · rw [Loading.count_enter, if_neg fun hn => heq ((name_inj ht hid).1 hn), h.count id hid]
      simp [Ne.symm heq]
  · intro id hid
    rw [Loading.cache_enter, h.cached id hid]
    by_cases heq : id = t
    · simp [heq, hnew]
    · simp [heq]
  · intro v t' hcloses
    exact List.mem_append_left _ (h.cycles v t' hcloses)
  · intro id hid hout
    rw [replies_enter]
    exact h.unheard id hid fun hmem => hout (List.mem_append_left _ hmem)
  · intro id unit hid hout hunit
    rw [List.mem_append, not_or] at hout
    have hmem := (List.mem_append.1 hid).resolve_right hout.2
    exact (h.closed id unit hmem hout.1 hunit).keep (replies_enter _ _ _) (fun _ _ => Iff.rfl)
      fun _ _ hcache => hcache

/-- The innermost module is closed. -/
lemma Agree.returned {d : Discovery} (h : S.Agree d l) (hopened : d.opened = (u :: lower).reverse)
    {unit : CompiledModule} (hunit : Yields S.resolver S.compile u unit)
    (hall : Answered S.name d.cycles l u (S.importMap u unit).toList) (m : ImportMap)
    (texts : List String) (exports : Exports) :
    S.Agree (d.close u m) ((saying l texts).keep (S.name u) exports) := by
  rw [List.reverse_cons] at hopened
  have hlower : (d.close u m).opened = lower.reverse := by
    rw [Discovery.close, hopened, List.dropLast_concat]
  have hids : (d.close u m).graph.ids = d.graph.ids := d.graph.ids_finish u m
  have huopen : u ∈ d.opened := by simp [hopened]
  have hu : S.Reachable u := h.reachable u (h.opened u huopen)
  have hcache : l.cache.get? (S.name u) = none :=
    h.get?_eq_none hu fun hclosed => hclosed.2 huopen
  have hnodup := h.nodup
  rw [hopened, List.nodup_append] at hnodup
  have hularge : u ∉ lower.reverse := fun hmem => hnodup.2.2 u hmem u (by simp) rfl
  have hopen : ∀ id, id ∈ d.opened ↔ id ∈ lower.reverse ∨ id = u := by simp [hopened]
  have hsame : ∀ id imports, Answered S.name d.cycles l id imports →
      Answered S.name d.cycles ((saying l texts).keep (S.name u) exports) id imports :=
    fun id imports hanswered => hanswered.keep (replies_returned _ _ _ _ _) (fun _ _ => Iff.rfl)
      fun _ _ => get?_returned hcache texts exports
  refine ⟨?_, ?_, ?_, ?_, ?_, ?_, ?_, ?_, ?_⟩ <;> simp only [hids, hlower]
  · exact hnodup.1
  · exact fun id hid => h.opened id ((hopen id).2 (.inl hid))
  · exact h.reachable
  · rw [enterings_returned]
    exact h.entered
  · exact h.count
  · intro id hid
    have hcached : (saying l texts).cache.contains (S.name id) = true
        ↔ id ∈ d.graph.ids ∧ id ∉ d.opened := h.cached id hid
    rw [Loading.contains_keep, hcached, name_inj hid hu, hopen]
    by_cases heq : id = u
    · subst heq
      simp [hularge, h.opened id huopen]
    · simp [heq]
  · exact h.cycles
  · intro id hid hnew
    rw [replies_returned]
    exact h.unheard id hid hnew
  · intro id unit' hid hclosed hunit'
    by_cases heq : id = u
    · subst heq
      cases hunit.unique hunit'
      exact hsame _ _ hall
    · refine hsame _ _ (h.closed id unit' hid (fun hmem => ?_) hunit')
      exact ((hopen id).1 hmem).elim hclosed heq

/-! ## The turns of the discovery -/

lemma visits_eq_finish {m m' : ImportMap} {pending : List (String × ModuleId)}
    {rest rest' : List Frame} (h : visits u m pending rest = .finish t m' :: rest') :
    pending = [] ∧ t = u ∧ m' = m ∧ rest' = rest := by
  cases pending with
  | nil =>
      rw [visits, List.map_nil, List.nil_append] at h
      cases h
      exact ⟨rfl, rfl, rfl, rfl⟩
  | cons e pending => cases h

lemma visits_eq_visit {m : ImportMap} {importer : Option ModuleId}
    {pending : List (String × ModuleId)} {rest rest' : List Frame}
    (h : visits u m pending rest = .visit t importer :: rest') :
    ∃ e pending', pending = e :: pending' ∧ t = e.2 ∧ rest' = visits u m pending' rest := by
  cases pending with
  | nil => cases h
  | cons e pending =>
      cases h
      exact ⟨e, pending, rfl, rfl, rfl⟩

lemma framesOf_append (u : ModuleId) (m : ImportMap) (rest : List Frame) :
    Discovery.framesOf u m ++ rest = visits u m m.toList rest := by
  rw [Discovery.framesOf, visits, OrderedMap.values_eq_map, List.map_map, List.append_assoc]
  rfl

lemma reachable_of_mem {unit : CompiledModule} {e : String × ModuleId} (hu : S.Reachable u)
    (hunit : Yields S.resolver S.compile u unit) (he : e ∈ (S.importMap u unit).toList) :
    S.Reachable e.2 := by
  obtain ⟨himport, htarget⟩ := Discovery.get?_importMapOf S.resolver
    ((OrderedMap.get?_eq_some_iff_mem _ e.1 e.2).2 he)
  rw [htarget]
  exact .step hu hunit himport

/-- **The loader follows into a new module**: it enters the factory, and the two agree again. -/
lemma exists_entered {d : Discovery} {ws : List Waiting} {rest : List Frame}
    {unit : CompiledModule} (hagree : S.Agree d l) (hopened : d.opened = lower.reverse)
    (ht : S.Reachable t) (hnew : t ∉ d.graph.ids)
    (hunit : Yields S.resolver S.compile t unit)
    (hbelow : S.Suspended d.cycles (l.enter (S.name t)) t lower ws rest)
    (compiled : List ModuleId) :
    ∃ c', Leads S.table ⟨l, ws, .loading (S.name t)⟩ c'
      ∧ S.Agree ({ d with compiled := compiled }.enter t unit.code) c'.loader
      ∧ S.Follows (Discovery.framesOf t (S.importMap t unit) ++ rest)
          ({ d with compiled := compiled }.enter t unit.code) c' := by
  have hcache : l.cache.get? (S.name t) = none := hagree.get?_eq_none ht fun h => hnew h.1
  have hlevel : S.Level d.cycles (l.enter (S.name t)) t lower [] := by
    refine ⟨⟨?_, fun e he => nomatch he⟩, fun t' => ⟨fun hcloses => ?_, fun h => nomatch h.2⟩⟩
    · rw [replies_enter]
      exact hagree.unheard t ht hnew
    · exact absurd (hagree.cycles t t' hcloses) hnew
  rw [framesOf_append]
  refine ⟨_, leads_enter ht hunit hcache, hagree.entering ht hnew compiled unit.code,
    .inside ?_ ht hunit rfl hlevel hbelow⟩
  rw [List.reverse_cons, ← hopened]
  rfl

lemma Agree.notMem_lower {d : Discovery} (hagree : S.Agree d l)
    (hopened : d.opened = (u :: lower).reverse) : u ∉ lower := by
  have hnodup := hagree.nodup
  rw [hopened, List.nodup_reverse, List.nodup_cons] at hnodup
  exact hnodup.1

section Inside

variable {d : Discovery} {ws : List Waiting} {rest : List Frame} {unit : CompiledModule}
  {e : String × ModuleId} {pending : List (String × ModuleId)} {f : Loader.Frame}
  (hagree : S.Agree d l) (hopened : d.opened = (u :: lower).reverse) (hu : S.Reachable u)
  (hunit : Yields S.resolver S.compile u unit) (hlevel : S.Level d.cycles l u lower handled)
  (hbelow : S.Suspended d.cycles l u lower ws rest)
include hagree hopened hu hunit hlevel hbelow

/-- The innermost module has no further imports. -/
lemma exists_closing (hsplit : (S.importMap u unit).toList = handled) (m : ImportMap) :
    ∃ c', Leads S.table ⟨l, ws, .working (S.activation u (S.importMap u unit) [] f)⟩ c'
      ∧ S.Agree (d.close u m) c'.loader ∧ S.Follows rest (d.close u m) c' := by
  obtain ⟨texts, exports, hreturn⟩ := leads_return (S := S) l ws u (S.importMap u unit) f
  have hnotMem := hagree.notMem_lower hopened
  have hclosed : (d.close u m).opened = lower.reverse := by
    rw [Discovery.close, hopened, List.reverse_cons, List.dropLast_concat]
  have hcache : l.cache.get? (S.name u) = none :=
    hagree.get?_eq_none hu fun h => h.2 (by simp [hopened])
  have hagree' := hagree.returned hopened hunit (hsplit ▸ hlevel.answered) m texts exports
  have hbelow' := hbelow.keep (.returned u hcache texts exports) hnotMem
  have hexports : ((saying l texts).keep (S.name u) exports).cache.get? (S.name u)
      = some exports := by
    rw [Loading.cache_keep, OrderedMap.get?_insert, if_pos rfl]
  -- Without a lower level the answer goes to the caller, else to the factory that waits.
  cases hbelow' with
  | bottom => exact ⟨_, hreturn, hagree', .last hclosed⟩
  | @level v lower ws rest unit' handled' pending e f hbelow'' hv hunit' hsplit' hlevel' =>
      obtain ⟨f', hresume⟩ := leads_resume (S := S) ((saying l texts).keep (S.name e.2) exports)
        ws v (S.importMap v unit') e pending f exports
      have hmem : v ∈ (d.close e.2 m).opened := by simp [hclosed]
      have hv' : v ∉ lower := hagree'.notMem_lower hclosed
      exact ⟨_, hreturn.trans hresume,
        hagree'.answered hmem rfl rfl (fun _ _ _ => Iff.rfl) e.1 _ false exports,
        .inside hclosed hv hunit' (hsplit'.trans (List.append_cons _ _ _))
          (hlevel'.exports e.1 hnotMem hexports)
          (hbelow''.keep (.answered hv (fun _ _ _ => Iff.rfl) _ _ _ _) hv')⟩

/-- The next import of the innermost module is in the graph. -/
lemma exists_meeting (hsplit : (S.importMap u unit).toList = handled ++ e :: pending)
    (hmem : e.2 ∈ d.graph.ids) :
    ∃ c', Leads S.table
        ⟨l, ws, .working (S.activation u (S.importMap u unit) (e :: pending) f)⟩ c'
      ∧ S.Agree (d.revisit e.2) c'.loader
      ∧ S.Follows (visits u (S.importMap u unit) pending rest) (d.revisit e.2) c' := by
  have himport : e ∈ (S.importMap u unit).toList := by simp [hsplit]
  have hsplit' := hsplit.trans (List.append_cons handled e pending)
  have htarget := reachable_of_mem hu hunit himport
  have huopen : u ∈ d.opened := by simp [hopened]
  have hnotMem := hagree.notMem_lower hopened
  have hopened' : (d.revisit e.2).opened = (u :: lower).reverse :=
    (Discovery.opened_revisit d e.2).trans hopened
  -- An open target gives a cycle here and a stand-in there, a closed one neither.
  by_cases hopen : e.2 ∈ d.opened
  · have hlevels : e.2 ∈ u :: lower := by
      rw [hopened] at hopen
      exact List.mem_reverse.1 hopen
    have hcloses := closesCycle_revisit hopened hlevels
    have hothers : ∀ v t, v ≠ u →
        (ClosesCycle (d.revisit e.2).cycles v t ↔ ClosesCycle d.cycles v t) := by
      intro v t hne
      rw [hcloses, or_iff_left fun h => hne h.1]
    have hown : ∀ t, ClosesCycle (d.revisit e.2).cycles u t
        ↔ ClosesCycle d.cycles u t ∨ t = e.2 := by
      intro t
      rw [hcloses]
      simp
    have hin := (hagree.isInstantiating_iff htarget).2 hopen
    obtain ⟨f', hleads⟩ := leads_standIn u ws pending f himport hin
    exact ⟨_, hleads,
      hagree.answered huopen (Discovery.graph_revisit d e.2) (Discovery.opened_revisit d e.2)
        hothers _ _ _ _,
      .inside hopened' hu hunit hsplit' (hlevel.standIn e.1 hlevels hown)
        (hbelow.keep (.answered hu hothers _ _ _ _) hnotMem)⟩
  · have hlevels : e.2 ∉ u :: lower := fun h => hopen (by
      rw [hopened]
      exact List.mem_reverse.2 h)
    have hsame : d.revisit e.2 = d := if_neg hopen
    obtain ⟨exports, hcache⟩ := hagree.exists_exports hmem hopen
    obtain ⟨f', hleads⟩ := leads_exports u ws pending f himport hcache
    rw [hsame]
    exact ⟨_, hleads, hagree.answered huopen rfl rfl (fun _ _ _ => Iff.rfl) _ _ _ _,
      .inside hopened hu hunit hsplit' (hlevel.exports e.1 hlevels hcache)
        (hbelow.keep (.answered hu (fun _ _ _ => Iff.rfl) _ _ _ _) hnotMem)⟩

/-- The next import of the innermost module is new. -/
lemma exists_entering (hsplit : (S.importMap u unit).toList = handled ++ e :: pending)
    (hnew : e.2 ∉ d.graph.ids) {unit' : CompiledModule}
    (hunit' : Yields S.resolver S.compile e.2 unit') (compiled : List ModuleId) :
    ∃ c', Leads S.table
        ⟨l, ws, .working (S.activation u (S.importMap u unit) (e :: pending) f)⟩ c'
      ∧ S.Agree ({ d with compiled := compiled }.enter e.2 unit'.code) c'.loader
      ∧ S.Follows (Discovery.framesOf e.2 (S.importMap e.2 unit')
            ++ visits u (S.importMap u unit) pending rest)
          ({ d with compiled := compiled }.enter e.2 unit'.code) c' := by
  have himport : e ∈ (S.importMap u unit).toList := by simp [hsplit]
  have htarget := reachable_of_mem hu hunit himport
  have hout : l.isInstantiating (S.name e.2) = false := by
    rw [Bool.eq_false_iff, Ne, hagree.isInstantiating_iff htarget]
    exact fun hopen => hnew (hagree.opened e.2 hopen)
  have hne : u ≠ e.2 := by
    rintro rfl
    exact hnew (hagree.opened _ (by simp [hopened]))
  have hlevel' := hlevel.keep (.entered e.2 (S.name e.2)) hu hne
  have hbelow' := hbelow.keep (.entered u (S.name e.2)) (hagree.notMem_lower hopened)
  obtain ⟨c', hleads, hagree', hfollows⟩ := exists_entered hagree hopened htarget hnew hunit'
    (.level hbelow' hu hunit hsplit hlevel') compiled
  exact ⟨c', (leads_wait u ws pending f himport hout).trans hleads, hagree', hfollows⟩

end Inside

/-- **Every turn of the discovery is matched by turns of the loading.** -/
theorem Follows.advance {frames frames' : List Frame} {d d' : Discovery} {c : Config}
    (hturn : Advance S.resolver S.compile frames d frames' d') (hagree : S.Agree d c.loader)
    (h : S.Follows frames d c) :
    ∃ c', Leads S.table c c' ∧ S.Agree d' c'.loader ∧ S.Follows frames' d' c' := by
  cases hturn with
  | closing id m _ d =>
      generalize hframes : Frame.finish id m :: frames' = frames at h
      cases h with
      | first hopened hids => cases hframes
      | last hopened => cases hframes
      | inside hopened hu hunit hsplit hlevel hbelow =>
          obtain ⟨rfl, rfl, rfl, rfl⟩ := visits_eq_finish hframes.symm
          rw [List.append_nil] at hsplit
          exact exists_closing hagree hopened hu hunit hlevel hbelow hsplit _
  | meeting id importer _ d hmem =>
      generalize hframes : Frame.visit id importer :: frames' = frames at h
      cases h with
      | first hopened hids =>
          rw [hids] at hmem
          cases hmem
      | last hopened => cases hframes
      | inside hopened hu hunit hsplit hlevel hbelow =>
          obtain ⟨e, pending, rfl, rfl, rfl⟩ := visits_eq_visit hframes.symm
          exact exists_meeting hagree hopened hu hunit hlevel hbelow hsplit hmem
  | entering id importer rest d unit hnew hunit' =>
      generalize hframes : Frame.visit id importer :: rest = frames at h
      cases h with
      | first hopened hids =>
          cases hframes
          have hnone : d.opened = ([] : List ModuleId).reverse := hopened
          exact exists_entered hagree hnone .entry hnew hunit' (.bottom _) _
      | last hopened => cases hframes
      | inside hopened hu hunit hsplit hlevel hbelow =>
          obtain ⟨e, pending, rfl, rfl, rfl⟩ := visits_eq_visit hframes.symm
          exact exists_entering hagree hopened hu hunit hlevel hbelow hsplit hnew hunit' _

/-- **A discovery that went well is matched by a loading that returns.** -/
theorem exists_loading {outcome : Discovery.Outcome}
    (h : Discovery.discover S.resolver S.compile S.entry = some outcome)
    (herrors : outcome.errors = none) :
    ∃ l exports,
      Leads S.table ⟨.fresh, [], .loading (S.name S.entry)⟩ ⟨l, [], .answering (.ok exports)⟩
        ∧ S.Agree outcome.reached l ∧ outcome.reached.opened = [] := by
  refine Discovery.run_invariant S.resolver S.compile
    (P := fun frames d => ∃ c, Leads S.table ⟨.fresh, [], .loading (S.name S.entry)⟩ c
      ∧ S.Agree d c.loader ∧ S.Follows frames d c)
    (Q := fun outcome => outcome.errors = none → ∃ l exports,
      Leads S.table ⟨.fresh, [], .loading (S.name S.entry)⟩ ⟨l, [], .answering (.ok exports)⟩
        ∧ S.Agree outcome.reached l ∧ outcome.reached.opened = []) ?_ ?_ h
    ⟨_, .refl _, .fresh S.entry, .first rfl rfl⟩ herrors
  · rintro frames d frames' d' hturn ⟨c, hleads, hagree, hfollows⟩
    obtain ⟨c', hleads', hagree', hfollows'⟩ := hfollows.advance hturn hagree
    exact ⟨c', hleads.trans hleads', hagree', hfollows'⟩
  · rintro frames d outcome hturn ⟨c, hleads, hagree, hfollows⟩ herrors
    rcases Discovery.turn_halt S.resolver S.compile hturn with ⟨rfl, rfl⟩ | ⟨hfailed, -⟩
    · generalize hframes : ([] : List Frame) = frames at hfollows
      cases hfollows with
      | first => cases hframes
      | inside => simp [visits] at hframes
      | last hopened => exact ⟨_, _, hleads, hagree, hopened⟩
    · rw [herrors] at hfailed
      cases hfailed

end Staging

end ModuleBundler.Execution
