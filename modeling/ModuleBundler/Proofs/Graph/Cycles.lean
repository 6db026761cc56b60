import Mathlib.Data.List.Chain
import Mathlib.Logic.Relation
import ModuleBundler.Proofs.Execution.Answers
import ModuleBundler.Proofs.Graph.DepthFirst
import ModuleBundler.Proofs.Graph.Relocation

/-!
# The cycles that a discovery notes

A discovery notes a cycle whenever it meets a module that is still open.  So it does not note all
cycles of the imports, and here is what it does note.

**Every noted cycle is one.**  The open modules are a path of imports, each of which imports the
next, and a cycle is a last part of this path with its first module once more (`IsCycle`).

**Enough cycles are noted.**  A module is done when all that it imports has been visited.  Each of
its imports was then done before, or closes a noted cycle (`Searched.order`).  So without the
imports that close noted cycles, every import leads to a module that was done earlier, and nothing
leads back to itself (`acyclic_of_rank`).

**No cycle is noted twice.**  The later a module stands in a noted cycle, the earlier it is done
(`Searched.latest`).  So a noted cycle is determined by its modules (`Searched.eq_of_mem_iff`).

The invariant is carried along the recursion behind the loop, where the path is an argument of the
call: `searched_visit` is one induction over both halves of it.
-/

namespace ModuleBundler

section Relations

variable {α : Type} {R S : α → α → Prop}

/-- Nothing leads back to itself. -/
def Acyclic (R : α → α → Prop) : Prop := ∀ x, ¬ Relation.TransGen R x x

/-- **A cycle of a relation**, written from one of its members on and back to it. -/
structure IsCycle (R : α → α → Prop) (cycle : List α) : Prop where
  two_le_length : 2 ≤ cycle.length
  closed : cycle.head? = cycle.getLast?
  nodup : cycle.dropLast.Nodup
  chain : cycle.IsChain R

/-- A relation that goes down a rank is acyclic. -/
lemma acyclic_of_rank (rank : α → ℕ) (h : ∀ x y, R x y → rank y < rank x) : Acyclic R := by
  have hdown : ∀ x y, Relation.TransGen R x y → rank y < rank x := by
    intro x y hxy
    induction hxy with
    | single hxy => exact h _ _ hxy
    | tail _ hyz ih => exact (h _ _ hyz).trans ih
  exact fun x hx => (hdown x x hx).false

lemma Acyclic.mono (h : Acyclic S) (hle : ∀ x y, R x y → S x y) : Acyclic R :=
  fun x hx => h x (Relation.TransGen.mono hle x x hx)

/-- The last part of a path from one of its members on, and that member once more. -/
lemma isCycle_of_chain {before after : List α} {x u : α}
    (hlast : (before ++ x :: after).getLast? = some u) (hnodup : (before ++ x :: after).Nodup)
    (hchain : (before ++ x :: after).IsChain R) (hback : R u x) :
    IsCycle R (x :: after ++ [x]) where
  two_le_length := by simp
  closed := by
    rw [List.getLast?_concat]
    rfl
  nodup := by
    rw [List.dropLast_concat]
    exact hnodup.sublist (List.sublist_append_right _ _)
  chain := by
    refine hchain.right_of_append.append (List.isChain_singleton x) fun y hy z hz => ?_
    rw [List.getLast?_append_of_ne_nil _ (List.cons_ne_nil _ _)] at hlast
    cases Option.mem_some_iff.1 hz
    rw [Option.mem_def, hlast] at hy
    cases hy
    exact hback

/-- A cycle whose edges are edges elsewhere is a cycle there. -/
lemma IsCycle.imp {cycle : List α} (h : IsCycle R cycle)
    (himp : ∀ x ∈ cycle, ∀ y, R x y → S x y) : IsCycle S cycle where
  two_le_length := h.two_le_length
  closed := h.closed
  nodup := h.nodup
  chain := h.chain.imp_of_mem_imp fun x y hx _ hxy => himp x hx y hxy

/-- A cycle consists of some members and the first of them once more. -/
lemma IsCycle.exists_eq {cycle : List α} (h : IsCycle R cycle) :
    ∃ x rest, cycle = x :: rest ++ [x] := by
  obtain ⟨init, last, rfl⟩ : ∃ init last, cycle = init ++ [last] :=
    (List.eq_nil_or_concat' cycle).resolve_left fun hnil => by simpa [hnil] using h.two_le_length
  cases init with
  | nil => simpa using h.two_le_length
  | cons x rest =>
      have hclosed := h.closed
      rw [List.getLast?_concat, List.cons_append, List.head?_cons] at hclosed
      exact ⟨x, rest, by rw [Option.some.inj hclosed]⟩

/-- What is taken out of a list without repetitions, in its order, is determined by its members. -/
lemma eq_of_sublist {l l₁ l₂ : List α} (hnodup : l.Nodup) (h₁ : l₁.Sublist l) (h₂ : l₂.Sublist l)
    (hmem : ∀ x, x ∈ l₁ ↔ x ∈ l₂) : l₁ = l₂ := by
  induction l generalizing l₁ l₂ with
  | nil => rw [List.sublist_nil.1 h₁, List.sublist_nil.1 h₂]
  | cons a l ih =>
      obtain ⟨ha, hnodup⟩ := List.nodup_cons.1 hnodup
      cases h₁ with
      | cons _ h₁ =>
          cases h₂ with
          | cons _ h₂ => exact ih hnodup h₁ h₂ hmem
          | cons_cons _ h₂ => exact absurd (h₁.subset ((hmem a).2 List.mem_cons_self)) ha
      | cons_cons _ h₁ =>
          cases h₂ with
          | cons _ h₂ => exact absurd (h₂.subset ((hmem a).1 List.mem_cons_self)) ha
          | cons_cons _ h₂ =>
              rw [ih hnodup h₁ h₂ fun x => ?_]
              by_cases hx : x = a
              · subst hx
                exact iff_of_false (fun h => ha (h₁.subset h)) fun h => ha (h₂.subset h)
              · simpa [hx] using hmem x

/-- Along a cycle its first member leads back to itself. -/
lemma IsCycle.transGen {cycle : List α} (h : IsCycle R cycle) :
    ∃ x, Relation.TransGen R x x := by
  obtain ⟨hlength, hclosed, -, hchain⟩ := h
  match cycle, hlength with
  | x :: y :: rest, _ =>
      rw [List.isChain_cons_cons] at hchain
      have hreach := List.relationReflTransGen_of_exists_isChain (y :: rest) hchain.2 (by simp)
      have hlast : (y :: rest).getLast (by simp) = x := by
        simpa [List.getLast?_eq_some_getLast, eq_comm] using hclosed
      rw [hlast] at hreach
      exact ⟨x, .head' hchain.1 hreach⟩

end Relations

/-- One module of the graph imports another. -/
def DependencyGraph.Imports (g : DependencyGraph) (u t : ModuleId) : Prop :=
  ∃ record, g.get? u = some record ∧ t ∈ record.importMap.values

namespace Discovery

open DepthFirst (Findings)
open DepthFirst.Findings (visit visitImports)
open Execution (ClosesCycle closesCycle_revisit)

variable {σ : Type} [FileStore σ] {r : Resolver σ} {compile : Compiler}

/-- One module imports another, by one of its specifiers. -/
def Imports (r : Resolver σ) (compile : Compiler) (u t : ModuleId) : Prop :=
  ∃ unit, Yields r compile u unit ∧ ∃ s ∈ unit.imports, t = r.resolveId (some u) s

/-- An import that has been visited: its target is done, or it closes a noted cycle. -/
def Visited (cycles : List (List ModuleId)) (done : List ModuleId) (u t : ModuleId) : Prop :=
  ClosesCycle cycles u t ∨ t ∈ done

/-- **What has been searched**, with a path of open modules and with modules that are done, in the
    order in which they were. -/
structure Searched (r : Resolver σ) (compile : Compiler) (path done : List ModuleId)
    (f : Findings) : Prop where
  mem_ids : ∀ id, id ∈ f.graph.ids ↔ id ∈ path ∨ id ∈ done
  nodup : path.Nodup
  nodup_done : done.Nodup
  apart : ∀ id ∈ path, id ∉ done
  chain : path.IsChain (Imports r compile)
  cycles : ∀ cycle ∈ f.cycles, IsCycle (Imports r compile) cycle
  nodup_cycles : f.cycles.Nodup
  /-- The later a module stands in a noted cycle, the earlier it is done. -/
  latest : ∀ cycle ∈ f.cycles, cycle.dropLast.reverse.Sublist (done ++ path.reverse)
  order : ∀ u ∈ done, ∀ t, Imports r compile u t →
    ClosesCycle f.cycles u t ∨ done.idxOf t < done.idxOf u

lemma ClosesCycle.mono {cycles cycles' : List (List ModuleId)} (h : cycles <+: cycles')
    {u t : ModuleId} (hcloses : ClosesCycle cycles u t) : ClosesCycle cycles' u t := by
  obtain ⟨cycle, hcycle, hlast⟩ := hcloses
  exact ⟨cycle, h.subset hcycle, hlast⟩

lemma Visited.mono {cycles cycles' : List (List ModuleId)} {done : List ModuleId}
    (h : cycles <+: cycles') (more : List ModuleId) {u t : ModuleId}
    (hvisited : Visited cycles done u t) : Visited cycles' (done ++ more) u t :=
  hvisited.imp (ClosesCycle.mono h) (List.mem_append_left more)

lemma mem_ids_call_reserve {f : Findings} {id : ModuleId} (code : String)
    (hnew : id ∉ f.graph.ids) (t : ModuleId) :
    t ∈ ((f.call id).reserve id code).graph.ids ↔ t ∈ f.graph.ids ∨ t = id := by
  change t ∈ (f.graph.reserve id code).ids ↔ _
  rw [f.graph.ids_reserve code hnew, List.mem_append, List.mem_singleton]

namespace Searched

variable {path done : List ModuleId} {f : Findings} {id : ModuleId}

/-- Noting further cycles. -/
lemma note (h : Searched r compile path done f) {cycles : List (List ModuleId)}
    (hgrown : f.cycles <+: cycles) (hcycles : ∀ cycle ∈ cycles, IsCycle (Imports r compile) cycle)
    (hnodup : cycles.Nodup)
    (hlatest : ∀ cycle ∈ cycles, cycle.dropLast.reverse.Sublist (done ++ path.reverse)) :
    Searched r compile path done { f with cycles := cycles } :=
  { h with
    cycles := hcycles
    nodup_cycles := hnodup
    latest := hlatest
    order := fun u hu t ht => (h.order u hu t ht).imp_left (ClosesCycle.mono hgrown) }

/-- **Meeting a module again**: the import by the last module of the path has been visited. -/
lemma meet (h : Searched r compile path done f) (hmem : id ∈ f.graph.ids)
    (hback : ∀ u ∈ path.getLast?, Imports r compile u id) :
    Searched r compile path done (f.meet path id) ∧ f.cycles <+: (f.meet path id).cycles
      ∧ ∀ u ∈ path.getLast?, Visited (f.meet path id).cycles done u id := by
  by_cases hp : id ∈ path
  · obtain ⟨before, after, rfl, hbefore⟩ := List.eq_append_cons_of_mem hp
    have hdrop : (before ++ id :: after).dropWhile (· ≠ id) = id :: after := by
      rw [List.dropWhile_append_of_pos fun x hx => by simpa using ne_of_mem_of_not_mem hx hbefore]
      simp
    obtain ⟨last, u, hlast⟩ : ∃ last u, id :: after = last ++ [u] :=
      (List.eq_nil_or_concat' (id :: after)).resolve_left (List.cons_ne_nil _ _)
    have hu : (before ++ id :: after).getLast? = some u := by
      rw [hlast, ← List.append_assoc, List.getLast?_concat]
    have hcycle := isCycle_of_chain hu h.nodup h.chain (hback u hu)
    have hcloses : [u, id] <:+ id :: after ++ [id] := ⟨last, by rw [hlast]; simp⟩
    have hvisited : ∀ cycles, id :: after ++ [id] ∈ cycles →
        ∀ v ∈ (before ++ id :: after).getLast?, Visited cycles done v id := by
      intro cycles hnoted v hv
      cases hu.symm.trans hv
      exact .inl ⟨_, hnoted, hcloses⟩
    rw [Findings.meet, if_pos hp, hdrop]
    by_cases hknown : id :: after ++ [id] ∈ f.cycles
    · rw [if_pos (List.contains_iff_mem.2 hknown)]
      exact ⟨h, List.prefix_rfl, hvisited _ hknown⟩
    · rw [if_neg fun hc => hknown (List.contains_iff_mem.1 hc)]
      refine ⟨h.note (List.prefix_append _ _) (fun cycle hmem => ?_) ?_ (fun cycle hmem => ?_),
        List.prefix_append _ _, hvisited _ (by simp)⟩
      · rcases List.mem_append.1 hmem with hmem | hmem
        · exact h.cycles cycle hmem
        · exact List.mem_singleton.1 hmem ▸ hcycle
      · exact List.nodup_append.2 ⟨h.nodup_cycles, by simp, fun a ha b hb hab =>
          hknown (List.mem_singleton.1 hb ▸ hab ▸ ha)⟩
      · rcases List.mem_append.1 hmem with hmem | hmem
        · exact h.latest cycle hmem
        · rw [List.mem_singleton.1 hmem, List.dropLast_concat, List.reverse_append]
          exact (List.sublist_append_left _ _).trans (List.sublist_append_right _ _)
  · rw [Findings.meet, if_neg hp]
    exact ⟨h, List.prefix_rfl, fun u _ => .inr (((h.mem_ids id).1 hmem).resolve_left hp)⟩

/-- **Entering a module** that the last module of the path imports. -/
lemma enter (h : Searched r compile path done f) (code : String) (hnew : id ∉ f.graph.ids)
    (hback : ∀ u ∈ path.getLast?, Imports r compile u id) :
    Searched r compile (path ++ [id]) done ((f.call id).reserve id code) := by
  have hnowhere : id ∉ path ∧ id ∉ done := by
    rwa [h.mem_ids, not_or] at hnew
  refine { h with mem_ids := fun t => ?_, nodup := ?_, apart := fun t ht => ?_, chain := ?_,
                  latest := fun cycle hcycle => ?_ }
  · rw [mem_ids_call_reserve code hnew, h.mem_ids, List.mem_append, List.mem_singleton,
      or_right_comm]
  · exact List.nodup_append.2 ⟨h.nodup, by simp, fun a ha b hb hab =>
      hnowhere.1 (List.mem_singleton.1 hb ▸ hab ▸ ha)⟩
  · rcases List.mem_append.1 ht with ht | ht
    · exact h.apart t ht
    · exact List.mem_singleton.1 ht ▸ hnowhere.2
  · refine h.chain.append (List.isChain_singleton id) fun u hu t ht => ?_
    cases Option.mem_some_iff.1 ht
    exact hback u hu
  · rw [List.reverse_concat]
    exact (h.latest cycle hcycle).trans ((List.sublist_cons_self id _).append_left done)

/-- **Finishing the last module of the path**, when all that it imports has been visited. -/
lemma finish (h : Searched r compile (path ++ [id]) done f) (m : ImportMap)
    (hvisited : ∀ t, Imports r compile id t → Visited f.cycles done id t) :
    Searched r compile path (done ++ [id]) (f.finish id m) := by
  have hdone : id ∉ done := h.apart id (by simp)
  have hpath : id ∉ path := fun hp => List.disjoint_of_nodup_append h.nodup hp (by simp)
  have hlast : (done ++ [id]).idxOf id = done.length := by
    rw [List.idxOf_append_of_notMem hdone]
    simp
  have hearlier : ∀ t ∈ done, (done ++ [id]).idxOf t = done.idxOf t :=
    fun t ht => List.idxOf_append_of_mem ht
  refine { h with mem_ids := fun t => ?_, nodup := ?_, nodup_done := ?_, apart := fun t ht => ?_,
                  chain := ?_, latest := fun cycle hcycle => ?_, order := fun u hu t ht => ?_ }
  · change t ∈ (f.graph.finish id m).ids ↔ _
    rw [DependencyGraph.ids_finish, h.mem_ids, List.mem_append, List.mem_append,
      List.mem_singleton, or_right_comm, or_assoc]
  · exact h.nodup.sublist (List.sublist_append_left _ _)
  · exact List.nodup_append.2 ⟨h.nodup_done, by simp, fun a ha b hb hab =>
      hdone (List.mem_singleton.1 hb ▸ hab ▸ ha)⟩
  · rw [List.mem_append, List.mem_singleton, not_or]
    exact ⟨h.apart t (List.mem_append_left _ ht), fun heq => hpath (heq ▸ ht)⟩
  · exact h.chain.left_of_append
  · have hlatest := h.latest cycle hcycle
    rwa [List.reverse_concat, List.append_cons] at hlatest
  · rcases List.mem_append.1 hu with hu | hu
    · refine (h.order u hu t ht).imp_right fun hlt => ?_
      have htdone : t ∈ done := List.idxOf_lt_length_iff.1 (hlt.trans_le List.idxOf_le_length)
      rwa [hearlier t htdone, hearlier u hu]
    · cases List.mem_singleton.1 hu
      refine (hvisited t ht).imp_right fun htdone => ?_
      rw [hlast, hearlier t htdone]
      exact List.idxOf_lt_length_iff.2 htdone

end Searched

/-! ## The search, call by call -/

/-- **What a call adds to the search**: modules that are done and cycles, so that the given modules,
    which the last module of the path imports, have been visited. -/
def Adds (r : Resolver σ) (compile : Compiler) (path done : List ModuleId) (f after : Findings)
    (targets : List ModuleId) (more : List ModuleId) : Prop :=
  Searched r compile path (done ++ more) after ∧ f.cycles <+: after.cycles
    ∧ ∀ t ∈ targets, ∀ u ∈ path.getLast?, Visited after.cycles (done ++ more) u t

namespace Adds

variable {path done more more' targets : List ModuleId} {f between after : Findings}
  {id u t : ModuleId}

lemma nothing (h : Searched r compile path done f) : Adds r compile path done f f [] [] :=
  ⟨by rwa [List.append_nil], List.prefix_rfl, by simp⟩

lemma meeting (h : Searched r compile path done f) (hmem : id ∈ f.graph.ids)
    (hback : ∀ u ∈ path.getLast?, Imports r compile u id) :
    Adds r compile path done f (f.meet path id) [id] [] := by
  obtain ⟨hmet, hgrown, hvisited⟩ := h.meet hmem hback
  refine ⟨by rwa [List.append_nil], hgrown, fun t ht => ?_⟩
  rw [List.append_nil, List.mem_singleton.1 ht]
  exact hvisited

/-- A module is done when all that it imports has been visited. -/
lemma closing {unit : CompiledModule} (hunit : Yields r compile id unit) (m : ImportMap)
    (h : Adds r compile (path ++ [id]) done ((f.call id).reserve id unit.code) after
      (unit.imports.map fun s => r.resolveId (some id) s) more) :
    Adds r compile path done f (after.finish id m) [id] (more ++ [id]) := by
  obtain ⟨hafter, hgrown, hvisited⟩ := h
  have hdone := hafter.finish m fun t ht => by
    obtain ⟨unit', hunit', s, hs, rfl⟩ := ht
    cases hunit.unique hunit'
    exact hvisited _ (List.mem_map_of_mem hs) id List.getLast?_concat
  refine ⟨by rwa [← List.append_assoc], hgrown, fun t ht u _ => ?_⟩
  rw [List.mem_singleton.1 ht]
  exact .inr (by simp)

/-- One more import, which has been visited already. -/
lemma cons (h : Adds r compile path done f after targets more) (hlast : path.getLast? = some u)
    (ht : Visited f.cycles done u t) : Adds r compile path done f after (t :: targets) more := by
  obtain ⟨hafter, hgrown, hvisited⟩ := h
  refine ⟨hafter, hgrown, fun t' ht' u' hu' => ?_⟩
  rcases List.mem_cons.1 ht' with rfl | ht'
  · cases hlast.symm.trans hu'
    exact ht.mono hgrown more
  · exact hvisited t' ht' u' hu'

/-- A call for one import, and a call for the others. -/
lemma trans (h : Adds r compile path done f between [t] more) (hlast : path.getLast? = some u)
    (h' : Adds r compile path (done ++ more) between after targets more') :
    Adds r compile path done f after (t :: targets) (more ++ more') := by
  obtain ⟨-, hgrown, hvisited⟩ := h
  obtain ⟨hafter, hgrown', hvisited'⟩ := h'.cons hlast (hvisited t (by simp) u hlast)
  refine ⟨?_, hgrown.trans hgrown', ?_⟩
  · rwa [← List.append_assoc]
  · rwa [← List.append_assoc]

end Adds

/-- **A call that returns has searched** what it was called for; both halves of the recursion at
    once. -/
theorem searched_visit (r : Resolver σ) (compile : Compiler) :
    (∀ path importer id f e, visit r compile path importer id f = some e →
      ∀ done, Searched r compile path done f →
        (∀ u ∈ path.getLast?, Imports r compile u id) →
          e.2 = .ok () → ∃ more, Adds r compile path done f e.1 [id] more)
    ∧ (∀ path id imports known f e, visitImports r compile path id imports known f = some e →
      ∀ done m, Searched r compile path done f → path.getLast? = some id →
        (∀ s ∈ imports, Imports r compile id (r.resolveId (some id) s)) →
        (∀ s ∈ known.keys, Visited f.cycles done id (r.resolveId (some id) s)) →
          e.2 = .ok m → ∃ more,
            Adds r compile path done f e.1 (imports.map fun s => r.resolveId (some id) s)
              more) := by
  refine DepthFirst.Findings.visit.mutual_partial_correctness r compile
    (fun path importer id f e =>
      ∀ done, Searched r compile path done f →
        (∀ u ∈ path.getLast?, Imports r compile u id) →
          e.2 = .ok () → ∃ more, Adds r compile path done f e.1 [id] more)
    (fun path id imports known f e =>
      ∀ done m, Searched r compile path done f → path.getLast? = some id →
        (∀ s ∈ imports, Imports r compile id (r.resolveId (some id) s)) →
        (∀ s ∈ known.keys, Visited f.cycles done id (r.resolveId (some id) s)) →
          e.2 = .ok m → ∃ more,
            Adds r compile path done f e.1 (imports.map fun s => r.resolveId (some id) s) more)
    ?_ ?_
  · intro recImports ih path importer id f e h done hsearched hback hok
    split at h
    · next hmem =>
        cases h
        exact ⟨[], .meeting hsearched ((DependencyGraph.contains_iff_mem_ids _ _).1 hmem) hback⟩
    · next hmem =>
        have hnew : id ∉ f.graph.ids :=
          fun hm => hmem ((DependencyGraph.contains_iff_mem_ids _ _).2 hm)
        cases hread : FileStore.read r.store id with
        | error cause =>
            rw [readSource, hread] at h
            cases h
            cases hok
        | ok source =>
            rw [readSource, hread] at h
            cases hcompile : compile id source with
            | error errors =>
                simp only [Except.mapError, hcompile] at h
                cases h
                cases hok
            | ok unit =>
                simp only [Except.mapError, hcompile] at h
                obtain ⟨⟨after, answer⟩, hcall, he⟩ := Option.bind_eq_some_iff.1 h
                cases he
                cases answer with
                | error errors => cases hok
                | ok m =>
                    have hunit : Yields r compile id unit := ⟨source, hread, hcompile⟩
                    obtain ⟨more, hmore⟩ := ih _ _ _ _ _ _ hcall done m
                      (hsearched.enter unit.code hnew hback) List.getLast?_concat
                      (fun s hs => ⟨unit, hunit, s, hs, rfl⟩) (by simp) rfl
                    exact ⟨_, hmore.closing hunit m⟩
  · intro recVisit recImports ihVisit ihImports path id imports known f e h done m hsearched hlast
      hback hknown hok
    cases imports with
    | nil =>
        cases h
        exact ⟨[], .nothing hsearched⟩
    | cons s imports =>
        have hback' := fun s' hs' => hback s' (List.mem_cons_of_mem s hs')
        simp only at h
        split at h
        -- A specifier that is known has been visited before.
        · next hmem =>
            obtain ⟨more, hmore⟩ := ihImports _ _ _ _ _ _ h done m hsearched hlast hback' hknown hok
            exact ⟨more, hmore.cons hlast
              (hknown s ((OrderedMap.contains_iff_mem_keys _ _).1 hmem))⟩
        · next hmem =>
            obtain ⟨⟨between, answer⟩, hcall, h⟩ := Option.bind_eq_some_iff.1 h
            cases answer with
            | error errors =>
                cases h
                cases hok
            | ok _ =>
                obtain ⟨more, hmore⟩ := ihVisit _ _ _ _ _ hcall done hsearched (fun u hu => by
                  cases hlast.symm.trans hu
                  exact hback s List.mem_cons_self) rfl
                obtain ⟨hbetween, hgrown, hvisited⟩ := hmore
                have hknown' : ∀ s' ∈ (known.insert s (r.resolveId (some id) s)).keys,
                    Visited between.cycles (done ++ more) id (r.resolveId (some id) s') := by
                  intro s' hs'
                  rw [OrderedMap.keys_insert, if_neg fun hs =>
                    hmem ((OrderedMap.contains_iff_mem_keys _ _).2 hs)] at hs'
                  rcases List.mem_append.1 hs' with hs' | hs'
                  · exact (hknown s' hs').mono hgrown more
                  · exact List.mem_singleton.1 hs' ▸ hvisited _ (by simp) id hlast
                obtain ⟨more', hmore'⟩ :=
                  ihImports _ _ _ _ _ _ h _ m hbetween hlast hback' hknown' hok
                exact ⟨_, Adds.trans ⟨hbetween, hgrown, hvisited⟩ hlast hmore'⟩

lemma searched_start (entry : ModuleId) :
    Searched r compile [] [] ⟨.new entry, [], []⟩ where
  mem_ids id := by simp
  nodup := List.nodup_nil
  nodup_done := List.nodup_nil
  apart id h := by simp at h
  chain := List.isChain_nil
  cycles cycle h := by simp at h
  nodup_cycles := List.nodup_nil
  latest cycle h := by simp at h
  order u h := by simp at h

/-- A loop that ends well has ended the call for its entry, with the same findings. -/
lemma visit_of_discover {entry : ModuleId} {reached : Discovery}
    (h : discover r compile entry = some ⟨reached, none⟩) :
    visit r compile [] none entry ⟨.new entry, [], []⟩ = some (reached.findings, .ok ()) := by
  obtain ⟨after, answer, hvisit, -⟩ := ends_of_run h
  have hperform := (visit_performs r compile).1 _ _ _ _ _ hvisit []
  cases answer with
  | error errors =>
      obtain ⟨opened, hrun⟩ := hperform
      cases h.symm.trans hrun
  | ok _ =>
      have hrun : discover r compile entry = some ⟨along [] after, none⟩ :=
        Eq.trans hperform (run_of_halt r compile rfl)
      cases h.symm.trans hrun
      exact hvisit

/-- **A discovery that went well** has searched everything, and nothing is open. -/
theorem searched_of_discover {entry : ModuleId} {reached : Discovery}
    (h : discover r compile entry = some ⟨reached, none⟩) :
    ∃ done, Searched r compile [] done reached.findings := by
  obtain ⟨done, hdone, -⟩ := (searched_visit r compile).1 _ _ _ _ _ (visit_of_discover h) []
    (searched_start entry) (by simp) rfl
  exact ⟨done, hdone⟩

/-- Noted cycles are determined by their modules. -/
lemma Searched.eq_of_mem_iff {done : List ModuleId} {f : Findings}
    (h : Searched r compile [] done f) {cycle cycle' : List ModuleId} (hcycle : cycle ∈ f.cycles)
    (hcycle' : cycle' ∈ f.cycles) (hmem : ∀ id, id ∈ cycle ↔ id ∈ cycle') : cycle = cycle' := by
  have hlatest := h.latest cycle hcycle
  have hlatest' := h.latest cycle' hcycle'
  obtain ⟨x, rest, rfl⟩ := (h.cycles cycle hcycle).exists_eq
  obtain ⟨y, rest', rfl⟩ := (h.cycles cycle' hcycle').exists_eq
  rw [List.dropLast_concat, List.reverse_nil, List.append_nil] at hlatest hlatest'
  have hreverse := eq_of_sublist h.nodup_done hlatest hlatest' fun id => by
    simpa [or_comm, or_left_comm] using hmem id
  cases List.reverse_injective hreverse
  rfl

/-- **What the noted cycles say about the imports.**  Let a discovery go well.  Every noted cycle is
    a cycle of the graph, with no module twice except that the first is also the last.  None is
    noted twice, not even from another of its modules on: no two of them have the same modules.
    There are none exactly if the imports are acyclic.  And without the imports that close a noted
    cycle, which are the last of their cycles, the imports are acyclic. -/
theorem discover_cycles {entry : ModuleId} {reached : Discovery}
    (h : discover r compile entry = some ⟨reached, none⟩) :
    let g := reached.graph
    let cycles := reached.cycles
    (∀ cycle ∈ cycles, IsCycle g.Imports cycle)
      ∧ cycles.Nodup
      ∧ (∀ cycle ∈ cycles, ∀ cycle' ∈ cycles,
          (∀ id, id ∈ cycle ↔ id ∈ cycle') → cycle = cycle')
      ∧ (cycles = [] ↔ Acyclic g.Imports)
      ∧ Acyclic fun u t => g.Imports u t ∧ ¬ ClosesCycle cycles u t := by
  intro g cycles
  have hexplored : Explored r compile entry reached := by
    rcases explored_or_failed h with ⟨-, hexplored⟩ | ⟨herrors, -⟩
    · exact hexplored
    · cases herrors
  have himports : ∀ u t, g.Imports u t ↔ u ∈ g.ids ∧ Imports r compile u t := by
    intro u t
    constructor
    · rintro ⟨record, hrecord, ht⟩
      obtain ⟨unit, hunit, rfl⟩ := hexplored.records u record hrecord
      exact ⟨DependencyGraph.mem_ids_of_get? hrecord, unit, hunit, (mem_values_importMapOf r).1 ht⟩
    · rintro ⟨hu, unit, hunit, ht⟩
      obtain ⟨record, hrecord⟩ := DependencyGraph.exists_get?_of_mem_ids hu
      obtain ⟨unit', hunit', rfl⟩ := hexplored.records u record hrecord
      cases hunit.unique hunit'
      exact ⟨_, hrecord, (mem_values_importMapOf r).2 ht⟩
  obtain ⟨done, hsearched⟩ := searched_of_discover h
  have hcycles : ∀ cycle ∈ cycles, IsCycle g.Imports cycle := fun cycle hcycle =>
    (hsearched.cycles cycle hcycle).imp fun u hu t hut =>
      (himports u t).2 ⟨(hexplored.mem_ids u).2 (Within.reachable_of_mem_cycle h hcycle hu), hut⟩
  have hwithout : Acyclic fun u t => g.Imports u t ∧ ¬ ClosesCycle cycles u t := by
    refine acyclic_of_rank (fun id => done.idxOf id) fun u t ⟨hut, hopen⟩ => ?_
    obtain ⟨hu, hut⟩ := (himports u t).1 hut
    have hdone : u ∈ done := ((hsearched.mem_ids u).1 hu).resolve_left List.not_mem_nil
    exact (hsearched.order u hdone t hut).resolve_left hopen
  refine ⟨hcycles, hsearched.nodup_cycles,
    fun cycle hcycle cycle' hcycle' => hsearched.eq_of_mem_iff hcycle hcycle',
    ⟨fun hnone => ?_, fun hacyclic => ?_⟩, hwithout⟩
  · have hopen : ∀ u t, ¬ ClosesCycle cycles u t := by
      rintro u t ⟨cycle, hcycle, -⟩
      rw [hnone] at hcycle
      cases hcycle
    exact hwithout.mono fun u t hut => ⟨hut, hopen u t⟩
  · refine List.eq_nil_iff_forall_not_mem.2 fun cycle hcycle => ?_
    obtain ⟨id, hid⟩ := (hcycles cycle hcycle).transGen
    exact hacyclic id hid

end Discovery

namespace Scan

open Discovery (discover)

/-- Two modules that import each other are a cycle that is noted. -/
theorem discover_cycles_pair :
    ∃ reached, discover (resolver pairSettings pairStore) compileSpecifier
          (entry pairSettings pairStore) = some ⟨reached, none⟩
      ∧ reached.cycles ≠ [] := by
  have habs : pairSettings.cwd.isAbsolute = true := by decide +kernel
  obtain ⟨found, hscan⟩ := (exists_scan_iff pairSettings pairStore compileSpecifier habs).2
    fun id hid => by
      rcases (reachable_pair_iff id).1 hid with rfl | rfl
      · exact ⟨_, yields_pair_a⟩
      · exact ⟨_, yields_pair_b⟩
  obtain ⟨reached, hrun, -⟩ := scan_eq_ok_iff.1 hscan
  have hexplored := explored_of_scan hrun
  have himports : ∀ id source target,
      Discovery.Yields (resolver pairSettings pairStore) compileSpecifier id ⟨source, [source]⟩ →
        id = ⟨"/p/a.js"⟩ ∨ id = ⟨"/p/b.js"⟩ →
          (resolver pairSettings pairStore).resolveId (some id) source = target →
            reached.graph.Imports id target := by
    rintro id source target hunit hid rfl
    obtain ⟨record, hrecord⟩ := DependencyGraph.exists_get?_of_mem_ids
      ((hexplored.mem_ids id).2 ((reachable_pair_iff id).2 hid))
    obtain ⟨unit, hunit', rfl⟩ := hexplored.records id record hrecord
    cases hunit.unique hunit'
    exact ⟨_, hrecord, (Discovery.mem_values_importMapOf _).2 ⟨source, by simp, rfl⟩⟩
  refine ⟨reached, hrun, fun hnone => ?_⟩
  obtain ⟨-, -, -, hacyclic, -⟩ := Discovery.discover_cycles hrun
  have hab : reached.graph.Imports ⟨"/p/a.js"⟩ ⟨"/p/b.js"⟩ :=
    himports _ _ _ yields_pair_a (.inl rfl) (by decide +kernel)
  have hba : reached.graph.Imports ⟨"/p/b.js"⟩ ⟨"/p/a.js"⟩ :=
    himports _ _ _ yields_pair_b (.inr rfl) (by decide +kernel)
  exact hacyclic.1 hnone _ (.tail (.single hab) hba)

end Scan

end ModuleBundler
