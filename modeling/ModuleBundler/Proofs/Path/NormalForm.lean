import Mathlib.Data.List.Basic
import ModuleBundler.Graph.ModuleId

/-!
# Canonical paths and relative positions

**Canonical paths.**  An absolute path in normal form is a list of names behind the root, and
nothing else: `rooted`.  Its segments, components, walk and place are all that list again, and the
normal form of any absolute path is of this kind (`isCanonical_normal`).

**Relative positions.**  A route is undone by walking it: from the base, the route leads to the
target (`foldl_walk_route`).  So targets with one route from one base are one target, and since
the steps of a route can be read off its text (`steps_stepsText`), the stable id of a canonical path
determines the path (`stable_injective`).
-/

namespace ModuleBundler

namespace Text

/-- Cutting at a character is the library's splitting. -/
lemma cutAt_eq_splitOn (mark : Char) (cs : List Char) : cutAt mark cs = cs.splitOn mark := by
  induction cs with
  | nil => rfl
  | cons c rest ih =>
      rw [cutAt, List.splitOn_cons_eq_if_modifyHead, ih]
      by_cases hc : c = mark
      · simp [hc]
      · rw [if_neg hc, if_neg (by simpa using hc)]
        cases hsplit : rest.splitOn mark with
        | nil => exact absurd hsplit (List.splitOn_ne_nil mark rest)
        | cons piece pieces => rfl

end Text

namespace Path

/-- What can stand between two separators and be a name rather than a step. -/
def IsName (n : String) : Prop :=
  n ≠ "" ∧ n ≠ "." ∧ n ≠ ".." ∧ '/' ∉ n.toList

instance (n : String) : Decidable (IsName n) := inferInstanceAs (Decidable (_ ∧ _))

/-- The absolute path of some names. -/
def rooted (names : List String) : Path := ⟨"/" ++ stepsText (names.map .name)⟩

/-- **A canonical path**: absolute and in normal form. -/
def IsCanonical (p : Path) : Prop := ∃ names, (∀ n ∈ names, IsName n) ∧ p = rooted names

/-- A step that goes into a name. -/
def IsInward (c : Component) : Prop := ∃ n, IsName n ∧ c = .name n

/-! ## Reading a canonical path -/

lemma toList_stepsText (steps : List Component) :
    (stepsText steps).toList = ['/'].intercalate (steps.map fun c => c.text.toList) := by
  rw [stepsText, String.toList_intercalate, List.map_map]
  rfl

lemma toList_rooted (names : List String) :
    (rooted names).text.toList = '/' :: ['/'].intercalate (names.map String.toList) := by
  rw [rooted, String.toList_append, toList_stepsText, List.map_map]
  rfl

@[simp] lemma isAbsolute_rooted (names : List String) : (rooted names).isAbsolute = true := by
  rw [isAbsolute, toList_rooted]
  rfl

lemma stepOf_name {n : String} (h : IsName n) : stepOf n.toList = some (.name n) := by
  have hne : n.toList ≠ [] := by simpa using h.1
  have hdot : n.toList ≠ ['.'] := fun e => h.2.1 (String.toList_inj.1 (e.trans rfl))
  have hdots : n.toList ≠ ['.', '.'] := fun e => h.2.2.1 (String.toList_inj.1 (e.trans rfl))
  rw [stepOf, if_neg hne, if_neg hdot, if_neg hdots, String.ofList_toList]

lemma filterMap_stepOf_names {names : List String} (h : ∀ n ∈ names, IsName n) :
    (names.map String.toList).filterMap stepOf = names.map .name := by
  induction names with
  | nil => rfl
  | cons n names ih =>
      rw [List.map_cons, List.filterMap_cons_some (stepOf_name (h n (by simp))),
        ih fun m hm => h m (by simp [hm])]
      rfl

/-- The components of a canonical path are its names behind the root. -/
lemma components_rooted {names : List String} (h : ∀ n ∈ names, IsName n) :
    (rooted names).components = .root :: names.map .name := by
  rw [components, if_pos (isAbsolute_rooted names), rawSegments, Text.cutAt_eq_splitOn,
    toList_rooted]
  congr 1
  rw [List.splitOn_cons_eq_if_modifyHead, if_pos (by simp)]
  cases names with
  | nil => rfl
  | cons n rest =>
      rw [List.splitOn_intercalate '/' ?_ (by simp)]
      · exact filterMap_stepOf_names h
      · intro segment hs
        obtain ⟨m, hm, rfl⟩ := List.mem_map.1 hs
        exact (h m hm).2.2.2

lemma foldl_walk_names (absolute : Bool) (names : List String) (walked : List Component) :
    (names.map Component.name).foldl (walk absolute) walked
      = (names.map Component.name).reverse ++ walked := by
  induction names generalizing walked with
  | nil => rfl
  | cons n rest ih => simp [walk, ih]

lemma walked_rooted {names : List String} (h : ∀ n ∈ names, IsName n) :
    (rooted names).walked = (names.map Component.name).reverse := by
  rw [walked, components_rooted h, isAbsolute_rooted, List.foldl_cons]
  exact (foldl_walk_names true names []).trans (List.append_nil _)

/-- A canonical path is its own normal form. -/
lemma normal_rooted {names : List String} (h : ∀ n ∈ names, IsName n) :
    (rooted names).normal = rooted names := by
  rw [normal, walked_rooted h, List.reverse_reverse, if_pos (isAbsolute_rooted names), rooted]

lemma place_rooted {names : List String} (h : ∀ n ∈ names, IsName n) :
    (rooted names).place = names.map .name := by
  rw [place, fromRoot, if_pos (isAbsolute_rooted names), walked_rooted h, List.reverse_reverse]

/-! ## Normal forms are canonical -/

/-- A canonical path has its names only. -/
lemma rooted_injective {names names' : List String} (h : ∀ n ∈ names, IsName n)
    (h' : ∀ n ∈ names', IsName n) (heq : rooted names = rooted names') : names = names' := by
  have hplace := congrArg place heq
  rw [place_rooted h, place_rooted h'] at hplace
  exact List.map_injective_iff.2 (fun a b hab => Component.name.inj hab) hplace

lemma stepOf_inward {segment : List Char} {n : String} (hs : '/' ∉ segment)
    (h : stepOf segment = some (.name n)) : IsName n := by
  unfold stepOf at h
  split at h
  · cases h
  · next hempty =>
      split at h
      · cases h
      · next hdot =>
          split at h
          · cases h
          · next hdots =>
              cases h
              refine ⟨?_, ?_, ?_, by simpa using hs⟩
              · exact fun e => hempty (by simpa using e)
              · exact fun e => hdot (by simpa using congrArg String.toList e)
              · exact fun e => hdots (by simpa using congrArg String.toList e)

/-- The segments of a path hold no separator. -/
lemma notMem_rawSegments (p : Path) : ∀ segment ∈ p.rawSegments, '/' ∉ segment := by
  have hcut : ∀ cs : List Char, ∀ segment ∈ Text.cutAt '/' cs, '/' ∉ segment := by
    intro cs
    induction cs with
    | nil => simp [Text.cutAt]
    | cons c rest ih =>
        rw [Text.cutAt]
        split
        · simpa using ih
        · next hc =>
            split
            · simpa using Ne.symm hc
            · next piece pieces hrest =>
                rw [hrest] at ih
                simp only [List.mem_cons, forall_eq_or_imp] at ih ⊢
                exact ⟨by simpa [Ne.symm hc] using ih.1, ih.2⟩
  exact hcut p.text.toList

/-- From the root, only names are ever walked. -/
lemma foldl_walk_inward {steps walked : List Component}
    (hsteps : ∀ n, .name n ∈ steps → IsName n) (hwalked : ∀ c ∈ walked, IsInward c) :
    ∀ c ∈ steps.foldl (walk true) walked, IsInward c := by
  induction steps generalizing walked with
  | nil => exact hwalked
  | cons step rest ih =>
      refine ih (fun n hn => hsteps n (by simp [hn])) ?_
      intro c hc
      cases step with
      | root => exact hwalked c hc
      | here => exact hwalked c hc
      | up =>
          cases walked with
          | nil => cases hc
          | cons w before =>
              obtain ⟨n, -, rfl⟩ := hwalked w (by simp)
              exact hwalked c (by simp [show c ∈ before from hc])
      | name n =>
          rcases List.mem_cons.1 hc with rfl | hc
          · exact ⟨n, hsteps n (by simp), rfl⟩
          · exact hwalked c hc

lemma walked_inward {p : Path} (h : p.isAbsolute = true) : ∀ c ∈ p.walked, IsInward c := by
  rw [walked, h]
  refine foldl_walk_inward ?_ (by simp)
  intro n hn
  rw [components, if_pos h, List.mem_cons] at hn
  rcases hn with hn | hn
  · cases hn
  · obtain ⟨segment, hs, hstep⟩ := List.mem_filterMap.1 hn
    exact stepOf_inward (notMem_rawSegments p segment hs) hstep

lemma exists_names {steps : List Component} (h : ∀ c ∈ steps, IsInward c) :
    ∃ names : List String, (∀ n ∈ names, IsName n) ∧ steps = names.map .name := by
  induction steps with
  | nil => exact ⟨[], by simp, rfl⟩
  | cons c rest ih =>
      obtain ⟨n, hn, rfl⟩ := h c (by simp)
      obtain ⟨names, hnames, rfl⟩ := ih fun c hc => h c (by simp [hc])
      exact ⟨n :: names, by simpa using ⟨hn, hnames⟩, rfl⟩

/-- The normal form of an absolute path has the names that the path has walked to. -/
lemma exists_normal_eq_rooted {p : Path} (h : p.isAbsolute = true) :
    ∃ names, (∀ n ∈ names, IsName n) ∧ p.walked = (names.map Component.name).reverse
      ∧ p.normal = rooted names := by
  have hinward : ∀ c ∈ p.walked.reverse, IsInward c := fun c hc =>
    walked_inward h c (List.mem_reverse.1 hc)
  obtain ⟨names, hnames, hwalked⟩ := exists_names hinward
  refine ⟨names, hnames, List.reverse_eq_iff.1 hwalked, ?_⟩
  rw [normal, if_pos h, hwalked, rooted]

/-- **The normal form of an absolute path is canonical.** -/
theorem isCanonical_normal {p : Path} (h : p.isAbsolute = true) : IsCanonical p.normal := by
  obtain ⟨names, hnames, -, hnormal⟩ := exists_normal_eq_rooted h
  exact ⟨names, hnames, hnormal⟩

lemma isAbsolute_of_canonical {p : Path} (h : IsCanonical p) : p.isAbsolute = true := by
  obtain ⟨names, -, rfl⟩ := h
  exact isAbsolute_rooted names

/-- Canonical paths are the absolute ones that are their own normal form. -/
lemma isCanonical_iff {p : Path} : IsCanonical p ↔ p.isAbsolute = true ∧ p.normal = p := by
  refine ⟨fun h => ⟨isAbsolute_of_canonical h, ?_⟩, fun ⟨habsolute, hnormal⟩ => ?_⟩
  · obtain ⟨names, hnames, rfl⟩ := h
    exact normal_rooted hnames
  · rw [← hnormal]
    exact isCanonical_normal habsolute

lemma place_inward (p : Path) : ∀ c ∈ p.place, IsInward c := by
  have habsolute : p.fromRoot.isAbsolute = true := by
    unfold fromRoot
    split
    · assumption
    · rw [isAbsolute, String.toList_append]
      rfl
  intro c hc
  rw [place, List.mem_reverse] at hc
  exact walked_inward habsolute c hc

/-! ## Relative positions -/

/-- Going up undoes names. -/
lemma foldl_walk_up {walked : List Component} (h : ∀ c ∈ walked, IsInward c)
    (before : List Component) :
    (walked.map fun _ => Component.up).foldl (walk true) (walked ++ before) = before := by
  induction walked with
  | nil => rfl
  | cons c rest ih =>
      obtain ⟨n, -, rfl⟩ := h c (by simp)
      rw [List.map_cons, List.foldl_cons]
      exact ih fun c hc => h c (by simp [hc])

/-- Going all the way up, then in. -/
lemma foldl_walk_out_in {base target : List Component} (hbase : ∀ c ∈ base, IsInward c)
    (htarget : ∀ c ∈ target, IsInward c) (before : List Component) :
    (base.map (fun _ => Component.up) ++ target).foldl (walk true) (base.reverse ++ before)
      = target.reverse ++ before := by
  have hups : base.map (fun _ => Component.up) = base.reverse.map fun _ => Component.up := by
    simp
  obtain ⟨names, -, rfl⟩ := exists_names htarget
  rw [List.foldl_append, hups, foldl_walk_up fun c hc => hbase c (List.mem_reverse.1 hc)]
  exact foldl_walk_names true names before

/-- **A route leads from the base to the target.** -/
theorem foldl_walk_route {base target : List Component} (hbase : ∀ c ∈ base, IsInward c)
    (htarget : ∀ c ∈ target, IsInward c) (before : List Component) :
    (route base target).foldl (walk true) (base.reverse ++ before)
      = target.reverse ++ before := by
  induction base generalizing target before with
  | nil =>
      have hnone : ∀ c ∈ ([] : List Component), IsInward c := by simp
      have h := foldl_walk_out_in hnone htarget before
      cases target <;> exact h
  | cons b base ih =>
      cases target with
      | nil => exact foldl_walk_out_in hbase htarget before
      | cons t target =>
          rw [route]
          split
          -- A shared beginning stays walked, so it counts among what was walked before.
          · next heq =>
              subst heq
              have hrest : ∀ c ∈ target, IsInward c := fun c hc => htarget c (by simp [hc])
              have hshared := ih (fun c hc => hbase c (by simp [hc])) hrest (b :: before)
              simpa using hshared
          · exact foldl_walk_out_in hbase htarget before

/-- Targets with one route from one base are one target. -/
lemma route_injective {base target target' : List Component} (hbase : ∀ c ∈ base, IsInward c)
    (htarget : ∀ c ∈ target, IsInward c) (htarget' : ∀ c ∈ target', IsInward c)
    (h : route base target = route base target') : target = target' := by
  have hwalk := foldl_walk_route hbase htarget []
  rw [h, foldl_walk_route hbase htarget' [], List.append_nil, List.append_nil] at hwalk
  exact (List.reverse_injective hwalk).symm

/-- A step of a route: up, or to a name. -/
def IsRouteStep (c : Component) : Prop := c = .up ∨ IsInward c

/-- The steps of a route go up, or to names. -/
lemma route_steps {base target : List Component} (htarget : ∀ c ∈ target, IsInward c) :
    ∀ c ∈ route base target, IsRouteStep c := by
  have hsteps : ∀ (ups inwards : List Component), (∀ c ∈ inwards, IsInward c) →
      ∀ c ∈ ups.map (fun _ => Component.up) ++ inwards, IsRouteStep c := by
    intro ups inwards hin c hc
    rcases List.mem_append.1 hc with hc | hc
    · obtain ⟨-, -, rfl⟩ := List.mem_map.1 hc
      exact .inl rfl
    · exact .inr (hin c hc)
  induction base generalizing target with
  | nil =>
      have h := hsteps [] target htarget
      cases target <;> exact h
  | cons b base ih =>
      cases target with
      | nil => exact hsteps (b :: base) [] htarget
      | cons t target =>
          rw [route]
          split
          · exact ih fun c hc => htarget c (by simp [hc])
          · exact hsteps (b :: base) (t :: target) htarget

lemma IsRouteStep.text_ne {c : Component} (h : IsRouteStep c) : c.text.toList ≠ [] := by
  rcases h with rfl | ⟨n, hn, rfl⟩
  · decide
  · exact fun e => hn.1 (String.toList_inj.1 (e.trans rfl))

lemma IsRouteStep.notMem_text {c : Component} (h : IsRouteStep c) : '/' ∉ c.text.toList := by
  rcases h with rfl | ⟨n, hn, rfl⟩
  · decide
  · exact hn.2.2.2

/-- The text of a route can be cut into the texts of its steps. -/
lemma splitOn_stepsText {steps : List Component} (h : ∀ c ∈ steps, IsRouteStep c) :
    (stepsText steps).toList.splitOn '/'
      = if steps = [] then [[]] else steps.map fun c => c.text.toList := by
  rw [toList_stepsText]
  split
  · next hnil => rw [hnil]; rfl
  · next hne =>
      refine List.splitOn_intercalate '/' ?_ (by simpa using hne)
      intro segment hs
      obtain ⟨c, hc, rfl⟩ := List.mem_map.1 hs
      exact (h c hc).notMem_text

lemma IsRouteStep.stepOf_text {c : Component} (h : IsRouteStep c) :
    stepOf c.text.toList = some c := by
  rcases h with rfl | ⟨n, hn, rfl⟩
  · rfl
  · exact stepOf_name hn

/-- The steps of a path, whether or not the first of them is the root or stays. -/
def steps (p : Path) : List Component := p.rawSegments.filterMap stepOf

/-- The steps of a route can be read off its text. -/
lemma steps_stepsText {steps : List Component} (h : ∀ c ∈ steps, IsRouteStep c) :
    (⟨stepsText steps⟩ : Path).steps = steps := by
  rw [Path.steps, rawSegments, Text.cutAt_eq_splitOn, splitOn_stepsText h]
  split
  · next hnil => rw [hnil]; rfl
  · rw [List.filterMap_map]
    exact (List.filterMap_congr fun c hc => (h c hc).stepOf_text).trans List.filterMap_some

/-- Routes with one text are one route. -/
lemma stepsText_injective {steps steps' : List Component} (h : ∀ c ∈ steps, IsRouteStep c)
    (h' : ∀ c ∈ steps', IsRouteStep c) (heq : stepsText steps = stepsText steps') :
    steps = steps' := by
  rw [← steps_stepsText h, heq, steps_stepsText h']

end Path

namespace ModuleId

/-- **The stable id of a canonical path determines the path.** -/
theorem stable_injective {a b : ModuleId} (cwd : Path) (ha : Path.IsCanonical a)
    (hb : Path.IsCanonical b) (h : stable a cwd = stable b cwd) : a = b := by
  rw [stable, stable, if_pos (Path.isAbsolute_of_canonical ha),
    if_pos (Path.isAbsolute_of_canonical hb)] at h
  simp only [Path.relativeTo] at h
  have hsteps : ∀ p : Path, ∀ c ∈ Path.route cwd.place p.place, Path.IsRouteStep c :=
    fun p => Path.route_steps p.place_inward
  have hroute : Path.route cwd.place a.place = Path.route cwd.place b.place :=
    Path.stepsText_injective (hsteps a) (hsteps b) h
  have hplace : a.place = b.place :=
    Path.route_injective cwd.place_inward a.place_inward b.place_inward hroute
  obtain ⟨names, hnames, rfl⟩ := ha
  obtain ⟨names', hnames', rfl⟩ := hb
  rw [Path.place_rooted hnames, Path.place_rooted hnames'] at hplace
  rw [Path.rooted, Path.rooted, hplace]

end ModuleId

end ModuleBundler
