import ModuleBundler.Proofs.Graph.Resolution

/-!
# Places inside a directory

What is done to the path of a place inside a directory depends on how one gets there from the
directory, and not on where the directory is.

**Reading on.**  The steps of a relative path that is joined to an absolute one come behind its
steps (`steps_join`), so its walk goes on where the first one has led (`walked_join`).

**Staying inside.**  `staysInside depth steps` says that steps taken `depth` names below a directory
never climb above it.  Such steps leave the names of the directory alone (`foldl_walk_append`), so
what they lead to is the directory followed by `follow`, which does not know the directory
(`normal_join_rooted`).

**Going back.**  The directory of a module drops its last name (`directory_rooted`), and its stable
id drops the names of the working directory (`stable_rooted`).
-/

namespace ModuleBundler

namespace Text

/-- Cutting at a mark cuts both sides of it. -/
lemma cutAt_append_mark (mark : Char) (before after : List Char) :
    cutAt mark (before ++ mark :: after) = cutAt mark before ++ cutAt mark after := by
  induction before with
  | nil => simp [cutAt]
  | cons c rest ih =>
      rw [List.cons_append, cutAt, cutAt, ih]
      split
      · rfl
      · cases hrest : cutAt mark rest with
        | nil => exact absurd hrest (cutAt_ne_nil mark rest)
        | cons piece pieces => rfl

end Text

namespace Path

/-! ## Reading on -/

/-- A separator between two texts separates their steps. -/
lemma steps_append (before after : String) :
    (⟨before ++ "/" ++ after⟩ : Path).steps
      = (⟨before⟩ : Path).steps ++ (⟨after⟩ : Path).steps := by
  have htext : (before ++ "/" ++ after).toList = before.toList ++ '/' :: after.toList := by simp
  rw [steps, rawSegments, htext, Text.cutAt_append_mark, List.filterMap_append]
  rfl

/-- A separator at the end of a path is no step. -/
lemma steps_append_separator (before : String) :
    (⟨before ++ "/"⟩ : Path).steps = (⟨before⟩ : Path).steps := by
  have hempty : (⟨""⟩ : Path).steps = [] := rfl
  have happend := steps_append before ""
  rwa [String.append_empty, hempty, List.append_nil] at happend

/-- A text without a separator is a relative path. -/
lemma isAbsolute_of_notMem {s : String} (h : '/' ∉ s.toList) :
    (⟨s⟩ : Path).isAbsolute = false := by
  rw [← Bool.not_eq_true, isAbsolute_iff]
  rintro ⟨rest, hrest⟩
  exact h (hrest ▸ List.mem_cons_self)

/-- A relative path stands behind an absolute one and a separator, which may be there already. -/
lemma exists_join_eq {p q : Path} (hp : p.isAbsolute = true) (hq : q.isAbsolute = false) :
    ∃ front, p.join q = ⟨front ++ "/" ++ q.text⟩
      ∧ (p.text = front ++ "/" ∨ (p.text = front ∧ front.toList.getLast? ≠ some '/')) := by
  have hnil : p.text.toList ≠ [] := by
    obtain ⟨rest, hrest⟩ := (isAbsolute_iff p).1 hp
    simp [hrest]
  rw [join, if_neg (by simp [hq]), if_neg hnil]
  split
  · next hlast =>
      have htext : p.text = String.ofList p.text.toList.dropLast ++ "/" := by
        rw [← String.toList_inj, String.toList_append, String.toList_ofList]
        exact (List.dropLast_append_getLast? '/' hlast).symm
      exact ⟨_, by rw [← htext], .inl htext⟩
  · next hlast => exact ⟨_, rfl, .inr ⟨rfl, hlast⟩⟩

/-- One separator more or less at the end makes no difference for the steps. -/
lemma steps_front {p : Path} {front : String}
    (h : p.text = front ++ "/" ∨ (p.text = front ∧ front.toList.getLast? ≠ some '/')) :
    (⟨front⟩ : Path).steps = p.steps := by
  rcases h with htext | ⟨htext, -⟩
  · rw [← steps_append_separator, ← htext]
  · rw [← htext]

/-- **A relative path is read on behind an absolute one.** -/
theorem steps_join {p q : Path} (hp : p.isAbsolute = true) (hq : q.isAbsolute = false) :
    (p.join q).steps = p.steps ++ q.steps := by
  obtain ⟨front, hjoin, htext⟩ := exists_join_eq hp hq
  rw [hjoin, steps_append, steps_front htext]

lemma components_of_isAbsolute {p : Path} (h : p.isAbsolute = true) :
    p.components = .root :: p.steps := by
  rw [components, if_pos h, steps]

/-- The walk of an absolute path takes its steps from the root. -/
lemma walked_of_isAbsolute {p : Path} (h : p.isAbsolute = true) :
    p.walked = p.steps.foldl (walk true) [] := by
  rw [walked, components_of_isAbsolute h, h]
  rfl

/-- The walk of a relative path that is read on goes on where the first one has led. -/
lemma walked_join {p q : Path} (hp : p.isAbsolute = true) (hq : q.isAbsolute = false) :
    (p.join q).walked = q.steps.foldl (walk true) p.walked := by
  rw [walked_of_isAbsolute (isAbsolute_join hp q), steps_join hp hq, List.foldl_append,
    ← walked_of_isAbsolute hp]

/-! ## Staying inside -/

/-- **Whether steps stay inside** a directory, taken from `depth` names below it. -/
def staysInside : ℕ → List Component → Bool
  | _, [] => true
  | 0, .up :: _ => false
  | depth + 1, .up :: rest => staysInside depth rest
  | depth, .name _ :: rest => staysInside (depth + 1) rest
  | depth, _ :: rest => staysInside depth rest

/-- **A specifier that stays inside**: a relative path whose steps never climb above the directory
    that the module lies `depth` names below. -/
def Confined (depth : ℕ) (specifier : String) : Prop :=
  (⟨specifier⟩ : Path).isAbsolute = false ∧ staysInside depth (⟨specifier⟩ : Path).steps = true

instance (depth : ℕ) (specifier : String) : Decidable (Confined depth specifier) :=
  inferInstanceAs (Decidable (_ ∧ _))

/-- The names that a specifier leads to, from other names. -/
def follow (names : List String) (specifier : String) : List String :=
  (((⟨specifier⟩ : Path).steps.foldl (walk true) (names.map Component.name).reverse).reverse).map
    Component.text

/-- Steps that stay inside leave alone what was walked before. -/
lemma foldl_walk_append {steps walked : List Component} (hwalked : ∀ c ∈ walked, ∃ n, c = .name n)
    (hinside : staysInside walked.length steps = true) (before : List Component) :
    steps.foldl (walk true) (walked ++ before) = steps.foldl (walk true) walked ++ before := by
  induction steps generalizing walked with
  | nil => rfl
  | cons step rest ih =>
      cases step with
      | root => exact ih hwalked (by simpa [staysInside] using hinside)
      | here => exact ih hwalked (by simpa [staysInside] using hinside)
      | name n =>
          have hnames : ∀ c ∈ Component.name n :: walked, ∃ m, c = .name m :=
            List.forall_mem_cons.2 ⟨⟨n, rfl⟩, hwalked⟩
          exact ih hnames (by simpa [staysInside] using hinside)
      | up =>
          cases walked with
          | nil => simp [staysInside] at hinside
          | cons c walked =>
              obtain ⟨n, rfl⟩ := hwalked c (by simp)
              exact ih (fun c hc => hwalked c (by simp [hc])) (by simpa [staysInside] using hinside)

lemma name_of_mem_steps {p : Path} {n : String} (h : .name n ∈ p.steps) : IsName n := by
  obtain ⟨segment, hs, hstep⟩ := List.mem_filterMap.1 h
  exact stepOf_inward (notMem_rawSegments p segment hs) hstep

lemma inward_of_names {names : List String} (h : ∀ n ∈ names, IsName n) :
    ∀ c ∈ (names.map Component.name).reverse, IsInward c := by
  intro c hc
  obtain ⟨n, hn, rfl⟩ := List.mem_map.1 (List.mem_reverse.1 hc)
  exact ⟨n, h n hn, rfl⟩

/-- What a specifier leads to from names is names again. -/
lemma follow_spec {names : List String} (h : ∀ n ∈ names, IsName n) (specifier : String) :
    (∀ n ∈ follow names specifier, IsName n)
      ∧ ((⟨specifier⟩ : Path).steps.foldl (walk true) (names.map Component.name).reverse).reverse
          = (follow names specifier).map .name := by
  have hinward := foldl_walk_inward (fun n hn => name_of_mem_steps (p := ⟨specifier⟩) hn)
    (inward_of_names h)
  obtain ⟨reached, hreached, heq⟩ := exists_names fun c hc => hinward c (List.mem_reverse.1 hc)
  have hfollow : follow names specifier = reached := by
    rw [follow, heq, List.map_map]
    exact List.map_id reached
  rw [hfollow]
  exact ⟨hreached, heq⟩

/-- **What a specifier that stays inside leads to** does not depend on the directory that it stays
    inside of. -/
theorem normal_join_rooted {base names : List String} (hbase : ∀ n ∈ base, IsName n)
    (hnames : ∀ n ∈ names, IsName n) {specifier : String}
    (hconfined : Confined names.length specifier) :
    ((rooted (base ++ names)).join ⟨specifier⟩).normal
      = rooted (base ++ follow names specifier) := by
  have hall : ∀ n ∈ base ++ names, IsName n := fun n hn =>
    (List.mem_append.1 hn).elim (hbase n) (hnames n)
  have habs := isAbsolute_join (isAbsolute_rooted (base ++ names)) ⟨specifier⟩
  have hwalked : ((rooted (base ++ names)).join ⟨specifier⟩).walked
      = (⟨specifier⟩ : Path).steps.foldl (walk true) (names.map Component.name).reverse
          ++ (base.map Component.name).reverse := by
    rw [walked_join (isAbsolute_rooted _) hconfined.1, walked_rooted hall, List.map_append,
      List.reverse_append]
    refine foldl_walk_append (fun c hc => ?_) (by simpa using hconfined.2) _
    obtain ⟨n, -, rfl⟩ := inward_of_names hnames c hc
    exact ⟨n, rfl⟩
  rw [normal, if_pos habs, hwalked, List.reverse_append, List.reverse_reverse,
    (follow_spec hnames specifier).2, ← List.map_append, rooted]

/-! ## Going back -/

lemma rawSegments_rooted {names : List String} (h : ∀ n ∈ names, IsName n) (hne : names ≠ []) :
    (rooted names).rawSegments = [] :: names.map String.toList := by
  rw [rawSegments, Text.cutAt_eq_splitOn, toList_rooted, List.splitOn_cons_eq_if_modifyHead,
    if_pos (by simp), List.splitOn_intercalate '/' ?_ (by simpa using hne)]
  intro segment hs
  obtain ⟨m, hm, rfl⟩ := List.mem_map.1 hs
  exact (h m hm).2.2.2

/-- A name is no filler. -/
lemma dropFiller_name {n : String} (hn : IsName n) (rest : List (List Char)) :
    dropFiller (n.toList :: rest) = n.toList :: rest := by
  have hfiller : ¬ (n.toList = [] ∨ n.toList = ['.']) := by
    rintro (he | he)
    · exact hn.1 (by simpa using he)
    · exact hn.2.1 (String.toList_inj.1 (he.trans rfl))
  cases rest with
  | nil => rfl
  | cons next rest => rw [dropFiller, if_neg hfiller]

/-- Segments of names from the last to the first, down to the empty one in front of the root, spell
    the canonical path. -/
lemma spell_segments {names : List String} (h : ∀ n ∈ names, IsName n) :
    spell (dropFiller ((names.map String.toList).reverse ++ [[]])) = rooted names := by
  rcases names.eq_nil_or_concat' with rfl | ⟨before, n, rfl⟩
  · rfl
  · have hsegments : (((before ++ [n]).map String.toList).reverse ++ [[]] : List (List Char))
        = n.toList :: ((before.map String.toList).reverse ++ [[]]) := by simp
    rw [hsegments, dropFiller_name (h n (by simp)), ← hsegments, spell]
    · refine congrArg Path.mk (String.toList_inj.1 ?_)
      change _ = (rooted (before ++ [n])).text.toList
      rw [String.toList_ofList, toList_rooted, List.reverse_append,
        List.reverse_reverse, List.reverse_singleton, List.singleton_append,
        List.intercalate_cons_of_ne_nil (by simp)]
      rfl
    · simp

/-- The parent of a canonical path drops the last name. -/
lemma parent?_rooted {names : List String} {n : String} (h : ∀ m ∈ names ++ [n], IsName m) :
    (rooted (names ++ [n])).parent? = some (rooted names) := by
  have hsegments : (rooted (names ++ [n])).rawSegments.reverse
      = n.toList :: ((names.map String.toList).reverse ++ [[]]) := by
    rw [rawSegments_rooted h (by simp), List.reverse_cons, List.map_append, List.reverse_append]
    rfl
  have hspell := spell_segments fun m hm => h m (List.mem_append_left [n] hm)
  rw [parent?, hsegments, dropFiller_name (h n (by simp))]
  cases hrest : (names.map String.toList).reverse ++ [[]] with
  | nil => simp at hrest
  | cons next rest =>
      rw [hrest] at hspell
      cases n.toList <;> exact congrArg some hspell

/-- From a directory to a place inside it, the route is the rest of the names. -/
lemma route_append (base target : List Component) : route base (base ++ target) = target := by
  induction base with
  | nil => cases target <;> rfl
  | cons c base ih => rw [List.cons_append, route, if_pos rfl, ih]

end Path

namespace ModuleId

lemma directory_rooted {names : List String} {n : String} (h : ∀ m ∈ names ++ [n], Path.IsName m) :
    directory (Path.rooted (names ++ [n])) = Path.rooted names := by
  rw [directory, Path.parent?_rooted h, Option.getD_some]

/-- **The stable id of a place inside the working directory** is the way to get there from it. -/
theorem stable_rooted {base names : List String} (hbase : ∀ n ∈ base, Path.IsName n)
    (hnames : ∀ n ∈ names, Path.IsName n) :
    stable (Path.rooted (base ++ names)) (Path.rooted base)
      = Path.stepsText (names.map .name) := by
  have hall : ∀ n ∈ base ++ names, Path.IsName n := fun n hn =>
    (List.mem_append.1 hn).elim (hbase n) (hnames n)
  rw [stable, if_pos (Path.isAbsolute_rooted _), Path.relativeTo, Path.place_rooted hbase,
    Path.place_rooted hall, List.map_append, Path.route_append]

end ModuleId

end ModuleBundler
