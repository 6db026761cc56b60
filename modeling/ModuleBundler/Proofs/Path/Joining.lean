import ModuleBundler.Proofs.Path.Inside

/-!
# Joining in steps and at once

The normal form of an absolute path tells what its walk has led to, and a walk can be cut anywhere.

**Joining on.**  To join a path and bring it into normal form, and then to do so with a second one,
is to join both of them at once (`join_join`).  A module stands in its directory, so what is read
from there is read from the module with one step up.

**There and back.**  Walking on along the route to another path leads to where that path leads
(`foldl_walk_relative`).  So a stable id that is joined to the working directory leads back to the
id (`normal_join_stable`).
-/

namespace ModuleBundler

namespace Path

/-- Absolute paths that walk to the same names have one normal form. -/
lemma normal_congr {p q : Path} (hp : p.isAbsolute = true) (hq : q.isAbsolute = true)
    (h : p.walked = q.walked) : p.normal = q.normal := by
  rw [normal, normal, if_pos hp, if_pos hq, h]

/-! ## Joining on -/

/-- Whether a path is absolute is told from its beginning. -/
lemma isAbsolute_append {s : String} (hs : s ≠ "") (t : String) :
    (⟨s ++ t⟩ : Path).isAbsolute = (⟨s⟩ : Path).isAbsolute := by
  have hnil : s.toList ≠ [] := by simpa using hs
  rw [isAbsolute, isAbsolute, String.toList_append, List.head?_append_of_ne_nil _ hnil]

/-- **A walk goes on behind a separator**, whether or not the first text is absolute. -/
lemma walked_join_append {p : Path} (hp : p.isAbsolute = true) {s : String} (hs : s ≠ "")
    (t : String) :
    (p.join ⟨s ++ "/" ++ t⟩).walked
      = (⟨t⟩ : Path).steps.foldl (walk true) (p.join ⟨s⟩).walked := by
  have hsame : (⟨s ++ "/" ++ t⟩ : Path).isAbsolute = (⟨s⟩ : Path).isAbsolute := by
    rw [String.append_assoc]
    exact isAbsolute_append hs _
  cases hs' : (⟨s⟩ : Path).isAbsolute with
  | true =>
      rw [hs'] at hsame
      have hjoined : p.join ⟨s ++ "/" ++ t⟩ = ⟨s ++ "/" ++ t⟩ := if_pos hsame
      have hfirst : p.join ⟨s⟩ = ⟨s⟩ := if_pos hs'
      rw [hjoined, hfirst, walked_of_isAbsolute hsame, walked_of_isAbsolute hs', steps_append,
        List.foldl_append]
  | false =>
      rw [hs'] at hsame
      rw [walked_join hp hsame, walked_join hp hs', steps_append, List.foldl_append]

end Path

open ModuleBundler.Path (IsCanonical IsName isAbsolute_join isAbsolute_rooted walk rooted)

namespace Resolver

variable {σ : Type} (r : Resolver σ)

/-- Behind an absolute directory the current one makes no difference. -/
lemma join_of_isAbsolute {directory : Path} (h : directory.isAbsolute = true) (s : String) :
    r.join directory s = (directory.join ⟨s⟩).normal :=
  if_pos (isAbsolute_join h _)

/-- Where two specifiers walk to the same names, they lead to the same path. -/
lemma join_congr {directory directory' : Path} (h : directory.isAbsolute = true)
    (h' : directory'.isAbsolute = true) {s s' : String}
    (hwalked : (directory.join ⟨s⟩).walked = (directory'.join ⟨s'⟩).walked) :
    r.join directory s = r.join directory' s' := by
  rw [r.join_of_isAbsolute h, r.join_of_isAbsolute h']
  exact Path.normal_congr (isAbsolute_join h _) (isAbsolute_join h' _) hwalked

/-- **Joining composes.**  Reading a relative specifier from where a first one leads, or both of
    them at once, leads to the same path.  So does reading it from the directory of the module that
    the first one leads to, or both of them at once with a step up between them; only the root,
    which is in no directory, is no such module. -/
theorem join_join {directory : Path} (hdirectory : directory.isAbsolute = true) {s t : String}
    (hs : s ≠ "") (ht : (⟨t⟩ : Path).isAbsolute = false) :
    r.join (r.join directory s) t = r.join directory (s ++ "/" ++ t)
      ∧ (r.join directory s ≠ ⟨"/"⟩ →
          r.join (ModuleId.directory (r.join directory s)) t
            = r.join directory (s ++ "/../" ++ t)) := by
  have hjoined := isAbsolute_join hdirectory ⟨s⟩
  obtain ⟨names, hnames, hwalked, hnormal⟩ := Path.exists_normal_eq_rooted hjoined
  rw [r.join_of_isAbsolute hdirectory s, hnormal]
  constructor
  · refine r.join_congr (isAbsolute_rooted names) hdirectory ?_
    rw [Path.walked_join (isAbsolute_rooted names) ht, Path.walked_rooted hnames,
      Path.walked_join_append hdirectory hs, hwalked]
  · intro hroot
    have hne : names ≠ [] := fun hnil => hroot (by rw [hnil]; rfl)
    obtain ⟨before, n, rfl⟩ := names.eq_nil_or_concat'.resolve_left hne
    have hbefore : ∀ m ∈ before, IsName m := fun m hm => hnames m (by simp [hm])
    have hup : s ++ "/../" ++ t = s ++ "/" ++ (".." ++ "/" ++ t) := by
      simp only [String.append_assoc]
      rfl
    -- The step up takes back the name that the module has in its directory.
    have hback : walk true ((before ++ [n]).map Path.Component.name).reverse .up
        = (before.map Path.Component.name).reverse := by simp [walk]
    have hsteps : (⟨".." ++ "/" ++ t⟩ : Path).steps = .up :: (⟨t⟩ : Path).steps :=
      Path.steps_append ".." t
    rw [ModuleId.directory_rooted hnames, hup]
    refine r.join_congr (isAbsolute_rooted before) hdirectory ?_
    rw [Path.walked_join (isAbsolute_rooted before) ht, Path.walked_rooted hbefore,
      Path.walked_join_append hdirectory hs, hwalked, hsteps, List.foldl_cons, hback]

/-- The first specifier climbs above the root, and the second one climbs as well. -/
theorem join_join_climbing :
    (⟨"/p//x"⟩ : Path).isAbsolute = true ∧ (⟨"../c"⟩ : Path).isAbsolute = false
      ∧ windingResolver.join ⟨"/p//x"⟩ "../../../a//b/." = ⟨"/a/b"⟩
      ∧ windingResolver.join ⟨"/a/b"⟩ "../c"
          = windingResolver.join ⟨"/p//x"⟩ "../../../a//b/./../c"
      ∧ windingResolver.join ⟨"/a"⟩ "../c"
          = windingResolver.join ⟨"/p//x"⟩ "../../../a//b/./../../c" := by
  have habsolute : (⟨"/p//x"⟩ : Path).isAbsolute = true := by decide +kernel
  have hrelative : (⟨"../c"⟩ : Path).isAbsolute = false := by decide +kernel
  have hfirst : windingResolver.join ⟨"/p//x"⟩ "../../../a//b/." = ⟨"/a/b"⟩ := by decide +kernel
  have hdirectory : ModuleId.directory ⟨"/a/b"⟩ = ⟨"/a"⟩ := by decide +kernel
  have hjoin := windingResolver.join_join habsolute (s := "../../../a//b/.") (by decide) hrelative
  rw [hfirst, hdirectory] at hjoin
  exact ⟨habsolute, hrelative, hfirst, hjoin.1, hjoin.2 (by decide)⟩

end Resolver

/-! ## There and back -/

namespace Path

/-- The text of a route is a relative path. -/
lemma isAbsolute_stepsText {steps : List Component} (h : ∀ c ∈ steps, IsRouteStep c) :
    (⟨stepsText steps⟩ : Path).isAbsolute = false := by
  cases steps with
  | nil => rfl
  | cons c rest =>
      have hsplit := splitOn_stepsText h
      rw [← Bool.not_eq_true, isAbsolute_iff]
      rintro ⟨behind, hbehind⟩
      rw [hbehind, List.splitOn_cons_eq_if_modifyHead, if_pos (by simp)] at hsplit
      exact (h c (by simp)).text_ne (List.cons.inj hsplit).1.symm

lemma reverse_place {p : Path} (h : p.isAbsolute = true) : p.place.reverse = p.walked := by
  rw [place, fromRoot, if_pos h, List.reverse_reverse]

/-- Walking on along the route to another path leads to where that path leads. -/
lemma foldl_walk_relative {base target : Path} (hbase : base.isAbsolute = true)
    (htarget : target.isAbsolute = true) :
    (route base.place target.place).foldl (walk true) base.walked = target.walked := by
  have hroute := foldl_walk_route base.place_inward target.place_inward []
  rwa [List.append_nil, List.append_nil, reverse_place hbase, reverse_place htarget] at hroute

end Path

namespace ModuleId

open ModuleBundler.Path (IsRouteStep route)

variable {cwd : Path} {id : ModuleId}

/-- A stable id that is joined to the working directory leads back to the id. -/
lemma normal_join_stable (hcwd : cwd.isAbsolute = true) (hid : IsCanonical id) :
    (cwd.join ⟨stable id cwd⟩).normal = id := by
  obtain ⟨habsolute, hnormal⟩ := Path.isCanonical_iff.1 hid
  have hsteps : ∀ c ∈ route cwd.place (Path.place id), IsRouteStep c :=
    Path.route_steps (Path.place_inward id)
  have hstable : stable id cwd = Path.stepsText (route cwd.place (Path.place id)) := by
    rw [stable, if_pos habsolute, Path.relativeTo]
  have hwalked : (cwd.join ⟨stable id cwd⟩).walked = Path.walked id := by
    rw [hstable, Path.walked_join hcwd (Path.isAbsolute_stepsText hsteps),
      Path.steps_stepsText hsteps, Path.foldl_walk_relative hcwd habsolute]
  rw [Path.normal_congr (isAbsolute_join hcwd _) habsolute hwalked, hnormal]

/-- **Stable ids can be undone.**  From an absolute working directory, in normal form or not, the
    stable id of a canonical path leads back to the path, be it inside, outside or above the working
    directory.  So no other canonical path has the same stable id. -/
theorem stable_undone (hcwd : cwd.isAbsolute = true) (hid : IsCanonical id) :
    (cwd.join ⟨stable id cwd⟩).normal = id
      ∧ ∀ other, IsCanonical other → stable other cwd = stable id cwd → other = id := by
  refine ⟨normal_join_stable hcwd hid, fun other hother hsame => ?_⟩
  calc other = (cwd.join ⟨stable other cwd⟩).normal := (normal_join_stable hcwd hother).symm
    _ = (cwd.join ⟨stable id cwd⟩).normal := by rw [hsame]
    _ = id := normal_join_stable hcwd hid

/-- The working directory is not in normal form, and the module is above it. -/
theorem stable_undone_above :
    (⟨"/q/..//p/./x/"⟩ : Path).isAbsolute = true ∧ IsCanonical ⟨"/p"⟩
      ∧ stable ⟨"/p"⟩ ⟨"/q/..//p/./x/"⟩ = ".."
      ∧ ((⟨"/q/..//p/./x/"⟩ : Path).join ⟨".."⟩).normal = ⟨"/p"⟩ := by
  have habsolute : (⟨"/q/..//p/./x/"⟩ : Path).isAbsolute = true := by decide +kernel
  have hcanonical : IsCanonical ⟨"/p"⟩ := Path.isCanonical_iff.2 (by decide +kernel)
  have hstable : stable ⟨"/p"⟩ ⟨"/q/..//p/./x/"⟩ = ".." := by decide +kernel
  have hundone := (stable_undone habsolute hcanonical).1
  rw [hstable] at hundone
  exact ⟨habsolute, hcanonical, hstable, hundone⟩

end ModuleId

end ModuleBundler
