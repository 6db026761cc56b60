import ModuleBundler.Options.Basic
import ModuleBundler.Proofs.Bundle.Delivery
import ModuleBundler.Proofs.FileStore.History
import ModuleBundler.Proofs.Path.Joining

/-!
# How a directory may be spelled

The directories on the way to an asset are made sure of step by step, but the file is written under
the text of its directory.  A flat store compares texts, so the two agree for some spellings only.

**Plain spellings.**  A directory is spelled plainly if each of its steps stands behind one
separator (`Path.plainText`), with at most one separator more at the end (`Path.IsPlain`).  A step
may be `..`, but a `.` and a second separator in a row are no steps and have no place there.

**The way to a directory** can always be made, whatever the spelling, because the root is there and
each station stands right below the one before (`exists_ensureDirectory`).  What is there afterwards
are the plain texts of the way, so the file finds its directory there if that is spelled plainly, or
else if it was there before in just this spelling (`written_iff_plain`).
-/

namespace ModuleBundler

namespace Path

/-- The text in which every step stands behind a separator. -/
def plainText (steps : List Component) : String :=
  String.join (steps.map fun c => "/" ++ c.text)

/-- **A plainly spelled directory.** -/
def IsPlain (p : Path) : Prop :=
  p.text = plainText p.steps ∨ p.text = plainText p.steps ++ "/"

instance (p : Path) : Decidable p.IsPlain := inferInstanceAs (Decidable (_ ∨ _))

lemma plainText_snoc (steps : List Component) (c : Component) :
    plainText (steps ++ [c]) = plainText steps ++ "/" ++ c.text := by
  rw [plainText, List.map_append, String.join_append, ← plainText]
  simp [String.append_assoc]

lemma plainText_eq {steps : List Component} (hne : steps ≠ []) :
    plainText steps = "/" ++ stepsText steps := by
  induction steps using List.reverseRecOn with
  | nil => exact absurd rfl hne
  | append_singleton before c ih =>
      by_cases hbefore : before = []
      · rw [hbefore, plainText_snoc, stepsText]
        rfl
      · rw [plainText_snoc, ih hbefore, stepsText_snoc hbefore]
        simp only [String.append_assoc]

/-- The steps can be read off a plain text. -/
lemma steps_plainText {steps : List Component} (h : ∀ c ∈ steps, IsRouteStep c) :
    (⟨plainText steps⟩ : Path).steps = steps := by
  by_cases hnil : steps = []
  · rw [hnil]
    rfl
  · have hfront : plainText steps = "" ++ "/" ++ stepsText steps := plainText_eq hnil
    rw [hfront, steps_append, steps_stepsText h]
    rfl

lemma getLast?_plainText {steps : List Component} (h : ∀ c ∈ steps, IsRouteStep c) :
    (plainText steps).toList.getLast? ≠ some '/' := by
  rcases steps.eq_nil_or_concat' with rfl | ⟨before, c, rfl⟩
  · decide
  · have hc := h c (by simp)
    rw [plainText_snoc, String.toList_append, List.getLast?_append_of_ne_nil _ hc.text_ne]
    exact fun hlast => hc.notMem_text (List.mem_of_getLast? hlast)

/-- A directory is spelled plainly if what stands before a name in it is a plain text. -/
lemma isPlain_iff {directory : Path} {front : String}
    (h : directory.text = front ++ "/"
      ∨ (directory.text = front ∧ front.toList.getLast? ≠ some '/')) :
    directory.IsPlain ↔ front = plainText directory.steps := by
  have hends : ∀ s : String, (s ++ "/").toList.getLast? = some '/' := by simp
  have hlast := getLast?_plainText fun c => isRouteStep_of_mem_steps (p := directory) (c := c)
  rcases h with htext | ⟨htext, hfront⟩
  · rw [IsPlain, htext, String.append_left_inj, or_iff_right]
    intro hplain
    exact hlast (hplain ▸ hends front)
  · rw [IsPlain, htext, or_iff_left]
    intro hplain
    exact hfront (hplain ▸ hends _)

end Path

open ModuleBundler.Path (IsName IsRouteStep fromSteps plainText)

namespace FlatStore

/-- The key of a path on the way to a directory is a plain text. -/
lemma key_fromSteps {steps : List Path.Component} (h : ∀ c ∈ steps, IsRouteStep c) :
    key (fromSteps steps) = plainText steps := by
  rcases steps.eq_nil_or_concat' with rfl | ⟨before, c, rfl⟩
  · decide +kernel
  · have hc := h c (by simp)
    have htext : fromSteps (before ++ [c]) = ⟨plainText before ++ "/" ++ c.text⟩ := by
      rw [fromSteps, ← Path.plainText_eq (by simp), Path.plainText_snoc]
    rw [htext, key_append (by simpa using hc.text_ne) hc.notMem_text, Path.plainText_snoc]

/-- Each station stands right below the one before. -/
lemma parentKey?_fromSteps_snoc {steps : List Path.Component} {c : Path.Component}
    (h : ∀ d ∈ steps ++ [c], IsRouteStep d) :
    parentKey? (key (fromSteps (steps ++ [c]))) = some (key (fromSteps steps)) := by
  rw [key_fromSteps h, key_fromSteps fun d hd => h d (by simp [hd]), Path.plainText_snoc,
    parentKey?_append _ (h c (by simp)).notMem_text]

/-- A key has a parent exactly if the key above it is in the store. -/
lemma hasParent_iff_mem {store : FlatStore} {k parent : String} (h : parentKey? k = some parent) :
    store.hasParent k = true ↔ parent ∈ store.entries.keys := by
  rw [hasParent, h, OrderedMap.contains_iff_mem_keys]

end FlatStore

namespace Asset

open FlatStore (Arises Grown key parentKey?)

variable {store : FlatStore} {directory : Path} {a : Asset}

/-- All stations behind one that is there can be made. -/
lemma exists_createMissing_stations {before steps : List Path.Component}
    (hbefore : ∀ c ∈ before, IsRouteStep c) (hsteps : ∀ c ∈ steps, IsRouteStep c)
    (hroot : "" ∈ store.entries.keys) (hthere : key (fromSteps before) ∈ store.entries.keys) :
    ∃ ready, createMissing store (stations (fromSteps before) steps) = (ready, none) := by
  induction steps generalizing before store with
  | nil => exact ⟨store, rfl⟩
  | cons c rest ih =>
      have hbefore' : ∀ d ∈ before ++ [c], IsRouteStep d := by
        simpa [or_imp, forall_and] using ⟨hbefore, hsteps c (by simp)⟩
      have hrest : ∀ d ∈ rest, IsRouteStep d := fun d hd => hsteps d (by simp [hd])
      rw [stations_cons hbefore (hsteps c (by simp))]
      cases hpresent : FileStore.present store (fromSteps (before ++ [c])) with
      | true =>
          rw [createMissing, if_pos hpresent]
          exact ih hbefore' hrest hroot ((FlatStore.present_iff_mem_keys hroot).1 hpresent)
      | false =>
          have habsent : store.entries.get? (key (fromSteps (before ++ [c]))) = none := by
            rw [OrderedMap.get?_eq_none_iff, ← FlatStore.present_iff_mem_keys hroot]
            exact Bool.not_eq_true _ ▸ hpresent
          have hparent : store.hasParent (key (fromSteps (before ++ [c]))) = true :=
            (FlatStore.hasParent_iff_mem (FlatStore.parentKey?_fromSteps_snoc hbefore')).2 hthere
          have hcreate := FlatStore.createDirectory_eq_ok_iff.2 ⟨hparent, habsent, rfl⟩
          rw [createMissing_of_created _ hpresent hcreate]
          exact ih hbefore' hrest ((OrderedMap.mem_keys_insert ..).2 (.inr hroot))
            ((OrderedMap.mem_keys_insert ..).2 (.inl rfl))

/-- **The way to a directory can always be made**, whatever the spelling. -/
lemma exists_ensureDirectory (hroot : "" ∈ store.entries.keys)
    (habsolute : directory.isAbsolute = true) :
    ∃ ready, ensureDirectory store directory = (ready, none) := by
  rw [ensureDirectory, stations_components habsolute]
  refine exists_createMissing_stations (by simp) (fun c => Path.isRouteStep_of_mem_steps) hroot ?_
  rw [FlatStore.key_fromSteps (by simp)]
  exact hroot

/-- What is there once a directory has been made sure of: what was there before, and the way. -/
lemma mem_keys_of_ensured (hroot : "" ∈ store.entries.keys)
    (habsolute : directory.isAbsolute = true) {ready : FlatStore}
    (hensure : ensureDirectory store directory = (ready, none)) {k : String} :
    k ∈ ready.entries.keys
      ↔ k ∈ store.entries.keys ∨ ∃ steps, steps <+: directory.steps ∧ k = plainText steps := by
  have hgrown : Grown store (ensureDirectory store directory).1 := grown_createMissing _ store
  rw [hensure] at hgrown
  have hkey : ∀ steps, steps <+: directory.steps → key (fromSteps steps) = plainText steps :=
    fun steps hsteps => FlatStore.key_fromSteps fun c hc =>
      Path.isRouteStep_of_mem_steps (hsteps.subset hc)
  constructor
  · intro hk
    by_cases hnew : k ∈ store.entries.keys
    · exact .inl hnew
    · have hk' : k ∈ (ensureDirectory store directory).1.entries.keys := by
        rw [hensure]
        exact hk
      obtain ⟨⟨p, ⟨steps, hsteps, rfl⟩, rfl⟩, -⟩ := new_of_ensureDirectory habsolute hk' hnew
      exact .inr ⟨steps, hsteps, hkey steps hsteps⟩
  · rintro (hk | ⟨steps, hsteps, rfl⟩)
    · exact hgrown.keys_subset hk
    · rw [← hkey steps hsteps, ← FlatStore.present_iff_mem_keys (hgrown.keys_subset hroot)]
      exact present_onWay habsolute hensure ⟨steps, hsteps, rfl⟩

/-- A name in a directory that has been made sure of finds its parent there if the directory is
    spelled plainly, or else if the parent was there before. -/
lemma hasParent_of_ensured (hroot : "" ∈ store.entries.keys)
    (habsolute : directory.isAbsolute = true) (hname : IsName a.fileName) {ready : FlatStore}
    (hensure : ensureDirectory store directory = (ready, none)) :
    ready.hasParent (key (directory.join ⟨a.fileName⟩)) = true
      ↔ directory.IsPlain ∨ store.hasParent (key (directory.join ⟨a.fileName⟩)) = true := by
  obtain ⟨front, hjoin, htext⟩ :=
    Path.exists_join_eq habsolute (Path.isAbsolute_of_notMem hname.2.2.2)
  have hparent : parentKey? (key (directory.join ⟨a.fileName⟩)) = some front := by
    rw [hjoin, FlatStore.key_append hname.1 hname.2.2.2, FlatStore.parentKey?_append _ hname.2.2.2]
  rw [FlatStore.hasParent_iff_mem hparent, FlatStore.hasParent_iff_mem hparent,
    mem_keys_of_ensured hroot habsolute hensure, Path.isPlain_iff htext, or_comm]
  refine or_congr_left ⟨?_, fun hplain => ⟨_, List.prefix_rfl, hplain⟩⟩
  -- A plain text of some first steps has these steps, so they are all the steps there are.
  rintro ⟨steps, hfirst, rfl⟩
  have hsteps : ∀ c ∈ steps, IsRouteStep c := fun c hc =>
    Path.isRouteStep_of_mem_steps (hfirst.subset hc)
  rw [← Path.steps_front htext, Path.steps_plainText hsteps]

/-- **Which spellings of a directory work.**  In every store that comes about, an asset whose name
    is one ordinary name can be written into an absolute directory, and is read back from the path
    that is returned, exactly if the directory is spelled plainly or the parent of the path was
    there in just this spelling.  Otherwise the path is reported to have no parent, although
    everything on the way to the directory has been made sure of. -/
theorem written_iff_plain (harises : store.Arises) (habsolute : directory.isAbsolute = true)
    (hname : IsName a.fileName) :
    let path := directory.join ⟨a.fileName⟩
    let fits := directory.IsPlain ∨ store.hasParent (key path) = true
    ((∃ next, a.write store directory = (next, .ok path) ∧ FlatStore.read next path = .ok a.content)
        ↔ fits)
      ∧ (¬ fits → ∃ next, a.write store directory = (next, .error [.write path .parentAbsent])
          ∧ ∀ p : Path, p.OnWayTo directory → FlatStore.present next p = true) := by
  intro path fits
  obtain ⟨ready, hensure⟩ := exists_ensureDirectory harises.root_mem_keys habsolute
  have hfits : ready.hasParent (key path) = true ↔ fits :=
    hasParent_of_ensured harises.root_mem_keys habsolute hname hensure
  have hrefused : ¬ fits →
      a.write store directory = (ready, .error [.write path .parentAbsent]) := by
    intro hmisfit
    refine write_of_refused hensure ?_
    simp only [FileStore.write, FlatStore.write]
    rw [if_neg (mt hfits.1 hmisfit)]
  refine ⟨⟨?_, fun hfit => ?_⟩, fun hmisfit => ?_⟩
  · rintro ⟨next, hwritten, -⟩
    by_contra hmisfit
    rw [hrefused hmisfit] at hwritten
    cases hwritten
  · have hwrite : FileStore.write ready path a.content.toUTF8
        = .ok (ready.withFile path a.content.toUTF8) :=
      FlatStore.write_eq_ok_iff.2 ⟨hfits.2 hfit, rfl⟩
    refine ⟨_, write_of_written hensure hwrite, FlatStore.read_eq_ok_iff.2 ?_⟩
    rw [FlatStore.get?_withFile, if_pos rfl]
  · exact ⟨ready, hrefused hmisfit, fun p hp => present_onWay habsolute hensure hp⟩

/-- The default name of a bundle. -/
def plainAsset : Asset := ⟨Settings.defaultFileName, "x"⟩

/-- A step up and a separator at the end do no harm. -/
theorem written_iff_plain_upward :
    FlatStore.empty.Arises ∧ (⟨"/p/../q/"⟩ : Path).isAbsolute = true ∧ IsName plainAsset.fileName
      ∧ ∃ next, plainAsset.write FlatStore.empty ⟨"/p/../q/"⟩ = (next, .ok ⟨"/p/../q/bundle.js"⟩)
        ∧ FlatStore.read next ⟨"/p/../q/bundle.js"⟩ = .ok "x" := by
  have habsolute : (⟨"/p/../q/"⟩ : Path).isAbsolute = true := by decide +kernel
  have hname : IsName plainAsset.fileName := by decide +kernel
  have hpath : (⟨"/p/../q/"⟩ : Path).join ⟨plainAsset.fileName⟩ = ⟨"/p/../q/bundle.js"⟩ := by
    decide +kernel
  have hwritten := (written_iff_plain Arises.empty habsolute hname).1.2 (.inl (by decide +kernel))
  rw [hpath] at hwritten
  exact ⟨Arises.empty, habsolute, hname, hwritten⟩

/-- **A directory given as `./dist` does not work**: its directory is made as `/project/dist`, and
    the file is looked for below `/project/./dist`. -/
theorem write_dotted_directory :
    (⟨"./a.js", ⟨"/project"⟩, "./dist", Settings.defaultFileName⟩ : Settings).outputDirectory
        = ⟨"/project/./dist"⟩
      ∧ FlatStore.empty.Arises ∧ (⟨"/project/./dist"⟩ : Path).isAbsolute = true
      ∧ IsName plainAsset.fileName
      ∧ (plainAsset.write FlatStore.empty ⟨"/project/./dist"⟩).2
          = .error [.write ⟨"/project/./dist/bundle.js"⟩ .parentAbsent]
      ∧ FlatStore.present (plainAsset.write FlatStore.empty ⟨"/project/./dist"⟩).1
          ⟨"/project/dist"⟩ = true :=
  ⟨by decide +kernel, Arises.empty, by decide +kernel, by decide +kernel, by decide +kernel,
    by decide +kernel⟩

end Asset

end ModuleBundler
