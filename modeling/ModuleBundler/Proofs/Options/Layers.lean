import Mathlib.Data.List.Induction
import ModuleBundler.CommandLine.Run
import ModuleBundler.FileStore.Flat
import ModuleBundler.Proofs.Graph.Resolution

/-!
# Layers over layers

Layers of options are put over each other two at a time, so that several layers can be grouped in
many ways, and a layer can leave its group of output fields out, empty or half filled.  None of this
can be told from what they settle to.

**Piles.**  A pile is a grouping of layers (`Pile`).  Merging is associative and the blank layer is
neutral, so a pile comes to what its layers come to from the lowest to the highest, however they are
grouped (`Pile.merged_eq_mergeAll`).

**Fields.**  Each of the four fields is merged for itself: the upper layer decides if it sets the
field, else the lower one does (`Merges`).  So the last layer that sets a field decides what the
field is (`Merges.mergeAll`), even for the two fields that sit in one group.

**Settling** gives every field that is not set its default, and fails for want of an entry.  The
one other reason is that the system does not tell the current directory, and this one is needed
because no working directory is set, or a relative one (`CurrentDirectory.IsNeeded`).  All of this
is put together in `settle_pile`.  A run of the command line settles its flags over its
configuration file (`CommandLine.settings_eq_settle`).
-/

namespace ModuleBundler

open ModuleBundler.Path (IsCanonical)

/-! ## The current directory -/

namespace CurrentDirectory

/-- **The current directory is needed** if no working directory is set, or a relative one. -/
def IsNeeded (cwd : Option Path) : Prop :=
  ∀ path, cwd = some path → path.isAbsolute = false

/-- **Where a build works**, given the working directory that is set: there if it is absolute, else
    where it leads from the current directory, if that is told. -/
inductive WorksIn (current : CurrentDirectory) (cwd : Option Path) (path : Path) : Prop where
  | absolute (hset : cwd = some path) (habs : path.isAbsolute = true)
  | needed (hneeded : IsNeeded cwd) (here : Path) (htold : current = .ok here)
      (hread : path = cwd.elim here here.join)

/-- A directory that is told is absolute. -/
def Absolute (current : CurrentDirectory) : Prop :=
  ∀ here, current = .ok here → here.isAbsolute = true

variable {current : CurrentDirectory} {cwd : Option Path} {path : Path}

lemma isNeeded_or (cwd : Option Path) :
    IsNeeded cwd ∨ ∃ path, cwd = some path ∧ path.isAbsolute = true := by
  cases cwd with
  | none => exact .inl fun _ h => nomatch h
  | some path =>
      cases habs : path.isAbsolute with
      | true => exact .inr ⟨path, rfl, habs⟩
      | false => exact .inl fun _ h => Option.some.inj h ▸ habs

lemma IsNeeded.not_absolute (h : IsNeeded (some path)) : ¬ path.isAbsolute = true :=
  fun habs => Bool.false_ne_true ((h path rfl).symm.trans habs)

/-- An absolute working directory does without the current one. -/
lemma workIn_of_absolute (h : path.isAbsolute = true) : current.workIn (some path) = .ok path :=
  if_pos h

/-- Where the current directory is needed, it is asked for. -/
lemma workIn_of_needed (h : IsNeeded cwd) :
    current.workIn cwd = current.ask.map fun here => cwd.elim here here.join := by
  cases cwd with
  | none => cases current <;> rfl
  | some path => exact if_neg h.not_absolute

/-- **What asking for the place of a build comes to**: a directory, or a current one that is not
    told. -/
lemma workIn_cases (current : CurrentDirectory) (cwd : Option Path) :
    (∃ path, WorksIn current cwd path ∧ current.workIn cwd = .ok path)
      ∨ IsNeeded cwd ∧ ∃ cause, current = .error cause
        ∧ current.workIn cwd = .error (untold cause) := by
  rcases isNeeded_or cwd with hneeded | ⟨path, rfl, habs⟩
  · cases current with
    | ok here => exact .inl ⟨_, .needed hneeded here rfl rfl, workIn_of_needed hneeded⟩
    | error cause => exact .inr ⟨hneeded, cause, rfl, workIn_of_needed hneeded⟩
  · exact .inl ⟨path, .absolute rfl habs, workIn_of_absolute habs⟩

lemma workIn_eq_ok_iff : current.workIn cwd = .ok path ↔ WorksIn current cwd path := by
  constructor
  · intro h
    rcases workIn_cases current cwd with ⟨_, hworks, heq⟩ | ⟨-, _, -, heq⟩
    · cases heq.symm.trans h
      exact hworks
    · cases heq.symm.trans h
  · rintro (⟨rfl, habs⟩ | ⟨hneeded, here, rfl, rfl⟩)
    · exact workIn_of_absolute habs
    · exact workIn_of_needed hneeded

/-- Nothing but a current directory that is needed and not told keeps a build from working. -/
lemma workIn_eq_error_iff {e : BuildError} :
    current.workIn cwd = .error e
      ↔ IsNeeded cwd ∧ ∃ cause, current = .error cause ∧ e = untold cause := by
  constructor
  · intro h
    rcases workIn_cases current cwd with ⟨_, -, heq⟩ | ⟨hneeded, cause, htold, heq⟩
    · cases heq.symm.trans h
    · exact ⟨hneeded, cause, htold, Except.error.inj (h.symm.trans heq)⟩
  · rintro ⟨hneeded, cause, rfl, rfl⟩
    exact workIn_of_needed hneeded

/-- A build works in an absolute directory. -/
lemma WorksIn.isAbsolute (habs : current.Absolute) (h : WorksIn current cwd path) :
    path.isAbsolute = true := by
  cases h with
  | absolute _ hpath => exact hpath
  | needed _ here htold hread =>
      rw [hread]
      cases cwd with
      | none => exact habs here htold
      | some cwd => exact Path.isAbsolute_join (habs here htold) cwd

end CurrentDirectory

namespace OptionLayer

/-- The directory that a layer sets; no group of output fields, or one without it, sets none. -/
def directory? (layer : OptionLayer) : Option String :=
  layer.output.bind OutputLayer.directory

/-- The file name that a layer sets. -/
def fileName? (layer : OptionLayer) : Option String :=
  layer.output.bind OutputLayer.fileName

/-- **Layers over each other**, the lowest first. -/
def mergeAll (layers : List OptionLayer) : OptionLayer :=
  layers.foldl merge empty

/-- **What the last layer sets a field to**, of those that set this very field. -/
def lastSet? {α : Type} (field : OptionLayer → Option α) (layers : List OptionLayer) : Option α :=
  (layers.filterMap field).getLast?

/-! ## Grouping -/

lemma mergeOutput_assoc (a b c : Option OutputLayer) :
    mergeOutput (mergeOutput a b) c = mergeOutput a (mergeOutput b c) := by
  cases a <;> cases b <;> cases c <;> simp [mergeOutput, Option.or_assoc]

lemma merge_assoc (a b c : OptionLayer) : (a.merge b).merge c = a.merge (b.merge c) := by
  simp only [merge, Option.or_assoc, mergeOutput_assoc]

lemma empty_merge (layer : OptionLayer) : empty.merge layer = layer := by
  obtain ⟨entry, cwd, output⟩ := layer
  cases output <;> simp [merge, empty, mergeOutput]

lemma merge_empty (layer : OptionLayer) : layer.merge empty = layer := by
  obtain ⟨entry, cwd, output⟩ := layer
  cases output <;> simp [merge, empty, mergeOutput]

instance : Std.Associative merge := ⟨merge_assoc⟩

lemma mergeAll_append (below above : List OptionLayer) :
    mergeAll (below ++ above) = (mergeAll below).merge (mergeAll above) := by
  have hassoc : above.foldl merge ((mergeAll below).merge empty)
      = (mergeAll below).merge (above.foldl merge empty) := List.foldl_assoc
  rw [merge_empty] at hassoc
  rw [mergeAll, List.foldl_append]
  exact hassoc

lemma mergeAll_singleton (layer : OptionLayer) : mergeAll [layer] = layer :=
  empty_merge layer

/-- **A pile of layers**, put over each other two at a time in any grouping. -/
inductive Pile where
  | blank
  | single (layer : OptionLayer)
  | stack (lower upper : Pile)

namespace Pile

/-- The layers of a pile, the lowest first. -/
def layers : Pile → List OptionLayer
  | blank => []
  | single layer => [layer]
  | stack lower upper => lower.layers ++ upper.layers

/-- What a pile comes to, merged as it is grouped. -/
def merged : Pile → OptionLayer
  | blank => empty
  | single layer => layer
  | stack lower upper => lower.merged.merge upper.merged

/-- **The grouping makes no difference.** -/
theorem merged_eq_mergeAll (pile : Pile) : pile.merged = mergeAll pile.layers := by
  induction pile with
  | blank => rfl
  | single layer => exact (mergeAll_singleton layer).symm
  | stack lower upper ihLower ihUpper => rw [merged, layers, mergeAll_append, ihLower, ihUpper]

end Pile

/-! ## Fields -/

/-- **A field that is merged for itself**: the upper layer decides if it sets the field. -/
structure Merges {α : Type} (field : OptionLayer → Option α) : Prop where
  empty : field empty = none
  merge : ∀ lower upper, field (lower.merge upper) = (field upper).or (field lower)

lemma merges_entry : Merges OptionLayer.entry := ⟨rfl, fun _ _ => rfl⟩

lemma merges_cwd : Merges OptionLayer.cwd := ⟨rfl, fun _ _ => rfl⟩

/-- A field of the output group is merged for itself, whichever of the two groups are there. -/
lemma Merges.of_output {α : Type} {field : OutputLayer → Option α}
    (hfield : ∀ lower upper : OutputLayer,
      field ⟨upper.directory.or lower.directory, upper.fileName.or lower.fileName⟩
        = (field upper).or (field lower)) :
    Merges fun layer => layer.output.bind field where
  empty := rfl
  merge lower upper := by
    rw [OptionLayer.merge]
    cases lower.output with
    | none => cases upper.output <;> simp [mergeOutput]
    | some below =>
        cases upper.output with
        | none => simp [mergeOutput]
        | some above => exact hfield below above

lemma merges_directory : Merges directory? := .of_output fun _ _ => rfl

lemma merges_fileName : Merges fileName? := .of_output fun _ _ => rfl

/-- The top layer goes before the ones below it. -/
lemma lastSet?_concat {α : Type} (field : OptionLayer → Option α) (below : List OptionLayer)
    (top : OptionLayer) :
    lastSet? field (below ++ [top]) = (field top).or (lastSet? field below) := by
  rw [lastSet?, List.filterMap_append, List.getLast?_append]
  cases htop : field top <;> simp [htop, lastSet?]

/-- **The last layer that sets a field** decides what the field is. -/
theorem Merges.mergeAll {α : Type} {field : OptionLayer → Option α} (h : Merges field)
    (layers : List OptionLayer) : field (mergeAll layers) = lastSet? field layers := by
  induction layers using List.reverseRecOn with
  | nil => exact h.empty
  | append_singleton below top ih =>
      rw [mergeAll_append, mergeAll_singleton, h.merge, ih, lastSet?_concat]

lemma lastSet?_eq_none_iff {α : Type} (field : OptionLayer → Option α)
    (layers : List OptionLayer) :
    lastSet? field layers = none ↔ ∀ layer ∈ layers, field layer = none := by
  rw [lastSet?, List.getLast?_eq_none_iff, List.filterMap_eq_nil_iff]

/-! ## Settling -/

open CurrentDirectory (IsNeeded WorksIn untold)

variable {current : CurrentDirectory} {layer : OptionLayer} {settings : Settings}

/-- A layer with an entry settles wherever a build with it works. -/
lemma settle_of_entry {entry : String} (h : layer.entry = some entry) :
    layer.settle current = (current.workIn layer.cwd).map fun cwd =>
      ⟨entry, cwd.normal, layer.directory?.getD Settings.defaultDirectory,
        layer.fileName?.getD Settings.defaultFileName⟩ := by
  rw [settle, h, directory?, fileName?]
  cases layer.output <;> rfl

/-- **When a layer settles**, and to which settings. -/
lemma settle_eq_ok_iff :
    layer.settle current = .ok settings
      ↔ layer.entry = some settings.entry
        ∧ (∃ path, WorksIn current layer.cwd path ∧ settings.cwd = path.normal)
        ∧ settings.directory = layer.directory?.getD Settings.defaultDirectory
        ∧ settings.fileName = layer.fileName?.getD Settings.defaultFileName := by
  cases hentry : layer.entry with
  | none => simp [settle, hentry]
  | some entry =>
      rw [settle_of_entry hentry]
      constructor
      · intro h
        cases hwork : current.workIn layer.cwd with
        | error e =>
            rw [hwork] at h
            cases h
        | ok path =>
            rw [hwork] at h
            cases h
            exact ⟨rfl, ⟨path, CurrentDirectory.workIn_eq_ok_iff.1 hwork, rfl⟩, rfl, rfl⟩
      · obtain ⟨entry', cwd', directory', fileName'⟩ := settings
        rintro ⟨hentry', ⟨path, hwork, rfl⟩, rfl, rfl⟩
        cases hentry'
        rw [CurrentDirectory.workIn_eq_ok_iff.2 hwork]
        rfl

/-- **When a layer fails to settle**, and how. -/
lemma settle_eq_error_iff {e : BuildError} :
    layer.settle current = .error e
      ↔ (e = .missingEntry ∧ layer.entry = none)
        ∨ (layer.entry ≠ none ∧ IsNeeded layer.cwd
            ∧ ∃ cause, current = .error cause ∧ e = untold cause) := by
  cases hentry : layer.entry with
  | none => simp [settle, hentry, eq_comm]
  | some entry =>
      have hmap : layer.settle current = .error e ↔ current.workIn layer.cwd = .error e := by
        rw [settle_of_entry hentry]
        cases current.workIn layer.cwd <;> simp [Except.map]
      rw [hmap, CurrentDirectory.workIn_eq_error_iff]
      simp

/-- The settings of a build have a working directory that is absolute and in normal form. -/
lemma isCanonical_cwd (habs : current.Absolute) (h : layer.settle current = .ok settings) :
    IsCanonical settings.cwd := by
  obtain ⟨-, ⟨path, hwork, hcwd⟩, -⟩ := settle_eq_ok_iff.1 h
  rw [hcwd]
  exact Path.isCanonical_normal (hwork.isAbsolute habs)

/-- **What layers settle to**: each field is what the last layer says that sets this very field, or
    else its default. -/
structure SettlesTo (current : CurrentDirectory) (layers : List OptionLayer)
    (settings : Settings) : Prop where
  entry : lastSet? OptionLayer.entry layers = some settings.entry
  cwd : ∃ path, WorksIn current (lastSet? OptionLayer.cwd layers) path
    ∧ settings.cwd = path.normal
  directory : settings.directory = (lastSet? directory? layers).getD Settings.defaultDirectory
  fileName : settings.fileName = (lastSet? fileName? layers).getD Settings.defaultFileName

lemma settle_mergeAll_iff {layers : List OptionLayer} :
    (mergeAll layers).settle current = .ok settings ↔ SettlesTo current layers settings := by
  rw [settle_eq_ok_iff, merges_entry.mergeAll, merges_cwd.mergeAll, merges_directory.mergeAll,
    merges_fileName.mergeAll]
  constructor
  · rintro ⟨hentry, hcwd, hdirectory, hfileName⟩
    exact ⟨hentry, hcwd, hdirectory, hfileName⟩
  · intro h
    exact ⟨h.entry, h.cwd, h.directory, h.fileName⟩

/-- Layers fail to settle if none of them sets an entry, or if the current directory is needed and
    is not told. -/
lemma settle_mergeAll_eq_error_iff {layers : List OptionLayer} {e : BuildError} :
    (mergeAll layers).settle current = .error e
      ↔ (e = .missingEntry ∧ ∀ layer ∈ layers, layer.entry = none)
        ∨ ((∃ layer ∈ layers, layer.entry ≠ none)
            ∧ IsNeeded (lastSet? OptionLayer.cwd layers)
            ∧ ∃ cause, current = .error cause ∧ e = untold cause) := by
  rw [settle_eq_error_iff, merges_entry.mergeAll, merges_cwd.mergeAll, Ne, lastSet?_eq_none_iff]
  simp only [not_forall, exists_prop, ne_eq]

/-- A layer that leaves an output field out keeps what is set below, whatever else it sets. -/
lemma SettlesTo.keep {layers : List OptionLayer} {upper : OptionLayer} {before after : Settings}
    (hbefore : SettlesTo current layers before)
    (hafter : SettlesTo current (layers ++ [upper]) after) :
    (upper.directory? = none → after.directory = before.directory)
      ∧ (upper.fileName? = none → after.fileName = before.fileName) := by
  constructor
  · intro hnone
    rw [hafter.directory, hbefore.directory, lastSet?_concat, hnone, Option.none_or]
  · intro hnone
    rw [hafter.fileName, hbefore.fileName, lastSet?_concat, hnone, Option.none_or]

end OptionLayer

namespace CommandLine

open OptionLayer (mergeAll)

variable {σ : Type} [FileStore σ]

/-- **The layers of a run**, the lowest first: that of the configuration file if one is named, and
    that of the flags. -/
def layers (base : Path) (store : σ) (a : Arguments) : Except BuildErrors (List OptionLayer) :=
  match a.config? with
  | none => .ok [a.layer]
  | some path => (Config.load base store path).map fun file => [file, a.layer]

/-- The flags are put over the file, or over the blank layer. -/
lemma resolve_eq_layers (base : Path) (store : σ) (a : Arguments) :
    Config.resolve base store a.config? a.layer = (layers base store a).map mergeAll := by
  rw [layers]
  cases a.config? with
  | none => rfl
  | some path =>
      show (Config.load base store path).map (·.merge a.layer)
        = ((Config.load base store path).map fun file => [file, a.layer]).map mergeAll
      cases Config.load base store path with
      | error errors => rfl
      | ok file =>
          have hpair : mergeAll [file, a.layer] = file.merge a.layer := by
            rw [← List.singleton_append, OptionLayer.mergeAll_append,
              OptionLayer.mergeAll_singleton, OptionLayer.mergeAll_singleton]
          exact congrArg Except.ok hpair.symm

/-- The settings of a run are what its layers settle to. -/
lemma settings_eq_settle (place : WorkingPlace) (store : σ) (a : Arguments) :
    settings place store a
      = (layers place.base store a).bind fun layers =>
          ((mergeAll layers).settle place.told).mapError fun e => [e] := by
  rw [settings, resolve_eq_layers]
  cases layers place.base store a with
  | error errors => rfl
  | ok layers =>
      simp only [Except.map, Except.bind, bind]
      cases (mergeAll layers).settle place.told <;> rfl

/-- **The layer of the flags** sets the fields that are given, and no other. -/
structure Arguments.SetBy (a : Arguments) (layer : OptionLayer) : Prop where
  entry : layer.entry = a.get? .entry
  cwd : layer.cwd = (a.get? .cwd).map .mk
  directory : layer.directory? = a.get? .directory
  fileName : layer.fileName? = a.get? .fileName

lemma Arguments.setBy_layer (a : Arguments) : a.SetBy a.layer := by
  constructor <;>
    cases hdirectory : a.get? .directory <;> cases hfileName : a.get? .fileName <;>
      simp [layer, OptionLayer.directory?, OptionLayer.fileName?, hdirectory, hfileName]

end CommandLine

namespace OptionLayer

open CurrentDirectory (IsNeeded untold)

/-- **A pile combines field by field**, in a current directory that is told or not. -/
structure Pile.Combines (current : CurrentDirectory) (pile : Pile) : Prop where
  /-- The grouping makes no difference. -/
  merged : pile.merged = mergeAll pile.layers
  /-- Each field is what the last layer says that sets this very field, or else its default. -/
  settles : ∀ settings, pile.merged.settle current = .ok settings
    ↔ SettlesTo current pile.layers settings
  /-- Where the current directory is told, the pile fails exactly if no layer sets an entry. -/
  fails : ∀ here e, current = .ok here → (pile.merged.settle current = .error e
    ↔ e = .missingEntry ∧ ∀ layer ∈ pile.layers, layer.entry = none)
  /-- Where it is not told, the pile also fails if the current directory is needed. -/
  fails_untold : ∀ cause e, current = .error cause → (pile.merged.settle current = .error e
    ↔ (e = .missingEntry ∧ ∀ layer ∈ pile.layers, layer.entry = none)
      ∨ (e = untold cause ∧ (∃ layer ∈ pile.layers, layer.entry ≠ none)
          ∧ IsNeeded (lastSet? OptionLayer.cwd pile.layers)))
  /-- The working directory is absolute and in normal form. -/
  canonical : ∀ settings, pile.merged.settle current = .ok settings → IsCanonical settings.cwd
  /-- A further layer that leaves an output field out keeps it, and may set the other one. -/
  keeps : ∀ upper before after, pile.merged.settle current = .ok before →
    (pile.merged.merge upper).settle current = .ok after →
      (upper.directory? = none → after.directory = before.directory)
        ∧ (upper.fileName? = none → after.fileName = before.fileName)

/-- **Layers combine field by field.**  A pile of layers comes to the same however it is grouped,
    and blank layers make no difference in it.  Each field is what the last layer says that sets
    this very field, or else its default.  As long as the system tells the current directory, a
    pile fails to settle exactly if none of its layers sets an entry; a current directory that is
    not told makes it fail too, if it is needed.  The settings of a run are what the flags over the
    configuration file settle to. -/
theorem settle_pile {σ : Type} [FileStore σ] {place : CommandLine.WorkingPlace}
    (habs : place.told.Absolute) (pile : Pile) (store : σ) (a : CommandLine.Arguments) :
    pile.Combines place.told
      ∧ (∀ layer, empty.merge layer = layer ∧ layer.merge empty = layer)
      ∧ CommandLine.settings place store a
          = ((CommandLine.layers place.base store a).bind fun layers =>
              ((mergeAll layers).settle place.told).mapError fun e => [e])
      ∧ a.SetBy a.layer := by
  have hmerged := pile.merged_eq_mergeAll
  refine ⟨⟨hmerged, fun settings => ?_, fun here e htold => ?_, fun cause e htold => ?_,
    fun settings => isCanonical_cwd habs, fun upper before after hbefore hafter => ?_⟩,
    fun layer => ⟨empty_merge layer, merge_empty layer⟩,
    CommandLine.settings_eq_settle place store a, a.setBy_layer⟩
  · rw [hmerged, settle_mergeAll_iff]
  · rw [hmerged, settle_mergeAll_eq_error_iff, htold]
    simp
  · rw [hmerged, settle_mergeAll_eq_error_iff, htold]
    simp only [Except.error.injEq, exists_eq_left']
    tauto
  · rw [hmerged, settle_mergeAll_iff] at hbefore
    rw [hmerged, ← mergeAll_singleton upper, ← mergeAll_append, settle_mergeAll_iff] at hafter
    exact hbefore.keep hafter

/-- A file sets the entry and the directory, and the flags set the other two fields. -/
def halvesStore : FlatStore :=
  ⟨.ofList [("", .directory), ("/w/c.json", .file "[\"./a.js\", null, [\"out\", null]]".toUTF8)]⟩

/-- Flags over that file. -/
def halvesArguments : CommandLine.Arguments :=
  ⟨.ofList [(.config, "c.json"), (.cwd, "q/../p/"), (.fileName, "b.js")], false⟩

/-- The layers of the file and of the flags, with a blank one between them. -/
def halvesPile : Pile :=
  .stack (.stack (.single ⟨some "./a.js", none, some ⟨some "out", none⟩⟩) .blank)
    (.single halvesArguments.layer)

/-- The flags give an output field, and the file keeps the other one.  The relative working
    directory cannot be had if the current one is not told. -/
theorem settle_pile_halves :
    CurrentDirectory.Absolute (.ok ⟨"/w"⟩)
      ∧ halvesPile.merged.settle (.ok ⟨"/w"⟩) = .ok ⟨"./a.js", ⟨"/w/p"⟩, "out", "b.js"⟩
      ∧ IsCanonical ⟨"/w/p"⟩
      ∧ CommandLine.settings ⟨⟨"/w"⟩, .ok ⟨"/w"⟩⟩ halvesStore halvesArguments
          = .ok ⟨"./a.js", ⟨"/w/p"⟩, "out", "b.js"⟩
      ∧ CommandLine.settings ⟨⟨"/w"⟩, .error .noEntry⟩ halvesStore halvesArguments
          = .error [untold .noEntry] := by
  have habs : CurrentDirectory.Absolute (.ok ⟨"/w"⟩) := by
    rintro here ⟨⟩
    decide +kernel
  have hlayers : CommandLine.layers ⟨"/w"⟩ halvesStore halvesArguments = .ok halvesPile.layers := by
    decide +kernel
  obtain ⟨htold, -, hrun, -⟩ := @settle_pile _ _ ⟨⟨"/w"⟩, .ok ⟨"/w"⟩⟩ habs halvesPile halvesStore
    halvesArguments
  obtain ⟨huntold, -, hlost, -⟩ := @settle_pile _ _ ⟨⟨"/w"⟩, .error .noEntry⟩ (fun _ h => nomatch h)
    halvesPile halvesStore halvesArguments
  have hneeded : IsNeeded (lastSet? OptionLayer.cwd halvesPile.layers) := by
    have hset : lastSet? OptionLayer.cwd halvesPile.layers = some ⟨"q/../p/"⟩ := by decide +kernel
    rintro path hpath
    rw [hset] at hpath
    cases hpath
    decide +kernel
  have hsettle : halvesPile.merged.settle (.ok ⟨"/w"⟩) = .ok ⟨"./a.js", ⟨"/w/p"⟩, "out", "b.js"⟩ :=
    (htold.settles _).2 ⟨by decide +kernel, ⟨⟨"/w/q/../p/"⟩, .needed hneeded ⟨"/w"⟩ rfl
      (by decide +kernel), by decide +kernel⟩, by decide +kernel, by decide +kernel⟩
  have hfail : halvesPile.merged.settle (.error .noEntry) = .error (untold .noEntry) :=
    (huntold.fails_untold _ _ rfl).2 (.inr ⟨rfl, ⟨_, List.mem_cons_self, by decide⟩, hneeded⟩)
  refine ⟨habs, hsettle, htold.canonical _ hsettle, ?_, ?_⟩
  · rw [hrun, hlayers, Except.bind, ← htold.merged, hsettle]
    rfl
  · rw [hlost, hlayers, Except.bind, ← huntold.merged, hfail]
    rfl

end OptionLayer

end ModuleBundler
