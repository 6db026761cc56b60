import ModuleBundler.Proofs.FileStore.Writing
import ModuleBundler.Proofs.Path.Inside

/-!
# What an asset leaves behind

**The way to a directory** leads through the paths that its first steps lead to, each spelled with
one separator between two steps (`Path.OnWayTo`).  These are the directories that are made sure of
(`mem_stations_components`), whatever the spelling of the directory itself.

**New entries.**  What making sure of a directory adds to a store are directories on the way to it
(`new_of_ensureDirectory`).  A failure leaves it at that, and a success gives one more key its bytes
(`write_frame`).
-/

namespace ModuleBundler

namespace Path

/-- The path that some steps lead to from the root. -/
def fromSteps (steps : List Component) : Path := ⟨"/" ++ stepsText steps⟩

/-- **A path on the way to another one**: some of its first steps lead there from the root. -/
def OnWayTo (p q : Path) : Prop := ∃ steps, steps <+: q.steps ∧ p = fromSteps steps

lemma isRouteStep_of_mem_steps {p : Path} {c : Component} (h : c ∈ p.steps) : IsRouteStep c := by
  obtain ⟨segment, hsegment, hstep⟩ := List.mem_filterMap.1 h
  have hname : ∀ n, c = .name n → IsRouteStep c := by
    rintro n rfl
    exact .inr ⟨n, stepOf_inward (notMem_rawSegments p segment hsegment) hstep, rfl⟩
  unfold stepOf at hstep
  split_ifs at hstep
  · exact .inl (Option.some.inj hstep).symm
  · exact hname _ (Option.some.inj hstep).symm

lemma stepsText_snoc {steps : List Component} (hne : steps ≠ []) (c : Component) :
    stepsText (steps ++ [c]) = stepsText steps ++ "/" ++ c.text := by
  rw [stepsText, List.map_append, List.map_singleton,
    String.intercalate_append_of_ne_nil (by simpa using hne) (by simp),
    String.intercalate_singleton]
  rfl

/-- A step that is read on behind some others. -/
lemma join_fromSteps {steps : List Component} {c : Component} (h : ∀ d ∈ steps, IsRouteStep d)
    (hc : IsRouteStep c) : (fromSteps steps).join ⟨c.text⟩ = fromSteps (steps ++ [c]) := by
  have hrelative : (⟨c.text⟩ : Path).isAbsolute = false := isAbsolute_of_notMem hc.notMem_text
  rw [join, if_neg (by simp [hrelative]), if_neg (by simp [fromSteps])]
  rcases steps.eq_nil_or_concat' with rfl | ⟨before, d, rfl⟩
  · rfl
  · have hd := h d (by simp)
    have hlast : (fromSteps (before ++ [d])).text.toList.getLast? ≠ some '/' := by
      have htext : ∃ front, (fromSteps (before ++ [d])).text = front ++ d.text := by
        by_cases hbefore : before = []
        · exact ⟨"/", by rw [hbefore]; rfl⟩
        · exact ⟨"/" ++ (stepsText before ++ "/"), by
            simp only [fromSteps, stepsText_snoc hbefore, String.append_assoc]⟩
      obtain ⟨front, htext⟩ := htext
      rw [htext, String.toList_append, List.getLast?_append_of_ne_nil _ hd.text_ne]
      exact fun hlast => hd.notMem_text (List.mem_of_getLast? hlast)
    rw [if_neg hlast, fromSteps, fromSteps, stepsText_snoc (by simp) c]
    simp only [String.append_assoc]

end Path

open ModuleBundler.Path (fromSteps IsRouteStep)

namespace Asset

/-- The stations of a route: each has one step more than the one before. -/
lemma stations_cons {before : List Path.Component} {c : Path.Component}
    (hbefore : ∀ d ∈ before, IsRouteStep d) (hc : IsRouteStep c) (rest : List Path.Component) :
    stations (fromSteps before) (c :: rest)
      = fromSteps (before ++ [c]) :: stations (fromSteps (before ++ [c])) rest := by
  rw [← Path.join_fromSteps hbefore hc]
  rcases hc with rfl | ⟨n, -, rfl⟩ <;> rfl

/-- The stations of some steps are what the first of them lead to. -/
lemma mem_stations {before steps : List Path.Component} (hbefore : ∀ c ∈ before, IsRouteStep c)
    (hsteps : ∀ c ∈ steps, IsRouteStep c) {p : Path} :
    p ∈ stations (fromSteps before) steps
      ↔ ∃ first, first ≠ [] ∧ first <+: steps ∧ p = fromSteps (before ++ first) := by
  induction steps generalizing before with
  | nil => simp [stations]
  | cons c rest ih =>
      have hc := hsteps c (by simp)
      have hbefore' : ∀ d ∈ before ++ [c], IsRouteStep d := by
        simpa [or_imp, forall_and] using ⟨hbefore, hc⟩
      rw [stations_cons hbefore hc, List.mem_cons, ih hbefore' fun d hd => hsteps d (by simp [hd])]
      constructor
      · rintro (rfl | ⟨first, hne, hfirst, rfl⟩)
        · exact ⟨[c], by simp, by simp, rfl⟩
        · exact ⟨c :: first, by simp, by simpa using hfirst, by simp⟩
      · rintro ⟨first, hne, hfirst, rfl⟩
        obtain ⟨d, first, rfl⟩ := List.exists_cons_of_ne_nil hne
        obtain ⟨rfl, hrest⟩ := List.cons_prefix_cons.1 hfirst
        by_cases hnil : first = []
        · exact .inl (by rw [hnil])
        · exact .inr ⟨first, hnil, hrest, by simp⟩

lemma stations_components {directory : Path} (h : directory.isAbsolute = true) :
    stations ⟨""⟩ directory.components = stations (fromSteps []) directory.steps := by
  rw [Path.components_of_isAbsolute h]
  rfl

/-- **The stations of a directory** are the paths on the way to it, apart from the root. -/
lemma mem_stations_components {directory p : Path} (h : directory.isAbsolute = true) :
    p ∈ stations ⟨""⟩ directory.components
      ↔ ∃ steps, steps ≠ [] ∧ steps <+: directory.steps ∧ p = fromSteps steps := by
  rw [stations_components h, mem_stations (by simp) fun c => Path.isRouteStep_of_mem_steps]
  rfl

/-! ## What is new -/

open FlatStore (Grown key)

variable {store : FlatStore} {directory : Path} {a : Asset}

/-- A key that creating directories has added is the key of one of them. -/
lemma mem_of_createMissing (ps : List Path) {store : FlatStore} {k : String}
    (h : k ∈ (createMissing store ps).1.entries.keys) :
    k ∈ store.entries.keys ∨ ∃ p ∈ ps, k = key p := by
  induction ps generalizing store with
  | nil => exact .inl h
  | cons p rest ih =>
      have hlater : ∀ {next : FlatStore}, k ∈ (createMissing next rest).1.entries.keys →
          k ∈ next.entries.keys ∨ ∃ q ∈ p :: rest, k = key q := fun h =>
        (ih h).imp_right fun ⟨q, hq, hk⟩ => ⟨q, List.mem_cons_of_mem p hq, hk⟩
      rw [createMissing] at h
      split at h
      · exact hlater h
      · split at h
        · next next hcreate =>
            obtain ⟨-, -, rfl⟩ := FlatStore.createDirectory_eq_ok_iff.1 hcreate
            rcases hlater h with h | h
            · rcases (OrderedMap.mem_keys_insert ..).1 h with rfl | h
              · exact .inr ⟨p, by simp, rfl⟩
              · exact .inl h
            · exact .inr h
        · exact .inl h

/-- Making sure of a directory leaves alone what is there. -/
lemma get?_ensureDirectory {k : String} (h : k ∈ store.entries.keys) :
    (ensureDirectory store directory).1.entries.get? k = store.entries.get? k := by
  have hgrown : Grown store (ensureDirectory store directory).1 := grown_createMissing _ store
  refine (hgrown k).resolve_right fun hnew => ?_
  exact (OrderedMap.get?_eq_none_iff _ _).1 hnew.1 h

/-- **What making sure of a directory adds** to a store are directories on the way to it. -/
lemma new_of_ensureDirectory (habsolute : directory.isAbsolute = true) {k : String}
    (h : k ∈ (ensureDirectory store directory).1.entries.keys) (hnew : k ∉ store.entries.keys) :
    (∃ p, p.OnWayTo directory ∧ k = key p)
      ∧ (ensureDirectory store directory).1.entries.get? k = some .directory := by
  constructor
  · obtain ⟨p, hp, hk⟩ := (mem_of_createMissing _ h).resolve_left hnew
    obtain ⟨steps, -, hsteps, rfl⟩ := (mem_stations_components habsolute).1 hp
    exact ⟨_, ⟨steps, hsteps, rfl⟩, hk⟩
  · have hgrown : Grown store (ensureDirectory store directory).1 := grown_createMissing _ store
    rcases hgrown k with hsame | ⟨-, hdirectory⟩
    · rw [← OrderedMap.get?_eq_none_iff, ← hsame, OrderedMap.get?_eq_none_iff] at hnew
      exact absurd h hnew
    · exact hdirectory

/-- Once a directory has been made sure of, everything on the way to it is there. -/
lemma present_onWay (habsolute : directory.isAbsolute = true) {ready : FlatStore}
    (h : ensureDirectory store directory = (ready, none)) {p : Path} (hp : p.OnWayTo directory) :
    FlatStore.present ready p = true := by
  obtain ⟨steps, hsteps, rfl⟩ := hp
  by_cases hroot : steps = []
  · rw [hroot]
    exact FlatStore.present_iff.2 (.inl (by decide +kernel))
  · exact present_of_createMissing h _ ((mem_stations_components habsolute).2
      ⟨steps, hroot, hsteps, rfl⟩)

/-- Writing an asset that succeeds has made sure of the directory and then written the file. -/
lemma write_ok {path : Path} (h : (a.write store directory).2 = .ok path) :
    ∃ ready, ensureDirectory store directory = (ready, none)
      ∧ path = directory.join ⟨a.fileName⟩
      ∧ a.write store directory = (ready.withFile path a.content.toUTF8, .ok path) := by
  rcases write_cases store directory a with
    ⟨ready, errors, hfailed, -⟩ | ⟨ready, hensure, -, -, hdone⟩
  · rw [hfailed] at h
    cases h
  · rw [hdone] at h
    cases h
    exact ⟨ready, hensure, rfl, hdone⟩

/-- Writing an asset that fails has made sure of the directory as far as that went, and the one
    error is about the directory or about the file. -/
lemma write_error {errors : BuildErrors} (h : (a.write store directory).2 = .error errors) :
    (a.write store directory).1 = (ensureDirectory store directory).1
      ∧ ∃ path cause, errors = [.write path cause]
        ∧ (path = directory ∨ path = directory.join ⟨a.fileName⟩) := by
  cases hensure : ensureDirectory store directory with
  | mk ready problem =>
      cases problem with
      | some cause =>
          rw [write_of_unensured hensure] at h ⊢
          cases h
          exact ⟨rfl, _, _, rfl, .inl rfl⟩
      | none =>
          cases hwrite : FileStore.write ready (directory.join ⟨a.fileName⟩) a.content.toUTF8 with
          | error cause =>
              rw [write_of_refused hensure hwrite] at h ⊢
              cases h
              exact ⟨rfl, _, _, rfl, .inr rfl⟩
          | ok next =>
              rw [write_of_written hensure hwrite] at h
              cases h

/-- **Writing an asset into an absolute directory.**  If it succeeds, the answer is the path of the
    asset in the directory, and this path is a file with the content of the asset.  Everything on
    the way to the directory is there, every other key has the entry that it had before, and a key
    that is new is that of the path, or a directory on the way.  To write the asset again gives the
    same answer and changes nothing.  If it fails, every key has the entry that it had before, a key
    that is new is a directory on the way, and the error says what could not be written. -/
theorem write_frame (store : FlatStore) (directory : Path) (a : Asset)
    (habsolute : directory.isAbsolute = true) :
    let outcome := a.write store directory
    let next := outcome.1.entries
    let isNewDirectory := fun k : String =>
      (∃ p : Path, p.OnWayTo directory ∧ k = key p) ∧ next.get? k = some .directory
    (∀ path, outcome.2 = .ok path →
        path = directory.join ⟨a.fileName⟩
          ∧ FlatStore.isFile outcome.1 path = true
          ∧ FlatStore.read outcome.1 path = .ok a.content
          ∧ (∀ p : Path, p.OnWayTo directory → FlatStore.present outcome.1 p = true)
          ∧ (∀ k ∈ store.entries.keys, k ≠ key path → next.get? k = store.entries.get? k)
          ∧ (∀ k ∈ next.keys, k ∉ store.entries.keys → k = key path ∨ isNewDirectory k)
          ∧ a.write outcome.1 directory = outcome)
      ∧ ∀ errors, outcome.2 = .error errors →
          (∀ k ∈ store.entries.keys, next.get? k = store.entries.get? k)
            ∧ (∀ k ∈ next.keys, k ∉ store.entries.keys → isNewDirectory k)
            ∧ ∃ path cause, errors = [.write path cause]
              ∧ (path = directory ∨ path = directory.join ⟨a.fileName⟩) := by
  intro outcome next isNewDirectory
  refine ⟨fun path hpath => ?_, fun errors herrors => ?_⟩
  · obtain ⟨ready, hensure, hjoin, hdone⟩ := write_ok hpath
    have houtcome : outcome = (ready.withFile path a.content.toUTF8, .ok path) := hdone
    have hnext (k : String) :
        next.get? k = if key path = k then some (.file a.content.toUTF8)
          else (ensureDirectory store directory).1.entries.get? k := by
      rw [show next = (ready.withFile path a.content.toUTF8).entries from
        congrArg (·.1.entries) hdone, FlatStore.get?_withFile, hensure]
    refine ⟨hjoin, ?_, ?_, fun p hp => ?_, fun k hk hne => ?_, fun k hk hnew => ?_, ?_⟩
    · exact FlatStore.isFile_iff.2 ⟨_, (hnext _).trans (if_pos rfl)⟩
    · exact FlatStore.read_eq_ok_iff.2 ((hnext _).trans (if_pos rfl))
    · rw [houtcome]
      exact present_mono (FlatStore.keys_subset_withFile ..) (present_onWay habsolute hensure hp)
    · rw [hnext, if_neg hne.symm]
      exact get?_ensureDirectory hk
    · by_cases hkey : key path = k
      · exact .inl hkey.symm
      · obtain ⟨entry, hentry⟩ := OrderedMap.exists_get?_of_mem_keys hk
        rw [hnext, if_neg hkey] at hentry
        obtain ⟨hway, hdirectory⟩ :=
          new_of_ensureDirectory habsolute (OrderedMap.mem_keys_of_get? hentry) hnew
        exact .inr ⟨hway, (hnext k).trans ((if_neg hkey).trans hdirectory)⟩
    · rw [houtcome]
      exact write_again hdone
  · obtain ⟨hstore, hpath⟩ := write_error herrors
    have hnext : next = (ensureDirectory store directory).1.entries :=
      congrArg FlatStore.entries hstore
    refine ⟨fun k hk => hnext ▸ get?_ensureDirectory hk, fun k hk hnew => ?_, hpath⟩
    obtain ⟨hway, hdirectory⟩ := new_of_ensureDirectory habsolute (hnext ▸ hk) hnew
    exact ⟨hway, hnext ▸ hdirectory⟩

/-- An asset that replaces the first of the directories that are made for it. -/
def replacingAsset : Asset := ⟨"/p", "x"⟩

/-- The name of the file is the whole path here, and it leads to a directory on the way. -/
theorem write_frame_replacing :
    (⟨"/p//q/"⟩ : Path).isAbsolute = true
      ∧ ∃ next, replacingAsset.write FlatStore.empty ⟨"/p//q/"⟩ = (next, .ok ⟨"/p"⟩)
        ∧ FlatStore.read next ⟨"/p"⟩ = .ok "x"
        ∧ next.entries.get? "/p/q" = some .directory
        ∧ replacingAsset.write next ⟨"/p//q/"⟩ = (next, .ok ⟨"/p"⟩) := by
  have habsolute : (⟨"/p//q/"⟩ : Path).isAbsolute = true := by decide +kernel
  have hok : (replacingAsset.write FlatStore.empty ⟨"/p//q/"⟩).2 = .ok ⟨"/p"⟩ := by decide +kernel
  have hkeys : "/p/q" ∈ (replacingAsset.write FlatStore.empty ⟨"/p//q/"⟩).1.entries.keys := by
    decide +kernel
  have hframe := (write_frame FlatStore.empty ⟨"/p//q/"⟩ replacingAsset habsolute).1 _ hok
  generalize replacingAsset.write FlatStore.empty ⟨"/p//q/"⟩ = outcome at hok hkeys hframe ⊢
  obtain ⟨-, -, hread, -, -, hnew, hagain⟩ := hframe
  obtain ⟨-, hdirectory⟩ := (hnew "/p/q" hkeys (by decide +kernel)).resolve_left (by decide +kernel)
  have houtcome : outcome = (outcome.1, .ok ⟨"/p"⟩) := Prod.ext rfl hok
  exact ⟨habsolute, outcome.1, houtcome, hread, hdirectory, hagain.trans houtcome⟩

end Asset

end ModuleBundler
