import ModuleBundler.Proofs.Script.Exports

/-!
# Running the definitions in front of a module

What is defined on `exports` cannot be defined again: to try is an error, and the module does not
run.

**Lines.**  What a line does on `exports` is read off its text (`effect?`).  It defines a name, or
it goes through the keys of another module and defines them, except those of which one of its
conditions holds, or it does nothing there.  The conditions are read off the text too; a loop
without conditions defines every key.

**Runs.**  `runLines` follows what is defined, line by line, and has no result if something is
defined again, or if a line cannot be read.  The loops of a linkage pass over what is defined
already.  So whatever other modules export, a run fails only at the getters, and only if two of
them or one of them and the mark have one name (`Linkage.runLines_lines`).

**Scripts.**  The names that a script exports are distinct, so this leaves an export that is called
like the mark (`definitions_distinct_iff`).  Such an export is accepted, and the code of the script
cannot run (`definitions_of_marker`).
-/

namespace ModuleBundler.Script

open Text (after? separated unquote? upTo?)

/-! ## What a line does -/

/-- The name that a line defines on `exports`. -/
def definedName? (line : String) : Option String := do
  let cs ← after? "Object.defineProperty(exports, ".toList line.toList
  let (name, _) ← unquote? cs
  some name

/-- **A condition** under which a loop passes over a key. -/
inductive Guard where
  /-- The key is this one. -/
  | named (name : String)
  /-- The key is defined on `exports` already. -/
  | defined
deriving DecidableEq, Repr

namespace Guard

/-- Whether the condition holds of a key, given what is defined. -/
def holds (defined : List String) (key : String) : Guard → Bool
  | .named name => key == name
  | .defined => defined.contains key

/-- How the condition is written. -/
def text : Guard → String
  | .named name => "key === " ++ Text.quoted name
  | .defined => "Object.prototype.hasOwnProperty.call(exports, key)"

/-- Read a condition. -/
def read? (cs : List Char) : Option (Guard × List Char) :=
  match after? "key === ".toList cs with
  | some cs => (unquote? cs).map fun p => (.named p.1, p.2)
  | none =>
      (after? "Object.prototype.hasOwnProperty.call(exports, key)".toList cs).map (.defined, ·)

/-- **A condition is read back**, whatever follows. -/
lemma read?_text (g : Guard) (rest : List Char) :
    read? (g.text.toList ++ rest) = some (g, rest) := by
  cases g with
  | named name =>
      rw [text, String.toList_append, List.append_assoc]
      simp only [read?, Text.after?_append, Text.unquote?_quoted, Option.map_some]
  | defined =>
      have hother (rest : List Char) : after? "key === ".toList
          ("Object.prototype.hasOwnProperty.call(exports, key)".toList ++ rest) = none := by
        simp [after?]
      simp only [read?, text, hother, Text.after?_append, Option.map_some]

end Guard

/-- Read the conditions at the beginning of a loop, none if it has none. -/
def guards? (cs : List Char) : Option (List Guard × List Char) :=
  match after? "if (".toList cs with
  | none => some ([], cs)
  | some cs =>
      let (guards, cs) := separated " || ".toList Guard.read? cs
      (after? ") return; ".toList cs).map (guards, ·)

/-- **The loop of a line** through the keys of another module, each of which it defines on `exports`
    unless one of its conditions holds. -/
def loop? (line : String) : Option (List Guard) := do
  let cs ← after? "Object.keys(".toList line.toList
  let (_, cs) ← upTo? ").forEach(function (key) \x7b ".toList cs
  let (guards, cs) ← guards? cs
  let _ ← after? "Object.defineProperty(exports, key, ".toList cs
  some guards

/-- **What a line does on `exports`.** -/
inductive Effect where
  /-- Nothing: the line is a directive, or it asks for another module. -/
  | nothing
  /-- It defines a name. -/
  | define (name : String)
  /-- It defines the keys of another module, except those of which a condition holds. -/
  | showAll (guards : List Guard)
deriving DecidableEq, Repr

/-- **Read what a line does.**  There is no result for a line of another kind. -/
def effect? (line : String) : Option Effect :=
  match definedName? line, loop? line with
  | some name, _ => some (.define name)
  | none, some guards => some (.showAll guards)
  | none, none =>
      if line = "\"use strict\";" ∨ (required? line).isSome = true then some .nothing else none

/-! ## What it does to the names -/

/-- **Define a name.**  There is no result if it is defined already. -/
def define (defined : List String) (name : String) : Option (List String) :=
  if name ∈ defined then none else some (defined ++ [name])

/-- One turn of a loop. -/
def showKey (guards : List Guard) (defined : List String) (key : String) : Option (List String) :=
  if guards.any (·.holds defined key) then some defined else define defined key

/-- What an effect does, given the keys of the other module and what is defined. -/
def Effect.run (keys defined : List String) : Effect → Option (List String)
  | .nothing => some defined
  | .define name => Script.define defined name
  | .showAll guards => keys.foldlM (showKey guards) defined

/-- **Run a line**, given what is defined and the names that the module shown by it exports by
    then. -/
def runLine (keys defined : List String) (line : String) : Option (List String) :=
  (effect? line).bind (·.run keys defined)

/-- **Run lines** one after the other.  What a module exports may change in the meantime, so its
    names are given by how many lines are left. -/
def runLines (keys : ℕ → List String) (defined : List String) : List String → Option (List String)
  | [] => some defined
  | line :: rest =>
      (runLine (keys rest.length) defined line).bind fun defined => runLines keys defined rest

/-- **A loop fails** at a key that is defined already, unless a condition holds of it. -/
theorem showKey_eq_none_iff {guards : List Guard} {defined : List String} {key : String} :
    showKey guards defined key = none
      ↔ key ∈ defined ∧ ∀ g ∈ guards, g.holds defined key = false := by
  rw [showKey, define]
  split_ifs with hguards hkey
  · obtain ⟨g, hg, hholds⟩ := List.any_eq_true.1 hguards
    simp only [false_iff, not_and, not_forall, Bool.not_eq_false]
    exact fun _ => ⟨g, hg, hholds⟩
  · simpa [hkey] using hguards
  · simp [hkey]

/-- Without conditions, a loop does not pass over what is defined. -/
example : runLine ["a"] ["a"] ("Object.keys(__b).forEach(function (key) \x7b "
    ++ "Object.defineProperty(exports, key, \x7b enumerable: true, get: function () \x7b return "
    ++ "__b[key]; \x7d \x7d); \x7d);") = none := by
  decide +kernel

/-! ## The lines of a linkage -/

/-- The line of a getter defines the name under which it is seen from outside. -/
lemma definedName?_getterLine (g : Getter) : definedName? g.line = some g.outside := by
  rw [Getter.line_eq]
  simp only [definedName?, String.toList_append, Text.after?_append, Option.bind_eq_bind,
    Option.bind_some, Text.unquote?_quoted]

/-- The lines for a request define nothing by name. -/
lemma Request.definedName?_eq_none {q : Request} {line : String} (h : line ∈ q.lines) :
    definedName? line = none := by
  simp only [definedName?, after?_eq_none h, Option.bind_eq_bind, Option.bind_none]

lemma effect?_of_definedName? {line name : String} (h : definedName? line = some name) :
    effect? line = some (.define name) := by
  simp only [effect?, h]

/-- A line that asks for another module and does not begin a loop does nothing on `exports`. -/
lemma effect?_of_required? {line source : String} (hname : definedName? line = none)
    (hloop : after? "Object.keys(".toList line.toList = none) (h : required? line = some source) :
    effect? line = some .nothing := by
  simp only [effect?, hname, loop?, hloop, h, Option.bind_eq_bind, Option.bind_none,
    Option.isSome_some, or_true, if_true]

/-- The conditions of a line that shows all of another module. -/
def passedOver : List Guard :=
  [.named "default", .named "__esModule", .defined]

/-- The text of that line, up to what each key is defined as. -/
lemma toList_showAllLine (v : String) : ∃ rest, (showAllLine v).toList
    = "Object.keys(".toList ++ (v.toList ++ (").forEach(function (key) \x7b ".toList
      ++ ("if (".toList ++ (List.intercalate " || ".toList (passedOver.map (·.text.toList))
        ++ (") return; ".toList
          ++ ("Object.defineProperty(exports, key, ".toList ++ rest)))))) := by
  have hfixed : (").forEach(function (key) \x7b if (key === \"default\" || "
      ++ "key === \"__esModule\" || Object.prototype.hasOwnProperty.call(exports, key)) return; "
      ++ "Object.defineProperty(exports, key, \x7b enumerable: true, get: function () \x7b return "
        : String).toList
      = ").forEach(function (key) \x7b ".toList ++ ("if (".toList
        ++ (List.intercalate " || ".toList (passedOver.map (·.text.toList))
          ++ (") return; ".toList ++ ("Object.defineProperty(exports, key, ".toList
            ++ "\x7b enumerable: true, get: function () \x7b return ".toList)))) := by
    decide +kernel
  refine ⟨"\x7b enumerable: true, get: function () \x7b return ".toList
    ++ (v.toList ++ "[key]; \x7d \x7d); \x7d);".toList), ?_⟩
  have hread (rest : List Char) := congrArg (· ++ rest) hfixed
  delta showAllLine
  simp only [String.toList_append, List.append_assoc] at hread ⊢
  rw [hread]

/-- **The loop of a line that shows all** passes over what is defined already, among other keys. -/
theorem loop?_showAllLine {v : String} (hv : ')' ∉ v.toList) :
    loop? (showAllLine v) = some passedOver := by
  have hupTo (rest : List Char) : upTo? ").forEach(function (key) \x7b ".toList
      (v.toList ++ (").forEach(function (key) \x7b ".toList ++ rest)) = some (v.toList, rest) :=
    Text.upTo?_of_notMem hv ".forEach(function (key) \x7b ".toList rest
  have hguards (rest : List Char) : separated " || ".toList Guard.read?
      (List.intercalate " || ".toList (passedOver.map (·.text.toList))
        ++ (") return; ".toList ++ rest)) = (passedOver.map id, ") return; ".toList ++ rest) :=
    Text.separated_intercalate (by simp) (fun g _ => g.read?_text)
      (by simp [Guard.read?, after?]) (by simp)
  obtain ⟨rest, hline⟩ := toList_showAllLine v
  simp only [loop?, guards?, hline, hupTo, hguards, Text.after?_append, List.map_id,
    Option.bind_eq_bind, Option.bind_some, Option.map_some]

/-- The line of an `export *` shows everything but what its guards pass over. -/
lemma effect?_showAllLine {v : String} (hv : ')' ∉ v.toList) :
    effect? (showAllLine v) = some (.showAll passedOver) := by
  have hname : definedName? (showAllLine v) = none :=
    @Request.definedName?_eq_none (.showAll v "") _ (List.mem_cons_of_mem _ List.mem_cons_self)
  simp only [effect?, hname, loop?_showAllLine hv]

/-- **An effect that defines nothing again**, whatever another module exports. -/
def Effect.Careful : Effect → Prop
  | .nothing => True
  | .define _ => False
  | .showAll guards => .defined ∈ guards

/-- The lines for a request can be read, and they define nothing again. -/
lemma Request.exists_careful {q : Request}
    (hq : ∀ v, q.variableName? = some v → ' ' ∉ v.toList ∧ ')' ∉ v.toList) {line : String}
    (h : line ∈ q.lines) : ∃ e, effect? line = some e ∧ e.Careful := by
  have hname := definedName?_eq_none h
  have hkeep (v source : String) (hv : ' ' ∉ v.toList)
      (hname : definedName? (keepLine v source) = none) :
      effect? (keepLine v source) = some .nothing := by
    refine effect?_of_required? hname ?_ (required?_keepLine hv source)
    rw [keepLine, String.append_assoc, String.append_assoc, String.toList_append]
    simp [after?]
  cases q with
  | run source =>
      obtain rfl := List.mem_singleton.1 h
      refine ⟨.nothing, effect?_of_required? hname ?_ (required?_requireCall source), trivial⟩
      rw [requireCall, String.append_assoc, String.toList_append]
      simp [after?]
  | keep v source =>
      obtain rfl := List.mem_singleton.1 h
      exact ⟨.nothing, hkeep v source (hq v rfl).1 hname, trivial⟩
  | showAll v source =>
      rw [lines, List.mem_pair] at h
      obtain rfl | rfl := h
      · exact ⟨.nothing, hkeep v source (hq v rfl).1 hname, trivial⟩
      · exact ⟨_, effect?_showAllLine (hq v rfl).2, show Guard.defined ∈ passedOver by decide⟩

namespace Linkage

/-- The lines that define names: the one that marks the module, and those of the getters. -/
def definitions (l : Linkage) : List String :=
  openingLines.tail ++ l.getters.map Getter.line

lemma lines_eq (l : Linkage) :
    l.lines = "\"use strict\";" :: (l.definitions ++ l.requests.flatMap Request.lines) := rfl

lemma map_definedName?_definitions (l : Linkage) :
    l.definitions.map definedName? = ("__esModule" :: l.getters.map Getter.outside).map some := by
  have hmark : openingLines.tail.map definedName? = [some "__esModule"] := by decide +kernel
  rw [definitions, List.map_append, hmark, List.map_map, List.map_cons, List.map_map,
    List.singleton_append]
  exact congrArg (List.cons _) (List.map_congr_left fun g _ => definedName?_getterLine g)

lemma definedName?_request (l : Linkage) {line : String}
    (h : line ∈ l.requests.flatMap Request.lines) : definedName? line = none := by
  obtain ⟨q, -, hline⟩ := List.mem_flatMap.1 h
  exact Request.definedName?_eq_none hline

lemma definedName?_directive : definedName? "\"use strict\";" = none := by
  decide +kernel

lemma effect?_directive : effect? "\"use strict\";" = some .nothing := by
  decide +kernel

/-- **The names that the lines define** are the mark and those of the getters, in their order. -/
theorem filterMap_definedName?_lines (l : Linkage) :
    l.lines.filterMap definedName? = "__esModule" :: l.getters.map Getter.outside := by
  have hdefinitions : l.definitions.filterMap definedName?
      = "__esModule" :: l.getters.map Getter.outside := by
    have hmap := congrArg (List.filterMap id) l.map_definedName?_definitions
    rwa [List.filterMap_map, List.filterMap_map, Function.id_comp, Function.id_comp,
      List.filterMap_some] at hmap
  have hrequests : (l.requests.flatMap Request.lines).filterMap definedName? = [] :=
    List.filterMap_eq_nil_iff.2 fun _ => l.definedName?_request
  rw [lines_eq, List.filterMap_cons_none definedName?_directive, List.filterMap_append,
    hdefinitions, hrequests, List.append_nil]

end Linkage

/-! ## Runs -/

section Runs

variable {keys : ℕ → List String} {defined : List String}

lemma runLine_of_definedName? {line name : String} (h : definedName? line = some name)
    (shown : List String) : runLine shown defined line = define defined name := by
  rw [runLine, effect?_of_definedName? h]
  rfl

lemma runLine_directive (shown : List String) :
    runLine shown defined "\"use strict\";" = some defined := by
  rw [runLine, Linkage.effect?_directive]
  rfl

/-- The lines that come later do not matter to those in front of them. -/
lemma runLines_append (lines more : List String) :
    runLines keys defined (lines ++ more)
      = (runLines (fun n => keys (n + more.length)) defined lines).bind fun defined =>
          runLines keys defined more := by
  induction lines generalizing defined with
  | nil => rfl
  | cons line lines ih =>
      simp only [List.cons_append, runLines, List.length_append, Option.bind_assoc, ih]

/-- **Lines that define names** run if the names are new and distinct. -/
lemma runLines_defining {lines names : List String}
    (h : lines.map definedName? = names.map some) (hdefined : defined.Nodup) :
    runLines keys defined lines
      = if (defined ++ names).Nodup then some (defined ++ names) else none := by
  induction lines generalizing defined names with
  | nil =>
      cases names with
      | nil => rw [runLines, List.append_nil, if_pos hdefined]
      | cons name names => cases h
  | cons line lines ih =>
      cases names with
      | nil => cases h
      | cons name names =>
          rw [List.map_cons, List.map_cons, List.cons.injEq] at h
          rw [runLines, runLine_of_definedName? h.1, define]
          by_cases hname : name ∈ defined
          · have hrepeated : ¬ (defined ++ name :: names).Nodup := fun hnodup =>
              List.disjoint_of_nodup_append hnodup hname List.mem_cons_self
            rw [if_pos hname, if_neg hrepeated, Option.bind_none]
          · have hnext : (defined ++ [name]).Nodup :=
              List.nodup_append_comm.1 (List.nodup_cons.2 ⟨hname, hdefined⟩)
            rw [if_neg hname, Option.bind_some, ih h.2 hnext, List.append_assoc,
              List.singleton_append]

/-- A turn of a loop that passes over what is defined keeps the names and defines none again. -/
lemma exists_showKey {guards : List Guard} (h : .defined ∈ guards) (defined : List String)
    (key : String) :
    ∃ next, showKey guards defined key = some next ∧ defined <+: next
      ∧ (defined.Nodup → next.Nodup) := by
  obtain ⟨next, hnext⟩ : ∃ next, showKey guards defined key = some next := by
    refine Option.ne_none_iff_exists'.1 fun hnone => ?_
    obtain ⟨hkey, hheld⟩ := showKey_eq_none_iff.1 hnone
    exact Bool.false_ne_true ((hheld _ h).symm.trans (List.contains_iff_mem.2 hkey))
  refine ⟨next, hnext, ?_⟩
  rw [showKey, define] at hnext
  split_ifs at hnext with hheld hkey
  · cases hnext
    exact ⟨List.prefix_rfl, id⟩
  · cases hnext
    refine ⟨List.prefix_append _ _, fun hdefined => ?_⟩
    exact List.nodup_append_comm.1 (List.nodup_cons.2 ⟨hkey, hdefined⟩)

/-- **A careful effect** keeps the names that are defined, and defines none again. -/
lemma Effect.Careful.exists_run {e : Effect} (h : e.Careful) (shown defined : List String) :
    ∃ next, e.run shown defined = some next ∧ defined <+: next
      ∧ (defined.Nodup → next.Nodup) := by
  cases e with
  | nothing => exact ⟨defined, rfl, List.prefix_rfl, id⟩
  | define name => cases h
  | showAll guards =>
      rw [run]
      induction shown generalizing defined with
      | nil => exact ⟨defined, rfl, List.prefix_rfl, id⟩
      | cons key shown ih =>
          obtain ⟨next, hturn, hgrown, hnodup⟩ := exists_showKey h defined key
          obtain ⟨last, hrun, hgrown', hnodup'⟩ := ih next
          refine ⟨last, ?_, hgrown.trans hgrown', hnodup' ∘ hnodup⟩
          rw [List.foldlM_cons, hturn]
          exact hrun

/-- **Lines with careful effects** run, whatever other modules export. -/
lemma runLines_careful {lines : List String}
    (h : ∀ line ∈ lines, ∃ e, effect? line = some e ∧ e.Careful) (keys : ℕ → List String)
    (defined : List String) :
    ∃ defined', runLines keys defined lines = some defined' ∧ defined <+: defined'
      ∧ (defined.Nodup → defined'.Nodup) := by
  induction lines generalizing defined with
  | nil => exact ⟨defined, rfl, List.prefix_rfl, id⟩
  | cons line lines ih =>
      obtain ⟨e, hline, hcareful⟩ := h line List.mem_cons_self
      obtain ⟨next, hrun, hgrown, hnodup⟩ := hcareful.exists_run (keys lines.length) defined
      obtain ⟨defined', hruns, hgrown', hnodup'⟩ :=
        ih (fun line' hline' => h line' (List.mem_cons_of_mem _ hline')) next
      refine ⟨defined', ?_, hgrown.trans hgrown', hnodup' ∘ hnodup⟩
      rw [runLines, runLine, hline, Option.bind_some, hrun, Option.bind_some, hruns]

/-- The lines for the requests of a script are careful, since the names of its variables have no
    blank and no bracket. -/
lemma Linkage.exists_careful (r : Resolution) (items : List Item) {line : String}
    (h : line ∈ (ofItems r items).requests.flatMap Request.lines) :
    ∃ e, effect? line = some e ∧ e.Careful := by
  obtain ⟨q, hq, hline⟩ := List.mem_flatMap.1 h
  refine Request.exists_careful (fun v hv => ⟨blank_notMem_variable hq hv, ?_⟩) hline
  exact notMem_variable hq hv (by decide +kernel)

/-- **A run of the lines in front of a module** fails if two of the names that they define are the
    same.  Otherwise it defines these names, and then names of other modules, each once. -/
theorem Linkage.runLines_lines (r : Resolution) (items : List Item) (keys : ℕ → List String) :
    let lines := (ofItems r items).lines
    let names := lines.filterMap definedName?
    (names.Nodup → ∃ defined, runLines keys [] lines = some defined
        ∧ names <+: defined ∧ defined.Nodup)
      ∧ (¬ names.Nodup → runLines keys [] lines = none) := by
  let l := ofItems r items
  intro lines names
  have hnames : names = "__esModule" :: l.getters.map Getter.outside :=
    l.filterMap_definedName?_lines
  have hdefinitions (keys : ℕ → List String) : runLines keys [] l.definitions
      = if names.Nodup then some names else none := by
    rw [hnames]
    exact runLines_defining l.map_definedName?_definitions List.nodup_nil
  rw [show lines = _ from l.lines_eq, runLines, runLine_directive, Option.bind_some,
    runLines_append, hdefinitions]
  refine ⟨fun hnodup => ?_, fun hrepeated => by rw [if_neg hrepeated, Option.bind_none]⟩
  obtain ⟨defined, hruns, hgrown, hkept⟩ :=
    runLines_careful (fun _ => exists_careful r items) keys names
  exact ⟨defined, by rw [if_pos hnodup, Option.bind_some, hruns], hgrown, hkept hnodup⟩

end Runs

/-! ## Scripts -/

/-- **What a script defines** before it begins.  The code of a script begins with lines that define
    the mark and the names of its getters.  The names of the getters are distinct, so all names are
    distinct unless an item exports something under the name of the mark.  The same condition
    decides whether the lines run, whatever other modules export at the time; if they run, every
    name that is defined is defined once. -/
theorem definitions_distinct_iff (source : String) (p : Program)
    (hread : Program.read source.toList = .ok p) :
    let names := (frontLines source).filterMap definedName?
    (∀ id unit, compile id source = .ok unit →
        ∃ body, unit.code = String.join ((frontLines source).map (· ++ "\n")) ++ body)
      ∧ names = "__esModule" :: (gettersOf source).map Getter.outside
      ∧ ((gettersOf source).map Getter.outside).Nodup
      ∧ (names.Nodup ↔ ∀ item ∈ p.items, ∀ origin, ¬ item.Exports "__esModule" origin)
      ∧ ∀ keys,
          (names.Nodup → ∃ defined, runLines keys [] (frontLines source) = some defined
              ∧ names <+: defined ∧ defined.Nodup)
            ∧ (¬ names.Nodup → runLines keys [] (frontLines source) = none) := by
  intro names
  let r := Resolution.ofItems p.items
  have hlines : frontLines source = (Linkage.ofItems r p.items).lines := frontLines_of_read hread
  have hgetters : gettersOf source = (Linkage.ofItems r p.items).getters :=
    gettersOf_of_read hread
  have hnames : names = "__esModule" :: (gettersOf source).map Getter.outside := by
    rw [hgetters]
    exact (congrArg _ hlines).trans (Linkage.filterMap_definedName?_lines _)
  have hperm : ((gettersOf source).map Getter.outside ++ p.items.flatMap Item.assigned).Perm
      (p.items.flatMap Item.exportedNames) :=
    hgetters ▸ Linkage.perm_exportedNames r (Program.sole_of_read hread)
  have hdistinct : ((gettersOf source).map Getter.outside).Nodup :=
    (hperm.nodup_iff.2 (Program.nodup_of_read hread)).of_append_left
  have hassigned : "__esModule" ∉ p.items.flatMap Item.assigned := by
    intro h
    obtain ⟨item, -, hitem⟩ := List.mem_flatMap.1 h
    exact absurd (Item.mem_assigned_iff.1 hitem).1 (by decide)
  have hmark : "__esModule" ∈ (gettersOf source).map Getter.outside
      ↔ ∃ item ∈ p.items, ∃ origin, item.Exports "__esModule" origin := by
    calc "__esModule" ∈ (gettersOf source).map Getter.outside
        ↔ "__esModule" ∈ p.items.flatMap Item.exportedNames := by
          rw [← hperm.mem_iff, List.mem_append, or_iff_left hassigned]
      _ ↔ ∃ item ∈ p.items, "__esModule" ∈ item.exportedNames := List.mem_flatMap
      _ ↔ ∃ item ∈ p.items, ∃ origin, item.Exports "__esModule" origin :=
          exists_congr fun item => and_congr_right fun _ => Item.mem_exportedNames_iff
  refine ⟨fun id unit h => ?_, hnames, hdistinct, ?_, fun keys => ?_⟩
  · obtain ⟨-, -, hcode, -⟩ := exists_read_of_compile h
    exact hcode
  · rw [hnames, List.nodup_cons, and_iff_left hdistinct, hmark]
    simp only [not_exists, not_and]
  · have hrun := Linkage.runLines_lines r p.items keys
    dsimp only at hrun
    rwa [← hlines] at hrun

/-- The source of `showingScript`. -/
def showingText : String :=
  "export * from \"./b\";\nexport const a = 1;"

/-- A script that shows all of another module, and a variable of its own. -/
def showingScript : Program :=
  ⟨none, [.reexportAll ⟨0, 20⟩ "./b" none,
    .exportDeclaration ⟨21, 40⟩ (.node (.declaration false) ⟨28, 39⟩
      [.node .declarator ⟨34, 39⟩ [.node (.binder "a") ⟨34, 35⟩ [], .node .other ⟨38, 39⟩ []]])]⟩

/-- Its lines run, whatever the other module exports: the mark and the variable are defined, and
    nothing is defined twice. -/
theorem definitions_distinct_iff_showing :
    Program.read showingText.toList = .ok showingScript
      ∧ (frontLines showingText).filterMap definedName? = ["__esModule", "a"]
      ∧ ∀ keys, ∃ defined, runLines keys [] (frontLines showingText) = some defined
          ∧ ["__esModule", "a"] <+: defined ∧ defined.Nodup := by
  have hread : Program.read showingText.toList = .ok showingScript := by decide +kernel
  have hnames : (frontLines showingText).filterMap definedName? = ["__esModule", "a"] := by
    rw [frontLines_of_read hread, Linkage.filterMap_definedName?_lines]
    decide +kernel
  obtain ⟨-, -, -, -, hruns⟩ := definitions_distinct_iff _ _ hread
  rw [hnames] at hruns
  exact ⟨hread, hnames, fun keys => (hruns keys).1 (by decide)⟩

/-- A variable that is called like the mark, exported. -/
def markExport : Item :=
  .exportDeclaration ⟨0, 28⟩ (.node (.declaration false) ⟨7, 27⟩
    [.node .declarator ⟨13, 27⟩
      [.node (.binder "__esModule") ⟨13, 23⟩ [], .node .other ⟨26, 27⟩ []]])

/-- **An export called like the mark** is accepted.  The code defines its name twice, so the lines
    do not run. -/
theorem definitions_of_marker :
    Program.read "export const __esModule = 1;".toList = .ok ⟨none, [markExport]⟩
      ∧ markExport.Exports "__esModule" (.declared "__esModule")
      ∧ (∃ unit, compile ⟨"/m.js"⟩ "export const __esModule = 1;" = .ok unit
          ∧ unit.code = "\"use strict\";\n"
            ++ "Object.defineProperty(exports, \"__esModule\", \x7b value: true \x7d);\n"
            ++ "Object.defineProperty(exports, \"__esModule\", \x7b enumerable: true, "
            ++ "get: function () \x7b return __esModule; \x7d \x7d);\n"
            ++ "const __esModule = 1;")
      ∧ (frontLines "export const __esModule = 1;").filterMap definedName?
          = ["__esModule", "__esModule"]
      ∧ ∀ keys, runLines keys [] (frontLines "export const __esModule = 1;") = none := by
  have hread : Program.read "export const __esModule = 1;".toList = .ok ⟨none, [markExport]⟩ := by
    decide +kernel
  have hnames : (frontLines "export const __esModule = 1;").filterMap definedName?
      = ["__esModule", "__esModule"] := by
    rw [frontLines_of_read hread, Linkage.filterMap_definedName?_lines]
    decide +kernel
  refine ⟨hread, ?_, ?_, hnames, fun keys => ?_⟩
  · exact .declaration _ (Node.mem_declaredNames_iff.1 (by decide))
  · refine ⟨Program.lower "export const __esModule = 1;".toList ⟨none, [markExport]⟩, ?_,
      by decide +kernel⟩
    rw [compile, hread]
    rfl
  · rw [frontLines_of_read hread] at hnames ⊢
    refine (Linkage.runLines_lines _ _ keys).2 ?_
    rw [hnames]
    decide

end ModuleBundler.Script
