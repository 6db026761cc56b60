import ModuleBundler.Proofs.Identifier.Repair
import ModuleBundler.Proofs.Script.Variables
import ModuleBundler.Proofs.Text.Reading
import ModuleBundler.Script.Compile

/-!
# Reading the lines in front of a module

The lines in front of a module are text, and what they do to other modules can be read off the text.

**Requirements.**  `required?` reads the literal that a line passes to `require`.  All lines
together pass the sources of the requests, in their order (`Linkage.filterMap_required?_lines`).
The variables in front of them do not get in the way, because no blank is part of their names.

**Getters.**  `Getter.ofLine?` reads the key and the expression of a getter, and the lines together
have the getters of the linkage (`Linkage.filterMap_ofLine?_lines`).

**Scripts.**  The code of a script that is compiled begins with its lines
(`exists_read_of_compile`).
-/

namespace ModuleBundler

namespace Script

open Text (after? before? unquote? upTo?)

namespace Linkage

/-- **A numbered variable** has a valid name. -/
lemma isName_numbered (source : String) (n : ℕ) :
    Identifier.isName (numbered (plainName source) n) = true := by
  cases n with
  | zero => exact Identifier.isName_variable _
  | succ n => exact Identifier.isName_numberedVariable _ (n + 1)

/-- **The variables for modules** consist of characters that a name may have. -/
lemma isPart_of_mem_variable {r : Resolution} {items : List Item} {q : Request}
    (hq : q ∈ (ofItems r items).requests) {v : String} (hv : q.variableName? = some v) {c : Char}
    (hc : c ∈ v.toList) : Identifier.isPart c = true := by
  have hmem : v ∈ (ofItems r items).kept.map Prod.fst := by
    rw [map_fst_kept]
    exact List.mem_filterMap.2 ⟨q, hq, hv⟩
  rw [kept_ofItems, storage, List.map_map] at hmem
  obtain ⟨⟨source, n⟩, -, rfl⟩ := List.mem_map.1 hmem
  exact Identifier.isPart_of_mem (isName_numbered source n) hc

/-- A character that no name may have is in none of the variables. -/
lemma notMem_variable {r : Resolution} {items : List Item} {q : Request}
    (hq : q ∈ (ofItems r items).requests) {v : String} (hv : q.variableName? = some v) {c : Char}
    (hc : Identifier.isPart c = false) : c ∉ v.toList := by
  intro hmem
  rw [isPart_of_mem_variable hq hv hmem] at hc
  cases hc

/-- The variables for modules have no blank in their names. -/
lemma blank_notMem_variable {r : Resolution} {items : List Item} {q : Request}
    (hq : q ∈ (ofItems r items).requests) {v : String} (hv : q.variableName? = some v) :
    ' ' ∉ v.toList :=
  notMem_variable hq hv (by decide +kernel)

end Linkage

/-! ## How the lines begin -/

lemma Getter.line_eq (g : Getter) :
    g.line = "Object.defineProperty(exports, " ++ (Text.quoted g.outside
      ++ (", \x7b enumerable: true, get: function () \x7b return "
        ++ (g.value ++ "; \x7d \x7d);"))) := by
  delta Getter.line
  simp only [String.append_assoc]

lemma exists_showAllLine_eq (v : String) : ∃ rest, showAllLine v = "Object.keys(" ++ rest := by
  delta showAllLine
  simp only [String.append_assoc]
  exact ⟨_, rfl⟩

/-! ## Requirements -/

/-- **The module that a line requires**, whether it keeps the answer or not. -/
def required? (line : String) : Option String := do
  let cs ←
    match after? "require(".toList line.toList with
    | some cs => some cs
    | none => do
        let cs ← after? "var ".toList line.toList
        (upTo? " = require(".toList cs).map Prod.snd
  let (source, cs) ← unquote? cs
  if cs = ");".toList then some source else none

lemma required?_requireCall (source : String) : required? (requireCall source) = some source := by
  simp only [required?, requireCall, String.toList_append, List.append_assoc, Text.after?_append,
    Option.bind_eq_bind, Option.bind_some, Text.unquote?_quoted, if_pos]

/-- The source of a `require` whose exports are kept is read off its line. -/
lemma required?_keepLine {v : String} (hv : ' ' ∉ v.toList) (source : String) :
    required? (keepLine v source) = some source := by
  have hopening : " = require(".toList = " = ".toList ++ "require(".toList := by decide
  have hline : (keepLine v source).toList = "var ".toList ++ (v.toList ++ (" = require(".toList
      ++ ((Text.quoted source).toList ++ ");".toList))) := by
    rw [hopening]
    simp only [keepLine, requireCall, String.toList_append, List.append_assoc]
  have hupTo (rest : List Char) :
      upTo? " = require(".toList (v.toList ++ (" = require(".toList ++ rest))
        = some (v.toList, rest) := by
    exact Text.upTo?_of_notMem hv "= require(".toList rest
  have hother (rest : List Char) : after? "require(".toList ("var ".toList ++ rest) = none := by
    simp [after?]
  simp only [required?, hline, hother, Text.after?_append, hupTo, Option.bind_eq_bind,
    Option.bind_some, Option.map_some, Text.unquote?_quoted, if_pos]

/-- A line that begins with neither of the two words requires nothing. -/
lemma required?_eq_none {line : String} (hrun : after? "require(".toList line.toList = none)
    (hkeep : after? "var ".toList line.toList = none) : required? line = none := by
  simp only [required?, hrun, hkeep, Option.bind_eq_bind, Option.bind_none]

lemma required?_showAllLine (v : String) : required? (showAllLine v) = none := by
  have hrun (cs : List Char) : after? "require(".toList ("Object.keys(".toList ++ cs) = none := by
    simp [after?]
  have hkeep (cs : List Char) : after? "var ".toList ("Object.keys(".toList ++ cs) = none := by
    simp [after?]
  obtain ⟨rest, hline⟩ := exists_showAllLine_eq v
  rw [hline]
  exact required?_eq_none (by rw [String.toList_append, hrun]) (by rw [String.toList_append, hkeep])

lemma required?_getterLine (g : Getter) : required? g.line = none := by
  have hrun (cs : List Char) :
      after? "require(".toList ("Object.defineProperty(exports, ".toList ++ cs) = none := by
    simp [after?]
  have hkeep (cs : List Char) :
      after? "var ".toList ("Object.defineProperty(exports, ".toList ++ cs) = none := by
    simp [after?]
  rw [Getter.line_eq]
  exact required?_eq_none (by rw [String.toList_append, hrun]) (by rw [String.toList_append, hkeep])

lemma filterMap_required?_openingLines : openingLines.filterMap required? = [] := by
  decide +kernel

/-- The lines for a request require its source, once. -/
lemma Request.filterMap_required?_lines {q : Request}
    (hq : ∀ v, q.variableName? = some v → ' ' ∉ v.toList) :
    q.lines.filterMap required? = [q.source] := by
  cases q with
  | run source => simp [Request.lines, required?_requireCall, Request.source]
  | keep v source => simp [Request.lines, required?_keepLine (hq v rfl), Request.source]
  | showAll v source =>
      simp [Request.lines, required?_keepLine (hq v rfl), required?_showAllLine, Request.source]

/-- **What the lines require** is what the linkage asks for, in its order. -/
theorem Linkage.filterMap_required?_lines (r : Resolution) (items : List Item) :
    (ofItems r items).lines.filterMap required? = (ofItems r items).sources := by
  have hrequests : ((ofItems r items).requests.flatMap Request.lines).filterMap required?
      = (ofItems r items).sources := by
    rw [List.filterMap_flatMap, sources, List.map_eq_flatMap]
    exact List.flatMap_congr fun q hq =>
      Request.filterMap_required?_lines fun v hv => blank_notMem_variable hq hv
  have hgetters : ((ofItems r items).getters.map Getter.line).filterMap required? = [] :=
    List.filterMap_eq_nil_iff.2 (List.forall_mem_map.2 fun g _ => required?_getterLine g)
  rw [lines, List.filterMap_append, List.filterMap_append, filterMap_required?_openingLines,
    hgetters, hrequests, List.append_nil, List.nil_append]

/-- **Every import and every export of another module** asks for it, in the order of the items. -/
theorem Linkage.sources_ofItems (r : Resolution) (items : List Item) :
    (ofItems r items).sources = items.filterMap Item.source? := by
  have hadd (l : Linkage) (item : Item) :
      (l.addItem item).sources = l.sources ++ item.source?.toList := by
    cases item with
    | importing s source bindings =>
        cases bindings <;> simp [addItem, request, sources, Request.source, Item.source?]
    | reexportAll s source outside =>
        cases outside <;> simp [addItem, request, sources, Request.source, Item.source?]
    | _ => simp [addItem, request, sources, Request.source, Item.source?]
  have hfold : ∀ l : Linkage,
      (items.foldl addItem l).sources = l.sources ++ items.filterMap Item.source? := by
    induction items with
    | nil => exact fun l => (List.append_nil _).symm
    | cons item rest ih =>
        intro l
        rw [List.foldl_cons, ih, hadd, List.append_assoc]
        cases hsource : item.source? <;> simp [hsource]
  exact hfold empty

/-! ## Getters -/

/-- **The getter that a line defines.** -/
def Getter.ofLine? (line : String) : Option Getter := do
  let cs ← after? "Object.defineProperty(exports, ".toList line.toList
  let (outside, cs) ← unquote? cs
  let cs ← after? ", \x7b enumerable: true, get: function () \x7b return ".toList cs
  let value ← before? "; \x7d \x7d);".toList cs
  some ⟨outside, String.ofList value⟩

/-- **A getter is read back** from its line. -/
lemma Getter.ofLine?_line (g : Getter) : Getter.ofLine? g.line = some g := by
  rw [Getter.line_eq]
  simp only [Getter.ofLine?, String.toList_append, Text.after?_append, Option.bind_eq_bind,
    Option.bind_some, Text.unquote?_quoted, Text.before?_append, String.ofList_toList]

/-- The lines for a request begin with one of three words. -/
lemma Request.exists_start {q : Request} {line : String} (h : line ∈ q.lines) :
    ∃ start ∈ ["require(", "var ", "Object.keys("], ∃ rest, line = start ++ rest := by
  have hkeep (v source : String) : ∃ start ∈ ["require(", "var ", "Object.keys("],
      ∃ rest, keepLine v source = start ++ rest := by
    rw [keepLine, String.append_assoc, String.append_assoc]
    exact ⟨"var ", by decide, _, rfl⟩
  cases q with
  | run source =>
      rw [lines, List.mem_singleton, requireCall, String.append_assoc] at h
      exact ⟨"require(", by decide, _, h⟩
  | keep v source =>
      obtain rfl := List.mem_singleton.1 h
      exact hkeep v source
  | showAll v source =>
      rw [lines, List.mem_pair] at h
      obtain rfl | rfl := h
      · exact hkeep v source
      · obtain ⟨rest, hrest⟩ := exists_showAllLine_eq v
        exact ⟨"Object.keys(", by decide, rest, hrest⟩

/-- So none of them is a definition. -/
lemma Request.after?_eq_none {q : Request} {line : String} (h : line ∈ q.lines) :
    after? "Object.defineProperty(exports, ".toList line.toList = none := by
  obtain ⟨start, hstart, rest, rfl⟩ := exists_start h
  simp only [List.mem_cons, List.not_mem_nil, or_false] at hstart
  rcases hstart with rfl | rfl | rfl <;> simp [after?]

/-- The lines of a request hold no getter. -/
lemma Request.filterMap_ofLine?_lines (q : Request) : q.lines.filterMap Getter.ofLine? = [] := by
  refine List.filterMap_eq_nil_iff.2 fun line h => ?_
  simp only [Getter.ofLine?, after?_eq_none h, Option.bind_eq_bind, Option.bind_none]

/-- **The getters that the lines define** are those of the linkage, in its order. -/
theorem Linkage.filterMap_ofLine?_lines (l : Linkage) :
    l.lines.filterMap Getter.ofLine? = l.getters := by
  have hopening : openingLines.filterMap Getter.ofLine? = [] := by decide +kernel
  have hrequests : (l.requests.flatMap Request.lines).filterMap Getter.ofLine? = [] := by
    rw [List.filterMap_flatMap]
    exact List.flatMap_eq_nil_iff.2 fun q _ => q.filterMap_ofLine?_lines
  have hgetters : (l.getters.map Getter.line).filterMap Getter.ofLine? = l.getters := by
    rw [List.filterMap_map]
    exact (List.filterMap_congr fun g _ => g.ofLine?_line).trans List.filterMap_some
  rw [lines, List.filterMap_append, List.filterMap_append, hopening, hgetters, hrequests,
    List.append_nil, List.nil_append]

/-! ## The lines of a script -/

/-- The lines in front of what a script is compiled to. -/
def frontLines (source : String) : List String :=
  match Program.read source.toList with
  | .ok p => (Linkage.ofItems (Resolution.ofItems p.items) p.items).lines
  | .error _ => []

/-- The specifiers that the lines in front of a compiled script require, in their order. -/
def requiredBy (source : String) : List String :=
  (frontLines source).filterMap required?

/-- The getters that the lines in front of a compiled script define, in their order. -/
def gettersOf (source : String) : List Getter :=
  (frontLines source).filterMap Getter.ofLine?

lemma frontLines_of_read {source : String} {p : Program}
    (hread : Program.read source.toList = .ok p) :
    frontLines source = (Linkage.ofItems (Resolution.ofItems p.items) p.items).lines := by
  rw [frontLines, hread]

lemma gettersOf_of_read {source : String} {p : Program}
    (hread : Program.read source.toList = .ok p) :
    gettersOf source = (Linkage.ofItems (Resolution.ofItems p.items) p.items).getters := by
  rw [gettersOf, frontLines_of_read hread, Linkage.filterMap_ofLine?_lines]

/-- A script that is compiled has been read, and its code begins with its lines. -/
lemma exists_read_of_compile {id : ModuleId} {source : String} {unit : CompiledModule}
    (h : compile id source = .ok unit) :
    ∃ p, Program.read source.toList = .ok p
      ∧ (∃ body, unit.code = String.join ((frontLines source).map (· ++ "\n")) ++ body)
      ∧ unit.imports = (Linkage.ofItems (Resolution.ofItems p.items) p.items).sources := by
  rw [compile] at h
  split at h
  · cases h
  · next p hread =>
      split at h
      · cases h
      · cases h
        refine ⟨p, hread, ?_, rfl⟩
        rw [frontLines_of_read hread]
        exact ⟨_, rfl⟩

/-- **What is required and what is listed.**  A script that is compiled has been read.  Its code
    begins with lines that require what its list of imports says, in its order, and these are the
    sources of its imports and of its exports of other modules, in the order of its items. -/
theorem required_of_compile {id : ModuleId} {source : String} {unit : CompiledModule}
    (h : compile id source = .ok unit) :
    ∃ p, Program.read source.toList = .ok p
      ∧ (∃ body, unit.code = String.join ((frontLines source).map (· ++ "\n")) ++ body)
      ∧ requiredBy source = unit.imports
      ∧ unit.imports = p.items.filterMap Item.source? := by
  obtain ⟨p, hread, hcode, himports⟩ := exists_read_of_compile h
  refine ⟨p, hread, hcode, ?_, himports.trans (Linkage.sources_ofItems _ _)⟩
  rw [requiredBy, frontLines_of_read hread, himports, Linkage.filterMap_required?_lines]

end Script

end ModuleBundler
