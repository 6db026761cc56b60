import ModuleBundler.Proofs.Bundle.Manifest
import ModuleBundler.Proofs.Text.Reading

/-!
# Reading a bundle

A bundle says what it was made of.  Its manifest can be read back from the text, row by row
(`Manifest.read?`), and so a text is the bundle of one manifest only.

**What is lost.**  The code of a module is written without the blanks at its end, so that is how it
is read back (`Manifest.trimmed`).

**Where the code ends.**  Nothing in the code is escaped, and a comment marks its end.  If that
comment stands in the code too, the code seems to end there; so the code of a module must not
contain it (`Row.Plain`).  Ids and specifiers may be anything, as they are quoted, or known from a
quotation before.
-/

namespace ModuleBundler.Bundle

open Text (after? separated unquote? upTo?)

/-- The comment that marks the end of the code of a module. -/
def endMark : String := "//#endregion"

/-- A row as it can be read back: without the blanks at the end of the code. -/
def Row.trimmed (row : Row) : Row :=
  { row with code := Text.trimEnd row.code }

/-- A manifest as it can be read back. -/
def Manifest.trimmed (m : Manifest) : Manifest :=
  { m with rows := m.rows.map Row.trimmed }

/-- The code does not contain the mark of its end. -/
def Row.Plain (row : Row) : Prop :=
  ¬ endMark.toList <:+: row.code.toList

/-! ## Readers -/

/-- Read a specifier and its target. -/
def readImport? (cs : List Char) : Option ((String × String) × List Char) := do
  let (specifier, cs) ← unquote? cs
  let cs ← after? ": ".toList cs
  let (target, cs) ← unquote? cs
  some ((specifier, target), cs)

/-- **Read a row**: its code ends with the first mark. -/
def Row.read? (cs : List Char) : Option (Row × List Char) := do
  let (key, cs) ← unquote? cs
  let cs ← after? ": \x7b\n  importMap: \x7b".toList cs
  let (imports, cs) := separated ", ".toList readImport? cs
  let cs ← after? "\x7d,\n  factory: function (require, module, exports) \x7b\n".toList cs
  let cs ← after? ("//#region " ++ key ++ "\n").toList cs
  let (code, cs) ← upTo? endMark.toList cs
  let cs ← after? "\n  \x7d\n\x7d".toList cs
  some (⟨key, imports, Text.trimEnd (String.ofList code)⟩, cs)

/-- **Read a bundle.** -/
def Manifest.read? (text : String) : Option Manifest := do
  let cs ← after? (loaderText ++ "(\x7b\n").toList text.toList
  let (rows, cs) := separated ",\n".toList Row.read? cs
  let cs ← after? "\n\x7d, ".toList cs
  let (entry, cs) ← unquote? cs
  if cs = ");\n".toList then some ⟨rows, entry⟩ else none

/-! ## What was written is read -/

lemma unquote?_eq_none {cs : List Char} (h : cs.head? ≠ some '"') : unquote? cs = none := by
  unfold unquote?
  split
  · simp at h
  · rfl

/-- One entry of an import map is read back from its text, whatever follows. -/
lemma readImport?_pair (e : String × String) (rest : List Char) :
    readImport? ((Text.quoted e.1 ++ ": " ++ Text.quoted e.2).toList ++ rest)
      = some (e, rest) := by
  simp only [readImport?, String.toList_append, List.append_assoc, Text.unquote?_quoted,
    Text.after?_append, Option.bind_eq_bind, Option.bind_some]

/-- **An import map is read back** from its text. -/
lemma separated_imports (imports : List (String × String)) {rest : List Char}
    (hquote : rest.head? ≠ some '"') (hcomma : ¬ ", ".toList <+: rest) :
    separated ", ".toList readImport?
        ((", ".intercalate (imports.map fun e =>
          Text.quoted e.1 ++ ": " ++ Text.quoted e.2)).toList ++ rest)
      = (imports, rest) := by
  have hread : separated ", ".toList readImport?
      (", ".toList.intercalate (imports.map fun e =>
        (Text.quoted e.1 ++ ": " ++ Text.quoted e.2).toList) ++ rest)
      = (imports.map id, rest) :=
    Text.separated_intercalate (by simp) (fun e _ => readImport?_pair e)
      (by simp [readImport?, unquote?_eq_none hquote]) hcomma
  rw [List.map_id] at hread
  rw [String.toList_intercalate, List.map_map]
  exact hread

/-- The code is read up to the mark, and then without the blanks at its end. -/
lemma upTo?_renderCode {row : Row} (hplain : row.Plain) (rest : List Char) :
    upTo? endMark.toList ((renderCode row.code).toList ++ (endMark.toList ++ rest))
      = some ((renderCode row.code).toList, rest) := by
  rw [renderCode]
  split
  · exact Text.upTo?_self _ _
  · have htrimmed : ¬ endMark.toList <:+: (Text.trimEnd row.code).toList := by
      rw [Text.trimEnd, String.toList_ofList]
      exact fun h => hplain (h.trans (Text.dropBlankEnd_prefix _).isInfix)
    have hbreak : '\n' ∉ endMark.toList := by simp [endMark]
    simpa using Text.upTo?_append htrimmed hbreak rest

lemma trimEnd_renderCode (code : String) : Text.trimEnd (renderCode code) = Text.trimEnd code := by
  rw [renderCode]
  split
  · next hnil => rw [Text.trimEnd, Text.trimEnd, hnil]; rfl
  · exact Text.trimEnd_trimEnd_line code

/-- **A row is read back.** -/
theorem Row.read?_text {row : Row} (hplain : row.Plain) (rest : List Char) :
    Row.read? (row.text.toList ++ rest) = some (row.trimmed, rest) := by
  have hend : "//#endregion\n  \x7d\n\x7d" = endMark ++ "\n  \x7d\n\x7d" := by decide
  rw [Row.text, hend]
  simp only [String.toList_append, List.append_assoc, Row.read?, Text.unquote?_quoted,
    Option.bind_eq_bind, Option.bind_some, Text.after?_append]
  rw [separated_imports row.imports (by simp) (by simp)]
  simp only [Text.after?_append, Text.after?_append_left, Option.bind_some,
    upTo?_renderCode hplain, String.ofList_toList, trimEnd_renderCode, Row.trimmed]

/-- **The rows are read back** from their text, with the blank ends of their code cut off. -/
lemma separated_rows {rows : List Row} (hplain : ∀ row ∈ rows, row.Plain) {rest : List Char}
    (hquote : rest.head? ≠ some '"') (hcomma : ¬ ",\n".toList <+: rest) :
    separated ",\n".toList Row.read?
        ((",\n".intercalate (rows.map Row.text)).toList ++ rest)
      = (rows.map Row.trimmed, rest) := by
  have hread : separated ",\n".toList Row.read?
      (",\n".toList.intercalate (rows.map fun row => row.text.toList) ++ rest)
      = (rows.map Row.trimmed, rest) :=
    Text.separated_intercalate (by simp) (fun row hrow => Row.read?_text (hplain row hrow))
      (by simp [Row.read?, unquote?_eq_none hquote]) hcomma
  rw [String.toList_intercalate, List.map_map]
  exact hread

/-- **A bundle is read back.** -/
theorem Manifest.read?_text {m : Manifest} (hplain : ∀ row ∈ m.rows, row.Plain) :
    Manifest.read? m.text = some m.trimmed := by
  have htext : m.text.toList = (loaderText ++ "(\x7b\n").toList
      ++ ((",\n".intercalate (m.rows.map Row.text)).toList
        ++ ("\n\x7d, ".toList ++ ((Text.quoted m.entry).toList ++ ");\n".toList))) := by
    have hopen : "(\x7b\n" = "(\x7b" ++ "\n" := by decide
    have hclose : "\n\x7d, " = "\n" ++ "\x7d, " := by decide
    rw [hopen, hclose, Manifest.text, Text.joinLines]
    simp only [String.intercalate_cons_cons, String.intercalate_singleton, String.toList_append,
      List.append_assoc]
  rw [Manifest.read?, htext]
  simp only [Text.after?_append, Option.bind_eq_bind, Option.bind_some]
  rw [separated_rows hplain (by simp) (by simp)]
  simp only [Text.after?_append, Option.bind_some, Text.unquote?_quoted, if_pos, Manifest.trimmed]

/-- Without the comment at its end the code may go on with what looks like another row. -/
example :
    let forged := "1\n//#endregion\n  \x7d\n\x7d,\n\"b\": \x7b\n  importMap: \x7b\x7d,\n"
      ++ "  factory: function (require, module, exports) \x7b\n//#region b\n2"
    ",\n".intercalate ([⟨"a", [], forged⟩].map Row.text)
      = ",\n".intercalate ([⟨"a", [], "1"⟩, ⟨"b", [], "2"⟩].map Row.text) := by
  decide +kernel

/-! ## Graphs with the same bundle -/

/-- Code in a graph that does not contain the mark of its end. -/
def PlainCode (g : DependencyGraph) : Prop :=
  ∀ id record, g.get? id = some record → ¬ endMark.toList <:+: record.code.toList

lemma plain_of_mem_rows {g : DependencyGraph} (h : PlainCode g) (cwd : Path) :
    ∀ row ∈ (manifest g cwd).rows, row.Plain := by
  intro row hrow
  obtain ⟨⟨id, record⟩, hentry, rfl⟩ := List.mem_map.1 hrow
  exact h id record ((OrderedMap.get?_eq_some_iff_mem _ _ _).2 hentry)

/-- **The text of a bundle determines its table.**  Take two graphs, with any ids, specifiers and
    code, except for code that contains the mark of its end.  The table of each can be read back
    from its bundle.  So if they have the same bundle, they have the same entry and the same modules
    in the same order, each with the same imports in the same order and with the same code, up to
    the blanks at its end. -/
theorem table_of_content (settings settings' : Settings) (g g' : DependencyGraph)
    (hplain : PlainCode g) (hplain' : PlainCode g') :
    let table := fun (g : DependencyGraph) (cwd : Path) => g.modules.toList.map fun e =>
      (ModuleId.stable e.1 cwd,
        (e.2.importMap.toList.map fun i => (i.1, ModuleId.stable i.2 cwd)),
        Text.trimEnd e.2.code)
    Manifest.read? (asset settings g).content = some (manifest g settings.cwd).trimmed
      ∧ ((asset settings g).content = (asset settings' g').content →
          ModuleId.stable g.entry settings.cwd = ModuleId.stable g'.entry settings'.cwd
            ∧ table g settings.cwd = table g' settings'.cwd) := by
  have hread : ∀ (settings : Settings) (g : DependencyGraph), PlainCode g →
      Manifest.read? (asset settings g).content = some (manifest g settings.cwd).trimmed := by
    intro settings g hplain
    rw [asset, render_eq_text]
    exact Manifest.read?_text (plain_of_mem_rows hplain settings.cwd)
  intro table
  have htable : ∀ (g : DependencyGraph) (cwd : Path), table g cwd
      = (manifest g cwd).trimmed.rows.map fun row => (row.key, row.imports, row.code) := by
    intro g cwd
    rw [Manifest.trimmed, manifest, List.map_map, List.map_map]
    rfl
  refine ⟨hread settings g hplain, fun hsame => ?_⟩
  have hmanifests : (manifest g settings.cwd).trimmed = (manifest g' settings'.cwd).trimmed := by
    refine Option.some.inj ?_
    rw [← hread settings g hplain, hsame, hread settings' g' hplain']
  refine ⟨congrArg Manifest.entry hmanifests, ?_⟩
  rw [htable, htable, hmanifests]

/-- Three modules that import each other; the code of the first one ends with the given text. -/
def linkedGraph (ending : String) : DependencyGraph :=
  ⟨⟨"/p/a.js"⟩, .ofList
    [(⟨"/p/a.js"⟩, ⟨"f();" ++ ending,
        .ofList [("./b", ⟨"/p/b.js"⟩), ("./lib/c", ⟨"/p/lib/c.js"⟩)]⟩),
      (⟨"/p/b.js"⟩, ⟨"", .ofList [("./a", ⟨"/p/a.js"⟩)]⟩),
      (⟨"/p/lib/c.js"⟩, ⟨"g();", .ofList [("../b.js", ⟨"/p/b.js"⟩)]⟩)]⟩

lemma plainCode_of_toList {g : DependencyGraph}
    (h : ∀ e ∈ g.modules.toList, Text.occursIn endMark.toList e.2.code.toList = false) :
    PlainCode g := by
  intro id record hrecord hinfix
  have hentry := h _ ((OrderedMap.get?_eq_some_iff_mem _ _ _).1 hrecord)
  rw [Text.occursIn_iff.2 hinfix] at hentry
  cases hentry

/-- Code that differs in the blanks at its end is read back as the same code, and every import is
    read back with its target. -/
theorem table_of_content_linked :
    PlainCode (linkedGraph "\n") ∧ PlainCode (linkedGraph " \t")
      ∧ (asset Scan.pairSettings (linkedGraph "\n")).content
          = (asset Scan.pairSettings (linkedGraph " \t")).content
      ∧ Manifest.read? (asset Scan.pairSettings (linkedGraph "\n")).content
          = some ⟨[⟨"a.js", [("./b", "b.js"), ("./lib/c", "lib/c.js")], "f();"⟩,
              ⟨"b.js", [("./a", "a.js")], ""⟩,
              ⟨"lib/c.js", [("../b.js", "b.js")], "g();"⟩], "a.js"⟩ := by
  have hplain : PlainCode (linkedGraph "\n") := plainCode_of_toList (by decide +kernel)
  have hplain' : PlainCode (linkedGraph " \t") := plainCode_of_toList (by decide +kernel)
  have hmanifest : (manifest (linkedGraph "\n") Scan.pairSettings.cwd).trimmed
      = ⟨[⟨"a.js", [("./b", "b.js"), ("./lib/c", "lib/c.js")], "f();"⟩,
          ⟨"b.js", [("./a", "a.js")], ""⟩,
          ⟨"lib/c.js", [("../b.js", "b.js")], "g();"⟩], "a.js"⟩ := by
    rfl
  have hrows : (manifest (linkedGraph "\n") Scan.pairSettings.cwd).rows.map Row.text
      = (manifest (linkedGraph " \t") Scan.pairSettings.cwd).rows.map Row.text := by
    decide +kernel
  obtain ⟨hread, -⟩ := table_of_content Scan.pairSettings Scan.pairSettings _ _ hplain hplain'
  refine ⟨hplain, hplain', ?_, hmanifest ▸ hread⟩
  rw [asset, asset, render_eq_text, render_eq_text, Manifest.text, Manifest.text, hrows]
  rfl

end ModuleBundler.Bundle
