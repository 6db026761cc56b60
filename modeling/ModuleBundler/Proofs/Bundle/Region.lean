import ModuleBundler.Proofs.Bundle.Reading
import ModuleBundler.Script.Lexer

/-!
# The comments around the code of a module

The body of a factory is the code of the module between two comments, and the first of them shows
the id of the module as it is, without any quotation.

**Lines.**  Scripts know four line breaks.  The lines of a body are those of the first comment,
those of the code without the blanks at its end, and the comment at the end
(`scriptLines_factoryBody`).

**Which ids are safe.**  The first comment is one line exactly if no line break stands in a name
that leads to the module from the working directory or from a directory above it
(`factoryBody_lines_iff`).  The name of a file may hold any character but the separator, so there
are modules for which it is more.  What follows the line break stands outside the comment then, and
is read as code (`factoryBody_lines_broken`).
-/

namespace ModuleBundler

open Script.Lexer (isLineBreak skip)

namespace Script.Lexer

lemma skip_lineComment_cons (c : Char) (rest : List Char) (newLine : Bool) (n : ℕ) :
    skip .lineComment newLine n (c :: rest)
      = if isLineBreak c then skip .blank true (n + 1) rest
        else skip .lineComment newLine (n + 1) rest := rfl

/-- A line comment ends with the first line break. -/
lemma skip_lineComment {comment : List Char} {c : Char} (h : ∀ d ∈ comment, isLineBreak d = false)
    (hc : isLineBreak c = true) (rest : List Char) (newLine : Bool) (n : ℕ) :
    skip .lineComment newLine n (comment ++ c :: rest)
      = skip .blank true (n + comment.length + 1) rest := by
  induction comment generalizing n with
  | nil =>
      rw [List.nil_append, skip_lineComment_cons, if_pos hc, List.length_nil, Nat.add_zero]
  | cons d comment ih =>
      have hd : ¬ isLineBreak d = true := by simp [h d]
      have hlength : n + 1 + comment.length + 1 = n + (comment.length + 1) + 1 := by omega
      rw [List.cons_append, skip_lineComment_cons, if_neg hd, ih fun e he => h e (by simp [he]),
        List.length_cons, hlength]

/-- A comment behind two slashes ends with the first line break. -/
lemma skip_slashes {comment : List Char} {c : Char} (h : ∀ d ∈ comment, isLineBreak d = false)
    (hc : isLineBreak c = true) (rest : List Char) (newLine : Bool) (n : ℕ) :
    skip .blank newLine n ('/' :: '/' :: (comment ++ c :: rest))
      = skip .blank true (n + 2 + comment.length + 1) rest := by
  exact skip_lineComment h hc rest newLine (n + 2)

end Script.Lexer

namespace Path

/-- **The names of a route** are those of the target behind what it shares with the base. -/
lemma mem_route_iff {base target : List Component} {n : String}
    (htarget : ∀ c ∈ target, IsInward c) :
    .name n ∈ route base target
      ↔ ∃ before after : List Component, target = before ++ .name n :: after
          ∧ ¬ before ++ [.name n] <+: base := by
  have hups : ∀ (ups inwards : List Component),
      .name n ∈ ups.map (fun _ => Component.up) ++ inwards ↔ .name n ∈ inwards := by
    intro ups inwards
    simp
  induction base generalizing target with
  | nil =>
      have hall : .name n ∈ target
          ↔ ∃ before after : List Component, target = before ++ .name n :: after
              ∧ ¬ before ++ [.name n] <+: [] := by
        simp [List.mem_iff_append]
      cases target <;> exact hall
  | cons b base ih =>
      cases target with
      | nil => simp [route]
      | cons t target =>
          have hrest : ∀ c ∈ target, IsInward c := fun c hc => htarget c (by simp [hc])
          rw [route]
          split
          -- A shared name is behind nothing, and behind it the rest is shared or not.
          · next heq =>
              subst heq
              refine (ih hrest).trans ⟨?_, ?_⟩
              · rintro ⟨before, after, rfl, hnot⟩
                exact ⟨b :: before, after, rfl, by simpa [List.cons_prefix_cons] using hnot⟩
              · rintro ⟨before, after, heq, hnot⟩
                cases before with
                | nil =>
                    obtain ⟨rfl, rfl⟩ := List.cons.inj heq
                    exact absurd (by simp) hnot
                | cons c before =>
                    obtain ⟨rfl, rfl⟩ := List.cons.inj heq
                    exact ⟨before, after, rfl, by simpa [List.cons_prefix_cons] using hnot⟩
          · next hne =>
              rw [hups (b :: base) (t :: target), List.mem_iff_append]
              refine exists_congr fun before => exists_congr fun after => ?_
              refine ⟨fun heq => ⟨heq, fun hprefix => hne ?_⟩, And.left⟩
              cases before with
              | nil =>
                  obtain ⟨rfl, -⟩ := List.cons.inj heq
                  exact (List.cons_prefix_cons.1 hprefix).1.symm
              | cons c before =>
                  obtain ⟨rfl, -⟩ := List.cons.inj heq
                  exact (List.cons_prefix_cons.1 hprefix).1.symm

end Path

namespace Bundle

/-- The lines of a script. -/
def scriptLines (text : String) : List (List Char) :=
  text.toList.splitOnP isLineBreak

/-- The comment in front of the code of a module. -/
def regionMark (id : ModuleId) (cwd : Path) : String :=
  "//#region " ++ ModuleId.stable id cwd

/-- **The body of a factory.** -/
def factoryBody (id : ModuleId) (record : ModuleRecord) (cwd : Path) : String :=
  regionMark id cwd ++ "\n" ++ renderCode record.code ++ endMark

/-- The lines of the code as it stands in a factory. -/
def codeLines (code : String) : List (List Char) :=
  if code.toList = [] then [] else scriptLines (Text.trimEnd code)

/-- Whether a text has a line break. -/
def HasLineBreak (text : String) : Prop :=
  ∃ c ∈ text.toList, isLineBreak c = true

instance (text : String) : Decidable (HasLineBreak text) :=
  decidable_of_iff (text.toList.any isLineBreak = true) List.any_eq_true

/-! ## Lines -/

/-- A mark cuts a list in two parts that are split on their own. -/
lemma splitOnP_append_mark {α : Type} {p : α → Bool} {mark : α} (hmark : p mark = true)
    (before after : List α) :
    (before ++ mark :: after).splitOnP p = before.splitOnP p ++ after.splitOnP p := by
  induction before with
  | nil =>
      rw [List.nil_append, List.splitOnP_cons_eq_if_modifyHead, if_pos hmark, List.splitOnP_nil]
      rfl
  | cons a before ih =>
      rw [List.cons_append, List.splitOnP_cons_eq_if_modifyHead,
        List.splitOnP_cons_eq_if_modifyHead, ih]
      split
      · rfl
      · cases hsplit : before.splitOnP p with
        | nil => exact absurd hsplit (List.splitOnP_ne_nil _ _)
        | cons piece pieces => rfl

/-- Lines behind one another, with a line break between them. -/
lemma scriptLines_line (first rest : String) :
    scriptLines (first ++ "\n" ++ rest) = scriptLines first ++ scriptLines rest := by
  have hlist : (first ++ "\n" ++ rest).toList = first.toList ++ '\n' :: rest.toList := by simp
  rw [scriptLines, hlist, splitOnP_append_mark (by decide)]
  rfl

lemma scriptLines_eq_singleton_iff (text : String) :
    scriptLines text = [text.toList] ↔ ¬ HasLineBreak text := by
  constructor
  · rintro hlines ⟨c, hc, hbreak⟩
    obtain ⟨before, after, heq⟩ := List.append_of_mem hc
    have hlength := congrArg List.length hlines
    rw [scriptLines, heq, splitOnP_append_mark hbreak, List.length_append] at hlength
    have hbefore := List.length_pos_iff.2 (List.splitOnP_ne_nil isLineBreak before)
    have hafter := List.length_pos_iff.2 (List.splitOnP_ne_nil isLineBreak after)
    rw [List.length_singleton] at hlength
    omega
  · intro hnone
    exact List.splitOnP_eq_singleton fun c hc =>
      Bool.eq_false_iff.2 fun hbreak => hnone ⟨c, hc, hbreak⟩

lemma scriptLines_renderCode (code : String) :
    scriptLines (renderCode code ++ endMark) = codeLines code ++ [endMark.toList] := by
  have hend : scriptLines endMark = [endMark.toList] := by decide +kernel
  rw [renderCode, codeLines]
  split
  · rw [String.empty_append, hend, List.nil_append]
  · rw [scriptLines_line, hend]

/-- **The lines of the body of a factory**: those of the first comment, of the code, and of the
    comment at the end. -/
theorem scriptLines_factoryBody (id : ModuleId) (record : ModuleRecord) (cwd : Path) :
    scriptLines (factoryBody id record cwd)
      = scriptLines (regionMark id cwd) ++ (codeLines record.code ++ [endMark.toList]) := by
  rw [factoryBody, String.append_assoc, scriptLines_line, scriptLines_renderCode]

/-! ## Line breaks in ids -/

lemma hasLineBreak_append (text text' : String) :
    HasLineBreak (text ++ text') ↔ HasLineBreak text ∨ HasLineBreak text' := by
  simp only [HasLineBreak, String.toList_append, List.mem_append, or_and_right, exists_or]

lemma hasLineBreak_opening : ¬ HasLineBreak "//#region " := by
  decide +kernel

/-- The text of steps has a line break exactly if a name among them has one. -/
lemma hasLineBreak_stepsText {steps : List Path.Component} (h : ∀ c ∈ steps, Path.IsRouteStep c) :
    HasLineBreak (Path.stepsText steps)
      ↔ ∃ n, .name n ∈ steps ∧ HasLineBreak n := by
  have hmem : ∀ pieces : List (List Char), ∀ c, isLineBreak c = true →
      (c ∈ ['/'].intercalate pieces ↔ ∃ piece ∈ pieces, c ∈ piece) := by
    intro pieces c hc
    have hslash : c ≠ '/' := by
      rintro rfl
      exact absurd hc (by decide)
    induction pieces with
    | nil => simp
    | cons piece pieces ih =>
        cases pieces with
        | nil => simp
        | cons next pieces =>
            rw [List.intercalate_cons_cons, List.mem_append, List.mem_append, propext ih]
            simp [hslash]
  rw [HasLineBreak, Path.toList_stepsText]
  constructor
  · rintro ⟨c, hc, hbreak⟩
    obtain ⟨piece, hpiece, hc⟩ := (hmem _ c hbreak).1 hc
    obtain ⟨step, hstep, rfl⟩ := List.mem_map.1 hpiece
    rcases h step hstep with rfl | ⟨n, -, rfl⟩
    · have hdots : ¬ HasLineBreak Path.Component.up.text := by decide +kernel
      exact absurd ⟨c, hc, hbreak⟩ hdots
    · exact ⟨n, hstep, c, hc, hbreak⟩
  · rintro ⟨n, hn, c, hc, hbreak⟩
    exact ⟨c, (hmem _ c hbreak).2 ⟨_, List.mem_map.2 ⟨_, hn, rfl⟩, hc⟩, hbreak⟩

/-- The first comment is one line exactly if the names behind those of the working directory are. -/
lemma hasLineBreak_regionMark {id : ModuleId} (cwd : Path) (hid : Path.isAbsolute id = true) :
    HasLineBreak (regionMark id cwd)
      ↔ ∃ before n after, id.place = before ++ .name n :: after
          ∧ HasLineBreak n ∧ ¬ before ++ [.name n] <+: cwd.place := by
  have hmark : HasLineBreak (regionMark id cwd)
      ↔ HasLineBreak (Path.stepsText (Path.route cwd.place id.place)) := by
    rw [regionMark, hasLineBreak_append, or_iff_right hasLineBreak_opening, ModuleId.stable,
      if_pos hid, Path.relativeTo]
  rw [hmark, hasLineBreak_stepsText (Path.route_steps id.place_inward)]
  constructor
  · rintro ⟨n, hn, hbreak⟩
    obtain ⟨before, after, heq, hnot⟩ := (Path.mem_route_iff id.place_inward).1 hn
    exact ⟨before, n, after, heq, hbreak, hnot⟩
  · rintro ⟨before, n, after, heq, hbreak, hnot⟩
    exact ⟨n, (Path.mem_route_iff id.place_inward).2 ⟨before, after, heq, hnot⟩, hbreak⟩

/-- **When the comments around the code hold.**  In the entry of a module in the table stands the
    body of its factory, and the lines of the body are those of the first comment, those of the
    code without the blanks at its end, and the comment at the end.  The first comment is one line,
    and so the body is one comment, the lines of the code and another comment, exactly if every
    name with a line break that leads to the module leads to the working directory as well.  In
    every case a reader of scripts goes on behind the first line break of the comment, be it the
    last character of the comment or a character of the id. -/
theorem factoryBody_lines_iff (id : ModuleId) (record : ModuleRecord) (cwd : Path)
    (hid : Path.isAbsolute id = true) :
    (∃ front back, renderModule id record cwd = front ++ factoryBody id record cwd ++ back
        ∧ front = Text.quoted (ModuleId.stable id cwd) ++ ": \x7b\n  importMap: \x7b"
            ++ renderImportMap record.importMap cwd
            ++ "\x7d,\n  factory: function (require, module, exports) \x7b\n"
        ∧ back = "\n  \x7d\n\x7d")
      ∧ scriptLines (factoryBody id record cwd)
          = scriptLines (regionMark id cwd) ++ (codeLines record.code ++ [endMark.toList])
      ∧ (scriptLines (factoryBody id record cwd)
            = (regionMark id cwd).toList :: (codeLines record.code ++ [endMark.toList])
          ↔ ∀ before n after, id.place = before ++ .name n :: after → HasLineBreak n →
              before ++ [.name n] <+: cwd.place)
      ∧ ∀ shown c rest, (ModuleId.stable id cwd).toList ++ ['\n'] = shown ++ c :: rest →
          (∀ d ∈ shown, isLineBreak d = false) → isLineBreak c = true → ∀ newLine n,
            skip .blank newLine n (factoryBody id record cwd).toList
              = skip .blank true (n + 10 + shown.length + 1)
                  (rest ++ (renderCode record.code ++ endMark).toList) := by
  have hlines := scriptLines_factoryBody id record cwd
  refine ⟨⟨_, _, ?_, rfl, rfl⟩, hlines, ?_, ?_⟩
  · have hend : "//#endregion\n  \x7d\n\x7d" = endMark ++ "\n  \x7d\n\x7d" := by decide
    rw [renderModule, factoryBody, regionMark, hend]
    simp only [String.append_assoc]
  · have hone : scriptLines (factoryBody id record cwd)
          = (regionMark id cwd).toList :: (codeLines record.code ++ [endMark.toList])
        ↔ scriptLines (regionMark id cwd) = [(regionMark id cwd).toList] := by
      rw [hlines]
      change _ ++ _ = [(regionMark id cwd).toList] ++ _ ↔ _
      exact List.append_left_inj _
    rw [hone, scriptLines_eq_singleton_iff, hasLineBreak_regionMark cwd hid]
    push Not
    rfl
  · intro shown c rest hname hshown hc newLine n
    have hmark : ∀ d ∈ "#region ".toList ++ shown, isLineBreak d = false := by
      have hopen : ¬ HasLineBreak "#region " := by decide +kernel
      intro d hd
      rcases List.mem_append.1 hd with hd | hd
      · exact Bool.eq_false_iff.2 fun hbreak => hopen ⟨d, hd, hbreak⟩
      · exact hshown d hd
    have hbody : (factoryBody id record cwd).toList
        = '/' :: '/' :: (("#region ".toList ++ shown)
            ++ c :: (rest ++ (renderCode record.code ++ endMark).toList)) := by
      have hbehind : (ModuleId.stable id cwd).toList
            ++ ("\n".toList ++ (renderCode record.code ++ endMark).toList)
          = shown ++ c :: (rest ++ (renderCode record.code ++ endMark).toList) := by
        simpa using congrArg (· ++ (renderCode record.code ++ endMark).toList) hname
      have hopen : "//#region ".toList = '/' :: '/' :: "#region ".toList := rfl
      rw [factoryBody, regionMark, String.append_assoc, String.append_assoc, String.append_assoc,
        String.toList_append, String.toList_append, String.toList_append, hbehind, hopen,
        List.append_assoc, List.cons_append, List.cons_append]
    have hlength : n + 2 + ("#region ".toList ++ shown).length + 1 = n + 10 + shown.length + 1 := by
      rw [List.length_append]
      change n + 2 + (8 + shown.length) + 1 = _
      omega
    rw [hbody, Script.Lexer.skip_slashes hmark hc, hlength]

/-- A line break in the name of the working directory does no harm. -/
theorem factoryBody_lines_iff_shared :
    Path.isAbsolute ⟨"/a\nb/c.js"⟩ = true
      ∧ scriptLines (factoryBody ⟨"/a\nb/c.js"⟩ ⟨"f();\n", .empty⟩ ⟨"/a\nb"⟩)
          = "//#region c.js".toList :: (codeLines "f();\n" ++ [endMark.toList]) := by
  have habs : Path.isAbsolute ⟨"/a\nb/c.js"⟩ = true := by decide +kernel
  obtain ⟨-, -, hiff, -⟩ :=
    factoryBody_lines_iff ⟨"/a\nb/c.js"⟩ ⟨"f();\n", .empty⟩ ⟨"/a\nb"⟩ habs
  refine ⟨habs, (hiff.2 ?_).trans (by decide +kernel)⟩
  have hplace : Path.place ⟨"/a\nb/c.js"⟩ = [.name "a\nb", .name "c.js"] := by decide +kernel
  have hcwd : Path.place ⟨"/a\nb"⟩ = [.name "a\nb"] := by decide +kernel
  rw [hplace, hcwd]
  intro before n after heq hbreak
  match before, heq with
  | [], heq =>
      cases heq
      exact List.prefix_refl _
  | [_], heq =>
      cases heq
      have hnone : ¬ HasLineBreak "c.js" := by decide +kernel
      exact absurd hbreak hnone
  | _ :: _ :: before, heq => simp at heq

/-- A project whose only file has a line break in its name. -/
def brokenStore : FlatStore :=
  ⟨.ofList [("", .directory), ("/p", .directory), ("/p/a\nf();", .file "1".toUTF8)]⟩

/-- Settings with an entry whose id has two lines. -/
def brokenSettings : Settings := ⟨"./a\nf();", ⟨"/p"⟩, "dist", "bundle.js"⟩

/-- **A part of an id may be read as code.**  The scan puts a module into the graph whose name has a
    line break, and the body of its factory has the rest of the name as a line of its own, in front
    of the code. -/
theorem factoryBody_lines_broken :
    ∃ found record,
      Scan.scan brokenSettings brokenStore LineScript.compile = .ok found
        ∧ found.graph.get? ⟨"/p/a\nf();"⟩ = some record
        ∧ scriptLines (factoryBody ⟨"/p/a\nf();"⟩ record brokenSettings.cwd)
            = ["//#region a".toList, "f();".toList, "1".toList, endMark.toList]
        ∧ codeLines record.code = ["1".toList]
        ∧ scriptLines (factoryBody ⟨"/p/a\nf();"⟩ record brokenSettings.cwd)
            ≠ (regionMark ⟨"/p/a\nf();"⟩ brokenSettings.cwd).toList
                :: (codeLines record.code ++ [endMark.toList]) := by
  have hread : FlatStore.read brokenStore ⟨"/p/a\nf();"⟩ = .ok "1" := by
    have hkey : FlatStore.key ⟨"/p/a\nf();"⟩ = "/p/a\nf();" := by decide +kernel
    rw [FlatStore.read_eq_ok_iff, hkey]
    simp [brokenStore, OrderedMap.ofList, OrderedMap.get?_insert]
  obtain ⟨found, hscan, hrecord⟩ : ∃ found, Scan.scan brokenSettings brokenStore LineScript.compile
      = .ok found ∧ found.graph.get? ⟨"/p/a\nf();"⟩ = some ⟨"1", .empty⟩ :=
    Scan.exists_scan_sole (by decide +kernel) (by decide +kernel) hread (by decide +kernel)
  have hlines : scriptLines (factoryBody ⟨"/p/a\nf();"⟩ ⟨"1", .empty⟩ brokenSettings.cwd)
      = ["//#region a".toList, "f();".toList, "1".toList, endMark.toList] := by decide +kernel
  have hcode : codeLines "1" = ["1".toList] := by decide +kernel
  refine ⟨found, _, hscan, hrecord, hlines, hcode, ?_⟩
  rw [hlines, hcode]
  decide +kernel

end Bundle

end ModuleBundler
