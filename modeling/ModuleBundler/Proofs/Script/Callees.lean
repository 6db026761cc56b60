import ModuleBundler.Proofs.Script.Edits
import ModuleBundler.Proofs.Script.Prelude

/-!
# Imported functions that are called

A function that is called as a property of something has this as its receiver.  An imported function
is read as a property of its module, so the text that it gives way to decides what it receives.

**Positions.**  A name is called where it stands in front of arguments or of a template, in any
number of parentheses (`Node.Calls`).  Each such name is a use, whose manner tells the first of
these apart only if there are no parentheses (`Node.mem_uses_of_calls`).

**Texts.**  A text reads a property if it can be written as an object and a name
(`Identifier.ReadsProperty`).  What reads a part of a module does
(`Linkage.Reads.readsProperty_iff`), and what ends with a parenthesis does not
(`Identifier.not_readsProperty_grouped`).

**Calls.**  So an imported function is called without a receiver where nothing stands between its
name and the arguments (`calls_of_imports`).  In parentheses, or in front of a template, it receives
its module (`calls_grouped`).
-/

namespace ModuleBundler

/-! ## Texts that read properties -/

namespace Identifier

/-- **Whether a text reads a property** of an object. -/
def ReadsProperty (text : String) : Prop := ∃ object name, text = access object name

/-- The read of a property ends with its name or with a bracket. -/
lemma getLast?_access (object name : String) :
    ∃ c, (access object name).toList.getLast? = some c ∧ (isPart c = true ∨ c = ']') := by
  rw [access]
  split
  · next hname =>
      cases hcs : name.toList with
      | nil =>
          rw [isName, hcs] at hname
          cases hname
      | cons first rest =>
          refine ⟨(first :: rest).getLast (List.cons_ne_nil _ _), ?_,
            .inl (isPart_of_mem hname ?_)⟩
          · rw [String.toList_append, hcs, List.getLast?_append_of_ne_nil _ (List.cons_ne_nil _ _),
              List.getLast?_eq_getLast_of_ne_nil]
          · rw [hcs]
            exact List.getLast_mem _
  · refine ⟨']', ?_, .inr rfl⟩
    rw [String.toList_append]
    exact List.getLast?_concat

/-- The read of a property has a point or a bracket in it. -/
lemma mark_mem_access (object name : String) :
    '.' ∈ (access object name).toList ∨ '[' ∈ (access object name).toList := by
  rw [access]
  split
  · left
    simp
  · right
    simp

/-- A text in parentheses reads no property. -/
lemma not_readsProperty_grouped (text : String) : ¬ ReadsProperty (text ++ ")") := by
  rintro ⟨object, name, heq⟩
  obtain ⟨c, hlast, hc⟩ := getLast?_access object name
  rw [← heq, String.toList_append] at hlast
  obtain rfl : ')' = c := Option.some.inj (List.getLast?_concat.symm.trans hlast)
  rcases hc with hpart | hbracket
  · revert hpart
    decide +kernel
  · exact absurd hbracket (by decide)

/-- A name reads no property. -/
lemma not_readsProperty_name {text : String} (h : ∀ c ∈ text.toList, isPart c = true) :
    ¬ ReadsProperty text := by
  rintro ⟨object, name, rfl⟩
  rcases mark_mem_access object name with hmark | hmark
  · have hpart := h '.' hmark
    revert hpart
    decide +kernel
  · have hpart := h '[' hmark
    revert hpart
    decide +kernel

end Identifier

namespace Script

open Identifier (ReadsProperty)

/-- A part of a module is read as a property, and the whole of it is not. -/
lemma Linkage.readsProperty_readPart_iff {v : String}
    (h : ∀ c ∈ v.toList, Identifier.isPart c = true) (part : Part) :
    ReadsProperty (readPart v part) ↔ part ≠ .whole := by
  cases part with
  | whole => exact iff_of_false (Identifier.not_readsProperty_name h) fun hne => hne rfl
  | named name => exact iff_of_true ⟨v, name, rfl⟩ (by simp)

/-- **What an import is read by** reads a property, unless it is the whole of a module. -/
lemma Linkage.Reads.readsProperty_iff {r : Resolution} {items : List Item} {i : ℕ} {b : Binding}
    {value : String} (h : (ofItems r items).Reads items i b value) :
    ReadsProperty value ↔ b.part ≠ .whole := by
  obtain ⟨_, _, _, _, _, _, variableName, _, _, _, hrequest, rfl⟩ := h
  exact readsProperty_readPart_iff (fun c hc =>
    isPart_of_mem_variable (List.mem_of_getElem? hrequest) rfl hc) b.part

/-! ## Names that are called -/

/-- **What a name that is called stands in front of.** -/
inductive Form where
  | arguments
  | template
deriving DecidableEq, Repr

/-- The manner of a name that is called, in so many parentheses. -/
def Form.manner : Form → ℕ → Manner
  | .arguments, 0 => .called
  | _, _ => .plain

/-- A name in parentheses. -/
inductive Node.Grouped (name : String) (span : Span) : ℕ → Node → Prop
  | bare (cs : List Node) : Grouped name span 0 (.node (.use name) span cs)
  | group {depth : ℕ} {n : Node} (outer : Span) (h : n.Grouped name span depth) :
      Grouped name span (depth + 1) (.node .group outer [n])

/-- **A name that a part of a script calls**, what it stands in front of, and in how many
    parentheses. -/
inductive Node.Calls (name : String) (span : Span) (depth : ℕ) : Form → Node → Prop
  | call (outer : Span) {n : Node} (arguments : List Node) (h : n.Grouped name span depth) :
      Calls name span depth .arguments (.node .call outer (n :: arguments))
  | tagged (outer : Span) {n : Node} (filled : List Node) (h : n.Grouped name span depth) :
      Calls name span depth .template (.node .tagged outer (n :: filled))
  /-- Inside something else.  Uses and imports are whole. -/
  | inside {form : Form} {n around : Node} (huse : around.useName? = none)
      (himporting : ∀ names, around.kind ≠ .importing names) (hn : n ∈ around.children)
      (h : n.Calls name span depth form) : Calls name span depth form around

lemma mem_usesOfAll {u : Use} {n : Node} {ns : List Node} (hn : n ∈ ns) (hu : u ∈ n.uses) :
    u ∈ usesOfAll ns := by
  induction ns with
  | nil => cases hn
  | cons first rest ih =>
      rw [usesOfAll, List.mem_append]
      rcases List.mem_cons.1 hn with rfl | hn
      · exact .inl hu
      · exact .inr (ih hn)

namespace Node

variable {name : String} {span : Span} {depth : ℕ} {n : Node}

/-- The uses inside a node other than a use are among those of what is around it. -/
lemma mem_uses_around {around : Node} {u : Use} (huse : around.useName? = none)
    (himporting : ∀ names, around.kind ≠ .importing names) (hn : n ∈ around.children)
    (hplain : n.useName? = none) (hu : u ∈ n.uses) : u ∈ around.uses := by
  -- What is inside is not the use that a call or a field begins with.
  have hbehind {name : String} {span : Span} {cs rest : List Node}
      (h : n ∈ Node.node (.use name) span cs :: rest) : u ∈ usesOfAll rest := by
    rcases List.mem_cons.1 h with rfl | h
    · cases hplain
    · exact mem_usesOfAll h hu
  fun_cases Node.uses around with
  | case1 => cases huse
  | case2 => exact List.mem_cons_of_mem _ (hbehind hn)
  | case3 => exact List.mem_cons_of_mem _ (hbehind hn)
  | case4 names => exact absurd rfl (himporting names)
  | case5 => exact mem_usesOfAll hn hu

lemma Grouped.mem_uses (h : n.Grouped name span depth) : ⟨name, span, .plain⟩ ∈ n.uses := by
  induction h with
  | bare cs => exact List.mem_singleton_self _
  | group outer h ih => simpa [Node.uses, usesOfAll] using ih

lemma Calls.useName?_eq_none {form : Form} (h : n.Calls name span depth form) :
    n.useName? = none := by
  cases h with
  | call => rfl
  | tagged => rfl
  | inside huse => exact huse

/-- **A name that is called** is a use. -/
theorem mem_uses_of_calls {form : Form} (h : n.Calls name span depth form) :
    ⟨name, span, form.manner depth⟩ ∈ n.uses := by
  induction h with
  | call outer arguments h =>
      cases h with
      | bare cs => exact List.mem_cons_self
      | group inner h =>
          have huses := (Grouped.group inner h).mem_uses
          exact mem_uses_around rfl nofun List.mem_cons_self rfl huses
  | tagged outer filled h =>
      have huses : ⟨name, span, .plain⟩ ∈ usesOfAll (_ :: filled) :=
        mem_usesOfAll List.mem_cons_self h.mem_uses
      simpa [Node.uses, Form.manner] using huses
  | inside huse himporting hn h ih =>
      exact mem_uses_around huse himporting hn h.useName?_eq_none ih

end Node

/-- A name that a script calls. -/
def Program.Calls (p : Program) (name : String) (span : Span) (depth : ℕ) (form : Form) : Prop :=
  ∃ item ∈ p.items, item.toNode.Calls name span depth form

/-- What a name that is called gives way to. -/
lemma edit_manner (name : String) (span : Span) (depth : ℕ) (form : Form) (value : String) :
    (⟨name, span, form.manner depth⟩ : Use).edit value = .replace span
      (if form = .arguments ∧ depth = 0 then "(0, " ++ value ++ ")" else value) := by
  cases form with
  | arguments =>
      cases depth with
      | zero => rfl
      | succ depth => rfl
  | template => rfl

/-- **Calls of imported functions.**  A name that a script calls is a use of the script.  Say that
    it is settled to an imported variable.  The text in its place is the expression that reads the
    last of the imports of this variable, in parentheses of its own where the name stands in front
    of arguments and in no parentheses.  Everywhere else the text reads a property, so the function
    receives its module, unless what is imported is the whole of a module.  If the script is laid
    out well, the code has this text between what is woven in front of the name and behind it. -/
theorem calls_of_imports (p : Program) (name : String) (span : Span) (depth : ℕ) (form : Form)
    (hcalls : p.Calls name span depth form) :
    let r := Resolution.ofItems p.items
    let l := Linkage.ofItems r p.items
    let u : Use := ⟨name, span, form.manner depth⟩
    u ∈ p.uses
      ∧ ∀ v, (u, v) ∈ r.settled → v ∈ r.imports →
        ∃ (i : ℕ) (b : Binding) (value text : String), r.imports[i]? = some v
          ∧ (∀ j, i < j → r.imports[j]? ≠ some v)
          ∧ (p.items.flatMap Item.bindings)[i]? = some b ∧ b.name = name
          ∧ l.Reads p.items i b value
          ∧ text = (if form = .arguments ∧ depth = 0 then "(0, " ++ value ++ ")" else value)
          ∧ .replace span text ∈ l.edits r p
          ∧ (ReadsProperty text ↔ ¬ (form = .arguments ∧ depth = 0) ∧ b.part ≠ .whole)
          ∧ ∀ id source, Program.read source.toList = .ok p → p.laidOut = true →
            p.items.any Item.beginsInside = false →
              ∃ before after last,
                (l.edits r p).filter Edit.effective = before ++ .replace span text :: after
                  ∧ compile id source = .ok ⟨l.prelude ++ String.ofList
                      (woven source.toList 0 span.start before ++ text.toList
                        ++ woven source.toList span.stop last after), l.sources⟩ := by
  intro r l u
  obtain ⟨item, hitem, hnode⟩ := hcalls
  have huse : u ∈ p.uses := List.mem_flatMap.2 ⟨item, hitem, Node.mem_uses_of_calls hnode⟩
  refine ⟨huse, fun v hsettled hv => ?_⟩
  obtain ⟨i, b, value, hi, hlast, hb, hname, hreads, haccess⟩ := Program.exists_access hsettled hv
  let text := if form = .arguments ∧ depth = 0 then "(0, " ++ value ++ ")" else value
  have hedit : u.edit value = .replace span text := edit_manner name span depth form value
  have huseEdit : .replace span text ∈ l.useEdits r :=
    hedit ▸ Linkage.mem_useEdits.2 ⟨u, v, value, hsettled, haccess, rfl⟩
  have hmem : .replace span text ∈ l.edits r p := Linkage.mem_edits.2 (.inr huseEdit)
  have hproperty : ReadsProperty text ↔ ¬ (form = .arguments ∧ depth = 0) ∧ b.part ≠ .whole := by
    by_cases hdirect : form = .arguments ∧ depth = 0
    · have htext : text = "(0, " ++ value ++ ")" := if_pos hdirect
      rw [htext]
      exact iff_of_false (Identifier.not_readsProperty_grouped _) fun h => h.1 hdirect
    · have htext : text = value := if_neg hdirect
      rw [htext, hreads.readsProperty_iff, and_iff_right hdirect]
  refine ⟨i, b, value, text, hi, hlast, hb, hname, hreads, rfl, hmem, hproperty,
    fun id source hread h hinside => ?_⟩
  have happlied : .replace span text ∈ (l.edits r p).filter Edit.effective :=
    List.mem_filter.2 ⟨hmem, Program.effective_useEdits h l huseEdit⟩
  obtain ⟨before, after, hsplit⟩ := List.append_of_mem happlied
  obtain ⟨last, -, hchain, hlower⟩ := Program.exists_chain_edits h hinside source.toList
  rw [hsplit] at hchain hlower
  rw [woven_split hchain] at hlower
  refine ⟨before, after, last, hsplit, ?_⟩
  rw [compile, hread]
  exact (if_neg (Bool.eq_false_iff.1 hinside)).trans (congrArg Except.ok hlower)

/-- The source of a script that calls an import, and tags a template with it. -/
def callingText : String := "import \x7b f \x7d from \"./a\"; f(); f`x`;"

/-- An import, a call of it, and a template that it is the tag of. -/
def callingScript : Program :=
  ⟨none, [.importing ⟨0, 24⟩ "./a" [⟨"f", .named "f"⟩],
    .statement (.node .call ⟨25, 28⟩ [.node (.use "f") ⟨25, 26⟩ []]),
    .statement (.node .tagged ⟨30, 34⟩ [.node (.use "f") ⟨30, 31⟩ []])]⟩

/-- The call has no receiver, and the tag has one. -/
theorem calls_of_imports_twice :
    Program.read callingText.toList = .ok callingScript
      ∧ callingScript.Calls "f" ⟨25, 26⟩ 0 .arguments ∧ callingScript.Calls "f" ⟨30, 31⟩ 0 .template
      ∧ ∃ called tag, let r := Resolution.ofItems callingScript.items
        let edits := (Linkage.ofItems r callingScript.items).edits r callingScript
        .replace ⟨25, 26⟩ called ∈ edits ∧ ¬ ReadsProperty called
          ∧ .replace ⟨30, 31⟩ tag ∈ edits ∧ ReadsProperty tag := by
  have hread : Program.read callingText.toList = .ok callingScript := by decide +kernel
  have hcalled : callingScript.Calls "f" ⟨25, 26⟩ 0 .arguments :=
    ⟨.statement _, by simp [callingScript], .call ⟨25, 28⟩ [] (.bare [])⟩
  have htag : callingScript.Calls "f" ⟨30, 31⟩ 0 .template :=
    ⟨.statement _, by simp [callingScript], .tagged ⟨30, 34⟩ [] (.bare [])⟩
  obtain ⟨-, hcalled'⟩ := calls_of_imports callingScript "f" ⟨25, 26⟩ 0 .arguments hcalled
  obtain ⟨-, htag'⟩ := calls_of_imports callingScript "f" ⟨30, 31⟩ 0 .template htag
  obtain ⟨-, _, -, called, -, -, -, -, -, -, hedit, hproperty, -⟩ :=
    hcalled' 0 (by decide +kernel) (by decide +kernel)
  obtain ⟨_, b, -, tag, -, -, hb, -, -, -, hedit', hproperty', -⟩ :=
    htag' 0 (by decide +kernel) (by decide +kernel)
  have hpart : ∀ b ∈ callingScript.items.flatMap Item.bindings, b.part ≠ .whole := by
    decide +kernel
  refine ⟨hread, hcalled, htag, called, tag, hedit, ?_, hedit', ?_⟩
  · exact fun h => (hproperty.1 h).1 ⟨rfl, rfl⟩
  · exact hproperty'.2 ⟨by simp, hpart b (List.mem_of_getElem? hb)⟩

/-- The source of a script that calls an import in parentheses. -/
def groupedText : String := "import \x7b f \x7d from \"./a\"; (f)();"

/-- An import, and a call of it in parentheses. -/
def groupedScript : Program :=
  ⟨none, [.importing ⟨0, 24⟩ "./a" [⟨"f", .named "f"⟩],
    .statement (.node .call ⟨25, 30⟩ [.node .group ⟨25, 28⟩ [.node (.use "f") ⟨26, 27⟩ []]])]⟩

/-- What it is compiled to. -/
def groupedCode : String :=
  "\"use strict\";\n"
    ++ "Object.defineProperty(exports, \"__esModule\", \x7b value: true \x7d);\n"
    ++ "var __a = require(\"./a\");\n"
    ++ " (__a.f)();"

/-- **A call in parentheses.**  What is imported gives way to the read of a property, and the code
    is read as a call of a property of the module, which thus becomes the receiver. -/
theorem calls_grouped :
    Program.read groupedText.toList = .ok groupedScript
      ∧ groupedScript.Calls "f" ⟨26, 27⟩ 1 .arguments
      ∧ (let r := Resolution.ofItems groupedScript.items
        r.settled = [(⟨"f", ⟨26, 27⟩, .plain⟩, 0)] ∧ r.imports = [0]
          ∧ (Linkage.ofItems r groupedScript.items).useEdits r = [.replace ⟨26, 27⟩ "__a.f"])
      ∧ ReadsProperty "__a.f"
      ∧ compile ⟨"/m.js"⟩ groupedText = .ok ⟨groupedCode, ["./a"]⟩
      ∧ (Program.read groupedCode.toList).toOption.bind (fun p => p.items.getLast?)
        = some (.statement (.node .call ⟨104, 113⟩ [.node .group ⟨104, 111⟩
          [.node .member ⟨105, 110⟩ [.node (.use "__a") ⟨105, 108⟩ []]]])) := by
  have hread : Program.read groupedText.toList = .ok groupedScript := by decide +kernel
  have hlaid : groupedScript.laidOut = true := by decide +kernel
  have hinside : groupedScript.items.any Item.beginsInside = false := by decide +kernel
  refine ⟨hread, ?_, ⟨by decide +kernel, by decide +kernel, by decide +kernel⟩,
    ⟨"__a", "f", by decide +kernel⟩, ?_, by decide +kernel⟩
  · exact ⟨.statement _, by simp [groupedScript], .call ⟨25, 30⟩ [] (.group ⟨25, 28⟩ (.bare []))⟩
  · have hcompile :
        compile ⟨"/m.js"⟩ groupedText = .ok (groupedScript.lower groupedText.toList) := by
      rw [compile, hread]
      exact if_neg (Bool.eq_false_iff.1 hinside)
    rw [hcompile, Program.lower_eq hread hlaid hinside]
    decide +kernel

end Script

end ModuleBundler
