import ModuleBundler.Proofs.Script.Places
import ModuleBundler.Proofs.Script.References
import ModuleBundler.Proofs.Script.Variables

/-!
# When the names that are brought in are safe

The body of a module has names that its script does not write: `require`, `exports`, and the
variables that keep other modules.  Nothing looks for them among the names of the script.

**Captures.**  A use of an imported name becomes a read of a variable, in the same place.  If a
scope around that place declares a name like the variable's, that is what the new read means
(`reads_capturing`).

**Clashes.**  The variables are declared at the top, where the script may declare the same name.

**The convention.**  Every variable begins with two underscores.  So a script that declares no such
name, and neither `require` nor `exports`, is hygienic.
-/

namespace ModuleBundler.Script

/-- The names that are kept for what is brought in. -/
def Reserved (name : String) : Prop :=
  name = "require" ∨ name = "exports" ∨ ∃ rest, name = "__" ++ rest

/-- Whether the use in the place becomes a read of another module. -/
def Place.Rewritten (r : Resolution) (q : Place) : Prop := ∃ v ∈ r.imports, q.meaning = some v

namespace Program

/-- The uses of a script with their places. -/
def places (p : Program) : List Place := Place.ofItems p.items

/-- The names that a script declares anywhere. -/
def declared (p : Program) : List String := p.items.flatMap Item.declared

/-- **The names that are brought in.** -/
def introduced (p : Program) : List String :=
  let l := Linkage.ofItems (Resolution.ofItems p.items) p.items
  "require" :: "exports" :: l.requests.filterMap Request.variableName?

/-- **Hygiene**: no name that is brought in is declared by the script at its top, or in a scope
    around a use that is rewritten. -/
structure Hygienic (p : Program) : Prop where
  top : ∀ name ∈ p.introduced, (Resolution.ofItems p.items).named? name = none
  around : ∀ q ∈ p.places, q.Rewritten (Resolution.ofItems p.items) →
    ∀ name ∈ p.introduced, ∀ names ∈ q.around, name ∉ names.map Prod.fst

end Program

/-- A name stands for nothing if no scope around declares it. -/
lemma Place.stands_eq_none_iff (q : Place) (name : String) :
    q.stands name = none ↔ ∀ names ∈ q.around, name ∉ names.map Prod.fst := by
  rw [Place.stands, List.findSome?_eq_none_iff]
  refine forall₂_congr fun names _ => ?_
  rw [List.lookup_eq_none_iff]
  simp only [bne_iff_ne, List.mem_map, not_exists, not_and]
  exact forall₂_congr fun e _ => ⟨fun h heq => h heq.symm, fun h heq => h heq.symm⟩

/-- Variables for modules begin with two underscores. -/
lemma Linkage.reserved_numbered (name : String) (n : ℕ) : Reserved (numbered name n) := by
  refine .inr (.inr ?_)
  cases n with
  | zero => exact ⟨name, rfl⟩
  | succ n => exact ⟨name ++ "$" ++ toString (n + 1), by simp [numbered, String.append_assoc]⟩

namespace Program

variable {p : Program}

lemma reserved_introduced {name : String} (h : name ∈ p.introduced) : Reserved name := by
  rcases List.mem_cons.1 h with rfl | h
  · exact .inl rfl
  rcases List.mem_cons.1 h with rfl | h
  · exact .inr (.inl rfl)
  rw [← Linkage.map_fst_kept, Linkage.kept_ofItems, Linkage.storage, List.map_map] at h
  obtain ⟨⟨source, n⟩, -, rfl⟩ := List.mem_map.1 h
  exact Linkage.reserved_numbered _ n

/-- A use that is rewritten becomes a read of a variable that is brought in. -/
lemma exists_edit {q : Place} (hq : q ∈ p.places) {v : Variable} (hmeaning : q.meaning = some v)
    (hv : v ∈ (Resolution.ofItems p.items).imports) :
    let r := Resolution.ofItems p.items
    let l := Linkage.ofItems r p.items
    ∃ name ∈ l.requests.filterMap Request.variableName?, ∃ part,
      q.use.edit (Linkage.readPart name part) ∈ l.useEdits r := by
  intro r l
  obtain ⟨hlength, -⟩ := Resolution.imports_ofItems p.items
  have haccesses : l.accesses.length = r.imports.length :=
    (Linkage.length_upTo p.items).2.trans hlength.symm
  obtain ⟨i, hi, -, haccess⟩ := Linkage.access?_of_mem haccesses hv
  have hilt : i < (p.items.flatMap Item.bindings).length :=
    hlength ▸ (List.getElem?_eq_some_iff.1 hi).1
  obtain ⟨b, value, -, hvalue, _, _, source, _, _, _, name, -, -, -, hrequest, rfl⟩ :=
    Linkage.reads_of_bindings r hilt
  have hsettled : (q.use, v) ∈ r.settled := by
    refine (Resolution.settled_perm_places p.items).symm.subset ?_
    exact List.mem_filterMap.2 ⟨q, hq, by rw [Place.settled?, hmeaning, Option.map_some]⟩
  refine ⟨name, List.mem_filterMap.2 ⟨_, List.mem_of_getElem? hrequest, rfl⟩, b.part, ?_⟩
  exact Linkage.mem_useEdits.2 ⟨q.use, v, _, hsettled, haccess.trans hvalue, rfl⟩

/-- What is declared nowhere makes a script hygienic. -/
lemma hygienic_of_declared (h : ∀ name ∈ p.introduced, name ∉ p.declared) : p.Hygienic where
  top name hname := by
    rw [← Option.not_isSome_iff_eq_none, Option.isSome_iff_exists]
    rintro ⟨v, hv⟩
    exact h name hname (Resolution.mem_declared_of_named p.items hv)
  around q hq _ name hname names hnames hmem := by
    obtain ⟨e, he, rfl⟩ := List.mem_map.1 hmem
    exact h e.1 hname (Resolution.knows_places p.items hq names hnames e he)

/-- **What decides hygiene**: the places of the uses, and the names that are brought in. -/
structure HygieneDecided (p : Program) : Prop where
  /-- Each use has its place. -/
  uses : p.places.map Place.use = p.uses
  /-- A use is settled to what its name stands for in its place. -/
  settled : (Resolution.ofItems p.items).settled.Perm (p.places.filterMap Place.settled?)
  /-- A use that is settled to an import becomes a read of a variable that is brought in. -/
  rewritten : ∀ q ∈ p.places, q.Rewritten (Resolution.ofItems p.items) →
    ∃ name ∈ p.introduced, ∃ part, q.use.edit (Linkage.readPart name part)
      ∈ (Linkage.ofItems (Resolution.ofItems p.items) p.items).useEdits
          (Resolution.ofItems p.items)
  /-- No name that is brought in stands for anything at the top, or in the place of such a use. -/
  hygienic : p.Hygienic ↔ (∀ name ∈ p.introduced, (Resolution.ofItems p.items).named? name = none)
    ∧ ∀ q ∈ p.places, q.Rewritten (Resolution.ofItems p.items) →
        ∀ name ∈ p.introduced, q.stands name = none
  /-- The names that are brought in are reserved ones. -/
  reserved : ∀ name ∈ p.introduced, Reserved name
  /-- It is enough that none of them is declared. -/
  of_undeclared : (∀ name ∈ p.introduced, name ∉ p.declared) → p.Hygienic
  /-- It is enough that no reserved name is declared. -/
  of_unreserved : (∀ name ∈ p.declared, ¬ Reserved name) → p.Hygienic

/-- **When a script is hygienic.**  Each use of a script has its place, and is settled to what its
    name stands for there.  A use that is settled to an import becomes a read of a variable that is
    brought in.  The script is hygienic exactly if none of the names that are brought in stands for
    anything at the top, or in the place of such a use, so that no new read is captured and no
    variable clashes.  All these names are reserved ones.  So a script is hygienic if it declares
    none of them, and also if it declares no reserved name. -/
theorem hygienic_iff (p : Program) : p.HygieneDecided := by
  refine ⟨Resolution.use_places p.items, Resolution.settled_perm_places p.items, ?_, ?_,
    fun name => reserved_introduced, hygienic_of_declared, fun h => hygienic_of_declared ?_⟩
  · rintro q hq ⟨v, hv, hmeaning⟩
    obtain ⟨name, hname, hedit⟩ := exists_edit hq hmeaning hv
    exact ⟨name, List.mem_cons_of_mem _ (List.mem_cons_of_mem _ hname), hedit⟩
  · simp only [Place.stands_eq_none_iff]
    exact ⟨fun h => ⟨h.top, h.around⟩, fun h => ⟨h.1, h.2⟩⟩
  · exact fun name hname hdeclared => h name hdeclared (reserved_introduced hname)

/-- The source of `capturing`. -/
def capturingText : String :=
  "import \x7b a \x7d from \"./a\";\nfunction f(__a) \x7b return a; \x7d"

/-- A function that reads an import, with a parameter that is called like the import's variable. -/
def capturing : Program :=
  ⟨none, [.importing ⟨0, 24⟩ "./a" [⟨"a", .named "a"⟩],
    .statement (.node (.functionDeclaration (some "f")) ⟨25, 54⟩
      [.node (.function none) ⟨25, 54⟩
        [.node .parameters ⟨35, 40⟩ [.node (.binder "__a") ⟨36, 39⟩ []],
          .node .body ⟨41, 54⟩ [.node .other ⟨43, 52⟩ [.node (.use "a") ⟨50, 51⟩ []]]]])]⟩

/-- **A read is captured.**  The import is read from the variable `__a`, but in the place of that
    read this name stands for the parameter. -/
theorem reads_capturing :
    (Program.read capturingText.toList).toOption = some capturing
      ∧ capturing.items.any Item.beginsInside = false
      ∧ (let r := Resolution.ofItems capturing.items
        (Linkage.ofItems r capturing.items).useEdits r = [.replace ⟨50, 51⟩ "__a.a"]
          ∧ capturing.places.map (fun q => (q.use.span, q.meaning, q.stands "__a"))
            = [(⟨50, 51⟩, some 0, some 2)]
          ∧ r.imports = [0])
      ∧ ¬ capturing.Hygienic := by
  refine ⟨by decide +kernel, by decide +kernel, ⟨by decide +kernel, by decide +kernel,
    by decide +kernel⟩, fun h => ?_⟩
  obtain ⟨q, hq, hmeaning, names, hnames, hmem⟩ : ∃ q ∈ capturing.places,
      q.meaning = some 0 ∧ ∃ names ∈ q.around, "__a" ∈ names.map Prod.fst := by decide +kernel
  exact h.around q hq ⟨0, by decide +kernel, hmeaning⟩ "__a" (by decide +kernel) names hnames hmem

end Program

end ModuleBundler.Script
