import Mathlib.Data.List.Pairwise
import ModuleBundler.Proofs.Script.Accesses
import ModuleBundler.Proofs.Script.Layout
import ModuleBundler.Script.Comparison

/-!
# Every use of an import is edited, and nothing else is

A script that is laid out well has its uses one behind the other, apart from the stretches that the
edits of its items meet.  So an edit for a use meets no other use, and each use of an imported name
is met by its own edit alone.

**What is edited.**  `edits_of_uses` goes through all uses of a script.  A use that is settled to
an import at the top of the script is met by one edit, which reads the last import of its variable.
Any other use is met by none, and every edit is either that of a use or takes away what belongs to
the syntax of imports and exports.

**Imports inside statements** are imports to the reader of a script but not to its linkage: nothing
is asked for, and what is settled to them stays as it is (`edits_nested_import`).
-/

namespace ModuleBundler.Script

@[simp] lemma Use.span_edit (u : Use) (value : String) : (u.edit value).span = u.span := by
  rw [Use.edit]
  cases u.manner <;> rfl

lemma Span.meets_comm (s t : Span) : s.meets t = t.meets s := Bool.and_comm _ _

lemma Span.meets_self {s : Span} (h : s.start < s.stop) : s.meets s = true := by
  simp [Span.meets, h]

lemma Span.notMeets_of_le {s t : Span} (h : s.stop ≤ t.start) : s.meets t = false := by
  simp only [Span.meets, Bool.and_eq_false_iff, decide_eq_false_iff_not]
  exact .inr h.not_gt

/-- Two uses that do not meet. -/
def Use.Apart (u u' : Use) : Prop := u.span.meets u'.span = false

instance : Std.Symm Use.Apart := ⟨fun u u' h => (Span.meets_comm u'.span u.span).trans h⟩

namespace Program

variable {p : Program}

/-- No two uses of a script that is laid out well meet. -/
lemma pairwise_uses (h : p.laidOut = true) : p.uses.Pairwise Use.Apart := by
  rw [laidOut, Bool.and_eq_true] at h
  obtain ⟨last, hrow⟩ := exists_row_uses h.2
  exact (List.pairwise_map.1 hrow.pairwise).imp Span.notMeets_of_le

lemma start_lt_stop (h : p.laidOut = true) {u : Use} (hu : u ∈ p.uses) :
    u.span.start < u.span.stop := by
  rw [laidOut, Bool.and_eq_true] at h
  obtain ⟨last, hrow⟩ := exists_row_uses h.2
  exact (hrow.bounds (List.mem_map_of_mem hu)).2.1

/-- The edits that take away syntax meet no use. -/
lemma notMeets_removal (h : p.laidOut = true) {e : Edit}
    (he : e ∈ (p.hashbang.map Edit.remove).toList ++ p.items.flatMap Item.edits) {u : Use}
    (hu : u ∈ p.uses) : e.span.meets u.span = false := by
  rw [laidOut, Bool.and_eq_true] at h
  rcases List.mem_append.1 he with he | he
  · obtain ⟨s, hs, rfl⟩ := Option.map_eq_some_iff.1 (Option.mem_toList.1 he)
    obtain ⟨last, hrow⟩ := exists_row_uses h.2
    have hfirst := (hrow.bounds (List.mem_map_of_mem hu)).1
    rw [first, hs] at hfirst
    exact Span.notMeets_of_le hfirst
  · exact notMeets_of_mem_edits h.2 he hu

end Program

namespace Linkage

variable {l : Linkage} {r : Resolution}

/-- The uses that are edited are the settled ones that stand for an imported name. -/
lemma mem_useEdits {e : Edit} :
    e ∈ l.useEdits r ↔ ∃ u v value, (u, v) ∈ r.settled ∧ l.access? r v = some value
      ∧ e = u.edit value := by
  rw [useEdits, List.mem_filterMap]
  constructor
  · rintro ⟨⟨u, v⟩, hsettled, hedit⟩
    obtain ⟨value, hvalue, rfl⟩ := Option.map_eq_some_iff.1 hedit
    exact ⟨u, v, value, hsettled, hvalue, rfl⟩
  · rintro ⟨u, v, value, hsettled, hvalue, rfl⟩
    exact ⟨(u, v), hsettled, by rw [hvalue, Option.map_some]⟩

lemma mem_edits {p : Program} {e : Edit} :
    e ∈ l.edits r p
      ↔ e ∈ (p.hashbang.map Edit.remove).toList ++ p.items.flatMap Item.edits
        ∨ e ∈ l.useEdits r := by
  rw [edits, (List.mergeSort_perm _ _).mem_iff, List.mem_append]

/-- Where no two settled uses meet, a use is met by its own edit alone. -/
lemma filter_useEdits (hpairwise : (r.settled.map Prod.fst).Pairwise Use.Apart) {u : Use}
    {v : Variable} {value : String} (hu : u.span.start < u.span.stop)
    (hsettled : (u, v) ∈ r.settled) (hvalue : l.access? r v = some value) :
    (l.useEdits r).filter (·.span.meets u.span) = [u.edit value] := by
  obtain ⟨before, after, hsplit⟩ := List.append_of_mem hsettled
  rw [hsplit, List.map_append, List.map_cons, List.pairwise_append] at hpairwise
  obtain ⟨-, hafter, hbefore⟩ := hpairwise
  have hnone : ∀ entries : List (Use × Variable),
      (∀ entry ∈ entries, entry.1.span.meets u.span = false) →
        (entries.filterMap fun entry => (l.access? r entry.2).map entry.1.edit).filter
          (·.span.meets u.span) = [] := by
    intro entries hentries
    rw [List.filter_eq_nil_iff]
    intro e he
    obtain ⟨entry, hentry, hedit⟩ := List.mem_filterMap.1 he
    obtain ⟨value', -, rfl⟩ := Option.map_eq_some_iff.1 hedit
    rw [Use.span_edit, hentries entry hentry]
    exact Bool.false_ne_true
  have hbehind : ∀ entry ∈ after, entry.1.span.meets u.span = false := fun entry hentry =>
    (Span.meets_comm _ _).trans ((List.pairwise_cons.1 hafter).1 _ (List.mem_map_of_mem hentry))
  have hown : (u.edit value).span.meets u.span = true := by
    rw [Use.span_edit, Span.meets_self hu]
  have hfront : ∀ entry ∈ before, entry.1.span.meets u.span = false := fun entry hentry =>
    hbefore _ (List.mem_map_of_mem hentry) u (by simp)
  rw [useEdits, hsplit, List.filterMap_append, List.filter_append, List.filterMap_cons, hvalue,
    Option.map_some, hnone before hfront]
  change List.filter (·.span.meets u.span) (u.edit value :: after.filterMap _) = [u.edit value]
  rw [List.filter_cons, if_pos hown, hnone after hbehind]

end Linkage

namespace Program

/-- **Every use of an import is edited, and nothing else is.**  Take a script that is laid out well.
    Each of its uses is settled once, unless its name is nowhere declared.  A use that is settled to
    an imported variable has the name of its last import and is met by one edit, which puts the
    expression that reads this import in its place, in the manner of the use.  A use that is settled
    to anything else or to nothing is met by no edit.  And every edit is one for a use of an import,
    or takes away the line at the beginning, or is an edit of an item. -/
theorem edits_of_uses (p : Program) (h : p.laidOut = true) :
    let r := Resolution.ofItems p.items
    let l := Linkage.ofItems r p.items
    (∃ undeclared, (r.settled.map Prod.fst ++ undeclared).Perm p.uses
        ∧ ∀ u ∈ undeclared, r.named? u.name = none)
      ∧ (∀ u v, (u, v) ∈ r.settled → v ∈ r.imports →
          ∃ (i : ℕ) (b : Binding) (value : String), r.imports[i]? = some v
            ∧ (∀ j, i < j → r.imports[j]? ≠ some v)
            ∧ (p.items.flatMap Item.bindings)[i]? = some b ∧ b.name = u.name
            ∧ l.Reads p.items i b value
            ∧ (l.edits r p).filter (·.span.meets u.span) = [u.edit value])
      ∧ (∀ u ∈ p.uses, (∀ v, (u, v) ∈ r.settled → v ∉ r.imports) →
          ∀ e ∈ l.edits r p, e.span.meets u.span = false)
      ∧ ∀ e ∈ l.edits r p, (∃ s, p.hashbang = some s ∧ e = .remove s)
          ∨ (∃ item ∈ p.items, e ∈ item.edits)
          ∨ ∃ u v value, (u, v) ∈ r.settled ∧ v ∈ r.imports ∧ e = u.edit value := by
  intro r l
  obtain ⟨undeclared, hsettled, hundeclared⟩ := Resolution.settled_ofItems p.items
  obtain ⟨hlength, hnames⟩ := Resolution.imports_ofItems p.items
  have haccesses : l.accesses.length = r.imports.length :=
    (Linkage.length_upTo p.items).2.trans hlength.symm
  have hmem : ∀ u v, (u, v) ∈ r.settled → u ∈ p.uses := fun u v huv =>
    hsettled.subset (List.mem_append_left _ (List.mem_map.2 ⟨_, huv, rfl⟩))
  have himported : ∀ v value, l.access? r v = some value → v ∈ r.imports := by
    intro v value hvalue
    by_contra hv
    rw [Linkage.access?_eq_none hv] at hvalue
    cases hvalue
  refine ⟨⟨undeclared, hsettled, hundeclared⟩, fun u v huv hv => ?_, fun u hu hother e he => ?_,
    fun e he => ?_⟩
  · obtain ⟨i, hi, hlast, haccess⟩ := Linkage.access?_of_mem haccesses hv
    have hilt : i < (p.items.flatMap Item.bindings).length :=
      hlength ▸ (List.getElem?_eq_some_iff.1 hi).1
    obtain ⟨b, value, hb, hvalue, hreads⟩ := Linkage.reads_of_bindings r hilt
    obtain ⟨b', hb', hname⟩ := hnames u v i huv hi
    cases hb.symm.trans hb'
    refine ⟨i, b, value, hi, hlast, hb, hname, hreads, ?_⟩
    have hpairwise : (r.settled.map Prod.fst).Pairwise Use.Apart :=
      (hsettled.symm.pairwise (pairwise_uses h) (symm_of Use.Apart)).sublist
        (List.sublist_append_left _ _)
    have huses := Linkage.filter_useEdits hpairwise (start_lt_stop h (hmem u v huv)) huv
      (haccess.trans hvalue)
    have hsyntax : ((p.hashbang.map Edit.remove).toList ++ p.items.flatMap Item.edits).filter
        (·.span.meets u.span) = [] := by
      rw [List.filter_eq_nil_iff]
      intro e he
      rw [notMeets_removal h he (hmem u v huv)]
      exact Bool.false_ne_true
    refine List.perm_singleton.1 (((List.mergeSort_perm _ _).filter _).trans (.of_eq ?_))
    rw [List.filter_append, hsyntax, huses, List.nil_append]
  · rcases Linkage.mem_edits.1 he with he | he
    · exact notMeets_removal h he hu
    · obtain ⟨u', v, value, huv, hvalue, rfl⟩ := Linkage.mem_useEdits.1 he
      rw [Use.span_edit]
      refine (pairwise_uses h).forall (hmem u' v huv) hu ?_
      rintro rfl
      exact hother v huv (himported v value hvalue)
  · rcases Linkage.mem_edits.1 he with he | he
    · rcases List.mem_append.1 he with he | he
      · obtain ⟨s, hs, rfl⟩ := Option.map_eq_some_iff.1 (Option.mem_toList.1 he)
        exact .inl ⟨s, hs, rfl⟩
      · exact .inr (.inl (List.mem_flatMap.1 he))
    · obtain ⟨u, v, value, huv, hvalue, rfl⟩ := Linkage.mem_useEdits.1 he
      exact .inr (.inr ⟨u, v, value, huv, himported v value hvalue, rfl⟩)

/-- An import, and a call of what it brings in with a field of the same name. -/
def callScript : Program :=
  ⟨none, [.importing ⟨0, 24⟩ "./m" [⟨"a", .named "b"⟩],
    .statement (.node .call ⟨25, 33⟩ [.node (.use "a") ⟨25, 26⟩ [],
      .node .object ⟨27, 32⟩ [.node .shorthand ⟨29, 30⟩ [.node (.use "a") ⟨29, 30⟩ []]]])]⟩

/-- In the call, the function and the field are each met by one edit. -/
theorem edits_of_uses_call :
    (Program.read "import\x7bb as a\x7dfrom\"./m\";\na(\x7b a \x7d);".toList).toOption
        = some callScript
      ∧ callScript.laidOut = true
      ∧ ∃ f g, let r := Resolution.ofItems callScript.items
        let edits := (Linkage.ofItems r callScript.items).edits r callScript
        edits.filter (·.span.meets ⟨25, 26⟩) = [.replace ⟨25, 26⟩ ("(0, " ++ f ++ ")")]
          ∧ edits.filter (·.span.meets ⟨29, 30⟩) = [.replace ⟨29, 30⟩ ("a: " ++ g)] := by
  have hlaid : callScript.laidOut = true := by decide +kernel
  obtain ⟨-, himports, -, -⟩ := edits_of_uses callScript hlaid
  obtain ⟨-, -, f, -, -, -, -, -, hf⟩ :=
    himports ⟨"a", ⟨25, 26⟩, .called⟩ 0 (by decide +kernel) (by decide +kernel)
  obtain ⟨-, -, g, -, -, -, -, -, hg⟩ :=
    himports ⟨"a", ⟨29, 30⟩, .keyed⟩ 0 (by decide +kernel) (by decide +kernel)
  exact ⟨by decide +kernel, hlaid, f, g, hf, hg⟩

/-- A block that imports a name and uses it. -/
def nestedImport : Program :=
  ⟨none, [.statement (.node .block ⟨0, 31⟩
    [.node (.importing ["a"]) ⟨2, 26⟩ [], .node (.use "a") ⟨27, 28⟩ []])]⟩

/-- **An import inside a statement** can be read, and the only use of the script is settled to the
    variable that it declares, but no edit is made. -/
theorem edits_nested_import :
    (Program.read "\x7b import \x7b a \x7d from \"./a\"; a; \x7d".toList).toOption
        = some nestedImport
      ∧ nestedImport.laidOut = true
      ∧ nestedImport.uses = [⟨"a", ⟨27, 28⟩, .plain⟩]
      ∧ ((Resolution.start.enter false).declareAll ["a"]).named? "a" = some 0
      ∧ (let r := Resolution.ofItems nestedImport.items
        r.settled = [(⟨"a", ⟨27, 28⟩, .plain⟩, 0)]
          ∧ (Linkage.ofItems r nestedImport.items).edits r nestedImport = []) := by
  refine ⟨by decide +kernel, by decide +kernel, by decide +kernel, by decide +kernel,
    by decide +kernel, ?_⟩
  have hnone : (nestedImport.hashbang.map Edit.remove).toList
      ++ nestedImport.items.flatMap Item.edits
      ++ (Linkage.ofItems (Resolution.ofItems nestedImport.items) nestedImport.items).useEdits
          (Resolution.ofItems nestedImport.items) = [] := by decide +kernel
  rw [Linkage.edits, hnone, List.mergeSort_nil]

end Program

end ModuleBundler.Script
