import Mathlib.Data.List.Induction
import ModuleBundler.Proofs.Script.Names
import ModuleBundler.Script.Linkage

/-!
# How imported names are read

The names that a script imports are numbered in the order of its imports.

**Parts of modules.**  Each of them has an expression that reads its part of the variable that keeps
what its own import asked for, whatever stands before and behind the import
(`Linkage.reads_of_bindings`).

**Variables.**  What reads a variable is the expression of the last import of it
(`Linkage.access?_of_mem`), and a variable that is not imported is not read in this way
(`Linkage.access?_eq_none`).
-/

namespace ModuleBundler.Script

/-- The module that an item asks for. -/
def Item.source? : Item → Option String
  | .importing _ source _ => some source
  | .reexport _ source _ => some source
  | .reexportAll _ source _ => some source
  | _ => none

namespace Linkage

/-- How a script is linked behind some of its items. -/
def upTo (items : List Item) : Linkage := items.foldl addItem empty

/-- **The expression for the name of a given number**: it reads a part of the variable that keeps
    what the import of the name asks for. -/
def Reads (l : Linkage) (items : List Item) (i : ℕ) (b : Binding) (value : String) : Prop :=
  ∃ before span source bindings after j variableName,
    items = before ++ .importing span source bindings :: after
      ∧ bindings[j]? = some b ∧ i = (before.flatMap Item.bindings).length + j
      ∧ l.requests[(before.filterMap Item.source?).length]? = some (.keep variableName source)
      ∧ value = readPart variableName b.part

variable {l : Linkage}

/-- Every import and every export of another module asks for it once. -/
lemma length_requests_addItem (item : Item) :
    (l.addItem item).requests.length = l.requests.length + item.source?.toList.length := by
  cases item with
  | importing s source bindings => cases bindings <;> simp [addItem, request, Item.source?]
  | reexportAll s source outside => cases outside <;> simp [addItem, request, Item.source?]
  | _ => simp [addItem, request, Item.source?]

/-- What an item adds comes behind what there is. -/
lemma exists_addItem (item : Item) :
    ∃ requests accesses, (l.addItem item).requests = l.requests ++ requests
      ∧ (l.addItem item).accesses = l.accesses ++ accesses := by
  cases item with
  | importing s source bindings =>
      cases bindings with
      | nil => exact ⟨_, [], rfl, (List.append_nil _).symm⟩
      | cons b bs => exact ⟨_, _, rfl, rfl⟩
  | reexport s source names => exact ⟨_, [], rfl, (List.append_nil _).symm⟩
  | reexportAll s source outside =>
      cases outside <;> exact ⟨_, [], rfl, (List.append_nil _).symm⟩
  | _ => exact ⟨[], [], (List.append_nil _).symm, (List.append_nil _).symm⟩

/-- Items add requests and accesses behind the ones before them. -/
lemma exists_foldl_addItem (items : List Item) (l : Linkage) :
    ∃ requests accesses, (items.foldl addItem l).requests = l.requests ++ requests
      ∧ (items.foldl addItem l).accesses = l.accesses ++ accesses := by
  induction items generalizing l with
  | nil => exact ⟨[], [], (List.append_nil _).symm, (List.append_nil _).symm⟩
  | cons item rest ih =>
      obtain ⟨qs, xs, hqs, hxs⟩ := exists_addItem (l := l) item
      obtain ⟨qs', xs', hqs', hxs'⟩ := ih (l.addItem item)
      exact ⟨qs ++ qs', xs ++ xs', by rw [List.foldl_cons, hqs', hqs, List.append_assoc],
        by rw [List.foldl_cons, hxs', hxs, List.append_assoc]⟩

lemma length_accesses_addItem (item : Item) :
    (l.addItem item).accesses.length = l.accesses.length + item.bindings.length := by
  cases item with
  | importing s source bindings => cases bindings <;> simp [addItem, request, Item.bindings]
  | reexportAll s source outside => cases outside <;> simp [addItem, request, Item.bindings]
  | _ => simp [addItem, request, Item.bindings]

/-- There are as many requests as items that ask, and as many accesses as imported names. -/
lemma length_upTo (items : List Item) :
    (upTo items).requests.length = (items.filterMap Item.source?).length
      ∧ (upTo items).accesses.length = (items.flatMap Item.bindings).length := by
  induction items using List.reverseRecOn with
  | nil => exact ⟨rfl, rfl⟩
  | append_singleton items item ih =>
      rw [upTo, List.foldl_append, List.foldl_cons, List.foldl_nil, ← upTo]
      rw [length_requests_addItem, length_accesses_addItem, ih.1, ih.2]
      constructor
      · cases hsource : item.source? <;> simp [hsource]
      · simp

/-- What an item asks for has its place behind what the items in front of it ask for. -/
lemma request_of_split (r : Resolution) {before after : List Item} {item : Item} {q : Request}
    (hq : ((upTo before).addItem item).requests = (upTo before).requests ++ [q]) :
    (ofItems r (before ++ item :: after)).requests[(before.filterMap Item.source?).length]?
      = some q := by
  obtain ⟨requests, -, hrequests, -⟩ := exists_foldl_addItem after ((upTo before).addItem item)
  change ((before ++ item :: after).foldl addItem empty).requests[_]? = _
  rw [List.foldl_append, List.foldl_cons, ← upTo, hrequests, hq, ← (length_upTo before).1,
    List.append_assoc, List.getElem?_append_right le_rfl, Nat.sub_self]
  rfl

/-- The item that imports the name of a given number. -/
lemma exists_importing {items : List Item} {i : ℕ}
    (hi : i < (items.flatMap Item.bindings).length) :
    ∃ before span source bindings after j b,
      items = before ++ .importing span source bindings :: after ∧ bindings[j]? = some b
        ∧ i = (before.flatMap Item.bindings).length + j
        ∧ (items.flatMap Item.bindings)[i]? = some b := by
  induction items generalizing i with
  | nil => exact absurd hi (Nat.not_lt_zero i)
  | cons item rest ih =>
      by_cases hown : i < item.bindings.length
      · have hget : item.bindings[i]? = some item.bindings[i] := List.getElem?_eq_getElem hown
        have hall : ((item :: rest).flatMap Item.bindings)[i]? = some item.bindings[i] := by
          rw [List.flatMap_cons, List.getElem?_append_left hown, hget]
        cases item with
        | importing s source bindings =>
            exact ⟨[], s, source, bindings, rest, i, _, rfl, hget, by simp, hall⟩
        | _ => exact absurd hown (Nat.not_lt_zero i)
      · have hown := Nat.le_of_not_lt hown
        rw [List.flatMap_cons, List.length_append] at hi
        obtain ⟨before, s, source, bindings, after, j, b, rfl, hj, hi', hall⟩ :=
          ih (i := i - item.bindings.length) (by omega)
        refine ⟨item :: before, s, source, bindings, after, j, b, rfl, hj, ?_, ?_⟩
        · rw [List.flatMap_cons, List.length_append]
          omega
        · rw [List.flatMap_cons, List.getElem?_append_right hown, hall]

/-- **Every imported name has its expression.** -/
theorem reads_of_bindings (r : Resolution) {items : List Item} {i : ℕ}
    (hi : i < (items.flatMap Item.bindings).length) :
    ∃ b value, (items.flatMap Item.bindings)[i]? = some b
      ∧ (ofItems r items).accesses[i]? = some value ∧ (ofItems r items).Reads items i b value := by
  obtain ⟨before, s, source, bindings, after, j, b, rfl, hj, rfl, hall⟩ := exists_importing hi
  obtain ⟨-, accesses, -, haccesses⟩ :=
    exists_foldl_addItem after ((upTo before).addItem (.importing s source bindings))
  obtain ⟨-, hread⟩ := length_upTo before
  have hitems : (before ++ .importing s source bindings :: after).foldl addItem empty
      = after.foldl addItem ((upTo before).addItem (.importing s source bindings)) := by
    rw [List.foldl_append, List.foldl_cons, ← upTo]
  cases bindings with
  | nil => simp at hj
  | cons first others =>
      let v := ((upTo before).nextVariable source).1
      have hadded : ((upTo before).addItem (.importing s source (first :: others))).accesses
          = (upTo before).accesses ++ (first :: others).map fun b => readPart v b.part := rfl
      have hjlt : j < (first :: others).length := (List.getElem?_eq_some_iff.1 hj).1
      refine ⟨b, readPart v b.part, hall, ?_,
        before, s, source, _, after, j, v, rfl, hj, rfl, request_of_split r rfl, rfl⟩
      change ((before ++ .importing s source (first :: others) :: after).foldl addItem
        empty).accesses[_]? = _
      rw [hitems, haccesses, hadded, List.append_assoc, ← hread,
        List.getElem?_append_right (by omega), Nat.add_sub_cancel_left,
        List.getElem?_append_left (by simpa using hjlt), List.getElem?_map, hj, Option.map_some]

/-! ## Variables -/

variable {r : Resolution} {v : Variable}

/-- **The last import of a variable counts.** -/
theorem access?_of_mem (hlength : l.accesses.length = r.imports.length) (hv : v ∈ r.imports) :
    ∃ i : ℕ, r.imports[i]? = some v ∧ (∀ j, i < j → r.imports[j]? ≠ some v)
      ∧ l.access? r v = l.accesses[i]? := by
  have himports : r.imports = (r.imports.zip l.accesses).map Prod.fst :=
    (List.map_fst_zip hlength.ge).symm
  have haccesses : l.accesses = (r.imports.zip l.accesses).map Prod.snd :=
    (List.map_snd_zip hlength.le).symm
  cases hlookup : l.access? r v with
  | none =>
      rw [himports] at hv
      obtain ⟨e, he, rfl⟩ := List.mem_map.1 hv
      have hne := List.lookup_eq_none_iff.1 hlookup e (List.mem_reverse.2 he)
      simp at hne
  | some value =>
      obtain ⟨after, before, hsplit, hafter⟩ := List.lookup_eq_some_iff.1 hlookup
      have hzip : r.imports.zip l.accesses = before.reverse ++ (v, value) :: after.reverse := by
        rw [← List.reverse_reverse (r.imports.zip l.accesses), hsplit]
        simp
      have hi : before.length = (before.reverse.map Prod.fst).length := by simp
      refine ⟨before.length, ?_, fun j hj hget => ?_, ?_⟩
      · rw [himports, hzip, List.map_append, hi, List.getElem?_append_right le_rfl, Nat.sub_self]
        rfl
      · rw [himports, hzip, List.map_append, List.getElem?_append_right (hi ▸ hj.le), ← hi] at hget
        obtain ⟨n, hn⟩ := Nat.exists_eq_add_of_lt hj
        rw [hn, Nat.add_assoc, Nat.add_sub_cancel_left, List.map_cons,
          List.getElem?_cons_succ] at hget
        obtain ⟨e, he, rfl⟩ := List.mem_map.1 (List.mem_of_getElem? hget)
        have hne := hafter e (List.mem_reverse.1 he)
        simp at hne
      · rw [haccesses, hzip, List.map_append,
          List.getElem?_append_right (by simp), List.length_map, List.length_reverse, Nat.sub_self]
        rfl

lemma access?_eq_none (hv : v ∉ r.imports) : l.access? r v = none := by
  rw [access?, List.lookup_eq_none_iff]
  intro e he
  have hmem := (List.of_mem_zip (List.mem_reverse.1 he)).1
  simp only [bne_iff_ne]
  rintro rfl
  exact hv hmem

end Linkage

end ModuleBundler.Script
