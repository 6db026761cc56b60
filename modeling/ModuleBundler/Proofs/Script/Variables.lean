import Mathlib.Data.List.Induction
import Mathlib.Data.List.Nodup
import ModuleBundler.Proofs.OrderedMap
import ModuleBundler.Proofs.Script.Accesses
import ModuleBundler.Script.Comparison
import ModuleBundler.Script.Compile

/-!
# The variables for other modules

A module that something is read of is kept in a variable, which is named after the module.

**Numbers.**  Of several modules with one plain name, the first variable has no number and the later
ones are numbered from one (`numbered`).  So a variable is determined by the plain name and by how
many modules with this name were kept before (`numbering`), and every request keeps its module in
the variable that these two give (`Numbered.upTo`).

**Clashes.**  A number stands behind a `$`, and a plain name may have a `$` of its own.  Two
variables are the same only in this way: one of them is the numbered variable of a name, and the
other one has no number and is named after a module whose plain name is that name, the `$` and the
number (`numbered_eq_iff`).

**What a variable holds.**  When all requests have been made, a variable holds the last module that
was kept in it (`holds`).
-/

namespace ModuleBundler.Script

/-- The variable of a request, along with the module that is kept in it. -/
def Request.kept? (q : Request) : Option (String × String) :=
  q.variableName?.map fun v => (v, q.source)

/-- The module that an item reads something of. -/
def Item.keptSource? : Item → Option String
  | .importing _ _ [] => none
  | .importing _ source _ => some source
  | .reexport _ source _ => some source
  | .reexportAll _ source _ => some source
  | _ => none

namespace Linkage

/-- The variables of a script, each with a module that is kept in it. -/
def kept (l : Linkage) : List (String × String) := l.requests.filterMap Request.kept?

/-- The module that a variable holds in the end. -/
def holds (l : Linkage) (v : String) : Option String := (OrderedMap.ofList l.kept).get? v

/-- The variable for a module with the given plain name, when so many modules of that name were kept
    before. -/
def numbered (name : String) : ℕ → String
  | 0 => "__" ++ name
  | n + 1 => "__" ++ name ++ "$" ++ toString (n + 1)

/-- **The modules with their numbers**: how many of the earlier ones have the same plain name. -/
def numbering (sources : List String) : List (String × ℕ) :=
  sources.mapIdx fun i source => (source, ((sources.take i).map plainName).count (plainName source))

/-! ## Numbers -/

/-- A source is numbered by how many before it have its plain name. -/
lemma numbering_concat (sources : List String) (source : String) :
    numbering (sources ++ [source])
      = numbering sources ++ [(source, (sources.map plainName).count (plainName source))] := by
  rw [numbering, List.mapIdx_concat, List.take_left]
  congr 1
  refine List.mapIdx_eq_mapIdx_iff.2 fun i hi => ?_
  rw [List.take_append_of_le_length (Nat.le_of_lt hi)]

/-- A name has the numbers below the number of modules that are called so. -/
lemma exists_mem_numbering_iff (sources : List String) (name : String) (n : ℕ) :
    (∃ source, (source, n) ∈ numbering sources ∧ plainName source = name)
      ↔ n < (sources.map plainName).count name := by
  induction sources using List.reverseRecOn with
  | nil => simp [numbering]
  | append_singleton sources last ih =>
      simp only [numbering_concat, List.mem_append, List.mem_singleton, Prod.mk.injEq, or_and_right,
        exists_or, ih, List.map_append, List.map_singleton, List.count_append, List.count_singleton]
      by_cases hlast : plainName last = name
      · subst hlast
        simp
        omega
      · simp [hlast]

/-- No two sources have the same plain name and the same number. -/
lemma nodup_numbering (sources : List String) :
    ((numbering sources).map fun p => (plainName p.1, p.2)).Nodup := by
  induction sources using List.reverseRecOn with
  | nil => exact List.nodup_nil
  | append_singleton sources last ih =>
      rw [numbering_concat, List.map_append, List.map_singleton]
      refine ih.append (List.nodup_singleton _) (List.disjoint_singleton.2 fun hmem => ?_)
      obtain ⟨p, hp, heq⟩ := List.mem_map.1 hmem
      obtain ⟨hname, hnumber⟩ := Prod.mk.inj heq
      have hlt := (exists_mem_numbering_iff sources (plainName last) p.2).1 ⟨p.1, hp, hname⟩
      exact absurd hnumber (Nat.ne_of_lt hlt)

/-! ## Clashes -/

lemma dollar_notMem_toString (n : ℕ) : '$' ∉ (toString n).toList := by
  rw [Nat.toString_eq_ofList_toDigits, String.toList_ofList]
  intro h
  have hdigit := Nat.isDigit_of_mem_toDigits (by decide) (by decide) h
  revert hdigit
  decide

lemma toString_injective {m n : ℕ} (h : toString m = toString n) : m = n := by
  rw [Nat.toString_eq_ofList_toDigits, Nat.toString_eq_ofList_toDigits] at h
  have hdigits := congrArg (fun s : String => Nat.ofDigitChars 10 s.toList 0) h
  simpa [Nat.ofDigitChars_toDigits] using hdigits

/-- The last `$` of a text that ends with a number is the one in front of the number. -/
lemma append_number_inj {x y : String} {m n : ℕ}
    (h : x ++ "$" ++ toString m = y ++ "$" ++ toString n) : x = y ∧ m = n := by
  have hother (k : ℕ) : ∀ c ∈ (toString k).toList.reverse, decide (c ≠ '$') = true := by
    intro c hc
    rw [decide_eq_true_iff]
    rintro rfl
    exact dollar_notMem_toString k (List.mem_reverse.1 hc)
  have hchars : (toString m).toList.reverse ++ '$' :: x.toList.reverse
      = (toString n).toList.reverse ++ '$' :: y.toList.reverse := by
    have hreverse := congrArg (fun s => s.toList.reverse) h
    simpa only [String.toList_append, List.reverse_append, String.reduceToList,
      List.reverse_singleton, List.singleton_append] using hreverse
  have hnumber : (toString m).toList.reverse = (toString n).toList.reverse := by
    have hends := congrArg (List.takeWhile fun c => decide (c ≠ '$')) hchars
    rw [List.takeWhile_append_of_pos (hother m), List.takeWhile_append_of_pos (hother n)] at hends
    simpa using hends
  rw [hnumber, List.append_cancel_left_eq, List.cons.injEq] at hchars
  exact ⟨String.toList_injective (List.reverse_injective hchars.2),
    toString_injective (String.toList_injective (List.reverse_injective hnumber))⟩

/-- **When two variables are the same.** -/
theorem numbered_eq_iff (x y : String) (m n : ℕ) :
    numbered x m = numbered y n ↔
      x = y ∧ m = n ∨ m = 0 ∧ 0 < n ∧ x = y ++ "$" ++ toString n
        ∨ n = 0 ∧ 0 < m ∧ y = x ++ "$" ++ toString m := by
  cases m with
  | zero => cases n <;> simp [numbered, String.append_assoc]
  | succ m =>
      cases n with
      | zero => simp [numbered, String.append_assoc, eq_comm]
      | succ n =>
          have hsame : numbered x (m + 1) = numbered y (n + 1) ↔ x = y ∧ m = n := by
            constructor
            · intro h
              obtain ⟨hname, hnumber⟩ := append_number_inj h
              simpa using And.intro hname hnumber
            · rintro ⟨rfl, rfl⟩
              rfl
          simp [hsame]

lemma ne_append_number (name : String) (n : ℕ) : name ≠ name ++ "$" ++ toString n := by
  intro h
  have hlength := congrArg String.length h
  rw [String.length_append, String.length_append] at hlength
  have hdollar : "$".length = 1 := rfl
  omega

/-! ## The variables of a script -/

/-- The variables for modules that are kept one after the other, each with its module. -/
def storage (sources : List String) : List (String × String) :=
  (numbering sources).map fun p => (numbered (plainName p.1) p.2, p.1)

lemma storage_concat (sources : List String) (source : String) :
    storage (sources ++ [source])
      = storage sources
        ++ [(numbered (plainName source) ((sources.map plainName).count (plainName source)),
          source)] := by
  rw [storage, numbering_concat, List.map_append, List.map_singleton, ← storage]

lemma map_snd_storage (sources : List String) : (storage sources).map Prod.snd = sources := by
  induction sources using List.reverseRecOn with
  | nil => rfl
  | append_singleton sources last ih =>
      rw [storage_concat, List.map_append, ih, List.map_singleton]

/-- **What the requests keep** after some modules, and what is noted for the next ones. -/
structure Numbered (l : Linkage) (sources : List String) : Prop where
  kept : l.kept = storage sources
  wanted : ∀ name, l.wanted.get? name
    = if (sources.map plainName).count name = 0 then none
      else some ((sources.map plainName).count name - 1)

namespace Numbered

variable {l : Linkage} {sources : List String}

lemma nextVariable (h : Numbered l sources) (source : String) :
    l.nextVariable source
      = (numbered (plainName source) ((sources.map plainName).count (plainName source)),
        (sources.map plainName).count (plainName source)) := by
  rw [Linkage.nextVariable, h.wanted]
  cases (sources.map plainName).count (plainName source) with
  | zero => rfl
  | succ n => rfl

lemma request (h : Numbered l sources) (source : String) (make : String → String → Request)
    (hmake : ∀ v, (make v source).kept? = some (v, source)) :
    Numbered (l.request source make) (sources ++ [source]) where
  kept := by
    rw [storage_concat, ← h.kept, Linkage.kept, Linkage.request, h.nextVariable]
    simp [Linkage.kept, hmake]
  wanted name := by
    have hinsert : (l.request source make).wanted.get? name
        = if plainName source = name then some (l.nextVariable source).2
          else l.wanted.get? name := OrderedMap.get?_insert _ _ _ _
    rw [hinsert, h.nextVariable, h.wanted, List.map_append, List.map_singleton, List.count_append,
      List.count_singleton]
    by_cases hname : plainName source = name
    · simp [hname]
    · simp [hname]

/-- An item keeps the numbering, whether or not it keeps what it requires. -/
lemma addItem (h : Numbered l sources) (item : Item) :
    Numbered (l.addItem item) (sources ++ item.keptSource?.toList) := by
  have hstill : Numbered l (sources ++ []) := (List.append_nil sources).symm ▸ h
  cases item with
  | importing s source bindings =>
      cases bindings with
      | nil =>
          have hkept : (l.addItem (.importing s source [])).kept = l.kept ++ [] :=
            List.filterMap_append
          rw [List.append_nil] at hkept
          exact ⟨hkept.trans hstill.kept, hstill.wanted⟩
      | cons b bs =>
          have hrequest := h.request source .keep fun _ => rfl
          exact ⟨hrequest.kept, hrequest.wanted⟩
  | reexport s source names =>
      have hrequest := h.request source .keep fun _ => rfl
      exact ⟨hrequest.kept, hrequest.wanted⟩
  | reexportAll s source outside =>
      cases outside with
      | none => exact h.request source .showAll fun _ => rfl
      | some name =>
          have hrequest := h.request source .keep fun _ => rfl
          exact ⟨hrequest.kept, hrequest.wanted⟩
  | _ => exact ⟨hstill.kept, hstill.wanted⟩

lemma upTo (items : List Item) :
    Numbered (Linkage.upTo items) (items.filterMap Item.keptSource?) := by
  induction items using List.reverseRecOn with
  | nil => exact ⟨rfl, fun name => rfl⟩
  | append_singleton items item ih =>
      have hadded := ih.addItem item
      rw [List.filterMap_append]
      have hone : [item].filterMap Item.keptSource? = item.keptSource?.toList := by
        cases hsource : item.keptSource? <;> simp [hsource]
      rw [hone, Linkage.upTo, List.foldl_append]
      exact hadded

end Numbered

/-- **Which variables a script has**, and what is kept in them. -/
theorem kept_ofItems (r : Resolution) (items : List Item) :
    (ofItems r items).kept = storage (items.filterMap Item.keptSource?) :=
  (Numbered.upTo items).kept

/-- Different requests are different in their variables or in their modules. -/
lemma nodup_storage (sources : List String) : (storage sources).Nodup := by
  refine List.Nodup.map_on (fun p hp q hq heq => ?_) (List.Nodup.of_map _ (nodup_numbering sources))
  obtain ⟨hvariable, hsource⟩ := Prod.mk.inj heq
  rw [hsource] at hvariable
  rcases (numbered_eq_iff _ _ _ _).1 hvariable with ⟨-, hnumber⟩ | ⟨-, -, hname⟩ | ⟨-, -, hname⟩
  · exact Prod.ext hsource hnumber
  · exact absurd hname (ne_append_number _ _)
  · exact absurd hname (ne_append_number _ _)

/-- **When variables clash**: a name that is wanted again meets a module that is called like its
    numbered variable. -/
theorem nodup_fst_storage_iff (sources : List String) :
    ((storage sources).map Prod.fst).Nodup
      ↔ ∀ name n, 0 < n → n < (sources.map plainName).count name →
          name ++ "$" ++ toString n ∉ sources.map plainName := by
  rw [List.nodup_map_iff_inj_on (nodup_storage sources)]
  constructor
  · intro hinj name n hpos hn hmem
    obtain ⟨s, hs, rfl⟩ := (exists_mem_numbering_iff sources name n).2 hn
    obtain ⟨t, ht, hname⟩ := (exists_mem_numbering_iff sources _ 0).2 (List.count_pos_iff.2 hmem)
    have hsame : numbered (plainName t) 0 = numbered (plainName s) n :=
      (numbered_eq_iff _ _ _ _).2 (.inr (.inl ⟨rfl, hpos, hname⟩))
    have heq := hinj _ (List.mem_map_of_mem ht) _ (List.mem_map_of_mem hs) hsame
    have hsource : t = s := (Prod.mk.inj heq).2
    rw [hsource] at hname
    exact ne_append_number _ _ hname
  · intro hapart x hx y hy heq
    obtain ⟨p, hp, rfl⟩ := List.mem_map.1 hx
    obtain ⟨q, hq, rfl⟩ := List.mem_map.1 hy
    have hplain {p : String × ℕ} (hp : p ∈ numbering sources) :
        p.2 < (sources.map plainName).count (plainName p.1) :=
      (exists_mem_numbering_iff sources _ _).1 ⟨p.1, hp, rfl⟩
    have hmem {p : String × ℕ} (hp : p ∈ numbering sources) :
        plainName p.1 ∈ sources.map plainName :=
      List.count_pos_iff.1 (Nat.zero_lt_of_lt (hplain hp))
    rcases (numbered_eq_iff _ _ _ _).1 heq with hsame | ⟨-, hpos, hname⟩ | ⟨-, hpos, hname⟩
    · rw [List.inj_on_of_nodup_map (nodup_numbering sources) hp hq (Prod.ext hsame.1 hsame.2)]
    · exact absurd (hname ▸ hmem hp) (hapart _ _ hpos (hplain hq))
    · exact absurd (hname ▸ hmem hq) (hapart _ _ hpos (hplain hp))

lemma map_fst_kept (l : Linkage) :
    l.kept.map Prod.fst = l.requests.filterMap Request.variableName? := by
  rw [kept, List.map_filterMap]
  refine List.filterMap_congr fun q _ => ?_
  cases hv : q.variableName? <;> simp [Request.kept?, hv]

/-- Different variables hold what is kept in them. -/
lemma holds_of_nodup {l : Linkage} (h : (l.kept.map Prod.fst).Nodup) {v source : String}
    (hkept : (v, source) ∈ l.kept) : l.holds v = some source := by
  rw [holds, OrderedMap.get?_eq_some_iff_mem, OrderedMap.toList_ofList h]
  exact hkept

lemma getElem?_storage (sources : List String) {i : ℕ} {name : String}
    (h : (sources.map plainName)[i]? = some name) :
    ((storage sources).map Prod.fst)[i]?
      = some (numbered name (((sources.map plainName).take i).count name)) := by
  rw [List.getElem?_map, Option.map_eq_some_iff] at h
  obtain ⟨source, hsource, rfl⟩ := h
  simp [storage, numbering, hsource, List.map_take]

/-- **The variables of a script.**  Every request for a module that something is read of has a
    variable, which is named after the module and numbered by the earlier ones of that name.  These
    variables are pairwise distinct exactly if no name that is wanted again meets a module that is
    called like its numbered variable, and exactly if each of them holds in the end the module that
    was kept in it; so they are if no module has a `$` in its name.  Then each imported name is read
    from a variable that holds the module its import names. -/
theorem variables_ofItems (r : Resolution) (items : List Item) :
    let l := ofItems r items
    let sources := items.filterMap Item.keptSource?
    let names := sources.map plainName
    let vs := l.requests.filterMap Request.variableName?
    l.kept.map Prod.snd = sources
      ∧ vs.length = names.length
      ∧ (∀ i name, names[i]? = some name →
          vs[i]? = some (numbered name ((names.take i).count name)))
      ∧ (vs.Nodup ↔ ∀ name n, 0 < n → n < names.count name → name ++ "$" ++ toString n ∉ names)
      ∧ (vs.Nodup ↔ ∀ v source, (v, source) ∈ l.kept → l.holds v = some source)
      ∧ ((∀ name ∈ names, '$' ∉ name.toList) → vs.Nodup)
      ∧ (vs.Nodup → ∀ i < (items.flatMap Item.bindings).length,
          ∃ before span source bindings after j b v,
            items = before ++ .importing span source bindings :: after ∧ bindings[j]? = some b
              ∧ i = (before.flatMap Item.bindings).length + j
              ∧ l.accesses[i]? = some (readPart v b.part) ∧ l.holds v = some source) := by
  intro l sources names vs
  have hkept : l.kept = storage sources := kept_ofItems r items
  have hvs : l.kept.map Prod.fst = vs := map_fst_kept l
  have hclash : vs.Nodup
      ↔ ∀ name n, 0 < n → n < names.count name → name ++ "$" ++ toString n ∉ names := by
    rw [← hvs, hkept]
    exact nodup_fst_storage_iff sources
  have hholds (hnodup : vs.Nodup) {v source : String} (hmem : (v, source) ∈ l.kept) :
      l.holds v = some source := holds_of_nodup (hvs ▸ hnodup) hmem
  refine ⟨?_, ?_, fun i name hname => ?_, hclash, ⟨fun hnodup v source => hholds hnodup, ?_⟩,
    ?_, ?_⟩
  · rw [hkept, map_snd_storage]
  · rw [← hvs, List.length_map, hkept, ← List.length_map, map_snd_storage, List.length_map]
  · rw [← hvs, hkept]
    exact getElem?_storage sources hname
  · intro hall
    rw [← hvs, hkept, List.nodup_map_iff_inj_on (nodup_storage sources), ← hkept]
    intro x hx y hy heq
    have hsame := (hall x.1 x.2 hx).symm.trans (heq ▸ hall y.1 y.2 hy)
    exact Prod.ext heq (Option.some.inj hsame)
  · intro hplain
    refine hclash.2 fun name n hpos hn hmem => hplain _ hmem ?_
    simp
  · intro hnodup i hi
    obtain ⟨b, value, -, hvalue, before, span, source, bindings, after, j, v, hitems, hb, hindex,
      hrequest, rfl⟩ := reads_of_bindings r hi
    have hmem : (v, source) ∈ l.kept := by
      refine List.mem_filterMap.2 ⟨_, List.mem_of_getElem? hrequest, rfl⟩
    exact ⟨before, span, source, bindings, after, j, b, v, hitems, hb, hindex, hvalue,
      hholds hnodup hmem⟩

end Linkage

/-- A script that imports a module twice, and then one that is called like the first with a
    number. -/
def clashingText : String :=
  "import \x7b a \x7d from \"./a\"; import \x7b b \x7d from \"./a\"; "
    ++ "import \x7b c \x7d from \"./a$1\"; b;"

/-- A script whose imports come to two variables of one name. -/
def clashingScript : Program :=
  ⟨none, [.importing ⟨0, 24⟩ "./a" [⟨"a", .named "a"⟩],
    .importing ⟨25, 49⟩ "./a" [⟨"b", .named "b"⟩],
    .importing ⟨50, 76⟩ "./a$1" [⟨"c", .named "c"⟩],
    .statement (.node (.use "b") ⟨77, 78⟩ [])]⟩

/-- **Two imports share a variable.**  The use of `b`, which is imported from `./a`, becomes a read
    of a variable that holds `./a$1` by then. -/
theorem variables_clash :
    (Program.read clashingText.toList).toOption = some clashingScript
      ∧ clashingScript.items.any Item.beginsInside = false
      ∧ (let r := Resolution.ofItems clashingScript.items
        let l := Linkage.ofItems r clashingScript.items
        l.requests.filterMap Request.variableName? = ["__a", "__a$1", "__a$1"]
          ∧ l.useEdits r = [.replace ⟨77, 78⟩ "__a$1.b"]
          ∧ ("__a$1", "./a") ∈ l.kept ∧ l.holds "__a$1" = some "./a$1") := by
  refine ⟨by decide +kernel, by decide +kernel, by decide +kernel, by decide +kernel,
    by decide +kernel, by decide +kernel⟩

end ModuleBundler.Script
