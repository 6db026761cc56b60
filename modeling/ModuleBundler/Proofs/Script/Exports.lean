import Mathlib.Algebra.Order.Group.Multiset
import Mathlib.Tactic.Abel
import ModuleBundler.Proofs.Script.Parsing
import ModuleBundler.Proofs.Script.Places
import ModuleBundler.Proofs.Script.Prelude

/-!
# What a script exports

**Names.**  What a script exports one by one is a relation between its items, names and what these
stand for (`Item.Exports`).  A declaration exports what it declares, and variables are declared by
patterns, which bind names however deep inside them (`Node.Binds`).

**Getters.**  The lines in front of a script define a getter for each of these names, except for a
default export that declares nothing, which is assigned (`perm_exportedNames`).  What a getter gives
is the variable of a declaration, a part of another module, or what the name stands for at the top
of the script, which may be an import in front of the export or behind it (`exports_of_read`).

**Exports inside statements** are read, but have no getters (`exports_nested`).
-/

namespace ModuleBundler.Script

/-! ## Declared names -/

/-- **A name that a pattern binds**: as a whole, or in one of its parts. -/
inductive Node.Binds (name : String) : Node → Prop where
  | binder (span : Span) (cs : List Node) : Binds name (.node (.binder name) span cs)
  | element (span : Span) {cs : List Node} {n : Node} (hn : n ∈ cs) (h : n.Binds name) :
      Binds name (.node .pattern span cs)
  | rest (span : Span) {cs : List Node} {n : Node} (hn : n ∈ cs) (h : n.Binds name) :
      Binds name (.node .rest span cs)
  | parameter (span : Span) {cs : List Node} {n : Node} (hn : n ∈ cs) (h : n.Binds name) :
      Binds name (.node .parameters span cs)
  | declaration (hoisted : Bool) (span : Span) {cs : List Node} {n : Node} (hn : n ∈ cs)
      (h : n.Binds name) : Binds name (.node (.declaration hoisted) span cs)
  /-- Behind a key. -/
  | keyed (span : Span) (keys : List Node) {n : Node} (h : n.Binds name) :
      Binds name (.node .keyed span (keys ++ [n]))
  /-- In front of a value by default. -/
  | fallback (span : Span) (value : List Node) {n : Node} (h : n.Binds name) :
      Binds name (.node .fallback span (n :: value))
  /-- In front of a value. -/
  | declarator (span : Span) (value : List Node) {n : Node} (h : n.Binds name) :
      Binds name (.node .declarator span (n :: value))

lemma mem_bindersOfAll {name : String} {n : Node} {ns : List Node} (hn : n ∈ ns)
    (h : name ∈ n.binders) : name ∈ bindersOfAll ns := by
  induction ns with
  | nil => cases hn
  | cons first rest ih =>
      rw [bindersOfAll, List.mem_append]
      rcases List.mem_cons.1 hn with rfl | hn
      · exact .inl h
      · exact .inr (ih hn)

lemma bindersOfLast_concat (keys : List Node) (n : Node) :
    bindersOfLast (keys ++ [n]) = n.binders := by
  induction keys with
  | nil => rfl
  | cons key keys ih =>
      rw [List.cons_append, bindersOfLast, ih]
      simp

/-- The names in the list of a pattern are bound by it. -/
lemma binds_of_mem_binders :
    (∀ n : Node, ∀ name ∈ n.binders, n.Binds name)
      ∧ (∀ ns : List Node, ∀ name ∈ bindersOfFirst ns, ∃ n rest, ns = n :: rest ∧ n.Binds name)
      ∧ (∀ ns : List Node, ∀ name ∈ bindersOfLast ns, ∃ keys n, ns = keys ++ [n] ∧ n.Binds name)
      ∧ ∀ ns : List Node, ∀ name ∈ bindersOfAll ns, ∃ n ∈ ns, n.Binds name := by
  refine Node.binders.mutual_induct_unfolding (fun n names => ∀ name ∈ names, n.Binds name)
    (fun ns names => ∀ name ∈ names, ∃ n rest, ns = n :: rest ∧ n.Binds name)
    (fun ns names => ∀ name ∈ names, ∃ keys n, ns = keys ++ [n] ∧ n.Binds name)
    (fun ns names => ∀ name ∈ names, ∃ n ∈ ns, n.Binds name)
    ?binder ?pattern ?rest ?parameters ?declaration ?keyed ?fallback ?declarator ?other
    ?noFirst ?first ?noLast ?last ?earlier ?nil ?cons
  case binder =>
    intro own span cs name hname
    rw [List.mem_singleton.1 hname]
    exact .binder span cs
  case pattern =>
    intro span cs ih name hname
    obtain ⟨n, hn, h⟩ := ih name hname
    exact .element span hn h
  case rest =>
    intro span cs ih name hname
    obtain ⟨n, hn, h⟩ := ih name hname
    exact .rest span hn h
  case parameters =>
    intro span cs ih name hname
    obtain ⟨n, hn, h⟩ := ih name hname
    exact .parameter span hn h
  case declaration =>
    intro hoisted span cs ih name hname
    obtain ⟨n, hn, h⟩ := ih name hname
    exact .declaration hoisted span hn h
  case keyed =>
    intro span cs ih name hname
    obtain ⟨keys, n, rfl, h⟩ := ih name hname
    exact .keyed span keys h
  case fallback =>
    intro span cs ih name hname
    obtain ⟨n, value, rfl, h⟩ := ih name hname
    exact .fallback span value h
  case declarator =>
    intro span cs ih name hname
    obtain ⟨n, value, rfl, h⟩ := ih name hname
    exact .declarator span value h
  case other => intro n _ _ _ _ _ _ _ _; exact List.forall_mem_nil _
  case noFirst => exact List.forall_mem_nil _
  case first => exact fun n rest ih name hname => ⟨n, rest, rfl, ih name hname⟩
  case noLast => exact List.forall_mem_nil _
  case last => exact fun n ih name hname => ⟨[], n, rfl, ih name hname⟩
  case earlier =>
    intro key rest hrest ih name hname
    rw [bindersOfLast] at hname
    · obtain ⟨keys, n, rfl, h⟩ := ih name hname
      exact ⟨key :: keys, n, rfl, h⟩
    · exact hrest
  case nil => exact List.forall_mem_nil _
  case cons =>
    intro n rest ihn ihrest name hname
    rcases List.mem_append.1 hname with hname | hname
    · exact ⟨n, List.mem_cons_self, ihn name hname⟩
    · obtain ⟨n', hn', h⟩ := ihrest name hname
      exact ⟨n', List.mem_cons_of_mem _ hn', h⟩

/-- **The names that a pattern binds** are those in its list of names. -/
theorem Node.mem_binders_iff {name : String} {n : Node} : name ∈ n.binders ↔ n.Binds name := by
  refine ⟨binds_of_mem_binders.1 n name, fun h => ?_⟩
  induction h with
  | binder span cs => exact List.mem_singleton_self name
  | element span hn _ ih => exact mem_bindersOfAll hn ih
  | rest span hn _ ih => exact mem_bindersOfAll hn ih
  | parameter span hn _ ih => exact mem_bindersOfAll hn ih
  | declaration hoisted span hn _ ih => exact mem_bindersOfAll hn ih
  | keyed span keys _ ih => rwa [binders, bindersOfLast_concat]
  | fallback span value _ ih => exact ih
  | declarator span value _ ih => exact ih

/-- **What a declaration declares**: the names that its variables bind, or the name of the function
    or class. -/
inductive Node.Declares (name : String) : Node → Prop where
  | ofPattern {hoisted : Bool} {span : Span} {cs : List Node}
      (h : Binds name (.node (.declaration hoisted) span cs)) :
      Declares name (.node (.declaration hoisted) span cs)
  | ofFunction (span : Span) (cs : List Node) :
      Declares name (.node (.functionDeclaration (some name)) span cs)
  | ofClass (span : Span) (cs : List Node) :
      Declares name (.node (.classDeclaration (some name)) span cs)

/-- **The names that are collected are the declared ones.** -/
theorem Node.mem_declaredNames_iff {name : String} {n : Node} :
    name ∈ n.declaredNames ↔ n.Declares name := by
  obtain ⟨kind, span, cs⟩ := n
  constructor
  · intro h
    cases kind with
    | declaration hoisted => exact .ofPattern (mem_binders_iff.1 h)
    | functionDeclaration own =>
        obtain rfl := Option.mem_toList.1 h
        exact .ofFunction span cs
    | classDeclaration own =>
        obtain rfl := Option.mem_toList.1 h
        exact .ofClass span cs
    | _ => cases h
  · intro h
    cases h with
    | ofPattern h => exact mem_binders_iff.2 h
    | ofFunction => exact List.mem_singleton_self name
    | ofClass => exact List.mem_singleton_self name

/-! ## Exported names -/

/-- **What an exported name stands for.** -/
inductive Origin where
  /-- What a declaration introduces. -/
  | declared (name : String)
  /-- What a name stands for at the top of the script. -/
  | inside (name : String)
  /-- A part of another module. -/
  | other (source : String) (part : Part)
  /-- The value of a default export that declares nothing. -/
  | value
deriving DecidableEq

/-- **What an item exports**, name by name. -/
inductive Item.Exports : Item → String → Origin → Prop where
  | declaration (span : Span) {d : Node} {name : String} (h : d.Declares name) :
      Exports (.exportDeclaration span d) name (.declared name)
  | exposure (span : Span) {names : List Exposure} {e : Exposure} (he : e ∈ names) :
      Exports (.exportNames span names) e.outside (.inside e.inside)
  | reexport (span : Span) (source : String) {names : List Exposure} {e : Exposure}
      (he : e ∈ names) :
      Exports (.reexport span source names) e.outside (.other source (.named e.inside))
  | whole (span : Span) (source name : String) :
      Exports (.reexportAll span source (some name)) name (.other source .whole)
  | defaultDeclaration (span : Span) {v : Node} {name : String} (h : v.Declares name) :
      Exports (.exportDefault span v) "default" (.declared name)
  | defaultValue (span : Span) {v : Node} (h : ∀ name, ¬ v.Declares name) :
      Exports (.exportDefault span v) "default" .value

lemma declaredNames_eq_nil_iff {n : Node} : n.declaredNames = [] ↔ ∀ name, ¬ n.Declares name := by
  rw [List.eq_nil_iff_forall_not_mem]
  exact forall_congr' fun name => not_congr Node.mem_declaredNames_iff

/-- **The names that an item exports** are those in its list of names. -/
theorem Item.mem_exportedNames_iff {item : Item} {name : String} :
    name ∈ item.exportedNames ↔ ∃ origin, item.Exports name origin := by
  constructor
  · intro h
    cases item with
    | importing span source bindings => cases h
    | reexport span source names =>
        obtain ⟨e, he, rfl⟩ := List.mem_map.1 h
        exact ⟨_, .reexport span source he⟩
    | reexportAll span source outside =>
        obtain rfl := Option.mem_toList.1 h
        exact ⟨_, .whole span source name⟩
    | exportNames span names =>
        obtain ⟨e, he, rfl⟩ := List.mem_map.1 h
        exact ⟨_, .exposure span he⟩
    | exportDeclaration span d => exact ⟨_, .declaration span (Node.mem_declaredNames_iff.1 h)⟩
    | exportDefault span v =>
        obtain rfl := List.mem_singleton.1 h
        by_cases hv : ∃ own, v.Declares own
        · obtain ⟨own, hown⟩ := hv
          exact ⟨_, .defaultDeclaration span hown⟩
        · exact ⟨_, .defaultValue span (not_exists.1 hv)⟩
    | statement n => cases h
  · rintro ⟨origin, h⟩
    cases h with
    | declaration span h => exact Node.mem_declaredNames_iff.2 h
    | exposure span he => exact List.mem_map_of_mem he
    | reexport span source he => exact List.mem_map_of_mem he
    | whole span source name => exact List.mem_singleton_self name
    | defaultDeclaration span h => exact List.mem_singleton_self _
    | defaultValue span h => exact List.mem_singleton_self _

/-! ## Getters -/

namespace Item

/-- The getters that an item adds to a linkage at once. -/
def shown (l : Linkage) : Item → List Getter
  | .reexport _ source names =>
      names.map fun e =>
        ⟨e.outside, Linkage.readPart (l.nextVariable source).1 (.named e.inside)⟩
  | .reexportAll _ source (some outside) =>
      [⟨outside, Linkage.readPart (l.nextVariable source).1 .whole⟩]
  | .exportDeclaration _ d => d.declaredNames.map fun name => ⟨name, name⟩
  | .exportDefault _ v => v.declaredNames.map fun name => ⟨"default", name⟩
  | _ => []

/-- The names whose getters are settled at the end. -/
def exposed : Item → List Exposure
  | .exportNames _ names => names
  | _ => []

/-- **The names that an item assigns**: the default, if its value declares nothing. -/
def assigned : Item → List String
  | .exportDefault _ v => if v.declaredNames.isEmpty then ["default"] else []
  | _ => []

/-- The only name that is assigned is that of a default value. -/
lemma mem_assigned_iff {item : Item} {name : String} :
    name ∈ item.assigned ↔ name = "default" ∧ item.Exports name .value := by
  constructor
  · intro h
    cases item with
    | exportDefault span v =>
        rw [assigned] at h
        split at h
        · next hempty =>
            obtain rfl := List.mem_singleton.1 h
            exact ⟨rfl, .defaultValue span (declaredNames_eq_nil_iff.1 (List.isEmpty_iff.1 hempty))⟩
        · cases h
    | _ => cases h
  · rintro ⟨-, h⟩
    cases h with
    | defaultValue span h =>
        rw [assigned, declaredNames_eq_nil_iff.2 h]
        exact List.mem_singleton_self _

/-- Each name that an item exports is shown, left to the end or assigned. -/
lemma names_eq (l : Linkage) {item : Item} (h : Parser.Sole item) :
    (item.shown l).map Getter.outside ++ item.exposed.map Exposure.outside ++ item.assigned
      = item.exportedNames := by
  cases item with
  | importing span source bindings => rfl
  | reexport span source names => simp [shown, exposed, assigned, exportedNames]
  | reexportAll span source outside =>
      cases outside <;> rfl
  | exportNames span names => simp [shown, exposed, assigned, exportedNames]
  | exportDeclaration span d => simp [shown, exposed, assigned, exportedNames, Function.comp_def]
  | exportDefault span v =>
      have hsole : v.declaredNames.length ≤ 1 := h
      match hv : v.declaredNames with
      | [] => simp [shown, exposed, assigned, exportedNames, hv]
      | [name] => simp [shown, exposed, assigned, exportedNames, hv]
      | _ :: _ :: _ => simp [hv] at hsole
  | statement n => rfl

end Item

namespace Linkage

/-- An item adds getters for what it shows at once. -/
lemma getters_addItem (l : Linkage) (item : Item) :
    (l.addItem item).getters = l.getters ++ item.shown l := by
  cases item with
  | importing span source bindings => cases bindings <;> exact (List.append_nil _).symm
  | reexportAll span source outside =>
      cases outside with
      | none => exact (List.append_nil _).symm
      | some outside => rfl
  | exportNames span names => exact (List.append_nil _).symm
  | statement n => exact (List.append_nil _).symm
  | _ => rfl

lemma pending_addItem (l : Linkage) (item : Item) :
    (l.addItem item).pending = l.pending ++ item.exposed := by
  cases item with
  | importing span source bindings => cases bindings <;> exact (List.append_nil _).symm
  | reexportAll span source outside => cases outside <;> exact (List.append_nil _).symm
  | exportNames span names => rfl
  | _ => exact (List.append_nil _).symm

lemma upTo_concat (items : List Item) (item : Item) :
    upTo (items ++ [item]) = (upTo items).addItem item := by
  rw [upTo, List.foldl_append, List.foldl_cons, List.foldl_nil, ← upTo]

/-- **What is shown at once** comes from some item, behind those in front of it. -/
lemma exists_shown {items : List Item} {g : Getter} (h : g ∈ (upTo items).getters) :
    ∃ before item after, items = before ++ item :: after ∧ g ∈ item.shown (upTo before) := by
  induction items using List.reverseRecOn with
  | nil => cases h
  | append_singleton items item ih =>
      rw [upTo_concat, getters_addItem] at h
      rcases List.mem_append.1 h with h | h
      · obtain ⟨before, item', after, rfl, hg⟩ := ih h
        exact ⟨before, item', after ++ [item], by simp, hg⟩
      · exact ⟨items, item, [], rfl, h⟩

/-- What is left to the end comes from some item. -/
lemma exists_pending {items : List Item} {e : Exposure} (h : e ∈ (upTo items).pending) :
    ∃ item ∈ items, e ∈ item.exposed := by
  induction items using List.reverseRecOn with
  | nil => cases h
  | append_singleton items item ih =>
      rw [upTo_concat, pending_addItem] at h
      rcases List.mem_append.1 h with h | h
      · obtain ⟨item', hitem', h⟩ := ih h
        exact ⟨item', List.mem_append_left _ hitem', h⟩
      · exact ⟨item, List.mem_append_right _ (List.mem_singleton_self item), h⟩

/-- All names that items export are shown, left to the end or assigned. -/
lemma perm_upTo {items : List Item} (h : ∀ item ∈ items, Parser.Sole item) :
    ((upTo items).getters.map Getter.outside ++ (upTo items).pending.map Exposure.outside
      ++ items.flatMap Item.assigned).Perm (items.flatMap Item.exportedNames) := by
  induction items using List.reverseRecOn with
  | nil => exact .nil
  | append_singleton items item ih =>
      have hitem := Item.names_eq (upTo items) (h item (by simp))
      have hitems := ih fun i hi => h i (List.mem_append_left _ hi)
      rw [upTo_concat, getters_addItem, pending_addItem, List.flatMap_append, List.flatMap_append,
        List.flatMap_singleton, List.flatMap_singleton, ← hitem]
      refine .trans ?_ (hitems.append_right _)
      rw [← Multiset.coe_eq_coe]
      simp only [List.map_append, ← Multiset.coe_add]
      abel

/-- The getters are those of the items, in order, and then those that had to wait. -/
lemma getters_ofItems (r : Resolution) (items : List Item) :
    (ofItems r items).getters = (upTo items).getters
      ++ (upTo items).pending.map fun e => ⟨e.outside, (ofItems r items).read r e.inside⟩ := rfl

/-! ## What getters give -/

/-- **What the getter of an export gives**, for an item that stands behind some others.  A name
    inside is read like any use of an imported name at the top of the script: by the expression of
    the last import of its variable, wherever this import stands; if it is not imported, by itself.
    A part of another module is read from the variable that keeps what the item itself asks for. -/
def Shows (l : Linkage) (r : Resolution) (items before : List Item) (value : String) :
    Origin → Prop
  | .declared name => value = name
  | .inside name =>
      (∃ v i b, r.named? name = some v ∧ r.imports[i]? = some v
          ∧ (∀ j, i < j → r.imports[j]? ≠ some v) ∧ b.name = name ∧ l.Reads items i b value)
        ∨ (∀ v, r.named? name = some v → v ∉ r.imports) ∧ value = name
  | .other source part =>
      ∃ v, l.requests[(before.filterMap Item.source?).length]? = some (.keep v source)
        ∧ value = readPart v part
  | .value => False

/-- **A name at the top of a script** is read through the last import of its variable, or by
    itself. -/
lemma shows_read (items before : List Item) (name : String) :
    let r := Resolution.ofItems items
    (ofItems r items).Shows r items before ((ofItems r items).read r name) (.inside name) := by
  intro r
  have hother (h : ∀ v, r.named? name = some v → v ∉ r.imports) :
      (ofItems r items).read r name = name := by
    rw [read]
    cases hnamed : r.named? name with
    | none => rfl
    | some v => rw [Option.bind_some, access?_eq_none (h v hnamed), Option.getD_none]
  by_cases himported : ∃ v, r.named? name = some v ∧ v ∈ r.imports
  · obtain ⟨v, hnamed, hv⟩ := himported
    have hlength := (Resolution.imports_ofItems items).1
    have haccesses : (ofItems r items).accesses.length = r.imports.length :=
      (length_upTo items).2.trans hlength.symm
    obtain ⟨i, hi, hlast, haccess⟩ := access?_of_mem haccesses hv
    have hilt : i < (items.flatMap Item.bindings).length :=
      hlength ▸ (List.getElem?_eq_some_iff.1 hi).1
    obtain ⟨b, value, hb, hvalue, hreads⟩ := reads_of_bindings r hilt
    obtain ⟨b', hb', hname⟩ := Resolution.exists_binding_of_named hnamed hi
    cases hb.symm.trans hb'
    refine .inl ⟨v, i, b, hnamed, hi, hlast, hname, ?_⟩
    rwa [read, hnamed, Option.bind_some, haccess, hvalue, Option.getD_some]
  · have hforeign : ∀ v, r.named? name = some v → v ∉ r.imports :=
      fun v hnamed hv => himported ⟨v, hnamed, hv⟩
    exact .inr ⟨hforeign, hother hforeign⟩

/-- **What an item shows at once** is what it exports. -/
lemma shows_of_shown (r : Resolution) {before after : List Item} {item : Item} {g : Getter}
    (h : g ∈ item.shown (upTo before)) :
    ∃ origin, item.Exports g.outside origin
      ∧ (ofItems r (before ++ item :: after)).Shows r (before ++ item :: after) before g.value
          origin := by
  cases item with
  | reexport span source names =>
      obtain ⟨e, he, rfl⟩ := List.mem_map.1 h
      exact ⟨_, .reexport span source he, _, request_of_split r rfl, rfl⟩
  | reexportAll span source outside =>
      cases outside with
      | none => cases h
      | some outside =>
          obtain rfl := List.mem_singleton.1 h
          exact ⟨_, .whole span source outside, _, request_of_split r rfl, rfl⟩
  | exportDeclaration span d =>
      obtain ⟨name, hname, rfl⟩ := List.mem_map.1 h
      exact ⟨_, .declaration span (Node.mem_declaredNames_iff.1 hname), rfl⟩
  | exportDefault span v =>
      obtain ⟨name, hname, rfl⟩ := List.mem_map.1 h
      exact ⟨_, .defaultDeclaration span (Node.mem_declaredNames_iff.1 hname), rfl⟩
  | _ => cases h

/-- **Every getter** shows what some item exports. -/
theorem exists_exports_of_getter {items : List Item} {g : Getter} :
    let r := Resolution.ofItems items
    g ∈ (ofItems r items).getters →
      ∃ before item after origin, items = before ++ item :: after ∧ item.Exports g.outside origin
        ∧ (ofItems r items).Shows r items before g.value origin := by
  intro r hg
  rw [getters_ofItems] at hg
  rcases List.mem_append.1 hg with hg | hg
  · obtain ⟨before, item, after, rfl, hshown⟩ := exists_shown hg
    obtain ⟨origin, hexports, hshows⟩ := shows_of_shown r hshown
    exact ⟨before, item, after, origin, rfl, hexports, hshows⟩
  · obtain ⟨e, he, rfl⟩ := List.mem_map.1 hg
    obtain ⟨item, hitem, he⟩ := exists_pending he
    obtain ⟨before, after, hsplit⟩ := List.append_of_mem hitem
    cases item with
    | exportNames span names =>
        exact ⟨before, _, after, _, hsplit, .exposure span he, shows_read items before e.inside⟩
    | _ => cases he

/-- **Every name that items export** has a getter or is assigned, and nothing else does. -/
theorem perm_exportedNames (r : Resolution) {items : List Item}
    (h : ∀ item ∈ items, Parser.Sole item) :
    ((ofItems r items).getters.map Getter.outside ++ items.flatMap Item.assigned).Perm
      (items.flatMap Item.exportedNames) := by
  have hpending : (ofItems r items).getters.map Getter.outside
      = (upTo items).getters.map Getter.outside ++ (upTo items).pending.map Exposure.outside := by
    rw [getters_ofItems, List.map_append, List.map_map]
    rfl
  rw [hpending]
  exact perm_upTo h

end Linkage

/-- The names that a script gives a value on `exports`: those of its getters, and the default where
    it is assigned. -/
def exportedBy (source : String) (p : Program) : List String :=
  (gettersOf source).map Getter.outside ++ p.items.flatMap Item.assigned

/-- **What a script exports**, as its items say and as the lines in front of its code do it. -/
structure Program.ShowsExports (p : Program) (source : String) : Prop where
  /-- The lines are those of the linkage. -/
  lines : frontLines source
    = (Linkage.ofItems (Resolution.ofItems p.items) p.items).lines
  /-- The code begins with them. -/
  code : ∀ id unit, compile id source = .ok unit →
    ∃ body, unit.code = String.join ((frontLines source).map (· ++ "\n")) ++ body
  /-- Every name is given a value once. -/
  nodup : (exportedBy source p).Nodup
  /-- The names are those that the items export one by one. -/
  mem_names_iff : ∀ name, name ∈ exportedBy source p
    ↔ ∃ item ∈ p.items, ∃ origin, item.Exports name origin
  /-- What is assigned is a default export that declares no name. -/
  mem_assigned_iff : ∀ name, name ∈ p.items.flatMap Item.assigned
    ↔ name = "default" ∧ ∃ item ∈ p.items, item.Exports name .value
  /-- Each getter gives what the export of its name stands for. -/
  shows : ∀ g ∈ gettersOf source, ∃ before item after origin,
    p.items = before ++ item :: after ∧ item.Exports g.outside origin
      ∧ (Linkage.ofItems (Resolution.ofItems p.items) p.items).Shows
          (Resolution.ofItems p.items) p.items before g.value origin

/-- **The exported names are the script's.**  The code of a script begins with the lines of its
    linkage, and these define getters.  Together with the default, where it is assigned, the names
    of the getters are the names that the items of the script export one by one, each once.  Each
    getter gives what the export of its name stands for: a variable that is declared, a part of the
    module that its own item asks for, or what the name inside stands for.  The last is read like a
    use, as the last import of its variable if it is imported anywhere in the script. -/
theorem exports_of_read (source : String) (p : Program)
    (hread : Program.read source.toList = .ok p) : p.ShowsExports source := by
  let r := Resolution.ofItems p.items
  let l := Linkage.ofItems r p.items
  have hgetters : gettersOf source = l.getters := gettersOf_of_read hread
  have hperm : (exportedBy source p).Perm (p.items.flatMap Item.exportedNames) := by
    have hnames : exportedBy source p
        = l.getters.map Getter.outside ++ p.items.flatMap Item.assigned := by
      rw [exportedBy, hgetters]
    exact hnames ▸ Linkage.perm_exportedNames r (Program.sole_of_read hread)
  refine ⟨frontLines_of_read hread, fun id unit h => ?_, ?_, fun name => ?_, fun name => ?_,
    fun g hg => ?_⟩
  · obtain ⟨-, -, hcode, -⟩ := exists_read_of_compile h
    exact hcode
  · exact hperm.nodup_iff.2 (Program.nodup_of_read hread)
  · rw [hperm.mem_iff, List.mem_flatMap]
    exact exists_congr fun item => and_congr_right fun _ => Item.mem_exportedNames_iff
  · simp only [List.mem_flatMap, Item.mem_assigned_iff]
    exact ⟨fun ⟨item, hitem, hname, h⟩ => ⟨hname, item, hitem, h⟩,
      fun ⟨hname, item, hitem, h⟩ => ⟨item, hitem, hname, h⟩⟩
  · exact Linkage.exists_exports_of_getter (hgetters ▸ hg)

/-- The source of `exposingScript`. -/
def exposingText : String :=
  "export \x7b a as b \x7d;\nimport \x7b a \x7d from \"./a\";\nexport default 1;"

/-- A name that is imported behind its export, and a value. -/
def exposingScript : Program :=
  ⟨none, [.exportNames ⟨0, 18⟩ [⟨"a", "b"⟩],
    .importing ⟨19, 43⟩ "./a" [⟨"a", .named "a"⟩],
    .exportDefault ⟨44, 61⟩ (.node .other ⟨59, 60⟩ [])]⟩

/-- The name is read from the module that it is imported from, and the value is assigned. -/
theorem exports_of_read_exposing :
    Program.read exposingText.toList = .ok exposingScript
      ∧ gettersOf exposingText = [⟨"b", "__a.a"⟩]
      ∧ ∀ name, name ∈ ["b", "default"]
          ↔ ∃ item ∈ exposingScript.items, ∃ origin, item.Exports name origin := by
  have hread : Program.read exposingText.toList = .ok exposingScript := by decide +kernel
  have hgetters : gettersOf exposingText = [⟨"b", "__a.a"⟩] := by
    rw [gettersOf_of_read hread]
    decide +kernel
  have hnames := (exports_of_read _ _ hread).mem_names_iff
  rw [exportedBy, hgetters] at hnames
  exact ⟨hread, hgetters, hnames⟩

/-! ### Exports inside statements -/

/-- The declaration of a variable, exported. -/
def nestedExport : Item :=
  .exportDeclaration ⟨2, 19⟩ (.node (.declaration true) ⟨9, 18⟩
    [.node .declarator ⟨13, 18⟩ [.node (.binder "a") ⟨13, 14⟩ [], .node .other ⟨17, 18⟩ []]])

/-- A block that exports a variable. -/
def nestingScript : Program :=
  ⟨none, [.statement (.node .block ⟨0, 21⟩ [nestedExport.toNode])]⟩

/-- **An export inside a statement** is read, and the script is compiled, but its name has no
    getter, and the word `export` stays in the code. -/
theorem exports_nested :
    Program.read "\x7b export var a = 1; \x7d".toList = .ok nestingScript
      ∧ nestedExport.Exports "a" (.declared "a")
      ∧ gettersOf "\x7b export var a = 1; \x7d" = []
      ∧ ∃ unit, compile ⟨"/m.js"⟩ "\x7b export var a = 1; \x7d" = .ok unit
          ∧ unit.code = "\"use strict\";\n"
            ++ "Object.defineProperty(exports, \"__esModule\", \x7b value: true \x7d);\n"
            ++ "\x7b export var a = 1; \x7d" := by
  have hread : Program.read "\x7b export var a = 1; \x7d".toList = .ok nestingScript := by
    decide +kernel
  refine ⟨hread, ?_, ?_,
    nestingScript.lower "\x7b export var a = 1; \x7d".toList, ?_, by decide +kernel⟩
  · exact .declaration _ (Node.mem_declaredNames_iff.1 (by decide))
  · rw [gettersOf_of_read hread]
    decide +kernel
  · rw [compile, hread]
    rfl

end ModuleBundler.Script
