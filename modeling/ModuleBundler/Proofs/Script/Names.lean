import ModuleBundler.Proofs.Script.Uses

/-!
# What the names of a script stand for

**One name.**  A variable has one name wherever it is met: in the scopes that know it and in the
uses that are settled to it.  `Named` says so with a naming of the variables, and every move keeps
it (`Moves.named`).

**Whole scripts.**  Of the uses of a script each is settled once, except for those whose names are
nowhere declared (`settled_ofItems`).  The imports of a script are one variable for each name that
is imported, and what is settled to one of them has its name (`imports_ofItems`).
-/

namespace ModuleBundler.Script

namespace Resolution

/-- **A naming of the variables**: what a scope says of names, and what uses are settled to. -/
structure Named (f : Variable → String) (r : Resolution) : Prop where
  scopes : ∀ s ∈ r.scopes, ∀ e ∈ s.names ++ s.passed, e.2 < r.next ∧ f e.2 = e.1
  settled : ∀ e ∈ r.settled, e.2 < r.next ∧ f e.2 = e.1.name

variable {f f' : Variable → String} {r r' : Resolution}

/-- A later naming, which keeps the names of all variables that there were. -/
structure Renamed (f : Variable → String) (r : Resolution) (f' : Variable → String)
    (r' : Resolution) : Prop where
  named : Named f' r'
  next_le : r.next ≤ r'.next
  kept : ∀ v < r.next, f' v = f v

lemma Renamed.refl (h : Named f r) : Renamed f r f r := ⟨h, le_rfl, fun _ _ => rfl⟩

lemma Renamed.trans {f'' : Variable → String} {r'' : Resolution} (h : Renamed f r f' r')
    (h' : Renamed f' r' f'' r'') : Renamed f r f'' r'' :=
  ⟨h'.named, h.next_le.trans h'.next_le,
    fun v hv => (h'.kept v (hv.trans_le h.next_le)).trans (h.kept v hv)⟩

/-- One more name for a variable: its own, if it had one, and any name for a new variable. -/
lemma Named.grow (h : Named f r) (name : String) {v : Variable} (hnext : r'.next = r.next + 1)
    (hv : v = r.next ∨ (v < r.next ∧ f v = name)) (hsettled : r'.settled = r.settled)
    (hscopes : ∀ s' ∈ r'.scopes, ∀ e ∈ s'.names ++ s'.passed,
      e = (name, v) ∨ ∃ s ∈ r.scopes, e ∈ s.names ++ s.passed) :
    Renamed f r (fun w => if w = v then name else f w) r' := by
  have hle : r.next ≤ r'.next := hnext ▸ Nat.le_succ _
  have hkept : ∀ w < r.next, (if w = v then name else f w) = f w := by
    intro w hw
    split
    · next heq =>
        rcases hv with rfl | ⟨-, rfl⟩
        · exact absurd heq hw.ne
        · rw [heq]
    · rfl
  refine ⟨⟨fun s' hs' e he => ?_, fun e he => ?_⟩, hle, hkept⟩
  · rcases hscopes s' hs' e he with rfl | ⟨s, hs, he⟩
    · refine ⟨?_, if_pos rfl⟩
      rw [hnext]
      rcases hv with rfl | ⟨hv, -⟩
      · exact Nat.lt_succ_self _
      · exact Nat.lt_succ_of_lt hv
    · obtain ⟨hlt, hname⟩ := h.scopes s hs e he
      exact ⟨hlt.trans_le hle, (hkept _ hlt).trans hname⟩
  · rw [hsettled] at he
    obtain ⟨hlt, hname⟩ := h.settled e he
    exact ⟨hlt.trans_le hle, (hkept _ hlt).trans hname⟩

/-- Where nothing new is named, the naming stays. -/
lemma Named.shrink (h : Named f r) (hnext : r'.next = r.next)
    (hsettled : ∀ e ∈ r'.settled, e ∈ r.settled
      ∨ ∃ s ∈ r.scopes, (e.1.name, e.2) ∈ s.names ++ s.passed)
    (hscopes : ∀ s' ∈ r'.scopes, ∀ e ∈ s'.names ++ s'.passed,
      ∃ s ∈ r.scopes, e ∈ s.names ++ s.passed) : Renamed f r f r' := by
  refine ⟨⟨fun s' hs' e he => ?_, fun e he => ?_⟩, hnext.ge, fun _ _ => rfl⟩
  · obtain ⟨s, hs, he⟩ := hscopes s' hs' e he
    exact hnext ▸ h.scopes s hs e he
  · rw [hnext]
    rcases hsettled e he with he | ⟨s, hs, he⟩
    · exact h.settled e he
    · exact h.scopes s hs _ he

lemma mem_of_lookup {names : List (String × Variable)} {name : String} {v : Variable}
    (h : names.lookup name = some v) : (name, v) ∈ names := by
  obtain ⟨before, after, rfl, -⟩ := List.lookup_eq_some_iff.1 h
  simp

/-- A name that a scope knows is in it with its variable. -/
lemma mem_of_known {s : Scope} {name : String} {v : Variable} (h : s.known? name = some v) :
    (name, v) ∈ s.names ++ s.passed := by
  rcases Option.or_eq_some_iff.1 h with h | ⟨-, h⟩
  · exact List.mem_append_left _ (mem_of_lookup h)
  · exact List.mem_append_right _ (mem_of_lookup h)

lemma mem_of_hoisted {name : String} {v : Variable} {scopes : List Scope}
    (h : hoisted? name scopes = some v) : ∃ s ∈ scopes, (name, v) ∈ s.names ++ s.passed := by
  induction scopes with
  | nil => cases h
  | cons s around ih =>
      rcases Option.or_eq_some_iff.1 h with h | ⟨-, h⟩
      · exact ⟨s, by simp, mem_of_known h⟩
      · split at h
        · cases h
        · obtain ⟨t, ht, hmem⟩ := ih h
          exact ⟨t, by simp [ht], hmem⟩

/-- A name that is carried outwards is all that is new in the scopes on the way. -/
lemma mem_of_carry {name : String} {v : Variable} (moved : Bool) {scopes : List Scope} {s' : Scope}
    (hs' : s' ∈ carry name v moved scopes) {e : String × Variable}
    (he : e ∈ s'.names ++ s'.passed) :
    e = (name, v) ∨ ∃ s ∈ scopes, e ∈ s.names ++ s.passed := by
  induction scopes generalizing moved with
  | nil => cases hs'
  | cons s around ih =>
      rw [carry] at hs'
      split at hs'
      · rcases List.mem_cons.1 hs' with rfl | hs'
        · rcases List.mem_cons.1 he with rfl | he
          · exact .inl rfl
          · exact .inr ⟨s, by simp, he⟩
        · exact .inr ⟨s', by simp [hs'], he⟩
      · rcases List.mem_cons.1 hs' with rfl | hs'
        · have hleft : e = (name, v) ∨ e ∈ s.names ++ s.passed := by
            rcases List.mem_append.1 he with he | he
            · split at he
              · exact .inr (List.mem_append_left _ (List.mem_of_mem_filter he))
              · exact .inr (List.mem_append_left _ he)
            · rcases List.mem_cons.1 he with rfl | he
              · exact .inl rfl
              · split at he <;> exact .inr (List.mem_append_right _ he)
          exact hleft.imp_right fun he => ⟨s, by simp, he⟩
        · rcases ih _ hs' with heq | ⟨t, ht, he⟩
          · exact .inl heq
          · exact .inr ⟨t, by simp [ht], he⟩

lemma mem_awaitInnermost {uses : List Use} {scopes : List Scope} {s' : Scope}
    (hs' : s' ∈ awaitInnermost uses scopes) :
    ∃ s ∈ scopes, s'.names = s.names ∧ s'.passed = s.passed := by
  cases scopes with
  | nil => cases hs'
  | cons s around =>
      rcases List.mem_cons.1 hs' with rfl | hs'
      · exact ⟨s, by simp, rfl, rfl⟩
      · exact ⟨s', by simp [hs'], rfl, rfl⟩

/-- A name that begins to be used brings nothing new. -/
lemma mem_of_use {u : Use} {s' : Scope} (hs' : s' ∈ (r.use u).scopes) {e : String × Variable}
    (he : e ∈ s'.names ++ s'.passed) : ∃ s ∈ r.scopes, e ∈ s.names ++ s.passed := by
  obtain ⟨s, hs, hnames, hpassed⟩ := mem_awaitInnermost hs'
  exact ⟨s, hs, by rwa [← hnames, ← hpassed]⟩

/-- A name that is declared is all that is new. -/
lemma mem_of_declare {name : String} {s' : Scope} (hs' : s' ∈ (r.declare name).scopes)
    {e : String × Variable} (he : e ∈ s'.names ++ s'.passed) :
    e = (name, r.next) ∨ ∃ s ∈ r.scopes, e ∈ s.names ++ s.passed := by
  rw [Resolution.declare] at hs'
  split at hs'
  · exact .inr ⟨s', hs', he⟩
  · next s around hscopes =>
      split at hs'
      · exact .inr ⟨s', hs', he⟩
      · rcases List.mem_cons.1 hs' with rfl | hs'
        · rcases List.mem_cons.1 he with rfl | he
          · exact .inl rfl
          · exact .inr ⟨s, by simp [hscopes], he⟩
        · exact .inr ⟨s', by simp [hscopes, hs'], he⟩

/-- Settling brings nothing new. -/
lemma mem_of_settle {s' : Scope} (hs' : s' ∈ r.settle.scopes) {e : String × Variable}
    (he : e ∈ s'.names ++ s'.passed) : ∃ s ∈ r.scopes, e ∈ s.names ++ s.passed := by
  rw [Resolution.settle] at hs'
  split at hs'
  · exact ⟨s', hs', he⟩
  · next s around hscopes =>
      rcases List.mem_cons.1 hs' with rfl | hs'
      · exact ⟨s, by simp [hscopes], he⟩
      · obtain ⟨t, ht, hnames, hpassed⟩ := mem_awaitInnermost hs'
        exact ⟨t, by simp [hscopes, ht], by rwa [← hnames, ← hpassed]⟩

/-- A name that is known already is not declared again. -/
lemma declare_cases (r : Resolution) (name : String) :
    r.declare name = r
      ∨ (r.declare name).next = r.next + 1 ∧ (r.declare name).settled = r.settled := by
  rw [Resolution.declare]
  split
  · exact .inl rfl
  · split
    · exact .inl rfl
    · exact .inr ⟨rfl, rfl⟩

/-- Declaring a name leaves the earlier variables their names. -/
lemma Named.declare (h : Named f r) (name : String) : ∃ f', Renamed f r f' (r.declare name) := by
  rcases declare_cases r name with heq | ⟨hnext, hsettled⟩
  · exact ⟨f, heq.symm ▸ .refl h⟩
  · exact ⟨_, h.grow name hnext (.inl rfl) hsettled fun _ hs' _ he => mem_of_declare hs' he⟩

lemma Named.hoist (h : Named f r) (name : String) : ∃ f', Renamed f r f' (r.hoist name) := by
  refine ⟨_, h.grow name (v := (hoisted? name r.scopes).getD r.next) rfl ?_ rfl
    fun s' hs' e he => mem_of_carry false hs' he⟩
  cases hknown : hoisted? name r.scopes with
  | none => exact .inl rfl
  | some v =>
      obtain ⟨s, hs, hmem⟩ := mem_of_hoisted hknown
      exact .inr (h.scopes s hs _ hmem)

/-- What is settled was settled before, or its name is in the scope. -/
lemma mem_settled_settle {e : Use × Variable} (he : e ∈ r.settle.settled) :
    e ∈ r.settled ∨ ∃ s ∈ r.scopes, (e.1.name, e.2) ∈ s.names ++ s.passed := by
  rw [Resolution.settle] at he
  split at he
  · exact .inl he
  · next s around hscopes =>
      rcases List.mem_append.1 he with he | he
      · obtain ⟨u, -, hu⟩ := List.mem_filterMap.1 he
        obtain ⟨v, hv, rfl⟩ := Option.map_eq_some_iff.1 hu
        exact .inr ⟨s, by simp [hscopes], List.mem_append_left _ (mem_of_lookup hv)⟩
      · exact .inl he

lemma next_settle (r : Resolution) : r.settle.next = r.next := by
  rw [Resolution.settle]
  split <;> rfl

lemma Named.settle (h : Named f r) : Renamed f r f r.settle :=
  h.shrink (next_settle r) (fun _ he => mem_settled_settle he) fun _ hs' _ he =>
    mem_of_settle hs' he

lemma Named.leave (h : Named f r) : Renamed f r f r.leave :=
  h.settle.trans (h.settle.named.shrink rfl (fun _ he => .inl he)
    fun s' hs' _ he => ⟨s', List.mem_of_mem_drop hs', he⟩)

lemma Named.enter (h : Named f r) (keepsHoisted : Bool) : Renamed f r f (r.enter keepsHoisted) :=
  ⟨⟨fun s hs e he => by
      rcases List.mem_cons.1 hs with rfl | hs
      · cases he
      · exact h.scopes s hs e he, h.settled⟩, le_rfl, fun _ _ => rfl⟩

/-- **Every move keeps the names** of the variables that there were. -/
theorem Moves.named {us : List Use} (h : Moves r us r') (hnamed : Named f r) :
    ∃ f', Renamed f r f' r' := by
  induction h generalizing f with
  | none => exact ⟨f, .refl hnamed⟩
  | use u _ ih =>
      obtain ⟨f', hf'⟩ := ih hnamed
      exact ⟨f', hf'.trans (hf'.named.shrink rfl (fun _ he => .inl he) fun _ hs' _ he =>
        mem_of_use hs' he)⟩
  | declare name _ ih =>
      obtain ⟨f', hf'⟩ := ih hnamed
      obtain ⟨f'', hf''⟩ := hf'.named.declare name
      exact ⟨f'', hf'.trans hf''⟩
  | hoist name _ ih =>
      obtain ⟨f', hf'⟩ := ih hnamed
      obtain ⟨f'', hf''⟩ := hf'.named.hoist name
      exact ⟨f'', hf'.trans hf''⟩
  | settle _ _ ih =>
      obtain ⟨f', hf'⟩ := ih hnamed
      exact ⟨f', hf'.trans hf'.named.settle⟩
  | scope keepsHoisted _ _ ih ihinside =>
      obtain ⟨f', hf'⟩ := ih hnamed
      obtain ⟨f'', hf''⟩ := ihinside (hf'.named.enter keepsHoisted).named
      exact ⟨f'', hf'.trans (((hf'.named.enter keepsHoisted).trans hf'').trans hf''.named.leave)⟩

/-! ## Items -/

lemma imports_declare (r : Resolution) (name : String) : (r.declare name).imports = r.imports := by
  rw [declare]
  split
  · rfl
  · split <;> rfl

lemma imports_settle (r : Resolution) : r.settle.imports = r.imports := by
  rw [settle]
  split <;> rfl

/-- A walk through a tree imports nothing. -/
lemma Moves.imports {us : List Use} (h : Moves r us r') : r'.imports = r.imports := by
  induction h with
  | none => rfl
  | use u _ ih => exact ih
  | declare name _ ih => exact (imports_declare _ name).trans ih
  | hoist name _ ih => exact ih
  | settle _ _ ih => exact (imports_settle _).trans ih
  | scope keepsHoisted _ _ ih ihinside => exact (imports_settle _).trans (ihinside.trans ih)

end Resolution

/-- The names that an item imports. -/
def Item.bindings : Item → List Binding
  | .importing _ _ bindings => bindings
  | _ => []

/-- The uses of names in an item; those in the braces of an export are none. -/
def Item.uses (item : Item) : List Use := item.toNode.uses

namespace Resolution

variable {f f' : Variable → String} {r r' : Resolution}

/-- **How far a script is resolved**: one scope is left, the uses are collected, and the variables
    of the imports have their names. -/
structure Reached (uses : List Use) (names : List String) (f : Variable → String)
    (r : Resolution) : Prop where
  outermost : r.scopes.length = 1
  collected : r.collected.Perm uses
  named : Named f r
  imports_lt : ∀ v ∈ r.imports, v < r.next
  imports : r.imports.map f = names

lemma reached_start : Reached [] [] (fun _ => "") .start :=
  ⟨rfl, .refl _, ⟨by simp [start, Scope.blank], by simp [start]⟩, by simp [start], rfl⟩

namespace Reached

variable {uses us : List Use} {names : List String}

lemma scopes_ne_nil (h : Reached uses names f r) : r.scopes ≠ [] :=
  List.length_pos_iff.1 (h.outermost ▸ Nat.one_pos)

/-- What was imported keeps its names. -/
lemma imports_renamed (h : Reached uses names f r) (hf' : Renamed f r f' r') :
    r.imports.map f' = names ∧ ∀ v ∈ r.imports, v < r'.next := by
  refine ⟨?_, fun v hv => (h.imports_lt v hv).trans_le hf'.next_le⟩
  rw [← h.imports]
  exact List.map_congr_left fun v hv => hf'.kept v (h.imports_lt v hv)

/-- A walk through a tree adds its uses to those that were reached. -/
lemma moves (h : Reached uses names f r) (hmoves : Moves r us r') :
    ∃ f', Reached (uses ++ us) names f' r' := by
  obtain ⟨f', hf'⟩ := hmoves.named h.named
  obtain ⟨himports, hlt⟩ := h.imports_renamed hf'
  refine ⟨f', hmoves.length_scopes.trans h.outermost, ?_, hf'.named, ?_, ?_⟩
  · exact (hmoves.collected h.scopes_ne_nil).trans (h.collected.append_right us)
  · rwa [hmoves.imports]
  · rwa [hmoves.imports]

/-- A name that is declared is known. -/
lemma exists_known_declare (h : Reached uses names f r) (name : String) :
    ∃ s around v, (r.declare name).scopes = s :: around ∧ s.known? name = some v := by
  obtain ⟨s, around, hscopes⟩ := List.exists_cons_of_ne_nil h.scopes_ne_nil
  rw [declare, hscopes]
  by_cases hknown : (s.known? name).isSome
  · obtain ⟨v, hv⟩ := Option.isSome_iff_exists.1 hknown
    exact ⟨s, around, v, by simp [hknown, hscopes], hv⟩
  · exact ⟨s.give name r.next, around, r.next, by simp [hknown],
      by simp [Scope.known?, Scope.give]⟩

/-- **Importing a name** adds a variable of this name to the imports. -/
lemma importName (h : Reached uses names f r) (name : String) :
    ∃ f', Reached uses (names ++ [name]) f' (r.importName name) := by
  obtain ⟨s, around, v, hscopes, hknown⟩ := h.exists_known_declare name
  obtain ⟨f', hf'⟩ := h.named.declare name
  obtain ⟨himports, hlt⟩ := h.imports_renamed hf'
  obtain ⟨hvlt, hv⟩ := hf'.named.scopes s (by simp [hscopes]) _ (mem_of_known hknown)
  have himported : (r.importName name).imports = r.imports ++ [v] := by
    rw [Resolution.importName, hscopes, imports_declare]
    simp [hknown]
  refine ⟨f', (length_scopes_declare r name).trans h.outermost,
    (List.Perm.of_eq (collected_declare r name)).trans h.collected,
    ⟨hf'.named.scopes, hf'.named.settled⟩, fun w hw => ?_, ?_⟩
  · rw [himported] at hw
    rcases List.mem_append.1 hw with hw | hw
    · exact hlt w hw
    · rwa [List.mem_singleton.1 hw]
  · rw [himported, List.map_append, himports, List.map_singleton, hv]

lemma importAll (h : Reached uses names f r) (news : List String) :
    ∃ f', Reached uses (names ++ news) f' (news.foldl Resolution.importName r) := by
  induction news generalizing names f r with
  | nil => exact ⟨f, by rwa [List.append_nil]⟩
  | cons name news ih =>
      obtain ⟨f', hf'⟩ := h.importName name
      obtain ⟨f'', hf''⟩ := ih hf'
      exact ⟨f'', by rwa [List.append_assoc] at hf''⟩

/-- **One more item** is resolved. -/
theorem item (h : Reached uses names f r) (item : Item) :
    ∃ f', Reached (uses ++ item.uses) (names ++ item.bindings.map Binding.name) f'
      (item.resolve r) := by
  have hnode (n : Node) : ∃ f', Reached (uses ++ n.uses) (names ++ []) f' (n.resolve r) := by
    rw [List.append_nil]
    exact h.moves (moves_resolve.1 n r h.scopes_ne_nil)
  cases item with
  | importing s source bindings =>
      obtain ⟨f', hf'⟩ := h.importAll (bindings.map Binding.name)
      exact ⟨f', (List.append_nil uses).symm ▸ hf'⟩
  | _ => exact hnode _

/-- **All items** are resolved. -/
theorem items (h : Reached uses names f r) (items : List Item) :
    ∃ f', Reached (uses ++ items.flatMap Item.uses)
      (names ++ (items.flatMap Item.bindings).map Binding.name) f'
      (items.foldl Item.resolve r) := by
  induction items generalizing uses names f r with
  | nil => exact ⟨f, by simpa using h⟩
  | cons first rest ih =>
      obtain ⟨f', hf'⟩ := h.item first
      obtain ⟨f'', hf''⟩ := ih hf'
      exact ⟨f'', by simpa [List.append_assoc] using hf''⟩

end Reached

/-! ## Whole scripts -/

/-- **Every use of a script is settled once**, unless its name is nowhere declared around it. -/
theorem settled_ofItems (items : List Item) :
    ∃ undeclared, ((ofItems items).settled.map Prod.fst ++ undeclared).Perm
        (items.flatMap Item.uses)
      ∧ ∀ u ∈ undeclared, (ofItems items).named? u.name = none := by
  obtain ⟨f, hreached⟩ := reached_start.items items
  rw [List.nil_append, List.nil_append] at hreached
  obtain ⟨s, hscopes⟩ := List.length_eq_one_iff.1 hreached.outermost
  have hcollected := hreached.collected
  rw [Resolution.collected, hscopes, List.flatMap_singleton] at hcollected
  refine ⟨s.foreignUses, ?_, fun u hu => ?_⟩
  · rw [ofItems, settle, hscopes, List.map_append, List.append_assoc]
    refine List.Perm.trans ?_ hcollected
    refine (List.perm_append_comm.append_left _).trans ?_
    rw [← List.append_assoc]
    exact (s.uses_perm.append_right _).trans List.perm_append_comm
  · rw [ofItems, settle, hscopes]
    exact Option.isNone_iff_eq_none.1 (List.mem_filter.1 hu).2

/-- The variables of a script have names, and those of its imports the names that are imported. -/
lemma exists_named_ofItems (items : List Item) :
    ∃ f, Named f (ofItems items)
      ∧ (ofItems items).imports.map f = (items.flatMap Item.bindings).map Binding.name := by
  obtain ⟨f, hreached⟩ := reached_start.items items
  rw [List.nil_append, List.nil_append] at hreached
  exact ⟨f, hreached.named.settle.named,
    (congrArg (List.map f) (imports_settle _)).trans hreached.imports⟩

/-- A variable of the imports has the name of each import that it belongs to. -/
lemma exists_binding_of_imports {items : List Item} {f : Variable → String}
    (himports : (ofItems items).imports.map f = (items.flatMap Item.bindings).map Binding.name)
    {v : Variable} {i : ℕ} (hi : (ofItems items).imports[i]? = some v) :
    ∃ b : Binding, (items.flatMap Item.bindings)[i]? = some b ∧ b.name = f v := by
  have hget := congrArg (·[i]?) himports
  rw [List.getElem?_map, List.getElem?_map, hi, Option.map_some] at hget
  obtain ⟨b, hb, hb'⟩ := Option.map_eq_some_iff.1 hget.symm
  exact ⟨b, hb, hb'⟩

/-- **The variables of the imports**, one for each name that is imported; what is settled to one of
    them has its name. -/
theorem imports_ofItems (items : List Item) :
    (ofItems items).imports.length = (items.flatMap Item.bindings).length
      ∧ ∀ (u : Use) (v : Variable) (i : ℕ), (u, v) ∈ (ofItems items).settled →
          (ofItems items).imports[i]? = some v →
          ∃ b : Binding, (items.flatMap Item.bindings)[i]? = some b ∧ b.name = u.name := by
  obtain ⟨f, hnamed, himports⟩ := exists_named_ofItems items
  refine ⟨by simpa using congrArg List.length himports, fun u v i hsettled hi => ?_⟩
  rw [← (hnamed.settled _ hsettled).2]
  exact exists_binding_of_imports himports hi

/-- A name that stands for an imported variable is the name that was imported. -/
theorem exists_binding_of_named {items : List Item} {name : String} {v : Variable} {i : ℕ}
    (hname : (ofItems items).named? name = some v) (hi : (ofItems items).imports[i]? = some v) :
    ∃ b : Binding, (items.flatMap Item.bindings)[i]? = some b ∧ b.name = name := by
  obtain ⟨f, hnamed, himports⟩ := exists_named_ofItems items
  obtain ⟨s, hs, hlookup⟩ := Option.bind_eq_some_iff.1 hname
  have hv : f v = name := (hnamed.scopes s (List.mem_of_head? hs) _
    (List.mem_append_left _ (mem_of_lookup hlookup))).2
  rw [← hv]
  exact exists_binding_of_imports himports hi

end Resolution

end ModuleBundler.Script
