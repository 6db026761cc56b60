import ModuleBundler.Proofs.Script.Names

/-!
# What a name would stand for in the place of a use

A use stands in some scopes, one around the other.  `Node.places` goes through a part of a script
as `Node.resolve` does, and gives each use together with the names of the scopes around it, as they
are when the use is settled there.

**Lookup.**  `Place.stands` looks a name up in these scopes, the innermost one first.  It may be
another name than the one that is used: this says what would be read if the use were rewritten.

**Walks.**  What resolving does to the scopes is put together of few steps (`Walk`, `walk_resolve`),
and what the places have to do with the resolution is shown step by step.

**The meaning of uses.**  A use is settled to what its name stands for in its place, and is not
settled if that is nothing (`settled_perm_places`).  Only what the script declares stands for
anything (`knows_places`).
-/

namespace ModuleBundler.Script

/-- **A use in its place**: what names stand for in the scopes around it, innermost first. -/
structure Place where
  use : Use
  around : List (List (String × Variable))
deriving DecidableEq

namespace Place

/-- Put one more scope around the place. -/
def within (names : List (String × Variable)) (q : Place) : Place :=
  { q with around := q.around ++ [names] }

/-- **What a name stands for** in the place. -/
def stands (q : Place) (name : String) : Option Variable :=
  q.around.findSome? fun names => names.lookup name

/-- The variable that the use means. -/
def meaning (q : Place) : Option Variable := q.stands q.use.name

/-- The use with its variable, if it means one. -/
def settled? (q : Place) : Option (Use × Variable) := q.meaning.map fun v => (q.use, v)

/-- The use, if it means no variable. -/
def open? (q : Place) : Option Use := if q.meaning.isSome then none else some q.use

/-- All names around the place have a property. -/
def Knows (P : String → Prop) (q : Place) : Prop := ∀ names ∈ q.around, ∀ e ∈ names, P e.1

lemma Knows.within {P : String → Prop} {q : Place} (h : q.Knows P)
    {names : List (String × Variable)} (hnames : ∀ e ∈ names, P e.1) : (q.within names).Knows P :=
  List.forall_mem_append.2 ⟨h, List.forall_mem_singleton.2 hnames⟩

/-- A name that stands for nothing inside may stand for something in the scope around. -/
lemma stands_within (q : Place) (names : List (String × Variable)) (name : String) :
    (q.within names).stands name = (q.stands name).or (names.lookup name) := by
  rw [stands, within, List.findSome?_append, List.findSome?_singleton, ← stands]

@[simp] lemma use_within (names : List (String × Variable)) (q : Place) :
    (q.within names).use = q.use := rfl

@[simp] lemma meaning_within (names : List (String × Variable)) (q : Place) :
    (q.within names).meaning = q.meaning.or (names.lookup q.use.name) :=
  q.stands_within names q.use.name

/-- To close a scope settles the open uses of its names, and no other ones. -/
lemma settled_within_perm (names : List (String × Variable)) (qs : List Place) :
    ((qs.map (within names)).filterMap settled?).Perm (qs.filterMap settled?
      ++ (qs.filterMap open?).filterMap fun u => (names.lookup u.name).map fun v => (u, v)) := by
  induction qs with
  | nil => exact .refl _
  | cons q qs ih =>
      cases hq : q.meaning with
      | some v => simpa [settled?, open?, hq] using ih
      | none =>
          cases hv : names.lookup q.use.name with
          | none => simpa [settled?, open?, hq, hv] using ih
          | some v =>
              have hmiddle := (ih.cons (q.use, v)).trans List.perm_middle.symm
              simpa [settled?, open?, hq, hv] using hmiddle

/-- A use stays open unless its name is one of the scope. -/
lemma open_within (names : List (String × Variable)) (qs : List Place) :
    (qs.map (within names)).filterMap open?
      = (qs.filterMap open?).filter fun u => (names.lookup u.name).isNone := by
  induction qs with
  | nil => rfl
  | cons q qs ih =>
      rw [List.map_cons, List.filterMap_cons, List.filterMap_cons, ih]
      cases hq : q.meaning with
      | some v => simp [open?, hq]
      | none => cases hv : names.lookup q.use.name <;> simp [open?, hq, hv]

end Place

/-- The names of the innermost scope. -/
def Resolution.innermost (r : Resolution) : List (String × Variable) :=
  (r.scopes.head?.map Scope.names).getD []

mutual

/-- **The uses in a part of a script with their places**, within the scopes around that part. -/
def Node.places : Node → Resolution → List Place
  | .node (.use name) span _, _ => [⟨⟨name, span, .plain⟩, []⟩]
  | .node .call _ (.node (.use name) span _ :: arguments), r =>
      ⟨⟨name, span, .called⟩, []⟩ :: placesOfAll arguments (r.use ⟨name, span, .called⟩)
  | .node .shorthand _ (.node (.use name) span _ :: value), r =>
      ⟨⟨name, span, .keyed⟩, []⟩ :: placesOfAll value (r.use ⟨name, span, .keyed⟩)
  | .node (.declaration hoisted) _ cs, r =>
      let names := bindersOfAll cs
      placesOfAll cs (if hoisted then r.hoistAll names else r.declareAll names)
  | .node (.functionDeclaration name) _ cs, r => placesOfAll cs (r.declareAll name.toList)
  | .node (.classDeclaration name) _ cs, r => placesOfAll cs (r.declareAll name.toList)
  | .node (.importing _) _ _, _ => []
  | .node (.function own) _ [parameters, body], r =>
      let inside := (r.enter true).declareAll (own.toList ++ parameters.binders)
      let atBody := (parameters.resolve inside).settle
      (parameters.places inside).map (.within (parameters.resolve inside).innermost)
        ++ (body.places atBody).map (.within (body.resolve atBody).innermost)
  | .node .staticBlock _ cs, r =>
      (placesOfAll cs (r.enter true)).map (.within (resolveAll cs (r.enter true)).innermost)
  | .node (.classBody own) _ cs, r =>
      let inside := (r.enter false).declareAll own.toList
      (placesOfAll cs inside).map (.within (resolveAll cs inside).innermost)
  | .node .block _ cs, r =>
      (placesOfAll cs (r.enter false)).map (.within (resolveAll cs (r.enter false)).innermost)
  | .node .loop _ cs, r =>
      (placesOfAll cs (r.enter false)).map (.within (resolveAll cs (r.enter false)).innermost)
  | .node .cases _ cs, r =>
      (placesOfAll cs (r.enter false)).map (.within (resolveAll cs (r.enter false)).innermost)
  | .node .catchClause _ [parameter, .node .block _ body], r =>
      let inside := (r.enter false).declareAll parameter.binders
      let atBody := (parameter.resolve inside).settle
      (parameter.places inside).map (.within (parameter.resolve inside).innermost)
        ++ (placesOfAll body atBody).map (.within (resolveAll body atBody).innermost)
  | .node _ _ cs, r => placesOfAll cs r

/-- The places of the uses of neighbours. -/
def placesOfAll : List Node → Resolution → List Place
  | [], _ => []
  | n :: rest, r => n.places r ++ placesOfAll rest (n.resolve r)

end

/-- The names that a node declares somewhere. -/
def Kind.declared : Kind → List String
  | .binder name => [name]
  | .function own => own.toList
  | .classBody own => own.toList
  | .functionDeclaration name => name.toList
  | .classDeclaration name => name.toList
  | .importing names => names
  | _ => []

mutual

/-- **The names that are declared** anywhere in a part of a script. -/
def Node.declared : Node → List String
  | .node kind _ cs => kind.declared ++ declaredOfAll cs

/-- What neighbours declare. -/
def declaredOfAll : List Node → List String
  | [] => []
  | n :: rest => n.declared ++ declaredOfAll rest

end

lemma subset_declared {names : List String} (kind : Kind) (span : Span) {cs : List Node}
    (h : names ⊆ declaredOfAll cs) : names ⊆ (Node.node kind span cs).declared := by
  rw [Node.declared]
  exact List.subset_append_of_subset_right _ h

/-- What a pattern binds is declared in it. -/
lemma binders_subset_declared :
    (∀ n : Node, n.binders ⊆ n.declared)
      ∧ (∀ ns : List Node, bindersOfFirst ns ⊆ declaredOfAll ns)
      ∧ (∀ ns : List Node, bindersOfLast ns ⊆ declaredOfAll ns)
      ∧ ∀ ns : List Node, bindersOfAll ns ⊆ declaredOfAll ns := by
  refine Node.binders.mutual_induct_unfolding (fun n names => names ⊆ n.declared)
    (fun ns names => names ⊆ declaredOfAll ns) (fun ns names => names ⊆ declaredOfAll ns)
    (fun ns names => names ⊆ declaredOfAll ns)
    ?binder ?pattern ?rest ?parameters ?declaration ?keyed ?fallback ?declarator ?other
    ?noFirst ?first ?noLast ?last ?earlier ?nil ?cons
  case binder => intro name span cs; simp [Node.declared, Kind.declared]
  case pattern => exact fun span cs ih => subset_declared _ span ih
  case rest => exact fun span cs ih => subset_declared _ span ih
  case parameters => exact fun span cs ih => subset_declared _ span ih
  case declaration => exact fun hoisted span cs ih => subset_declared _ span ih
  case keyed => exact fun span cs ih => subset_declared _ span ih
  case fallback => exact fun span cs ih => subset_declared _ span ih
  case declarator => exact fun span cs ih => subset_declared _ span ih
  case other => intros; exact List.nil_subset _
  case noFirst => exact List.nil_subset _
  case first => exact fun n rest ih => List.subset_append_of_subset_left _ ih
  case noLast => exact List.nil_subset _
  case last => exact fun n ih => List.subset_append_of_subset_left _ ih
  case earlier =>
    intro head rest hrest ih
    rw [bindersOfLast]
    · exact List.subset_append_of_subset_right _ ih
    · exact hrest
  case nil => exact List.nil_subset _
  case cons =>
    intro n rest ihn ihrest
    exact List.append_subset.2 ⟨List.subset_append_of_subset_left _ ihn,
      List.subset_append_of_subset_right _ ihrest⟩

namespace Resolution

variable {P : String → Prop}

/-- **What resolving does**, step by step, with the places of the uses that are met.  All names that
    are declared have the property `P`. -/
inductive Walk (P : String → Prop) : Resolution → List Place → Resolution → Prop
  | none (r : Resolution) : Walk P r [] r
  | use {r r' : Resolution} {qs : List Place} (u : Use) (h : Walk P r qs r') :
      Walk P r (qs ++ [⟨u, []⟩]) (r'.use u)
  | declare {r r' : Resolution} {qs : List Place} {name : String} (hname : P name)
      (h : Walk P r qs r') : Walk P r qs (r'.declare name)
  | hoist {r r' : Resolution} {qs : List Place} {name : String} (hname : P name)
      (h : Walk P r qs r') : Walk P r qs (r'.hoist name)
  | importName {r r' : Resolution} {qs : List Place} {name : String} (hname : P name)
      (h : Walk P r qs r') : Walk P r qs (r'.importName name)
  | scope {r r' r'' : Resolution} {qs qs' : List Place} (keepsHoisted : Bool) (h : Walk P r qs r')
      (hinside : Walk P (r'.enter keepsHoisted) qs' r'') :
      Walk P r (qs ++ qs'.map (.within r''.innermost)) r''.leave
  | parametersFirst {r r' r₁ r₂ : Resolution} {qs qs₁ qs₂ : List Place} (keepsHoisted : Bool)
      (h : Walk P r qs r') (hparameters : Walk P (r'.enter keepsHoisted) qs₁ r₁)
      (hbody : Walk P r₁.settle qs₂ r₂) :
      Walk P r (qs ++ (qs₁.map (.within r₁.innermost) ++ qs₂.map (.within r₂.innermost))) r₂.leave

namespace Walk

variable {r r' r'' r₁ r₂ : Resolution} {qs qs' qs₁ qs₂ : List Place}

lemma trans (h : Walk P r qs r') (h' : Walk P r' qs' r'') : Walk P r (qs ++ qs') r'' := by
  induction h' with
  | none => rwa [List.append_nil]
  | use u _ ih => exact List.append_assoc qs _ [⟨u, []⟩] ▸ .use u (ih h)
  | declare hname _ ih => exact .declare hname (ih h)
  | hoist hname _ ih => exact .hoist hname (ih h)
  | importName hname _ ih => exact .importName hname (ih h)
  | scope keepsHoisted _ hinside ih _ =>
      rw [← List.append_assoc]
      exact .scope keepsHoisted (ih h) hinside
  | parametersFirst keepsHoisted _ hparameters hbody ih _ _ =>
      rw [← List.append_assoc]
      exact .parametersFirst keepsHoisted (ih h) hparameters hbody

lemma declareAll {names : List String} (hnames : ∀ name ∈ names, P name) (h : Walk P r qs r') :
    Walk P r qs (r'.declareAll names) := by
  induction names generalizing r' with
  | nil => exact h
  | cons name names ih =>
      exact ih (fun n hn => hnames n (List.mem_cons_of_mem _ hn))
        (.declare (hnames name List.mem_cons_self) h)

lemma hoistAll {names : List String} (hnames : ∀ name ∈ names, P name) (h : Walk P r qs r') :
    Walk P r qs (r'.hoistAll names) := by
  induction names generalizing r' with
  | nil => exact h
  | cons name names ih =>
      exact ih (fun n hn => hnames n (List.mem_cons_of_mem _ hn))
        (.hoist (hnames name List.mem_cons_self) h)

lemma inScope (keepsHoisted : Bool) (names : List String) (hnames : ∀ name ∈ names, P name)
    (h : Walk P ((r.enter keepsHoisted).declareAll names) qs r') :
    Walk P r (qs.map (.within r'.innermost)) r'.leave :=
  .scope keepsHoisted (.none r) ((declareAll hnames (.none _)).trans h)

/-- **A walk through a function**: its parameters are settled before its body is entered. -/
lemma inFunction (keepsHoisted : Bool) {names : List String} (hnames : ∀ name ∈ names, P name)
    (hparameters : Walk P ((r.enter keepsHoisted).declareAll names) qs₁ r₁)
    (hbody : Walk P r₁.settle qs₂ r₂) :
    Walk P r (qs₁.map (.within r₁.innermost) ++ qs₂.map (.within r₂.innermost)) r₂.leave :=
  .parametersFirst keepsHoisted (.none r) ((declareAll hnames (.none _)).trans hparameters) hbody

end Walk

/-- **Resolving a part of a script** is a walk along the places of its uses. -/
theorem walk_resolve :
    (∀ (n : Node) (r : Resolution), (∀ name ∈ n.declared, P name) →
        Walk P r (n.places r) (n.resolve r) ∧ (n.places r).map Place.use = n.uses)
      ∧ ∀ (ns : List Node) (r : Resolution), (∀ name ∈ declaredOfAll ns, P name) →
          Walk P r (placesOfAll ns r) (resolveAll ns r)
            ∧ (placesOfAll ns r).map Place.use = usesOfAll ns := by
  -- What is declared around some children is declared by the node, or bound by one of them.
  have hchildren {kind : Kind} {span : Span} {cs : List Node}
      (h : ∀ name ∈ (Node.node kind span cs).declared, P name) :
      (∀ name ∈ kind.declared, P name) ∧ (∀ name ∈ bindersOfAll cs, P name)
        ∧ ∀ name ∈ declaredOfAll cs, P name := by
    rw [Node.declared, List.forall_mem_append] at h
    exact ⟨h.1, fun name hname => h.2 name (binders_subset_declared.2.2.2 cs hname), h.2⟩
  have hwithin (names : List (String × Variable)) (qs : List Place) :
      (qs.map (Place.within names)).map Place.use = qs.map Place.use :=
    List.map_map.trans rfl
  refine Node.resolve.mutual_induct_unfolding
    (fun n r r' => (∀ name ∈ n.declared, P name) →
      Walk P r (n.places r) r' ∧ (n.places r).map Place.use = n.uses)
    (fun ns r r' => (∀ name ∈ declaredOfAll ns, P name) →
      Walk P r (placesOfAll ns r) r' ∧ (placesOfAll ns r).map Place.use = usesOfAll ns)
    ?use ?called ?keyed ?declaration ?functionDeclaration ?classDeclaration ?importing ?function
    ?staticBlock ?classBody ?block ?loop ?cases ?catchClause ?other ?nil ?cons
  case use => exact fun name span _ r _ => ⟨.use ⟨name, span, .plain⟩ (.none r), rfl⟩
  case called =>
    intro _ name span _ arguments r ih h
    have huse : Walk P r [⟨⟨name, span, .called⟩, []⟩] _ := .use ⟨name, span, .called⟩ (.none r)
    obtain ⟨hwalk, huses⟩ := ih (List.forall_mem_append.1 (hchildren h).2.2).2
    exact ⟨huse.trans hwalk, congrArg (_ :: ·) huses⟩
  case keyed =>
    intro _ name span _ value r ih h
    have huse : Walk P r [⟨⟨name, span, .keyed⟩, []⟩] _ := .use ⟨name, span, .keyed⟩ (.none r)
    obtain ⟨hwalk, huses⟩ := ih (List.forall_mem_append.1 (hchildren h).2.2).2
    exact ⟨huse.trans hwalk, congrArg (_ :: ·) huses⟩
  case declaration =>
    intro hoisted _ cs r names ih h
    obtain ⟨-, hbinders, hinside⟩ := hchildren h
    have hdeclared :
        Walk P r [] (if hoisted = true then r.hoistAll names else r.declareAll names) := by
      split
      · exact .hoistAll hbinders (.none r)
      · exact .declareAll hbinders (.none r)
    exact ⟨hdeclared.trans (ih hinside).1, (ih hinside).2⟩
  case functionDeclaration =>
    intro name _ cs r ih h
    obtain ⟨hown, -, hinside⟩ := hchildren h
    exact ⟨(Walk.declareAll hown (.none r)).trans (ih hinside).1, (ih hinside).2⟩
  case classDeclaration =>
    intro name _ cs r ih h
    obtain ⟨hown, -, hinside⟩ := hchildren h
    exact ⟨(Walk.declareAll hown (.none r)).trans (ih hinside).1, (ih hinside).2⟩
  case importing =>
    exact fun names _ _ r h => ⟨.declareAll (hchildren h).1 (.none r), rfl⟩
  case function =>
    intro own span parameters body r _ ihparameters ihbody h
    obtain ⟨hown, hbinders, hinside⟩ := hchildren h
    obtain ⟨hparameters, hbody⟩ := List.forall_mem_append.1 hinside
    obtain ⟨hfirst, hfirst'⟩ := ihparameters hparameters
    obtain ⟨hthen, hthen'⟩ := ihbody (List.forall_mem_append.1 hbody).1
    refine ⟨.inFunction true ?_ hfirst hthen, ?_⟩
    · exact List.forall_mem_append.2 ⟨hown, (List.forall_mem_append.1 hbinders).1⟩
    · rw [Node.places, List.map_append, hwithin, hwithin, hfirst', hthen']
      simp [Node.uses, usesOfAll]
  case staticBlock =>
    intro _ cs r ih h
    obtain ⟨-, -, hinside⟩ := hchildren h
    exact ⟨.inScope true [] (List.forall_mem_nil _) (ih hinside).1,
      (hwithin _ _).trans (ih hinside).2⟩
  case classBody =>
    intro own _ cs r ih h
    obtain ⟨hown, -, hinside⟩ := hchildren h
    exact ⟨.inScope false own.toList hown (ih hinside).1, (hwithin _ _).trans (ih hinside).2⟩
  case block =>
    intro _ cs r ih h
    obtain ⟨-, -, hinside⟩ := hchildren h
    exact ⟨.inScope false [] (List.forall_mem_nil _) (ih hinside).1,
      (hwithin _ _).trans (ih hinside).2⟩
  case loop =>
    intro _ cs r ih h
    obtain ⟨-, -, hinside⟩ := hchildren h
    exact ⟨.inScope false [] (List.forall_mem_nil _) (ih hinside).1,
      (hwithin _ _).trans (ih hinside).2⟩
  case cases =>
    intro _ cs r ih h
    obtain ⟨-, -, hinside⟩ := hchildren h
    exact ⟨.inScope false [] (List.forall_mem_nil _) (ih hinside).1,
      (hwithin _ _).trans (ih hinside).2⟩
  case catchClause =>
    intro span parameter span' body r _ ihparameter ihbody h
    obtain ⟨-, hbinders, hinside⟩ := hchildren h
    obtain ⟨hparameter, hblock⟩ := List.forall_mem_append.1 hinside
    obtain ⟨hfirst, hfirst'⟩ := ihparameter hparameter
    obtain ⟨hthen, hthen'⟩ := ihbody (hchildren (List.forall_mem_append.1 hblock).1).2.2
    refine ⟨.inFunction false (List.forall_mem_append.1 hbinders).1 hfirst hthen, ?_⟩
    rw [Node.places, List.map_append, hwithin, hwithin, hfirst', hthen']
    simp [Node.uses, usesOfAll]
  case other =>
    intro kind span cs r huse hcalled hkeyed hdeclaration hfunction hclass himporting hown hstatic
      hclassBody hblock hloop hcases hcatch ih h
    have huses : (Node.node kind span cs).uses = usesOfAll cs := by
      rw [Node.uses] <;> assumption
    have hplaces : (Node.node kind span cs).places r = placesOfAll cs r := by
      rw [Node.places] <;> assumption
    rw [huses, hplaces]
    exact ih (hchildren h).2.2
  case nil => exact fun r _ => ⟨.none r, rfl⟩
  case cons =>
    intro n rest r ihn ihrest h
    obtain ⟨hn, hrest⟩ := List.forall_mem_append.1 h
    exact ⟨(ihn hn).1.trans (ihrest hrest).1, by
      rw [placesOfAll, List.map_append, (ihn hn).2, (ihrest hrest).2, usesOfAll]⟩

/-! ## Names -/

/-- All names that are known around the current place have a property. -/
def Knows (P : String → Prop) (r : Resolution) : Prop :=
  ∀ s ∈ r.scopes, ∀ e ∈ s.names ++ s.passed, P e.1

namespace Knows

variable {r r' : Resolution}

lemma mono (h : Knows P r)
    (hscopes : ∀ s' ∈ r'.scopes, ∀ e ∈ s'.names ++ s'.passed,
      P e.1 ∨ ∃ s ∈ r.scopes, e ∈ s.names ++ s.passed) : Knows P r' := by
  intro s' hs' e he
  rcases hscopes s' hs' e he with hP | ⟨s, hs, he⟩
  · exact hP
  · exact h s hs e he

lemma use (h : Knows P r) (u : Use) : Knows P (r.use u) :=
  h.mono fun _ hs' _ he => .inr (mem_of_use hs' he)

lemma declare (h : Knows P r) {name : String} (hname : P name) : Knows P (r.declare name) :=
  h.mono fun _ hs' _ he => (mem_of_declare hs' he).imp_left fun heq => by
    rw [heq]
    exact hname

lemma hoist (h : Knows P r) {name : String} (hname : P name) : Knows P (r.hoist name) :=
  h.mono fun _ hs' _ he => (mem_of_carry false hs' he).imp_left fun heq => by
    rw [heq]
    exact hname

lemma settle (h : Knows P r) : Knows P r.settle :=
  h.mono fun _ hs' _ he => .inr (mem_of_settle hs' he)

lemma enter (h : Knows P r) (keepsHoisted : Bool) : Knows P (r.enter keepsHoisted) :=
  List.forall_mem_cons.2 ⟨by simp [Scope.blank], h⟩

lemma leave (h : Knows P r) : Knows P r.leave :=
  h.settle.mono fun s' hs' _ he => .inr ⟨s', List.mem_of_mem_drop hs', he⟩

lemma innermost (h : Knows P r) : ∀ e ∈ r.innermost, P e.1 := by
  intro e he
  rw [Resolution.innermost] at he
  cases hscopes : r.scopes with
  | nil => simp [hscopes] at he
  | cons s around => exact h s (by simp [hscopes]) e (by simp_all)

end Knows

/-- What is known along a walk has the property of the names that are declared on it. -/
lemma Walk.knows {r r' : Resolution} {qs : List Place} (h : Walk P r qs r') (hr : Knows P r) :
    Knows P r' ∧ ∀ q ∈ qs, q.Knows P := by
  induction h with
  | none => exact ⟨hr, List.forall_mem_nil _⟩
  | use u _ ih =>
      obtain ⟨hknows, hqs⟩ := ih hr
      refine ⟨hknows.use u, List.forall_mem_append.2 ⟨hqs, ?_⟩⟩
      simp [Place.Knows]
  | declare hname _ ih => exact ⟨(ih hr).1.declare hname, (ih hr).2⟩
  | hoist hname _ ih => exact ⟨(ih hr).1.hoist hname, (ih hr).2⟩
  | importName hname _ ih => exact ⟨(ih hr).1.declare hname, (ih hr).2⟩
  | scope keepsHoisted _ _ ih ihinside =>
      obtain ⟨hknows, hqs⟩ := ih hr
      obtain ⟨hknows', hqs'⟩ := ihinside (hknows.enter keepsHoisted)
      exact ⟨hknows'.leave, List.forall_mem_append.2
        ⟨hqs, List.forall_mem_map.2 fun q hq => (hqs' q hq).within hknows'.innermost⟩⟩
  | parametersFirst keepsHoisted _ _ _ ih ihparameters ihbody =>
      obtain ⟨hknows, hqs⟩ := ih hr
      obtain ⟨hknows₁, hqs₁⟩ := ihparameters (hknows.enter keepsHoisted)
      obtain ⟨hknows₂, hqs₂⟩ := ihbody hknows₁.settle
      refine ⟨hknows₂.leave, List.forall_mem_append.2 ⟨hqs, List.forall_mem_append.2 ⟨?_, ?_⟩⟩⟩
      · exact List.forall_mem_map.2 fun q hq => (hqs₁ q hq).within hknows₁.innermost
      · exact List.forall_mem_map.2 fun q hq => (hqs₂ q hq).within hknows₂.innermost

/-! ## Meaning -/

/-- **What becomes of the uses of some places**: those that mean something are settled, and the
    others wait, below as many scopes as are given, in which nothing waits. -/
structure Accounted (depth : ℕ) (r : Resolution) (qs : List Place) (r' : Resolution) : Prop where
  settled : r'.settled.Perm (r.settled ++ qs.filterMap Place.settled?)
  waiting : ∃ us us' around, r.scopes.map Scope.uses = List.replicate depth [] ++ us :: around
    ∧ r'.scopes.map Scope.uses = List.replicate depth [] ++ us' :: around
    ∧ us'.Perm (us ++ qs.filterMap Place.open?)

namespace Accounted

variable {r r' r'' : Resolution} {qs qs' : List Place} {depth : ℕ}

lemma trans (h : Accounted depth r qs r') (h' : Accounted depth r' qs' r'') :
    Accounted depth r (qs ++ qs') r'' where
  settled := by
    rw [List.filterMap_append, ← List.append_assoc]
    exact h'.settled.trans (h.settled.append_right _)
  waiting := by
    obtain ⟨us, us', around, hr, hr', hperm⟩ := h.waiting
    obtain ⟨vs, vs', around', hr'', hr''', hperm'⟩ := h'.waiting
    rw [hr', List.append_cancel_left_eq, List.cons.injEq] at hr''
    obtain ⟨rfl, rfl⟩ := hr''
    refine ⟨us, vs', around, hr, hr''', ?_⟩
    rw [List.filterMap_append, ← List.append_assoc]
    exact hperm'.trans (hperm.append_right _)

/-- Nothing becomes of any use. -/
lemma same (hr : r.scopes ≠ []) (hsettled : r'.settled = r.settled)
    (hscopes : r'.scopes.map Scope.uses = r.scopes.map Scope.uses) : Accounted 0 r [] r' := by
  obtain ⟨s, around, hr⟩ := List.exists_cons_of_ne_nil hr
  refine ⟨by simp [hsettled], s.uses, s.uses, around.map Scope.uses, ?_, ?_, by simp⟩
  · rw [hr]
    rfl
  · rw [hscopes, hr]
    rfl

lemma scopes_ne_nil (h : Accounted depth r qs r') : r'.scopes ≠ [] := by
  obtain ⟨us, us', around, -, hr', -⟩ := h.waiting
  intro hnil
  simp [hnil] at hr'

lemma andSame (h : Accounted 0 r qs r') (hsettled : r''.settled = r'.settled)
    (hscopes : r''.scopes.map Scope.uses = r'.scopes.map Scope.uses) : Accounted 0 r qs r'' := by
  have hsame := h.trans (.same h.scopes_ne_nil hsettled hscopes)
  rwa [List.append_nil] at hsame

/-- A use begins to wait. -/
lemma use (hr : r.scopes ≠ []) (u : Use) : Accounted 0 r [⟨u, []⟩] (r.use u) := by
  obtain ⟨s, around, hr⟩ := List.exists_cons_of_ne_nil hr
  have hsettled : [(⟨u, []⟩ : Place)].filterMap Place.settled? = [] := rfl
  refine ⟨by simp [Resolution.use, hsettled], s.uses, u :: s.uses, around.map Scope.uses,
    by simp [hr], ?_, ?_⟩
  · simp [Resolution.use, hr, awaitInnermost, Scope.await]
  · have hopen : [(⟨u, []⟩ : Place)].filterMap Place.open? = [u] := rfl
    rw [hopen]
    exact (List.perm_append_singleton u s.uses).symm

/-- After a walk the innermost scope has taken up the uses that stay open. -/
lemma exists_innermost (h : Accounted 0 r qs r') {us : List Use} {around : List (List Use)}
    (hr : r.scopes.map Scope.uses = us :: around) :
    ∃ s rest, r'.scopes = s :: rest ∧ r'.innermost = s.names ∧ rest.map Scope.uses = around
      ∧ s.uses.Perm (us ++ qs.filterMap Place.open?) := by
  obtain ⟨vs, vs', around', hr', hscopes, hperm⟩ := h.waiting
  obtain ⟨rfl, rfl⟩ := List.cons.inj (hr.symm.trans hr')
  obtain ⟨s, rest, hcons, rfl, hrest⟩ := List.map_eq_cons_iff.1 hscopes
  exact ⟨s, rest, hcons, by simp [innermost, hcons], hrest, hperm⟩

/-- What is settled with the innermost scope. -/
lemma settled_settle (h : Accounted 0 r qs r') {around : List (List Use)}
    (hr : r.scopes.map Scope.uses = [] :: around) :
    r'.settle.settled.Perm
      (r.settled ++ (qs.map (.within r'.innermost)).filterMap Place.settled?) := by
  obtain ⟨s, rest, hscopes, hinnermost, -, hperm⟩ := h.exists_innermost hr
  have hnew : s.settledUses.Perm ((qs.filterMap Place.open?).filterMap
      fun u => (s.names.lookup u.name).map fun v => (u, v)) := hperm.filterMap _
  have hsettle : r'.settle.settled = s.settledUses ++ r'.settled := by
    simp [Resolution.settle, hscopes]
  rw [hinnermost, hsettle]
  refine (hnew.append h.settled).trans (List.perm_append_comm.trans ?_)
  rw [List.append_assoc]
  exact (Place.settled_within_perm s.names qs).symm.append_left _

/-- The innermost scope is settled. -/
lemma settle (h : Accounted 0 r qs r') {us : List Use} {around : List (List Use)}
    (hr : r.scopes.map Scope.uses = [] :: us :: around) :
    Accounted 1 r (qs.map (.within r'.innermost)) r'.settle := by
  obtain ⟨s, rest, hscopes, hinnermost, hrest, hperm⟩ := h.exists_innermost hr
  obtain ⟨t, rest, rfl, rfl, rfl⟩ := List.map_eq_cons_iff.1 hrest
  refine ⟨h.settled_settle hr, t.uses, s.foreignUses ++ t.uses, rest.map Scope.uses, hr, ?_, ?_⟩
  · simp [Resolution.settle, hscopes, awaitInnermost, Scope.await]
  · rw [hinnermost, Place.open_within]
    exact List.perm_append_comm.trans ((hperm.filter _).append_left _)

/-- The innermost scope is left, after it was settled. -/
lemma leave {keepsHoisted : Bool} (h : Accounted 1 (r.enter keepsHoisted) qs r') :
    Accounted 0 r qs { r' with scopes := r'.scopes.drop 1 } := by
  obtain ⟨us, us', around, henter, hscopes, hperm⟩ := h.waiting
  refine ⟨h.settled, us, us', around, (List.cons.inj henter).2, ?_, hperm⟩
  rw [List.map_drop, hscopes]
  rfl

end Accounted

lemma exists_uses_enter {r : Resolution} (hr : r.scopes ≠ []) (keepsHoisted : Bool) :
    ∃ us around, (r.enter keepsHoisted).scopes.map Scope.uses = [] :: us :: around := by
  obtain ⟨s, around, hr⟩ := List.exists_cons_of_ne_nil hr
  exact ⟨s.uses, around.map Scope.uses, by simp [Resolution.enter, Scope.blank, hr]⟩

/-- **Along a walk** the uses that mean something are settled, and the others wait. -/
theorem Walk.accounted {r r' : Resolution} {qs : List Place} (h : Walk P r qs r')
    (hr : r.scopes ≠ []) : Accounted 0 r qs r' := by
  induction h with
  | none => exact .same hr rfl rfl
  | use u _ ih => exact (ih hr).trans (.use (ih hr).scopes_ne_nil u)
  | @declare r r' qs name _ _ ih =>
      obtain ⟨hsettled, huses⟩ := uses_declare r' name
      exact (ih hr).andSame hsettled huses
  | @hoist r r' qs name _ _ ih => exact (ih hr).andSame rfl (map_uses_carry _ _ _ _)
  | @importName r r' qs name _ _ ih =>
      obtain ⟨hsettled, huses⟩ := uses_declare r' name
      exact (ih hr).andSame hsettled huses
  | scope keepsHoisted _ _ ih ihinside =>
      have hne := (ih hr).scopes_ne_nil
      obtain ⟨us, around, henter⟩ := exists_uses_enter hne keepsHoisted
      exact (ih hr).trans (((ihinside (List.cons_ne_nil _ _)).settle henter).leave)
  | parametersFirst keepsHoisted _ _ _ ih ihparameters ihbody =>
      have hne := (ih hr).scopes_ne_nil
      obtain ⟨us, around, henter⟩ := exists_uses_enter hne keepsHoisted
      have hparameters := (ihparameters (List.cons_ne_nil _ _)).settle henter
      obtain ⟨-, us', around', -, hbefore, -⟩ := hparameters.waiting
      have hbody := (ihbody hparameters.scopes_ne_nil).settle hbefore
      exact (ih hr).trans ((hparameters.trans hbody).leave)

end Resolution

/-! ## Items -/

/-- The names that are declared anywhere in an item. -/
def Item.declared (item : Item) : List String := item.toNode.declared

/-- The uses in some items with their places, within the outermost scope. -/
def placesOfItems : List Item → Resolution → List Place
  | [], _ => []
  | item :: rest, r => item.toNode.places r ++ placesOfItems rest (item.resolve r)

/-- **The uses of a script with their places.** -/
def Place.ofItems (items : List Item) : List Place :=
  (placesOfItems items .start).map (.within (items.foldl Item.resolve .start).innermost)

namespace Resolution

variable {P : String → Prop} {r r' : Resolution} {qs : List Place}

lemma Walk.importAll {names : List String} (hnames : ∀ name ∈ names, P name) (h : Walk P r qs r') :
    Walk P r qs (names.foldl Resolution.importName r') := by
  induction names generalizing r' with
  | nil => exact h
  | cons name names ih =>
      exact ih (fun n hn => hnames n (List.mem_cons_of_mem _ hn))
        (.importName (hnames name List.mem_cons_self) h)

lemma walk_item (item : Item) (r : Resolution) (hitem : ∀ name ∈ item.declared, P name) :
    Walk P r (item.toNode.places r) (item.resolve r)
      ∧ (item.toNode.places r).map Place.use = item.uses := by
  cases item with
  | importing s source bindings =>
      refine ⟨.importAll (fun name hname => hitem name ?_) (.none r), rfl⟩
      simpa [Item.declared, Item.toNode, Node.declared, Kind.declared, declaredOfAll] using hname
  | _ => exact walk_resolve.1 _ r hitem

lemma walk_items (items : List Item) (r : Resolution)
    (hitems : ∀ item ∈ items, ∀ name ∈ item.declared, P name) :
    Walk P r (placesOfItems items r) (items.foldl Item.resolve r)
      ∧ (placesOfItems items r).map Place.use = items.flatMap Item.uses := by
  induction items generalizing r with
  | nil => exact ⟨.none r, rfl⟩
  | cons item rest ih =>
      obtain ⟨hwalk, huses⟩ := walk_item item r (hitems item List.mem_cons_self)
      obtain ⟨hwalk', huses'⟩ :=
        ih (item.resolve r) fun i hi => hitems i (List.mem_cons_of_mem _ hi)
      exact ⟨hwalk.trans hwalk', by
        rw [placesOfItems, List.map_append, huses, huses', List.flatMap_cons]⟩

/-! ## Whole scripts -/

variable (items : List Item)

/-- The places are those of the uses of the script, in their order. -/
theorem use_places : (Place.ofItems items).map Place.use = items.flatMap Item.uses := by
  rw [Place.ofItems, List.map_map]
  exact (walk_items (P := fun _ => True) items .start fun _ _ _ _ => trivial).2

/-- **A use is settled to what its name stands for in its place**, if it stands for anything. -/
theorem settled_perm_places :
    (ofItems items).settled.Perm ((Place.ofItems items).filterMap Place.settled?) := by
  have hwalk := (walk_items (P := fun _ => True) items .start fun _ _ _ _ => trivial).1
  have haccounted := hwalk.accounted (List.cons_ne_nil _ _)
  have hstart : Resolution.start.scopes.map Scope.uses = [[]] := rfl
  exact haccounted.settled_settle hstart

/-- What a name stands for at the top of a script. -/
lemma named?_eq_lookup (name : String) :
    (ofItems items).named? name = (items.foldl Item.resolve .start).innermost.lookup name := by
  rw [ofItems, settle, named?, innermost]
  cases hscopes : (items.foldl Item.resolve .start).scopes <;> simp [hscopes]

lemma knows_items :
    Knows (· ∈ items.flatMap Item.declared) (items.foldl Item.resolve .start)
      ∧ ∀ q ∈ placesOfItems items .start, q.Knows (· ∈ items.flatMap Item.declared) := by
  have hwalk := (walk_items (P := (· ∈ items.flatMap Item.declared)) items .start
    fun item hitem name hname => List.mem_flatMap.2 ⟨item, hitem, hname⟩).1
  exact hwalk.knows (by simp [Knows, start, Scope.blank])

/-- **Only what a script declares** stands for anything around the uses in it. -/
theorem knows_places {q : Place} (hq : q ∈ Place.ofItems items) :
    q.Knows (· ∈ items.flatMap Item.declared) := by
  obtain ⟨q', hq', rfl⟩ := List.mem_map.1 hq
  exact ((knows_items items).2 q' hq').within (knows_items items).1.innermost

/-- Only what a script declares stands for anything at its top. -/
theorem mem_declared_of_named {name : String} {v : Variable}
    (h : (ofItems items).named? name = some v) : name ∈ items.flatMap Item.declared := by
  rw [named?_eq_lookup] at h
  exact (knows_items items).1.innermost _ (mem_of_lookup h)

end Resolution

end ModuleBundler.Script
