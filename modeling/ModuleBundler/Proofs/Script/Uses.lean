import Mathlib.Data.List.Flatten
import Mathlib.Data.List.Perm.Basic
import Mathlib.Data.Set.Function
import ModuleBundler.Script.Resolve

/-!
# Every use is met once

`Node.uses` lists the uses of names in a part of a script, each in its manner, from the first to the
last.  Resolving goes through the same part with scopes that come and go.

**Moves.**  Whatever is resolved, the resolution changes by a few moves: a use begins to wait, a
name is declared or hoisted, and a scope is entered, settled and left (`moves_resolve`).  What holds
of these moves holds of every script.

**Nothing is lost.**  The uses that are settled and those that still wait are together the uses met
so far, each as often as it was met (`Moves.collected`).
-/

namespace ModuleBundler.Script

mutual

/-- **The uses of names** in a part of a script, each in its manner. -/
def Node.uses : Node → List Use
  | .node (.use name) span _ => [⟨name, span, .plain⟩]
  | .node .call _ (.node (.use name) span _ :: arguments) =>
      ⟨name, span, .called⟩ :: usesOfAll arguments
  | .node .shorthand _ (.node (.use name) span _ :: value) =>
      ⟨name, span, .keyed⟩ :: usesOfAll value
  | .node (.importing _) _ _ => []
  | .node _ _ cs => usesOfAll cs

/-- The uses of neighbours. -/
def usesOfAll : List Node → List Use
  | [] => []
  | n :: rest => n.uses ++ usesOfAll rest

end

@[simp] lemma Node.uses_other (span : Span) (n : Node) :
    (Node.node .other span [n]).uses = n.uses := by
  simp [Node.uses, usesOfAll]

/-- The uses of a scope are those of its names and those that are foreign to it. -/
lemma Scope.uses_perm (s : Scope) : (s.settledUses.map Prod.fst ++ s.foreignUses).Perm s.uses := by
  have hsettled : s.settledUses.map Prod.fst
      = s.uses.filter fun u => !(s.names.lookup u.name).isNone := by
    rw [settledUses, List.map_filterMap, ← List.filterMap_eq_filter]
    refine List.filterMap_congr fun u _ => ?_
    cases h : s.names.lookup u.name <;> simp [Option.guard, h]
  rw [hsettled]
  exact List.perm_append_comm.trans (List.filter_append_perm _ s.uses)

namespace Resolution

/-- The uses met so far: those that are settled, and those that wait. -/
def collected (r : Resolution) : List Use :=
  r.settled.map Prod.fst ++ r.scopes.flatMap Scope.uses

/-- **What resolving does**, move by move, with the uses that are met. -/
inductive Moves : Resolution → List Use → Resolution → Prop
  | none (r : Resolution) : Moves r [] r
  | use {r r' : Resolution} {us : List Use} (u : Use) (h : Moves r us r') :
      Moves r (us ++ [u]) (r'.use u)
  | declare {r r' : Resolution} {us : List Use} (name : String) (h : Moves r us r') :
      Moves r us (r'.declare name)
  | hoist {r r' : Resolution} {us : List Use} (name : String) (h : Moves r us r') :
      Moves r us (r'.hoist name)
  | settle {r r' : Resolution} {us : List Use} (hinner : 1 < r'.scopes.length) (h : Moves r us r') :
      Moves r us r'.settle
  | scope {r r' r'' : Resolution} {us us' : List Use} (keepsHoisted : Bool) (h : Moves r us r')
      (hinside : Moves (r'.enter keepsHoisted) us' r'') : Moves r (us ++ us') r''.leave

namespace Moves

variable {r r' r'' : Resolution} {us us' : List Use}

lemma trans (h : Moves r us r') (h' : Moves r' us' r'') : Moves r (us ++ us') r'' := by
  induction h' with
  | none => rwa [List.append_nil]
  | use u _ ih => exact List.append_assoc us _ [u] ▸ .use u (ih h)
  | declare name _ ih => exact .declare name (ih h)
  | hoist name _ ih => exact .hoist name (ih h)
  | settle hinner _ ih => exact .settle hinner (ih h)
  | scope keepsHoisted _ hinside ih _ =>
      rw [← List.append_assoc]
      exact .scope keepsHoisted (ih h) hinside

lemma declareAll (names : List String) (h : Moves r us r') : Moves r us (r'.declareAll names) := by
  induction names generalizing r' with
  | nil => exact h
  | cons name names ih => exact ih (.declare name h)

lemma hoistAll (names : List String) (h : Moves r us r') : Moves r us (r'.hoistAll names) := by
  induction names generalizing r' with
  | nil => exact h
  | cons name names ih => exact ih (.hoist name h)

end Moves

/-! ## The scopes around -/

lemma length_carry (name : String) (v : Variable) (moved : Bool) (scopes : List Scope) :
    (carry name v moved scopes).length = scopes.length := by
  induction scopes generalizing moved with
  | nil => rfl
  | cons s around ih =>
      rw [carry]
      split
      · rfl
      · rw [List.length_cons, List.length_cons, ih]

lemma length_awaitInnermost (uses : List Use) (scopes : List Scope) :
    (awaitInnermost uses scopes).length = scopes.length := by
  cases scopes <;> rfl

@[simp] lemma length_scopes_declare (r : Resolution) (name : String) :
    (r.declare name).scopes.length = r.scopes.length := by
  rw [declare]
  split
  · rfl
  · next hscopes =>
      split
      · rfl
      · rw [hscopes]
        rfl

@[simp] lemma length_scopes_settle (r : Resolution) :
    r.settle.scopes.length = r.scopes.length := by
  rw [settle]
  split
  · rfl
  · next hscopes =>
      rw [hscopes, List.length_cons, List.length_cons, length_awaitInnermost]

/-- A scope that was entered has been left in the end. -/
lemma Moves.length_scopes {r r' : Resolution} {us : List Use} (h : Moves r us r') :
    r'.scopes.length = r.scopes.length := by
  induction h with
  | none => rfl
  | use u _ ih => exact (length_awaitInnermost _ _).trans ih
  | declare name _ ih => rwa [length_scopes_declare]
  | hoist name _ ih => exact (length_carry _ _ _ _).trans ih
  | settle _ _ ih => rwa [length_scopes_settle]
  | scope keepsHoisted _ _ ih ihinside =>
      change (List.drop 1 _).length = _
      rw [List.length_drop, length_scopes_settle, ihinside]
      exact ih

lemma Moves.scopes_ne_nil {r r' : Resolution} {us : List Use} (h : Moves r us r')
    (hr : r.scopes ≠ []) : r'.scopes ≠ [] := by
  rw [← List.length_pos_iff, h.length_scopes]
  exact List.length_pos_iff.2 hr

/-- What is met inside a scope that is entered and left again. -/
lemma Moves.inScope {r r' : Resolution} {us : List Use} (keepsHoisted : Bool) (names : List String)
    (h : ((r.enter keepsHoisted).declareAll names).scopes ≠ [] →
      Moves ((r.enter keepsHoisted).declareAll names) us r') : Moves r us r'.leave := by
  have hdeclared := Moves.declareAll names (.none (r.enter keepsHoisted))
  have hinside := hdeclared.trans (h (hdeclared.scopes_ne_nil (List.cons_ne_nil _ _)))
  exact .scope keepsHoisted (.none r) hinside

/-- What is met inside a scope whose parameters are settled before the rest. -/
lemma Moves.parametersFirst {r r₁ r₂ : Resolution} {us us' : List Use} (keepsHoisted : Bool)
    (hr : r.scopes ≠ []) (names : List String)
    (hparameters : ((r.enter keepsHoisted).declareAll names).scopes ≠ [] →
      Moves ((r.enter keepsHoisted).declareAll names) us r₁)
    (hbody : r₁.settle.scopes ≠ [] → Moves r₁.settle us' r₂) :
    Moves r (us ++ us') r₂.leave := by
  refine .inScope keepsHoisted names fun hne => ?_
  have hhead := hparameters hne
  have hlength : r₁.scopes.length = (r.enter keepsHoisted).scopes.length :=
    hhead.length_scopes.trans (Moves.declareAll names (.none _)).length_scopes
  have hinner : 1 < r₁.scopes.length := by
    rw [hlength]
    exact Nat.succ_lt_succ (List.length_pos_iff.2 hr)
  have hsettled := Moves.settle hinner hhead
  exact hsettled.trans (hbody (hsettled.scopes_ne_nil hne))

/-- **Resolving a part of a script** meets its uses, by moves. -/
theorem moves_resolve :
    (∀ (n : Node) (r : Resolution), r.scopes ≠ [] → Moves r n.uses (n.resolve r))
      ∧ ∀ (ns : List Node) (r : Resolution), r.scopes ≠ [] →
          Moves r (usesOfAll ns) (resolveAll ns r) := by
  refine Node.resolve.mutual_induct_unfolding
    (fun n r r' => r.scopes ≠ [] → Moves r n.uses r')
    (fun ns r r' => r.scopes ≠ [] → Moves r (usesOfAll ns) r')
    ?use ?called ?keyed ?declaration ?functionDeclaration ?classDeclaration ?importing ?function
    ?staticBlock ?classBody ?block ?loop ?cases ?catchClause ?other ?nil ?cons
  case use => exact fun name span _ r _ => .use ⟨name, span, .plain⟩ (.none r)
  case called =>
    intro _ name span _ _ r ih hr
    have huse : Moves r [⟨name, span, .called⟩] _ := .use ⟨name, span, .called⟩ (.none r)
    exact huse.trans (ih (huse.scopes_ne_nil hr))
  case keyed =>
    intro _ name span _ _ r ih hr
    have huse : Moves r [⟨name, span, .keyed⟩] _ := .use ⟨name, span, .keyed⟩ (.none r)
    exact huse.trans (ih (huse.scopes_ne_nil hr))
  case declaration =>
    intro hoisted _ cs r names ih hr
    have hdeclared :
        Moves r [] (if hoisted = true then r.hoistAll names else r.declareAll names) := by
      split
      · exact .hoistAll names (.none r)
      · exact .declareAll names (.none r)
    exact hdeclared.trans (ih (hdeclared.scopes_ne_nil hr))
  case functionDeclaration =>
    intro name _ cs r ih hr
    have hdeclared := Moves.declareAll name.toList (.none r)
    exact hdeclared.trans (ih (hdeclared.scopes_ne_nil hr))
  case classDeclaration =>
    intro name _ cs r ih hr
    have hdeclared := Moves.declareAll name.toList (.none r)
    exact hdeclared.trans (ih (hdeclared.scopes_ne_nil hr))
  case importing => exact fun names _ _ r _ => .declareAll names (.none r)
  case function =>
    intro own span parameters body r _ ihparameters ihbody hr
    have huses : (Node.node (.function own) span [parameters, body]).uses
        = parameters.uses ++ body.uses := by
      simp [Node.uses, usesOfAll]
    rw [huses]
    exact .parametersFirst true hr _ ihparameters ihbody
  case staticBlock => exact fun _ cs r ih _ => .inScope true [] ih
  case classBody => exact fun own _ cs r ih _ => .inScope false own.toList ih
  case block => exact fun _ cs r ih _ => .inScope false [] ih
  case loop => exact fun _ cs r ih _ => .inScope false [] ih
  case cases => exact fun _ cs r ih _ => .inScope false [] ih
  case catchClause =>
    intro span parameter span' body r _ ihparameter ihbody hr
    have huses : (Node.node .catchClause span [parameter, .node .block span' body]).uses
        = parameter.uses ++ usesOfAll body := by
      simp [Node.uses, usesOfAll]
    rw [huses]
    exact .parametersFirst false hr _ ihparameter ihbody
  case other =>
    intro kind span cs r huse hcalled hkeyed _ _ _ himporting _ _ _ _ _ _ _ ih hr
    have huses : (Node.node kind span cs).uses = usesOfAll cs := by
      rw [Node.uses] <;> assumption
    exact huses ▸ ih hr
  case nil => exact fun r _ => .none r
  case cons =>
    intro n rest r ihn ihrest hr
    exact (ihn hr).trans (ihrest ((ihn hr).scopes_ne_nil hr))

/-! ## Nothing is lost -/

/-- Declaring a name does nothing to the uses. -/
lemma uses_declare (r : Resolution) (name : String) :
    (r.declare name).settled = r.settled
      ∧ (r.declare name).scopes.map Scope.uses = r.scopes.map Scope.uses := by
  rw [declare]
  split
  · exact ⟨rfl, rfl⟩
  · next s around hscopes =>
      split
      · exact ⟨rfl, rfl⟩
      · exact ⟨rfl, by simp [hscopes, Scope.give]⟩

@[simp] lemma collected_declare (r : Resolution) (name : String) :
    (r.declare name).collected = r.collected := by
  obtain ⟨hsettled, huses⟩ := uses_declare r name
  rw [collected, collected, List.flatMap_def, List.flatMap_def, hsettled, huses]

/-- Carrying a name outwards does nothing to the uses. -/
lemma map_uses_carry (name : String) (v : Variable) (moved : Bool) (scopes : List Scope) :
    (carry name v moved scopes).map Scope.uses = scopes.map Scope.uses := by
  induction scopes generalizing moved with
  | nil => rfl
  | cons s around ih =>
      rw [carry]
      split
      · rfl
      · rw [List.map_cons, List.map_cons, ih]
        congr 1
        split <;> rfl

lemma uses_carry (name : String) (v : Variable) (moved : Bool) (scopes : List Scope) :
    (carry name v moved scopes).flatMap Scope.uses = scopes.flatMap Scope.uses := by
  rw [List.flatMap_def, List.flatMap_def, map_uses_carry]

/-- Uses that wait are collected in the innermost scope. -/
lemma uses_awaitInnermost (uses : List Use) {scopes : List Scope} (h : scopes ≠ []) :
    (awaitInnermost uses scopes).flatMap Scope.uses = uses ++ scopes.flatMap Scope.uses := by
  cases scopes with
  | nil => exact absurd rfl h
  | cons s around => exact List.append_assoc uses s.uses _

/-- Settling a scope inside another one loses no use. -/
lemma collected_settle {r : Resolution} (hinner : 1 < r.scopes.length) :
    r.settle.collected.Perm r.collected := by
  obtain ⟨next, scopes, settled, imports⟩ := r
  match scopes, hinner with
  | s :: t :: around, _ =>
      have hsplit : (s.settledUses.map Prod.fst ++ settled.map Prod.fst
            ++ (s.foreignUses ++ (t :: around).flatMap Scope.uses)).Perm
          (settled.map Prod.fst ++ (s.uses ++ (t :: around).flatMap Scope.uses)) := by
        have huses := s.uses_perm
        refine (List.Perm.append_right _ List.perm_append_comm).trans ?_
        rw [List.append_assoc, ← List.append_assoc (s.settledUses.map Prod.fst)]
        exact (huses.append_right _).append_left _
      rw [collected, settle, List.map_append, List.flatMap_cons,
        uses_awaitInnermost _ (List.cons_ne_nil t around)]
      exact hsplit

/-- A scope that is left has handed over its uses. -/
lemma collected_leave {r : Resolution} (hinner : 1 < r.scopes.length) :
    r.leave.collected.Perm r.collected := by
  refine List.Perm.trans (.of_eq ?_) (collected_settle hinner)
  obtain ⟨next, scopes, settled, imports⟩ := r
  match scopes, hinner with
  | s :: t :: around, _ => rfl

/-- **The uses met** are collected, each as often as it was met. -/
theorem Moves.collected {r r' : Resolution} {us : List Use} (h : Moves r us r')
    (hr : r.scopes ≠ []) : r'.collected.Perm (r.collected ++ us) := by
  induction h with
  | none => rw [List.append_nil]
  | @use r r' us u h ih =>
      have hwaiting := uses_awaitInnermost [u] (h.scopes_ne_nil hr)
      have hmet : (r'.use u).collected.Perm (r'.collected ++ [u]) := by
        rw [Resolution.collected, Resolution.collected, List.append_assoc]
        refine List.Perm.append_left _ ?_
        change ((awaitInnermost [u] r'.scopes).flatMap Scope.uses).Perm _
        rw [hwaiting]
        exact List.perm_append_comm
      rw [← List.append_assoc]
      exact hmet.trans ((ih hr).append_right [u])
  | declare name _ ih => rw [collected_declare]; exact ih hr
  | hoist name _ ih =>
      refine List.Perm.trans (.of_eq ?_) (ih hr)
      exact congrArg (_ ++ ·) (uses_carry _ _ _ _)
  | settle hinner _ ih => exact (collected_settle hinner).trans (ih hr)
  | @scope r r' r'' us us' keepsHoisted h hinside ih ihinside =>
      have hlength := hinside.length_scopes
      have hinner : 1 < r''.scopes.length := by
        rw [hlength]
        exact Nat.succ_lt_succ (List.length_pos_iff.2 (h.scopes_ne_nil hr))
      rw [← List.append_assoc]
      exact (collected_leave hinner).trans ((ihinside (List.cons_ne_nil _ _)).trans
        ((ih hr).append_right us'))

end Resolution

end ModuleBundler.Script
