import Mathlib.Data.List.Basic
import ModuleBundler.Script.Read

/-!
# What parsers give

A parser ensures a property if whatever it gives has it (`Parser.Ensures`).  This is shown along the
parser: each way of putting parsers together has a rule.

**Expressions declare nothing.**  An expression may contain functions and classes, but is itself no
declaration (`Parser.ensures_read_assigned`).  So the value of a default export declares one name at
most, namely that of the function or class that it is (`Program.sole_of_read`).
-/

namespace ModuleBundler.Script

namespace Parser

/-- **Whatever the parser gives** has the property. -/
def Ensures {α : Type} (p : Parser α) (Q : α → Prop) : Prop :=
  ∀ surrounding s a s', p surrounding s = .ok a s' → Q a

namespace Ensures

variable {α β : Type} {P Q : α → Prop} {p : Parser α}

lemma of_pure {a : α} (h : Q a) : Ensures (pure a) Q := by
  intro surrounding s a' s' heq
  cases heq
  exact h

/-- What comes first gives something with a property, and then what follows ensures another one. -/
lemma bind {f : α → Parser β} {Q : β → Prop} (hp : Ensures p P)
    (hf : ∀ a, P a → Ensures (f a) Q) : Ensures (p >>= f) Q := by
  intro surrounding s b s' heq
  change EStateM.bind (p surrounding) (fun a => f a surrounding) s = .ok b s' at heq
  rw [EStateM.bind] at heq
  split at heq
  · next a s'' hfirst => exact hf a (hp _ _ _ _ hfirst) _ _ _ _ heq
  · cases heq

/-- What comes first does not matter. -/
lemma after {f : α → Parser β} {Q : β → Prop} (hf : ∀ a, Ensures (f a) Q) :
    Ensures (p >>= f) Q :=
  bind (P := fun _ => True) (fun _ _ _ _ _ => trivial) fun a _ => hf a

lemma of_fail (cause : Cause) : Ensures (fail cause) Q := by
  intro surrounding s a s' heq
  cases heq

lemma of_unexpected : Ensures unexpected Q := by
  refine after fun t => ?_
  split <;> exact of_fail _

lemma of_ite {c : Prop} [Decidable c] {q : Parser α} (hp : Ensures p Q) (hq : Ensures q Q) :
    Ensures (if c then p else q) Q := by
  split
  · exact hp
  · exact hq

lemma of_within (change : Surrounding → Surrounding) (h : Ensures p Q) :
    Ensures (within change p) Q :=
  fun surrounding s a s' heq => h (change surrounding) s a s' heq

lemma of_node {kind : Kind} {cs : List Node} {Q : Node → Prop} (h : ∀ span, Q (.node kind span cs))
    (begin : Nat) : Ensures (node kind begin cs) Q :=
  after fun _ => of_pure (h _)

/-- Repeating a step gives what the step gives. -/
lemma of_repeated {step : Parser (Option α)} (h : Ensures step fun o => ∀ a ∈ o, Q a) (n : Nat) :
    Ensures (repeated step n) fun as => ∀ a ∈ as, Q a := by
  induction n with
  | zero => exact of_fail _
  | succ n ih =>
      refine bind h fun o ho => ?_
      cases o with
      | none => exact of_pure (List.forall_mem_nil _)
      | some a =>
          exact bind ih fun as has => of_pure (List.forall_mem_cons.2 ⟨ho a rfl, has⟩)

/-- Steps that keep a property of a value end with a value that has it. -/
lemma of_iterated {step : α → Parser (Option α)}
    (h : ∀ a, Q a → Ensures (step a) fun o => ∀ a' ∈ o, Q a') (n : Nat) {a : α} (ha : Q a) :
    Ensures (iterated step n a) Q := by
  induction n generalizing a with
  | zero => exact of_fail _
  | succ n ih =>
      refine bind (h a ha) fun o ho => ?_
      cases o with
      | none => exact of_pure ha
      | some next => exact ih (ho next rfl)

end Ensures

/-! ## Expressions -/

/-- The node is no declaration. -/
abbrev Plain (n : Node) : Prop := n.declaredNames = []

lemma ensures_accessStep (g : Grammar) (begin : Nat) (found : Node × Bool) :
    Ensures (accessStep g begin found) fun o => ∀ f ∈ o, Plain f.1 := by
  have hstep {kind : Kind} {cs : List Node} (chained : Bool)
      (h : ∀ span, Plain (.node kind span cs)) :
      Ensures (do return some (← node kind begin cs, chained)) fun o => ∀ f ∈ o, Plain f.1 :=
    .bind (.of_node h begin) fun n hn => .of_pure fun f hf => Option.mem_some_iff.1 hf ▸ hn
  have hnone : Ensures (pure none) fun (o : Option (Node × Bool)) => ∀ f ∈ o, Plain f.1 :=
    .of_pure fun f hf => by cases hf
  unfold accessStep
  refine .after fun s => .after fun t => ?_
  split
  · exact .after fun _ => .after fun _ => hstep _ fun _ => rfl
  · refine .after fun next => ?_
    refine .of_ite (.after fun _ => .after fun k => hstep _ fun _ => rfl) ?_
    exact .of_ite (.after fun _ => .after fun _ => hstep _ fun _ => rfl) hnone
  · exact .of_ite (.after fun k => hstep _ fun _ => rfl) hnone
  · exact .after fun _ => .after fun es => hstep _ fun _ => rfl
  · exact hnone

lemma ensures_accesses (g : Grammar) (begin : Nat) {found : Node × Bool} (h : Plain found.1) :
    Ensures (accesses g begin found) fun f => Plain f.1 :=
  .of_iterated (fun f _ => ensures_accessStep g begin f) g.bound h

lemma ensures_callStep (g : Grammar) (begin : Nat) (found : Node × Bool) :
    Ensures (callStep g begin found) fun o => ∀ f ∈ o, Plain f.1 := by
  unfold callStep
  refine .after fun optional => .after fun called => .of_ite ?_ (.of_ite .of_unexpected ?_)
  · refine .after fun es => .bind (.of_node (Q := Plain) (fun _ => rfl) begin) fun call hcall => ?_
    exact .bind (ensures_accesses g begin hcall) fun f hf =>
      .of_pure fun f' hf' => Option.mem_some_iff.1 hf' ▸ hf
  · exact .of_pure fun f hf => by cases hf

lemma ensures_loadingCall (g : Grammar) (begin : Nat) : Ensures (loadingCall g begin) Plain :=
  .after fun _ => .after fun _ => .after fun _ => .of_node (fun _ => rfl) begin

lemma ensures_importExpression (g : Grammar) : Ensures (importExpression g) Plain := by
  unfold importExpression
  refine .after fun begin => .after fun _ => .after fun dotted => .of_ite ?_ ?_
  · refine .after fun _ => .after fun _ => .of_ite (ensures_loadingCall g begin) ?_
    exact .after fun _ => .of_node (fun _ => rfl) begin
  · exact ensures_loadingCall g begin

lemma ensures_superExpression : Ensures superExpression Plain :=
  .after fun begin => .after fun _ => .after fun _ => .after fun _ => .of_node (fun _ => rfl) begin

lemma ensures_newExpression (g : Grammar) : Ensures (newExpression g) Plain := by
  unfold newExpression
  refine .after fun begin => .after fun _ => .after fun dotted => .of_ite ?_ ?_
  · exact .after fun _ => .of_node (fun _ => rfl) begin
  · refine .after fun _ => .after fun _ => .after fun _ => .after fun _ => .after fun _ => ?_
    exact .of_ite (.after fun _ => .of_node (fun _ => rfl) begin)
      (.after fun _ => .of_node (fun _ => rfl) begin)

lemma ensures_functionRest (g : Grammar) (begin : Nat) (own : Option String)
    (isAsync generates : Bool) : Ensures (functionRest g begin own isAsync generates) Plain :=
  .of_within _ (.after fun _ => .after fun _ => .of_node (fun _ => rfl) begin)

lemma ensures_functionExpression (g : Grammar) : Ensures (functionExpression g) Plain :=
  .after fun begin => .after fun _ => .after fun own => ensures_functionRest g begin own _ _

lemma ensures_classExpression (g : Grammar) : Ensures (classExpression g) Plain := by
  have hrest (begin : Nat) (own : Option String) : Ensures (classRest g begin own) Plain :=
    .after fun above => .after fun promised => .after fun _ => .after fun members => .after fun _ =>
      .of_node (fun _ => rfl) begin
  unfold classExpression
  refine .after fun begin => .after fun _ => .after fun ds => .after fun own => ?_
  exact .bind (hrest begin own) fun c hc => .of_ite (.of_pure hc) (.of_node (fun _ => rfl) _)

lemma ensures_use : Ensures use Plain :=
  .after fun begin => .after fun _ => .of_node (fun _ => rfl) begin

lemma ensures_literal : Ensures literal Plain :=
  .after fun begin => .after fun _ => .of_node (fun _ => rfl) begin

lemma ensures_wordExpression (g : Grammar) (name : String) :
    Ensures (wordExpression g name) Plain := by
  unfold wordExpression
  refine .after fun begin => .of_ite (.after fun _ => .of_node (fun _ => rfl) begin) ?_
  refine .of_ite (ensures_classExpression g) (.after fun _ => ?_)
  exact .of_ite (ensures_functionExpression g) ensures_use

/-- **A primary expression declares nothing.** -/
lemma ensures_primary (g : Grammar) : Ensures (primary g) Plain := by
  unfold primary
  refine .after fun begin => .after fun t => ?_
  split
  · exact ensures_literal
  · exact ensures_literal
  · exact .after fun es => .of_node (fun _ => rfl) begin
  · exact ensures_wordExpression g _
  · refine .after fun begin => .after fun _ => .after fun _ => .of_ite ?_ ?_
    · exact .after fun _ => .after fun _ => .after fun _ => .of_node (fun _ => rfl) begin
    · exact .after fun _ => .after fun _ => .of_node (fun _ => rfl) begin
  · exact .after fun begin => .after fun _ => .after fun es => .after fun _ =>
      .of_node (fun _ => rfl) begin
  · exact .after fun begin => .after fun _ => .after fun fs => .after fun _ =>
      .of_node (fun _ => rfl) begin
  · exact .after fun _ => .of_node (fun _ => rfl) begin
  · exact .after fun _ => .of_node (fun _ => rfl) begin
  · exact .of_unexpected

lemma ensures_callee (g : Grammar) : Ensures (callee g) Plain := by
  have haccessed : Ensures (accessed g) Plain := by
    unfold accessed
    refine .after fun _ => .after fun _ => .of_ite (ensures_newExpression g) (.after fun _ => ?_)
    refine .of_ite (ensures_importExpression g) (.after fun _ => ?_)
    exact .of_ite ensures_superExpression (ensures_primary g)
  unfold callee
  refine .after fun begin => .bind haccessed fun e he => ?_
  refine .bind (ensures_accesses g begin he) fun found hfound => ?_
  refine .bind (.of_iterated (fun f _ => ensures_callStep g begin f) g.bound hfound) fun f hf => ?_
  exact .of_ite (.of_node (fun _ => rfl) begin) (.of_pure hf)

/-! ### Operators and arrow functions -/

lemma ensures_unary (g : Grammar) : Ensures (unary g) Plain := by
  have htaken (begin : Nat) (p : Parser Node) :
      Ensures (do node .other begin [← p]) Plain :=
    .after fun _ => .of_node (fun _ => rfl) begin
  unfold unary
  refine .after fun begin => .after fun _ => .of_ite (.after fun _ => htaken begin _) ?_
  refine .after fun _ => .of_ite (.after fun _ => htaken begin _) ?_
  refine .of_ite (.after fun _ => .after fun _ => htaken begin _) ?_
  refine .bind (ensures_callee g) fun e he => ?_
  refine .after fun _ => .after fun _ => .of_ite ?_ (.of_pure he)
  exact .after fun _ => .after fun _ => .of_node (fun _ => rfl) begin

lemma ensures_binaryStep (g : Grammar) (begin level : Nat) (e : Node) :
    Ensures (binaryStep g begin level e) fun o => ∀ n ∈ o, Plain n := by
  have hnone : Ensures (pure none) fun (o : Option Node) => ∀ n ∈ o, Plain n :=
    .of_pure fun n hn => by cases hn
  unfold binaryStep
  refine .after fun _ => .after fun _ => ?_
  split
  · refine .of_ite (.after fun _ => .after fun _ => ?_) hnone
    exact .bind (.of_node (fun _ => rfl) begin) fun n hn =>
      .of_pure fun n' hn' => Option.mem_some_iff.1 hn' ▸ hn
  · exact hnone

/-- Operators declare nothing, whatever their level. -/
lemma ensures_binary (g : Grammar) (level : Nat) : Ensures (binary g level) Plain := by
  have hprivate : Ensures (privateTest g) Plain :=
    .after fun begin => .after fun _ => .after fun _ => .after fun _ =>
      .of_node (fun _ => rfl) begin
  have hsteps (begin : Nat) {first : Node} (h : Plain first) :
      Ensures (iterated (binaryStep g begin level) g.bound first) Plain :=
    .of_iterated (fun e _ => ensures_binaryStep g begin level e) g.bound h
  unfold binary
  refine .after fun begin => .after fun _ => .after fun _ => .of_ite ?_ ?_
  · exact .bind hprivate fun _ => hsteps begin
  · exact .bind (ensures_unary g) fun _ => hsteps begin

lemma ensures_arrowRest (g : Grammar) (begin : Nat) (ps : Node) (isAsync : Bool) :
    Ensures (arrowRest g begin ps isAsync) Plain :=
  .after fun _ => .of_node (fun _ => rfl) begin

lemma ensures_possibleArrow (g : Grammar) :
    Ensures (possibleArrow g) fun o => ∀ n ∈ o, Plain n := by
  unfold possibleArrow
  refine .after fun begin => .after fun _ => .of_ite (.of_pure fun n hn => by cases hn) ?_
  refine .after fun head => ?_
  split
  · exact .bind (ensures_arrowRest g begin _ _) fun n hn =>
      .of_pure fun n' hn' => Option.mem_some_iff.1 hn' ▸ hn
  · exact .after fun _ => .of_pure fun n hn => by cases hn

lemma ensures_arrowFunction (g : Grammar) :
    Ensures (arrowFunction g) fun o => ∀ n ∈ o, Plain n := by
  have hrest (begin : Nat) (ps : Node) (isAsync : Bool) :
      Ensures (do return some (← arrowRest g begin ps isAsync)) fun o => ∀ n ∈ o, Plain n :=
    .bind (ensures_arrowRest g begin ps isAsync) fun n hn =>
      .of_pure fun n' hn' => Option.mem_some_iff.1 hn' ▸ hn
  unfold arrowFunction
  refine .after fun begin => .after fun guess => ?_
  split
  · exact .after fun head => hrest begin _ _
  · exact ensures_possibleArrow g
  · refine .after fun _ => .of_ite (.after fun ps => hrest begin ps true) ?_
    exact .of_pure fun n hn => by cases hn

/-- An expression declares nothing, if its operands do not. -/
lemma ensures_assigned (g : Grammar) (hbinary : Ensures (g.read (.binary 0)) Plain) :
    Ensures (assigned g) Plain := by
  have hyield : Ensures (yieldExpression g) Plain := by
    unfold yieldExpression
    refine .after fun begin => .after fun _ => .after fun _ => ?_
    refine .of_ite (.of_node (fun _ => rfl) begin) ?_
    refine .after fun _ => .after fun _ => .of_ite ?_ (.of_node (fun _ => rfl) begin)
    exact .after fun _ => .of_node (fun _ => rfl) begin
  unfold assigned
  refine .after fun begin => .after fun _ => .of_ite hyield ?_
  refine .bind (ensures_arrowFunction g) fun found hfound => ?_
  cases found with
  | some f => exact .of_pure (hfound f rfl)
  | none =>
      refine .bind hbinary fun left hleft => .after fun t => ?_
      split
      · exact .after fun _ => ensures_arrowRest g begin _ _
      · refine .of_ite ?_ ?_
        · unfold assignment
          split
          · exact .of_fail _
          · exact .after fun _ => .after fun _ => .of_node (fun _ => rfl) begin
        · exact .after fun _ => .of_ite
            (.after fun _ => .after fun _ => .after fun _ => .of_node (fun _ => rfl) begin)
            (.of_pure hleft)
      · exact .of_pure hleft

/-- **An expression declares nothing**, however deep it may be nested. -/
theorem ensures_read_assigned (bound depth : Nat) :
    Ensures ((grammar bound depth).read .assigned) Plain := by
  have hbinary (depth : Nat) : Ensures ((grammar bound depth).read (.binary 0)) Plain := by
    cases depth with
    | zero => exact .of_fail _
    | succ depth => exact ensures_binary _ 0
  cases depth with
  | zero => exact .of_fail _
  | succ depth => exact ensures_assigned _ (hbinary depth)

/-! ## Items -/

/-- A value that is exported by default declares one name at most. -/
def Sole : Item → Prop
  | .exportDefault _ value => value.declaredNames.length ≤ 1
  | _ => True

lemma ensures_functionDeclaration (g : Grammar) (needsName : Bool) :
    Ensures (functionDeclaration g needsName) fun f => f.1.declaredNames.length ≤ 1 := by
  have hrest (begin : Nat) (head : Bool × Bool) (own : Option String) :
      Ensures (do
        let f ← functionRest g begin none head.1 head.2
        return (← node (.functionDeclaration own) begin [f], !head.1 && !head.2))
        fun f => f.1.declaredNames.length ≤ 1 :=
    .after fun _ => .bind (.of_node (fun _ => own.length_toList_le) begin) fun _ hf => .of_pure hf
  unfold functionDeclaration
  refine .after fun begin => .after fun head => .after fun own => .of_ite ?_ (hrest begin head own)
  exact .after fun _ => hrest begin head own

lemma ensures_classDeclaration (g : Grammar) :
    Ensures (classDeclaration g) fun c => c.declaredNames.length ≤ 1 :=
  .after fun _ => .after fun _ => .after fun _ => .after fun own => .after fun _ =>
    .of_node (fun _ => own.length_toList_le) _

lemma ensures_exportDefault (g : Grammar) (begin : Nat) (h : Ensures (g.read .assigned) Plain) :
    Ensures (exportDefault g begin) Sole := by
  have hitem (value : Node) (hvalue : value.declaredNames.length ≤ 1) :
      Ensures (do return .exportDefault ⟨begin, (← get).previousStop⟩ value) Sole :=
    .after fun _ => .of_pure hvalue
  unfold exportDefault
  refine .after fun _ => .after fun _ => .after fun _ => .of_ite ?_ (.of_ite ?_ ?_)
  · exact .bind (ensures_classDeclaration g) hitem
  · exact .bind (ensures_functionDeclaration g false) fun f hf => hitem f.1 hf
  · refine .bind h fun e he => .after fun _ => hitem e ?_
    rw [he]
    exact Nat.zero_le 1

lemma ensures_exportItem (g : Grammar) (h : Ensures (g.read .assigned) Plain) :
    Ensures (exportItem g) Sole := by
  have hall (begin : Nat) : Ensures (exportAll g begin) Sole := by
    have hrest (outside : Option String) :
        Ensures (do
          expectWord "from"
          let source ← sourceText
          attributes g
          semicolon
          return .reexportAll ⟨begin, (← get).previousStop⟩ source outside) Sole :=
      .after fun _ => .after fun _ => .after fun _ => .after fun _ => .after fun _ =>
        .of_pure trivial
    unfold exportAll
    refine .after fun _ => .after fun _ => .of_ite ?_ (hrest none)
    exact .after fun name => hrest (some name.1)
  have hnamed (begin : Nat) : Ensures (exportNamed g begin) Sole := by
    unfold exportNamed
    refine .after fun _ => .after fun _ => .after fun _ => .after fun _ => .after fun _ => ?_
    refine .of_ite ?_ ?_
    · exact .after fun _ => .after fun _ => .after fun _ => .after fun _ => .of_pure trivial
    · exact .after fun _ => .after fun _ => .after fun _ => .of_pure trivial
  have hdeclared (begin : Nat) : Ensures (exportDeclared g begin) Sole := by
    have hrest (declaration : Node) :
        Ensures (do return .exportDeclaration ⟨begin, (← get).previousStop⟩ declaration) Sole :=
      .after fun _ => .of_pure trivial
    unfold exportDeclared
    refine .after fun here => .after fun _ => .after fun _ => .after fun _ => ?_
    refine .after fun _ => .after fun _ => .after fun _ => .of_ite (.after hrest) ?_
    refine .of_ite (.after fun f => hrest f.1) (.of_ite ?_ (.after hrest))
    exact .after fun vs => .after fun _ => hrest vs.node
  unfold exportItem
  refine .after fun begin => .after fun _ => .after fun _ => ?_
  refine .of_ite (ensures_exportDefault g begin h) (.after fun _ => .of_ite (hall begin) ?_)
  exact .after fun _ => .of_ite (hnamed begin) (hdeclared begin)

lemma ensures_item (g : Grammar) (alone : Bool) (h : Ensures (g.read .assigned) Plain) :
    Ensures (item g alone) Sole := by
  have himport : Ensures (importItem g) Sole := by
    have hrest (begin : Nat) (bs : List Binding) :
        Ensures (do
          let source ← sourceText
          attributes g
          semicolon
          return .importing ⟨begin, (← get).previousStop⟩ source bs) Sole :=
      .after fun _ => .after fun _ => .after fun _ => .after fun _ => .of_pure trivial
    unfold importItem
    refine .after fun begin => .after fun _ => .after fun _ => .after fun _ => .of_ite ?_ ?_
    · exact hrest begin []
    · exact .after fun bs => .after fun _ => hrest begin bs
  have hstatement (p : Parser Node) : Ensures (do return .statement (← p)) Sole :=
    .after fun _ => .of_pure trivial
  unfold item
  refine .after fun _ => .after fun t => ?_
  split
  · refine .of_ite (ensures_exportItem g h) (.after fun _ => .of_ite himport ?_)
    exact hstatement _
  · exact hstatement _
  · exact .after fun _ => .after fun _ => hstatement _
  · exact hstatement _

end Parser

/-- **A default export declares one name at most.** -/
theorem Program.sole_of_read {source : List Char} {p : Program} (h : read source = .ok p) :
    ∀ item ∈ p.items, Parser.Sole item := by
  have hitems (bound depth : Nat) :
      (Parser.items (Parser.grammar bound depth)).Ensures
        fun items => ∀ i ∈ items, Parser.Sole i := by
    refine .of_repeated (.after fun _ => .of_ite (.of_pure fun i hi => by cases hi) ?_) _
    exact .bind (Parser.ensures_item _ false (Parser.ensures_read_assigned bound depth))
      fun i hi => .of_pure fun i' hi' => Option.mem_some_iff.1 hi' ▸ hi
  rw [read] at h
  split at h
  · cases h
  · next items s hread =>
      split at h
      · cases h
      · split at h
        · cases h
        · cases h
          exact hitems _ _ _ _ _ _ hread

/-- A script exports no name twice. -/
theorem Program.nodup_of_read {source : List Char} {p : Program} (h : read source = .ok p) :
    (p.items.flatMap Item.exportedNames).Nodup := by
  rw [read] at h
  split at h
  · cases h
  · split at h
    · cases h
    · split at h
      · cases h
      · next hnodup =>
          cases h
          simpa using hnodup

end ModuleBundler.Script
