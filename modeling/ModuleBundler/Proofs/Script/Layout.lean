import Mathlib.Order.Basic
import ModuleBundler.Proofs.Script.Names
import ModuleBundler.Script.Compile

/-!
# How a script is laid out

**Rows.**  Stretches of characters stand in a row between two positions if they come one behind the
other, and none of them is empty.

**Trees.**  A part of a script is laid out well if the nodes inside it lie inside its own stretch,
one behind the other, and so on inside each of them.  Its uses then stand in a row (`row_uses`).

**Items.**  The items of a script follow one another.  What an item declares lies in front of its
end and does not begin where the item does; it may begin before, at a decorator.  All uses of a
script stand in one row (`exists_row_uses`), and no edit of an item meets any of them
(`notMeets_of_mem_edits`).
-/

namespace ModuleBundler.Script

/-! ## Rows -/

/-- Whether two stretches have something in common; of an empty one, what counts is whether it lies
    inside the other. -/
def Span.meets (s t : Span) : Bool := decide (s.start < t.stop) && decide (t.start < s.stop)

/-- **Stretches in a row** between two positions. -/
def Row (first last : ℕ) : List Span → Prop
  | [] => first ≤ last
  | s :: rest => first ≤ s.start ∧ s.start < s.stop ∧ Row s.stop last rest

namespace Row

variable {first middle last : ℕ} {spans others : List Span}

lemma le (h : Row first last spans) : first ≤ last := by
  induction spans generalizing first with
  | nil => exact h
  | cons s rest ih => exact (h.1.trans h.2.1.le).trans (ih h.2.2)

lemma append (h : Row first middle spans) (h' : Row middle last others) :
    Row first last (spans ++ others) := by
  induction spans generalizing first with
  | nil =>
      cases others with
      | nil => exact le_trans h h'
      | cons s rest => exact ⟨le_trans h h'.1, h'.2⟩
  | cons s rest ih => exact ⟨h.1, h.2.1, ih h.2.2⟩

lemma mono {first' last' : ℕ} (hfirst : first' ≤ first) (hlast : last ≤ last')
    (h : Row first last spans) : Row first' last' spans := by
  have hbefore : Row first' first [] := hfirst
  have hbehind : Row last last' [] := hlast
  simpa using (hbefore.append h).append hbehind

/-- Each stretch lies between the two positions. -/
lemma bounds (h : Row first last spans) {s : Span} (hs : s ∈ spans) :
    first ≤ s.start ∧ s.start < s.stop ∧ s.stop ≤ last := by
  induction spans generalizing first with
  | nil => cases hs
  | cons t rest ih =>
      obtain ⟨hfirst, hpos, hrest⟩ := h
      rcases List.mem_cons.1 hs with rfl | hs
      · exact ⟨hfirst, hpos, hrest.le⟩
      · obtain ⟨hstart, hspos, hstop⟩ := ih hrest hs
        exact ⟨(hfirst.trans hpos.le).trans hstart, hspos, hstop⟩

/-- No two stretches of a row meet. -/
lemma pairwise (h : Row first last spans) : spans.Pairwise fun s t => s.stop ≤ t.start := by
  induction spans generalizing first with
  | nil => exact .nil
  | cons s rest ih => exact .cons (fun t ht => (h.2.2.bounds ht).1) (ih h.2.2)

end Row

/-! ## Trees -/

mutual

/-- **Whether a part of a script is laid out well.** -/
def Node.laidOut : Node → Bool
  | .node (.use _) span _ => decide (span.start < span.stop)
  | .node _ span cs => laidOutBetween span.start span.stop cs

/-- Whether nodes that are laid out well follow one another between two positions. -/
def laidOutBetween (first last : ℕ) : List Node → Bool
  | [] => decide (first ≤ last)
  | n :: rest => decide (first ≤ n.span.start) && n.laidOut && laidOutBetween n.span.stop last rest

end

/-- Nodes are laid out if the first is, and the others behind its end. -/
lemma laidOutBetween_cons {first last : ℕ} {n : Node} {rest : List Node} :
    laidOutBetween first last (n :: rest) = true
      ↔ first ≤ n.span.start ∧ n.laidOut = true ∧ laidOutBetween n.span.stop last rest = true := by
  rw [laidOutBetween, Bool.and_eq_true, Bool.and_eq_true, decide_eq_true_eq, and_assoc]

/-- What is laid out well does not end before it begins. -/
lemma le_of_laidOut :
    (∀ n : Node, n.laidOut = true → n.span.start ≤ n.span.stop)
      ∧ ∀ (first last : ℕ) (ns : List Node),
          laidOutBetween first last ns = true → first ≤ last := by
  refine Node.laidOut.mutual_induct
    (fun n => n.laidOut = true → n.span.start ≤ n.span.stop)
    (fun first last ns => laidOutBetween first last ns = true → first ≤ last)
    ?use ?other ?nil ?cons
  case use => exact fun _ span _ h => (of_decide_eq_true h).le
  case other =>
    intro kind span cs huse ih h
    rw [Node.laidOut] at h
    · exact ih h
    · exact huse
  case nil => exact fun first last h => of_decide_eq_true h
  case cons =>
    intro first last n rest ihn ihrest h
    obtain ⟨hfirst, hn, hrest⟩ := laidOutBetween_cons.1 h
    exact (hfirst.trans (ihn hn)).trans (ihrest hrest)

/-- A node other than a use is laid out well if the nodes inside it are. -/
lemma laidOut_of_kind {kind : Kind} {span : Span} {cs : List Node}
    (hkind : ∀ name, kind ≠ .use name) (h : (Node.node kind span cs).laidOut = true) :
    laidOutBetween span.start span.stop cs = true := by
  rwa [Node.laidOut] at h
  exact hkind

/-- **The uses of a part of a script** that is laid out well stand in a row inside it. -/
theorem row_uses :
    (∀ n : Node, n.laidOut = true → Row n.span.start n.span.stop (n.uses.map Use.span))
      ∧ ∀ (ns : List Node) (first last : ℕ), laidOutBetween first last ns = true →
          Row first last ((usesOfAll ns).map Use.span) := by
  -- The use in front of a call or a shorthand field stands before the nodes behind it.
  have hhead : ∀ {first last : ℕ} {name : String} {span : Span} {cs rest : List Node}
      (manner : Manner), (∀ first last, laidOutBetween first last rest = true →
          Row first last ((usesOfAll rest).map Use.span)) →
        laidOutBetween first last (.node (.use name) span cs :: rest) = true →
          Row first last (((⟨name, span, manner⟩ : Use) :: usesOfAll rest).map Use.span) := by
    intro first last name span cs rest manner ih h
    obtain ⟨hfirst, huse, hrest⟩ := laidOutBetween_cons.1 h
    exact ⟨hfirst, of_decide_eq_true huse, ih _ _ hrest⟩
  refine Node.uses.mutual_induct
    (fun n => n.laidOut = true → Row n.span.start n.span.stop (n.uses.map Use.span))
    (fun ns => ∀ (first last : ℕ), laidOutBetween first last ns = true →
      Row first last ((usesOfAll ns).map Use.span))
    ?use ?called ?keyed ?importing ?other ?nil ?cons
  case use => exact fun name span _ h => ⟨le_rfl, of_decide_eq_true h, le_rfl⟩
  case called =>
    exact fun span name span' cs arguments ih h =>
      hhead .called ih (laidOut_of_kind (by simp) h)
  case keyed =>
    exact fun span name span' cs value ih h =>
      hhead .keyed ih (laidOut_of_kind (by simp) h)
  case importing => exact fun names span cs h => le_of_laidOut.1 _ h
  case other =>
    intro kind span cs huse hcalled hkeyed himporting ih h
    have huses : (Node.node kind span cs).uses = usesOfAll cs := by
      rw [Node.uses] <;> assumption
    rw [huses]
    exact ih _ _ (laidOut_of_kind huse h)
  case nil => exact fun first last h => le_of_laidOut.2 first last [] h
  case cons =>
    intro n rest ihn ihrest first last h
    obtain ⟨hfirst, hn, hrest⟩ := laidOutBetween_cons.1 h
    rw [usesOfAll, List.map_append]
    exact ((ihn hn).mono hfirst le_rfl).append (ihrest _ _ hrest)

/-! ## Items -/

/-- Where an item begins, at a decorator in front of it if there is one. -/
def Item.first : Item → ℕ
  | .exportDeclaration s d => min s.start d.span.start
  | .exportDefault s v => min s.start v.span.start
  | item => item.span.start

/-- **Whether an item is laid out well.** -/
def Item.laidOut : Item → Bool
  | .exportDeclaration s d =>
      d.laidOut && decide (s.start ≠ d.span.start) && decide (d.span.stop ≤ s.stop)
  | .exportDefault s v =>
      v.laidOut && decide (s.start ≠ v.span.start) && decide (v.span.stop ≤ s.stop)
  | .statement n => n.laidOut
  | item => decide (item.span.start < item.span.stop)

/-- Whether items that are laid out well follow one another behind a position. -/
def itemsLaidOut (first : ℕ) : List Item → Bool
  | [] => true
  | item :: rest =>
      decide (first ≤ item.first) && item.laidOut && itemsLaidOut item.span.stop rest

namespace Program

/-- Where the items of a script may begin. -/
def first (p : Program) : ℕ := (p.hashbang.map Span.stop).getD 0

/-- **Whether a script is laid out well.** -/
def laidOut (p : Program) : Bool :=
  p.hashbang.all (fun s => decide (s.start < s.stop)) && itemsLaidOut p.first p.items

/-- The uses of a script, in their order. -/
def uses (p : Program) : List Use := p.items.flatMap Item.uses

end Program

@[simp] lemma start_closingEdit (value : Span) (stop : ℕ) :
    (closingEdit value stop).span.start = value.stop := by
  rw [closingEdit]
  split <;> rfl

lemma stop_closingEdit {value : Span} {stop : ℕ} (h : value.stop ≤ stop) :
    (closingEdit value stop).span.stop = stop := by
  rw [closingEdit]
  split
  · rfl
  · next hge => exact Nat.le_antisymm h (Nat.le_of_not_lt hge)

namespace Item

variable {item : Item}

/-- The uses of an item stand in a row. -/
lemma row_uses (h : item.laidOut = true) :
    Row item.first item.span.stop (item.uses.map Use.span) := by
  have hvalue {n : Node} {first last : ℕ} (hn : n.laidOut = true) (hfirst : first ≤ n.span.start)
      (hlast : n.span.stop ≤ last) :
      Row first last ((Node.node .other ⟨0, 0⟩ [n]).uses.map Use.span) := by
    simpa using (ModuleBundler.Script.row_uses.1 n hn).mono hfirst hlast
  cases item with
  | exportDeclaration s d =>
      simp only [laidOut, Bool.and_eq_true, decide_eq_true_eq] at h
      exact hvalue h.1.1 (min_le_right _ _) h.2
  | exportDefault s v =>
      simp only [laidOut, Bool.and_eq_true, decide_eq_true_eq] at h
      exact hvalue h.1.1 (min_le_right _ _) h.2
  | statement n => exact ModuleBundler.Script.row_uses.1 n h
  | _ => exact (of_decide_eq_true h).le

/-- The edits of an item lie inside it. -/
lemma edits_bounds (h : item.laidOut = true) {e : Edit} (he : e ∈ item.edits) :
    item.first ≤ e.span.start ∧ e.span.stop ≤ item.span.stop := by
  cases item with
  | exportDeclaration s d =>
      simp only [laidOut, Bool.and_eq_true, decide_eq_true_eq] at h
      obtain rfl := List.mem_singleton.1 he
      exact ⟨min_le_left _ _, (le_of_laidOut.1 d h.1.1).trans h.2⟩
  | exportDefault s v =>
      simp only [laidOut, Bool.and_eq_true, decide_eq_true_eq] at h
      have hvalue := le_of_laidOut.1 v h.1.1
      have hfirst : (Item.exportDefault s v).first ≤ v.span.stop := (min_le_right _ _).trans hvalue
      rw [edits] at he
      split at he
      · rcases List.mem_cons.1 he with rfl | he
        · exact ⟨min_le_left _ _, hvalue.trans h.2⟩
        · obtain rfl := List.mem_singleton.1 he
          rw [start_closingEdit, stop_closingEdit h.2]
          exact ⟨hfirst, le_rfl⟩
      · obtain rfl := List.mem_singleton.1 he
        exact ⟨min_le_left _ _, hvalue.trans h.2⟩
  | statement n => cases he
  | _ =>
      obtain rfl := List.mem_singleton.1 he
      exact ⟨le_rfl, le_rfl⟩

/-- No edit of an item meets a use in it. -/
lemma notMeets_own (h : item.laidOut = true) {e : Edit} (he : e ∈ item.edits) {u : Use}
    (hu : u ∈ item.uses) : e.span.meets u.span = false := by
  have hinside {n : Node} (hn : n.laidOut = true)
      (hu : u ∈ (Node.node .other item.span [n]).uses) :
      n.span.start ≤ u.span.start ∧ u.span.start < u.span.stop ∧ u.span.stop ≤ n.span.stop := by
    rw [Node.uses_other] at hu
    exact (ModuleBundler.Script.row_uses.1 n hn).bounds (List.mem_map_of_mem hu)
  rw [← Bool.not_eq_true, Span.meets, Bool.and_eq_true, decide_eq_true_eq, decide_eq_true_eq]
  cases item with
  | exportDeclaration s d =>
      simp only [laidOut, Bool.and_eq_true, decide_eq_true_eq] at h
      obtain ⟨hstart, -, -⟩ := hinside h.1.1 hu
      obtain rfl := List.mem_singleton.1 he
      exact fun hmeets => absurd hmeets.2 hstart.not_gt
  | exportDefault s v =>
      simp only [laidOut, Bool.and_eq_true, decide_eq_true_eq] at h
      obtain ⟨hstart, -, hstop⟩ := hinside h.1.1 hu
      rw [edits] at he
      split at he
      · rcases List.mem_cons.1 he with rfl | he
        · exact fun hmeets => absurd hmeets.2 hstart.not_gt
        · obtain rfl := List.mem_singleton.1 he
          rw [start_closingEdit]
          exact fun hmeets => absurd hmeets.1 hstop.not_gt
      · obtain rfl := List.mem_singleton.1 he
        exact fun hmeets => absurd hmeets.2 hstart.not_gt
  | statement n => cases he
  | _ => cases hu

end Item

lemma itemsLaidOut_cons {first : ℕ} {item : Item} {rest : List Item} :
    itemsLaidOut first (item :: rest) = true
      ↔ first ≤ item.first ∧ item.laidOut = true ∧ itemsLaidOut item.span.stop rest = true := by
  rw [itemsLaidOut, Bool.and_eq_true, Bool.and_eq_true, decide_eq_true_eq, and_assoc]

lemma laidOut_of_mem {first : ℕ} {items : List Item} (h : itemsLaidOut first items = true)
    {item : Item} (hitem : item ∈ items) : item.laidOut = true := by
  induction items generalizing first with
  | nil => cases hitem
  | cons next rest ih =>
      obtain ⟨-, hnext, hrest⟩ := itemsLaidOut_cons.1 h
      rcases List.mem_cons.1 hitem with rfl | hitem
      · exact hnext
      · exact ih hrest hitem

/-- The uses of items that follow one another stand in a row. -/
lemma exists_row_uses {first : ℕ} {items : List Item} (h : itemsLaidOut first items = true) :
    ∃ last, Row first last ((items.flatMap Item.uses).map Use.span) := by
  induction items generalizing first with
  | nil => exact ⟨first, le_rfl⟩
  | cons item rest ih =>
      obtain ⟨hfirst, hitem, hrest⟩ := itemsLaidOut_cons.1 h
      obtain ⟨last, hlast⟩ := ih hrest
      refine ⟨last, ?_⟩
      rw [List.flatMap_cons, List.map_append]
      exact ((item.row_uses hitem).mono hfirst le_rfl).append hlast

/-- The edits of items that follow one another lie behind where they begin. -/
lemma le_start_of_mem_edits {first : ℕ} {items : List Item} (h : itemsLaidOut first items = true)
    {e : Edit} (he : e ∈ items.flatMap Item.edits) : first ≤ e.span.start := by
  induction items generalizing first with
  | nil => cases he
  | cons item rest ih =>
      obtain ⟨hfirst, hitem, hrest⟩ := itemsLaidOut_cons.1 h
      rcases List.mem_append.1 (List.flatMap_cons ▸ he) with he | he
      · exact hfirst.trans (item.edits_bounds hitem he).1
      · exact (hfirst.trans (item.row_uses hitem).le).trans (ih hrest he)

/-- No edit of an item meets a use of any item. -/
theorem notMeets_of_mem_edits {first : ℕ} {items : List Item} (h : itemsLaidOut first items = true)
    {e : Edit} (he : e ∈ items.flatMap Item.edits) {u : Use} (hu : u ∈ items.flatMap Item.uses) :
    e.span.meets u.span = false := by
  induction items generalizing first with
  | nil => cases he
  | cons item rest ih =>
      obtain ⟨hfirst, hitem, hrest⟩ := itemsLaidOut_cons.1 h
      obtain ⟨last, hrow⟩ := exists_row_uses hrest
      rcases List.mem_append.1 (List.flatMap_cons ▸ he) with he | he
      · rcases List.mem_append.1 (List.flatMap_cons ▸ hu) with hu | hu
        · exact item.notMeets_own hitem he hu
        · have hstop := (item.edits_bounds hitem he).2
          have hstart := (hrow.bounds (List.mem_map_of_mem hu)).1
          simp only [Span.meets, Bool.and_eq_false_iff, decide_eq_false_iff_not]
          exact .inr (hstop.trans hstart).not_gt
      · rcases List.mem_append.1 (List.flatMap_cons ▸ hu) with hu | hu
        · have hstart := le_start_of_mem_edits hrest he
          have hstop := ((item.row_uses hitem).bounds (List.mem_map_of_mem hu)).2.2
          simp only [Span.meets, Bool.and_eq_false_iff, decide_eq_false_iff_not]
          exact .inl (hstop.trans hstart).not_gt
        · exact ih hrest he hu

end ModuleBundler.Script
