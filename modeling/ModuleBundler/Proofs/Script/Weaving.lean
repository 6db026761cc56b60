import Mathlib.Data.List.Basic
import Mathlib.Data.Nat.Basic
import ModuleBundler.Script.Edit

/-!
# What edits in order do

**Sorting.**  Edits are sorted by where they begin, and those that begin at one place keep their
order.  So the sorted list is the only one in order that has, for each place, the same edits at it
as the list that is sorted (`eq_of_filter_start`).

**Chains.**  Edits are a chain between two positions if each of them takes effect behind the one
before it.  What a chain makes of the stretch between the positions is woven from the characters
between the edits and the texts of the edits (`splice_append`), and it can be woven piece by piece
(`woven_append`).
-/

namespace ModuleBundler.Script

/-! ## Sorting -/

namespace Edit

/-- Whether an edit begins in front of another one, or where it does. -/
def upTo (e e' : Edit) : Bool := decide (e.span.start ≤ e'.span.start)

lemma upTo_trans (a b c : Edit) (hab : a.upTo b = true) (hbc : b.upTo c = true) :
    a.upTo c = true := by
  rw [upTo, decide_eq_true_eq] at *
  exact Nat.le_trans hab hbc

lemma upTo_total (a b : Edit) : (a.upTo b || b.upTo a) = true := by
  rw [upTo, upTo, Bool.or_eq_true, decide_eq_true_eq, decide_eq_true_eq]
  exact Nat.le_total _ _

/-- Whether an edit begins at a place. -/
def startsAt (k : ℕ) (e : Edit) : Bool := decide (e.span.start = k)

end Edit

variable {es es' : List Edit}

/-- Sorting keeps the order of the edits that begin at one place. -/
lemma filter_mergeSort (es : List Edit) (k : ℕ) :
    (es.mergeSort Edit.upTo).filter (Edit.startsAt k) = es.filter (Edit.startsAt k) := by
  have hsorted : (es.filter (Edit.startsAt k)).Pairwise fun a b => a.upTo b = true := by
    refine List.pairwise_of_forall_mem_list fun a ha b hb => decide_eq_true ?_
    have hak : a.span.start = k := of_decide_eq_true (List.mem_filter.1 ha).2
    have hbk : b.span.start = k := of_decide_eq_true (List.mem_filter.1 hb).2
    exact Nat.le_of_eq (hak.trans hbk.symm)
  have hsub := (List.sublist_mergeSort Edit.upTo_trans Edit.upTo_total hsorted
    List.filter_sublist).filter (Edit.startsAt k)
  rw [List.filter_filter] at hsub
  simp only [Bool.and_self] at hsub
  refine (hsub.eq_of_length ?_).symm
  exact (((List.mergeSort_perm es Edit.upTo).filter _).length_eq).symm

/-- Lists that agree on the edits at each position have the same edits. -/
lemma mem_of_filter_start (heq : ∀ k, es.filter (Edit.startsAt k) = es'.filter (Edit.startsAt k))
    {e : Edit} (he : e ∈ es) : e ∈ es' := by
  have hown : e ∈ es.filter (Edit.startsAt e.span.start) :=
    List.mem_filter.2 ⟨he, decide_eq_true rfl⟩
  rw [heq] at hown
  exact (List.mem_filter.1 hown).1

/-- **Lists in order are the same** if they have the same edits at each place. -/
theorem eq_of_filter_start (h : es.Pairwise fun a b => a.upTo b = true)
    (h' : es'.Pairwise fun a b => a.upTo b = true)
    (heq : ∀ k, es.filter (Edit.startsAt k) = es'.filter (Edit.startsAt k)) : es = es' := by
  induction es generalizing es' with
  | nil =>
      cases es' with
      | nil => rfl
      | cons e' rest' =>
          cases mem_of_filter_start (fun k => (heq k).symm) (e := e') (by simp)
  | cons e rest ih =>
      cases es' with
      | nil => cases mem_of_filter_start heq (e := e) (by simp)
      | cons e' rest' =>
          obtain ⟨hfirst, hrest⟩ := List.pairwise_cons.1 h
          obtain ⟨hfirst', hrest'⟩ := List.pairwise_cons.1 h'
          -- Each of the two first edits is in the other list, so they begin at one place.
          have hle : e'.span.start ≤ e.span.start := by
            rcases List.mem_cons.1 (mem_of_filter_start heq (e := e) (by simp)) with rfl | he
            · exact le_rfl
            · exact of_decide_eq_true (hfirst' e he)
          have hge : e.span.start ≤ e'.span.start := by
            rcases List.mem_cons.1 (mem_of_filter_start (fun k => (heq k).symm) (e := e') (by simp))
              with rfl | he
            · exact le_rfl
            · exact of_decide_eq_true (hfirst e' he)
          have hstart := Nat.le_antisymm hle hge
          have hcons : ∀ k, (if e.span.start = k then [e] else []) ++ rest.filter (Edit.startsAt k)
              = (if e.span.start = k then [e'] else []) ++ rest'.filter (Edit.startsAt k) := by
            intro k
            have hk := heq k
            rw [List.filter_cons, List.filter_cons, Edit.startsAt, Edit.startsAt, hstart] at hk
            by_cases hown : e.span.start = k
            · simpa [hown] using hk
            · simpa [hown] using hk
          have hown := hcons e.span.start
          rw [if_pos rfl, if_pos rfl] at hown
          obtain rfl : e = e' := (List.cons.inj hown).1
          rw [ih hrest hrest' fun k => List.append_cancel_left (hcons k)]

/-! ## Effect -/

namespace Edit

/-- Whether an edit takes effect behind an edit that ends where it begins. -/
def effective (e : Edit) : Bool := e.fits e.span.start

@[simp] lemma effective_replace (s : Span) (text : String) :
    (replace s text).effective = decide (s.start < s.stop) := by
  simp [effective, fits, span]

@[simp] lemma effective_insert (n : ℕ) (text : String) : (insert n text).effective = true := by
  simp [effective, fits, span]

lemma fits_iff {position : ℕ} {e : Edit} :
    e.fits position = true ↔ position ≤ e.span.start ∧ e.effective = true := by
  cases e <;> simp [fits, effective, span]

lemma start_le_stop {e : Edit} (h : e.effective = true) : e.span.start ≤ e.span.stop := by
  cases e with
  | replace s text =>
      rw [effective_replace, decide_eq_true_eq] at h
      exact Nat.le_of_lt h
  | insert n text => exact Nat.le_refl n

end Edit

/-- Edits that never take effect can be left out. -/
lemma splice_filter (position : ℕ) (source : List Char) (es : List Edit) :
    splice position source es = splice position source (es.filter Edit.effective) := by
  induction es generalizing position source with
  | nil => rfl
  | cons e rest ih =>
      by_cases heffective : e.effective = true
      · rw [List.filter_cons_of_pos heffective, splice, splice, ih position source]
        split
        · rw [ih]
        · rfl
      · have hfits : ¬ e.fits position = true := fun hfits => heffective (Edit.fits_iff.1 hfits).2
        rw [List.filter_cons_of_neg heffective, splice, if_neg hfits, ih position source]

/-! ## Chains -/

/-- The characters from one position to another one. -/
def stretch (source : List Char) (first last : ℕ) : List Char :=
  (source.drop first).take (last - first)

/-- **A chain of edits** between two positions. -/
def Chain (first last : ℕ) : List Edit → Prop
  | [] => first ≤ last
  | e :: rest => e.fits first = true ∧ Chain e.span.stop last rest

/-- **What edits weave** between two positions. -/
def woven (source : List Char) (first last : ℕ) : List Edit → List Char
  | [] => stretch source first last
  | e :: rest =>
      stretch source first e.span.start ++ e.text.toList ++ woven source e.span.stop last rest

variable {source : List Char} {first middle last : ℕ}

@[simp] lemma stretch_self (source : List Char) (n : ℕ) : stretch source n n = [] := by
  rw [stretch, Nat.sub_self, List.take_zero]

lemma stretch_append (hfirst : first ≤ middle) (hlast : middle ≤ last) :
    stretch source first middle ++ stretch source middle last = stretch source first last := by
  have hsplit : last - first = (middle - first) + (last - middle) := by omega
  have hdrop : source.drop middle = (source.drop first).drop (middle - first) := by
    rw [List.drop_drop, Nat.add_sub_cancel' hfirst]
  rw [stretch, stretch, stretch, hsplit, hdrop, List.take_add]

lemma stretch_append_drop (h : first ≤ last) :
    stretch source first last ++ source.drop last = source.drop first := by
  have hdrop : source.drop last = (source.drop first).drop (last - first) := by
    rw [List.drop_drop, Nat.add_sub_cancel' h]
  rw [stretch, hdrop, List.take_append_drop]

namespace Chain

lemma le (h : Chain first last es) : first ≤ last := by
  induction es generalizing first with
  | nil => exact h
  | cons e rest ih =>
      obtain ⟨hfirst, heffective⟩ := Edit.fits_iff.1 h.1
      exact Nat.le_trans hfirst (Nat.le_trans (Edit.start_le_stop heffective) (ih h.2))

lemma append (h : Chain first middle es) (h' : Chain middle last es') :
    Chain first last (es ++ es') := by
  induction es generalizing first with
  | nil =>
      cases es' with
      | nil => exact Nat.le_trans h h'
      | cons e rest =>
          obtain ⟨hmiddle, heffective⟩ := Edit.fits_iff.1 h'.1
          exact ⟨Edit.fits_iff.2 ⟨Nat.le_trans h hmiddle, heffective⟩, h'.2⟩
  | cons e rest ih => exact ⟨h.1, ih h.2⟩

lemma mono {first' last' : ℕ} (hfirst : first' ≤ first) (hlast : last ≤ last')
    (h : Chain first last es) : Chain first' last' es := by
  have hbefore : Chain first' first [] := hfirst
  have hbehind : Chain last last' [] := hlast
  simpa using (hbefore.append h).append hbehind

/-- Every edit of a chain takes effect, between the two positions. -/
lemma bounds (h : Chain first last es) {e : Edit} (he : e ∈ es) :
    e.effective = true ∧ first ≤ e.span.start ∧ e.span.stop ≤ last := by
  induction es generalizing first with
  | nil => cases he
  | cons e' rest ih =>
      obtain ⟨hfirst, heffective⟩ := Edit.fits_iff.1 h.1
      rcases List.mem_cons.1 he with rfl | he
      · exact ⟨heffective, hfirst, h.2.le⟩
      · obtain ⟨heffective', hstart, hstop⟩ := ih h.2 he
        have hbehind := Nat.le_trans hfirst (Edit.start_le_stop heffective)
        exact ⟨heffective', Nat.le_trans hbehind hstart, hstop⟩

/-- A chain is in order. -/
lemma pairwise (h : Chain first last es) : es.Pairwise fun a b => a.upTo b = true := by
  induction es generalizing first with
  | nil => exact .nil
  | cons e rest ih =>
      have heffective := (Edit.fits_iff.1 h.1).2
      refine .cons (fun e' he' => decide_eq_true ?_) (ih h.2)
      exact Nat.le_trans (Edit.start_le_stop heffective) (h.2.bounds he').2.1

end Chain

/-- Weaving begins with what stands in front of the first edit. -/
lemma stretch_append_woven (hfirst : first ≤ middle) (h : Chain middle last es) :
    stretch source first middle ++ woven source middle last es = woven source first last es := by
  cases es with
  | nil => exact stretch_append hfirst h
  | cons e rest =>
      have hmiddle := (Edit.fits_iff.1 h.1).1
      rw [woven, woven, ← List.append_assoc, ← List.append_assoc, stretch_append hfirst hmiddle]

/-- **Weaving goes piece by piece.** -/
theorem woven_append (h : Chain first middle es) (h' : Chain middle last es') :
    woven source first last (es ++ es')
      = woven source first middle es ++ woven source middle last es' := by
  induction es generalizing first with
  | nil => exact (stretch_append_woven h h').symm
  | cons e rest ih =>
      rw [List.cons_append, woven, woven, ih h.2, List.append_assoc _ (woven _ _ _ rest)]

/-- What comes before all edits stays. -/
lemma splice_of_le (source : List Char) (h : first ≤ last) (hes : ∀ e ∈ es, last ≤ e.span.start) :
    splice first (source.drop first) es
      = stretch source first last ++ splice last (source.drop last) es := by
  induction es with
  | nil => exact (stretch_append_drop h).symm
  | cons e rest ih =>
      have hlast : last ≤ e.span.start := hes e (by simp)
      have hfits : e.fits first = e.fits last := by
        rw [Bool.eq_iff_iff, Edit.fits_iff, Edit.fits_iff]
        simp [hlast, Nat.le_trans h hlast]
      rw [splice, splice, hfits]
      split
      · next hlater =>
          have hstop := Edit.start_le_stop (Edit.fits_iff.1 hlater).2
          have hbefore : (source.drop first).take (e.span.start - first)
              = stretch source first last ++ (source.drop last).take (e.span.start - last) :=
            (stretch_append h hlast).symm
          rw [hbefore, List.drop_drop, List.drop_drop, Nat.add_sub_cancel' (by omega),
            Nat.add_sub_cancel' (by omega)]
          simp only [List.append_assoc]
      · exact ih fun e' he' => hes e' (by simp [he'])

/-- **The effect of a chain**, and of edits behind it. -/
theorem splice_append (source : List Char) (h : Chain first last es)
    (hbehind : ∀ e ∈ es', last ≤ e.span.start) :
    splice first (source.drop first) (es ++ es')
      = woven source first last es ++ splice last (source.drop last) es' := by
  induction es generalizing first with
  | nil => exact splice_of_le source h hbehind
  | cons e rest ih =>
      obtain ⟨hfirst, heffective⟩ := Edit.fits_iff.1 h.1
      have hstop := Edit.start_le_stop heffective
      rw [List.cons_append, splice, if_pos h.1, List.drop_drop, Nat.add_sub_cancel' (by omega),
        ih h.2, woven, stretch, List.append_assoc _ (woven _ _ _ rest)]

end ModuleBundler.Script
