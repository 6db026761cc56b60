import ModuleBundler.Graph.Discovery
import ModuleBundler.Proofs.Loading.Machine

/-!
# What requirements are answered with

**Out of the events.**  `replies` are the answers that the requirements of one module got, in order.

**Out of the cycles.**  An import of `t` by `u` closes a cycle that a discovery noted if the cycle
ends with `u` and `t` (`ClosesCycle`).  `reply` is the answer that such a discovery foretells: a
stand-in for an import that closes a cycle, and for any other one the exports of the target.

**Prophecies that come true.**  `Answered` says that the answers to a list of imports are the
foretold ones.  It survives whatever other modules do, and grows by one import at a time.
-/

namespace ModuleBundler.Execution

open Loading (Event Exports Loader)

/-- **An answer** to a requirement. -/
structure Reply where
  specifier : String
  target : String
  standIn : Bool
  exports : Exports

/-- What the event answers to a requirement of the module. -/
def reply? (importer : String) : Event → Option Reply
  | .answered u specifier target standIn exports =>
      if u = importer then some ⟨specifier, target, standIn, exports⟩ else none
  | _ => none

/-- The answers to the requirements of a module. -/
def replies (importer : String) (l : Loader) : List Reply :=
  l.events.filterMap (reply? importer)

/-- Whether a noted cycle ends with an import of `t` by `u`. -/
def ClosesCycle (cycles : List (List ModuleId)) (u t : ModuleId) : Prop :=
  ∃ cycle ∈ cycles, [u, t] <:+ cycle

instance (cycles : List (List ModuleId)) (u t : ModuleId) : Decidable (ClosesCycle cycles u t) :=
  inferInstanceAs (Decidable (∃ cycle ∈ cycles, [u, t] <:+ cycle))

/-- **The answer that the cycles foretell** to an import of `u`. -/
def reply (name : ModuleId → String) (cycles : List (List ModuleId)) (l : Loader) (u : ModuleId)
    (e : String × ModuleId) : Reply :=
  if ClosesCycle cycles u e.2 then ⟨e.1, name e.2, true, .empty⟩
  else ⟨e.1, name e.2, false, (l.cache.get? (name e.2)).getD .empty⟩

/-! ## The cycles of a discovery -/

lemma dropWhile_concat {α : Type} {p : α → Bool} {xs : List α} {u : α}
    (h : ∃ x ∈ xs ++ [u], p x = false) : ∃ ys, (xs ++ [u]).dropWhile p = ys ++ [u] := by
  induction xs with
  | nil =>
      obtain ⟨x, hx, hp⟩ := h
      rw [List.nil_append, List.mem_singleton] at hx
      subst hx
      exact ⟨[], by simp [hp]⟩
  | cons y xs ih =>
      cases hy : p y with
      | false => exact ⟨y :: xs, by simp [hy]⟩
      | true =>
          obtain ⟨x, hx, hp⟩ := h
          rw [List.cons_append, List.mem_cons] at hx
          rcases hx with rfl | hx
          · rw [hy] at hp
            cases hp
          · obtain ⟨ys, hys⟩ := ih ⟨x, hx, hp⟩
            exact ⟨ys, by simpa [hy] using hys⟩

lemma pair_suffix_iff (ys : List ModuleId) (u t v t' : ModuleId) :
    [v, t'] <:+ ys ++ [u] ++ [t] ↔ v = u ∧ t' = t := by
  rw [List.append_assoc]
  constructor
  · intro h
    have hsuffix := List.suffix_of_suffix_length_le h (List.suffix_append ys ([u] ++ [t])) (by simp)
    have heq := hsuffix.eq_of_length rfl
    simpa using heq
  · rintro ⟨rfl, rfl⟩
    exact List.suffix_append ys _

/-- **Meeting an open module again** notes that the innermost module closes a cycle with it. -/
theorem closesCycle_revisit {d : Discovery} {u t : ModuleId} {lower : List ModuleId}
    (hopened : d.opened = (u :: lower).reverse) (ht : t ∈ u :: lower) (v t' : ModuleId) :
    ClosesCycle (d.revisit t).cycles v t' ↔ ClosesCycle d.cycles v t' ∨ v = u ∧ t' = t := by
  have hmem : t ∈ d.opened := by
    rw [hopened]
    exact List.mem_reverse.2 ht
  obtain ⟨ys, hys⟩ : ∃ ys, d.opened.dropWhile (· ≠ t) = ys ++ [u] := by
    rw [hopened, List.reverse_cons]
    exact dropWhile_concat ⟨t, by simpa [or_comm] using ht, by simp⟩
  rw [Discovery.revisit, if_pos hmem, Discovery.noteCycle, hys]
  split
  · next hknown =>
      refine ⟨.inl, ?_⟩
      rintro (h | h)
      · exact h
      · exact ⟨_, hknown, (pair_suffix_iff ys u t v t').2 h⟩
  · simp only [ClosesCycle, List.mem_append, List.mem_singleton, or_and_right, exists_or,
      exists_eq_left, pair_suffix_iff]

/-! ## Answers as foretold -/

variable (name : ModuleId → String)

/-- **The answers to some imports of a module** are the foretold ones, and what is not answered
    with a stand-in has its exports in the cache. -/
structure Answered (cycles : List (List ModuleId)) (l : Loader) (u : ModuleId)
    (imports : List (String × ModuleId)) : Prop where
  replies : replies (name u) l = imports.map (reply name cycles l u)
  ready : ∀ e ∈ imports, ¬ ClosesCycle cycles u e.2 →
    ∃ exports, l.cache.get? (name e.2) = some exports

variable {name}

/-- A reply depends on the cycles only as far as they tell whether its edge closes one, and on the
    cache only where it closes none. -/
lemma reply_congr {cycles cycles' : List (List ModuleId)} {l l' : Loader} {u : ModuleId}
    {e : String × ModuleId} (hcycles : ClosesCycle cycles' u e.2 ↔ ClosesCycle cycles u e.2)
    (hcache : ¬ ClosesCycle cycles u e.2 → l'.cache.get? (name e.2) = l.cache.get? (name e.2)) :
    reply name cycles' l' u e = reply name cycles l u e := by
  rw [reply, reply]
  by_cases h : ClosesCycle cycles u e.2
  · rw [if_pos h, if_pos (hcycles.2 h)]
  · rw [if_neg h, if_neg (fun h' => h (hcycles.1 h')), hcache h]

/-- What other modules do changes nothing. -/
lemma Answered.keep {cycles cycles' : List (List ModuleId)} {l l' : Loader} {u : ModuleId}
    {imports : List (String × ModuleId)} (h : Answered name cycles l u imports)
    (hreplies : Execution.replies (name u) l' = Execution.replies (name u) l)
    (hcycles : ∀ e ∈ imports, ClosesCycle cycles' u e.2 ↔ ClosesCycle cycles u e.2)
    (hcache : ∀ key exports, l.cache.get? key = some exports → l'.cache.get? key = some exports) :
    Answered name cycles' l' u imports where
  replies := by
    rw [hreplies, h.replies]
    refine List.map_congr_left fun e he => (reply_congr (hcycles e he) fun hopen => ?_).symm
    obtain ⟨exports, hexports⟩ := h.ready e he hopen
    rw [hexports, hcache _ _ hexports]
  ready e he hopen := by
    obtain ⟨exports, hexports⟩ := h.ready e he fun hcloses => hopen ((hcycles e he).2 hcloses)
    exact ⟨exports, hcache _ _ hexports⟩

lemma replies_note_self (u s t : String) (standIn : Bool) (exports : Exports) (l : Loader) :
    replies u (l.note (.answered u s t standIn exports))
      = replies u l ++ [⟨s, t, standIn, exports⟩] := by
  simp [replies, reply?]

lemma replies_note_other {u v : String} (h : u ≠ v) (s t : String) (standIn : Bool)
    (exports : Exports) (l : Loader) :
    replies v (l.note (.answered u s t standIn exports)) = replies v l := by
  simp [replies, reply?, h]

/-- One more import is answered with a stand-in. -/
lemma Answered.standIn {cycles cycles' : List (List ModuleId)} {l : Loader} {u : ModuleId}
    {imports : List (String × ModuleId)} (h : Answered name cycles l u imports) (s : String)
    {t : ModuleId} (hcycles : ∀ e ∈ imports, ClosesCycle cycles' u e.2 ↔ ClosesCycle cycles u e.2)
    (ht : ClosesCycle cycles' u t) :
    Answered name cycles' (l.note (.answered (name u) s (name t) true .empty)) u
      (imports ++ [(s, t)]) where
  replies := by
    rw [replies_note_self, h.replies, List.map_append, List.map_singleton, reply, if_pos ht]
    congr 1
    exact List.map_congr_left fun e he => (reply_congr (hcycles e he) fun _ => rfl).symm
  ready e he hopen := by
    rcases List.mem_append.1 he with he | he
    · exact h.ready e he fun hcloses => hopen ((hcycles e he).2 hcloses)
    · rw [List.mem_singleton] at he
      subst he
      exact absurd ht hopen

/-- One more import is answered with the exports of its target. -/
lemma Answered.exports {cycles : List (List ModuleId)} {l : Loader} {u : ModuleId}
    {imports : List (String × ModuleId)} (h : Answered name cycles l u imports) (s : String)
    {t : ModuleId} {exports : Exports} (ht : ¬ ClosesCycle cycles u t)
    (hcache : l.cache.get? (name t) = some exports) :
    Answered name cycles (l.note (.answered (name u) s (name t) false exports)) u
      (imports ++ [(s, t)]) where
  replies := by
    have hreply : reply name cycles l u (s, t) = ⟨s, name t, false, exports⟩ := by
      rw [reply, if_neg ht, hcache, Option.getD_some]
    rw [replies_note_self, h.replies, List.map_append, List.map_singleton, ← hreply]
    rfl
  ready e he hopen := by
    rcases List.mem_append.1 he with he | he
    · exact h.ready e he hopen
    · rw [List.mem_singleton] at he
      subst he
      exact ⟨exports, hcache⟩

end ModuleBundler.Execution
