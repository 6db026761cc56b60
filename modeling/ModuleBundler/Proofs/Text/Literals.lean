import Mathlib.Algebra.Ring.Parity
import ModuleBundler.Proofs.Text.Reading

/-!
# Literals

**The inside of a literal** (`Inside`) consists of plain characters, and of backslashes with the
characters that they escape.  This is what `quotedChar` writes, one character after the other
(`inside_pieces`).

**Quotes.**  A quote is escaped if an odd number of backslashes stands in front of it.  A plain
character, and a backslash with what it escapes, end with an even number of backslashes, so they do
not change what the following ones mean (`even_backslashesAtEnd_append`).  Hence every quote inside
a literal is escaped (`Inside.odd_backslashesAtEnd`), and the one behind it is not
(`Inside.even_backslashesAtEnd`).

**Literals apart.**  A literal is read back whatever follows, so none is the beginning of another
one (`eq_of_quoted_prefix`).
-/

namespace ModuleBundler.Text

/-! ## The inside of a literal -/

/-- What stands for itself in a literal. -/
def Plain (c : Char) : Prop := c ≠ '"' ∧ c ≠ '\\' ∧ 0x20 ≤ c.toNat

/-- **The inside of a literal**: plain characters, and backslashes with what they escape. -/
inductive Inside : List Char → Prop
  | nil : Inside []
  | plain {c : Char} {rest : List Char} (hc : Plain c) (h : Inside rest) : Inside (c :: rest)
  | escape {e : Char} {rest : List Char} (he : 0x20 ≤ e.toNat) (h : Inside rest) :
      Inside ('\\' :: e :: rest)

lemma plain_hexDigit : ∀ n < 16, Plain (hexDigit n) := by
  unfold Plain
  decide

/-- A character more, in front. -/
lemma Inside.quotedChar_append (c : Char) {rest : List Char} (h : Inside rest) :
    Inside (quotedChar c ++ rest) := by
  rw [quotedChar]
  split_ifs with hquote hback hb hf hn hr ht hcontrol
  iterate 7 exact .escape (by decide) h
  · have hzero : Plain '0' := by
      unfold Plain
      decide
    have hhigh := plain_hexDigit (c.toNat / 16) (by omega)
    have hlow := plain_hexDigit (c.toNat % 16) (by omega)
    exact .escape (by decide) (.plain hzero (.plain hzero (.plain hhigh (.plain hlow h))))
  · exact .plain ⟨hquote, hback, Nat.le_of_not_lt hcontrol⟩ h

/-- **What is written** between the quotes. -/
theorem inside_pieces (cs : List Char) : Inside (cs.flatMap quotedChar) := by
  induction cs with
  | nil => exact .nil
  | cons c rest ih =>
      rw [List.flatMap_cons]
      exact ih.quotedChar_append c

lemma Inside.le_toNat {cs : List Char} (h : Inside cs) : ∀ c ∈ cs, 0x20 ≤ c.toNat := by
  induction h with
  | nil => exact List.forall_mem_nil _
  | plain hc _ ih => exact List.forall_mem_cons.2 ⟨hc.2.2, ih⟩
  | escape he _ ih =>
      exact List.forall_mem_cons.2 ⟨by decide, List.forall_mem_cons.2 ⟨he, ih⟩⟩

/-! ## Quotes -/

/-- How many backslashes stand at the end. -/
def backslashesAtEnd (cs : List Char) : ℕ :=
  (cs.reverse.takeWhile fun c => c = '\\').length

/-- **An even number of backslashes** leaves the meaning of the next ones as it is. -/
lemma even_backslashesAtEnd_append {before : List Char} (h : Even (backslashesAtEnd before))
    (cs : List Char) :
    Even (backslashesAtEnd (before ++ cs)) ↔ Even (backslashesAtEnd cs) := by
  rw [backslashesAtEnd, List.reverse_append, List.takeWhile_append]
  split
  · next hall =>
      -- The second part is all backslashes, and those at the end of the first one count as well.
      rw [List.length_append, ← hall, Nat.even_add]
      exact iff_true_right h
  · rfl

lemma even_backslashesAtEnd_plain {c : Char} (hc : Plain c) : Even (backslashesAtEnd [c]) := by
  simp [backslashesAtEnd, hc.2.1]

lemma even_backslashesAtEnd_escape (e : Char) : Even (backslashesAtEnd ['\\', e]) := by
  by_cases he : e = '\\'
  · rw [he]
    decide
  · simp [backslashesAtEnd, he]

/-- **The quote behind a literal** is not escaped. -/
theorem Inside.even_backslashesAtEnd {cs : List Char} (h : Inside cs) :
    Even (backslashesAtEnd cs) := by
  induction h with
  | nil => exact Even.zero
  | plain hc _ ih => exact (even_backslashesAtEnd_append (even_backslashesAtEnd_plain hc) _).2 ih
  | escape he _ ih => exact (even_backslashesAtEnd_append (even_backslashesAtEnd_escape _) _).2 ih

/-- **Every quote inside a literal** is escaped. -/
theorem Inside.odd_backslashesAtEnd {cs before after : List Char} (h : Inside cs)
    (hquote : cs = before ++ '"' :: after) : Odd (backslashesAtEnd before) := by
  rw [← Nat.not_even_iff_odd]
  induction h generalizing before with
  | nil => simp at hquote
  | plain hc _ ih =>
      cases before with
      | nil =>
          cases hquote
          exact absurd rfl hc.1
      | cons first before =>
          cases hquote
          exact fun heven =>
            ih rfl ((even_backslashesAtEnd_append (even_backslashesAtEnd_plain hc) before).1 heven)
  | escape he _ ih =>
      cases before with
      | nil => cases hquote
      | cons first before =>
          cases before with
          | nil =>
              -- It is the quote itself that is escaped.
              cases hquote
              decide
          | cons second before =>
              cases hquote
              exact fun heven =>
                ih rfl ((even_backslashesAtEnd_append (even_backslashesAtEnd_escape _) before).1
                  heven)

/-! ## Literals apart -/

/-- **A literal that is the beginning of another one** is the literal of the same text. -/
lemma eq_of_quoted_prefix {v w : String} (h : (quoted v).toList <+: (quoted w).toList) : v = w := by
  obtain ⟨rest, hrest⟩ := h
  have hv := unquote?_quoted v rest
  have hw := unquote?_quoted w []
  rw [List.append_nil, ← hrest, hv] at hw
  exact (Prod.mk.inj (Option.some.inj hw)).1

end ModuleBundler.Text
