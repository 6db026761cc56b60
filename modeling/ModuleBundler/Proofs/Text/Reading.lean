import Mathlib.Data.List.DropRight
import Mathlib.Data.List.Infix
import ModuleBundler.Text.Blank
import ModuleBundler.Text.Lines
import ModuleBundler.Text.Quoted

/-!
# Reading texts back

A reader takes what it reads from the beginning of a text, and hands on the rest.

**Fixed pieces.**  `after?` passes over a piece that is known, `before?` takes one away at the end,
and `upTo?` reads up to a mark.

**Quoted texts.**  `unquote?` reads a quoted text with any escapes of the interchange notation, be
it written by `quoted` or by something else.  It undoes `quoted`, whatever follows
(`unquote?_quoted`).

**Lists.**  `separated` reads items with a separator between neighbours, as many as there are.
-/

namespace ModuleBundler.Text

/-! ## Fixed pieces -/

lemma after?_eq_some_iff {start cs rest : List Char} :
    after? start cs = some rest ↔ cs = start ++ rest := by
  induction start generalizing cs with
  | nil => simp [after?]
  | cons s start ih =>
      cases cs with
      | nil => simp [after?]
      | cons c cs =>
          rw [after?]
          by_cases h : s = c
          · simp [h, ih]
          · simp [h, Ne.symm h]

@[simp]
lemma after?_append (start rest : List Char) : after? start (start ++ rest) = some rest :=
  after?_eq_some_iff.2 rfl

lemma after?_append_left (start more rest : List Char) :
    after? (start ++ more) (start ++ rest) = after? more rest :=
  Option.ext fun _ => by simp [after?_eq_some_iff, List.append_assoc]

lemma isSome_after?_iff {start cs : List Char} :
    (after? start cs).isSome = true ↔ start <+: cs := by
  rw [Option.isSome_iff_exists]
  constructor
  · rintro ⟨rest, h⟩
    exact ⟨rest, (after?_eq_some_iff.1 h).symm⟩
  · rintro ⟨rest, h⟩
    exact ⟨rest, after?_eq_some_iff.2 h.symm⟩

lemma after?_eq_none_iff {start cs : List Char} : after? start cs = none ↔ ¬ start <+: cs := by
  rw [← isSome_after?_iff, Bool.not_eq_true, Option.isSome_eq_false_iff, Option.isNone_iff_eq_none]

lemma occursIn_iff {part whole : List Char} : occursIn part whole = true ↔ part <:+: whole := by
  induction whole with
  | nil => simp [occursIn, isSome_after?_iff]
  | cons c rest ih =>
      rw [occursIn, Bool.or_eq_true, isSome_after?_iff, ih, List.infix_cons_iff]

/-- What comes before `stop` in a list of characters that ends with it. -/
def before? (stop cs : List Char) : Option (List Char) :=
  (after? stop.reverse cs.reverse).map List.reverse

@[simp]
lemma before?_append (stop cs : List Char) : before? stop (cs ++ stop) = some cs := by
  rw [before?, List.reverse_append, after?_append, Option.map_some, List.reverse_reverse]

/-- Read up to the first occurrence of a mark, and pass over it. -/
def upTo? (mark cs : List Char) : Option (List Char × List Char) :=
  match after? mark cs with
  | some rest => some ([], rest)
  | none =>
      match cs with
      | [] => none
      | c :: rest => (upTo? mark rest).map fun p => (c :: p.1, p.2)

lemma upTo?_self (mark rest : List Char) : upTo? mark (mark ++ rest) = some ([], rest) := by
  rw [upTo?.eq_def, after?_append]

/-- A piece without the mark is read in full, if it is cut off from the mark by a character that the
    mark does not have. -/
lemma upTo?_append {mark piece : List Char} {c : Char} (hmark : ¬ mark <:+: piece) (hc : c ∉ mark)
    (rest : List Char) : upTo? mark (piece ++ c :: (mark ++ rest)) = some (piece ++ [c], rest) := by
  have hnone : ∀ piece', ¬ mark <:+: piece' →
      after? mark (piece' ++ c :: (mark ++ rest)) = none := by
    intro piece' hmark'
    refine after?_eq_none_iff.2 fun hprefix => ?_
    have hcut : piece' ++ [c] <+: piece' ++ c :: (mark ++ rest) := ⟨mark ++ rest, by simp⟩
    rcases List.prefix_or_prefix_of_prefix hprefix hcut with h | h
    · rcases List.prefix_concat_iff.1 h with rfl | h
      · simp at hc
      · exact hmark' h.isInfix
    · exact hc (h.subset (by simp))
  induction piece with
  | nil =>
      rw [upTo?.eq_def, hnone [] hmark]
      simp [upTo?_self]
  | cons d piece ih =>
      have htail : ¬ mark <:+: piece := fun h => hmark (List.infix_cons h)
      rw [upTo?.eq_def, hnone _ hmark]
      simp [ih htail]

/-- A piece without the first character of the mark is read in full. -/
lemma upTo?_of_notMem {c : Char} {piece : List Char} (h : c ∉ piece) (mark rest : List Char) :
    upTo? (c :: mark) (piece ++ (c :: mark ++ rest)) = some (piece, rest) := by
  induction piece with
  | nil => exact upTo?_self _ _
  | cons d piece ih =>
      rw [List.mem_cons, not_or] at h
      have hnone : after? (c :: mark) (d :: (piece ++ (c :: mark ++ rest))) = none := by
        rw [after?, if_neg h.1]
      rw [List.cons_append, upTo?.eq_def, hnone]
      simp only [ih h.2, Option.map_some]

/-! ## Quoted texts -/

/-- The value of a hexadecimal digit. -/
def hexValue? (c : Char) : Option Nat :=
  if 48 ≤ c.toNat ∧ c.toNat ≤ 57 then some (c.toNat - 48)
  else if 65 ≤ c.toNat ∧ c.toNat ≤ 70 then some (c.toNat - 55)
  else if 97 ≤ c.toNat ∧ c.toNat ≤ 102 then some (c.toNat - 87)
  else none

/-- The number that four hexadecimal digits write. -/
def unit? (a b c d : Char) : Option Nat :=
  [a, b, c, d].foldlM (fun value digit => (hexValue? digit).map (value * 16 + ·)) 0

/-- What a letter after a backslash stands for. -/
def escaped? (c : Char) : Option Char :=
  if c = '"' ∨ c = '\\' ∨ c = '/' then some c
  else if c = 'b' then some '\x08'
  else if c = 'f' then some '\x0c'
  else if c = 'n' then some '\n'
  else if c = 'r' then some '\r'
  else if c = 't' then some '\t'
  else none

/-- The character that two halves of a surrogate pair stand for. -/
def pair? (first second : Nat) : Option Char :=
  if 0xD800 ≤ first ∧ first ≤ 0xDBFF ∧ 0xDC00 ≤ second ∧ second ≤ 0xDFFF then
    some (Char.ofNat (0x10000 + (first - 0xD800) * 0x400 + (second - 0xDC00)))
  else none

/-- Read what is left of a quoted text, and its last quote. -/
def unquoteRest? : List Char → Option (List Char × List Char)
  | [] => none
  | '"' :: rest => some ([], rest)
  | '\\' :: 'u' :: a :: b :: c :: d :: rest => do
      let first ← unit? a b c d
      if first < 0xD800 ∨ 0xDFFF < first then
        (unquoteRest? rest).map fun p => (Char.ofNat first :: p.1, p.2)
      else match rest with
        | '\\' :: 'u' :: a' :: b' :: c' :: d' :: rest' => do
            let second ← unit? a' b' c' d'
            let whole ← pair? first second
            (unquoteRest? rest').map fun p => (whole :: p.1, p.2)
        | _ => none
  | '\\' :: e :: rest => do
      let c ← escaped? e
      (unquoteRest? rest).map fun p => (c :: p.1, p.2)
  | c :: rest =>
      if c.toNat < 0x20 then none else (unquoteRest? rest).map fun p => (c :: p.1, p.2)

/-- **Read a quoted text.** -/
def unquote? : List Char → Option (String × List Char)
  | '"' :: rest => (unquoteRest? rest).map fun p => (String.ofList p.1, p.2)
  | _ => none

lemma hexValue?_hexDigit : ∀ n < 16, hexValue? (hexDigit n) = some n := by
  decide

/-- A control character is written with two digits. -/
lemma unit?_hexDigits {c : Char} (h : c.toNat < 0x20) :
    unit? '0' '0' (hexDigit (c.toNat / 16)) (hexDigit (c.toNat % 16)) = some c.toNat := by
  have hhigh := hexValue?_hexDigit (c.toNat / 16) (by omega)
  have hlow := hexValue?_hexDigit (c.toNat % 16) (by omega)
  have hzero : hexValue? '0' = some 0 := by decide
  simp [unit?, hhigh, hlow, hzero]
  omega

/-- What is neither the quote nor the backslash stands for itself. -/
lemma unquoteRest?_plain {c : Char} (hquote : c ≠ '"') (hback : c ≠ '\\') (rest : List Char) :
    unquoteRest? (c :: rest)
      = if c.toNat < 0x20 then none
        else (unquoteRest? rest).map fun p => (c :: p.1, p.2) := by
  rw [unquoteRest?.eq_def]
  split <;> simp_all

/-- **One character is read back.** -/
lemma unquoteRest?_quotedChar (c : Char) (rest : List Char) :
    unquoteRest? (quotedChar c ++ rest)
      = (unquoteRest? rest).map fun p => (c :: p.1, p.2) := by
  rw [quotedChar]
  split_ifs with hquote hback hb hf hn hr ht hcontrol
  · rw [hquote]
    rfl
  · rw [hback]
    rfl
  · rw [hb]
    rfl
  · rw [hf]
    rfl
  · rw [hn]
    rfl
  · rw [hr]
    rfl
  · rw [ht]
    rfl
  · have hlow : c.toNat < 0xD800 := by omega
    simp [unquoteRest?, unit?_hexDigits hcontrol, hlow, Char.ofNat_toNat]
  · rw [List.singleton_append, unquoteRest?_plain hquote hback, if_neg hcontrol]

/-- **A literal is read back** character by character, whatever follows. -/
theorem unquoteRest?_flatMap (cs rest : List Char) :
    unquoteRest? (cs.flatMap quotedChar ++ '"' :: rest) = some (cs, rest) := by
  induction cs with
  | nil => simp [unquoteRest?]
  | cons c cs ih =>
      rw [List.flatMap_cons, List.append_assoc, unquoteRest?_quotedChar, ih]
      rfl

/-- **A quoted text is read back**, whatever follows. -/
theorem unquote?_quoted (s : String) (rest : List Char) :
    unquote? ((quoted s).toList ++ rest) = some (s, rest) := by
  rw [quoted, String.toList_ofList, quotedChars, List.cons_append, unquote?, List.append_assoc,
    List.singleton_append, unquoteRest?_flatMap, Option.map_some, String.ofList_toList]

/-! ## Lists -/

/-- **Read items with a separator** between neighbours, as many as there are. -/
def separated {α : Type} (mark : List Char) (read : List Char → Option (α × List Char))
    (cs : List Char) : List α × List Char :=
  match read cs with
  | none => ([], cs)
  | some (x, rest) =>
      match after? mark rest with
      | none => ([x], rest)
      | some rest' =>
          -- A reader that takes nothing is not asked again.
          if rest'.length < cs.length then
            let more := separated mark read rest'
            (x :: more.1, more.2)
          else ([x], rest)
termination_by cs.length

/-- **Items are read back**, if each of them is, and what follows the last one is no separator. -/
theorem separated_intercalate {α β : Type} {mark : List Char}
    {read : List Char → Option (β × List Char)} {write : α → List Char} {f : α → β} {xs : List α}
    (hmark : mark ≠ []) (hread : ∀ x ∈ xs, ∀ rest, read (write x ++ rest) = some (f x, rest))
    {rest : List Char} (hnone : read rest = none) (hrest : ¬ mark <+: rest) :
    separated mark read (List.intercalate mark (xs.map write) ++ rest) = (xs.map f, rest) := by
  induction xs with
  | nil =>
      rw [separated]
      simp [hnone]
  | cons x xs ih =>
      have hx := hread x (List.mem_cons_self ..)
      cases xs with
      | nil =>
          rw [separated]
          simp [hx, after?_eq_none_iff.2 hrest]
      | cons y ys =>
          have ih := ih fun z hz => hread z (List.mem_cons_of_mem _ hz)
          have hpos := List.length_pos_iff.2 hmark
          rw [List.map_cons, List.map_cons, List.intercalate_cons_cons, ← List.map_cons,
            List.append_assoc, List.append_assoc, separated]
          simp only [hx, after?_append]
          rw [if_pos (by simp only [List.length_append]; omega), ih]
          rfl

/-! ## Ends without blanks -/

lemma dropBlankEnd_prefix (cs : List Char) : dropBlankEnd cs <+: cs :=
  List.rdropWhile_prefix isBlank cs

/-- Blanks are dropped up to the last character that is none, even if a line break is added. -/
lemma trimEnd_trimEnd_line (s : String) : trimEnd (trimEnd s ++ "\n") = trimEnd s := by
  rw [trimEnd, trimEnd, String.toList_append, String.toList_ofList]
  refine congrArg String.ofList ?_
  exact (List.rdropWhile_concat_pos _ _ _ (by decide)).trans (List.rdropWhile_idempotent _ _)

end ModuleBundler.Text
