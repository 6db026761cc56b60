import Mathlib.Data.Nat.Digits.Defs
import ModuleBundler.Identifier.Name

/-!
# Repaired names

**Valid names.**  Every character of a valid name may stand inside one (`isPart_of_mem`), and so a
valid name stays one if such characters are added to it (`isName_append`).

**Repair.**  Whatever it is given, `legitimize` makes a valid name (`isName_legitimize`), and the
texts that it leaves alone are the valid names (`legitimize_eq_self_iff`).  What it does to a first
character depends on whether that may begin a name, or at least continue one.

**Variables.**  Two underscores in front of a repaired name, and a number behind a `$`, keep it
valid (`isName_variable`, `isName_numberedVariable`).
-/

namespace ModuleBundler.Identifier

/-! ## Characters -/

lemma isPart_of_isStart {c : Char} (h : isStart c = true) : isPart c = true := by
  rw [isPart, h, Bool.true_or, Bool.true_or]

lemma isStart_underscore : isStart '_' = true := by decide

lemma isPart_of_mem_toString {n : ℕ} {c : Char} (h : c ∈ (toString n).toList) :
    isPart c = true := by
  rw [Nat.toString_eq_ofList_toDigits, String.toList_ofList] at h
  have hdigit := Nat.isDigit_of_mem_toDigits (by decide) (by decide) h
  simp only [Char.isDigit, Bool.and_eq_true, decide_eq_true_eq, ge_iff_le] at hdigit
  have hrange : 48 ≤ c.toNat ∧ c.toNat ≤ 57 := hdigit
  simp [isPart, hrange.1, hrange.2]

lemma isPart_repairPart (c : Char) : isPart (repairPart c) = true := by
  rw [repairPart]
  split
  · assumption
  · exact isPart_of_isStart isStart_underscore

lemma repairPart_of_isPart {c : Char} (h : isPart c = true) : repairPart c = c :=
  if_pos h

/-! ## Valid names -/

lemma validChars_cons_iff (c : Char) (rest : List Char) :
    validChars (c :: rest) = true ↔ isStart c = true ∧ ∀ d ∈ rest, isPart d = true := by
  rw [validChars, Bool.and_eq_true, List.all_eq_true]

/-- **Every character of a valid name** may stand inside one. -/
lemma isPart_of_mem {name : String} (hname : isName name = true) {c : Char}
    (hc : c ∈ name.toList) : isPart c = true := by
  rw [isName] at hname
  cases hcs : name.toList with
  | nil =>
      rw [hcs] at hc
      cases hc
  | cons first rest =>
      rw [hcs, validChars_cons_iff] at hname
      rw [hcs] at hc
      rcases List.mem_cons.1 hc with rfl | hc
      · exact isPart_of_isStart hname.1
      · exact hname.2 c hc

/-- **A valid name with something added** is valid if what is added may stand inside a name. -/
lemma isName_append {name more : String} (hname : isName name = true)
    (hmore : ∀ c ∈ more.toList, isPart c = true) : isName (name ++ more) = true := by
  rw [isName] at hname ⊢
  rw [String.toList_append]
  cases hcs : name.toList with
  | nil =>
      rw [hcs] at hname
      cases hname
  | cons first rest =>
      rw [hcs, validChars_cons_iff] at hname
      rw [List.cons_append, validChars_cons_iff]
      exact ⟨hname.1, List.forall_mem_append.2 ⟨hname.2, hmore⟩⟩

/-! ## Repair -/

/-- **What is repaired is valid.** -/
lemma validChars_legitimizeChars (cs : List Char) : validChars (legitimizeChars cs) = true := by
  cases cs with
  | nil => decide
  | cons c rest =>
      have hrest : ∀ d ∈ rest.map repairPart, isPart d = true :=
        List.forall_mem_map.2 fun d _ => isPart_repairPart d
      rw [legitimizeChars]
      split
      · next hstart => exact (validChars_cons_iff _ _).2 ⟨hstart, hrest⟩
      · split
        · next hpart =>
            exact (validChars_cons_iff _ _).2
              ⟨isStart_underscore, List.forall_mem_cons.2 ⟨hpart, hrest⟩⟩
        · exact (validChars_cons_iff _ _).2 ⟨isStart_underscore, hrest⟩

/-- **What is valid is left as it is.** -/
lemma legitimizeChars_of_valid {cs : List Char} (h : validChars cs = true) :
    legitimizeChars cs = cs := by
  cases cs with
  | nil => cases h
  | cons c rest =>
      obtain ⟨hstart, hrest⟩ := (validChars_cons_iff c rest).1 h
      rw [legitimizeChars, if_pos hstart,
        List.map_congr_left fun d hd => repairPart_of_isPart (hrest d hd), List.map_id']

/-- **What is repaired is a valid name.** -/
theorem isName_legitimize (s : String) : isName (legitimize s) = true := by
  rw [isName, legitimize, String.toList_ofList]
  exact validChars_legitimizeChars s.toList

/-- **What is left alone** is what was a valid name already. -/
theorem legitimize_eq_self_iff (s : String) : legitimize s = s ↔ isName s = true := by
  constructor
  · intro h
    rw [← h]
    exact isName_legitimize s
  · intro h
    rw [legitimize, legitimizeChars_of_valid h, String.ofList_toList]

/-! ## Variables -/

lemma isName_variable (s : String) : isName ("__" ++ legitimize s) = true :=
  isName_append (by decide +kernel) fun _ hc => isPart_of_mem (isName_legitimize s) hc

lemma isName_numberedVariable (s : String) (n : ℕ) :
    isName ("__" ++ legitimize s ++ "$" ++ toString n) = true := by
  have hdollar : ∀ c ∈ "$".toList, isPart c = true := List.all_eq_true.1 (by decide +kernel)
  exact isName_append (isName_append (isName_variable s) hdollar) fun _ hc =>
    isPart_of_mem_toString hc

/-- **Repair makes names and keeps them.**  Whatever text is repaired, the outcome is a valid name.
    It is the text itself exactly if that is a valid name, so to repair twice is to repair once.
    Behind two underscores the outcome is still valid, with a `$` and a number or without. -/
theorem legitimize_lawful (s : String) :
    isName (legitimize s) = true
      ∧ (legitimize s = s ↔ isName s = true)
      ∧ legitimize (legitimize s) = legitimize s
      ∧ isName ("__" ++ legitimize s) = true
      ∧ ∀ n : ℕ, isName ("__" ++ legitimize s ++ "$" ++ toString n) = true := by
  have hname := isName_legitimize s
  refine ⟨hname, legitimize_eq_self_iff s, ?_, isName_variable s, isName_numberedVariable s⟩
  exact (legitimize_eq_self_iff (legitimize s)).2 hname

/-- The three ways to treat a first character, and the empty text. -/
example : ["math", "lodash-es", "1st", "-x", ""].map legitimize
    = ["math", "lodash_es", "_1st", "_x", "_"] := by
  decide +kernel

end ModuleBundler.Identifier
