import ModuleBundler.Identifier.Name
import ModuleBundler.Proofs.Text.Literals

/-!
# Reads of properties

The read of a property begins with the object.  What stands behind it has a point or a bracket in
front, which tells how the name of the property is to be read (`named?`), and gives the name back
(`named?_ending`).  So different properties of one object are read differently
(`access_injective`).
-/

namespace ModuleBundler.Identifier

/-- What stands behind the object in the read of a property. -/
def ending (name : String) : List Char :=
  if isName name then '.' :: name.toList else '[' :: ((Text.quoted name).toList ++ [']'])

lemma toList_access (object name : String) :
    (access object name).toList = object.toList ++ ending name := by
  rw [access, ending]
  split
  · simp [String.toList_append]
  · simp [String.toList_append]

/-- Read the name of the property from what stands behind the object. -/
def named? : List Char → Option String
  | '.' :: name => some (String.ofList name)
  | '[' :: rest => (Text.unquote? rest).map Prod.fst
  | _ => none

/-- **The name of the property** is read back. -/
lemma named?_ending (name : String) : named? (ending name) = some name := by
  rw [ending]
  split
  · rw [named?, String.ofList_toList]
  · rw [named?, Text.unquote?_quoted, Option.map_some]

/-- **Different properties** of an object are read differently. -/
lemma access_injective (object : String) : Function.Injective (access object) := by
  intro p q h
  have hlists := congrArg String.toList h
  rw [toList_access, toList_access] at hlists
  have hnames := congrArg named? (List.append_cancel_left hlists)
  rw [named?_ending, named?_ending] at hnames
  exact Option.some.inj hnames

/-- **Nothing is lost** in literals and in reads of properties.  The literal of a text stands
    between two quotes.  Inside, every quote is escaped, the last one of the literal is not, and
    there is no control character.  The literal is read back as the text, and no other literal
    begins with it.  The read of a property puts a point and the name behind the object if the name
    is valid, and otherwise a literal in brackets that is read back as the name.  Different
    properties of an object are read differently. -/
theorem quoted_access_lossless :
    (∀ v : String,
      (∃ inside, (Text.quoted v).toList = '"' :: (inside ++ ['"'])
        ∧ (∀ before after, inside = before ++ '"' :: after → Odd (Text.backslashesAtEnd before))
        ∧ Even (Text.backslashesAtEnd inside)
        ∧ ∀ c ∈ inside, 0x20 ≤ c.toNat)
      ∧ Text.unquote? (Text.quoted v).toList = some (v, [])
      ∧ ∀ w, (Text.quoted v).toList <+: (Text.quoted w).toList → v = w)
    ∧ ∀ object p : String,
      (isName p = true ∧ access object p = object ++ "." ++ p
        ∨ isName p = false ∧ ∃ literal, access object p = object ++ "[" ++ literal ++ "]"
            ∧ Text.unquote? literal.toList = some (p, []))
      ∧ ∀ q, access object p = access object q → p = q := by
  have hread : ∀ v, Text.unquote? (Text.quoted v).toList = some (v, []) := fun v => by
    simpa using Text.unquote?_quoted v []
  refine ⟨fun v => ⟨?_, hread v, fun w h => Text.eq_of_quoted_prefix h⟩,
    fun object p => ⟨?_, fun q h => access_injective object h⟩⟩
  · have hinside : Text.Inside (v.toList.flatMap Text.quotedChar) := Text.inside_pieces _
    refine ⟨_, ?_, fun before after h => hinside.odd_backslashesAtEnd h,
      hinside.even_backslashesAtEnd, hinside.le_toNat⟩
    rw [Text.quoted, String.toList_ofList, Text.quotedChars]
  · cases hname : isName p with
    | true => exact .inl ⟨rfl, if_pos hname⟩
    | false =>
        have hbracket : access object p = object ++ "[" ++ Text.quoted p ++ "]" :=
          if_neg (by simp [hname])
        exact .inr ⟨rfl, Text.quoted p, hbracket, hread p⟩

/-- A name, a text that is none, and one with a quote and a backslash. -/
example : ["value", "some-name", "\"\\"].map (access "b")
    = ["b.value", "b[\"some-name\"]", "b[\"\\\"\\\\\"]"] := by
  decide +kernel

end ModuleBundler.Identifier
