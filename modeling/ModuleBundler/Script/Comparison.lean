import ModuleBundler.Script.Item

/-!
# Comparing scripts

Equality of syntax trees is decided along the trees, and that of items and outlines by their parts.
-/

namespace ModuleBundler.Script

mutual

/-- Whether two syntax trees are the same. -/
def Node.decEq : (m n : Node) → Decidable (m = n)
  | .node k s cs, .node k' s' cs' =>
      have := nodesDecEq cs cs'
      decidable_of_iff (k = k' ∧ s = s' ∧ cs = cs') (by simp)

/-- Lists of nodes can be compared. -/
def nodesDecEq : (ms ns : List Node) → Decidable (ms = ns)
  | [], [] => .isTrue rfl
  | [], _ :: _ => .isFalse nofun
  | _ :: _, [] => .isFalse nofun
  | m :: ms, n :: ns =>
      have := m.decEq n
      have := nodesDecEq ms ns
      decidable_of_iff (m = n ∧ ms = ns) (by simp)

end

instance : DecidableEq Node := Node.decEq

deriving instance DecidableEq for Item

deriving instance DecidableEq for Program

end ModuleBundler.Script
