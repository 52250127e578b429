set_option autoImplicit false

/-! # How deep patterns are

A pattern consists of parts, which have parts of their own. A part without parts has depth zero; one
that has parts, such as a group, a repetition or a class, is one deeper than the deepest of them. So
are parts that stand beside each other, if there is more than one. -/

namespace SessionHub.Pattern

/-- Parts that stand beside each other: how many they are, and how deep the deepest one is. -/
structure Parts where
  count : Nat := 0
  depth : Nat := 0
  deriving DecidableEq, Repr

namespace Parts

/-- One more part. -/
def add (p : Parts) (depth : Nat) : Parts :=
  { count := p.count + 1, depth := max p.depth depth }

/-- The same parts, the last of which has become deeper. -/
def deepenLast (p : Parts) (depth : Nat) : Parts :=
  { p with depth := max p.depth depth }

/-- How deep the parts are together. -/
def whole (p : Parts) : Nat :=
  if p.count ≤ 1 then p.depth else p.depth + 1

end Parts

/-- How deep a pattern may be. -/
def depthLimit : Nat := 250

end SessionHub.Pattern
