/-!
Sets of code points given as lists of closed intervals. A table of intervals is
searched from its front; the tables of this library are sorted and disjoint, but
nothing below depends on that.
-/

set_option autoImplicit false

namespace DocumentRules.Text

/-- An interval of code points, both ends included. -/
abbrev Interval := Nat × Nat

def Interval.holds (interval : Interval) (code : Nat) : Bool :=
  interval.1 ≤ code && code ≤ interval.2

def within (table : List Interval) (code : Nat) : Bool :=
  table.any fun interval => interval.holds code

end DocumentRules.Text
