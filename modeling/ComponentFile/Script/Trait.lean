import ComponentFile.Script.Tree

/-!
# Traits of values

What reading a script has to know about a value that it has just read.

* `Expr.keepsBrackets` — whether the brackets around a value mean something.
* `Expr.accepts` — whether a value may be given another value.
* `Expr.markPure` — a value of which the first call has no effect but its value.
-/

namespace ComponentFile.Script

/-- Whether a value is read as far as an early end of its chain. -/
def Expr.mayEndEarly : Expr → Bool
  | .field inner isOptional _ => isOptional || inner.mayEndEarly
  | .index inner isOptional _ => isOptional || inner.mayEndEarly
  | .call callee isOptional _ _ => isOptional || callee.mayEndEarly
  | _ => false

/-- Whether the brackets around a value are kept: those of functions, and of chains that may end
early. -/
def Expr.keepsBrackets : Expr → Bool
  | .function _ _ _ _ | .arrow _ _ _ | .arrowTo _ _ _ => true
  | value => value.mayEndEarly

/-- Whether a value may be given another value. -/
def Expr.isTarget : Expr → Bool
  | .name _ | .field _ false _ | .index _ false _ => true
  | _ => false

mutual

/-- Whether the parts of a value may be given the parts of another value. -/
def Expr.isTargetPattern : Expr → Bool
  | .array items => allTargetItems items
  | .object _ members => allTargetMembers members
  | .assign "=" target _ => target.isTarget || target.isTargetPattern
  | target => target.isTarget

/-- Whether items may be given the items of a value. -/
def allTargetItems : List Item → Bool
  | [] => true
  | .value value :: rest => value.isTargetPattern && allTargetItems rest
  | .hole :: rest => allTargetItems rest
  | [.spread value] => value.isTargetPattern
  | _ => false

/-- Whether members may be given the members of a value. -/
def allTargetMembers : List Member → Bool
  | [] => true
  | .property _ value :: rest => value.isTargetPattern && allTargetMembers rest
  | .shorthand _ :: rest => allTargetMembers rest
  | [.spread value] => value.isTarget
  | _ => false

end

/-- Whether an operator may give a value another value. -/
def Expr.accepts (operator : String) : Expr → Bool
  | .assign _ _ _ => false
  | target => target.isTarget || (operator == "=" && target.isTargetPattern)

/-- A value of which the first call has no effect but its value. -/
def Expr.markPure : Expr → Expr
  | .call callee isOptional _ arguments => .call callee isOptional true arguments
  | .construct callee _ arguments => .construct callee true arguments
  | .binary operator left right => .binary operator left.markPure right
  | .conditional test yes no => .conditional test.markPure yes no
  | .group value => .group value.markPure
  | value => value

end ComponentFile.Script
