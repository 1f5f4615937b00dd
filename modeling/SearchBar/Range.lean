/-!
# Ranges

A range asks a value to equal a bound, to compare with it in one of four ways,
or to lie between two bounds. Only an interval has two bounds, and its bounds
need not be in order.
-/

namespace SearchBar

/-- The four ways to compare with a bound. -/
inductive Comparison
  | less
  | greater
  | atMost
  | atLeast
  deriving DecidableEq, Repr

namespace Comparison

/-- The operator as queries write it. -/
def symbol : Comparison → String
  | less => "<"
  | greater => ">"
  | atMost => "<="
  | atLeast => ">="

/-- The tag of the operator in the tagged form and in records. -/
def tag : Comparison → String
  | less => "lt"
  | greater => "gt"
  | atMost => "le"
  | atLeast => "ge"

end Comparison

/-- A condition on a value with an order, over bounds of one type. -/
inductive Range (α : Type)
  | exactly (value : α)
  | compared (comparison : Comparison) (bound : α)
  | between (lower upper : α)
  deriving DecidableEq, Repr

namespace Range

variable {α β : Type}

/-- The bounds from left to right. -/
def bounds : Range α → List α
  | exactly value => [value]
  | compared _ bound => [bound]
  | between lower upper => [lower, upper]

/-- The same condition over other bounds. -/
def map (f : α → β) : Range α → Range β
  | exactly value => exactly (f value)
  | compared comparison bound => compared comparison (f bound)
  | between lower upper => between (f lower) (f upper)

/-- Reads every bound again, from left to right, and stops at the first that fails. -/
def mapM {ε : Type} (f : α → Except ε β) : Range α → Except ε (Range β)
  | exactly value => exactly <$> f value
  | compared comparison bound => compared comparison <$> f bound
  | between lower upper => do
    let lower ← f lower
    let upper ← f upper
    return between lower upper

/-- The range as queries write it. -/
def written (bound : α → String) : Range α → String
  | exactly value => bound value
  | compared comparison value => comparison.symbol ++ bound value
  | between lower upper => bound lower ++ ".." ++ bound upper

/-- The tag of the range in the tagged form and in records. -/
def tag : Range α → String
  | exactly _ => "eq"
  | compared comparison _ => comparison.tag
  | between _ _ => "between"

/-- The range in the tagged form. -/
def tagged (bound : α → String) (range : Range α) : String :=
  "." ++ range.tag ++ "(" ++ ",".intercalate (range.bounds.map bound) ++ ")"

/-- Mapping the bounds maps the list of bounds. -/
theorem bounds_map (f : α → β) (range : Range α) : (range.map f).bounds = range.bounds.map f := by
  cases range <;> rfl

end Range

end SearchBar
