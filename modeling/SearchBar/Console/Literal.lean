import SearchBar.Console.Literal.Token

/-!
# Literals

A literal writes a value: a number, a text, bytes, a truth value, nothing, or a
tuple, a set or a dictionary of values. A sum of a real and an imaginary number
is the only expression. The keys of a dictionary and the members of a set may not
be sets or dictionaries, nor tuples that hold such.

Only whether a text is a literal is decided here. The items between two brackets
are collected and judged when the bracket is closed.
-/

namespace SearchBar.Console.Literal

/-- A value, and not the word that makes a set. -/
def Kind.isValue : Kind → Bool
  | setMaker => false
  | _ => true

/-- A value that may be a key. -/
def Kind.isKey : Kind → Bool
  | changeable | setMaker => false
  | _ => true

/-- The value of a tuple of such values. -/
def tupleOf? (kinds : List Kind) : Option Kind :=
  if !kinds.all Kind.isValue then none
  else if kinds.all Kind.isKey then some .fixed
  else some .changeable

/-- Whatever may be a key is a value. -/
theorem Kind.isValue_of_isKey {kind : Kind} (key : kind.isKey = true) : kind.isValue = true := by
  cases kind with
  | setMaker => cases key
  | _ => rfl

/-- A tuple may be a key exactly if everything in it may. -/
theorem tupleOf?_eq_fixed_iff (kinds : List Kind) :
    tupleOf? kinds = some .fixed ↔ kinds.all Kind.isKey = true := by
  have values : kinds.all Kind.isKey = true → kinds.all Kind.isValue = true := by
    simp only [List.all_eq_true]
    exact fun keys kind inside => Kind.isValue_of_isKey (keys kind inside)
  unfold tupleOf?
  by_cases keys : kinds.all Kind.isKey = true
  · simp [keys, values keys]
  · split <;> simp [keys]

/-- The items of a phrase that is nothing but quotations, all of texts or all of bytes. -/
def areQuotations : List Item → Bool
  | .quotation bytes :: items => items.all (· == .quotation bytes)
  | _ => false

/-- What is known of the value of a phrase: the items between two commas or colons. -/
def phrase? : List Item → Option Kind
  | [.value kind] => some kind
  | [.sign, .value (.real addable)] => some (.signed addable)
  | [.sign, .value .imaginary] => some .fixed
  | [.value (.real true), .sign, .value .imaginary] => some .fixed
  | [.value (.signed true), .sign, .value .imaginary] => some .fixed
  | [.sign, .value (.real true), .sign, .value .imaginary] => some .fixed
  | [.value .setMaker, .value .nothing] => some .changeable
  | items => if areQuotations items then some .fixed else none

/-- The parts between commas. The last comma may have nothing behind it. -/
def listed (items : List Item) : List (List Item) :=
  let parts := items.splitOn .comma
  if parts.getLast? = some [] then parts.dropLast else parts

/-- The value of items without brackets: a single value, or a tuple if there is a comma. -/
def sequence? (items : List Item) : Option Kind :=
  if items.contains .comma then (listed items).mapM phrase? >>= tupleOf? else phrase? items

/-- A value in round brackets of its own is no longer the empty tuple that a set maker asks for. -/
def Kind.grouped : Kind → Kind
  | nothing => fixed
  | kind => kind

/-- The value of items in round brackets. -/
def round? (items : List Item) : Option Kind :=
  if items.isEmpty then some .nothing else (sequence? items).map Kind.grouped

/-- A member of a set. -/
def isMember (items : List Item) : Bool := (phrase? items).any Kind.isKey

/-- An entry of a dictionary: a key and a value. -/
def isEntry (items : List Item) : Bool :=
  match items.splitOn .colon with
  | [key, value] => (phrase? key).any Kind.isKey && (phrase? value).any Kind.isValue
  | _ => false

/-- The value of items in curly brackets: a dictionary, or a set if there is something and no
colon. -/
def curly? (items : List Item) : Option Kind :=
  if items.isEmpty then some .changeable
  else if (listed items).all (if items.contains .colon then isEntry else isMember) then
    some .changeable
  else none

/-- The value of items in brackets. -/
def Bracket.value? : Bracket → List Item → Option Kind
  | round, items => round? items
  | curly, items => curly? items

/-- How far a literal is read: the items within the innermost bracket that is open, the last one
first, and the open brackets, the innermost first, each with the items in front of it. -/
structure Progress where
  items : List Item := []
  opened : List (Bracket × List Item) := []
  deriving DecidableEq, Repr

/-- The largest number of brackets that may be open. That nothing but this number limits the depth
of a literal is an assumption: an evaluator may give up on tuples of one item a little earlier. -/
def maximalDepth : Nat := 200

/-- Goes on with a token. Outside of brackets a literal has one line, which is not indented. -/
def Progress.step? (progress : Progress) : Token → Option Progress
  | .item item => some { progress with items := item :: progress.items }
  | .opening bracket =>
    if progress.opened.length < maximalDepth then
      some ⟨[], (bracket, progress.items) :: progress.opened⟩
    else none
  | .closing bracket =>
    match progress.opened with
    | [] => none
    | (expected, before) :: opened =>
      if bracket = expected then
        (bracket.value? progress.items.reverse).map fun kind => ⟨.value kind :: before, opened⟩
      else none
  | .line indented =>
    if !progress.opened.isEmpty || (progress.items.isEmpty && !indented) then some progress
    else none

/-- The value of a literal that is read to its end. -/
def Progress.value? (progress : Progress) : Option Kind :=
  if progress.opened.isEmpty then (sequence? progress.items.reverse).filter Kind.isValue else none

/-- What is known of the value of a literal; nothing if the text is none. -/
def value? (text : List Char) : Option Kind := do
  let tokens ← tokensOf? text
  let progress ← tokens.foldlM Progress.step? {}
  progress.value?

/-- Whether a text is a literal. -/
def isLiteral (text : List Char) : Bool := (value? text).isSome

/-- A sum, a tuple, a set with a member that may not be one, and the empty tuple in brackets. -/
example :
    sequence? [.value (.real true), .sign, .value .imaginary] = some .fixed ∧
      round? [.value .fixed, .comma, .value .changeable, .comma] = some .changeable ∧
      curly? [.value .changeable] = none ∧ round? [.value .nothing] = some .fixed := by
  decide

end SearchBar.Console.Literal
