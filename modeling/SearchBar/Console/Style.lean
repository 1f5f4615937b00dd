import SearchBar.Console.Colour
import SearchBar.Text.Blank
import SearchBar.Text.Lowercase

/-!
# Names of styles

A style of console markup may be named in several ways. The normal form of a
name lists the attributes in a fixed order, then the colours and the link; a
name that means nothing is its own normal form, in lower case. A name in which a
number cannot be read has no normal form.
-/

namespace SearchBar.Console

open Text

/-- The attributes in their fixed order, each with its abbreviation. -/
def attributes : List (String × String) :=
  [("bold", "b"), ("dim", "d"), ("italic", "i"), ("underline", "u"), ("blink", "blink"),
    ("blink2", "blink2"), ("reverse", "r"), ("conceal", "c"), ("strike", "s"),
    ("underline2", "uu"), ("frame", "frame"), ("encircle", "encircle"), ("overline", "o")]

/-- The attribute that a word names. -/
def attribute? (word : String) : Option String :=
  (attributes.find? fun names => names.1 == word || names.2 == word).map (·.1)

/-- What a name of a style asks for. The last mention of an attribute counts. -/
structure Style where
  marks : List (String × Bool) := []
  foreground : Option String := none
  background : Option String := none
  link : Option String := none
  deriving DecidableEq, Repr

/-- The words of a name. -/
def wordsOf : List Char → List (List Char)
  | [] => []
  | c :: rest =>
    if isBlank c then wordsOf rest
    else
      match rest, wordsOf rest with
      | next :: _, word :: words => if isBlank next then [c] :: word :: words
          else (c :: word) :: words
      | _, words => [c] :: words

/-- Reads the words of a name into a style. The first word that cannot be used is the fault. -/
def Style.ofWords (style : Style) : List String → Except StyleFault Style
  | [] => .ok style
  | spelled :: words =>
    let word := lowered spelled
    match word, words with
    | "on", [] => .error .meaningless
    | "on", colour :: words => do
      checkColour (lowered colour)
      ofWords { style with background := some (lowered colour) } words
    | "not", [] => .error .meaningless
    | "not", mark :: words =>
      match attribute? mark with
      | some mark => ofWords { style with marks := (mark, false) :: style.marks } words
      | none => .error .meaningless
    | "link", [] => .error .meaningless
    | "link", target :: words => ofWords { style with link := some target } words
    | word, words =>
      match attribute? word with
      | some mark => ofWords { style with marks := (mark, true) :: style.marks } words
      | none => do
        checkColour word
        ofWords { style with foreground := some word } words

/-- The name of the style without anything in it. -/
def emptyStyleName : String := "none"

/-- The normal form of a name that means this style. -/
def Style.name (style : Style) : String :=
  let marks := attributes.filterMap fun names =>
    (style.marks.lookup names.1).map fun wanted => if wanted then names.1 else "not " ++ names.1
  let parts := marks ++ style.foreground.toList ++
    (style.background.toList.flatMap fun colour => ["on", colour]) ++
    (style.link.toList.flatMap fun target => ["link", target])
  if parts.isEmpty then emptyStyleName else " ".intercalate parts

/-- The style that a name means. -/
def Style.ofName (name : String) : Except StyleFault Style :=
  if trim name.toList = emptyStyleName.toList then .ok {}
  else Style.ofWords {} ((wordsOf name.toList).map String.ofList)

/-- A name in which a number cannot be read. -/
def isUnreadable (name : String) : Bool :=
  match Style.ofName name with
  | .error .unreadableNumber => true
  | _ => false

/-- The normal form of a name; nothing if a number in it cannot be read. -/
def normalStyleName? (name : String) : Option String :=
  match Style.ofName name with
  | .ok style => some style.name
  | .error .meaningless => some (lowered (String.ofList (trim name.toList)))
  | .error .unreadableNumber => none

/-- A name has a normal form exactly if every number in it can be read. -/
theorem normalStyleName?_eq_none_iff (name : String) :
    normalStyleName? name = none ↔ isUnreadable name = true := by
  unfold normalStyleName? isUnreadable
  split <;> simp_all

end SearchBar.Console
