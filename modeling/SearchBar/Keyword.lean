/-!
# Qualifier keywords

The seven keywords that open a qualifier. A keyword is written with its colon,
so once it is read the rest of the qualifier has to follow; without the colon it
is an ordinary word.
-/

namespace SearchBar

/-- The keywords of the seven qualifiers. -/
inductive Keyword
  | draft
  | kind
  | category
  | creator
  | created
  | images
  | properties
  deriving DecidableEq, Repr

namespace Keyword

/-- The keyword as queries write it, with its colon. -/
def written : Keyword → String
  | draft => "draft:"
  | kind => "kind:"
  | category => "category:"
  | creator => "creator:"
  | created => "created:"
  | images => "images:"
  | properties => "properties:"

/-- Every keyword. -/
def all : List Keyword := [draft, kind, category, creator, created, images, properties]

/-- The characters of the keyword. -/
def characters (keyword : Keyword) : List Char := keyword.written.toList

/-- The keyword at the front of a text. No keyword begins another, so there is at most one. -/
def at? (text : List Char) : Option Keyword :=
  all.find? fun keyword => keyword.characters.isPrefixOf text

/-- The list of keywords is complete. -/
theorem mem_all (keyword : Keyword) : keyword ∈ all := by
  cases keyword <;> decide

end Keyword

end SearchBar
