import SearchBar.Toml.Reading
import SearchBar.Toml.Writing

/-!
# Readers of configuration documents

What a text means as a document is laid down by the format. How a reader words
what is wrong with a text that is no document is left to the reader, and so is the
room it has for values that are nested in one another.
-/

namespace SearchBar.Toml

/-- What the format leaves to a reader of documents. -/
structure Reader where
  /-- What is wrong with a text that is no document, in words. -/
  wording : String → String
  /-- The reader runs out of room for nested values before it finds anything else. -/
  isTooDeep : String → Bool
  /-- Sections of scalars nest no values. -/
  sections_fit : ∀ sections, isTooDeep (write sections) = false

/-- A reader that has room for everything and says nothing of what is wrong. -/
def Reader.terse : Reader where
  wording _ := ""
  isTooDeep _ := false
  sections_fit _ := rfl

end SearchBar.Toml
