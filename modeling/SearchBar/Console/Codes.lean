import SearchBar.Console.Emoji
import SearchBar.Text.Blank

/-!
# Codes for emoji

The name of an emoji between two colons is a code, and the console shows the
emoji in its place. A code holds no blank. It may end with a variant, which
selects the form of the emoji. A name that no emoji has is left as it is, but its
second colon does not begin another code.
-/

namespace SearchBar.Console

open Text

/-- A character between the colons of a code. -/
def isCodeCharacter (c : Char) : Bool := !isBlank c && c != ':'

/-- The endings of a name that select a form, and the selectors. -/
def variants : List (String × Char) := [("-emoji", emojiSelector), ("-text", textSelector)]

/-- The characters that a name stands for between colons, in small letters or capitals. -/
def codeText? (name : List Char) : Option (List Char) :=
  let chosen := variants.findSome? fun (ending, selector) =>
    (beforeEnding? ending name).map fun front => (front, [selector])
  let (front, selectors) := chosen.getD (name, [])
  (emoji? (lowered (String.ofList front))).map (· ++ selectors)

/-- The text with the emoji in the place of their codes. -/
def replaceCodes (text : List Char) : List Char :=
  match text with
  | [] => []
  | c :: rest =>
    if c = ':' then
      match _behind : rest.dropWhile isCodeCharacter with
      | d :: after =>
        if d = ':' then
          let name := rest.takeWhile isCodeCharacter
          ((codeText? name).getD (':' :: name ++ [':'])) ++ replaceCodes after
        else c :: replaceCodes rest
      | [] => c :: replaceCodes rest
    else c :: replaceCodes rest
termination_by text.length
decreasing_by
  · have shorter := (List.dropWhile_suffix (p := isCodeCharacter) (l := rest)).length_le
    rw [_behind] at shorter
    simp only [List.length_cons] at shorter ⊢
    omega
  · exact Nat.lt_succ_self _
  · exact Nat.lt_succ_self _
  · exact Nat.lt_succ_self _

/-- In front of no code a character stays as it is. -/
theorem replaceCodes_cons {c : Char} {rest : List Char}
    (lone : c = ':' → (rest.dropWhile isCodeCharacter).head? ≠ some ':') :
    replaceCodes (c :: rest) = c :: replaceCodes rest := by
  rw [replaceCodes]
  split
  · rename_i colon
    have absent := lone colon
    split
    · rename_i found
      rw [found] at absent
      split
      · rename_i closing
        rw [closing] at absent
        exact absurd rfl absent
      · rfl
    · rfl
  · rfl

/-- Nothing in the text is the code of an emoji. -/
def IsCodeless (text : List Char) : Prop := replaceCodes text = text

instance (text : List Char) : Decidable (IsCodeless text) :=
  inferInstanceAs (Decidable (replaceCodes text = text))

end SearchBar.Console
