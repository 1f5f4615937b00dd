import SearchBar.Console.Codes
import SearchBar.Console.Literal
import SearchBar.Console.Style
import SearchBar.Console.StyledText
import SearchBar.Text.Identifier

/-!
# Console markup

Texts that the console shows may hold tags in brackets. A tag opens a style, or
closes the last style that is open under its name, and leaves no trace on a
terminal without colours. Backslashes in front of a tag stand for half as many,
and an odd one makes the tag plain text. Codes for emoji are replaced in the
text between two tags, and in a tag that is plain text. A closing tag with
nothing to close is an error, and so is a name in which a number cannot be read.
-/

namespace SearchBar.Console

open Text

/-- A closing tag that closes nothing, an action that is no action, or a style in which a number
cannot be read. -/
inductive MarkupFault
  | nothingToClose
  | invalidAction
  | unreadableNumber
  deriving DecidableEq, Repr

/-- A piece of a text: a character that is shown, a seam that no code reaches across, or a tag. -/
inductive Piece
  | shown (c : Char)
  | seam
  | tag (content : List Char)
  deriving DecidableEq, Repr

/-- A character with which the content of a tag may begin. -/
def opensTag (c : Char) : Bool :=
  (decide ('a' ≤ c) && decide (c ≤ 'z')) || c == '#' || c == '/' || c == '@'

/-- A character that ends the search for the end of a tag. -/
def isBracket (c : Char) : Bool := c == '[' || c == ']'

/-- The tag at the front of a text: the number of backslashes in front of it, its content, and the
text behind it. -/
def tagAt? (text : List Char) : Option (Nat × List Char × List Char) :=
  match text.dropWhile (· == backslash) with
  | '[' :: c :: rest =>
    if opensTag c then
      match rest.dropWhile (fun c => !isBracket c) with
      | ']' :: after =>
        some ((text.takeWhile (· == backslash)).length,
          c :: rest.takeWhile (fun c => !isBracket c), after)
      | _ => none
    else none
  | _ => none

/-- The text behind a tag is shorter. -/
theorem tagAt?_rest_lt {text content after : List Char} {slashes : Nat}
    (found : tagAt? text = some (slashes, content, after)) : after.length < text.length := by
  unfold tagAt? at found
  split at found
  · rename_i c rest opening
    split at found
    · split at found
      · rename_i closing
        cases found
        have outer := (List.dropWhile_suffix (p := (· == backslash)) (l := text)).length_le
        have inner := (List.dropWhile_suffix (p := fun c => !isBracket c) (l := rest)).length_le
        rw [opening] at outer
        rw [closing] at inner
        simp only [List.length_cons] at outer inner
        omega
      · cases found
    · cases found
  · cases found

/-- The pieces of a tag with so many backslashes in front of it. A tag that is plain text is one for
itself. -/
def tagPieces (slashes : Nat) (content : List Char) : List Piece :=
  let literal := List.replicate (slashes / 2) (Piece.shown backslash)
  if slashes % 2 = 1 then
    literal ++ .seam :: (('[' :: content) ++ [']']).map .shown ++ [.seam]
  else literal ++ [.tag content]

/-- The character shown for the front of a text where no tag stands, and the text behind it. A
backslash in front of a bracket is left out. -/
def shownFront? : List Char → Option (Char × List Char)
  | [] => none
  | '\\' :: '[' :: rest => some ('[', rest)
  | c :: rest => some (c, rest)

/-- The text behind a character that is shown is shorter. -/
theorem shownFront?_rest_lt {text rest : List Char} {c : Char}
    (found : shownFront? text = some (c, rest)) : rest.length < text.length := by
  unfold shownFront? at found
  split at found
  · cases found
  · cases found
    rw [List.length_cons, List.length_cons]
    omega
  · cases found
    rw [List.length_cons]
    omega

/-- The pieces of a text. A backslash in front of a bracket that opens no tag is left out. -/
def pieces (text : List Char) : List Piece :=
  match _found : tagAt? text with
  | some (slashes, content, after) => tagPieces slashes content ++ pieces after
  | none =>
    match _plain : shownFront? text with
    | some (c, rest) => .shown c :: pieces rest
    | none => []
termination_by text.length
decreasing_by
  · exact tagAt?_rest_lt _found
  · exact shownFront?_rest_lt _plain

/-- The characters that are shown in front of the first seam or tag, and the pieces behind them, in
which the codes are replaced. -/
def splitRun : List Piece → List Char × List Piece
  | [] => ([], [])
  | .shown c :: rest =>
    let (run, behind) := splitRun rest
    (c :: run, behind)
  | piece :: rest =>
    let (run, behind) := splitRun rest
    ([], piece :: ((replaceCodes run).map .shown ++ behind))

/-- The pieces with the emoji in the place of their codes. -/
def replacePieces (found : List Piece) : List Piece :=
  let (run, behind) := splitRun found
  (replaceCodes run).map .shown ++ behind

/-- A style that is open: its name in normal form, what belongs to it behind an equals sign, and the
place where it begins. -/
structure OpenTag where
  name : String
  parameters : List Char
  start : Nat
  deriving DecidableEq, Repr

/-- The content of a tag up to the first equals sign, and behind it. -/
def splitTag (content : List Char) : List Char × List Char :=
  (content.takeWhile (· != '='), (content.dropWhile (· != '=')).drop 1)

/-- A character of the name of an action. -/
def isActionCharacter (c : Char) : Bool := isWordCharacter c || c == '.'

/-- An action is a name that may have arguments, a literal in parentheses on one line. A literal
alone is an action as well. -/
def isAction (text : List Char) : Bool :=
  let text := trim text
  match text.dropWhile isActionCharacter with
  | [] => true
  | '(' :: rest =>
    if rest.getLast? = some ')' ∧ !rest.contains '\n' then Literal.isLiteral ('(' :: rest)
    else Literal.isLiteral text
  | _ => Literal.isLiteral text

/-- A tag that stands for an action. -/
def OpenTag.isActionTag (tag : OpenTag) : Bool := tag.name.toList.head? == some '@'

/-- The name of the style of a tag together with its parameters. -/
def OpenTag.styleName (tag : OpenTag) : String :=
  tag.name ++ " " ++ String.ofList tag.parameters

/-- The stretch of a tag up to a place, if its style cannot be read. -/
def OpenTag.unreadable (stop : Nat) (tag : OpenTag) : List Span :=
  if isUnreadable tag.styleName then [⟨tag.start, stop⟩] else []

/-- Closing a tag that stands for an action asks for a valid action. -/
def OpenTag.close (tag : OpenTag) : Except MarkupFault Unit :=
  if tag.isActionTag && !tag.parameters.isEmpty && !isAction tag.parameters then
    .error .invalidAction
  else .ok ()

/-- The normal form of the name of a style. -/
def normalName (name : List Char) : Except MarkupFault String :=
  match normalStyleName? (String.ofList name) with
  | some name => .ok name
  | none => .error .unreadableNumber

/-- Takes the last open style of this name out of the open styles, the last one first. -/
def takeNamed (name : String) : List OpenTag → Option (OpenTag × List OpenTag)
  | [] => none
  | tag :: tags =>
    if tag.name = name then some (tag, tags)
    else (takeNamed name tags).map fun (found, others) => (found, tag :: others)

/-- Takes the open style that a closing tag closes out of the open styles. Without a name that is
the last one. -/
def takeClosed (name : List Char) (opened : List OpenTag) :
    Except MarkupFault (OpenTag × List OpenTag) := do
  let taken ←
    if name.isEmpty then pure (opened.head?.map fun tag => (tag, opened.drop 1))
    else (normalName name).map fun name => takeNamed name opened
  match taken with
  | some taken => return taken
  | none => throw .nothingToClose

/-- The stretches that a tag at a place ends, as far as they cannot be read, and the open styles
behind it. -/
def applyTag (place : Nat) (content : List Char) (opened : List OpenTag) :
    Except MarkupFault (List Span × List OpenTag) :=
  match splitTag content with
  | ('/' :: name, _) => do
    let (tag, opened) ← takeClosed (trim name) opened
    tag.close
    return (tag.unreadable place, opened)
  | (name, parameters) => do
    let name ← normalName name
    return ([], ⟨name, parameters, place⟩ :: opened)

/-- The text of some pieces that begins at a place while the given styles are open. A style that is
not closed goes on to the end. -/
def textOfPieces (place : Nat) (opened : List OpenTag) :
    List Piece → Except MarkupFault StyledText
  | [] => .ok ⟨[], opened.flatMap (OpenTag.unreadable place)⟩
  | .shown c :: rest =>
    if movesCursor c then textOfPieces place opened rest
    else (textOfPieces (place + 1) opened rest).map fun text =>
      { text with characters := c :: text.characters }
  | .seam :: rest => textOfPieces place opened rest
  | .tag content :: rest => do
    let (ended, opened) ← applyTag place content opened
    let text ← textOfPieces place opened rest
    return { text with unreadable := ended ++ text.unreadable }

/-- The text that markup stands for. -/
def markedText (markup : String) : Except MarkupFault StyledText :=
  textOfPieces 0 [] (replacePieces (pieces markup.toList))

/-- No control that moves the cursor is left in a text with markup. -/
theorem settled_textOfPieces {place : Nat} {opened : List OpenTag} {found : List Piece}
    {text : StyledText} (h : textOfPieces place opened found = .ok text) :
    ∀ c ∈ text.characters, movesCursor c = false := by
  induction found generalizing place opened text with
  | nil =>
    cases h
    simp
  | cons piece rest ih =>
    cases piece with
    | shown c =>
      unfold textOfPieces at h
      split at h
      · exact ih h
      · rename_i still
        cases inner : textOfPieces (place + 1) opened rest with
        | error fault => simp [inner, Except.map] at h
        | ok found =>
          simp only [inner, Except.map, Except.ok.injEq] at h
          subst h
          simp only [List.mem_cons, forall_eq_or_imp]
          exact ⟨by simpa using still, ih inner⟩
    | seam => exact ih h
    | tag content =>
      unfold textOfPieces at h
      cases applied : applyTag place content opened with
      | error fault => simp [applied, bind, Except.bind] at h
      | ok state =>
        obtain ⟨ended, opened⟩ := state
        cases inner : textOfPieces place opened rest with
        | error fault => simp [applied, inner, bind, Except.bind] at h
        | ok found =>
          simp only [applied, inner, bind, Except.bind, pure, Except.pure, Except.ok.injEq] at h
          have rest := ih inner
          subst h
          exact rest

end SearchBar.Console
