/-!
# Arguments of a command line

Arguments are options and operands. A long option begins with two hyphens and
may carry its value behind an equals sign; short options begin with one hyphen
and may stand together, and what follows a short option that takes a value is
its value. An option without its value takes the next argument, whatever it is.
Two hyphens alone end the options.
-/

namespace SearchBar.CommandLine

/-- Why the arguments make no sense. -/
inductive UsageFault
  | noSuchOption (name : String)
  | missingValue (name : String)
  | unexpectedValue (name : String)
  | noSuchFormat (name : String)
  | missingCommand
  | noSuchCommand (name : String)
  deriving DecidableEq, Repr

/-- The fault in words. -/
def UsageFault.message : UsageFault → String
  | noSuchOption name => "No such option: " ++ name
  | missingValue name => "Option '" ++ name ++ "' requires an argument."
  | unexpectedValue name => "Option '" ++ name ++ "' does not take a value."
  | noSuchFormat name => "'" ++ name ++ "' is not an output format."
  | missingCommand => "Missing command."
  | noSuchCommand name => "No such command '" ++ name ++ "'."

/-- The names of an option, and whether it takes a value. -/
structure OptionRule (Key : Type) where
  key : Key
  long : String
  short? : Option Char := none
  takesValue : Bool := false

/-- An option that was given, and its value if it takes one. -/
structure Given (Key : Type) where
  key : Key
  value? : Option String := none
  deriving DecidableEq, Repr

/-- The options that were given, in their order, and the operands. -/
structure Arguments (Key : Type) where
  options : List (Given Key) := []
  operands : List String := []
  deriving DecidableEq, Repr

variable {Key : Type}

/-- The arguments with more options in front. -/
def Arguments.withOptions (given : List (Given Key)) (arguments : Arguments Key) : Arguments Key :=
  { arguments with options := given ++ arguments.options }

/-- The arguments with one more operand in front. -/
def Arguments.withOperand (operand : String) (arguments : Arguments Key) : Arguments Key :=
  { arguments with operands := operand :: arguments.operands }

/-- What an argument gives: options, and one more that waits for its value. -/
structure OptionReading (Key : Type) where
  given : List (Given Key)
  waiting? : Option (OptionRule Key) := none

/-- Reads short options that stand together. -/
def readShort (rules : List (OptionRule Key)) :
    List Char → Except UsageFault (OptionReading Key)
  | [] => .ok ⟨[], none⟩
  | c :: rest =>
    match rules.find? fun rule => rule.short? == some c with
    | none => .error (.noSuchOption (String.ofList ['-', c]))
    | some rule =>
      if rule.takesValue then
        if rest.isEmpty then .ok ⟨[], some rule⟩
        else .ok ⟨[⟨rule.key, some (String.ofList rest)⟩], none⟩
      else do
        let reading ← readShort rules rest
        return { reading with given := ⟨rule.key, none⟩ :: reading.given }

/-- Reads a long option without its hyphens. -/
def readLong (rules : List (OptionRule Key)) (text : List Char) :
    Except UsageFault (OptionReading Key) :=
  let name := String.ofList (text.takeWhile (· != '='))
  match rules.find? fun rule => rule.long == name, text.dropWhile (· != '=') with
  | none, _ => .error (.noSuchOption ("--" ++ name))
  | some rule, [] =>
    .ok (if rule.takesValue then ⟨[], some rule⟩ else ⟨[⟨rule.key, none⟩], none⟩)
  | some rule, _ :: value =>
    if rule.takesValue then .ok ⟨[⟨rule.key, some (String.ofList value)⟩], none⟩
    else .error (.unexpectedValue ("--" ++ name))

/-- Reads an argument as options, unless it is an operand. A hyphen alone is an operand. -/
def readOption? (rules : List (OptionRule Key)) (argument : String) :
    Option (Except UsageFault (OptionReading Key)) :=
  match argument.toList with
  | '-' :: '-' :: rest => some (readLong rules rest)
  | '-' :: c :: rest => some (readShort rules (c :: rest))
  | _ => none

/-- The argument that ends the options. -/
def endOfOptions : String := "--"

/-- Reads arguments. Options may stand behind operands, or else the first operand ends them. -/
def readArguments (rules : List (OptionRule Key)) (optionsBehind : Bool) :
    List String → Except UsageFault (Arguments Key)
  | [] => .ok {}
  | argument :: rest =>
    if argument = endOfOptions then .ok { operands := rest }
    else
      match readOption? rules argument with
      | none =>
        if optionsBehind then
          (readArguments rules optionsBehind rest).map (Arguments.withOperand argument)
        else .ok { operands := argument :: rest }
      | some (.error fault) => .error fault
      | some (.ok ⟨given, none⟩) =>
        (readArguments rules optionsBehind rest).map (Arguments.withOptions given)
      | some (.ok ⟨given, some rule⟩) =>
        match rest with
        | [] => .error (.missingValue ("--" ++ rule.long))
        | value :: rest =>
          (readArguments rules optionsBehind rest).map
            (Arguments.withOptions (given ++ [⟨rule.key, some value⟩]))

/-- What stands behind the end of the options is an operand. -/
theorem readArguments_endOfOptions (rules : List (OptionRule Key)) (optionsBehind : Bool)
    (operands : List String) :
    readArguments rules optionsBehind (endOfOptions :: operands) = .ok { operands } := by
  simp [readArguments]

end SearchBar.CommandLine
