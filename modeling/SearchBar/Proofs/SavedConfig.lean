import SearchBar.Config
import SearchBar.Proofs.DocumentReading

/-!
# Saved settings

Settings are saved without being checked, and checked when they are loaded. So
settings that are saved come back as they were if their output format is one of
the forms, and else they are refused for the very name that was saved.

Main statement: `Config.loadFrom_saveTo`.
-/

namespace SearchBar

/-- A form has this name exactly if it is the name of one of the forms. -/
theorem OutputFormat.isSome_ofName?_iff {name : String} :
    (OutputFormat.ofName? name).isSome = true ↔ name ∈ OutputFormat.all.map OutputFormat.name := by
  rw [OutputFormat.ofName?, List.find?_isSome, List.mem_map]
  simp only [beq_iff_eq]

/-- A text is what its encoding stands for. -/
theorem fromUTF8?_toUTF8 (text : String) : String.fromUTF8? text.toUTF8 = some text := by
  rw [String.toUTF8_eq_toByteArray, String.fromUTF8?, dif_pos text.isValidUTF8]
  rfl

namespace Config

/-- Behind the display section stands the output section, if it has a field, and its fields are
among the two that it may have. -/
theorem exists_sections (config : Config) :
    ∃ output : List (String × Toml.Scalar),
      (output.map Prod.fst).Sublist ["format", "show_positions"] ∧
        config.sections =
          ⟨"display", [("colored_output", .boolean config.coloredOutput)]⟩ ::
            if output.isEmpty then [] else [⟨"output", output⟩] := by
  refine ⟨_, ?_, rfl⟩
  split_ifs <;> simp

/-- The sections of settings have names that can be written without marks. -/
theorem sections_plain (config : Config) : ∀ part ∈ config.sections, part.IsPlain := by
  obtain ⟨output, among, same⟩ := config.exists_sections
  have displayBare : Toml.IsBareName "display" := by decide
  have coloredBare : Toml.IsBareName "colored_output" := by decide
  have outputBare : Toml.IsBareName "output" := by decide
  have bare : ∀ name ∈ ["format", "show_positions"], Toml.IsBareName name := by decide
  have display : (⟨"display", [("colored_output", .boolean config.coloredOutput)]⟩ :
      Toml.Section).IsPlain := by
    refine ⟨displayBare, ?_, List.pairwise_singleton _ _⟩
    intro field member
    obtain rfl := List.mem_singleton.mp member
    exact coloredBare
  have others : (⟨"output", output⟩ : Toml.Section).IsPlain := by
    refine ⟨outputBare, ?_, among.nodup (by decide)⟩
    intro field member
    exact bare _ (among.subset (List.mem_map_of_mem member))
  rw [same]
  intro part member
  rcases List.mem_cons.mp member with rfl | behind
  · exact display
  · split_ifs at behind
    · cases behind
    · obtain rfl := List.mem_singleton.mp behind
      exact others

/-- The sections of settings have different names. -/
theorem sections_distinct (config : Config) : (config.sections.map Toml.Section.name).Nodup := by
  obtain ⟨output, -, same⟩ := config.exists_sections
  rw [same]
  split_ifs <;> simp

/-- The settings are found in the tables of their sections. -/
theorem ofTable_sections (path : String) (config : Config) :
    ofTable path (config.sections.map Toml.Section.read) =
      .ok { config with path := some path } := by
  obtain ⟨coloredOutput, outputFormat, showPositions, origin⟩ := config
  by_cases usual : outputFormat = OutputFormat.text.name
  · subst usual
    cases showPositions <;> rfl
  · simp only [sections, if_neg usual]
    cases showPositions <;> rfl

/-- Settings are refused exactly if their output format is none of the forms. -/
theorem check_eq (config : Config) :
    config.check =
      if config.outputFormat ∈ OutputFormat.all.map OutputFormat.name then .ok ()
      else .error (.invalid "output.format" (.string config.outputFormat) formatReason) := by
  simp only [check, OutputFormat.isSome_ofName?_iff]

/-- The settings of a document are checked before they are used. -/
theorem ofContent_of_read {reader : Toml.Reader} {text : String} {document : Toml.Table}
    (shallow : reader.isTooDeep text = false) (read : Toml.read text = .ok document)
    (path : String) :
    ofContent reader path text.toUTF8 =
      ofTable path document >>= fun config => config.check.map fun _ => config := by
  simp only [ofContent, fromUTF8?_toUTF8, shallow, Bool.false_eq_true, if_false, read]
  rfl

/-- Settings are loaded from the document in which they were saved. -/
theorem load_saved (reader : Toml.Reader) (path : String) (config : Config) :
    load reader path (some config.saved.toUTF8) =
      if config.outputFormat ∈ OutputFormat.all.map OutputFormat.name then
        .ok ({ config with path := some path }, [])
      else .error (.invalid "output.format" (.string config.outputFormat) formatReason) := by
  have read : Toml.read config.saved = .ok (config.sections.map Toml.Section.read) :=
    Toml.read_write config.sections_plain config.sections_distinct
  have shallow : reader.isTooDeep config.saved = false := reader.sections_fit config.sections
  have found : ofContent reader path config.saved.toUTF8 =
      ({ config with path := some path } : Config).check.map
        fun _ => { config with path := some path } := by
    rw [ofContent_of_read shallow read, ofTable_sections]
    rfl
  rw [load, found, check_eq]
  split_ifs <;> rfl

/-- Settings that are saved to a file and loaded from it are what they were, and come from this
file, if their output format is one of the forms. Otherwise they are refused for the name of the
format, whatever this name is. -/
theorem loadFrom_saveTo (reader : Toml.Reader) (files : Files) (config : Config) (path : String) :
    loadFrom reader (saveTo files config (some path)) (some path) =
      if config.outputFormat ∈ OutputFormat.all.map OutputFormat.name then
        .ok ({ config with path := some (files.resolve path) }, [])
      else .error (.invalid "output.format" (.string config.outputFormat) formatReason) := by
  rw [← load_saved reader]
  change load reader _ (if files.resolve path = files.resolve path then _ else _) = _
  rw [if_pos rfl]
  rfl

example : saved { outputFormat := "a\"b\n", showPositions := false } =
    "[display]\ncolored_output = true\n" ++
      "\n[output]\nformat = \"a\\\"b\\n\"\nshow_positions = false\n" := by
  decide +kernel

end Config

end SearchBar
