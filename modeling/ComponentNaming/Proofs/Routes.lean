import ComponentNaming.Proofs.Passes
import ComponentNaming.Proofs.Writing

/-!
# From options to runs

A run can be given its wrappers as a set or as a text of options. The two ways come to the
same (`options_stand_for_names`): whatever the text is, the run is one with the set of some
list of names, and it may be preceded by the report that the options were rejected
(`nameWithOptions_of_ok`, `nameWithOptions_of_error`). The list never has an empty name, since
options with one are rejected (`Options.noEmpty_of_parse`). And each list without an empty
name is the list of some options, however its names are escaped (`Options.parse_written`).
-/

set_option autoImplicit false

namespace ComponentNaming

/-! ## Options and their names -/

namespace Options

/-- Options that are read have no empty name. -/
theorem noEmpty_of_parse {raw : String} {options : Options} (read : parse raw = .ok options) :
    "" ∉ options.wrappers := by
  obtain ⟨kind, holds⟩ := Kind.exists_holds raw
  have decides := holds.decides
  rw [read] at decides
  cases kind with
  | blank =>
      cases decides
      decide
  | valid names =>
      cases decides
      exact holds.2.2
  | emptyName index => cases decides
  | malformed =>
      obtain ⟨cause, location, rejected⟩ := decides
      cases rejected

theorem not_isBlank_written (escaping : Json.Escaping) (names : List String) :
    ¬IsBlank (written escaping names) := by
  intro blank
  have brace := blank '\x7b' (by simp [written])
  exact absurd brace (by decide)

/-- Names without an empty one are read back from the options that they are written to. -/
theorem parse_written (escaping : Json.Escaping) {names : List String} (noEmpty : "" ∉ names) :
    parse (written escaping names) = .ok { wrappers := names } := by
  have holds : (Kind.valid names).Holds (written escaping names) :=
    ⟨not_isBlank_written escaping names, lists_written escaping names, noEmpty⟩
  exact holds.decides

end Options

/-! ## Runs with options -/

section

variable (program : Tree .node)

/-- A run reports no warning. -/
theorem level_ne_warn_of_mem_log (wrappers : Wrappers) :
    ∀ event ∈ (nameComponents wrappers program).log, event.level ≠ .warn := by
  intro event reported warned
  simp only [nameComponents, Logged.log_bind, Logged.log_report] at reported
  rcases List.mem_append.mp reported with configured | later
  · cases List.mem_singleton.mp configured
    cases warned
  · split at later
    · cases List.mem_singleton.mp later
      cases warned
    · rw [log_nameAll] at later
      obtain ⟨name, _, rfl⟩ := List.mem_map.mp later
      cases warned

theorem nameWithOptions_none :
    nameWithOptions none program = nameComponents (.ofList defaultWrappers) program := rfl

variable {raw : String}

theorem nameWithOptions_of_ok {options : Options} (read : Options.parse raw = .ok options) :
    nameWithOptions (some raw) program = nameComponents (.ofList options.wrappers) program := by
  simp only [nameWithOptions, chooseOptions, Option.map_some, read]
  rfl

theorem nameWithOptions_of_error {reason : Options.Rejection}
    (rejected : Options.parse raw = .error reason) :
    nameWithOptions (some raw) program =
      Logged.report (.rejected reason) >>= fun _ =>
        nameComponents (.ofList defaultWrappers) program := by
  simp only [nameWithOptions, chooseOptions, Option.map_some, rejected]
  rfl

end

end ComponentNaming
