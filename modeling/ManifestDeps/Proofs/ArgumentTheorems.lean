/-
ManifestDeps.Proofs.ArgumentTheorems — arguments that are written in the
plain way are read back.

The plain way is an option in its long form with its value as the next
argument, and an operand that does not look like an option. Options are
told apart by their long forms (`optionForm_long`), so that a list of them
is read as it was written (`readArguments_written`); and a command that is
called with such options and operands gets just these
(`ofArguments_written`).
-/
import ManifestDeps.CommandLine.Arguments

namespace ManifestDeps.CommandLine

/-! ## §1 Options -/

theorem Flag.long_injective {f g : Flag} (h : f.long = g.long) : f = g := by
  cases f <;> cases g <;> simp [Flag.long] at h ⊢

/-- Options are told apart by their long forms. -/
theorem find?_long {flags : List Flag} {f : Flag} (hf : f ∈ flags) :
    flags.find? (fun g => g.long == f.long) = some f := by
  cases hfind : flags.find? fun g => g.long == f.long with
  | none => exact absurd (List.find?_eq_none.mp hfind f hf) (by simp)
  | some g =>
    have hlong := List.find?_some hfind
    rw [Flag.long_injective (beq_iff_eq.mp hlong)]

/-- The long form of an option, without a value attached to it. -/
theorem optionForm_long {flags : List Flag} {f : Flag} (hf : f ∈ flags) :
    optionForm flags f.long = .option f f.long none := by
  have hname : String.ofList (optionName f.long.toList) = f.long := by cases f <;> decide
  have hvalue : optionValue? f.long.toList = none := by cases f <;> decide
  obtain ⟨c, rest, hlist⟩ : ∃ c rest, f.long.toList = '-' :: c :: rest := by
    cases f <;> exact ⟨_, _, rfl⟩
  rw [optionForm]
  simp only [hname, hvalue, find?_long hf]
  rw [hlist]
  rfl

/-- Options as they are written in the plain way. -/
def written (options : List (Flag × String)) : List String :=
  options.flatMap fun o => [o.1.long, o.2]

/-- The command has these options, and they take their values. -/
def Command.Takes (c : Command) (options : List (Flag × String)) : Prop :=
  ∀ o ∈ options, o.1 ∈ c.flags ∧ o.1.takesValue = true

instance (c : Command) (options : List (Flag × String)) : Decidable (c.Takes options) :=
  inferInstanceAs (Decidable (∀ o ∈ options, o.1 ∈ c.flags ∧ o.1.takesValue = true))

/-- **Options are read as they were written**, whatever their values are. -/
theorem readArguments_written {c : Command} {options : List (Flag × String)}
    (h : c.Takes options) :
    readArguments c.flags true (written options) = .ok { flags := options } := by
  induction options with
  | nil => rfl
  | cons o rest ih =>
    obtain ⟨hflag, hvalue⟩ := h o List.mem_cons_self
    have hdashes : o.1.long ≠ "--" := by cases o.1 <;> decide
    have hrest := ih fun o ho => h o (List.mem_cons_of_mem _ ho)
    rw [written, List.flatMap_cons, List.cons_append, List.cons_append, List.nil_append,
      ← written, readArguments, if_neg hdashes, optionForm_long hflag]
    simp only [hvalue, if_true]
    rw [hrest]
    rfl

/-- The help option has no value. -/
theorem Command.Takes.help_notMem {c : Command} {options : List (Flag × String)}
    (h : c.Takes options) (operands : List String) :
    .help ∉ ({ flags := options, operands } : ReadArguments).given := by
  intro hmem
  obtain ⟨o, ho, hhelp⟩ := List.mem_map.mp (List.mem_eraseDups.mp hmem)
  have hvalue := (h o ho).2
  rw [hhelp] at hvalue
  cases hvalue

/-! ## §2 Operands -/

/-- An argument that does not look like an option is none. -/
theorem optionForm_operand (flags : List Flag) {arg : String} (h : looksLikeOption arg = false) :
    optionForm flags arg = .operand := by
  rw [looksLikeOption] at h
  rw [optionForm]
  split
  · next heq =>
    rw [heq] at h
    cases h
  · rfl

theorem ne_dashes_of_operand {arg : String} (h : looksLikeOption arg = false) : arg ≠ "--" := by
  rintro rfl
  cases h

/-- An operand in front of other arguments of a command. -/
theorem readArguments_operand (flags : List Flag) {arg : String}
    (h : looksLikeOption arg = false) (rest : List String) :
    readArguments flags true (arg :: rest) =
      (readArguments flags true rest).map (·.addOperand arg) := by
  rw [readArguments, if_neg (ne_dashes_of_operand h), optionForm_operand flags h]
  rfl

/-- Operands and the options behind them. -/
theorem readArguments_operands {c : Command} {options : List (Flag × String)}
    (h : c.Takes options) {operands : List String}
    (hoperands : ∀ arg ∈ operands, looksLikeOption arg = false) :
    readArguments c.flags true (operands ++ written options) =
      .ok { flags := options, operands } := by
  induction operands with
  | nil => exact readArguments_written h
  | cons arg rest ih =>
    rw [List.cons_append, readArguments_operand _ (hoperands arg List.mem_cons_self),
      ih fun arg harg => hoperands arg (List.mem_cons_of_mem _ harg)]
    rfl

/-! ## §3 Commands -/

/-- The program hands all arguments behind the word for a command on to the
command. -/
theorem ofArguments_command {c : Command} {args : List String} {r : ReadArguments}
    (hread : readArguments c.flags true args = .ok r) (hhelp : .help ∉ r.given) :
    Request.ofArguments (c.name :: args) = .ok (.command c r) := by
  have hprogram : Scope.program.read (c.name :: args) = .ok { operands := c.name :: args } := by
    have hname : looksLikeOption c.name = false := by cases c <;> decide
    rw [Scope.read, readArguments, if_neg (ne_dashes_of_operand hname),
      optionForm_operand _ hname]
    rfl
  have hcommand : Command.ofName? c.name = some c := by cases c <;> decide
  have hscope : (Scope.command c).read args = .ok r := by
    rw [Scope.read, Scope.flags, Scope.mixesOptions, hread]
    rfl
  have hnone : programRequest? { operands := c.name :: args } = none := rfl
  simp [Request.ofArguments, hprogram, hnone, hcommand, hscope, hhelp, bind, Except.bind, pure,
    Except.pure]

/-- **A command gets the operands and options it is called with.** -/
theorem ofArguments_written {c : Command} {options : List (Flag × String)}
    (h : c.Takes options) {operands : List String}
    (hoperands : ∀ arg ∈ operands, looksLikeOption arg = false) :
    Request.ofArguments (c.name :: (operands ++ written options)) =
      .ok (.command c { flags := options, operands }) :=
  ofArguments_command (readArguments_operands h hoperands) (h.help_notMem operands)

/-- Both operands of a command and a value that is written like an option. -/
example :
    Request.ofArguments ["show", "web", "my/Component.js", "--config", "--format"] =
      .ok (.command .single ⟨[(.config, "--format")], ["web", "my/Component.js"]⟩) := by
  rfl

end ManifestDeps.CommandLine
