/-
Objections to bindings.  Whatever stands against a binding or a file, it is
reported as an error.
-/

import GuestGlue.Proofs.Glue.Rulings

namespace GuestGlue.Glue

/-! ### Single bindings -/

theorem checkImport_objection {symbols : CSource.SymbolTable} {binding : ImportBinding}
    {diagnostic : Diagnostic} (objected : checkImport symbols binding = .error diagnostic) :
    ∃ code message, diagnostic = .error code binding.method.fullName message := by
  unfold checkImport at objected
  simp only at objected
  split at objected
  · cases objected; exact ⟨_, _, rfl⟩
  · split at objected
    · cases objected; exact ⟨_, _, rfl⟩
    · split at objected
      · cases objected; exact ⟨_, _, rfl⟩
      · split at objected
        · cases objected; exact ⟨_, _, rfl⟩
        · cases objected

theorem checkExport_objection {symbols : CSource.SymbolTable} {binding : ExportBinding}
    {diagnostic : Diagnostic} (objected : checkExport symbols binding = .error diagnostic) :
    ∃ code message, diagnostic = .error code binding.method.fullName message := by
  unfold checkExport at objected
  simp only at objected
  split at objected
  · cases objected; exact ⟨_, _, rfl⟩
  · split at objected
    · cases objected; exact ⟨_, _, rfl⟩
    · split at objected
      · cases objected; exact ⟨_, _, rfl⟩
      · split at objected
        · cases objected; exact ⟨_, _, rfl⟩
        · cases objected

theorem checkImport_isError {symbols : CSource.SymbolTable} {binding : ImportBinding}
    {diagnostic : Diagnostic} (objected : checkImport symbols binding = .error diagnostic) :
    diagnostic.isError = true := by
  obtain ⟨_, _, rfl⟩ := checkImport_objection objected
  rfl

theorem checkExport_isError {symbols : CSource.SymbolTable} {binding : ExportBinding}
    {diagnostic : Diagnostic} (objected : checkExport symbols binding = .error diagnostic) :
    diagnostic.isError = true := by
  obtain ⟨_, _, rfl⟩ := checkExport_objection objected
  rfl

/-- To a binding that is well formed there is no objection but that a name is taken. -/
theorem checkImport_code {symbols : CSource.SymbolTable} {binding : ImportBinding}
    {diagnostic : Diagnostic} {returned : Primitive} (forwardable : Forwardable binding returned)
    (objected : checkImport symbols binding = .error diagnostic) :
    diagnostic.code = .duplicateSymbol := by
  simp only [checkImport, forwardable.returns, forwardable.find?_parameter,
    forwardable.find?_name] at objected
  split at objected
  · cases objected; rfl
  · cases objected

theorem checkExport_code {symbols : CSource.SymbolTable} {binding : ExportBinding}
    {diagnostic : Diagnostic} (wrappable : Wrappable binding)
    (objected : checkExport symbols binding = .error diagnostic) :
    diagnostic.code = .duplicateSymbol := by
  simp only [checkExport, wrappable.parameters, wrappable.returns, wrappable.name,
    List.isEmpty_nil, Bool.not_true, Bool.false_eq_true, if_false] at objected
  split at objected
  · cases objected; rfl
  · cases objected

/-! ### Everything reported -/

theorem planImports_isError (options : Options) (symbols : CSource.SymbolTable)
    (imports : List ImportBinding) :
    ∀ diagnostic ∈ (planImports options symbols imports).diagnostics,
      diagnostic.isError = true := by
  intro diagnostic member
  obtain ⟨ruling, ruled, reported⟩ := List.mem_filterMap.mp member
  obtain ⟨_, _, _, _, ⟨_, _, checked⟩ | ⟨_, _, refusal, _, made⟩⟩ := planImports_origin ruled
  · cases outcome : ruling.outcome with
    | ok returned => simp [ImportRuling.diagnostic?, outcome] at reported
    | error objection =>
        simp only [ImportRuling.diagnostic?, outcome, Option.some.injEq] at reported
        exact reported ▸ checkImport_isError (checked.symm.trans outcome)
  · rw [made] at reported
    cases reported
    rfl

theorem planExports_isError (symbols : CSource.SymbolTable) (exports : List ExportBinding) :
    ∀ diagnostic ∈ (planExports symbols exports).diagnostics, diagnostic.isError = true := by
  intro diagnostic member
  obtain ⟨⟨binding, outcome⟩, ruled, reported⟩ := List.mem_filterMap.mp member
  cases outcome with
  | ok accepted => cases reported
  | error objection =>
      cases reported
      obtain ⟨_, checked⟩ := ruleExports_origin symbols exports _ ruled
      exact checkExport_isError checked.symm

theorem generate_isError (options : Options) (boilerplate : String) (exports : List ExportBinding)
    (imports : List ImportBinding) :
    ∀ diagnostic ∈ (generate options boilerplate exports imports).diagnostics,
      diagnostic.isError = true := by
  have imported := planImports_isError options .runtime imports
  have exported := planExports_isError (planImports options .runtime imports).symbols exports
  rcases generate_cases options boilerplate exports imports with
    ⟨_, ran⟩ | ⟨_, _, ran⟩ | ⟨_, _, _, _, ran⟩
  · rw [ran]
    exact imported
  · rw [ran]
    exact List.forall_mem_append.mpr
      ⟨List.forall_mem_append.mpr ⟨imported, exported⟩, List.forall_mem_singleton.mpr rfl⟩
  · rw [ran]
    exact List.forall_mem_append.mpr ⟨imported, exported⟩

end GuestGlue.Glue
