/-
Scanning: the bindings of a root module and of the modules it reaches.  The
reached modules are read depth first in the order of declaration, each once and
only if the reference set names it.  They contribute their exports before the
module that refers to them, so the root comes last; imports come from the root
alone.  A method that is marked both ways contributes a diagnostic.
-/

import GuestGlue.Diagnostic
import GuestGlue.NameMap
import GuestGlue.Metadata.Module

namespace GuestGlue

/-! ### Bindings of one module -/

namespace MethodDef

def exportMarker? (method : MethodDef) : Option (Option String) :=
  method.markers.findSome? fun
    | .exported entryPoint => some entryPoint
    | .imported _ _ => none

/-- The host module and the entry point of the first import marker. -/
def importMarker? (method : MethodDef) : Option (String × Option String) :=
  method.markers.findSome? fun
    | .exported _ => none
    | .imported hostModule entryPoint => some (hostModule, entryPoint)

end MethodDef

namespace Module

structure StaticMethod where
  type : TypeDef
  method : MethodDef

def staticMethods (module : Module) : List StaticMethod :=
  module.types.flatMap fun type =>
    (type.methods.filter (·.isStatic)).map fun method => ⟨type, method⟩

def export? (module : Module) (declared : StaticMethod) : Option ExportBinding :=
  match declared.method.exportMarker?, declared.method.importMarker? with
  | some entryPoint, none => some ⟨declared.method.signature declared.type module, entryPoint⟩
  | _, _ => none

def import? (module : Module) (declared : StaticMethod) : Option ImportBinding :=
  match declared.method.exportMarker?, declared.method.importMarker? with
  | none, some (hostModule, entryPoint) =>
      some ⟨declared.method.signature declared.type module, hostModule, entryPoint⟩
  | _, _ => none

def conflict? (module : Module) (declared : StaticMethod) : Option Diagnostic :=
  match declared.method.exportMarker?, declared.method.importMarker? with
  | some _, some _ =>
      let symbol := (declared.method.signature declared.type module).fullName
      some (.error .conflictingMarkers symbol
        (symbol ++ " is marked as both an export and an import; it will not be generated"))
  | _, _ => none

def exports (module : Module) : List ExportBinding :=
  module.staticMethods.filterMap module.export?

def imports (module : Module) : List ImportBinding :=
  module.staticMethods.filterMap module.import?

def conflicts (module : Module) : List Diagnostic :=
  module.staticMethods.filterMap module.conflict?

end Module

/-! ### The walk over references -/

/-- What the walk has still to do: look at a reference, or hand on a module all
of whose references were looked at. -/
inductive Step where
  | visit (name : String)
  | finish (module : Module)

def visits (module : Module) : List Step :=
  module.references.map Step.visit

def unvisited (references : NameSet) (visited : List String) : Nat :=
  references.toList.countP fun name => !visited.contains name

theorem unvisited_cons_lt {references : NameSet} {visited : List String} {name : String}
    (member : references.contains name = true) (fresh : ¬visited.contains name = true) :
    unvisited references (name :: visited) < unvisited references visited := by
  unfold unvisited
  have present : name ∈ references.toList := List.contains_iff_mem.mp member
  generalize references.toList = names at present
  induction names with
  | nil => cases present
  | cons head rest ih =>
      rw [List.countP_cons, List.countP_cons]
      have mono : rest.countP (fun other => !(name :: visited).contains other) ≤
          rest.countP (fun other => !visited.contains other) := by
        apply List.countP_mono_left
        intro other _ absent
        simp only [List.contains_cons, Bool.not_or, Bool.and_eq_true] at absent
        exact absent.2
      by_cases same : head = name
      · subst same
        have counted : (!visited.contains head) = true := by simp at fresh ⊢; exact fresh
        have skipped : (!(head :: visited).contains head) = false := by simp
        rw [counted, skipped]
        simp only [if_true]
        exact Nat.lt_succ_of_le mono
      · have smaller := ih ((List.mem_cons.mp present).resolve_left fun equal => same equal.symm)
        have unchanged :
            (!(name :: visited).contains head) = !visited.contains head := by
          simp [same]
        rw [unchanged]
        omega

/-- Reads the modules that the steps reach, in the order in which they are
finished.  `visited` holds every name that was asked for, and the root's. -/
def walk {m : Type → Type} [Monad m] (references : NameSet) (read : String → m Module)
    (visited : List String) : List Step → m (List Module)
  | [] => pure []
  | .finish module :: rest => do
      let modules ← walk references read visited rest
      pure (module :: modules)
  | .visit name :: rest =>
      if _member : references.contains name = true then
        if _fresh : visited.contains name = true then walk references read visited rest
        else do
          let module ← read name
          walk references read (name :: visited) (visits module ++ .finish module :: rest)
      else walk references read visited rest
termination_by steps => (unvisited references visited, steps.length)
decreasing_by
  all_goals first
    | exact Prod.Lex.right _ (by simp only [List.length_cons]; omega)
    | exact Prod.Lex.left _ _ (unvisited_cons_lt _member _fresh)

/-! ### Scans -/

structure ScanResult where
  exports : List ExportBinding
  imports : List ImportBinding
  diagnostics : DiagnosticLog
  deriving DecidableEq, Repr

namespace ScanResult

def isEmpty (result : ScanResult) : Bool :=
  result.exports.isEmpty && result.imports.isEmpty

def ofModules (reached : List Module) (root : Module) : ScanResult :=
  { exports := (reached ++ [root]).flatMap (·.exports)
    imports := root.imports
    diagnostics := .ofHistory ((reached ++ [root]).flatMap (·.conflicts)) }

end ScanResult

def scan {m : Type → Type} [Monad m] (references : NameSet) (read : String → m Module)
    (root : Module) : m ScanResult := do
  let reached ← walk references read [root.name] (visits root)
  pure (.ofModules reached root)

end GuestGlue
