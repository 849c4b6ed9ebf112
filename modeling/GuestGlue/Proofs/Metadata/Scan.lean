/-
What a scan finds.  The bindings are read off the markers of static methods, the
modules are those that references inside the set lead to, and a module that was
not reached has no part in the result.
-/

import GuestGlue.Proofs.DiagnosticLog
import GuestGlue.Proofs.Metadata.Descent
import Mathlib.Data.List.Forall2

namespace GuestGlue

/-! ### Markers -/

structure Declaration where
  module : Module
  declared : Module.StaticMethod

/-- The static methods of modules, in the order of the modules, types and methods. -/
def declarations (modules : List Module) : List Declaration :=
  modules.flatMap fun module => module.staticMethods.map (⟨module, ·⟩)

namespace Declaration

def markers (declaration : Declaration) : List Marker :=
  declaration.declared.method.markers

def signature (declaration : Declaration) : MethodSignature :=
  let method := declaration.declared.method
  { moduleFile := declaration.module.fileName
    namespaceName := declaration.declared.type.namespaceName
    typeName := declaration.declared.type.name
    methodName := method.name
    parameters := method.parameters
    returnType := method.returnType }

def isExported (declaration : Declaration) : Bool :=
  declaration.markers.any (·.isExport)

def isImported (declaration : Declaration) : Bool :=
  declaration.markers.any (·.isImport)

/-- The binding has the signature of the method, and the entry point of its first
marker for export. -/
def Exports (declaration : Declaration) (binding : ExportBinding) : Prop :=
  binding.method = declaration.signature ∧
    declaration.markers.find? (·.isExport) = some (.exported binding.entryPoint)

def Imports (declaration : Declaration) (binding : ImportBinding) : Prop :=
  binding.method = declaration.signature ∧
    declaration.markers.find? (·.isImport) = some (.imported binding.hostModule binding.entryPoint)

def conflict (declaration : Declaration) : Diagnostic :=
  let symbol := declaration.signature.fullName
  .error .conflictingMarkers symbol
    (symbol ++ " is marked as both an export and an import; it will not be generated")

end Declaration

theorem MethodDef.exportMarker?_eq_some {method : MethodDef} {entryPoint : Option String} :
    method.exportMarker? = some entryPoint ↔
      method.markers.find? (·.isExport) = some (.exported entryPoint) := by
  unfold exportMarker?
  induction method.markers with
  | nil => simp
  | cons marker rest ih => cases marker <;> simp [Marker.isExport, ih]

theorem MethodDef.importMarker?_eq_some {method : MethodDef} {hostModule : String}
    {entryPoint : Option String} :
    method.importMarker? = some (hostModule, entryPoint) ↔
      method.markers.find? (·.isImport) = some (.imported hostModule entryPoint) := by
  unfold importMarker?
  induction method.markers with
  | nil => simp
  | cons marker rest ih => cases marker <;> simp [Marker.isImport, ih]

namespace Declaration

theorem isExported_eq (declaration : Declaration) :
    declaration.isExported = declaration.declared.method.exportMarker?.isSome := by
  unfold isExported markers MethodDef.exportMarker?
  induction declaration.declared.method.markers with
  | nil => rfl
  | cons marker rest ih => cases marker <;> simp_all [Marker.isExport]

theorem isImported_eq (declaration : Declaration) :
    declaration.isImported = declaration.declared.method.importMarker?.isSome := by
  unfold isImported markers MethodDef.importMarker?
  induction declaration.declared.method.markers with
  | nil => rfl
  | cons marker rest ih => cases marker <;> simp_all [Marker.isImport]

/-! ### Bindings of modules -/

def export? (declaration : Declaration) : Option ExportBinding :=
  declaration.module.export? declaration.declared

def import? (declaration : Declaration) : Option ImportBinding :=
  declaration.module.import? declaration.declared

def conflict? (declaration : Declaration) : Option Diagnostic :=
  declaration.module.conflict? declaration.declared

theorem export?_isSome (declaration : Declaration) :
    (declaration.isExported && !declaration.isImported) = declaration.export?.isSome := by
  rw [isExported_eq, isImported_eq, export?, Module.export?]
  cases declaration.declared.method.exportMarker? <;>
    cases declaration.declared.method.importMarker? <;> rfl

theorem import?_isSome (declaration : Declaration) :
    (declaration.isImported && !declaration.isExported) = declaration.import?.isSome := by
  rw [isExported_eq, isImported_eq, import?, Module.import?]
  cases declaration.declared.method.exportMarker? <;>
    cases declaration.declared.method.importMarker? <;> rfl

theorem exports_of_export? {declaration : Declaration} {binding : ExportBinding}
    (found : declaration.export? = some binding) : declaration.Exports binding := by
  unfold export? Module.export? at found
  split at found
  · next entryPoint marked _ =>
    cases found
    exact ⟨rfl, MethodDef.exportMarker?_eq_some.mp marked⟩
  · cases found

theorem imports_of_import? {declaration : Declaration} {binding : ImportBinding}
    (found : declaration.import? = some binding) : declaration.Imports binding := by
  unfold import? Module.import? at found
  split at found
  · next hostModule entryPoint _ marked =>
    cases found
    exact ⟨rfl, MethodDef.importMarker?_eq_some.mp marked⟩
  · cases found

theorem conflict?_eq (declaration : Declaration) :
    declaration.conflict? =
      if declaration.isExported && declaration.isImported then some declaration.conflict else none := by
  rw [isExported_eq, isImported_eq, conflict?, Module.conflict?]
  cases declaration.declared.method.exportMarker? <;>
    cases declaration.declared.method.importMarker? <;> rfl

end Declaration

/-- Every binding of a module comes from a declaration, whatever is looked for. -/
private theorem flatMap_staticMethods {α : Type} (modules : List Module)
    (value? : Declaration → Option α) :
    (modules.flatMap fun module => module.staticMethods.filterMap fun declared =>
        value? ⟨module, declared⟩) =
      (declarations modules).filterMap value? := by
  simp only [declarations, List.filterMap_flatMap, List.filterMap_map, Function.comp_def]

/-- Keeping what a test admits and keeping what has a value go in step. -/
private theorem forall₂_filterMap {α β : Type} {value? : α → Option β} {test : α → Bool}
    {relation : α → β → Prop} (admitted : ∀ item, test item = (value? item).isSome)
    (related : ∀ item value, value? item = some value → relation item value) (items : List α) :
    List.Forall₂ relation (items.filter test) (items.filterMap value?) := by
  induction items with
  | nil => exact .nil
  | cons item rest ih =>
      cases found : value? item with
      | none =>
          rw [List.filterMap_cons_none found, List.filter_cons_of_neg (by simp [admitted, found])]
          exact ih
      | some value =>
          rw [List.filterMap_cons_some found, List.filter_cons_of_pos (by simp [admitted, found])]
          exact .cons (related item value found) ih

def exporting (modules : List Module) : List Declaration :=
  (declarations modules).filter fun declaration =>
    declaration.isExported && !declaration.isImported

def importing (modules : List Module) : List Declaration :=
  (declarations modules).filter fun declaration =>
    declaration.isImported && !declaration.isExported

def conflicting (modules : List Module) : List Declaration :=
  (declarations modules).filter fun declaration =>
    declaration.isExported && declaration.isImported

theorem forall₂_exports (modules : List Module) :
    List.Forall₂ Declaration.Exports (exporting modules) (modules.flatMap (·.exports)) := by
  have listed := flatMap_staticMethods modules Declaration.export?
  change modules.flatMap (·.exports) = _ at listed
  rw [listed]
  exact forall₂_filterMap Declaration.export?_isSome
    (fun _ _ found => Declaration.exports_of_export? found) _

theorem forall₂_imports (root : Module) :
    List.Forall₂ Declaration.Imports (importing [root]) root.imports := by
  have listed := flatMap_staticMethods [root] Declaration.import?
  rw [List.flatMap_singleton] at listed
  change root.imports = _ at listed
  rw [listed]
  exact forall₂_filterMap Declaration.import?_isSome
    (fun _ _ found => Declaration.imports_of_import? found) _

theorem conflicts_eq (modules : List Module) :
    modules.flatMap (·.conflicts) = (conflicting modules).map Declaration.conflict := by
  have listed := flatMap_staticMethods modules Declaration.conflict?
  change modules.flatMap (·.conflicts) = _ at listed
  rw [listed, conflicting, ← List.filterMap_eq_map, List.filterMap_filter]
  congr 1
  funext declaration
  exact Declaration.conflict?_eq declaration

theorem isError_conflicts (declarations : List Declaration) :
    ∀ diagnostic ∈ declarations.map Declaration.conflict, diagnostic.isError = true := by
  intro diagnostic member
  obtain ⟨declaration, _, rfl⟩ := List.mem_map.mp member
  rfl

theorem countP_conflicts (declarations : List Declaration) :
    (declarations.map Declaration.conflict).countP (·.isError) = declarations.length := by
  rw [List.countP_eq_length.mpr (isError_conflicts declarations), List.length_map]

/-! ### Scans -/

variable {ε : Type} {references : NameSet} {read : String → Except ε Module} {root : Module}

/-- A scan succeeds exactly if the references of the root can be descended. -/
theorem scan_eq_ok_iff {result : ScanResult} :
    scan references read root = .ok result ↔
      ∃ reached after, Descends references read [root.name] root.references reached after ∧
        result = .ofModules (reached.map (·.module)) root := by
  have agenda : visits root = root.references.map Step.visit ++ [] := by
    rw [List.append_nil, visits]
  have ended (after : List String) : walk references read after [] = .ok [] := by
    rw [walk]
    rfl
  rw [scan, agenda]
  constructor
  · intro scanned
    cases walked : walk references read [root.name] (root.references.map Step.visit ++ []) with
    | error error =>
        rw [walked] at scanned
        cases scanned
    | ok modules =>
        obtain ⟨reached, after, descends⟩ := exists_descends_of_walk walked
        rw [descends.walk_eq, ended] at scanned
        cases scanned
        exact ⟨reached, after, descends, by simp only [List.append_nil]⟩
  · rintro ⟨reached, after, descends, rfl⟩
    rw [descends.walk_eq, ended]
    simp [Except.map, bind, Except.bind, pure, Except.pure]

/-- What the references of the root lead to is reached, and nothing else. -/
theorem Descends.mem_iff_reachable {after : List String} {reached : List Reached}
    (descends : Descends references read [root.name] root.references reached after) (name : String) :
    name ∈ reached.map (·.name) ↔
      ReachableFrom references read root.name root.references name := by
  have excluded : root.name ∈ [root.name] := List.mem_singleton_self root.name
  have kept {other : String} (visited : other ∈ after) (notRoot : other ≠ root.name) :
      other ∈ reached.map (·.name) :=
    ((descends.mem_after other).mp visited).resolve_left fun same =>
      notRoot (List.mem_singleton.mp same)
  constructor
  · intro present
    obtain ⟨entry, member, rfl⟩ := List.mem_map.mp present
    exact descends.reachable excluded entry member
  · rintro ⟨first, listed, inSet, notRoot, path⟩
    induction path with
    | refl => exact kept (descends.covers first listed inSet) notRoot
    | @tail middle last path follows ih =>
        obtain ⟨module, found, referred, lastInSet, lastNotRoot⟩ := follows
        obtain ⟨entry, member, rfl⟩ := List.mem_map.mp ih
        have same : entry.module = module :=
          Except.ok.inj ((descends.read_eq entry member).symm.trans found)
        exact kept (descends.closed entry member last (same ▸ referred) lastInSet) lastNotRoot

/-- A walk fails on a module that the references it is about to visit lead to. -/
theorem walk_error {rootName : String} {names visited : List String} {steps : List Step} {cause : ε}
    (excluded : rootName ∈ visited)
    (due : ∀ name, .visit name ∈ steps → references.contains name = true → name ≠ rootName →
      ReachableFrom references read rootName names name)
    (failed : walk references read visited steps = .error cause) :
    ∃ name, ReachableFrom references read rootName names name ∧ read name = .error cause := by
  fun_induction walk references read visited steps with
  | case1 visited => cases failed
  | case2 visited module rest ih =>
      refine ih excluded (fun name step => due name (List.mem_cons_of_mem _ step)) ?_
      cases walked : walk references read visited rest with
      | error error =>
          rw [walked] at failed
          cases failed
          rfl
      | ok modules =>
          rw [walked] at failed
          cases failed
  | case3 visited name rest member seen ih =>
      exact ih excluded (fun other step => due other (List.mem_cons_of_mem _ step)) failed
  | case4 visited name rest member fresh ih =>
      have notRoot : name ≠ rootName := by
        rintro rfl
        exact fresh (List.contains_iff_mem.mpr excluded)
      have reached := due name List.mem_cons_self member notRoot
      cases found : read name with
      | error error =>
          rw [found] at failed
          cases failed
          exact ⟨name, reached, found⟩
      | ok module =>
          rw [found] at failed
          refine ih module (List.mem_cons_of_mem _ excluded) ?_ failed
          intro other step inSet otherNotRoot
          rcases List.mem_append.mp step with referred | later
          · obtain ⟨_, listed, same⟩ := List.mem_map.mp referred
            cases same
            obtain ⟨first, start, firstInSet, firstNotRoot, path⟩ := reached
            exact ⟨first, start, firstInSet, firstNotRoot,
              path.tail ⟨module, found, listed, inSet, otherNotRoot⟩⟩
          · rcases List.mem_cons.mp later with finished | rest
            · cases finished
            · exact due other (List.mem_cons_of_mem _ rest) inSet otherNotRoot
  | case5 visited name rest outside ih =>
      exact ih excluded (fun other step => due other (List.mem_cons_of_mem _ step)) failed

theorem scan_error {cause : ε} (failed : scan references read root = .error cause) :
    ∃ name, ReachableFrom references read root.name root.references name ∧
      read name = .error cause := by
  have walked : walk references read [root.name] (visits root) = .error cause := by
    unfold scan at failed
    cases ran : walk references read [root.name] (visits root) with
    | error error =>
        rw [ran] at failed
        cases failed
        rfl
    | ok modules =>
        rw [ran] at failed
        cases failed
  refine walk_error (List.mem_singleton_self root.name) ?_ walked
  intro name step inSet notRoot
  obtain ⟨_, listed, same⟩ := List.mem_map.mp step
  cases same
  exact ⟨name, listed, inSet, notRoot, .refl⟩

/-- A scan succeeds exactly if every module can be read that references lead to. -/
theorem scan_fails_iff :
    (∃ cause, scan references read root = .error cause) ↔
      ∃ name cause, ReachableFrom references read root.name root.references name ∧
        read name = .error cause := by
  constructor
  · rintro ⟨cause, failed⟩
    obtain ⟨name, reached, unread⟩ := scan_error failed
    exact ⟨name, cause, reached, unread⟩
  · rintro ⟨name, cause, reached, unread⟩
    cases scanned : scan references read root with
    | error error => exact ⟨error, rfl⟩
    | ok result =>
        obtain ⟨listed, after, descends, _⟩ := scan_eq_ok_iff.mp scanned
        obtain ⟨entry, member, rfl⟩ :=
          List.mem_map.mp ((descends.mem_iff_reachable name).mpr reached)
        rw [descends.read_eq entry member] at unread
        cases unread

/-- A scan lists each module that references in the set lead to from the root, each
once and, but for cycles, after what it refers to.  Exports come from these modules
and then from the root, imports from the root, and each method that is marked both
ways is counted as an error.  A module that is not listed has no part in this. -/
theorem scan_lists_reachable {result : ScanResult}
    (scanned : scan references read root = .ok result) :
    ∃ reached : List Reached,
      let names := reached.map (·.name)
      let modules := reached.map (·.module) ++ [root]
      names.Nodup ∧
      (∀ name, name ∈ names ↔ ReachableFrom references read root.name root.references name) ∧
      (∀ entry ∈ reached, read entry.name = .ok entry.module) ∧
      List.Forall₂ Declaration.Exports (exporting modules) result.exports ∧
      List.Forall₂ Declaration.Imports (importing [root]) result.imports ∧
      result.diagnostics = .ofHistory ((conflicting modules).map Declaration.conflict) ∧
      result.diagnostics.totalErrors = (conflicting modules).length ∧
      (∀ entry ∈ reached, ∀ name ∈ entry.module.references, references.contains name = true →
        name ≠ entry.name → name ≠ root.name →
          Precedes names name entry.name ∨
            Relation.ReflTransGen (Follows references read root.name) name entry.name) ∧
      ∀ other : String → Except ε Module, (∀ name ∈ names, other name = read name) →
        scan references other root = .ok result := by
  obtain ⟨reached, after, descends, rfl⟩ := scan_eq_ok_iff.mp scanned
  refine ⟨reached, descends.nodup.1, descends.mem_iff_reachable, descends.read_eq,
    forall₂_exports _, forall₂_imports root, ?_, ?_, ?_, ?_⟩
  · rw [ScanResult.ofModules, conflicts_eq]
  · rw [ScanResult.ofModules, conflicts_eq, DiagnosticLog.ofHistory_totalErrors, countP_conflicts]
  · intro entry member name referred inSet notItself notRoot
    rcases descends.ordered (List.mem_singleton_self root.name) entry member name referred inSet with
      same | seen | before | back
    · exact absurd same notItself
    · exact absurd (List.mem_singleton.mp seen) notRoot
    · exact Or.inl before
    · exact Or.inr back
  · intro other same
    have descendsToo := descends.congr fun entry member =>
      same entry.name (List.mem_map_of_mem member)
    exact scan_eq_ok_iff.mpr ⟨reached, after, descendsToo, rfl⟩

/-- Two modules that refer to each other, one of them to the root as well. -/
theorem scan_lists_reachable_cycle :
    let run : MethodDef := .withMarker (.named "Run" .void) (.exported none)
    let both : MethodDef := run.withMarker (.imported "host" none)
    let library : Module := ⟨"Library", none, ["Core", "App"], [⟨"", "Api", [run]⟩]⟩
    let core : Module := ⟨"Core", some "core.dll", ["Library"], [⟨"", "Api", [both, run]⟩]⟩
    let root : Module := ⟨"App", none, ["Library", "Core", "Missing"], []⟩
    let references := NameSet.ofList ["App", "Core", "Library"]
    let read : String → Except String Module := fun name =>
      if name = "Library" then .ok library else if name = "Core" then .ok core else .error name
    let result := ScanResult.ofModules [core, library] root
    scan references read root = .ok result ∧
      ∃ reached : List Reached, (reached.map (·.name)).Nodup ∧
        (∀ name, name ∈ reached.map (·.name) ↔
          ReachableFrom references read root.name root.references name) ∧
        result.diagnostics.totalErrors = (conflicting (reached.map (·.module) ++ [root])).length := by
  intro run both library core root references read result
  -- Below the library the walk meets the core, and there the library again.
  have inCore : Descends references read ["Core", "Library", "App"] core.references [] _ :=
    .pass (.inr (by decide)) (.done _)
  have inLibrary : Descends references read ["Library", "App"] library.references
      [⟨"Core", core⟩] _ :=
    .enter (by decide) (by decide) rfl inCore (.pass (.inr (by decide)) (.done _))
  have descends : Descends references read ["App"] root.references
      [⟨"Core", core⟩, ⟨"Library", library⟩] _ :=
    .enter (by decide) (by decide) rfl inLibrary
      (.pass (.inr (by decide)) (.pass (.inl (by decide)) (.done _)))
  have scanned : scan references read root = .ok result :=
    scan_eq_ok_iff.mpr ⟨_, _, descends, rfl⟩
  obtain ⟨reached, distinct, reachable, _, _, _, _, counted, _⟩ := scan_lists_reachable scanned
  exact ⟨scanned, reached, distinct, reachable, counted⟩

end GuestGlue
