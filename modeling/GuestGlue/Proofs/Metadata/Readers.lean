/-
Modules in files and modules in memory.  When descriptions are written to a directory one
after another, its files are told by the collection that the same modules are inserted
into: the last module of a name counts.  A scan over the one finds what a scan over the
other finds, and where it fails both miss a module of one name.
-/

import GuestGlue.Proofs.Build.Refusal

namespace GuestGlue

/-! ### Collections -/

namespace ModuleCollection

def ofList (modules : List Module) : ModuleCollection :=
  modules.foldl insert empty

def module? (collection : ModuleCollection) (name : String) : Option Module :=
  collection.modules.find? (·.name = name)

variable {collection : ModuleCollection} {module : Module} {name : String}

theorem module?_insert : (collection.insert module).module? name =
    if module.name = name then some module else collection.module? name := by
  unfold insert module?
  by_cases same : module.name = name
  · rw [if_pos same]
    exact List.find?_cons_of_pos (decide_eq_true same)
  · rw [if_neg same]
    exact List.find?_cons_of_neg fun equal => same (of_decide_eq_true equal)

theorem name_of_module? (found : collection.module? name = some module) : module.name = name := by
  simpa using List.find?_some found

theorem read_of_some (found : collection.module? name = some module) :
    collection.read name = .ok module := by
  unfold module? at found
  rw [read, found]

theorem read_of_none (absent : collection.module? name = none) :
    ∃ path, collection.read name = .error (.missing name path) := by
  unfold module? at absent
  rw [read, absent]
  exact ⟨_, rfl⟩

end ModuleCollection

/-! ### Directories that descriptions are written to -/

def jsonName (name : String) : String :=
  name ++ ".json"

theorem jsonName_inj {name other : String} : jsonName name = jsonName other ↔ name = other := by
  rw [jsonName, jsonName, ← String.toList_inj, ← String.toList_inj]
  simp

theorem isName_jsonName {name : String} (whole : '/' ∉ name.toList) : IsName (jsonName name) := by
  have ending : ".json".toList <:+ (jsonName name).toList := by
    rw [jsonName, String.toList_append]
    exact List.suffix_append _ _
  have others : ∀ other ∈ ["", ".", ".."], ¬".json".toList <:+ other.toList := by decide
  constructor
  case notEmpty => exact fun same => others "" (by decide) (same ▸ ending)
  case notPoint => exact fun same => others "." (by decide) (same ▸ ending)
  case notPoints => exact fun same => others ".." (by decide) (same ▸ ending)
  case whole =>
    rw [jsonName, String.toList_append, List.mem_append, not_or]
    exact ⟨whole, by decide⟩

namespace Disk

def store (disk : Disk) (directory : Path) (module : Module) : Except FileError Disk :=
  disk.writeFile (ModuleDirectory.modulePath ⟨directory⟩ module.name) module.toJson.toUTF8

/-- Writes descriptions in order; a later one of a name replaces an earlier one. -/
def storeAll (disk : Disk) (directory : Path) : List Module → Except FileError Disk
  | [] => .ok disk
  | module :: rest => (disk.store directory module).bind fun stored => stored.storeAll directory rest

/-- For these names the files of a directory are those of a collection. -/
structure Stores (disk : Disk) (directory : Path) (location : Location) (names : List String)
    (collection : ModuleCollection) : Prop where
  opens : disk.Opens directory location
  held : ∀ name ∈ names, disk.file? location (jsonName name) =
    (collection.module? name).map (·.toJson.toUTF8)
  fits : ∀ name ∈ names, (collection.module? name).isSome = true →
    Fits directory (jsonName name)
  notDirectory : ∀ name ∈ names, disk.isDirectoryAt (location ++ [jsonName name]) = false
  unlinked : ∀ name ∈ names, disk.Unlinked (location ++ [jsonName name])

section Stored

variable {disk after : Disk} {directory : Path} {location : Location} {names : List String}
  {collection : ModuleCollection} {module : Module}

theorem Stores.store_ok_iff (stores : disk.Stores directory location names collection)
    (named : module.name ∈ names) (whole : '/' ∉ module.name.toList) :
    disk.store directory module = .ok after ↔
      Fits directory (jsonName module.name) ∧
        after = disk.put (location ++ [jsonName module.name]) (.file module.toJson.toUTF8) := by
  have free := stores.notDirectory _ named
  refine (stores.opens.writeFile_unlinked (isName_jsonName whole) (stores.unlinked _ named)).trans ?_
  rw [free, eq_self, true_and]

theorem Stores.store (stores : disk.Stores directory location names collection)
    (named : module.name ∈ names) (whole : '/' ∉ module.name.toList)
    (stored : disk.store directory module = .ok after) :
    after.Stores directory location names (collection.insert module) := by
  have same := writeFile_sameDirectories stored
  have opens := stores.opens.mono (writeFile_sameLinks stored).waysIn
  have fewer := writeFile_fewerLinks stored
  obtain ⟨fits, rfl⟩ := (stores.store_ok_iff named whole).mp stored
  constructor
  case opens => exact opens
  case unlinked => exact fun name member => fewer.unlinked (stores.unlinked name member)
  case notDirectory =>
    exact fun name member => (same.isDirectoryAt _).trans (stores.notDirectory name member)
  case held =>
    intro name member
    rw [file?_put, ModuleCollection.module?_insert, stores.held name member]
    by_cases here : module.name = name
    · rw [if_pos here, if_pos (congrArg jsonName here.symm), Option.map_some]
    · rw [if_neg here, if_neg fun equal => here (jsonName_inj.mp equal).symm]
  case fits =>
    intro name member present
    rw [ModuleCollection.module?_insert] at present
    by_cases here : module.name = name
    · exact here ▸ fits
    · rw [if_neg here] at present
      exact stores.fits name member present

theorem Stores.storeAll {modules : List Module}
    (stores : disk.Stores directory location names collection)
    (named : ∀ module ∈ modules, module.name ∈ names ∧ '/' ∉ module.name.toList)
    (stored : disk.storeAll directory modules = .ok after) :
    after.Stores directory location names (modules.foldl .insert collection) := by
  induction modules generalizing disk collection with
  | nil =>
      cases stored
      exact stores
  | cons module rest ih =>
      obtain ⟨⟨here, whole⟩, later⟩ := List.forall_mem_cons.mp named
      rw [Disk.storeAll] at stored
      cases wrote : disk.store directory module with
      | error error =>
          rw [wrote] at stored
          cases stored
      | ok middle =>
          rw [wrote] at stored
          exact ih (stores.store here whole wrote) later stored

/-- Descriptions can be written exactly if the system takes the names of their files. -/
theorem Stores.storeAll_iff {modules : List Module}
    (stores : disk.Stores directory location names collection)
    (named : ∀ module ∈ modules, module.name ∈ names ∧ '/' ∉ module.name.toList) :
    (∃ after, disk.storeAll directory modules = .ok after) ↔
      ∀ module ∈ modules, Fits directory (jsonName module.name) := by
  induction modules generalizing disk collection with
  | nil => exact iff_of_true ⟨disk, rfl⟩ nofun
  | cons module rest ih =>
      obtain ⟨⟨here, whole⟩, later⟩ := List.forall_mem_cons.mp named
      rw [List.forall_mem_cons, Disk.storeAll]
      cases wrote : disk.store directory module with
      | error error =>
          refine iff_of_false nofun fun fits => ?_
          have put := (stores.store_ok_iff here whole).mpr ⟨fits.1, rfl⟩
          rw [wrote] at put
          cases put
      | ok middle =>
          have fits := ((stores.store_ok_iff here whole).mp wrote).1
          rw [and_iff_right fits]
          exact ih (stores.store here whole wrote) later

end Stored

end Disk

/-! ### Answers that are alike -/

inductive Alike {α : Type} : Except ReadError α → Except ReadError α → Prop
  | found (value : α) : Alike (.ok value) (.ok value)
  | missing (name : String) (path other : Path) :
      Alike (.error (.missing name path)) (.error (.missing name other))

theorem Alike.bind {α β : Type} {answer other : Except ReadError α}
    {next nextOther : α → Except ReadError β} (alike : Alike answer other)
    (later : ∀ value, Alike (next value) (nextOther value)) :
    Alike (answer >>= next) (other >>= nextOther) := by
  cases alike with
  | found value => exact later value
  | missing name path other => exact .missing name path other

section Walks

variable {references : NameSet} {read other : String → Except ReadError Module}

theorem walk_alike (alike : ∀ name, references.contains name = true → Alike (read name) (other name))
    (visited : List String) (steps : List Step) :
    Alike (walk references read visited steps) (walk references other visited steps) := by
  fun_induction walk references read visited steps with
  | case1 visited =>
      rw [walk]
      exact .found []
  | case2 visited module rest ih =>
      rw [walk]
      exact ih.bind fun modules => .found _
  | case3 visited name rest member seen ih =>
      rw [walk, dif_pos member, dif_pos seen]
      exact ih
  | case4 visited name rest member fresh ih =>
      rw [walk, dif_pos member, dif_neg fresh]
      exact (alike name member).bind ih
  | case5 visited name rest outside ih =>
      rw [walk, dif_neg outside]
      exact ih

theorem scan_alike (alike : ∀ name, references.contains name = true → Alike (read name) (other name))
    (root : Module) : Alike (scan references read root) (scan references other root) :=
  (walk_alike alike [root.name] (visits root)).bind fun _ => .found _

end Walks

/-! ### Both readers -/

theorem readModule_of_held {disk : Disk} {directory : Path} {name : String} {module : Module}
    (present : disk.hasFile (ModuleDirectory.modulePath ⟨directory⟩ name) = true)
    (held : disk.readFile (ModuleDirectory.modulePath ⟨directory⟩ name) = .ok module.toJson.toUTF8)
    (named : module.name = name) : disk.readModule directory name = .ok module := by
  have asked : (FileSystem.isFile (m := DiskM) (ModuleDirectory.modulePath ⟨directory⟩ name)
      disk).1 = true := present
  unfold Disk.readModule ModuleDirectory.read
  rw [onDisk_bind disk (ReadOnly.lift fun _ => rfl), onDisk_lift, asked]
  change onDisk disk (readModuleFile _ >>= _) = _
  rw [onDisk_bind disk (readModuleFile_readOnly _), onDisk_readModuleFile_toJson held]
  dsimp only [Except.bind]
  rw [if_pos named]
  rfl

theorem Disk.Stores.read_alike {disk : Disk} {directory : Path} {location : Location}
    {names : List String} {collection : ModuleCollection} {name : String}
    (stores : disk.Stores directory location names collection) (member : name ∈ names)
    (whole : '/' ∉ name.toList) :
    Alike (disk.readModule directory name) (collection.read name) := by
  have held := stores.held name member
  have unlinked := stores.unlinked name member
  have isName := isName_jsonName whole
  cases found : collection.module? name with
  | none =>
      obtain ⟨path, missed⟩ := ModuleCollection.read_of_none found
      have absent : disk.hasFile (ModuleDirectory.modulePath ⟨directory⟩ name) = false := by
        refine Bool.eq_false_iff.mpr fun present => ?_
        have there := ((stores.opens.hasFile_unlinked isName unlinked).mp present).2
        rw [held, found] at there
        cases there
      rw [readModule_of_absent absent, missed]
      exact .missing name _ path
  | some module =>
      have fits := stores.fits name member (Option.isSome_of_eq_some found)
      rw [found] at held
      have read := (stores.opens.readFile_unlinked isName unlinked).mpr ⟨fits, held⟩
      have present := (stores.opens.hasFile_unlinked isName unlinked).mpr
        ⟨fits, Option.isSome_of_eq_some held⟩
      rw [readModule_of_held present read (ModuleCollection.name_of_module? found),
        ModuleCollection.read_of_some found]
      exact .found module

/-- In a directory without files of these names, descriptions can be written exactly if the
system takes their file names; and then a scan finds what a scan over the same modules in
memory finds, or both miss a module of one name. -/
theorem scan_readers_alike {disk : Disk} {directory : Path} {location : Location}
    {modules : List Module} {references : NameSet} (opens : disk.Opens directory location)
    (whole : ∀ name ∈ modules.map (·.name) ++ references.toList, '/' ∉ name.toList)
    (absent : ∀ name ∈ modules.map (·.name) ++ references.toList,
      disk.entry? (location ++ [name ++ ".json"]) = none) (root : Module) :
    ((∃ stored, disk.storeAll directory modules = .ok stored) ↔
      ∀ module ∈ modules, '\x00' ∉ module.name.toList ∧
        (module.name ++ ".json").utf8ByteSize ≤ Disk.nameLimit ∧
        (ModuleDirectory.modulePath ⟨directory⟩ module.name).text.utf8ByteSize < Disk.pathLimit) ∧
    ∀ stored, disk.storeAll directory modules = .ok stored →
      Alike
        (onDisk stored (scan references (ModuleDirectory.read (m := DiskM) ⟨directory⟩) root))
        (scan references (ModuleCollection.ofList modules).read root) := by
  have named : ∀ module ∈ modules,
      module.name ∈ modules.map (·.name) ++ references.toList ∧ '/' ∉ module.name.toList := by
    intro module member
    have listed := List.mem_append_left references.toList (List.mem_map_of_mem (f := (·.name)) member)
    exact ⟨listed, whole _ listed⟩
  have empty : disk.Stores directory location (modules.map (·.name) ++ references.toList)
      .empty := by
    constructor
    case opens => exact opens
    case held =>
      intro name member
      rw [Disk.file?, jsonName, absent name member]
      rfl
    case fits =>
      intro name member present
      cases present
    case notDirectory =>
      intro name member
      rw [Disk.isDirectoryAt, jsonName, absent name member]
      rfl
    case unlinked => exact fun name member => .of_none (absent name member)
  refine ⟨?_, fun stored wrote => ?_⟩
  · rw [empty.storeAll_iff named]
    refine forall₂_congr fun module member => ?_
    have ending : '\x00' ∉ ".json".toList := by decide
    rw [opens.fits_iff (isName_jsonName (named module member).2), jsonName, String.toList_append,
      List.mem_append, not_or, and_iff_left ending]
    rfl
  · rw [scan_onDisk]
    refine scan_alike (fun name member => ?_) root
    have listed : name ∈ modules.map (·.name) ++ references.toList :=
      List.mem_append_right _ (List.contains_iff_mem.mp member)
    exact (empty.storeAll named wrote).read_alike listed (whole name listed)

/-- The second description of a name replaces the first, and leads to a module that neither
reader has. -/
theorem scan_readers_alike_replaced :
    let modules : List Module := [⟨"B", none, [], []⟩, ⟨"B", some "b.dll", ["C"], []⟩]
    let references : NameSet := .ofList ["B", "C"]
    let root : Module := ⟨"A", none, ["B"], []⟩
    ∃ stored path, Disk.initial.storeAll ⟨"."⟩ modules = .ok stored ∧
      onDisk stored (scan references (ModuleDirectory.read (m := DiskM) ⟨⟨"."⟩⟩) root) =
        .error (.missing "C" path) := by
  intro modules references root
  have opens : Disk.initial.Opens ⟨"."⟩ ["work"] := ⟨rfl, rfl⟩
  obtain ⟨written, alike⟩ := @scan_readers_alike _ _ _ modules references opens (by decide)
    (by decide) root
  obtain ⟨stored, wrote⟩ := written.mpr (by decide)
  have missed : scan references (ModuleCollection.ofList modules).read root =
      .error (.missing "C" ⟨"<memory>/C.json"⟩) := by
    have last : (ModuleCollection.ofList modules).read "B" =
        .ok ⟨"B", some "b.dll", ["C"], []⟩ := rfl
    have none : (ModuleCollection.ofList modules).read "C" =
        .error (.missing "C" ⟨"<memory>/C.json"⟩) := rfl
    have steps : visits root = [.visit "B"] := rfl
    rw [scan, steps, walk, dif_pos (by decide), dif_neg (by decide), last]
    change (walk references _ ["B", "A"] [.visit "C", .finish _] >>= _) = _
    rw [walk, dif_pos (by decide), dif_neg (by decide), none]
    rfl
  have both := alike stored wrote
  rw [missed] at both
  cases answer : onDisk stored (scan references (ModuleDirectory.read (m := DiskM) ⟨⟨"."⟩⟩) root) with
  | ok value =>
      rw [answer] at both
      cases both
  | error cause =>
      rw [answer] at both
      cases both with
      | missing name path => exact ⟨stored, path, wrote, answer⟩

end GuestGlue
