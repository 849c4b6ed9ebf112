/-
Programs that only read.  They leave the disk as it is, whatever fails on the way; on a
disk alone their outcome is a function of it, so a walk over modules in files is the walk
over what the files hold.
-/

import GuestGlue.Metadata.Scan
import GuestGlue.Metadata.Source
import GuestGlue.Proofs.Codec.Module
import GuestGlue.Proofs.Files.States

namespace GuestGlue

variable {ε α β : Type}

section States

variable {σ : Type} [FileSystem (StateM σ)] [DiskState σ]

def ReadOnly (program : ExceptT ε (StateM σ) α) : Prop :=
  ∀ state, DiskState.disk (program.run state).2 = DiskState.disk state

namespace ReadOnly

theorem pure (value : α) : ReadOnly (Pure.pure value : ExceptT ε (StateM σ) α) :=
  fun _ => rfl

theorem throw (error : ε) : ReadOnly (MonadExcept.throw error : ExceptT ε (StateM σ) α) :=
  fun _ => rfl

theorem lift {program : StateM σ α}
    (reads : ∀ state, DiskState.disk (program state).2 = DiskState.disk state) :
    ReadOnly (liftM program : ExceptT ε (StateM σ) α) :=
  reads

theorem bind {program : ExceptT ε (StateM σ) α} {next : α → ExceptT ε (StateM σ) β}
    (first : ReadOnly program) (second : ∀ value, ReadOnly (next value)) :
    ReadOnly (program >>= next) := by
  intro state
  change DiskState.disk (ExceptT.bindCont next (program.run state).1 (program.run state).2).2 = _
  rw [← first state]
  cases (program.run state).1 with
  | error error => rfl
  | ok value => exact second value _

theorem adapt {δ : Type} {program : ExceptT ε (StateM σ) α} (readOnly : ReadOnly program)
    (convert : ε → δ) : ReadOnly (ExceptT.adapt convert program) :=
  readOnly

end ReadOnly

end States

def onDisk (disk : Disk) (program : ExceptT ε DiskM α) : Except ε α :=
  (program.run disk).1

theorem onDisk_bind {program : ExceptT ε DiskM α} {next : α → ExceptT ε DiskM β} (disk : Disk)
    (first : ReadOnly program) :
    onDisk disk (program >>= next) = (onDisk disk program).bind fun value => onDisk disk (next value) := by
  have unchanged : (program.run disk).2 = disk := first disk
  change (ExceptT.bindCont next (program.run disk).1 (program.run disk).2).1 = _
  rw [unchanged, onDisk]
  cases (program.run disk).1 with
  | error error => rfl
  | ok value => rfl

theorem onDisk_lift (program : DiskM α) (disk : Disk) :
    onDisk disk (liftM program : ExceptT ε DiskM α) = .ok (program disk).1 :=
  rfl

/-! ### Modules in files -/

section Files

variable {σ : Type} [FileSystem (StateM σ)] [DiskState σ]

theorem readText_reads (path : Path) (state : σ) :
    DiskState.disk (FileSystem.readText (m := StateM σ) path state).2 = DiskState.disk state := by
  have reads := DiskState.read path state
  rw [FileSystem.readText, bind_apply]
  cases (FileSystem.read (m := StateM σ) path state).1 with
  | error error => exact reads
  | ok bytes =>
      dsimp only
      cases String.fromUTF8? bytes <;> exact reads

theorem readModuleFile_readOnly (path : Path) : ReadOnly (readModuleFile (m := StateM σ) path) := by
  unfold readModuleFile
  refine (ReadOnly.lift (readText_reads path)).bind fun read => ?_
  split
  · exact .throw _
  · split
    · exact .throw _
    · exact .pure _

theorem ModuleDirectory.read_readOnly (directory : ModuleDirectory) (name : String) :
    ReadOnly (directory.read (m := StateM σ) name) := by
  unfold ModuleDirectory.read
  have named : ReadOnly (do
      let module ← readModuleFile (m := StateM σ) (directory.modulePath name)
      if module.name = name then pure module
      else throw (.misnamed (directory.modulePath name) name module.name)) := by
    refine (readModuleFile_readOnly _).bind fun module => ?_
    split
    · exact .pure _
    · exact .throw _
  refine (ReadOnly.lift (DiskState.isFile _)).bind fun present => ?_
  split
  · exact (ReadOnly.throw _).bind fun _ => named
  · exact named

end Files

theorem readText_of_held {disk : Disk} {path : Path} {text : String}
    (held : disk.readFile path = .ok text.toUTF8) :
    FileSystem.readText (m := DiskM) path disk = (.ok text, disk) := by
  have read : FileSystem.read (m := DiskM) path disk = (.ok text.toUTF8, disk) :=
    congrArg (·, disk) held
  have whole : String.fromUTF8? text.toUTF8 = some text := dif_pos text.isValidUTF8
  rw [FileSystem.readText, bind_apply, read]
  dsimp only
  rw [whole]
  rfl

/-- A file that holds text is read as the description of a module. -/
theorem onDisk_readModuleFile {disk : Disk} {path : Path} {text : String}
    (held : disk.readFile path = .ok text.toUTF8) :
    onDisk disk (readModuleFile path) =
      (Module.ofJson text).mapError (.malformed path) := by
  unfold readModuleFile
  rw [onDisk_bind disk (ReadOnly.lift (readText_reads path)), onDisk_lift, readText_of_held held]
  simp only [Except.bind]
  cases Module.ofJson text <;> rfl

theorem onDisk_readModuleFile_toJson {disk : Disk} {path : Path} {module : Module}
    (held : disk.readFile path = .ok module.toJson.toUTF8) :
    onDisk disk (readModuleFile path) = .ok module := by
  have decoded : Module.ofJson module.toJson = .ok module :=
    (Codec.reads_module module).decodeText_pretty
  rw [onDisk_readModuleFile held, decoded]
  rfl

/-! ### Walks -/

section Walks

variable {visited : List String} {steps : List Step}

theorem walk_readOnly {σ : Type} [FileSystem (StateM σ)] [DiskState σ] (references : NameSet)
    {read : String → ExceptT ε (StateM σ) Module} (reads : ∀ name, ReadOnly (read name)) :
    ReadOnly (walk references read visited steps) := by
  fun_induction walk references read visited steps with
  | case1 visited => exact .pure _
  | case2 visited module rest ih => exact ih.bind fun _ => .pure _
  | case3 visited name rest member seen ih => exact ih
  | case4 visited name rest member fresh ih => exact (reads name).bind ih
  | case5 visited name rest outside ih => exact ih

theorem walk_onDisk (references : NameSet) {read : String → ExceptT ε DiskM Module}
    (reads : ∀ name, ReadOnly (read name)) (disk : Disk) :
    onDisk disk (walk references read visited steps) =
      walk references (fun name => onDisk disk (read name)) visited steps := by
  fun_induction walk references read visited steps with
  | case1 visited =>
      rw [walk]
      rfl
  | case2 visited module rest ih =>
      rw [onDisk_bind disk (walk_readOnly references reads), ih, walk]
      rfl
  | case3 visited name rest member seen ih => rw [ih, walk, dif_pos member, dif_pos seen]
  | case4 visited name rest member fresh ih =>
      rw [onDisk_bind disk (reads name), walk, dif_pos member, dif_neg fresh]
      exact congrArg _ (funext ih)
  | case5 visited name rest outside ih => rw [ih, walk, dif_neg outside]

theorem scan_readOnly {σ : Type} [FileSystem (StateM σ)] [DiskState σ] (references : NameSet)
    {read : String → ExceptT ε (StateM σ) Module} (reads : ∀ name, ReadOnly (read name))
    (root : Module) : ReadOnly (scan references read root) :=
  (walk_readOnly references reads).bind fun _ => .pure _

end Walks

end GuestGlue
