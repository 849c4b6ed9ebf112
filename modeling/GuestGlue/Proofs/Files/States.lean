/-
Programs on states that hold a disk.  Whatever else there is in such a state, an operation
leaves its disk or does there what it does on a disk alone, if not to its end; so what such
programs do to a disk is told once, whether or not operations can fail.
-/

import GuestGlue.Files.Machine
import GuestGlue.Proofs.Files.Changes

namespace GuestGlue

def Begins (part whole : ByteArray) : Prop :=
  part.data.toList <+: whole.data.toList

theorem Begins.refl (whole : ByteArray) : Begins whole whole :=
  List.prefix_refl _

theorem begins_extract (whole : ByteArray) (count : Nat) : Begins (whole.extract 0 count) whole := by
  rw [Begins, ByteArray.data_extract, Array.toList_extract]
  exact List.take_prefix _ _

class DiskState (σ : Type) [FileSystem (StateM σ)] where
  disk : σ → Disk
  read : ∀ path state, disk (FileSystem.read (m := StateM σ) path state).2 = disk state
  entries : ∀ path state, disk (FileSystem.entries (m := StateM σ) path state).2 = disk state
  isFile : ∀ path state, disk (FileSystem.isFile (m := StateM σ) path state).2 = disk state
  isDirectory : ∀ path state,
    disk (FileSystem.isDirectory (m := StateM σ) path state).2 = disk state
  listed : ∀ path state items, (FileSystem.entries (m := StateM σ) path state).1 = .ok items →
    ∃ names, (disk state).listDirectory path = .ok names ∧ ∀ name, .ok name ∈ items → name ∈ names
  hasFile : ∀ path state, (FileSystem.isFile (m := StateM σ) path state).1 = true →
    (disk state).hasFile path = true
  makeDirectory : ∀ path state,
    disk (FileSystem.makeDirectory (m := StateM σ) path state).2 = disk state ∨
      (disk state).makeDirectory path =
        .ok (disk (FileSystem.makeDirectory (m := StateM σ) path state).2)
  remove : ∀ path state, disk (FileSystem.remove (m := StateM σ) path state).2 = disk state ∨
    (disk state).removeFile path = .ok (disk (FileSystem.remove (m := StateM σ) path state).2)
  write : ∀ path content state,
    disk (FileSystem.write (m := StateM σ) path content state).2 = disk state ∨
      ∃ part, Begins part content ∧ (disk state).writeFile path part =
        .ok (disk (FileSystem.write (m := StateM σ) path content state).2)
  written : ∀ path content state, (FileSystem.write (m := StateM σ) path content state).1 = .ok () →
    (disk state).writeFile path content =
      .ok (disk (FileSystem.write (m := StateM σ) path content state).2)

/-! ### A disk alone -/

theorem DiskM.change_snd (operation : Disk → Except FileError Disk) (disk : Disk) :
    (DiskM.change operation disk).2 = disk ∨
      operation disk = .ok (DiskM.change operation disk).2 := by
  cases ran : operation disk with
  | error error =>
      rw [DiskM.change_error ran]
      exact Or.inl rfl
  | ok after =>
      rw [DiskM.change_ok ran]
      exact Or.inr rfl

instance : DiskState Disk where
  disk := id
  read _ _ := rfl
  entries _ _ := rfl
  isFile _ _ := rfl
  isDirectory _ _ := rfl
  listed := by
    intro path disk items listed
    change (disk.listDirectory path).map _ = _ at listed
    cases found : disk.listDirectory path with
    | error error =>
        rw [found] at listed
        cases listed
    | ok names =>
        rw [found] at listed
        cases listed
        refine ⟨names, found, fun name member => ?_⟩
        obtain ⟨other, listed, same⟩ := List.mem_map.mp member
        cases same
        exact listed
  hasFile _ _ := id
  makeDirectory path disk := DiskM.change_snd (·.makeDirectory path) disk
  remove path disk := DiskM.change_snd (·.removeFile path) disk
  write path content disk :=
    (DiskM.change_snd (·.writeFile path content) disk).imp_right fun written =>
      ⟨content, .refl content, written⟩
  written path content disk done := DiskM.change_iff.mp (Prod.ext done rfl)

/-! ### A machine -/

namespace MachineM

theorem ask_disk {α : Type} (operation : Disk → Except FileError α) (machine : Machine) :
    (ask operation machine).2.disk = machine.disk := by
  rw [ask, bind_apply]
  cases (fault? machine).1 <;> rfl

theorem check_disk (operation : Disk → Bool) (machine : Machine) :
    (check operation machine).2.disk = machine.disk := by
  rw [check, bind_apply]
  cases (fault? machine).1 <;> rfl

/-- A check that is not answered finds nothing. -/
theorem check_holds {operation : Disk → Bool} {machine : Machine}
    (found : (check operation machine).1 = true) : operation machine.disk = true := by
  rw [check, bind_apply] at found
  cases faulty : (fault? machine).1 with
  | none =>
      rw [faulty] at found
      exact found
  | some fault =>
      rw [faulty] at found
      cases found

/-- The operation is not begun, or it is done as a whole or in part. -/
theorem change_disk (whole : Disk → Except FileError Disk)
    (part : Nat → Disk → Except FileError Disk) (machine : Machine) :
    (change whole part machine).2.disk = machine.disk ∨
      whole machine.disk = .ok (change whole part machine).2.disk ∨
      ∃ progress, part progress machine.disk = .ok (change whole part machine).2.disk := by
  rw [change, bind_apply]
  rcases (fault? machine).1 with _ | ⟨error, _ | progress⟩
  · exact (DiskM.change_snd whole machine.disk).imp_right Or.inl
  · exact Or.inl rfl
  · exact (DiskM.change_snd (part progress) machine.disk).imp_right fun changed =>
      Or.inr ⟨progress, changed⟩

/-- An operation that succeeds is done as a whole. -/
theorem change_ok {whole : Disk → Except FileError Disk} {part : Nat → Disk → Except FileError Disk}
    {machine : Machine} (done : (change whole part machine).1 = .ok ()) :
    whole machine.disk = .ok (change whole part machine).2.disk := by
  rw [change, bind_apply] at done ⊢
  generalize (fault? machine).1 = fault? at done ⊢
  rcases fault? with _ | ⟨error, _ | progress⟩
  · exact DiskM.change_iff.mp (Prod.ext done rfl)
  · cases done
  · change Except.bind (DiskM.change (part progress) machine.disk).1 _ = _ at done
    cases ran : (DiskM.change (part progress) machine.disk).1 with
    | error own =>
        rw [ran] at done
        cases done
    | ok value =>
        rw [ran] at done
        cases done

theorem entries_disk (path : Path) (machine : Machine) :
    (entries path machine).2.disk = machine.disk := by
  rw [entries, bind_apply]
  rcases (fault? machine).1 with _ | ⟨error, _ | count⟩ <;> rfl

theorem entries_listed {path : Path} {machine : Machine}
    {items : List (Except FileError EntryName)} (listed : (entries path machine).1 = .ok items) :
    ∃ whole, (FileSystem.entries (m := DiskM) path machine.disk).1 = .ok whole ∧
      ∀ name, .ok name ∈ items → .ok name ∈ whole := by
  rw [entries, bind_apply] at listed
  generalize (fault? machine).1 = fault? at listed
  rcases fault? with _ | ⟨error, _ | count⟩
  · exact ⟨items, listed, fun _ => id⟩
  · cases listed
  · change (FileSystem.entries (m := DiskM) path machine.disk).1.map _ = _ at listed
    cases found : (FileSystem.entries (m := DiskM) path machine.disk).1 with
    | error own =>
        rw [found] at listed
        cases listed
    | ok whole =>
        rw [found] at listed
        cases listed
        refine ⟨whole, rfl, fun name member => ?_⟩
        rcases List.mem_append.mp member with kept | last
        · exact List.mem_of_mem_take kept
        · cases List.mem_singleton.mp last

end MachineM

instance : DiskState Machine where
  disk := Machine.disk
  read path machine := MachineM.ask_disk _ machine
  entries path machine := MachineM.entries_disk path machine
  isFile path machine := MachineM.check_disk _ machine
  isDirectory path machine := MachineM.check_disk _ machine
  listed := by
    intro path machine items listed
    obtain ⟨whole, found, among⟩ := MachineM.entries_listed listed
    obtain ⟨names, listed, within⟩ := DiskState.listed path machine.disk whole found
    exact ⟨names, listed, fun name member => within name (among name member)⟩
  hasFile path machine := MachineM.check_holds
  makeDirectory path machine := by
    rcases MachineM.change_disk (·.makeDirectory path) (fun _ => (·.makeDirectory path)) machine with
      same | done | ⟨_, done⟩
    · exact Or.inl same
    · exact Or.inr done
    · exact Or.inr done
  remove path machine := by
    rcases MachineM.change_disk (·.removeFile path) (fun _ => (·.removeFile path)) machine with
      same | done | ⟨_, done⟩
    · exact Or.inl same
    · exact Or.inr done
    · exact Or.inr done
  write path content machine := by
    rcases MachineM.change_disk (·.writeFile path content)
        (fun count => (·.writeFile path (content.extract 0 count))) machine with
      same | done | ⟨count, done⟩
    · exact Or.inl same
    · exact Or.inr ⟨content, .refl content, done⟩
    · exact Or.inr ⟨_, begins_extract content count, done⟩
  written path content machine := MachineM.change_ok

end GuestGlue
