/-
Values that are read back.  A reader reads a value back if it finds the value in every
node that shows the written form; lists and records are read back if their parts are.
-/

import GuestGlue.Json.Record
import GuestGlue.Proofs.Json.Written
import Mathlib.Data.List.Forall2

namespace GuestGlue.Json

variable {α β ε : Type}

def Reads (decode : Decoder α) (written : Value) (value : α) : Prop :=
  ∀ depth node, Node.Shows depth written node → decode node = .ok value

theorem Reads.decodeText_written {decode : Decoder α} {written : Value} {value : α}
    (reads : Reads decode written value) {text : String} (holds : written.tree.WrittenAs text) :
    decodeText decode text = .ok value := by
  obtain ⟨shows, noMore⟩ := holds.read
  have decoded := reads 0 _ (.of_holds written shows)
  simp only [decodeText, Document.decode, decoded, noMore, Bool.false_eq_true, if_false]
  rfl

theorem Reads.decodeText_pretty {decode : Decoder α} {written : Value} {value : α}
    (reads : Reads decode written value) : decodeText decode written.pretty = .ok value :=
  reads.decodeText_written (writtenAs_pretty written)

theorem Reads.decodeText_compact {decode : Decoder α} {written : Value} {value : α}
    (reads : Reads decode written value) : decodeText decode written.compact = .ok value :=
  reads.decodeText_written (writtenAs_compact written)

theorem Reads.map {decode : Decoder α} {written : Value} {value : α}
    (reads : Reads decode written value) (wrap : α → β) :
    Reads (fun node => (decode node).map wrap) written (wrap value) := by
  intro depth node shows
  simp only [reads depth node shows]
  rfl

theorem reads_string (value : String) : Reads decodeString (.string value) value := by
  intro depth node shows
  cases shows
  rfl

theorem reads_bool (value : Bool) : Reads decodeBool (.bool value) value := by
  intro depth node shows
  cases shows
  rfl

theorem reads_number {limit value : Nat} (expected : String) (small : value < limit)
    (fits : value < wordLimit) : Reads (decodeNat limit expected) (.number value) value := by
  intro depth node shows
  cases shows
  simp only [decodeNat, value_decimal fits, if_pos small]

theorem reads_enum {cases : List (String × α)} {name : String} {value : α}
    (named : cases.lookup name = some value) (listed : name ∈ cases.map Prod.fst) :
    Reads (decodeEnum cases) (.string name) value := by
  intro depth node shows
  cases shows
  simp only [decodeEnum, decodeName, if_pos listed, named]

theorem reads_list {decode : Decoder α} (encode : α → Value)
    (reads : ∀ value, Reads decode (encode value) value) (values : List α) :
    Reads (decodeList decode) (.array (values.map encode)) values := by
  intro depth node shows
  cases shows with
  | @array _ _ _ items shows =>
      rw [decodeList]
      induction values generalizing items with
      | nil =>
          cases shows
          rfl
      | cons value values ih =>
          cases shows with
          | cons first others =>
              rw [Items.decode, reads value _ _ first]
              dsimp only
              rw [ih others]

/-! ### Records -/

def ReadsMember (fields : List (RecordField ε)) (member : String × Value) (entry : ε) : Prop :=
  ∃ field, fields.find? (fun field => field.name = member.1) = some field ∧
    Reads field.decode member.2 entry

theorem Members.entries_of_show {fields : List (RecordField ε)} {written : List (String × Value)}
    {entries : List ε} (reads : List.Forall₂ (ReadsMember fields) written entries)
    {depth : Nat} {members : Members} (shows : Members.Show depth written members)
    {seen : List String} (distinct : (written.map Prod.fst).Nodup)
    (fresh : ∀ key ∈ written.map Prod.fst, key ∉ seen) :
    ∃ stop, members.entries fields seen = .ok (entries, stop) := by
  induction reads generalizing members seen with
  | nil =>
      cases shows
      exact ⟨_, rfl⟩
  | @cons member entry written entries read _ ih =>
      obtain ⟨field, found, reads⟩ := read
      obtain ⟨apart, distinctRest⟩ := List.nodup_cons.mp distinct
      obtain ⟨unseen, freshRest⟩ := List.forall_mem_cons.mp fresh
      cases shows with
      | @cons _ key value _ _ _ node rest first others =>
          have freshAfter : ∀ other ∈ written.map Prod.fst, other ∉ key :: seen := by
            intro other listed again
            rcases List.mem_cons.mp again with rfl | before
            · exact apart listed
            · exact freshRest other listed before
          obtain ⟨stop, readRest⟩ := ih others distinctRest freshAfter
          refine ⟨stop, ?_⟩
          rw [Members.entries]
          simp only [found, if_neg unseen, reads _ _ first, readRest]

theorem Record.reads {record : Record ε α} {reading : Reading} {written : List (String × Value)}
    {entries : List ε} {value : α}
    (members : List.Forall₂ (ReadsMember record.fields) written entries)
    (distinct : (written.map Prod.fst).Nodup) (made : record.make entries = .ok value) :
    Reads (record.decode reading) (.object written) value := by
  intro depth node shows
  cases shows with
  | object shows =>
      obtain ⟨stop, read⟩ := Members.entries_of_show members shows distinct fun _ _ => List.not_mem_nil
      rw [Record.decode, read]
      simp only [Record.finish, made]

end GuestGlue.Json
