/-
Steps from a description of a module to others.  Anywhere in it the members of an object
are put into another order, a member of a name that nobody asks for is added, or a member
that holds the default of its field is left out.  Whatever is reached by such steps can be
written, and what can be kept for later stays so.
-/

import GuestGlue.Proofs.Json.Description
import GuestGlue.Proofs.Json.Written
import Mathlib.Logic.Relation

namespace GuestGlue.Codec

open Json

/-! ### Roles -/

inductive Role where
  | plain
  | module
  | types
  | typeDef
  | methods
  | method
  | parameters
  | parameter
  | markers
  | marker

namespace Role

def fields : Role → List (String × Role)
  | .module =>
      [("name", .plain), ("file_name", .plain), ("references", .plain), ("types", .types)]
  | .typeDef => [("namespace", .plain), ("name", .plain), ("methods", .methods)]
  | .method =>
      [("name", .plain), ("is_static", .plain), ("parameters", .parameters),
        ("return_type", .plain), ("markers", .markers)]
  | .parameter => [("name", .plain), ("type", .plain)]
  | _ => []

def ofMember (role : Role) (key : Option String) : Role :=
  ((key.bind fun name => role.fields.lookup name)).getD .plain

def ofItem (role : Role) (index : Nat) : Role :=
  match role with
  | .types => .typeDef
  | .methods => .method
  | .parameters => .parameter
  | .markers => .marker
  | role => (role.fields[index]?.map Prod.snd).getD .plain

/-- The names that an object with these members is asked for; only an import has a module. -/
def Knows (role : Role) (members : List (Option String × Tree)) (name : String) : Prop :=
  match role with
  | .marker =>
      name = "kind" ∨ name = "entry_point" ∨
        name = "module" ∧ (some "kind", .string (some "import")) ∈ members
  | role => name ∈ role.fields.map Prod.fst

def defaults : Role → List (String × Tree)
  | .module => [("file_name", .null), ("references", .array []), ("types", .array [])]
  | .typeDef => [("namespace", .string (some "")), ("methods", .array [])]
  | .method =>
      [("is_static", .bool true), ("parameters", .array []),
        ("return_type", .string (some "System.Void")), ("markers", .array [])]
  | .marker => [("entry_point", .null)]
  | _ => []

end Role

/-! ### Rewriting -/

inductive Simple : Tree → Prop
  | string {content : String} : Simple (.string (some content))
  | bool {value : Bool} : Simple (.bool value)
  | null : Simple .null

inductive Rewrite : Role → Tree → Tree → Prop
  | permute {role : Role} {members changed : List (Option String × Tree)} :
      members.Perm changed → Rewrite role (.object members) (.object changed)
  | add {role : Role} {before after : List (Option String × Tree)} {name : String} {value : Tree} :
      ¬ role.Knows (before ++ after) name → Simple value →
        Rewrite role (.object (before ++ after)) (.object (before ++ (some name, value) :: after))
  | drop {role : Role} {before after : List (Option String × Tree)} {name : String} {value : Tree} :
      (name, value) ∈ role.defaults →
        Rewrite role (.object (before ++ (some name, value) :: after)) (.object (before ++ after))
  | member {role : Role} {before after : List (Option String × Tree)} {key : Option String}
      {value changed : Tree} : Rewrite (role.ofMember key) value changed →
        Rewrite role (.object (before ++ (key, value) :: after))
          (.object (before ++ (key, changed) :: after))
  | item {role : Role} {before after : List Tree} {value changed : Tree} :
      Rewrite (role.ofItem before.length) value changed →
        Rewrite role (.array (before ++ value :: after)) (.array (before ++ changed :: after))

namespace Rewrite

theorem object_cases {role : Role} {members : List (Option String × Tree)} {changed : Tree}
    (rewrite : Rewrite role (.object members) changed) : ∃ others, changed = .object others := by
  cases rewrite with
  | permute => exact ⟨_, rfl⟩
  | add => exact ⟨_, rfl⟩
  | drop => exact ⟨_, rfl⟩
  | member => exact ⟨_, rfl⟩

end Rewrite

structure Hereditary (holds : Nat → Tree → Prop) (room : Nat → Prop) (key : Option String → Prop) :
    Prop where
  array : ∀ {depth items}, holds depth (.array items) ↔
    room depth ∧ ∀ item ∈ items, holds (depth + 1) item
  object : ∀ {depth members}, holds depth (.object members) ↔
    room depth ∧ ∀ member ∈ members, key member.1 ∧ holds (depth + 1) member.2
  named : ∀ name, key (some name)
  simple : ∀ {depth value}, Simple value → holds depth value

theorem Hereditary.rewrite {holds : Nat → Tree → Prop} {room : Nat → Prop}
    {key : Option String → Prop} (hereditary : Hereditary holds room key) {role : Role}
    {tree changed : Tree} (rewrite : Rewrite role tree changed) (depth : Nat)
    (held : holds depth tree) : holds depth changed := by
  induction rewrite generalizing depth with
  | permute permuted =>
      rw [hereditary.object] at held ⊢
      exact ⟨held.1, fun member listed => held.2 member (permuted.mem_iff.mpr listed)⟩
  | add _ simple =>
      rw [hereditary.object, List.forall_mem_append] at held ⊢
      obtain ⟨room, before, after⟩ := held
      refine ⟨room, before, List.forall_mem_cons.mpr ⟨⟨?_, ?_⟩, after⟩⟩
      · exact hereditary.named _
      · exact hereditary.simple simple
  | drop _ =>
      rw [hereditary.object, List.forall_mem_append] at held ⊢
      obtain ⟨room, before, after⟩ := held
      exact ⟨room, before, (List.forall_mem_cons.mp after).2⟩
  | member _ ih =>
      rw [hereditary.object, List.forall_mem_append, List.forall_mem_cons] at held ⊢
      obtain ⟨room, before, ⟨key, value⟩, after⟩ := held
      exact ⟨room, before, ⟨key, ih _ value⟩, after⟩
  | item _ ih =>
      rw [hereditary.array, List.forall_mem_append, List.forall_mem_cons] at held ⊢
      obtain ⟨room, before, value, after⟩ := held
      exact ⟨room, before, ih _ value, after⟩

theorem hereditary_readable :
    Hereditary (fun depth tree => tree.Readable depth) (fun depth => depth < depthLimit)
      (fun key => key.isSome = true) where
  array := by
    intro depth items
    refine ⟨fun readable => ?_, fun both => .array both.1 both.2⟩
    cases readable with
    | array shallow readable => exact ⟨shallow, readable⟩
  object := by
    intro depth members
    refine ⟨fun readable => ?_, fun both => .object both.1 (fun member listed => ?_)
      fun member listed => ?_⟩
    · cases readable with
      | object shallow keys readable =>
          exact ⟨shallow, fun member listed => ⟨keys member listed, readable member listed⟩⟩
    · exact (both.2 member listed).1
    · exact (both.2 member listed).2
  named := fun _ => rfl
  simple := by
    intro depth value simple
    cases simple with
    | string => exact .string
    | bool => exact .bool
    | null => exact .null

/-! ### Texts of rewritten trees -/

def Spelled (token : Token) : Prop :=
  ∃ word, token.Word word

theorem spelled_mark {token : Token} (character : Char)
    (scanned : scanToken character [] = (token, [])) (sound : token ≠ .fault) : Spelled token :=
  ⟨[character], scanned, sound⟩

theorem spelled_tokensOfItems (items : List Tree) :
    (∀ token ∈ tokensOfItems items, Spelled token) ↔
      ∀ item ∈ items, ∀ token ∈ item.tokens, Spelled token := by
  have comma : Spelled .comma := spelled_mark ',' rfl (by simp)
  have close : Spelled .closeArray := spelled_mark ']' rfl (by simp)
  induction items with
  | nil => simp [tokensOfItems, close]
  | cons item items ih =>
      simp only [tokensOfItems, List.forall_mem_cons, List.forall_mem_append, ih, comma, true_and]

theorem spelled_tokensOfMembers (members : List (Option String × Tree)) :
    (∀ token ∈ tokensOfMembers members, Spelled token) ↔
      ∀ member ∈ members, Spelled (.string member.1) ∧ ∀ token ∈ member.2.tokens, Spelled token := by
  have comma : Spelled .comma := spelled_mark ',' rfl (by simp)
  have close : Spelled .closeObject := spelled_mark '}' rfl (by simp)
  have colon : Spelled .colon := spelled_mark ':' rfl (by simp)
  induction members with
  | nil => simp [tokensOfMembers, close]
  | cons member members ih =>
      obtain ⟨key, value⟩ := member
      simp only [tokensOfMembers, List.forall_mem_cons, List.forall_mem_append, ih, comma, colon,
        true_and, and_assoc]

theorem hereditary_spelled :
    Hereditary (fun _ tree => ∀ token ∈ tree.tokens, Spelled token) (fun _ => True)
      (fun key => Spelled (.string key)) where
  array := by
    intro depth items
    have start : Spelled .openArray := spelled_mark '[' rfl (by simp)
    have close : Spelled .closeArray := spelled_mark ']' rfl (by simp)
    rw [true_and]
    cases items with
    | nil => simp [Tree.tokens, start, close]
    | cons item items =>
        simp only [Tree.tokens, List.forall_mem_cons, List.forall_mem_append, start, true_and,
          spelled_tokensOfItems]
  object := by
    intro depth members
    have start : Spelled .openObject := spelled_mark '{' rfl (by simp)
    have close : Spelled .closeObject := spelled_mark '}' rfl (by simp)
    have colon : Spelled .colon := spelled_mark ':' rfl (by simp)
    rw [true_and]
    cases members with
    | nil => simp [Tree.tokens, start, close]
    | cons member members =>
        obtain ⟨key, value⟩ := member
        simp only [Tree.tokens, List.forall_mem_cons, List.forall_mem_append, start, colon,
          true_and, spelled_tokensOfMembers, and_assoc]
  named := fun name => ⟨_, word_quoted name⟩
  simple := by
    intro depth value simple
    cases simple with
    | @string content => exact List.forall_mem_singleton.mpr ⟨_, word_quoted content⟩
    | @bool value => exact List.forall_mem_singleton.mpr ⟨_, word_literal value⟩
    | null => exact List.forall_mem_singleton.mpr ⟨['n', 'u', 'l', 'l'], rfl, by simp⟩

theorem Rewrite.exists_written {role : Role} {tree changed : Tree} (rewrite : Rewrite role tree changed)
    {text : String} (written : tree.WrittenAs text) : ∃ other, changed.WrittenAs other := by
  have spelled : ∀ token ∈ tree.tokens, Spelled token := Laid.words written
  obtain ⟨other, laid⟩ := exists_laid (hereditary_spelled.rewrite rewrite 0 spelled)
  refine ⟨String.ofList other, ?_⟩
  rw [Tree.WrittenAs, String.toList_ofList]
  exact laid

theorem exists_written_of_rewrites {role : Role} {tree changed : Tree}
    (rewrites : Relation.ReflTransGen (Rewrite role) tree changed) {text : String}
    (written : tree.WrittenAs text) : ∃ other, changed.WrittenAs other := by
  induction rewrites with
  | refl => exact ⟨text, written⟩
  | tail _ rewrite ih =>
      obtain ⟨between, written⟩ := ih
      exact rewrite.exists_written written

end GuestGlue.Codec
