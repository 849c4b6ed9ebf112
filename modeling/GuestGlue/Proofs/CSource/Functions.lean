/-
Functions of C as tokens: their heads, and a declared function with a second one whose
body calls it or some other function.  Reading the tokens of such a text gives it back.
A name in a body stands for a parameter if one has it, and for a name of the file
otherwise.
-/

import GuestGlue.Proofs.CSource.Tokens
import GuestGlue.Proofs.Text.Pieces
import Mathlib.Data.List.Nodup

namespace GuestGlue.CSource

/-! ### Lists in brackets -/

def listTokens {α : Type} (spelled : α → List Token) (items : List α) : List Token :=
  [Token.mark ','].intercalate (items.map spelled) ++ [.mark ')']

/-- The items up to the bracket that closes their list, and what follows it. -/
def readList {α : Type} (item? : List Token → Option α) (text : List Token) :
    Option (List α × List Token) := do
  let inside := text.takeWhile (· ≠ .mark ')')
  let items ← (if inside = [] then [] else inside.splitOn (.mark ',')).mapM item?
  let rest ← (text.dropWhile (· ≠ .mark ')')).dropPrefix? [.mark ')']
  some (items, rest)

theorem mapM_map_readBack {α : Type} {item? : List Token → Option α} {spelled : α → List Token}
    (readBack : ∀ item, item? (spelled item) = some item) (items : List α) :
    (items.map spelled).mapM item? = some items := by
  induction items with
  | nil => rfl
  | cons item rest ih => simp [readBack, ih]

theorem readList_listTokens {α : Type} {item? : List Token → Option α}
    {spelled : α → List Token} (readBack : ∀ item, item? (spelled item) = some item)
    (nonempty : ∀ item, spelled item ≠ [])
    (unmarked : ∀ item character, Token.mark character ∉ spelled item)
    (items : List α) (rest : List Token) :
    readList item? (listTokens spelled items ++ rest) = some (items, rest) := by
  have unclosed : Token.mark ')' ∉ [Token.mark ','].intercalate (items.map spelled) :=
    Text.notMem_intercalate (by decide)
      (List.forall_mem_map.mpr fun item _ => unmarked item ')')
  have split : (if [Token.mark ','].intercalate (items.map spelled) = [] then []
      else ([Token.mark ','].intercalate (items.map spelled)).splitOn (.mark ',')) =
        items.map spelled := by
    cases items with
    | nil => rfl
    | cons first more =>
        have occupied : [Token.mark ','].intercalate ((first :: more).map spelled) ≠ [] := by
          cases more <;> simp [List.intercalate_cons_cons, nonempty]
        rw [if_neg occupied]
        exact List.splitOn_intercalate _
          (List.forall_mem_map.mpr fun item _ => unmarked item ',') (List.cons_ne_nil _ _)
  rw [readList, listTokens, List.append_assoc, List.singleton_append,
    Text.takeWhile_append_cons unclosed, Text.dropWhile_append_cons unclosed]
  have closed : (Token.mark ')' :: rest).dropPrefix? [.mark ')'] = some rest :=
    List.dropPrefix?_append_of_beq rest (beq_self_eq_true [Token.mark ')'])
  simp [split, mapM_map_readBack readBack, closed]

/-! ### Heads and calls -/

structure CParameter where
  type : String
  name : String
  deriving DecidableEq, Repr

structure Prototype where
  returned : String
  name : String
  parameters : List CParameter
  deriving DecidableEq, Repr

structure Call where
  callee : String
  arguments : List String
  deriving DecidableEq, Repr

def CParameter.tokens (parameter : CParameter) : List Token :=
  [.word parameter.type, .word parameter.name]

def CParameter.read? : List Token → Option CParameter
  | [.word type, .word name] => some ⟨type, name⟩
  | _ => none

theorem CParameter.read?_tokens (parameter : CParameter) :
    read? parameter.tokens = some parameter :=
  rfl

def Prototype.tokens (prototype : Prototype) : List Token :=
  .word prototype.returned :: .word prototype.name :: .mark '(' ::
    listTokens CParameter.tokens prototype.parameters

def Prototype.read? : List Token → Option (Prototype × List Token)
  | .word returned :: .word name :: .mark '(' :: rest =>
      (readList CParameter.read? rest).map fun (parameters, rest) =>
        (⟨returned, name, parameters⟩, rest)
  | _ => none

theorem Prototype.read?_tokens (prototype : Prototype) (rest : List Token) :
    read? (prototype.tokens ++ rest) = some (prototype, rest) := by
  have read : readList CParameter.read?
      (listTokens CParameter.tokens prototype.parameters ++ rest) =
        some (prototype.parameters, rest) :=
    readList_listTokens CParameter.read?_tokens (by simp [CParameter.tokens])
      (by simp [CParameter.tokens]) _ _
  simp only [tokens, List.cons_append, read?, read, Option.map_some]

def nameTokens (name : String) : List Token :=
  [.word name]

def readName? : List Token → Option String
  | [.word name] => some name
  | _ => none

theorem readName?_nameTokens (name : String) : readName? (nameTokens name) = some name :=
  rfl

def Call.tokens (call : Call) : List Token :=
  .word call.callee :: .mark '(' :: listTokens nameTokens call.arguments

def Call.read? : List Token → Option (Call × List Token)
  | .word callee :: .mark '(' :: rest =>
      (readList readName? rest).map fun (arguments, rest) => (⟨callee, arguments⟩, rest)
  | _ => none

theorem Call.read?_tokens (call : Call) (rest : List Token) :
    read? (call.tokens ++ rest) = some (call, rest) := by
  have read : readList readName? (listTokens nameTokens call.arguments ++ rest) =
      some (call.arguments, rest) :=
    readList_listTokens readName?_nameTokens (by simp [nameTokens]) (by simp [nameTokens]) _ _
  simp only [tokens, List.cons_append, read?, read, Option.map_some]

/-! ### Forwarding functions -/

structure Forwarding where
  declared : Prototype
  defined : Prototype
  returns : Bool
  call : Call
  deriving DecidableEq, Repr

namespace Forwarding

def importTokens : List Token :=
  [.word "IMPORT", .mark '(', .literal, .mark ',', .literal, .mark ')', .word "extern"]

def returnTokens (returns : Bool) : List Token :=
  if returns then [.word "return"] else []

def tokens (forwarding : Forwarding) : List Token :=
  importTokens ++ (forwarding.declared.tokens ++ ([.mark ';'] ++
    (forwarding.defined.tokens ++ ([.mark '\x7b'] ++
      (returnTokens forwarding.returns ++ (forwarding.call.tokens ++
        [.mark ';', .mark '\x7d']))))))

def readReturn (text : List Token) : Bool × List Token :=
  match text.dropPrefix? (returnTokens true) with
  | some rest => (true, rest)
  | none => (false, text)

def read? (text : List Token) : Option Forwarding := do
  let text ← text.dropPrefix? importTokens
  let (declared, text) ← Prototype.read? text
  let text ← text.dropPrefix? [.mark ';']
  let (defined, text) ← Prototype.read? text
  let text ← text.dropPrefix? [.mark '\x7b']
  let (returns, text) := readReturn text
  let (call, text) ← Call.read? text
  if text = [.mark ';', .mark '\x7d'] then some ⟨declared, defined, returns, call⟩ else none

theorem readReturn_tokens {call : Call} (named : call.callee ≠ "return") (returns : Bool)
    (rest : List Token) :
    readReturn (returnTokens returns ++ (call.tokens ++ rest)) =
      (returns, call.tokens ++ rest) := by
  cases returns with
  | true => rfl
  | false => simp [readReturn, returnTokens, Call.tokens, List.dropPrefix?, named]

theorem read?_tokens {forwarding : Forwarding} (named : forwarding.call.callee ≠ "return") :
    read? forwarding.tokens = some forwarding := by
  simp only [read?, tokens, List.dropPrefix?_append_of_beq _ (beq_self_eq_true _),
    Prototype.read?_tokens, readReturn_tokens named, Call.read?_tokens, bind, Option.bind_some,
    if_true]

end Forwarding

/-! ### Scopes -/

inductive Referent where
  | parameter (position : Nat)
  | global (name : String)
  deriving DecidableEq, Repr

def Prototype.resolve (prototype : Prototype) (name : String) : Referent :=
  let names := prototype.parameters.map (·.name)
  if name ∈ names then .parameter (names.idxOf name) else .global name

/-- The parameters are told apart, and the body hands them, in order, to the declared
function, which takes and returns the same types. -/
structure Forwarding.WellScoped (forwarding : Forwarding) : Prop where
  distinct : (forwarding.defined.parameters.map (·.name)).Nodup
  callee : forwarding.defined.resolve forwarding.call.callee = .global forwarding.declared.name
  arguments : forwarding.call.arguments.map forwarding.defined.resolve =
    (List.range forwarding.defined.parameters.length).map .parameter
  types : forwarding.declared.parameters.map (·.type) =
    forwarding.defined.parameters.map (·.type)
  returned : forwarding.declared.returned = forwarding.defined.returned

theorem Prototype.resolve_eq_global_iff {prototype : Prototype} {name : String} :
    prototype.resolve name = .global name ↔ name ∉ prototype.parameters.map (·.name) := by
  simp only [resolve]
  split
  · next member => exact iff_of_false nofun fun absent => absent member
  · next absent => exact iff_of_true rfl absent

theorem Prototype.resolve_parameters {prototype : Prototype}
    (distinct : (prototype.parameters.map (·.name)).Nodup) :
    (prototype.parameters.map (·.name)).map prototype.resolve =
      (List.range prototype.parameters.length).map .parameter := by
  have named : ∀ position (inside : position < (prototype.parameters.map (·.name)).length),
      prototype.resolve (prototype.parameters.map (·.name))[position] = .parameter position := by
    intro position inside
    rw [resolve, if_pos (List.getElem_mem inside), distinct.idxOf_getElem]
  refine List.ext_getElem (by simp) fun position inside _ => ?_
  rw [List.length_map] at inside
  simpa using named position inside

end GuestGlue.CSource
