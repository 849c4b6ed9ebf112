/-
Locals, globals, tables and memories.
-/

import GuestGlue.Wasm.Code.Checker

namespace GuestGlue.Wasm.Code

/-! ### Locals and globals -/

def localEntry : Checker (Nat × ValueType) := do
  let index ← index
  let type ← demand (← read).locals[index]?
  return (index, type)

/-- A local without a default value can be read once it has been given one. -/
def localGet : Checker Unit := do
  let (index, type) ← localEntry
  check (type.hasDefault || (← get).assigned.contains index)
  push type

def localSet : Checker ValueType := do
  let (index, type) ← localEntry
  pop type
  if !type.hasDefault then
    modify fun state => { state with assigned := index :: state.assigned }
  return type

def globalGet : Checker Unit := do
  push (← global).value

def globalSet : Checker Unit := do
  let global ← global
  check global.isMutable
  pop global.value

/-! ### Tables -/

def commonAddress (first second : Limits) : ValueType :=
  if first.wide && second.wide then .i64 else .i32

def tableGet : Checker Unit := do
  let table ← table
  pop table.limits.address
  push (.reference table.element)

def tableSet : Checker Unit := do
  let table ← table
  popAll [table.limits.address, .reference table.element]

def tableInit : Checker Unit := do
  let segment ← elementSegment
  let table ← table
  checkBelow (.reference segment) (.reference table.element)
  popAll [table.limits.address, .i32, .i32]

def tableCopy : Checker Unit := do
  let target ← table
  let source ← table
  checkBelow (.reference source.element) (.reference target.element)
  popAll
    [target.limits.address, source.limits.address, commonAddress target.limits source.limits]

def tableGrow : Checker Unit := do
  let table ← table
  popAll [.reference table.element, table.limits.address]
  push table.limits.address

def tableSize : Checker Unit := do
  push (← table).limits.address

def tableFill : Checker Unit := do
  let table ← table
  popAll [table.limits.address, .reference table.element, table.limits.address]

/-! ### Memories -/

def memorySize : Checker Unit := do
  push (← memory).address

def memoryGrow : Checker Unit := do
  let limits ← memory
  pop limits.address
  push limits.address

def memoryInit : Checker Unit := do
  dataSegment
  let limits ← memory
  popAll [limits.address, .i32, .i32]

def memoryCopy : Checker Unit := do
  let target ← memory
  let source ← memory
  popAll [target.address, source.address, commonAddress target source]

def memoryFill : Checker Unit := do
  let limits ← memory
  popAll [limits.address, .i32, limits.address]

end GuestGlue.Wasm.Code
