/-
Diagnostics: problems with single bindings that do not stop a run.  A log keeps
the first diagnostics of a run and counts all of them, so extending a log by
another one is the same as reporting the other's history after its own.
-/

namespace GuestGlue

inductive Severity where
  | error
  | warning
  deriving DecidableEq, Repr

inductive Category where
  | type
  | shape
  | marker
  | symbol
  deriving DecidableEq, Repr

structure Code where
  number : UInt16
  deriving DecidableEq, Repr

namespace Code

def unsupportedReturnType : Code := ⟨100⟩
def unsupportedParameterType : Code := ⟨101⟩
def exportHasParameters : Code := ⟨200⟩
def conflictingMarkers : Code := ⟨300⟩
def invalidIdentifier : Code := ⟨400⟩
def duplicateSymbol : Code := ⟨401⟩
def fileNameCollision : Code := ⟨402⟩
def invalidFileName : Code := ⟨403⟩

def category (code : Code) : Category :=
  match code.number.toNat / 100 with
  | 1 => .type
  | 2 => .shape
  | 3 => .marker
  | _ => .symbol

def display (code : Code) : String :=
  s!"G{code.number.toNat}"

end Code

def Severity.keyword : Severity → String
  | .error => "error"
  | .warning => "warning"

def Category.keyword : Category → String
  | .type => "type"
  | .shape => "shape"
  | .marker => "marker"
  | .symbol => "symbol"

structure Diagnostic where
  code : Code
  severity : Severity
  category : Category
  message : String
  symbol : String
  deriving DecidableEq, Repr

namespace Diagnostic

def error (code : Code) (symbol message : String) : Diagnostic :=
  { code, severity := .error, category := code.category, message, symbol }

def isError (diagnostic : Diagnostic) : Bool :=
  diagnostic.severity = .error

def display (diagnostic : Diagnostic) : String :=
  diagnostic.code.display ++ " [" ++ diagnostic.category.keyword ++ "] " ++ diagnostic.message

end Diagnostic

/-! ### Logs -/

structure DiagnosticLog where
  entries : List Diagnostic
  totalErrors : Nat
  totalWarnings : Nat
  deriving DecidableEq, Repr

namespace DiagnosticLog

def capacity : Nat := 50

def empty : DiagnosticLog := ⟨[], 0, 0⟩

def hasErrors (log : DiagnosticLog) : Bool :=
  0 < log.totalErrors

def isEmpty (log : DiagnosticLog) : Bool :=
  log.totalErrors = 0 && log.totalWarnings = 0

def push (log : DiagnosticLog) (diagnostic : Diagnostic) : DiagnosticLog :=
  { entries :=
      if log.entries.length < capacity then log.entries ++ [diagnostic] else log.entries
    totalErrors := log.totalErrors + if diagnostic.isError then 1 else 0
    totalWarnings := log.totalWarnings + if diagnostic.isError then 0 else 1 }

def pushAll (log : DiagnosticLog) (diagnostics : List Diagnostic) : DiagnosticLog :=
  diagnostics.foldl push log

def ofHistory (history : List Diagnostic) : DiagnosticLog :=
  empty.pushAll history

def droppedErrors (log : DiagnosticLog) : Nat :=
  log.totalErrors - log.entries.countP (·.isError)

def droppedWarnings (log : DiagnosticLog) : Nat :=
  log.totalWarnings - log.entries.countP (!·.isError)

def extend (log other : DiagnosticLog) : DiagnosticLog :=
  let pushed := log.pushAll other.entries
  { pushed with
    totalErrors := pushed.totalErrors + other.droppedErrors
    totalWarnings := pushed.totalWarnings + other.droppedWarnings }

end DiagnosticLog

end GuestGlue
