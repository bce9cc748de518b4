import ConfigBinding.Decimal.Digits

/-!
# Log levels

The five levels of a log, from the most to the least severe. A level is read from its name in any
case, or from its place in the list, counted from 1.
-/

set_option autoImplicit false

namespace ConfigBinding

/-- A level of a log. -/
inductive LogLevel where
  | error
  | warn
  | info
  | debug
  | trace
  deriving DecidableEq, Repr

namespace LogLevel

/-- Every level, from the most to the least severe. -/
def all : List LogLevel :=
  [error, warn, info, debug, trace]

/-- The name of a level, in lower case. -/
def name : LogLevel → String
  | error => "error"
  | warn => "warn"
  | info => "info"
  | debug => "debug"
  | trace => "trace"

/-- The name of a level in diagnostics. -/
def title : LogLevel → String
  | error => "Error"
  | warn => "Warn"
  | info => "Info"
  | debug => "Debug"
  | trace => "Trace"

/-- The place of a level, counted from 1. -/
def rank (l : LogLevel) : Nat :=
  l.ctorIdx + 1

/-- The number that a text of digits, with an optional plus sign, stands for. -/
def number? (cs : List Char) : Option Nat :=
  let ds := match cs with
    | '+' :: rest => rest
    | _ => cs
  if ds.isEmpty || !ds.all Char.isDigit then none else some (Decimal.value ds)

/-- Reads a level. -/
def read? (s : String) : Option LogLevel :=
  match number? s.toList with
  | some n => all.find? (·.rank == n)
  | none => all.find? (·.name.toList == s.toList.map Char.toLower)

/-- What is expected where no level is read. -/
def expectation : String :=
  "error parsing level: expected one of \"error\", \"warn\", \"info\", \"debug\", \"trace\", " ++
    "or a number 1-5"

end LogLevel

end ConfigBinding
