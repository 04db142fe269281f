import TypedSheets.Text.Hex

/-!
# Log lines

A log line is a JSON object on a line of its own: the event, the severity, then the fields in order
of their keys, fields of one key in the order given. All values are strings. `line` writes a log
line with its line feed, which is the only one, since control characters are escaped.
-/

namespace TypedSheets.Log

open TypedSheets.Text

/-- How severe the event of a log line is. -/
inductive Severity
  | trace
  | info
  | warn
  | error
  | fatal
  deriving DecidableEq, Repr

namespace Severity

/-- The severities there are. -/
def all : List Severity := [.trace, .info, .warn, .error, .fatal]

/-- The name of a severity in a log line. -/
def name : Severity → String
  | .trace => "TRACE"
  | .info => "INFO"
  | .warn => "WARN"
  | .error => "ERROR"
  | .fatal => "FATAL"

/-- The severity with a name. -/
def ofName? (name : String) : Option Severity :=
  all.find? (·.name == name)

/-- Severities in ascending order. -/
def rank : Severity → Nat
  | .trace => 0
  | .info => 1
  | .warn => 2
  | .error => 3
  | .fatal => 4

end Severity

/-- Control characters, those above ASCII included. -/
def isControl (c : Char) : Bool :=
  c.toNat < 0x20 || (0x7F ≤ c.toNat && c.toNat < 0xA0)

/-- A character inside a string: quote, backslash and control characters are escaped. -/
def escape (c : Char) : List Char :=
  if c = '"' then ['\\', '"']
  else if c = '\\' then ['\\', '\\']
  else if c = '\n' then ['\\', 'n']
  else if c = '\r' then ['\\', 'r']
  else if c = '\t' then ['\\', 't']
  else if isControl c then '\\' :: 'u' :: hex4 c.toNat
  else [c]

/-- A string between quotes. -/
def quote (s : String) : List Char :=
  '"' :: (s.toList.flatMap escape ++ ['"'])

/-- The fields in order of their keys. -/
def sortFields (fields : List (String × String)) : List (String × String) :=
  fields.mergeSort fun a b => decide (¬ b.1 < a.1)

/-- A member of the object, with the comma before it. -/
def member (field : String × String) : List Char :=
  ',' :: (quote field.1 ++ ':' :: quote field.2)

/-- The characters of a log line. -/
def lineChars (severity : Severity) (event : String) (fields : List (String × String)) :
    List Char :=
  '\x7b' :: (quote "event" ++ ':' :: quote event ++ member ("severity", severity.name) ++
    (sortFields fields).flatMap member ++ ['\x7d', '\n'])

/-- A log line with its line feed. -/
def line (severity : Severity) (event : String) (fields : List (String × String)) : String :=
  String.ofList (lineChars severity event fields)

end TypedSheets.Log
