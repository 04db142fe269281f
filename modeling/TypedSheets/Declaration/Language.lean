import TypedSheets.Schema.Table
import TypedSheets.Text.Blank
import TypedSheets.Text.Lowercase

/-!
# Target languages

The languages that declarations are written in, and how each spells a field and an enumeration. In
one of them an enumeration is nested in the class of its entity; in the other there are no nested
types, so the name of the enumeration starts with that of the entity.
-/

namespace TypedSheets

open Text

/-- A language that declarations are written in. -/
inductive Language
  | csharp
  | rust
  deriving DecidableEq, Repr

namespace Language

/-- The name of a language in a configuration. -/
def name : Language → String
  | .csharp => "csharp"
  | .rust => "rust"

/-- The extension of declaration files. -/
def extension : Language → String
  | .csharp => "cs"
  | .rust => "rs"

/-- The language that a user names, or the name as it was understood. -/
def parse (text : String) : Except String Language :=
  let name := onChars (fun s => lowercase (trim s)) text
  if name = "csharp" ∨ name = "cs" ∨ name = "c#" then .ok .csharp
  else if name = "rust" ∨ name = "rs" then .ok .rust
  else .error name

/-- What is said of a name that no language has. -/
def unknownMessage (name : String) : String :=
  "Unknown language '" ++ name ++ "'"

/-- The type declared for the enumeration in a column. -/
def enumName (l : Language) (entity column : String) : String :=
  match l with
  | .csharp => "enum_" ++ column
  | .rust => entity ++ "_" ++ column

/-- The type of the field for a column. -/
def fieldType (l : Language) (entity : String) (c : Column) : String :=
  match l, c.type with
  | .csharp, .int => "int"
  | .csharp, .bool => "bool"
  | .csharp, .float => "float"
  | .csharp, .string => "string"
  | .rust, .int => "i64"
  | .rust, .bool => "bool"
  | .rust, .float => "f64"
  | .rust, .string => "String"
  | l, .enum _ => l.enumName entity c.name

/-- The line that declares the field for a column. -/
def fieldLine (l : Language) (entity : String) (c : Column) : String :=
  match l with
  | .csharp => "\tpublic " ++ l.fieldType entity c ++ " " ++ c.name ++ ";"
  | .rust => "    pub " ++ c.name ++ ": " ++ l.fieldType entity c ++ ","

/-- The declaration of the enumeration in a column, after an empty line. -/
def enumBlock (l : Language) (entity column : String) (domain : List String) : String :=
  match l with
  | .csharp =>
    "\n\tpublic enum " ++ l.enumName entity column ++ "\n\t\x7b\n" ++
      ",\n".intercalate (domain.map ("\t\t" ++ ·)) ++ "\n\t\x7d\n"
  | .rust =>
    "\n#[allow(non_camel_case_types)]\n" ++
      "#[derive(Debug, Clone, Copy, Default, PartialEq, Eq)]\n" ++
      "pub enum " ++ l.enumName entity column ++ " \x7b\n" ++
      (if domain = [] then "" else "    #[default]\n") ++
      String.join (domain.map fun value => "    " ++ value ++ ",\n") ++ "\x7d\n"

end Language

end TypedSheets
