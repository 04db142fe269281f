/-!
# Identifiers

What a declaration names has to be an identifier: ASCII letters, digits and underscores, with no
digit in front.
-/

namespace TypedSheets

/-- Whether an identifier may start with a character. -/
def isIdentifierStart (c : Char) : Bool :=
  c.isAlpha || c == '_'

/-- Whether an identifier may go on with a character. -/
def isIdentifierChar (c : Char) : Bool :=
  c.isAlphanum || c == '_'

/-- Whether a text is an identifier. -/
def isIdentifier (name : String) : Bool :=
  match name.toList with
  | [] => false
  | c :: rest => isIdentifierStart c && rest.all isIdentifierChar

/-- A name that cannot be declared, with what it should have named. -/
structure InvalidIdentifier where
  context : String
  value : String
  deriving DecidableEq, Repr

namespace InvalidIdentifier

/-- The refusal in words. -/
def message (e : InvalidIdentifier) : String :=
  "'" ++ e.value ++ "' in " ++ e.context ++ " is not a valid identifier"

end InvalidIdentifier

/-- Refuses what is no identifier. -/
def checkIdentifier (context value : String) : Except InvalidIdentifier Unit :=
  if isIdentifier value then .ok () else .error ⟨context, value⟩

end TypedSheets
