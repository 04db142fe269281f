/-!
# Pieces of a text

`splitOn` cuts a text at every occurrence of a separator; `splitOn_ne_nil` says that there is always
at least one piece. `lines` are the pieces between line feeds, a carriage return before the line
feed being part of the line's end.
-/

namespace TypedSheets.Text

/-- The pieces of a list between the occurrences of `sep`, one more than there are separators. -/
def splitOn {α : Type} [DecidableEq α] (sep : α) : List α → List (List α)
  | [] => [[]]
  | c :: rest =>
    if c = sep then [] :: splitOn sep rest
    else match splitOn sep rest with
      | [] => [[c]]
      | piece :: pieces => (c :: piece) :: pieces

theorem splitOn_ne_nil {α : Type} [DecidableEq α] (sep : α) (s : List α) :
    splitOn sep s ≠ [] := by
  cases s with
  | nil => simp [splitOn]
  | cons c rest => unfold splitOn; split <;> (try split) <;> simp

/-- The line without the carriage return at its end, if it has one. -/
def dropReturn (line : List Char) : List Char :=
  if line.getLast? = some '\r' then line.dropLast else line

/-- The lines of a text. What follows the last line feed is a line unless it is empty. -/
def lines (s : List Char) : List (List Char) :=
  let pieces := splitOn '\n' s
  pieces.dropLast.map dropReturn ++ (pieces.drop (pieces.length - 1)).filter (· ≠ [])

/-- What follows the first occurrence of `word` in a text. -/
def after? (word : List Char) : List Char → Option (List Char)
  | [] => if word = [] then some [] else none
  | c :: rest =>
    if word.isPrefixOf (c :: rest) then some ((c :: rest).drop word.length) else after? word rest

end TypedSheets.Text
