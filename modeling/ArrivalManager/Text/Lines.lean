/-! Text cut into lines, and lines cut into fields. -/

namespace ArrivalManager

/-- The pieces of a text between line feeds; the last piece has no line feed behind it. -/
def splitAtLineFeeds : List Char → List (List Char)
  | [] => [[]]
  | char :: rest =>
    match splitAtLineFeeds rest with
    | piece :: pieces =>
      if char = '\n' then [] :: piece :: pieces else (char :: piece) :: pieces
    | [] => [[char]]

/-- A line without the carriage return that ends it. -/
def dropCarriageReturn (line : List Char) : List Char :=
  match line.reverse with
  | '\r' :: rest => rest.reverse
  | _ => line

/--
The lines of a text, each ended by a line feed or by a carriage return and a line feed.

Characters after the last line feed are a line of their own, with every one of them kept.
-/
def textLines (text : List Char) : List (List Char) :=
  let pieces := splitAtLineFeeds text
  let ended := pieces.dropLast.map dropCarriageReturn
  match pieces.getLast? with
  | none | some [] => ended
  | some unended => ended ++ [unended]

/-- The fields of a line, parted by a comma and a space. -/
def splitFields : List Char → List (List Char)
  | [] => [[]]
  | ',' :: ' ' :: rest => [] :: splitFields rest
  | char :: rest =>
    match splitFields rest with
    | field :: fields => (char :: field) :: fields
    | [] => [[char]]

end ArrivalManager
