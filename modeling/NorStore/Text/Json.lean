/-
# JSON documents

Values as JSON text over several lines, indented by two blanks a level, with the
fields of a record in the order in which they are given.
-/

import NorStore.Text.Number

namespace NorStore.Text

/-- A value that can be written as JSON. -/
inductive Json where
  | number (value : Nat)
  | string (text : String)
  | boolean (truth : Bool)
  | list (items : List Json)
  | record (fields : List (String × Json))

namespace Json

/-- One character as it stands in a JSON string. -/
def escapeChar (character : Char) : List Char :=
  if character = '"' then ['\\', '"']
  else if character = '\\' then ['\\', '\\']
  else if character = '\x08' then ['\\', 'b']
  else if character = '\x0c' then ['\\', 'f']
  else if character = '\n' then ['\\', 'n']
  else if character = '\r' then ['\\', 'r']
  else if character = '\t' then ['\\', 't']
  else if character.toNat < 0x20 then
    ['\\', 'u'] ++ (hexDigits character.toNat).leftpad 4 '0'
  else [character]

/-- A text between quotation marks. -/
def writeString (text : String) : String :=
  String.ofList ('"' :: text.toList.flatMap escapeChar ++ ['"'])

/-- The start of a line at a level. -/
def newLine (level : Nat) : String :=
  "\n" ++ String.ofList (List.replicate (2 * level) ' ')

mutual

/-- A value that starts on a line of the given level. -/
def write (level : Nat) : Json → String
  | number value => toString value
  | string text => writeString text
  | boolean truth => toString truth
  | list [] => "[]"
  | list (first :: rest) =>
    "[" ++ newLine (level + 1) ++ write (level + 1) first ++ writeItems (level + 1) rest ++
      newLine level ++ "]"
  | record [] => "\x7b\x7d"
  | record ((name, first) :: rest) =>
    "\x7b" ++ newLine (level + 1) ++ writeString name ++ ": " ++ write (level + 1) first ++
      writeFields (level + 1) rest ++ newLine level ++ "\x7d"

/-- The items behind the first. -/
def writeItems (level : Nat) : List Json → String
  | [] => ""
  | item :: rest => "," ++ newLine level ++ write level item ++ writeItems level rest

/-- The fields behind the first. -/
def writeFields (level : Nat) : List (String × Json) → String
  | [] => ""
  | (name, value) :: rest =>
    "," ++ newLine level ++ writeString name ++ ": " ++ write level value ++
      writeFields level rest

end

end Json

end NorStore.Text
