/-
# Quoted text

A text quoted inside a message stands between quotation marks. Quotation marks,
backslashes and the common control characters have escapes of two characters;
a character without an appearance of its own is shown by its number.
-/

import NorStore.Text.Number
import NorStore.Text.Unseen

namespace NorStore.Text

/-- One character as it stands in a quoted text. -/
def quoteChar (character : Char) : List Char :=
  if character = '\x00' then ['\\', '0']
  else if character = '\t' then ['\\', 't']
  else if character = '\n' then ['\\', 'n']
  else if character = '\r' then ['\\', 'r']
  else if character = '"' then ['\\', '"']
  else if character = '\\' then ['\\', '\\']
  else if isUnseen character then
    ['\\', 'u', '\x7b'] ++ hexDigits character.toNat ++ ['\x7d']
  else [character]

/-- A text between quotation marks. -/
def quote (text : List Char) : String :=
  String.ofList ('"' :: text.flatMap quoteChar ++ ['"'])

example : quote "a'b".toList = "\"a'b\"" := by decide +kernel
example : quote "tab\there".toList = "\"tab\\there\"" := by decide +kernel
example : quote "uni\u200bcode".toList = "\"uni\\u\x7b200b\x7dcode\"" := by decide +kernel

end NorStore.Text
