/-
# Values on the command line

A segment is given with its largest payload, as in `security=48`. Blanks around the
name and the number are ignored. Signatures are decimal, or hexadecimal behind `0x`.
-/

import NorStore.Segment
import NorStore.Text.Blank
import NorStore.Text.Quoted
import NorStore.Text.Whole
import NorStore.Word

namespace NorStore.Command

open NorStore.Text (NumberFault)

/-- Why a value was not understood. The text is quoted in the message. -/
inductive ValueFault where
  | noEquals (text : List Char)
  | unknownSegment (name : List Char)
  | badSize (text : List Char) (fault : NumberFault)
  | badWord (text : List Char) (fault : NumberFault)
deriving DecidableEq, Repr

/-- The wording of a fault. -/
def ValueFault.message : ValueFault → String
  | noEquals text => s!"expected <name>=<max>, got {Text.quote text}"
  | unknownSegment name => Segment.unknownMessage (String.ofList name)
  | badSize text fault => s!"invalid size {Text.quote text}: {fault.message}"
  | badWord text fault => s!"invalid value {Text.quote text}: {fault.message}"

/-- Read the text of a size behind the name of its segment. The message about a bad
size quotes the text with its blanks. -/
def readSize (segment : Segment) (text : List Char) : Except ValueFault (Segment × Nat) :=
  match Text.readWhole 10 Word.limit (Text.trim text) with
  | .ok size => .ok (segment, size)
  | .error fault => .error (.badSize text fault)

/-- Read a segment and its largest payload. The first equals sign ends the name. -/
def readSegment (text : List Char) : Except ValueFault (Segment × Nat) :=
  match text.dropWhile (· ≠ '=') with
  | [] => .error (.noEquals text)
  | _ :: size =>
    let name := Text.trim (text.takeWhile (· ≠ '='))
    match Segment.ofName? (String.ofList name) with
    | some segment => readSize segment size
    | none => .error (.unknownSegment name)

/-- The digits and their radix: digits behind `0x` are hexadecimal. -/
def splitRadix : List Char → Nat × List Char
  | '0' :: 'x' :: digits => (16, digits)
  | '0' :: 'X' :: digits => (16, digits)
  | digits => (10, digits)

/-- Read a 32-bit word. The message about a bad one quotes it without its blanks. -/
def readWord (text : List Char) : Except ValueFault UInt32 :=
  let trimmed := Text.trim text
  let (radix, digits) := splitRadix trimmed
  match Text.readWhole radix UInt32.size digits with
  | .ok value => .ok (UInt32.ofNat value)
  | .error fault => .error (.badWord trimmed fault)

end NorStore.Command
