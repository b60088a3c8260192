/-
# The command line

Options may stand before the command or behind it. Each is given at most once on a
side, but segments may be listed several times. What is given behind the command
replaces what was given before it, the list of segments as a whole.

A value follows its option as the next argument, after an equals sign, or, for the
one-letter form, directly. An argument that starts with a hyphen is never taken for a
value. Behind two hyphens nothing is an option any more.
-/

import NorStore.Command.Run
import NorStore.Command.Value

namespace NorStore.Command

/-- The options. -/
inductive OptionName where
  | image
  | blockSize
  | regionOffset
  | regionSize
  | segment
  | appSignature
  | verbose
  | force
  | output
  | help
  | version
deriving DecidableEq, Repr

/-- The commands. -/
inductive CommandName where
  | format
  | inspect
  | verify
  | erase
  | version
deriving DecidableEq, Repr

/-- Why the command line leads to no command: it asks for help, for the version, or it
is wrong. -/
inductive Stop where
  | help
  | version
  | misuse
deriving DecidableEq, Repr

/-- What was given on one side of the command. -/
structure Given where
  image : Option String := none
  blockSize : Option Nat := none
  regionOffset : Option Nat := none
  regionSize : Option Nat := none
  segments : List (Segment × Nat) := []
  appSignature : Option UInt32 := none
  verbose : Bool := false
  force : Bool := false
  output : Option OutputFormat := none
  target : Option Segment := none
deriving DecidableEq, Repr

namespace CommandName

/-- The command of a name. -/
def ofName? : String → Option CommandName
  | "format" => some format
  | "inspect" => some inspect
  | "verify" => some verify
  | "erase" => some erase
  | "version" => some version
  | _ => none

end CommandName

namespace OptionName

/-- The option of a long name. Two of them belong to one command each. -/
def ofLong? (side : Option CommandName) : String → Option OptionName
  | "image" => some image
  | "block-size" => some blockSize
  | "region-offset" => some regionOffset
  | "region-size" => some regionSize
  | "segment" => some segment
  | "app-signature" => some appSignature
  | "verbose" => some verbose
  | "help" => some help
  | "version" => if side = none then some version else none
  | "force" => if side = some .format then some force else none
  | "format" => if side = some .inspect then some output else none
  | _ => none

/-- The option of a letter. -/
def ofLetter? (side : Option CommandName) : Char → Option OptionName
  | 'i' => some image
  | 'b' => some blockSize
  | 's' => some segment
  | 'a' => some appSignature
  | 'v' => some verbose
  | 'h' => some help
  | 'V' => if side = none then some version else none
  | 'f' =>
    match side with
    | some .format => some force
    | some .inspect => some output
    | _ => none
  | _ => none

/-- Whether an option has a value. -/
def takesValue : OptionName → Bool
  | verbose => false
  | force => false
  | help => false
  | version => false
  | _ => true

end OptionName

namespace Given

/-- Set what can be set once. -/
def once {α : Type} (current : Option α) (value : Option α) : Except Stop (Option α) :=
  match current, value with
  | none, some _ => .ok value
  | _, _ => .error .misuse

/-- A number in a word, without blanks around it. -/
def number? (text : String) : Option Nat :=
  (Text.readWhole 10 Word.limit text.toList).toOption

/-- Give a value to an option. -/
def assign (given : Given) (option : OptionName) (text : String) : Except Stop Given := do
  match option with
  | .image => return { given with
      image := ← once given.image (if text.isEmpty then none else some text) }
  | .blockSize => return { given with blockSize := ← once given.blockSize (number? text) }
  | .regionOffset => return { given with regionOffset := ← once given.regionOffset (number? text) }
  | .regionSize => return { given with regionSize := ← once given.regionSize (number? text) }
  | .appSignature => return { given with
      appSignature := ← once given.appSignature (readWord text.toList).toOption }
  | .segment =>
    match readSegment text.toList with
    | .ok listed => return { given with segments := given.segments ++ [listed] }
    | .error _ => throw .misuse
  | .output =>
    match text with
    | "text" => return { given with output := ← once given.output (some .table) }
    | "json" => return { given with output := ← once given.output (some .json) }
    | _ => throw .misuse
  | _ => throw .misuse

/-- Set an option without a value. -/
def raise (given : Given) (option : OptionName) : Except Stop Given :=
  match option with
  | .verbose => if given.verbose then .error .misuse else .ok { given with verbose := true }
  | .force => if given.force then .error .misuse else .ok { given with force := true }
  | .help => .error .help
  | .version => .error .version
  | _ => .error .misuse

/-- Give the argument of a command. Only erasing has one. -/
def argument (given : Given) (side : Option CommandName) (text : String) : Except Stop Given := do
  match side with
  | some .erase => return { given with target := ← once given.target (Segment.ofName? text) }
  | _ => throw .misuse

/-- Read the letters behind a hyphen. The result names the option that still needs a
value. -/
def letters (given : Given) (side : Option CommandName) :
    List Char → Except Stop (Given × Option OptionName)
  | [] => .ok (given, none)
  | letter :: rest =>
    match OptionName.ofLetter? side letter with
    | none => .error .misuse
    | some option =>
      if option.takesValue then
        match rest with
        | [] => .ok (given, some option)
        | '=' :: value => (given.assign option (String.ofList value)).map (·, none)
        | value => (given.assign option (String.ofList value)).map (·, none)
      else
        match given.raise option with
        | .ok next => letters next side rest
        | .error stop => .error stop

/-- Read what is behind two hyphens. The result names the option that still needs a
value. -/
def word (given : Given) (side : Option CommandName) (text : List Char) :
    Except Stop (Given × Option OptionName) :=
  match OptionName.ofLong? side (String.ofList (text.takeWhile (· ≠ '='))),
    text.dropWhile (· ≠ '=') with
  | none, _ => .error .misuse
  | some option, [] =>
    if option.takesValue then .ok (given, some option)
    else (given.raise option).map (·, none)
  | some option, _ :: value =>
    if option.takesValue then (given.assign option (String.ofList value)).map (·, none)
    else .error .misuse

/-- Whether an argument is an option and no value. -/
def isOption (text : List Char) : Bool := text.head? = some '-' && 1 < text.length

/-- Whether help may be asked for: on the whole program, or on one command. -/
def isHelpTopic : List String → Bool
  | [] => true
  | [topic] => topic = "help" || (CommandName.ofName? topic).isSome
  | _ => false

/-- Read one option. The result names the option that still needs a value. -/
def option (given : Given) (side : Option CommandName) :
    List Char → Except Stop (Given × Option OptionName)
  | '-' :: '-' :: text => given.word side text
  | text => given.letters side text.tail

/-- Read one side of the command line. It ends where the command is named, and the
result names the command and what is behind it. -/
def read (side : Option CommandName) :
    Given → List String → Except Stop (Given × Option (CommandName × List String))
  | given, [] => .ok (given, none)
  | given, "--" :: rest => do
    let reached ← rest.foldlM (fun reached text => reached.argument side text) given
    return (reached, none)
  | given, text :: rest =>
    if isOption text.toList then
      match given.option side text.toList, rest with
      | .error stop, _ => .error stop
      | .ok (next, none), rest => read side next rest
      | .ok (_, some _), [] => .error .misuse
      | .ok (next, some wanted), value :: rest =>
        if isOption value.toList then .error .misuse
        else
          match next.assign wanted value with
          | .ok reached => read side reached rest
          | .error stop => .error stop
    else
      match side, CommandName.ofName? text with
      | none, some name => .ok (given, some (name, rest))
      | none, none => .error (if text = "help" ∧ isHelpTopic rest then .help else .misuse)
      | some _, _ =>
        match given.argument side text with
        | .ok next => read side next rest
        | .error stop => .error stop

/-- What holds for the command: what was given behind it, and else what was given
before it. -/
def merge (before behind : Given) : Given where
  image := behind.image <|> before.image
  blockSize := behind.blockSize <|> before.blockSize
  regionOffset := behind.regionOffset <|> before.regionOffset
  regionSize := behind.regionSize <|> before.regionSize
  segments := if behind.segments.isEmpty then before.segments else behind.segments
  appSignature := behind.appSignature <|> before.appSignature
  verbose := before.verbose || behind.verbose
  force := behind.force
  output := behind.output
  target := behind.target

/-- The settings for an image. -/
def settings (given : Given) (path : String) : Settings where
  path := path
  blockSize := given.blockSize.getD 4096
  regionOffset := given.regionOffset.getD 0
  regionSize := given.regionSize
  segments := given.segments
  appSignature := given.appSignature.getD 0

end Given

/-- What a command line asks for. -/
inductive Invocation where
  | showVersion
  | missingImage
  | run (settings : Settings) (request : Request)

namespace Invocation

/-- What a command asks of an image. -/
def request (name : CommandName) (given : Given) : Except Stop (Option Request) :=
  match name, given.target with
  | .format, _ => .ok (some (.format given.force))
  | .inspect, _ => .ok (some (.inspect (given.output.getD .table)))
  | .verify, _ => .ok (some .verify)
  | .erase, some segment => .ok (some (.erase segment))
  | .erase, none => .error .misuse
  | .version, _ => .ok none

/-- Read a command line. -/
def ofArguments (arguments : List String) : Except Stop Invocation := do
  match ← Given.read none {} arguments with
  | (_, none) => throw .misuse
  | (before, some (name, rest)) =>
    let (behind, _) ← Given.read (some name) {} rest
    let given := before.merge behind
    match ← request name given, given.image with
    | none, _ => return .showVersion
    | some _, none => return .missingImage
    | some request, some path => return .run (given.settings path) request

/-- The image file that a command line is about. -/
def path? : Invocation → Option String
  | run settings _ => some settings.path
  | showVersion => none
  | missingImage => none

end Invocation

/-- How a run of the program ended: its exit code, what it printed, what it has to
complain about, and what it left at the path of the image file. A run that the host
stopped has no exit code. -/
structure Exit where
  code : Option Nat
  lines : List String := []
  complaint : Option String := none
  image : Host.Entry := .absent

/-- The version of the program. -/
def programVersion : String := "0.3.0"

/-- The lines that tell how the program is used. -/
def usage : List String :=
  ["Usage: lonstore [OPTIONS] <COMMAND>", "", "Commands: format, inspect, verify, erase, version"]

/-- Run the program on a command line, with what stands at the path of its image file. The
exit code is 1 for a command that fails, 2 for a wrong command line, and 101 for a trap. A
command that runs out of memory is stopped. -/
def runProgram (stop : Except Stop Invocation) (image : Host.Entry) : Exit :=
  match stop with
  | .error .help => { code := some 0, lines := usage, image }
  | .error .version => { code := some 0, lines := [s!"lonstore {programVersion}"], image }
  | .error .misuse => { code := some 2, complaint := some "wrong usage", image }
  | .ok .showVersion => {
      code := some 0
      lines := [s!"lonstore CLI v{programVersion}", s!"lonstore core v{programVersion}"]
      image }
  | .ok .missingImage => { code := some 1, complaint := some "Image path required", image }
  | .ok (.run settings request) =>
    match request.run settings { image } with
    | (.value (), reached) => { code := some 0, lines := reached.lines, image := reached.image }
    | (.error (.outOfMemory size), reached) => {
        code := none, lines := reached.lines, complaint := some (Failure.outOfMemory size).message
        image := reached.image }
    | (.error failure, reached) => {
        code := some 1, lines := reached.lines, complaint := some failure.message
        image := reached.image }
    | (.trap, reached) => {
        code := some 101, lines := reached.lines, complaint := some "arithmetic trap"
        image := reached.image }

end NorStore.Command
