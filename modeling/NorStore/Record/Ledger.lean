/-
# Transaction ledgers

A segment starts with a ledger of two words that says whether what follows can be
trusted. A ledger is programmed over the previous one without an erase, so a step
may only clear bits: from erased to committed or open, and from committed to open.
An open ledger has to be erased before it can be committed again.
-/

import NorStore.Bytes

namespace NorStore

/-- The two words in front of a segment. -/
structure Ledger where
  signature : UInt32
  state : UInt32
deriving DecidableEq, Repr

/-- What a ledger says about its segment. -/
inductive LedgerState where
  | erased
  | transactionOpen
  | committed
  | corrupt
deriving DecidableEq, Repr

/-- The two ends of a transaction. -/
inductive LedgerEvent where
  | enter
  | exit
deriving DecidableEq, Repr

/-- What an event asks for. -/
inductive LedgerStep where
  | illegal
  | noChange
  | program (ledger : Ledger)
deriving DecidableEq, Repr

namespace Ledger

/-- The number of bytes of a ledger. -/
def size : Nat := 8

/-- The word that marks a ledger. -/
def marker : UInt32 := 0x4c454447

/-- The state word of a committed segment. -/
def validState : UInt32 := 0x5a5aa5a5

/-- The state word of a segment in a transaction. -/
def invalidState : UInt32 := 0

/-- A word of erased cells. -/
def erasedWord : UInt32 := 0xffffffff

/-- The ledger of an erased segment. -/
def erased : Ledger := ⟨erasedWord, erasedWord⟩

/-- The ledger that opens a transaction. -/
def opened : Ledger := ⟨marker, invalidState⟩

/-- The ledger that commits a segment. -/
def committed : Ledger := ⟨marker, validState⟩

/-- The bytes of a ledger. -/
def encode (ledger : Ledger) : Bytes :=
  Bytes.ofWord32 ledger.signature ++ Bytes.ofWord32 ledger.state

/-- The ledger in the first eight bytes. -/
def decode (bytes : Bytes) : Ledger := ⟨bytes.word32At 0, bytes.word32At 4⟩

/-- Whether clearing bits is enough to turn one ledger into another. -/
def canProgram (ledger next : Ledger) : Bool :=
  ledger.signature &&& next.signature == next.signature &&
    ledger.state &&& next.state == next.state

/-- What a ledger says. Any state word but the valid one leaves a marked ledger open. -/
def classify (ledger : Ledger) : LedgerState :=
  if ledger = erased then .erased
  else if ledger.signature = marker then
    if ledger.state = validState then .committed else .transactionOpen
  else .corrupt

@[simp] theorem length_encode (ledger : Ledger) : ledger.encode.length = size := rfl

theorem decode_encode (ledger : Ledger) : decode ledger.encode = ledger := by
  cases ledger with
  | mk signature state =>
    exact congr (congrArg mk (Bytes.joinWord32_bytes signature)) (Bytes.joinWord32_bytes state)

theorem encode_decode {bytes : Bytes} (whole : bytes.length = size) :
    (decode bytes).encode = bytes := by
  match bytes, whole with
  | [first, second, third, fourth, fifth, sixth, seventh, eighth], _ =>
    exact congr (congrArg _ (Bytes.ofWord32_joinWord32 first second third fourth))
      (Bytes.ofWord32_joinWord32 fifth sixth seventh eighth)

end Ledger

namespace LedgerState

/-- The state in a report. -/
def description : LedgerState → String
  | erased => "erased"
  | transactionOpen => "transaction open"
  | committed => "committed"
  | corrupt => "corrupt"

/-- The name of the state in an error message. -/
def name : LedgerState → String
  | erased => "Erased"
  | transactionOpen => "TransactionOpen"
  | committed => "Committed"
  | corrupt => "Corrupt"

/-- Only a committed segment is outside any transaction. -/
def isInTransaction (state : LedgerState) : Bool := state != committed

/-- What an event asks for in a state. -/
def apply : LedgerState → LedgerEvent → LedgerStep
  | erased, .enter => .program Ledger.opened
  | committed, .enter => .program Ledger.opened
  | transactionOpen, .enter => .noChange
  | corrupt, .enter => .noChange
  | erased, .exit => .program Ledger.committed
  | committed, .exit => .noChange
  | transactionOpen, .exit => .illegal
  | corrupt, .exit => .illegal

end LedgerState

/-- The name of an event in an error message. -/
def LedgerEvent.name : LedgerEvent → String
  | enter => "Enter"
  | exit => "Exit"

end NorStore
