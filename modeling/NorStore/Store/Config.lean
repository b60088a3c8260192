/-
# Settings of a store

A store waits for its guard band after the first change, pauses after each segment it
has stored, and stamps what it writes with the signature of its application. Lengths of
time are numbers of nanoseconds, while the clock counts milliseconds.
-/

import NorStore.Record.Header
import NorStore.Word

namespace NorStore

namespace Duration

/-- A number of milliseconds as a length of time. -/
def ofMillis (millis : Nat) : Nat := millis * 1000000

/-- How many whole milliseconds a length of time has. -/
def wholeMillis (nanos : Nat) : Nat := nanos / 1000000

end Duration

/-- The settings of a store. -/
structure Config where
  /-- The delay between the first change and the commit. -/
  guardBand : Nat := Duration.ofMillis 1000
  /-- The pause after each segment of a commit. -/
  commitYield : Nat := Duration.ofMillis 20
  appSignature : UInt32 := 0
  /-- The newest version of the format that is restored. -/
  maxVersion : UInt16 := Header.currentVersion
deriving DecidableEq, Repr

/-- The pause after each segment, in whole milliseconds of the clock. -/
def Config.yieldMillis (config : Config) : Nat :=
  min (Duration.wholeMillis config.commitYield) Word.largest

/-- A clock that is moved by hand. It counts milliseconds in a word and wraps around. -/
structure Clock where
  ticks : UInt64 := 0
deriving DecidableEq, Repr

namespace Clock

/-- The time in milliseconds. -/
def now (clock : Clock) : Nat := clock.ticks.toNat

/-- Let time pass. -/
def advance (clock : Clock) (millis : Nat) : Clock := ⟨clock.ticks + UInt64.ofNat millis⟩

/-- Set the time. -/
def setTo (_ : Clock) (millis : Nat) : Clock := ⟨UInt64.ofNat millis⟩

end Clock

end NorStore
