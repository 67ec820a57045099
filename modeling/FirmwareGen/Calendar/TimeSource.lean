-- SUMMARY: Sources of instants as state machines.
import FirmwareGen.Calendar.DateTime
/-!
# Time sources

A time source is a state machine that answers each reading with an instant. Generators read it once
a call and put the reading into the banner of what they write.
-/

namespace FirmwareGen

structure TimeSource (σ : Type) where
  read : σ → DateTime × σ

namespace TimeSource

/-- The source that always answers the same instant. -/
def fixed (instant : DateTime) : TimeSource Unit where
  read state := (instant, state)

/-- Reads the source and writes the instant as a timestamp. -/
def timestamp {σ : Type} (source : TimeSource σ) : StateM σ String := fun state =>
  let (instant, state) := source.read state
  (instant.timestamp, state)

end TimeSource

end FirmwareGen
