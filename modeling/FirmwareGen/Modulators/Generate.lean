-- SUMMARY: Generating the files of modulators as texts or into two sinks.
import FirmwareGen.C.Printer
import FirmwareGen.Calendar.TimeSource
import FirmwareGen.Modulators.Source
import FirmwareGen.Output.Files
import FirmwareGen.Output.Sink
/-!
# Generating modulator drivers

A batch of modulators becomes one header and one source, named after the first of them. The clock is
read once a call. A generation either keeps both texts or streams them into two sinks; the source is
begun only after the sink of the header has taken all of it.
-/

namespace FirmwareGen.Modulators

open C

def layout : Layout where
  spacedKeywords := false
  blockRemarks := true

/-- A batch of modulators with every identifier resolved. -/
structure Batch where
  base : String
  plans : List DriverPlan

namespace Batch

def ofModulators (scheme : NamingScheme) (modulators : List Modulator) : Batch where
  base := Naming.baseFileName scheme.fallbackBaseName modulators
  plans := modulators.map (DriverPlan.ofModulator scheme)

def headerPieces (batch : Batch) (stamp : String) : List String :=
  Listing.pieces layout (header batch.base stamp batch.plans)

def sourcePieces (batch : Batch) (stamp : String) : List String :=
  Listing.pieces layout (source batch.base stamp batch.plans)

/-- The two files of a batch at a time. -/
def files (batch : Batch) (stamp : String) : FilePair :=
  FilePair.ofBase batch.base
    (String.join (batch.headerPieces stamp)) (String.join (batch.sourcePieces stamp))

/-- One line on each driver of a batch. -/
def summary (batch : Batch) : List String :=
  batch.plans.map fun plan =>
    s!"modulator '{plan.title}': prefix {plan.symbol}, {plan.phases.length} active phase(s), " ++
      s!"{plan.isrPhases.length} ISR(s)"

/-- How far streaming came: the state after the last chunk, the file whose sink refused that chunk, if
    it did, and the base name if all was taken. -/
structure Streamed (σ : Type) where
  state : σ
  refused : Option FileRole
  result : Except GenerateError String

/-- Streams a batch into two sinks over one state, header first. -/
def stream {σ : Type} (batch : Batch) (stamp : String) (chunking : Chunking)
    (headerSink sourceSink : Sink σ) (state : σ) : Streamed σ :=
  let header := headerSink.write state (chunking.chunks (batch.headerPieces stamp))
  if header.complete then
    let source := sourceSink.write header.state (chunking.chunks (batch.sourcePieces stamp))
    if source.complete then
      { state := source.state, refused := none, result := .ok batch.base }
    else { state := source.state, refused := some .source, result := .error .refused }
  else { state := header.state, refused := some .header, result := .error .refused }

end Batch

/-! ## Entry points -/

/-- Generates the files of some modulators. -/
def generate {ρ : Type} (scheme : NamingScheme) (clock : TimeSource ρ)
    (modulators : List Modulator) : StateM ρ FilePair := do
  let stamp ← clock.timestamp
  return (Batch.ofModulators scheme modulators).files stamp

/-- Streams the files of some modulators into two sinks over one state. -/
def stream {ρ σ : Type} (scheme : NamingScheme) (clock : TimeSource ρ)
    (modulators : List Modulator) (chunking : Chunking) (headerSink sourceSink : Sink σ)
    (state : σ) : StateM ρ (Batch.Streamed σ) := do
  let stamp ← clock.timestamp
  return (Batch.ofModulators scheme modulators).stream stamp chunking headerSink sourceSink state

/-- What each of two sinks took, and the base name if both took everything. -/
structure Received (σ τ : Type) where
  header : Sink.Written σ
  source : Sink.Written τ
  result : Except GenerateError String

/-- Streams the files of some modulators line by line into two sinks with states of their own. -/
def write {ρ σ τ : Type} (scheme : NamingScheme) (clock : TimeSource ρ)
    (modulators : List Modulator) (headerSink : Sink σ) (headerState : σ)
    (sourceSink : Sink τ) (sourceState : τ) : StateM ρ (Received σ τ) := do
  let streamed ← stream scheme clock modulators .whole headerSink.onFirst sourceSink.onSecond
    (headerState, sourceState)
  return {
    header := { state := streamed.state.1, complete := streamed.refused != some .header }
    source := { state := streamed.state.2, complete := streamed.refused != some .source }
    result := streamed.result }

/-- One line on the sizes of two generated files. -/
def sizeNote (pair : FilePair) : String :=
  s!"generated {pair.headerName} ({pair.header.utf8ByteSize} bytes) and " ++
    s!"{pair.sourceName} ({pair.source.utf8ByteSize} bytes)"

end FirmwareGen.Modulators
