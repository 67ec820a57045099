-- SUMMARY: Receivers of text that may refuse a chunk, and writing to them until one is refused.
/-!
# Sinks

A sink is given text in chunks and may refuse one. Writing stops at the first chunk that is refused.
In which chunks a text is handed over is left open: any that make up the text will do.
-/

namespace FirmwareGen

/-- A state machine that takes a chunk or refuses it, and may change its state either way. -/
structure Sink (σ : Type) where
  take : σ → String → Bool × σ

/-- A way to hand over pieces of text in chunks that make up the same text. -/
structure Chunking where
  chunks : List String → List String
  join_chunks : ∀ pieces, String.join (chunks pieces) = String.join pieces

/-- Each piece is a chunk. -/
def Chunking.whole : Chunking where
  chunks := id
  join_chunks _ := rfl

namespace Sink

variable {σ τ : Type}

/-- How far writing came: the state after the last chunk that was given, and whether all were
    taken. -/
structure Written (σ : Type) where
  state : σ
  complete : Bool

/-- Gives chunks to a sink in turn, up to the first that it refuses. -/
def write (sink : Sink σ) (state : σ) : List String → Written σ
  | [] => { state, complete := true }
  | chunk :: chunks =>
    match sink.take state chunk with
    | (true, state) => sink.write state chunks
    | (false, state) => { state, complete := false }

/-- The sink that takes text up to a number of bytes; its state is the text so far. -/
def limited (limit : Nat) : Sink String where
  take text chunk :=
    if text.utf8ByteSize + chunk.utf8ByteSize ≤ limit then (true, text ++ chunk) else (false, text)

/-- A sink on the first of two states. -/
def onFirst (sink : Sink σ) : Sink (σ × τ) where
  take states chunk :=
    let (taken, state) := sink.take states.1 chunk
    (taken, (state, states.2))

/-- A sink on the second of two states. -/
def onSecond (sink : Sink τ) : Sink (σ × τ) where
  take states chunk :=
    let (taken, state) := sink.take states.2 chunk
    (taken, (states.1, state))

end Sink

end FirmwareGen
