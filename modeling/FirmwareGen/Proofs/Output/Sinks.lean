-- SUMMARY: What sinks are offered while a text is written to them, and what byte-limited ones take.
import FirmwareGen.Output.Files
import FirmwareGen.Output.Sink
import Mathlib.Tactic.Common
/-!
# Writing to sinks

Beside a sink one may keep a record of the chunks that it is offered and of its answers. Of the chunks
of one text the record has all, each taken, or those up to the first that is refused.
-/

namespace FirmwareGen

/-! ## Records of offers -/

/-- A chunk that was given to the sink of a file, and the answer. -/
structure Offer where
  file : FileRole
  chunk : String
  accepted : Bool
  deriving DecidableEq, Repr

/-- The text that the sink of a file took. -/
def acceptedText (file : FileRole) (offers : List Offer) : String :=
  String.join ((offers.filter fun offer => offer.file = file ∧ offer.accepted).map Offer.chunk)

/-- The sink of a file refused a chunk. -/
def Refused (file : FileRole) (offers : List Offer) : Prop :=
  ∃ offer ∈ offers, offer.file = file ∧ offer.accepted = false

/-- The offers of chunks that are all taken. -/
def taken (file : FileRole) (chunks : List String) : List Offer :=
  chunks.map fun chunk => { file, chunk, accepted := true }

/-- The offers of one text to a sink, and whether it took the whole text. -/
inductive Offered (file : FileRole) (chunks : List String) : List Offer → Bool → Prop
  | all : Offered file chunks (taken file chunks) true
  | cut (first rest : List String) (chunk : String) (split : chunks = first ++ chunk :: rest) :
    Offered file chunks (taken file first ++ [{ file, chunk, accepted := false }]) false

section Records

variable {file other : FileRole} {chunks : List String} {offers : List Offer}

theorem accepted_of_mem_taken {offer : Offer} (h : offer ∈ taken file chunks) :
    offer.file = file ∧ offer.accepted = true := by
  obtain ⟨chunk, -, rfl⟩ := List.mem_map.1 h
  exact ⟨rfl, rfl⟩

theorem acceptedText_append (more : List Offer) :
    acceptedText file (offers ++ more) = acceptedText file offers ++ acceptedText file more := by
  simp [acceptedText, String.join_append]

theorem refused_append (more : List Offer) :
    Refused file (offers ++ more) ↔ Refused file offers ∨ Refused file more := by
  simp [Refused, or_and_right, exists_or]

theorem acceptedText_refusal {chunk : String} :
    acceptedText file [{ file := other, chunk, accepted := false }] = "" := by
  simp [acceptedText]

theorem acceptedText_taken : acceptedText file (taken file chunks) = String.join chunks := by
  have hall : (taken file chunks).filter (fun offer => offer.file = file ∧ offer.accepted) =
      taken file chunks := by
    refine List.filter_eq_self.2 fun offer hmem => ?_
    simpa using accepted_of_mem_taken hmem
  rw [acceptedText, hall]
  simp [taken, Function.comp_def]

theorem acceptedText_of_ne (h : ∀ offer ∈ offers, offer.file = other) (hne : other ≠ file) :
    acceptedText file offers = "" := by
  have hnone : offers.filter (fun offer => offer.file = file ∧ offer.accepted) = [] := by
    refine List.filter_eq_nil_iff.2 fun offer hmem => ?_
    simp [h offer hmem, hne]
  rw [acceptedText, hnone]
  rfl

/-! ### The offers of one text -/

theorem Offered.file_eq {complete : Bool} (h : Offered file chunks offers complete) :
    ∀ offer ∈ offers, offer.file = file := by
  intro offer hmem
  cases h with
  | all => exact (accepted_of_mem_taken hmem).1
  | cut split =>
    rcases List.mem_append.1 hmem with hmem | hmem
    · exact (accepted_of_mem_taken hmem).1
    · rw [List.mem_singleton.1 hmem]

theorem Offered.eq_taken (h : Offered file chunks offers true) : offers = taken file chunks := by
  cases h
  rfl

/-- Of a text that is not taken as a whole, just the last chunk that is offered is refused. -/
theorem Offered.eq_append (h : Offered file chunks offers false) :
    ∃ front last, offers = front ++ [last] ∧ (∀ offer ∈ front, offer.accepted = true) ∧
      last.accepted = false := by
  cases h
  exact ⟨_, _, rfl, fun offer hmem => (accepted_of_mem_taken hmem).2, rfl⟩

/-- What is taken of a text is its front. -/
theorem Offered.exists_rest {complete : Bool} (h : Offered file chunks offers complete) :
    ∃ rest, acceptedText file offers ++ rest = String.join chunks := by
  cases h with
  | all => exact ⟨"", by rw [acceptedText_taken, String.append_empty]⟩
  | cut first rest chunk split =>
    refine ⟨String.join (chunk :: rest), ?_⟩
    rw [acceptedText_append, acceptedText_taken, acceptedText_refusal, String.append_empty, split,
      String.join_append]

/-- A chunk that is taken comes before the offers of the others. -/
theorem Offered.cons {complete : Bool} (chunk : String) (h : Offered file chunks offers complete) :
    Offered file (chunk :: chunks) ({ file, chunk, accepted := true } :: offers) complete := by
  cases h with
  | all => exact .all
  | cut first rest next split => exact .cut (chunk :: first) rest next (congrArg (chunk :: ·) split)

end Records

/-! ## One text -/

namespace Sink

variable {σ τ : Type}

/-- A sink with a record of what it is offered. -/
def recorded (file : FileRole) (sink : Sink σ) : Sink (σ × List Offer) where
  take states chunk :=
    let (accepted, state) := sink.take states.1 chunk
    (accepted, (state, states.2 ++ [{ file, chunk, accepted }]))

/-- Keeping a record changes nothing for the sink. -/
theorem write_recorded (file : FileRole) (sink : Sink σ) (state : σ) (before : List Offer)
    (chunks : List String) :
    ∃ offers,
      (sink.recorded file).write (state, before) chunks =
        { state := ((sink.write state chunks).state, before ++ offers)
          complete := (sink.write state chunks).complete } ∧
      Offered file chunks offers (sink.write state chunks).complete := by
  induction chunks generalizing state before with
  | nil => exact ⟨[], by simp [write], .all⟩
  | cons chunk chunks ih =>
    rcases htake : sink.take state chunk with ⟨_ | _, next⟩
    case false =>
      refine ⟨[{ file, chunk, accepted := false }], ?_, ?_⟩
      · simp [write, recorded, htake]
      · simpa [write, htake, taken] using Offered.cut [] chunks chunk rfl
    case true =>
      obtain ⟨offers, hwrite, hoffers⟩ :=
        ih next (before ++ [{ file, chunk, accepted := true }])
      refine ⟨{ file, chunk, accepted := true } :: offers, ?_, ?_⟩
      · have hstep : (sink.recorded file).write (state, before) (chunk :: chunks) =
            (sink.recorded file).write
              (next, before ++ [{ file, chunk, accepted := true }]) chunks := by
          simp [write, recorded, htake]
        rw [hstep, hwrite]
        simp [write, htake]
      · have hcomplete : (sink.write state (chunk :: chunks)).complete =
            (sink.write next chunks).complete := by simp [write, htake]
        exact hcomplete ▸ hoffers.cons chunk

/-! ## Sinks side by side -/

theorem write_onFirst (sink : Sink σ) (state : σ) (other : τ) (chunks : List String) :
    sink.onFirst.write (state, other) chunks =
      { state := ((sink.write state chunks).state, other)
        complete := (sink.write state chunks).complete } := by
  induction chunks generalizing state with
  | nil => rfl
  | cons chunk chunks ih =>
    rcases htake : sink.take state chunk with ⟨_ | _, next⟩ <;> simp [write, onFirst, htake]
    simpa [onFirst] using ih next

theorem write_onSecond (sink : Sink τ) (other : σ) (state : τ) (chunks : List String) :
    sink.onSecond.write (other, state) chunks =
      { state := (other, (sink.write state chunks).state)
        complete := (sink.write state chunks).complete } := by
  induction chunks generalizing state with
  | nil => rfl
  | cons chunk chunks ih =>
    rcases htake : sink.take state chunk with ⟨_ | _, next⟩ <;> simp [write, onSecond, htake]
    simpa [onSecond] using ih next

/-! ## Byte limits -/

/-- A limited sink takes a text in whatever chunks just if the text fits. -/
theorem complete_write_limited {limit : Nat} {text : String} (h : text.utf8ByteSize ≤ limit)
    (chunks : List String) :
    ((limited limit).write text chunks).complete = true ↔
      text.utf8ByteSize + (String.join chunks).utf8ByteSize ≤ limit := by
  induction chunks generalizing text with
  | nil => simpa [write] using h
  | cons chunk chunks ih =>
    rw [String.join_cons, String.utf8ByteSize_append]
    by_cases hfits : text.utf8ByteSize + chunk.utf8ByteSize ≤ limit
    · have hnext : (text ++ chunk).utf8ByteSize ≤ limit := by
        rwa [String.utf8ByteSize_append]
      have hstep : (limited limit).write text (chunk :: chunks) =
          (limited limit).write (text ++ chunk) chunks := by
        simp [write, limited, hfits]
      rw [hstep, ih hnext, String.utf8ByteSize_append, Nat.add_assoc]
    · simp [write, limited, hfits]
      omega

end Sink

end FirmwareGen
