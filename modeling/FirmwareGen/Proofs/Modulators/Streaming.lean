-- SUMMARY: Streaming the files of modulators stops at the first chunk that a sink refuses.
import FirmwareGen.Modulators.Generate
import FirmwareGen.Proofs.Output.Sinks
/-!
# Streaming generated drivers

A streaming goes one of three ways: both sinks take everything, the sink of the header refuses a
chunk, or that of the source does. Whatever the sinks are and however the texts are cut, all that they
took is the front of the files that are generated otherwise, and nothing is offered after a refusal.
-/

namespace FirmwareGen

/-- The text of one of the two files. -/
def FilePair.text (pair : FilePair) : FileRole → String
  | .header => pair.header
  | .source => pair.source

/-- A streaming of two files that fails at the first refusal and does not go on from there. -/
structure FailStop (pair : FilePair) (offers : List Offer)
    (result : Except GenerateError String) : Prop where
  prefixes : ∀ file, ∃ rest, acceptedText file offers ++ rest = pair.text file
  waits : ∀ before offer after, offers = before ++ offer :: after → offer.file = .source →
    acceptedText .header before = pair.header ∧ ∀ later ∈ after, later.file = .source
  stops : ∀ before offer after, offers = before ++ offer :: after → offer.accepted = false →
    after = [] ∧ result = .error .refused
  succeeds : (∀ offer ∈ offers, offer.accepted = true) →
    (∀ file, acceptedText file offers = pair.text file) ∧
      ∃ base, result = .ok base ∧ pair.headerName = base ++ ".h" ∧ pair.sourceName = base ++ ".c"

namespace Modulators

/-! ## The ways of a streaming -/

/-- What is offered when the two files of a base name are streamed in some chunks. -/
inductive Course (base : String) (header source : List String) :
    List Offer → Option FileRole → Except GenerateError String → Prop
  | complete :
    Course base header source (taken .header header ++ taken .source source) none (.ok base)
  | headerRefused {offers : List Offer} (offered : Offered .header header offers false) :
    Course base header source offers (some .header) (.error .refused)
  | sourceRefused {offers : List Offer} (offered : Offered .source source offers false) :
    Course base header source (taken .header header ++ offers) (some .source) (.error .refused)

section Course

variable {base : String} {header source : List String} {offers : List Offer}
  {refused : Option FileRole} {result : Except GenerateError String}

/-- With a record of the offers a streaming ends as without one, and goes one of the three ways. -/
theorem course_stream {σ : Type} (batch : Batch) (stamp : String) (chunking : Chunking)
    (headerSink sourceSink : Sink σ) (state : σ) :
    ∃ offers,
      batch.stream stamp chunking (headerSink.recorded .header) (sourceSink.recorded .source)
          (state, []) =
        { state := ((batch.stream stamp chunking headerSink sourceSink state).state, offers)
          refused := (batch.stream stamp chunking headerSink sourceSink state).refused
          result := (batch.stream stamp chunking headerSink sourceSink state).result } ∧
      Course batch.base (chunking.chunks (batch.headerPieces stamp))
        (chunking.chunks (batch.sourcePieces stamp)) offers
        (batch.stream stamp chunking headerSink sourceSink state).refused
        (batch.stream stamp chunking headerSink sourceSink state).result := by
  obtain ⟨first, hfirst, hoffered⟩ := Sink.write_recorded .header headerSink state []
    (chunking.chunks (batch.headerPieces stamp))
  cases hheader : (headerSink.write state (chunking.chunks (batch.headerPieces stamp))).complete with
  | false =>
    rw [hheader] at hoffered
    refine ⟨first, ?_, ?_⟩
    · simp [Batch.stream, hfirst, hheader]
    · simpa [Batch.stream, hheader] using Course.headerRefused hoffered
  | true =>
    rw [hheader] at hoffered
    obtain ⟨second, hsecond, hoffered'⟩ := Sink.write_recorded .source sourceSink
      (headerSink.write state (chunking.chunks (batch.headerPieces stamp))).state first
      (chunking.chunks (batch.sourcePieces stamp))
    refine ⟨first ++ second, ?_, ?_⟩
    · simp [Batch.stream, hfirst, hheader, hsecond]
      split <;> rfl
    · cases hsource : (sourceSink.write
          (headerSink.write state (chunking.chunks (batch.headerPieces stamp))).state
          (chunking.chunks (batch.sourcePieces stamp))).complete with
      | false =>
        rw [hsource] at hoffered'
        simpa [Batch.stream, hheader, hsource, hoffered.eq_taken] using
          Course.sourceRefused hoffered'
      | true =>
        rw [hsource] at hoffered'
        simpa [Batch.stream, hheader, hsource, hoffered.eq_taken, hoffered'.eq_taken] using
          Course.complete

/-! ## What they have in common -/

/-- Two files are offered one after the other. -/
theorem eq_append_of_source {front rest before after : List Offer} {offer : Offer}
    (hfront : ∀ offer ∈ front, offer.file = .header) (hrest : ∀ offer ∈ rest, offer.file = .source)
    (h : front ++ rest = before ++ offer :: after) (hoffer : offer.file = .source) :
    ∃ more, before = front ++ more ∧ (∀ earlier ∈ more, earlier.file = .source) ∧
      ∀ later ∈ after, later.file = .source := by
  rcases List.append_eq_append_iff.1 h with ⟨more, hbefore, hmore⟩ | ⟨more, hmore, hafter⟩
  · subst hmore
    exact ⟨more, hbefore, fun earlier hmem => hrest _ (by simp [hmem]),
      fun later hmem => hrest _ (by simp [hmem])⟩
  · cases more with
    | nil =>
      refine ⟨[], by simpa using hmore.symm, by simp, fun later hmem => hrest _ ?_⟩
      simp [← show offer :: after = rest from hafter, hmem]
    | cons first more =>
      obtain ⟨rfl, rfl⟩ := List.cons_eq_cons.1 hafter
      have := hfront offer (by simp [hmore])
      simp [hoffer] at this

/-- What comes last is all that can be refused. -/
theorem eq_nil_of_refused {front before after : List Offer} {last offer : Offer}
    (hfront : ∀ offer ∈ front, offer.accepted = true) (h : front ++ [last] = before ++ offer :: after)
    (hoffer : offer.accepted = false) : after = [] := by
  rcases after.eq_nil_or_concat with hnil | ⟨after, final, rfl⟩
  · exact hnil
  · have hsplit : front ++ [last] = (before ++ offer :: after) ++ [final] := by simpa using h
    have hmem : offer ∈ front := by simp [(List.append_inj' hsplit rfl).1]
    simp [hfront offer hmem] at hoffer

/-- After a header that was taken as a whole each file has what was taken of it. -/
theorem acceptedText_header_first (hoffers : ∀ offer ∈ offers, offer.file = .source) :
    acceptedText .header (taken .header header ++ offers) = String.join header ∧
      acceptedText .source (taken .header header ++ offers) = acceptedText .source offers := by
  rw [acceptedText_append, acceptedText_append, acceptedText_taken,
    acceptedText_of_ne hoffers (by decide), acceptedText_of_ne Offered.all.file_eq (by decide)]
  exact ⟨String.append_empty, String.empty_append⟩

/-- The pieces that are streamed make up two files of the base name. -/
structure Carries (base : String) (header source : List String) (pair : FilePair) : Prop where
  header : String.join header = pair.header
  source : String.join source = pair.source
  headerName : pair.headerName = base ++ ".h"
  sourceName : pair.sourceName = base ++ ".c"

variable {pair : FilePair}

theorem Course.prefixes (h : Course base header source offers refused result)
    (hpair : Carries base header source pair) (file : FileRole) :
    ∃ rest, acceptedText file offers ++ rest = pair.text file := by
  have hfirst {offers : List Offer} (hoffers : ∀ offer ∈ offers, offer.file = .source)
      (hsource : ∃ rest, acceptedText .source offers ++ rest = String.join source) :
      ∃ rest, acceptedText file (taken .header header ++ offers) ++ rest = pair.text file := by
    cases file with
    | header => exact ⟨"", by simp [acceptedText_header_first hoffers, FilePair.text, hpair.header]⟩
    | source => simpa [acceptedText_header_first hoffers, FilePair.text, hpair.source] using hsource
  cases h with
  | complete => exact hfirst Offered.all.file_eq Offered.all.exists_rest
  | sourceRefused offered => exact hfirst offered.file_eq offered.exists_rest
  | headerRefused offered =>
    cases file with
    | header => simpa [FilePair.text, hpair.header] using offered.exists_rest
    | source => exact ⟨pair.source, by simp [acceptedText_of_ne offered.file_eq, FilePair.text]⟩

theorem Course.waits (h : Course base header source offers refused result)
    (hpair : Carries base header source pair) {before after : List Offer} {offer : Offer}
    (hsplit : offers = before ++ offer :: after) (hoffer : offer.file = .source) :
    acceptedText .header before = pair.header ∧ ∀ later ∈ after, later.file = .source := by
  have hfirst {offers : List Offer} (hoffers : ∀ offer ∈ offers, offer.file = .source)
      (hsplit : taken .header header ++ offers = before ++ offer :: after) :
      acceptedText .header before = pair.header ∧ ∀ later ∈ after, later.file = .source := by
    obtain ⟨more, rfl, hmore, hafter⟩ :=
      eq_append_of_source Offered.all.file_eq hoffers hsplit hoffer
    exact ⟨by rw [(acceptedText_header_first hmore).1, hpair.header], hafter⟩
  cases h with
  | complete => exact hfirst Offered.all.file_eq hsplit
  | sourceRefused offered => exact hfirst offered.file_eq hsplit
  | headerRefused offered =>
    have := offered.file_eq offer (by simp [hsplit])
    simp [hoffer] at this

theorem Course.stops (h : Course base header source offers refused result)
    {before after : List Offer} {offer : Offer} (hsplit : offers = before ++ offer :: after)
    (hoffer : offer.accepted = false) : after = [] ∧ result = .error .refused := by
  have htaken {file : FileRole} {chunks : List String} :
      ∀ offer ∈ taken file chunks, offer.accepted = true :=
    fun offer hmem => (accepted_of_mem_taken hmem).2
  cases h with
  | complete =>
    have hmem : offer ∈ taken .header header ++ taken .source source := by simp [hsplit]
    rcases List.mem_append.1 hmem with hmem | hmem <;> simp [htaken offer hmem] at hoffer
  | headerRefused offered =>
    obtain ⟨front, last, rfl, hfront, -⟩ := offered.eq_append
    exact ⟨eq_nil_of_refused hfront hsplit hoffer, rfl⟩
  | sourceRefused offered =>
    obtain ⟨front, last, rfl, hfront, -⟩ := offered.eq_append
    rw [← List.append_assoc] at hsplit
    refine ⟨eq_nil_of_refused (fun offer hmem => ?_) hsplit hoffer, rfl⟩
    exact (List.mem_append.1 hmem).elim (htaken offer) (hfront offer)

/-- The file whose sink refused a chunk is told right. -/
theorem Course.refused_iff (h : Course base header source offers refused result) (file : FileRole) :
    Refused file offers ↔ refused = some file := by
  have htaken {other : FileRole} {chunks : List String} : ¬ Refused file (taken other chunks) := by
    rintro ⟨offer, hmem, -, hoffer⟩
    simp [(accepted_of_mem_taken hmem).2] at hoffer
  have hoffered {other : FileRole} {chunks : List String} {offers : List Offer}
      (offered : Offered other chunks offers false) : Refused file offers ↔ other = file := by
    constructor
    · rintro ⟨offer, hmem, hfile, -⟩
      rw [← hfile, offered.file_eq offer hmem]
    · rintro rfl
      obtain ⟨front, last, rfl, -, hlast⟩ := offered.eq_append
      exact ⟨last, by simp, offered.file_eq last (by simp), hlast⟩
  cases h with
  | complete => simp [refused_append, htaken]
  | headerRefused offered => simp [hoffered offered]
  | sourceRefused offered => simp [refused_append, htaken, hoffered offered]

theorem Course.succeeds (h : Course base header source offers refused result)
    (hpair : Carries base header source pair) (hall : ∀ offer ∈ offers, offer.accepted = true) :
    (∀ file, acceptedText file offers = pair.text file) ∧
      ∃ base, result = .ok base ∧ pair.headerName = base ++ ".h" ∧
        pair.sourceName = base ++ ".c" := by
  have hrefused : refused = none := by
    refine Option.eq_none_iff_forall_ne_some.2 fun file hfile => ?_
    obtain ⟨offer, hmem, -, hoffer⟩ := (h.refused_iff file).2 hfile
    simp [hall offer hmem] at hoffer
  cases h with
  | headerRefused => simp at hrefused
  | sourceRefused => simp at hrefused
  | complete =>
    refine ⟨fun file => ?_, _, rfl, hpair.headerName, hpair.sourceName⟩
    have hsource : Offered .source source (taken .source source) true := .all
    obtain ⟨hheader, hrest⟩ := acceptedText_header_first hsource.file_eq
    cases file with
    | header => rw [hheader, hpair.header, FilePair.text]
    | source => rw [hrest, acceptedText_taken, hpair.source, FilePair.text]

theorem Course.failStop (h : Course base header source offers refused result)
    (hpair : Carries base header source pair) : FailStop pair offers result where
  prefixes := h.prefixes hpair
  waits _ _ _ := h.waits hpair
  stops _ _ _ := h.stops
  succeeds := h.succeeds hpair

end Course

/-! ## Byte limits -/

/-- Which of two limited sinks refuses its file is a matter of the sizes of the files. -/
theorem refused_stream_limited (batch : Batch) (stamp : String) (chunking : Chunking)
    (headerLimit sourceLimit : Nat) :
    let refused := (batch.stream stamp chunking (Sink.limited headerLimit).onFirst
      (Sink.limited sourceLimit).onSecond ("", "")).refused
    let pair := batch.files stamp
    (refused = some .header ↔ headerLimit < pair.header.utf8ByteSize) ∧
      (refused = some .source ↔
        pair.header.utf8ByteSize ≤ headerLimit ∧ sourceLimit < pair.source.utf8ByteSize) := by
  have hcomplete (limit : Nat) (pieces : List String) :
      ((Sink.limited limit).write "" (chunking.chunks pieces)).complete = true ↔
        (String.join pieces).utf8ByteSize ≤ limit := by
    rw [Sink.complete_write_limited (Nat.zero_le _), chunking.join_chunks]
    simp
  have hheader := hcomplete headerLimit (batch.headerPieces stamp)
  have hsource := hcomplete sourceLimit (batch.sourcePieces stamp)
  simp only [Batch.stream, Sink.write_onFirst, Sink.write_onSecond, Batch.files, FilePair.ofBase]
  split <;> rename_i hfits
  · rw [hheader] at hfits
    split <;> rename_i hfits'
    · rw [hsource] at hfits'
      simp [hfits, hfits']
    · rw [hsource] at hfits'
      simp [hfits]
      omega
  · rw [hheader] at hfits
    simp
    omega

/-! ## Streaming and generating -/

theorem carries_files (batch : Batch) (stamp : String) (chunking : Chunking) :
    Carries batch.base (chunking.chunks (batch.headerPieces stamp))
      (chunking.chunks (batch.sourcePieces stamp)) (batch.files stamp) := by
  constructor <;> simp only [Batch.files, FilePair.ofBase, chunking.join_chunks]

/-- The offers to two sinks over one state when the files of some modulators are streamed, with what
    comes of the streaming. -/
def watched {ρ σ : Type} (scheme : NamingScheme) (clock : TimeSource ρ) (modulators : List Modulator)
    (chunking : Chunking) (headerSink sourceSink : Sink σ) (state : σ) (now : ρ) :
    Batch.Streamed (σ × List Offer) :=
  (stream scheme clock modulators chunking (headerSink.recorded .header)
    (sourceSink.recorded .source) (state, []) now).1

/-- Whatever sinks the files of some modulators are streamed into, they are offered the files that are
    generated otherwise, up to the first chunk that is refused; sinks with byte limits refuse just what
    does not fit. -/
theorem failStop_stream {ρ : Type} (scheme : NamingScheme) (clock : TimeSource ρ)
    (modulators : List Modulator) (chunking : Chunking) (now : ρ) :
    let pair := (generate scheme clock modulators now).1
    (∀ {σ : Type} (headerSink sourceSink : Sink σ) (state : σ),
      let streamed := (stream scheme clock modulators chunking headerSink sourceSink state now).1
      let record := watched scheme clock modulators chunking headerSink sourceSink state now
      record.state.1 = streamed.state ∧ record.result = streamed.result ∧
        FailStop pair record.state.2 streamed.result) ∧
      ∀ headerLimit sourceLimit,
        let record := watched scheme clock modulators chunking (Sink.limited headerLimit).onFirst
          (Sink.limited sourceLimit).onSecond ("", "") now
        (Refused .header record.state.2 ↔ headerLimit < pair.header.utf8ByteSize) ∧
          (Refused .source record.state.2 ↔
            pair.header.utf8ByteSize ≤ headerLimit ∧ sourceLimit < pair.source.utf8ByteSize) := by
  intro pair
  set stamp := (clock.timestamp now).1
  set batch := Batch.ofModulators scheme modulators
  have hpair := carries_files batch stamp chunking
  constructor
  · intro σ headerSink sourceSink state streamed record
    obtain ⟨offers, hrecord, hcourse⟩ :=
      course_stream batch stamp chunking headerSink sourceSink state
    have hstate : record = _ := hrecord
    rw [hstate]
    exact ⟨rfl, rfl, hcourse.failStop hpair⟩
  · intro headerLimit sourceLimit record
    obtain ⟨offers, hrecord, hcourse⟩ := course_stream batch stamp chunking
      (Sink.limited headerLimit).onFirst (Sink.limited sourceLimit).onSecond ("", "")
    have hstate : record = _ := hrecord
    rw [hstate, hcourse.refused_iff, hcourse.refused_iff]
    exact refused_stream_limited batch stamp chunking headerLimit sourceLimit

end Modulators

end FirmwareGen
