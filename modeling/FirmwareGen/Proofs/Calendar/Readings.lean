-- SUMMARY: Calls that share a clock read it once each, and a reading shows in the banners alone.
import FirmwareGen.Board.Generate
import FirmwareGen.Proofs.Modulators.Streaming
/-!
# Readings of a clock

Each call of an entry point reads the clock once, at its beginning. The reading shows in one line of
the banner of each text, and what stands in front of it and behind it depends on what is generated
alone. So of calls in a row, whichever they are, the texts of each have the reading of their turn.
-/

namespace FirmwareGen

open C

/-! ## Banners -/

/-- The last line of a banner stands between what the other lines give and the rest of the listing. -/
theorem C.text_banner (layout : Layout) (front : List String) (last : String) (rest : Listing) :
    Listing.text layout (.banner (front ++ [last]) :: rest) =
      "/*\n" ++ String.join (front.map fun text => " * " ++ text ++ "\n") ++ " * " ++ last ++
        "\n */\n" ++ Listing.text layout rest := by
  have hopen : "/*" ++ "\n" = "/*\n" := by decide
  have hclose : "\n" ++ (" */" ++ "\n") = "\n */\n" := by decide
  rw [← hopen, ← hclose]
  simp only [Listing.text, Listing.pieces, Listing.lines, Item.lines, List.flatMap_cons,
    List.map_append, List.map_cons, List.map_nil, List.map_map, Function.comp_def, String.join_append,
    String.join_cons, String.join_nil, String.append_empty, String.append_assoc]

/-! ## What is generated -/

/-- What the files of a call are generated from. -/
inductive Subject
  | drivers (modulators : List Modulator)
  | peripherals (board : Board)

/-- The two files of a subject at a time. -/
def Subject.files (scheme : NamingScheme) : Subject → String → FilePair
  | .drivers modulators => (Modulators.Batch.ofModulators scheme modulators).files
  | .peripherals board => board.files

/-- A text in which the time shows in one line of a comment alone. -/
def Stamped (text : String → String) : Prop :=
  ∃ before after, ∀ stamp,
    text stamp = before ++ " * Generated: " ++ stamp ++ "\n */\n" ++ after

theorem stamped_of_banner {layout : Layout} {listing : String → Listing}
    (h : ∃ front rest, ∀ stamp,
      listing stamp = .banner (front ++ ["Generated: " ++ stamp]) :: rest) :
    Stamped fun stamp => Listing.text layout (listing stamp) := by
  obtain ⟨front, rest, hlisting⟩ := h
  refine ⟨"/*\n" ++ String.join (front.map fun text => " * " ++ text ++ "\n"),
    Listing.text layout rest, fun stamp => ?_⟩
  have hline : " * " ++ "Generated: " = " * Generated: " := by decide
  simp only [hlisting, text_banner, ← hline, String.append_assoc]

open Modulators in
theorem stamped_files (scheme : NamingScheme) (subject : Subject) (file : FileRole) :
    Stamped fun stamp => (subject.files scheme stamp).text file := by
  cases subject with
  | drivers modulators =>
    cases file with
    | header =>
      simp only [Subject.files, Batch.files, FilePair.text, FilePair.header_ofBase]
      exact stamped_of_banner ⟨[_], _, fun _ => rfl⟩
    | source =>
      simp only [Subject.files, Batch.files, FilePair.text, FilePair.source_ofBase]
      exact stamped_of_banner ⟨[_], _, fun _ => rfl⟩
  | peripherals board =>
    cases file with
    | header =>
      simp only [Subject.files, Board.files, FilePair.text, FilePair.header_ofBase]
      exact stamped_of_banner ⟨[_, _], _, fun _ => rfl⟩
    | source =>
      simp only [Subject.files, Board.files, FilePair.text, FilePair.source_ofBase]
      exact stamped_of_banner ⟨[_, _], _, fun _ => rfl⟩

/-! ## Clocks -/

namespace TimeSource

variable {ρ : Type} (clock : TimeSource ρ) (now : ρ)

/-- The state of a clock after a number of readings. -/
def after : Nat → ρ
  | 0 => now
  | count + 1 => (clock.read (after count)).2

/-- The reading that follows a number of others. -/
def reading (count : Nat) : DateTime := (clock.read (clock.after now count)).1

/-- A clock with a record of its readings. -/
def recorded : TimeSource (ρ × List DateTime) where
  read states :=
    let (instant, state) := clock.read states.1
    (instant, (state, states.2 ++ [instant]))

theorem after_read (count : Nat) :
    clock.after (clock.read now).2 count = clock.after now (count + 1) := by
  induction count with
  | zero => rfl
  | succ count ih => exact congrArg (fun state => (clock.read state).2) ih

theorem after_recorded (count : Nat) :
    clock.recorded.after (now, []) count =
      (clock.after now count, (List.range count).map (clock.reading now)) := by
  induction count with
  | zero => rfl
  | succ count ih =>
    rw [after, ih, List.range_succ, List.map_append]
    rfl

end TimeSource

/-! ## Calls -/

/-- A call of one of the entry points that read a clock, without the clock and the scheme. -/
inductive Call : Type 1
  | driverFiles (modulators : List Modulator)
  | driverStream {σ : Type} (modulators : List Modulator) (chunking : Chunking)
      (headerSink sourceSink : Sink σ) (state : σ)
  | boardFiles (board : Board)
  | boardHeader (board : Board)
  | boardSource (board : Board)

def Call.subject : Call → Subject
  | driverFiles modulators => .drivers modulators
  | driverStream modulators _ _ _ _ => .drivers modulators
  | boardFiles board => .peripherals board
  | boardHeader board => .peripherals board
  | boardSource board => .peripherals board

/-- What comes of a call: two files, one text, or what two sinks were offered. -/
inductive Product
  | files (pair : FilePair)
  | text (text : String)
  | streamed (offers : List Offer) (result : Except GenerateError String)

section Calls

variable {ρ : Type} (scheme : NamingScheme) (clock : TimeSource ρ)

def Call.perform : Call → StateM ρ Product
  | driverFiles modulators => return .files (← Modulators.generate scheme clock modulators)
  | driverStream modulators chunking headerSink sourceSink state => do
    let streamed ← Modulators.stream scheme clock modulators chunking
      (headerSink.recorded .header) (sourceSink.recorded .source) (state, [])
    return .streamed streamed.state.2 streamed.result
  | boardFiles board => return .files (← board.generate clock)
  | boardHeader board => return .text (← board.generateHeader clock)
  | boardSource board => return .text (← board.generateSource clock)

/-- Performs calls in turn, with one clock for all of them. -/
def performAll : List Call → StateM ρ (List Product)
  | [] => return []
  | call :: calls => do
    let product ← call.perform scheme clock
    let products ← performAll calls
    return product :: products

end Calls

/-- What comes of a call has the texts of a pair of files. -/
inductive Yields (pair : FilePair) : Call → Product → Prop
  | driverFiles (modulators : List Modulator) : Yields pair (.driverFiles modulators) (.files pair)
  | driverStream {σ : Type} (modulators : List Modulator) (chunking : Chunking)
      (headerSink sourceSink : Sink σ) (state : σ) {offers : List Offer}
      {result : Except GenerateError String} (failStop : FailStop pair offers result) :
    Yields pair (.driverStream modulators chunking headerSink sourceSink state)
      (.streamed offers result)
  | boardFiles (board : Board) : Yields pair (.boardFiles board) (.files pair)
  | boardHeader (board : Board) : Yields pair (.boardHeader board) (.text pair.header)
  | boardSource (board : Board) : Yields pair (.boardSource board) (.text pair.source)

/-- Each of some calls has yielded texts with the reading of its turn. -/
structure InTurn {ρ : Type} (scheme : NamingScheme) (clock : TimeSource ρ) (now : ρ)
    (calls : List Call) (products : List Product) : Prop where
  length : products.length = calls.length
  yields : ∀ k call product, calls[k]? = some call → products[k]? = some product →
    Yields (call.subject.files scheme (clock.reading now k).timestamp) call product

section Calls

variable {ρ : Type} (scheme : NamingScheme) (clock : TimeSource ρ) (now : ρ)

/-- What streaming offers to two sinks has the texts that are generated otherwise. -/
theorem failStop_recorded {σ : Type} (modulators : List Modulator) (chunking : Chunking)
    (headerSink sourceSink : Sink σ) (state : σ) (stamp : String) :
    let batch := Modulators.Batch.ofModulators scheme modulators
    let streamed := batch.stream stamp chunking (headerSink.recorded .header)
      (sourceSink.recorded .source) (state, [])
    FailStop (batch.files stamp) streamed.state.2 streamed.result := by
  intro batch streamed
  obtain ⟨offers, hrecord, hcourse⟩ :=
    Modulators.course_stream batch stamp chunking headerSink sourceSink state
  have hstreamed : streamed = _ := hrecord
  rw [hstreamed]
  exact hcourse.failStop (Modulators.carries_files batch stamp chunking)

/-- What comes of a call at a time. -/
def Call.product (stamp : String) : Call → Product
  | driverFiles modulators => .files ((Subject.drivers modulators).files scheme stamp)
  | driverStream modulators chunking headerSink sourceSink state =>
    let streamed := (Modulators.Batch.ofModulators scheme modulators).stream stamp chunking
      (headerSink.recorded .header) (sourceSink.recorded .source) (state, [])
    .streamed streamed.state.2 streamed.result
  | boardFiles board => .files ((Subject.peripherals board).files scheme stamp)
  | boardHeader board => .text (board.headerText stamp)
  | boardSource board => .text (board.sourceText stamp)

/-- One call makes one reading, at its beginning. -/
theorem perform_eq (call : Call) :
    call.perform scheme clock now =
      (call.product scheme (clock.read now).1.timestamp, (clock.read now).2) := by
  cases call <;> rfl

theorem yields_product (call : Call) (stamp : String) :
    Yields (call.subject.files scheme stamp) call (call.product scheme stamp) := by
  cases call with
  | driverFiles modulators => exact .driverFiles modulators
  | driverStream modulators chunking headerSink sourceSink state =>
    exact .driverStream modulators chunking headerSink sourceSink state
      (failStop_recorded scheme modulators chunking headerSink sourceSink state stamp)
  | boardFiles board => exact .boardFiles board
  | boardHeader board =>
    have htext : board.headerText stamp = (board.files stamp).header := by
      rw [Board.files, FilePair.header_ofBase]
    rw [Call.product, htext]
    exact .boardHeader board
  | boardSource board =>
    have htext : board.sourceText stamp = (board.files stamp).source := by
      rw [Board.files, FilePair.source_ofBase]
    rw [Call.product, htext]
    exact .boardSource board

theorem performAll_cons (call : Call) (calls : List Call) :
    performAll scheme clock (call :: calls) now =
      (call.product scheme (clock.read now).1.timestamp ::
          (performAll scheme clock calls (clock.read now).2).1,
        (performAll scheme clock calls (clock.read now).2).2) := by
  have hstep : performAll scheme clock (call :: calls) now =
      ((call.perform scheme clock now).1 ::
          (performAll scheme clock calls (call.perform scheme clock now).2).1,
        (performAll scheme clock calls (call.perform scheme clock now).2).2) := rfl
  rw [hstep, perform_eq]

/-- Calls in a row make one reading each. -/
theorem inTurn_performAll (calls : List Call) :
    InTurn scheme clock now calls (performAll scheme clock calls now).1 ∧
      (performAll scheme clock calls now).2 = clock.after now calls.length := by
  induction calls generalizing now with
  | nil =>
    refine ⟨⟨rfl, fun k call product hcall => ?_⟩, rfl⟩
    simp at hcall
  | cons call calls ih =>
    obtain ⟨hturn, hstate⟩ := ih (clock.read now).2
    rw [performAll_cons]
    refine ⟨⟨?_, fun k => ?_⟩, ?_⟩
    · rw [List.length_cons, List.length_cons, hturn.length]
    · cases k with
      | zero =>
        rintro _ _ ⟨⟩ ⟨⟩
        exact yields_product scheme call _
      | succ k =>
        intro later product hlater hproduct
        have hreading : clock.reading now (k + 1) = clock.reading (clock.read now).2 k := by
          rw [TimeSource.reading, TimeSource.reading, TimeSource.after_read]
        rw [hreading]
        exact hturn.yields k later product hlater hproduct
    · rw [hstate, TimeSource.after_read, List.length_cons]

end Calls

/-- The time shows in one line of the banner of each text, and what surrounds it is the same for every
    clock. Of calls in a row that share a clock, of whatever kinds they are, each makes one reading,
    the one of its turn, and all its texts have that reading. -/
theorem stamped_performAll (scheme : NamingScheme) :
    (∀ subject file, Stamped fun stamp => (Subject.files scheme subject stamp).text file) ∧
      ∀ {ρ : Type} (clock : TimeSource ρ) (now : ρ) (calls : List Call),
        InTurn scheme clock now calls (performAll scheme clock calls now).1 ∧
          (performAll scheme clock calls now).2 = clock.after now calls.length ∧
          (performAll scheme clock.recorded calls (now, [])).2.2 =
            (List.range calls.length).map (clock.reading now) := by
  refine ⟨stamped_files scheme, fun clock now calls => ?_⟩
  obtain ⟨hturn, hstate⟩ := inTurn_performAll scheme clock now calls
  refine ⟨hturn, hstate, ?_⟩
  rw [(inTurn_performAll scheme clock.recorded (now, []) calls).2, clock.after_recorded]

end FirmwareGen
