-- SUMMARY: What each list of a board puts into the two files; an empty list puts nothing there.
import FirmwareGen.Proofs.Board.Agreement
import FirmwareGen.Proofs.Board.Influence
/-!
# Sections of board configurations

A file of a board is a sequence of stretches of lines. Some belong to one of the five lists of
peripherals and are made up of what each element puts there; the others do not depend on the lists at
all. So emptying a list cuts out just its own stretches. The section of a list has a title, by which it
can be seen in the header whether the list is empty.
-/

namespace FirmwareGen.Board

open C Text

/-! ## Lists of peripherals -/

inductive BoardList
  | pins | timers | uarts | i2cs | spis
  deriving DecidableEq, Repr

namespace BoardList

abbrev Element : BoardList → Type
  | pins => Pin
  | timers => Timer
  | uarts => Uart
  | i2cs => I2c
  | spis => Spi

def elements : (list : BoardList) → Board → List list.Element
  | pins, board => board.pins
  | timers, board => board.timers
  | uarts, board => board.uarts
  | i2cs, board => board.i2cs
  | spis, board => board.spis

/-- The board without the elements of a list. -/
def emptied : BoardList → Board → Board
  | pins, board => { board with pins := [] }
  | timers, board => { board with timers := [] }
  | uarts, board => { board with uarts := [] }
  | i2cs, board => { board with i2cs := [] }
  | spis, board => { board with spis := [] }

def title : BoardList → String
  | pins => "Pin Definitions"
  | timers => "Timer Definitions"
  | uarts => "UART Definitions"
  | i2cs => "I2C Definitions"
  | spis => "SPI Definitions"

/-- The line above the section of a list in the header. -/
def marker (list : BoardList) : String := "/* " ++ list.title ++ " */"

/-- What closes a section. The macros of each pin have a blank line of their own. -/
def closing : BoardList → List Item
  | pins => []
  | timers | uarts | i2cs | spis => [.blank]

/-- What an element puts into the section of its list. -/
def macros : (list : BoardList) → list.Element → List Item
  | pins => pinMacros
  | timers => timerMacros
  | uarts => uartMacros
  | i2cs => i2cMacros
  | spis => spiMacros

/-- What an element puts into the stretches of prototypes that belong to its list. -/
def prototypes : (list : BoardList) → List (list.Element → List String)
  | pins =>
    [fun pin => if pin.mode = .output then [(writeSignature pin).prototypeLine] else [],
     fun pin => if pin.mode = .input then [(readSignature pin).prototypeLine] else []]
  | timers =>
    [fun timer => if timer.enableInterrupt then [(handlerSignature timer).prototypeLine] else []]
  | uarts | i2cs | spis => []

/-- What an element puts into the stretches of the source that belong to its list: where it is started,
    and where its functions are defined. -/
def definitions : (list : BoardList) → List (list.Element → List String)
  | pins =>
    [fun pin => printBody (startPin pin),
     fun pin => if pin.mode = .output then Listing.lines layout (writeFunction pin) else [],
     fun pin => if pin.mode = .input then Listing.lines layout (readFunction pin) else []]
  | timers =>
    [fun timer => printBody (startTimer timer),
     fun timer => if timer.enableInterrupt then Listing.lines layout (timerHandler timer) else []]
  | uarts => [fun uart => printBody (startSerial uart.name)]
  | i2cs => [fun i2c => printBody (startSerial i2c.name)]
  | spis => [fun spi => printBody (startSerial spi.name)]

/-- The section of a list: the title, what the elements put there, and what closes it. -/
def sectionLines (list : BoardList) (board : Board) : List String :=
  match list.elements board with
  | [] => []
  | elements =>
    list.marker :: elements.flatMap (fun element => Listing.lines layout (list.macros element)) ++
      Listing.lines layout list.closing

end BoardList

/-! ## Cutting out stretches -/

/-- Lines from which some stretches are cut out, in the order in which they stand there. -/
inductive Without : List (List String) → List String → List String → Prop
  | nil : Without [] [] []
  | keep {stretches : List (List String)} {lines rest : List String} (line : String)
      (h : Without stretches lines rest) : Without stretches (line :: lines) (line :: rest)
  | cut {stretches : List (List String)} {lines rest : List String} (stretch : List String)
      (h : Without stretches lines rest) : Without (stretch :: stretches) (stretch ++ lines) rest

theorem Without.keep_append {stretches : List (List String)} {lines rest : List String}
    (h : Without stretches lines rest) (kept : List String) :
    Without stretches (kept ++ lines) (kept ++ rest) := by
  induction kept with
  | nil => exact h
  | cons line kept ih => exact ih.keep line

/-- Lines of a file and the list whose elements they belong to, if any. -/
structure Stretch where
  owner : Option BoardList
  lines : List String

/-- The lines of a file. -/
def joined (stretches : List Stretch) : List String := stretches.flatMap (·.lines)

/-- The stretches that belong to a list. -/
def owned (list : BoardList) (stretches : List Stretch) : List (List String) :=
  (stretches.filter (·.owner = some list)).map (·.lines)

/-- The stretches without the lines of a list. -/
def Stretch.silenced (list : BoardList) (stretch : Stretch) : Stretch :=
  if stretch.owner = some list then { stretch with lines := [] } else stretch

theorem without_silenced (list : BoardList) (stretches : List Stretch) :
    Without (owned list stretches) (joined stretches)
      (joined (stretches.map (Stretch.silenced list))) := by
  induction stretches with
  | nil => exact .nil
  | cons stretch stretches ih =>
    unfold owned joined at *
    rw [List.map_cons, List.flatMap_cons, List.flatMap_cons, Stretch.silenced]
    by_cases howner : stretch.owner = some list
    · rw [if_pos howner, List.filter_cons_of_pos (by simpa using howner), List.map_cons]
      exact ih.cut stretch.lines
    · rw [if_neg howner, List.filter_cons_of_neg (by simpa using howner)]
      exact ih.keep_append stretch.lines

/-! ## Stretches of the files -/

section Stretches

variable (board : Board) (stamp : String)

/-- What the elements of a list put into a stretch. -/
def BoardList.stretch (list : BoardList) (lines : list.Element → List String) : Stretch :=
  ⟨some list, (list.elements board).flatMap lines⟩

def headerStretches : List Stretch :=
  [⟨none, Listing.lines layout (board.banner "Header" stamp ++
      [.unlessDefined guardName, .marker guardName, .blank, .systemInclude "project.h", .blank] ++
      clockSection board.clock)⟩,
   ⟨some .pins, BoardList.pins.sectionLines board⟩,
   ⟨some .timers, BoardList.timers.sectionLines board⟩,
   ⟨some .uarts, BoardList.uarts.sectionLines board⟩,
   ⟨some .i2cs, BoardList.i2cs.sectionLines board⟩,
   ⟨some .spis, BoardList.spis.sectionLines board⟩,
   ⟨none, Listing.lines layout [.comment "Function Prototypes", .prototype initSignature]⟩] ++
  BoardList.timers.prototypes.map (BoardList.timers.stretch board) ++
  BoardList.pins.prototypes.map (BoardList.pins.stretch board) ++
  [⟨none, Listing.lines layout [.blank, .blank, .endGuard guardName]⟩]

theorem lines_append (front back : Listing) :
    Listing.lines layout (front ++ back) =
      Listing.lines layout front ++ Listing.lines layout back := List.flatMap_append

/-- The items of the section of a list. -/
def BoardList.items (list : BoardList) : Listing :=
  listSection list.title list.macros list.closing (list.elements board)

theorem lines_items (list : BoardList) :
    Listing.lines layout (list.items board) = list.sectionLines board := by
  unfold BoardList.items listSection BoardList.sectionLines
  cases list.elements board with
  | nil => rfl
  | cons element elements =>
    dsimp only
    rw [lines_append, Listing.lines, List.flatMap_cons, List.flatMap_assoc]
    rfl

/-- The prototypes of a header, list by list. -/
theorem map_prototypeLine_signatures :
    board.signatures.map Signature.prototypeLine =
      initSignature.prototypeLine ::
        joined (BoardList.timers.prototypes.map (BoardList.timers.stretch board)) ++
        joined (BoardList.pins.prototypes.map (BoardList.pins.stretch board)) := by
  have htimers := map_filter_eq_flatMap (fun timer : Timer => timer.enableInterrupt = true)
    (fun timer => (handlerSignature timer).prototypeLine) board.timers
  have hwrites := map_filter_eq_flatMap (fun pin : Pin => pin.mode = .output)
    (fun pin => (writeSignature pin).prototypeLine) board.pins
  have hreads := map_filter_eq_flatMap (fun pin : Pin => pin.mode = .input)
    (fun pin => (readSignature pin).prototypeLine) board.pins
  simp only [Bool.decide_eq_true] at htimers
  simp only [joined, BoardList.prototypes, BoardList.stretch, BoardList.elements, List.map_cons,
    List.map_nil, List.flatMap_cons, List.flatMap_nil, List.append_nil, ← htimers, ← hwrites,
    ← hreads, signatures, List.map_append, List.map_map, Function.comp_def, interruptTimers,
    outputPins, inputPins, List.append_assoc, List.cons_append]

theorem header_eq :
    board.header stamp =
      (board.banner "Header" stamp ++
        [.unlessDefined guardName, .marker guardName, .blank, .systemInclude "project.h", .blank] ++
        clockSection board.clock) ++
      BoardList.pins.items board ++ BoardList.timers.items board ++ BoardList.uarts.items board ++
      BoardList.i2cs.items board ++ BoardList.spis.items board ++
      [.comment "Function Prototypes"] ++ board.signatures.map .prototype ++
      [.blank, .blank, .endGuard guardName] := by
  simp only [header, headerSections, List.append_assoc, List.cons_append, List.nil_append]
  rfl

theorem lines_header :
    Listing.lines layout (board.header stamp) = joined (board.headerStretches stamp) := by
  have hprototypes := @lines_prototypes board
  rw [map_prototypeLine_signatures] at hprototypes
  rw [header_eq]
  simp only [lines_append, lines_items, hprototypes]
  simp only [headerStretches, joined, List.flatMap_append, List.flatMap_cons, List.flatMap_nil,
    List.append_assoc, List.append_nil, List.cons_append, List.nil_append]
  rfl

/-- The lines above the statements of the start-up function. -/
def initFront : List String :=
  Listing.lines layout [.banner ["Initialize all PSOC components"]] ++
    [initSignature.headLine, "\x7b"]

theorem lines_initFunction :
    Listing.lines layout board.initFunction =
      initFront ++ printBody board.initBody ++ ["\x7d", ""] := by
  simp [initFunction, remarked, initFront, Listing.lines, Item.lines, printBody, initSignature,
    Signature.attributeLines]

theorem lines_flatMap_filter {α : Type} (p : α → Prop) [DecidablePred p] (f : α → Listing)
    (xs : List α) :
    Listing.lines layout ((xs.filter fun x => p x).flatMap f) =
      xs.flatMap fun x => if p x then Listing.lines layout (f x) else [] := by
  induction xs with
  | nil => rfl
  | cons x xs ih =>
    rw [List.flatMap_cons, ← ih]
    by_cases hx : p x
    · rw [List.filter_cons_of_pos (by simpa using hx), if_pos hx, List.flatMap_cons, lines_append]
    · rw [List.filter_cons_of_neg (by simpa using hx), if_neg hx, List.nil_append]

def sourceStretches : List Stretch :=
  [⟨none, Listing.lines layout
      (board.banner "Source" stamp ++ [.ownInclude (baseName ++ ".h"), .blank]) ++
      initFront ++ printBody enableInterrupts⟩,
   BoardList.timers.stretch board fun timer => printBody (startTimer timer),
   BoardList.uarts.stretch board fun uart => printBody (startSerial uart.name),
   BoardList.i2cs.stretch board fun i2c => printBody (startSerial i2c.name),
   BoardList.spis.stretch board fun spi => printBody (startSerial spi.name),
   BoardList.pins.stretch board fun pin => printBody (startPin pin),
   ⟨none, ["\x7d", ""]⟩,
   BoardList.timers.stretch board fun timer =>
     if timer.enableInterrupt then Listing.lines layout (timerHandler timer) else [],
   BoardList.pins.stretch board fun pin =>
     if pin.mode = .output then Listing.lines layout (writeFunction pin) else [],
   BoardList.pins.stretch board fun pin =>
     if pin.mode = .input then Listing.lines layout (readFunction pin) else []]

theorem lines_source :
    Listing.lines layout (board.source stamp) = joined (board.sourceStretches stamp) := by
  have hhandlers := lines_flatMap_filter (fun timer : Timer => timer.enableInterrupt = true)
    timerHandler board.timers
  have hwrites := lines_flatMap_filter (fun pin : Pin => pin.mode = .output) writeFunction board.pins
  have hreads := lines_flatMap_filter (fun pin : Pin => pin.mode = .input) readFunction board.pins
  simp only [Bool.decide_eq_true] at hhandlers
  simp only [source, sourceSections, lines_append, lines_initFunction, printBody_initBody,
    interruptTimers, outputPins, inputPins, hhandlers, hwrites, hreads, serialNames,
    List.flatMap_append, List.flatMap_map]
  simp only [sourceStretches, joined, BoardList.stretch, BoardList.elements, List.flatMap_cons,
    List.flatMap_nil, lines_append, List.append_assoc, List.append_nil]

/-! ## Emptied lists -/

theorem owned_headerStretches (list : BoardList) :
    owned list (board.headerStretches stamp) =
      list.sectionLines board :: list.prototypes.map (list.elements board).flatMap := by
  cases list <;> rfl

theorem owned_sourceStretches (list : BoardList) :
    owned list (board.sourceStretches stamp) =
      list.definitions.map (list.elements board).flatMap := by
  cases list <;> rfl

theorem headerStretches_emptied (list : BoardList) :
    (list.emptied board).headerStretches stamp =
      (board.headerStretches stamp).map (Stretch.silenced list) := by
  cases list <;> rfl

theorem sourceStretches_emptied (list : BoardList) :
    (list.emptied board).sourceStretches stamp =
      (board.sourceStretches stamp).map (Stretch.silenced list) := by
  cases list <;> rfl

theorem oneLine_emptied {board : Board} (h : board.OneLine) (list : BoardList) :
    (list.emptied board).OneLine := by
  obtain ⟨hproject, hversion, hpins, htimers, huarts, hi2cs, hspis⟩ := h
  cases list
  · exact ⟨hproject, hversion, List.forall_mem_nil _, htimers, huarts, hi2cs, hspis⟩
  · exact ⟨hproject, hversion, hpins, List.forall_mem_nil _, huarts, hi2cs, hspis⟩
  · exact ⟨hproject, hversion, hpins, htimers, List.forall_mem_nil _, hi2cs, hspis⟩
  · exact ⟨hproject, hversion, hpins, htimers, huarts, List.forall_mem_nil _, hspis⟩
  · exact ⟨hproject, hversion, hpins, htimers, huarts, hi2cs, List.forall_mem_nil _⟩

end Stretches

/-! ## Titles -/

section Titles

variable {board : Board} {stamp : String}

/-- The title on a line that has nothing else. -/
def title? (line : String) : Option String := between? "/* " " */" line

theorem title?_of_head (line : String) (h : line.toList.head? ≠ some '/') : title? line = none :=
  between?_of_head (by simp) " */" line h

theorem scan_comment (text : String) : scan layout title? [.comment text] = [text] := by
  rw [scan, List.flatMap_singleton, Item.lines]
  simp [title?]

/-- Items with lines of other kinds have no titles. -/
def Untitled (listing : Listing) : Prop := scan layout title? listing = []

theorem untitled_of_heads {listing : Listing} (h : ∀ item ∈ listing, '/' ∉ item.heads) :
    Untitled listing := scan_eq_nil title?_of_head h

theorem untitled_append {front back : Listing} (hfront : Untitled front) (hback : Untitled back) :
    Untitled (front ++ back) := by
  rw [Untitled, scan_append, hfront, hback, List.append_nil]

theorem untitled_lineComment (text : String) : Untitled [.lineComment text] := by
  have htext : title? ("// " ++ text) = none := between?_ofList_append rfl rfl _ _
  simp [Untitled, scan, Item.lines, htext]

theorem untitled_banner (texts : List String) : Untitled [.banner texts] := by
  have hopen : title? "/*" = none := between?_ofList rfl _
  have htexts : (texts.map (" * " ++ ·)).filterMap title? = [] := by
    rw [List.filterMap_eq_nil_iff, List.forall_mem_map]
    exact fun text _ => title?_of_head _ (by simp)
  have hclose : title? " */" = none := title?_of_head _ (by simp)
  simp only [Untitled, scan, List.flatMap_singleton, Item.lines, List.filterMap_append, htexts,
    List.filterMap_cons_none hopen, List.filterMap_cons_none hclose, List.filterMap_nil,
    List.append_nil]

theorem untitled_macros (list : BoardList) (element : list.Element) :
    Untitled (list.macros element) := by
  have hconstants : ∀ listing : Listing, (∀ item ∈ listing, item.heads = ['#']) →
      Untitled listing := by
    intro listing h
    exact untitled_of_heads fun item hitem => by simp [h item hitem]
  have hblank : Untitled [.blank] := untitled_of_heads (by simp [Item.heads])
  cases list with
  | pins =>
    refine untitled_append (untitled_append (hconstants _ (by simp [Item.heads])) ?_) hblank
    split
    · rfl
    · exact untitled_lineComment _
  | timers =>
    refine hconstants _ ?_
    simp only [BoardList.macros, timerMacros]
    split <;> simp [setting, Item.heads]
  | uarts => exact hconstants _ (by simp [BoardList.macros, uartMacros, setting, Item.heads])
  | i2cs =>
    refine hconstants _ ?_
    simp only [BoardList.macros, i2cMacros]
    split <;> simp [setting, Item.heads]
  | spis => exact hconstants _ (by simp [BoardList.macros, spiMacros, setting, Item.heads])

theorem scan_items (list : BoardList) :
    scan layout title? (list.items board) =
      if list.elements board = [] then [] else [list.title] := by
  have hclosing : Untitled list.closing := by
    cases list <;> exact untitled_of_heads (by simp [BoardList.closing, Item.heads])
  unfold BoardList.items listSection
  cases list.elements board with
  | nil => rfl
  | cons element elements =>
    have hmacros : Untitled ((element :: elements).flatMap list.macros) := by
      rw [Untitled, scan_flatMap, List.flatMap_eq_nil_iff]
      exact fun element _ => untitled_macros list element
    dsimp only
    rw [scan_append, hclosing, List.append_nil, if_neg (List.cons_ne_nil _ _),
      ← List.singleton_append, scan_append, scan_comment, hmacros, List.append_nil]

theorem scan_clockSection (clock : ClockSettings) :
    scan layout title? (clockSection clock) = ["Clock Configuration"] := by
  have hrest : Untitled
      ([.constant "MAIN_CLOCK_FREQ_HZ" 4 (unsigned clock.mainFrequency.toNat)] ++
        (if clock.usesCrystal then
          [.constant "EXTERNAL_CRYSTAL_FREQ_HZ" 4 (unsigned clock.crystalFrequency.toNat),
           .constant "USE_EXTERNAL_CRYSTAL" 4 (.literal "1")]
        else [.constant "USE_EXTERNAL_CRYSTAL" 4 (.literal "0")]) ++ [.blank]) := by
    refine untitled_of_heads ?_
    split <;> simp [Item.heads]
  have hsplit : clockSection clock = [.comment "Clock Configuration"] ++ _ := rfl
  rw [hsplit, scan_append, scan_comment]
  exact congrArg (List.cons _) hrest

/-- The titles in a header. -/
theorem scan_header :
    scan layout title? (board.header stamp) =
      ["Clock Configuration"] ++
        [BoardList.pins, .timers, .uarts, .i2cs, .spis].flatMap (fun list =>
          if list.elements board = [] then [] else [list.title]) ++
        ["Function Prototypes"] := by
  have hbanner : Untitled (board.banner "Header" stamp) :=
    untitled_append (untitled_banner _) (untitled_of_heads (by simp [Item.heads]))
  have hguard : Untitled [.unlessDefined guardName, .marker guardName, .blank,
      .systemInclude "project.h", .blank] := untitled_of_heads (by simp [Item.heads])
  have hprototypes : Untitled (board.signatures.map .prototype) := by
    refine untitled_of_heads ?_
    simp only [signatures, List.forall_mem_map, List.forall_mem_append, List.forall_mem_cons]
    simp [Item.heads, Signature.heads, initSignature, handlerSignature, writeSignature,
      readSignature]
  have hend : Untitled [.blank, .blank, .endGuard guardName] :=
    untitled_of_heads (by simp [Item.heads])
  rw [Untitled] at hbanner hguard hprototypes hend
  simp only [header_eq, scan_append, scan_items, scan_clockSection, scan_comment, hbanner, hguard,
    hprototypes, hend, List.nil_append, List.append_nil, List.flatMap_cons, List.flatMap_nil,
    List.append_assoc]

theorem BoardList.title_injective {list other : BoardList} (h : list.title = other.title) :
    list = other := by
  cases list <;> cases other <;> first | rfl | exact absurd h (by decide)

theorem BoardList.title_ne (list : BoardList) :
    list.title ≠ "Clock Configuration" ∧ list.title ≠ "Function Prototypes" := by
  cases list <;> decide

/-- The title of a list stands in the header just if the list has an element. -/
theorem marker_mem_header_iff (list : BoardList) :
    list.marker ∈ Listing.lines layout (board.header stamp) ↔ list.elements board ≠ [] := by
  have hread : list.marker ∈ Listing.lines layout (board.header stamp) ↔
      list.title ∈ scan layout title? (board.header stamp) := by
    rw [← filterMap_lines, List.mem_filterMap]
    constructor
    · exact fun hmem => ⟨list.marker, hmem, between?_append _ _ _⟩
    · rintro ⟨line, hline, htitle⟩
      rwa [BoardList.marker, ← between?_eq_some_iff.1 htitle]
  have htitle : list.title ∈ scan layout title? (board.header stamp) ↔
      ∃ other : BoardList, other.elements board ≠ [] ∧ list.title = other.title := by
    obtain ⟨hclock, hprototypes⟩ := list.title_ne
    simp only [scan_header, List.mem_append, List.mem_singleton, hclock, hprototypes, false_or,
      or_false, List.mem_flatMap]
    constructor
    · rintro ⟨other, -, hother⟩
      by_cases hempty : other.elements board = []
      · simp [hempty] at hother
      · exact ⟨other, hempty, by simpa [hempty] using hother⟩
    · rintro ⟨other, hother, heq⟩
      exact ⟨other, by cases other <;> simp, by simp [hother, heq]⟩
  rw [hread, htitle]
  constructor
  · rintro ⟨other, hother, heq⟩
    rwa [BoardList.title_injective heq]
  · exact fun hlist => ⟨list, hlist, rfl⟩

end Titles

/-! ## Silent lists -/

/-- What a list of a board has to do with the two files of the board. -/
structure Silent (list : BoardList) (board : Board) (header source header' source' : List String) :
    Prop where
  /-- The title of the list stands in the header just if the list has an element. -/
  marked : list.marker ∈ header ↔ list.elements board ≠ []
  /-- Without its elements the header is without its section and their prototypes. -/
  header : Without
    (list.sectionLines board :: list.prototypes.map (list.elements board).flatMap) header header'
  /-- Without its elements the source does not start them and does not define their functions. -/
  source : Without (list.definitions.map (list.elements board).flatMap) source source'

/-- The files of a board depend on no more than what shows of it, and an empty list does not show at
    all. -/
theorem dependence_generate {ρ : Type} (clock : TimeSource ρ) (state : ρ) (board : Board) :
    (∀ other, board.Alike other → board.generate clock state = other.generate clock state) ∧
      (board.OneLine → ∀ list : BoardList,
        Silent list board
          (lines (board.generate clock state).1.header)
          (lines (board.generate clock state).1.source)
          (lines ((list.emptied board).generate clock state).1.header)
          (lines ((list.emptied board).generate clock state).1.source)) := by
  refine ⟨fun other h => generate_eq_of_alike h clock state, fun h list => ?_⟩
  obtain ⟨hheader, hsource⟩ := lines_files h (clock.read state).1
  obtain ⟨hheader', hsource'⟩ := lines_files (oneLine_emptied h list) (clock.read state).1
  rw [files_generate, files_generate, hheader, hsource, hheader', hsource']
  refine ⟨marker_mem_header_iff list, ?_, ?_⟩
  · rw [lines_header, lines_header, headerStretches_emptied, ← owned_headerStretches]
    exact without_silenced list _
  · rw [lines_source, lines_source, sourceStretches_emptied, ← owned_sourceStretches]
    exact without_silenced list _

/-- The board of `mixedBoard` with other settings that do not show. -/
def rewiredBoard : Board :=
  { mixedBoard with
    clock := { crystalFrequency := 32768 }
    pins := mixedBoard.pins.map fun pin =>
      if pin.mode = .analog then { pin with mode := .bidirectional } else { pin with pullUp := true }
    timers :=
      [{ name := "Tick", interruptHandler := "beat" },
       { name := "Slow Tick", mode := .pwm, enableInterrupt := true, interruptHandler := "beat" }]
    uarts := [{ name := "Console", parity := .even, txPin := "Relay" }] }

theorem dependence_generate_mixedBoard :
    mixedBoard.Alike rewiredBoard ∧ mixedBoard.OneLine ∧
      mixedBoard.generate (.fixed ⟨2024, 2, 29, 12, 0, 0, 0⟩) () =
        rewiredBoard.generate (.fixed ⟨2024, 2, 29, 12, 0, 0, 0⟩) () ∧
      BoardList.pins.marker ∈
        lines (mixedBoard.generate (.fixed ⟨2024, 2, 29, 12, 0, 0, 0⟩) ()).1.header := by
  have halike : mixedBoard.Alike rewiredBoard := by
    constructor <;> decide
  obtain ⟨hagree, hsilent⟩ :=
    dependence_generate (.fixed ⟨2024, 2, 29, 12, 0, 0, 0⟩) () mixedBoard
  refine ⟨halike, oneLine_mixedBoard, hagree _ halike, ?_⟩
  exact (hsilent oneLine_mixedBoard .pins).marked.2 (by decide)

end FirmwareGen.Board
