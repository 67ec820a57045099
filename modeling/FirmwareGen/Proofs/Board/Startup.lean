-- SUMMARY: The start-up function of a board starts every peripheral once, in a fixed order.
import FirmwareGen.Proofs.Board.Sections
/-!
# The start-up sequence

The start-up function of a board is merged from its five lists. Its statements are told by steps: the
interrupts are enabled, each timer is started, with its interrupt if that is enabled, then each serial
peripheral, and last each output is set low. Lines without a statement are blank or hold a remark.
-/

namespace FirmwareGen.Board

open C Text

/-! ## Steps -/

/-- What a statement of the start-up function does. -/
inductive StartStep
  | enableInterrupts
  | start (name : String)
  | startInterrupt (name : String)
  /-- Drives a pin low, through its own mask. -/
  | setLow (name : String)
  deriving DecidableEq, Repr

/-- The statement of a step, in its line. -/
def StartStep.line : StartStep → String
  | .enableInterrupts => "    CyGlobalIntEnable;"
  | .start name => "    " ++ Naming.cIdentifier name ++ "_Start();"
  | .startInterrupt name => startLine (Naming.cIdentifier name ++ "_ISR")
  | .setLow name =>
    "    " ++ Naming.macroName name ++ "_PORT_DR &= ~" ++ Naming.macroName name ++
      "_MASK; // Set initial state to low"

/-- A timer is started, and then its interrupt if that is enabled. -/
def timerSteps (timer : Timer) : List StartStep :=
  .start timer.name :: if timer.enableInterrupt then [.startInterrupt timer.name] else []

/-- The steps of a board, in their order. -/
def startSteps (board : Board) : List StartStep :=
  .enableInterrupts :: (board.timers.flatMap timerSteps ++
    board.uarts.map (fun uart => .start uart.name) ++
    board.i2cs.map (fun i2c => .start i2c.name) ++ board.spis.map (fun spi => .start spi.name) ++
    (board.pins.filter (·.mode = .output)).map fun pin => .setLow pin.name)

/-- Whether a line of a body has a statement: it is not empty and does not begin with a remark. -/
def isStatement (line : String) : Bool :=
  line != "" && !"    /* ".toList.isPrefixOf line.toList

/-- A source whose start-up function has a body with the statements of a board. -/
structure StartsUp (board : Board) (source : String) (body : List String) : Prop where
  /-- The statements are the steps of the board, in order. -/
  steps : body.filter isStatement = board.startSteps.map StartStep.line
  /-- A line without a statement is blank or a remark. -/
  remarks : ∀ line ∈ body, isStatement line = false →
    line = "" ∨ ∃ remark, line = "    /* " ++ remark ++ " */"
  /-- The body stands in the source below the head of the function. -/
  written : ∃ front back, source =
    front ++ "void PsocConfig_Init(void)\n\x7b\n" ++ String.join (body.map (· ++ "\n")) ++
      "\x7d\n" ++ back
  /-- It is the body of the one function of this name. -/
  defined : ∃ stamp statements, source = Listing.text layout (board.source stamp) ∧
    (definitions (board.source stamp)).filter (fun function =>
      function.1.name = "PsocConfig_Init") =
        [(.function .plain "void" "PsocConfig_Init" [], statements)] ∧
    body = statements.flatMap (Statement.lines layout)
  /-- It is found in the lines of the source, if no text of the board breaks a line. -/
  found : board.OneLine →
    bodiesWith (.function .plain "void" "PsocConfig_Init" []) (lines source) = [body]

/-! ## Lines with statements -/

theorem solid_cIdentifier (name : String) : Solid (Naming.cIdentifier name) := by
  rw [Solid, Naming.cIdentifier, Naming.underscored, String.toList_ofList, List.mem_map]
  rintro ⟨c, -, hc⟩
  split at hc
  · cases hc
  · next hblank => exact hblank (List.mem_singleton.2 hc)

/-- A line that begins with a word begins with no remark: the first word of a remark has two
    characters. -/
theorem isStatement_word {word : String} (h : Solid word) (hlength : 2 < word.toList.length)
    (rest : String) : isStatement ("    " ++ word ++ rest) = true := by
  obtain ⟨a, b, c, tail, hword⟩ : ∃ a b c tail, word.toList = a :: b :: c :: tail := by
    match hword : word.toList with
    | [] | [_] | [_, _] => simp [hword] at hlength
    | a :: b :: c :: tail => exact ⟨a, b, c, tail, rfl⟩
  have hblank : c ≠ ' ' := by
    rintro rfl
    exact h (by simp [hword])
  have hline : ("    " ++ word ++ rest).toList =
      ' ' :: ' ' :: ' ' :: ' ' :: a :: b :: c :: (tail ++ rest.toList) := by
    simp [hword]
  have hne : "    " ++ word ++ rest ≠ "" := by
    intro hempty
    rw [hempty] at hline
    cases hline
  simp [isStatement, hne, hline, List.isPrefixOf, Ne.symm hblank]

/-- Every step is a statement. -/
theorem isStatement_line (step : StartStep) : isStatement step.line = true := by
  cases step with
  | enableInterrupts => decide
  | start name =>
    have hword : Solid (Naming.cIdentifier name ++ "_Start") :=
      solid_append (solid_cIdentifier name) (solid_ofList rfl)
    have hline : (StartStep.start name).line =
        "    " ++ (Naming.cIdentifier name ++ "_Start") ++ "();" := by
      simp [StartStep.line, ← String.toList_inj]
    rw [hline]
    exact isStatement_word hword (by simp) _
  | startInterrupt name =>
    have hword : Solid (Naming.cIdentifier name ++ "_ISR") :=
      solid_append (solid_cIdentifier name) (solid_ofList rfl)
    have hline : (StartStep.startInterrupt name).line =
        "    " ++ (Naming.cIdentifier name ++ "_ISR") ++
          ("_StartEx(" ++ Naming.cIdentifier name ++ "_ISR);") := by
      simp [StartStep.line, startLine, ← String.toList_inj]
    rw [hline]
    exact isStatement_word hword (by simp) _
  | setLow name =>
    have hword : Solid (Naming.macroName name ++ "_PORT_DR") :=
      solid_append (solid_macroName name) (solid_ofList rfl)
    have hline : (StartStep.setLow name).line =
        "    " ++ (Naming.macroName name ++ "_PORT_DR") ++
          (" &= ~" ++ Naming.macroName name ++ "_MASK; // Set initial state to low") := by
      simp [StartStep.line, ← String.toList_inj]
    rw [hline]
    exact isStatement_word hword (by simp) _

/-! ## The body -/

/-- What the body has for a peripheral: its name in a remark, its steps and a blank line. -/
def paragraph (name : String) (steps : List StartStep) : List String :=
  ("    /* Initialize " ++ name ++ " */") :: steps.map StartStep.line ++ [""]

theorem filter_paragraph (name : String) (steps : List StartStep) :
    (paragraph name steps).filter isStatement = steps.map StartStep.line := by
  have hremark : isStatement ("    /* Initialize " ++ name ++ " */") = false := by
    simp [isStatement]
  have hblank : isStatement "" = false := by decide
  have hsteps : (steps.map StartStep.line).filter isStatement = steps.map StartStep.line := by
    rw [List.filter_eq_self, List.forall_mem_map]
    exact fun step _ => isStatement_line step
  rw [paragraph, List.filter_append, List.filter_cons_of_neg (by simp [hremark]), hsteps,
    List.filter_cons_of_neg (by simp [hblank]), List.filter_nil, List.append_nil]

theorem remarks_paragraph (name : String) (steps : List StartStep) :
    ∀ line ∈ paragraph name steps, isStatement line = false →
      line = "" ∨ ∃ remark, line = "    /* " ++ remark ++ " */" := by
  intro line hline hnone
  simp only [paragraph, List.cons_append, List.mem_cons, List.mem_append, List.mem_map,
    List.not_mem_nil, or_false] at hline
  rcases hline with rfl | ⟨step, -, rfl⟩ | rfl
  · exact .inr ⟨"Initialize " ++ name, by simp [← String.toList_inj]⟩
  · rw [isStatement_line] at hnone
    cases hnone
  · exact .inl rfl

theorem line_initRemark (name : String) :
    (initRemark name).lines layout = ["    /* Initialize " ++ name ++ " */"] := by
  simp [initRemark, Statement.lines, line_comment, indent, toString, ← String.toList_inj]

theorem line_startCall (name : String) :
    (startCall name).lines layout = [(StartStep.start name).line] := by
  simp [startCall, callLine, Statement.lines, line_call, StartStep.line, Expr.printList, indent,
    ← String.toList_inj]

theorem line_startInterrupt (timer : Timer) :
    (callLine (isrName timer ++ "_StartEx") [.name (isrName timer)]).lines layout =
      [(StartStep.startInterrupt timer.name).line] :=
  congrArg (fun line => [line]) (line_startEx (isrName timer))

theorem line_reset (pin : Pin) :
    (Statement.simple (clearPin pin (some "Set initial state to low"))).lines layout =
      [(StartStep.setLow pin.name).line] := by
  simp [Statement.lines, line_resetPin, StartStep.line, portMacro, maskMacro, indent,
    ← String.toList_inj]

theorem printBody_startTimer (timer : Timer) :
    printBody (startTimer timer) = paragraph timer.name (timerSteps timer) := by
  unfold startTimer timerSteps
  split <;>
    simp only [printBody, List.flatMap_append, List.flatMap_cons, List.flatMap_nil, line_initRemark,
      line_startCall, line_startInterrupt] <;> rfl

theorem printBody_startSerial (name : String) :
    printBody (startSerial name) = paragraph name [.start name] := by
  simp only [printBody, startSerial, List.flatMap_cons, List.flatMap_nil, line_initRemark,
    line_startCall]
  rfl

/-- An output is set low, and any other pin only named. -/
theorem printBody_startPin (pin : Pin) :
    printBody (startPin pin) =
      paragraph pin.name (if pin.mode = .output then [.setLow pin.name] else []) := by
  unfold startPin
  split <;>
    simp only [printBody, List.flatMap_append, List.flatMap_cons, List.flatMap_nil, line_initRemark,
      line_reset] <;> rfl

variable {board : Board} {stamp : String}

/-- The lines of the body, stretch by stretch. -/
theorem printBody_initBody_eq :
    printBody board.initBody =
      ["    /* Enable global interrupts */", StartStep.enableInterrupts.line, ""] ++
        board.timers.flatMap (fun timer => paragraph timer.name (timerSteps timer)) ++
        board.serialNames.flatMap (fun name => paragraph name [.start name]) ++
        board.pins.flatMap fun pin =>
          paragraph pin.name (if pin.mode = .output then [.setLow pin.name] else []) := by
  rw [printBody_initBody]
  simp only [printBody_startTimer, printBody_startSerial, printBody_startPin]
  rfl

/-- The statements of the start-up function are the steps of the board. -/
theorem filter_initBody :
    (printBody board.initBody).filter isStatement = board.startSteps.map StartStep.line := by
  have hfirst : ["    /* Enable global interrupts */", StartStep.enableInterrupts.line,
      ""].filter isStatement = [StartStep.enableInterrupts.line] := by decide
  have hserial : board.serialNames.flatMap (fun name => [StartStep.start name].map StartStep.line) =
      (board.serialNames.map StartStep.start).map StartStep.line := by
    rw [List.map_map, List.map_eq_flatMap]
    rfl
  have hpins : board.pins.flatMap (fun pin =>
      (if pin.mode = .output then [StartStep.setLow pin.name] else []).map StartStep.line) =
      ((board.pins.filter (·.mode = .output)).map fun pin => .setLow pin.name).map
        StartStep.line := by
    rw [map_filter_eq_flatMap, List.map_flatMap]
  simp only [printBody_initBody_eq, List.filter_append, List.filter_flatMap, filter_paragraph, hfirst,
    hserial, hpins]
  simp [startSteps, serialNames, List.map_flatMap, Function.comp_def]

theorem remarks_initBody :
    ∀ line ∈ printBody board.initBody, isStatement line = false →
      line = "" ∨ ∃ remark, line = "    /* " ++ remark ++ " */" := by
  simp only [printBody_initBody_eq, List.forall_mem_append, List.forall_mem_flatMap]
  refine ⟨⟨⟨?_, fun timer _ => remarks_paragraph _ _⟩, fun name _ => remarks_paragraph _ _⟩,
    fun pin _ => remarks_paragraph _ _⟩
  have hstatement : isStatement StartStep.enableInterrupts.line ≠ false := by decide
  rw [List.forall_mem_cons, List.forall_mem_cons, List.forall_mem_singleton]
  exact ⟨fun _ => .inr ⟨"Enable global interrupts", by decide⟩,
    fun h => absurd h hstatement, fun _ => .inl rfl⟩

/-! ## The source -/

theorem definitions_remarked {α : Type} (xs : List α) (remark : α → String)
    (signature : α → Signature) (body : α → List Statement) :
    definitions (xs.flatMap fun x => remarked (remark x) (signature x) (body x)) =
      xs.map fun x => (signature x, body x) := by
  rw [definitions, List.filterMap_flatMap, List.map_eq_flatMap]
  rfl

/-- The functions that a source defines are those of the board. -/
theorem definitions_source : definitions (board.source stamp) = board.functions := by
  have hinit : definitions board.initFunction = [(initSignature, board.initBody)] := rfl
  simp only [source, sourceSections, definitions_append, hinit, functions]
  unfold timerHandler writeFunction readFunction
  simp only [definitions_remarked]
  rfl

/-- No other function has the name of the start-up function. -/
theorem filter_functions :
    board.functions.filter (fun function => function.1.name = "PsocConfig_Init") =
      [(initSignature, board.initBody)] := by
  have hname : ∀ stem : String, stem ++ "_ISR" ≠ "PsocConfig_Init" ∧
      stem ++ "_Write" ≠ "PsocConfig_Init" ∧ stem ++ "_Read" ≠ "PsocConfig_Init" := fun stem =>
    ⟨append_ne_of_endsWith (by decide) stem, append_ne_of_endsWith (by decide) stem,
      append_ne_of_endsWith (by decide) stem⟩
  simp [functions, handlerSignature, isrName, writeSignature, readSignature, initSignature,
    Signature.name, hname]

/-- The body stands in the lines of a source. -/
theorem lines_source_around :
    ∃ front back, Listing.lines layout (board.source stamp) =
      front ++ ["void PsocConfig_Init(void)", "\x7b"] ++ printBody board.initBody ++ ["\x7d"] ++
        back := by
  refine ⟨Listing.lines layout (board.banner "Source" stamp ++
      [.ownInclude (baseName ++ ".h"), .blank] ++ [.banner ["Initialize all PSOC components"]]),
    "" :: Listing.lines layout (board.interruptTimers.flatMap timerHandler ++
      board.outputPins.flatMap writeFunction ++ board.inputPins.flatMap readFunction), ?_⟩
  simp only [source, sourceSections, lines_append, lines_initFunction, initFront, List.append_assoc]
  rfl

theorem sourceText_around :
    ∃ front back, board.sourceText stamp =
      front ++ "void PsocConfig_Init(void)\n\x7b\n" ++
        String.join ((printBody board.initBody).map (· ++ "\n")) ++ "\x7d\n" ++ back := by
  obtain ⟨front, back, hlines⟩ := @lines_source_around board stamp
  have hhead : String.join (["void PsocConfig_Init(void)", "\x7b"].map (· ++ "\n")) =
      "void PsocConfig_Init(void)\n\x7b\n" := by decide
  have htail : String.join (["\x7d"].map (· ++ "\n")) = "\x7d\n" := by decide
  refine ⟨String.join (front.map (· ++ "\n")), String.join (back.map (· ++ "\n")), ?_⟩
  rw [sourceText, Listing.text, Listing.pieces, hlines]
  simp only [List.map_append, String.join_append, hhead, htail]

example : mixedBoard.startSteps =
    [.enableInterrupts, .start "Tick", .start "Slow Tick", .startInterrupt "Slow Tick",
      .start "Console", .setLow "Status Led", .setLow "Relay"] := by decide

end FirmwareGen.Board
