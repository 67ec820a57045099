-- SUMMARY: The handlers that the start-up function passes on, and the masks that a source uses.
import FirmwareGen.Proofs.Board.Functions
/-!
# Bodies of board configurations

In the bodies of a source, a reader finds the calls that pass an argument, and the masks, which are
the last operands of assignments and of results. Names have no blanks where they stand in operands,
so a mask is a word of its own.
-/

namespace FirmwareGen.Board

open C Text

/-! ## Reading bodies -/

/-- Whether a line ends a call with an argument. -/
def passesArgument (line : String) : Bool := endsWith ");" line && !endsWith "();" line

/-- The words of a text, between single blanks. -/
def words (text : String) : List String := (text.toList.splitOn ' ').map String.ofList

/-- The operand behind an operator, the last two words in front of an ending. -/
def operand? (operator ending line : String) : Option String :=
  (between? "" ending line).bind fun text =>
    match (words text).reverse with
    | operand :: word :: _ => if word = operator then some operand else none
    | _ => none

/-- The mask that a line drives a pin with or senses it through. -/
def usedMask? (line : String) : Option String :=
  (((operand? "|=" ";" line).bind (between? "" "_MASK")) <|>
    ((operand? "&=" ";" line).bind (between? "~" "_MASK")) <|>
    ((operand? "&=" "; // Set initial state to low" line).bind (between? "~" "_MASK")) <|>
    ((operand? "&" ") ? 1u : 0u;" line).bind (between? "" "_MASK"))).map (· ++ "_MASK")

/-- The lines between the braces of a file. -/
def bodyLines (lines : List String) : List String := (blocks lines).flatMap Block.body

/-- The masks that are used in the functions of a file. -/
def usedMasks (lines : List String) : List String := (bodyLines lines).filterMap usedMask?

/-- A line that uses a mask, or one of a call or of a remark, or one without operands. -/
def Understood (line : String) : Prop :=
  (usedMask? line).isSome = true ∨ endsWith ");" line = true ∨ endsWith " */" line = true ∨
    line ∈ ["", "    CyGlobalIntEnable;", "    if (value)", "    else"]

/-- The bodies of the functions with a signature. -/
def bodiesWith (signature : Signature) (lines : List String) : List (List String) :=
  ((blocks lines).filter fun block => definition? block.head = some signature).map Block.body

/-! ## Words -/

/-- A text without blanks. -/
def Solid (text : String) : Prop := ' ' ∉ text.toList

theorem solid_append {a b : String} (ha : Solid a) (hb : Solid b) : Solid (a ++ b) := by
  rw [Solid, String.toList_append, List.mem_append]
  exact not_or.2 ⟨ha, hb⟩

/-- For literals, as `oneLine_ofList`. -/
theorem solid_ofList {cs : List Char} (h : cs.all (· != ' ') = true) : Solid (String.ofList cs) := by
  rw [Solid, String.toList_ofList]
  intro hmem
  exact absurd (List.all_eq_true.1 h ' ' hmem) (by decide)

theorem solid_macroName (name : String) : Solid (Naming.macroName name) := by
  rw [Solid, Naming.macroName, Naming.underscored, String.toList_ofList, List.mem_map]
  rintro ⟨c, -, hc⟩
  split at hc
  · cases hc
  · next hblank => exact hblank (List.mem_singleton.2 hc)

theorem words_append {word : String} (h : Solid word) (front : String) :
    words (front ++ " " ++ word) = words front ++ [word] := by
  have hlist : (front ++ " " ++ word).toList = front.toList ++ ' ' :: word.toList := by simp
  rw [words, hlist, List.splitOn_append_cons_self, List.splitOn_eq_singleton h, List.map_append,
    List.map_singleton, String.ofList_toList]
  rfl

theorem operand?_append {word operand : String} (hword : Solid word) (hoperand : Solid operand)
    (operator front ending : String) :
    operand? operator ending (front ++ " " ++ word ++ " " ++ operand ++ ending) =
      if word = operator then some operand else none := by
  rw [operand?, ← String.empty_append (s := front ++ " " ++ word ++ " " ++ operand),
    between?_append, Option.bind_some, words_append hoperand, words_append hword]
  simp only [List.reverse_append, List.reverse_singleton, List.singleton_append]

theorem suffix_intercalate {α : Type} (separator last : List α) (init : List (List α)) :
    last <:+ separator.intercalate (init ++ [last]) := by
  induction init with
  | nil =>
    have hsingle : separator.intercalate [last] = last := List.intercalate_singleton
    exact ⟨[], hsingle.symm⟩
  | cons first init ih =>
    rw [List.cons_append, List.intercalate_cons_of_ne_nil (List.append_ne_nil_of_right_ne_nil _
      (List.cons_ne_nil _ _))]
    exact ih.trans (List.suffix_append _ _)

theorem eq_append_of_words {text last : String} {init : List String}
    (h : words text = init ++ [last]) : ∃ front, text = front ++ last := by
  have hsplit : text.toList.splitOn ' ' = init.map String.toList ++ [last.toList] := by
    have hlists := congrArg (List.map String.toList) h
    simpa [words, Function.comp_def] using hlists
  have hsuffix := suffix_intercalate [' '] last.toList (init.map String.toList)
  rw [← hsplit, List.intercalate_splitOn] at hsuffix
  obtain ⟨front, hfront⟩ := hsuffix
  exact ⟨String.ofList front, by simp [← String.toList_inj, hfront]⟩

/-- An operand stands in front of the ending. -/
theorem eq_append_of_operand? {operator ending line operand : String}
    (h : operand? operator ending line = some operand) :
    ∃ front, line = front ++ operand ++ ending := by
  obtain ⟨text, htext, hwords⟩ := Option.bind_eq_some_iff.1 h
  have hline := between?_eq_some_iff.1 htext
  rw [String.empty_append] at hline
  split at hwords
  · next found word rest hreverse =>
    split at hwords
    · obtain rfl := Option.some.inj hwords
      have hinit : words text = (word :: rest).reverse ++ [found] := by
        rw [← List.reverse_reverse (words text), hreverse, List.reverse_cons]
      obtain ⟨front, rfl⟩ := eq_append_of_words hinit
      exact ⟨front, hline⟩
    · cases hwords
  · cases hwords

theorem operand?_of_endsWith {ending line : String} (h : endsWith ending line = false)
    (operator : String) : operand? operator ending line = none := by
  rw [operand?, between?_of_endsWith h]
  rfl

/-- Lines that do not end in one of three ways use no mask. -/
theorem usedMask?_eq_none {line : String} (hmask : endsWith "_MASK;" line = false)
    (hremark : endsWith "; // Set initial state to low" line = false)
    (hresult : endsWith ") ? 1u : 0u;" line = false) : usedMask? line = none := by
  -- Many lines end in a semicolon, so here the operand has to be looked at.
  have hassign : ∀ operator front,
      (operand? operator ";" line).bind (between? front "_MASK") = none := by
    intro operator front
    rw [Option.bind_eq_none_iff]
    intro operand hoperand
    cases hstem : between? front "_MASK" operand with
    | none => rfl
    | some stem =>
      obtain ⟨before, hline⟩ := eq_append_of_operand? hoperand
      have hends : line = before ++ front ++ stem ++ "_MASK;" := by
        rw [hline, between?_eq_some_iff.1 hstem]
        simp [← String.toList_inj]
      rw [hends, endsWith_append_self] at hmask
      cases hmask
  rw [usedMask?, hassign, hassign, operand?_of_endsWith hremark, operand?_of_endsWith hresult]
  rfl

/-! ## Lines of statements -/

/-- The lines of a body. -/
def printBody (body : List Statement) : List String := body.flatMap (Statement.lines layout)

theorem line_comment (text : String) (level : Nat) :
    (Simple.comment text).line level = indent level ++ "/* " ++ text ++ " */" := by
  simp [Simple.line, Simple.print, ← String.toList_inj]

theorem line_call (callee : String) (arguments : List Expr) (level : Nat) :
    (Simple.evaluate (.call callee arguments)).line level =
      indent level ++ callee ++ "(" ++ Expr.printList arguments ++ ");" := by
  simp [Simple.line, Simple.print, Expr.print, ← String.toList_inj]

theorem line_raisePin (pin : Pin) (level : Nat) :
    (raisePin pin).line level =
      indent level ++ portMacro pin ++ "_DR" ++ " " ++ "|=" ++ " " ++ maskMacro pin ++ ";" := by
  simp [raisePin, dataRegister, pinMask, Simple.line, Simple.print, Expr.print, AssignOp.symbol,
    printRemark, ← String.toList_inj]

theorem line_clearPin (pin : Pin) (level : Nat) :
    (clearPin pin none).line level =
      indent level ++ portMacro pin ++ "_DR" ++ " " ++ "&=" ++ " " ++ ("~" ++ maskMacro pin) ++
        ";" := by
  simp [clearPin, dataRegister, pinMask, Simple.line, Simple.print, Expr.print, AssignOp.symbol,
    UnaryOp.symbol, printRemark, ← String.toList_inj]

theorem line_resetPin (pin : Pin) (level : Nat) :
    (clearPin pin (some "Set initial state to low")).line level =
      indent level ++ portMacro pin ++ "_DR" ++ " " ++ "&=" ++ " " ++ ("~" ++ maskMacro pin) ++
        "; // Set initial state to low" := by
  simp [clearPin, dataRegister, pinMask, Simple.line, Simple.print, Expr.print, AssignOp.symbol,
    UnaryOp.symbol, printRemark, ← String.toList_inj]

theorem printBody_readBody (pin : Pin) :
    printBody (readBody pin) =
      ["    return (" ++ portMacro pin ++ "_PS" ++ " " ++ "&" ++ " " ++ maskMacro pin ++
        ") ? 1u : 0u;"] := by
  simp [printBody, readBody, stateRegister, pinMask, Statement.lines, Simple.line, Simple.print,
    Expr.print, BinaryOp.symbol, indent, ← String.toList_inj]

/-- The line that starts the interrupt of a timer. -/
def startLine (isr : String) : String := "    " ++ isr ++ "_StartEx(" ++ isr ++ ");"

theorem line_startEx (isr : String) :
    (Simple.evaluate (.call (isr ++ "_StartEx") [.name isr])).line 1 = startLine isr := by
  simp [startLine, indent, Simple.line, Simple.print, Expr.print, Expr.printList,
    ← String.toList_inj]

/-! ## Lines that use masks -/

theorem solid_maskMacro (pin : Pin) : Solid (maskMacro pin) :=
  solid_append (solid_macroName pin.name) (solid_ofList rfl)

theorem solid_complement (pin : Pin) : Solid ("~" ++ maskMacro pin) :=
  solid_append (solid_ofList rfl) (solid_maskMacro pin)

theorem between?_maskMacro (pin : Pin) :
    between? "" "_MASK" (maskMacro pin) = some (Naming.macroName pin.name) := by
  have hfound := between?_append "" (Naming.macroName pin.name) "_MASK"
  rwa [String.empty_append] at hfound

theorem between?_complement (pin : Pin) :
    between? "~" "_MASK" ("~" ++ maskMacro pin) = some (Naming.macroName pin.name) := by
  rw [maskMacro, ← String.append_assoc, between?_append]

@[simp] theorem usedMask?_raise (pin : Pin) (level : Nat) :
    usedMask? ((raisePin pin).line level) = some (maskMacro pin) := by
  rw [usedMask?, line_raisePin, operand?_append (solid_ofList rfl) (solid_maskMacro pin), if_pos rfl,
    Option.bind_some, between?_maskMacro]
  rfl

@[simp] theorem usedMask?_clear (pin : Pin) (level : Nat) :
    usedMask? ((clearPin pin none).line level) = some (maskMacro pin) := by
  have hoperand := fun operator => operand?_append (solid_ofList rfl : Solid "&=")
    (solid_complement pin) operator (indent level ++ portMacro pin ++ "_DR") ";"
  rw [usedMask?, line_clearPin, hoperand, hoperand, if_neg (by decide), if_pos rfl,
    Option.bind_some, between?_complement]
  rfl

@[simp] theorem usedMask?_reset (pin : Pin) (level : Nat) :
    usedMask? ((clearPin pin (some "Set initial state to low")).line level) =
      some (maskMacro pin) := by
  have hsemicolon :
      endsWith ";" ((clearPin pin (some "Set initial state to low")).line level) = false := by
    rw [line_resetPin]
    exact endsWith_ofList_append rfl rfl _
  rw [usedMask?, operand?_of_endsWith hsemicolon, operand?_of_endsWith hsemicolon, line_resetPin,
    operand?_append (solid_ofList rfl) (solid_complement pin), if_pos rfl, Option.bind_some,
    between?_complement]
  rfl

theorem usedMask?_read (pin : Pin) :
    usedMask? ("    return (" ++ portMacro pin ++ "_PS" ++ " " ++ "&" ++ " " ++ maskMacro pin ++
      ") ? 1u : 0u;") = some (maskMacro pin) := by
  -- The last two words of the line are a colon and a literal.
  have hwords : "    return (" ++ portMacro pin ++ "_PS" ++ " " ++ "&" ++ " " ++ maskMacro pin ++
      ") ? 1u : 0u;" = "    return (" ++ portMacro pin ++ "_PS & " ++ maskMacro pin ++ ") ? 1u" ++
        " " ++ ":" ++ " " ++ "0u" ++ ";" := by
    simp [← String.toList_inj]
  have hassign : ∀ operator, ":" ≠ operator → operand? operator ";"
      ("    return (" ++ portMacro pin ++ "_PS" ++ " " ++ "&" ++ " " ++ maskMacro pin ++
        ") ? 1u : 0u;") = none := by
    intro operator hne
    rw [hwords, operand?_append (solid_ofList rfl) (solid_ofList rfl), if_neg hne]
  rw [usedMask?, hassign _ (by decide), hassign _ (by decide),
    operand?_of_endsWith (endsWith_ofList_append rfl rfl _),
    operand?_append (solid_ofList rfl) (solid_maskMacro pin), if_pos rfl, Option.bind_some,
    between?_maskMacro]
  rfl

/-! ## Other lines -/

@[simp] theorem usedMask?_comment (text : String) (level : Nat) :
    usedMask? ((Simple.comment text).line level) = none := by
  rw [line_comment]
  apply usedMask?_eq_none <;> exact endsWith_ofList_append rfl rfl _

@[simp] theorem usedMask?_call (callee : String) (arguments : List Expr) (level : Nat) :
    usedMask? ((Simple.evaluate (.call callee arguments)).line level) = none := by
  rw [line_call]
  apply usedMask?_eq_none <;> exact endsWith_ofList_append rfl rfl _

@[simp] theorem usedMask?_blank (level : Nat) : usedMask? (Simple.blank.line level) = none := by
  apply usedMask?_eq_none <;> rfl

theorem passesArgument_of_endsWith {line : String} (h : endsWith ");" line = false) :
    passesArgument line = false := by
  rw [passesArgument, h, Bool.false_and]

@[simp] theorem passesArgument_comment (text : String) (level : Nat) :
    passesArgument ((Simple.comment text).line level) = false := by
  apply passesArgument_of_endsWith
  rw [line_comment]
  exact endsWith_ofList_append rfl rfl _

@[simp] theorem passesArgument_blank (level : Nat) :
    passesArgument (Simple.blank.line level) = false := by
  apply passesArgument_of_endsWith
  rfl

@[simp] theorem passesArgument_bare (callee : String) (level : Nat) :
    passesArgument ((Simple.evaluate (.call callee [])).line level) = false := by
  have hline : (Simple.evaluate (.call callee [])).line level = indent level ++ callee ++ "();" := by
    simp [line_call, Expr.printList, ← String.toList_inj]
  rw [passesArgument, hline, endsWith_append_self _ "();", Bool.not_true, Bool.and_false]

@[simp] theorem passesArgument_reset (pin : Pin) (level : Nat) :
    passesArgument ((clearPin pin (some "Set initial state to low")).line level) = false := by
  apply passesArgument_of_endsWith
  rw [line_resetPin]
  exact endsWith_ofList_append rfl rfl _

@[simp] theorem passesArgument_startLine (timer : Timer) :
    passesArgument (startLine (isrName timer)) = true := by
  obtain ⟨front, hfront⟩ : ∃ front, startLine (isrName timer) = front ++ "_ISR);" := by
    refine ⟨"    " ++ isrName timer ++ "_StartEx(" ++ Naming.cIdentifier timer.name, ?_⟩
    simp [startLine, isrName, ← String.toList_inj]
  have hcall : endsWith ");" (startLine (isrName timer)) = true := endsWith_append_self _ _
  have hbare : endsWith "();" (startLine (isrName timer)) = false := by
    rw [hfront]
    exact endsWith_ofList_append rfl rfl _
  rw [passesArgument, hcall, hbare]
  rfl

/-! ## The start-up function -/

variable {board : Board} {stamp : String}

/-- What the start-up function does first. -/
def enableInterrupts : List Statement :=
  [.simple (.comment "Enable global interrupts"), .simple (.evaluate (.name "CyGlobalIntEnable")),
   blankLine]

theorem printBody_initBody :
    printBody board.initBody =
      printBody enableInterrupts ++
        board.timers.flatMap (fun timer => printBody (startTimer timer)) ++
        board.serialNames.flatMap (fun name => printBody (startSerial name)) ++
        board.pins.flatMap (fun pin => printBody (startPin pin)) := by
  simp only [printBody, initBody, enableInterrupts, List.flatMap_append, List.flatMap_assoc]

theorem passing_startTimer (timer : Timer) :
    (printBody (startTimer timer)).filter passesArgument =
      if timer.enableInterrupt then [startLine (isrName timer)] else [] := by
  unfold startTimer
  split <;>
    simp [printBody, Statement.lines, initRemark, startCall, callLine, blankLine, line_startEx]

theorem passing_startSerial (name : String) :
    (printBody (startSerial name)).filter passesArgument = [] := by
  simp [printBody, startSerial, Statement.lines, initRemark, startCall, callLine, blankLine]

theorem passing_startPin (pin : Pin) :
    (printBody (startPin pin)).filter passesArgument = [] := by
  unfold startPin
  split <;> simp [printBody, Statement.lines, initRemark, blankLine]

/-- The calls of the start-up function that pass an argument start the interrupts. -/
theorem passing_initBody :
    (printBody board.initBody).filter passesArgument =
      board.interruptTimers.map fun timer => startLine (isrName timer) := by
  have hglobal : (printBody enableInterrupts).filter passesArgument = [] := by decide
  have hserial := List.flatMap_eq_nil_iff.2 fun name (_ : name ∈ board.serialNames) =>
    passing_startSerial name
  have hpins := List.flatMap_eq_nil_iff.2 fun pin (_ : pin ∈ board.pins) => passing_startPin pin
  have htimers := map_filter_eq_flatMap (fun timer : Timer => timer.enableInterrupt = true)
    (fun timer => startLine (isrName timer)) board.timers
  rw [printBody_initBody, List.filter_append, List.filter_append, List.filter_append,
    List.filter_flatMap, List.filter_flatMap, List.filter_flatMap, hglobal, hserial, hpins,
    List.nil_append, List.append_nil, List.append_nil]
  refine (List.flatMap_congr fun timer _ => passing_startTimer timer).trans (htimers.symm.trans ?_)
  simp only [interruptTimers, Bool.decide_eq_true]

/-- The functions of a source with a signature are those of the board with that signature. -/
theorem bodiesWith_eq (signature : Signature) :
    bodiesWith signature (Listing.lines layout (board.source stamp)) =
      (board.functions.filter (·.1 = signature)).map fun function => printBody function.2 := by
  have hread : ∀ function ∈ board.functions,
      decide (definition? (functionBlock function).head = some signature) =
        decide (function.1 = signature) := by
    intro function hfunction
    have hmem : function.1 ∈ board.signatures := map_fst_functions ▸ List.mem_map_of_mem hfunction
    rw [functionBlock, (legible_signatures function.1 hmem).defined]
    simp only [Option.some.injEq]
  rw [bodiesWith, blocks_source, List.filter_map, List.map_map]
  exact congrArg _ (List.filter_congr hread)

/-- One function of a source has the signature of the start-up function. -/
theorem bodiesWith_source :
    bodiesWith initSignature (Listing.lines layout (board.source stamp)) =
      [printBody board.initBody] := by
  have hfound : board.functions.filter (fun function => function.1 = initSignature) =
      [(initSignature, board.initBody)] := by
    simp [functions, handlerSignature, writeSignature, readSignature, initSignature]
  rw [bodiesWith_eq, hfound, List.map_singleton]

/-! ## Masks -/

theorem usedMasks_startTimer (timer : Timer) :
    (printBody (startTimer timer)).filterMap usedMask? = [] := by
  unfold startTimer
  split <;> simp [printBody, Statement.lines, initRemark, startCall, callLine, blankLine]

theorem usedMasks_startSerial (name : String) :
    (printBody (startSerial name)).filterMap usedMask? = [] := by
  simp [printBody, startSerial, Statement.lines, initRemark, startCall, callLine, blankLine]

theorem usedMasks_startPin (pin : Pin) :
    (printBody (startPin pin)).filterMap usedMask? =
      if pin.mode = .output then [maskMacro pin] else [] := by
  unfold startPin
  split <;> simp [printBody, Statement.lines, initRemark, blankLine]

/-- The start-up function resets the outputs. -/
theorem usedMasks_initBody :
    (printBody board.initBody).filterMap usedMask? = board.outputPins.map maskMacro := by
  have hglobal : (printBody enableInterrupts).filterMap usedMask? = [] := by decide
  have htimers := List.flatMap_eq_nil_iff.2 fun timer (_ : timer ∈ board.timers) =>
    usedMasks_startTimer timer
  have hserial := List.flatMap_eq_nil_iff.2 fun name (_ : name ∈ board.serialNames) =>
    usedMasks_startSerial name
  rw [printBody_initBody, List.filterMap_append, List.filterMap_append, List.filterMap_append,
    List.filterMap_flatMap, List.filterMap_flatMap, List.filterMap_flatMap, hglobal, htimers, hserial,
    outputPins, map_filter_eq_flatMap]
  exact List.flatMap_congr fun pin _ => usedMasks_startPin pin

theorem usedMasks_handlerBody (timer : Timer) :
    (printBody (handlerBody timer)).filterMap usedMask? = [] := by
  simp [printBody, handlerBody, Statement.lines, callLine, blankLine]

theorem usedMasks_writeBody (pin : Pin) :
    (printBody (writeBody pin)).filterMap usedMask? = [maskMacro pin, maskMacro pin] := by
  have hif : usedMask? (indent 1 ++ layout.keyword "if" (.name "value")) = none := by decide
  have helse : usedMask? (indent 1 ++ "else") = none := by decide
  simp [printBody, writeBody, Statement.lines, hif, helse]

theorem usedMasks_readBody (pin : Pin) :
    (printBody (readBody pin)).filterMap usedMask? = [maskMacro pin] := by
  rw [printBody_readBody, List.filterMap_cons, usedMask?_read]
  rfl

theorem bodyLines_source :
    bodyLines (Listing.lines layout (board.source stamp)) =
      board.functions.flatMap fun function => printBody function.2 := by
  rw [bodyLines, blocks_source, List.flatMap_map]
  rfl

/-- The masks of a source: those of the outputs, which are reset and written, and of the inputs. -/
theorem usedMasks_source :
    usedMasks (Listing.lines layout (board.source stamp)) =
      board.outputPins.map maskMacro ++
        board.outputPins.flatMap (fun pin => [maskMacro pin, maskMacro pin]) ++
        board.inputPins.map maskMacro := by
  have hinputs : board.inputPins.map maskMacro =
      board.inputPins.flatMap fun pin => [maskMacro pin] := List.map_eq_flatMap
  rw [usedMasks, bodyLines_source, List.filterMap_flatMap, functions, hinputs]
  simp [List.flatMap_map, usedMasks_initBody, usedMasks_handlerBody, usedMasks_writeBody,
    usedMasks_readBody]

/-! ## Understood lines -/

theorem understood_of_mask {line mask : String} (h : usedMask? line = some mask) :
    Understood line := .inl (Option.isSome_iff_exists.2 ⟨mask, h⟩)

theorem understood_call (callee : String) (arguments : List Expr) (level : Nat) :
    Understood ((Simple.evaluate (.call callee arguments)).line level) := by
  rw [line_call]
  exact .inr (.inl (endsWith_append_self _ _))

theorem understood_comment (text : String) (level : Nat) :
    Understood ((Simple.comment text).line level) := by
  rw [line_comment]
  exact .inr (.inr (.inl (endsWith_append_self _ _)))

theorem understood_blank : Understood (Simple.blank.line 1) := .inr (.inr (.inr (by decide)))

theorem understood_startTimer (timer : Timer) :
    ∀ line ∈ printBody (startTimer timer), Understood line := by
  have hremark := understood_comment s!"Initialize {timer.name}" 1
  unfold startTimer
  split <;>
    simp [printBody, Statement.lines, initRemark, startCall, callLine, blankLine, hremark,
      understood_call, understood_blank]

theorem understood_startSerial (name : String) :
    ∀ line ∈ printBody (startSerial name), Understood line := by
  have hremark := understood_comment s!"Initialize {name}" 1
  simp [printBody, startSerial, Statement.lines, initRemark, startCall, callLine, blankLine, hremark,
    understood_call, understood_blank]

theorem understood_startPin (pin : Pin) : ∀ line ∈ printBody (startPin pin), Understood line := by
  have hremark := understood_comment s!"Initialize {pin.name}" 1
  have hreset := understood_of_mask (usedMask?_reset pin 1)
  unfold startPin
  split <;>
    simp [printBody, Statement.lines, initRemark, blankLine, hremark, hreset, understood_blank]

theorem understood_initBody : ∀ line ∈ printBody board.initBody, Understood line := by
  have hglobal : Understood ((Simple.evaluate (.name "CyGlobalIntEnable")).line 1) :=
    .inr (.inr (.inr (by decide)))
  simp only [printBody_initBody, List.forall_mem_append, List.forall_mem_flatMap]
  refine ⟨⟨⟨?_, fun timer _ => understood_startTimer timer⟩,
    fun name _ => understood_startSerial name⟩, fun pin _ => understood_startPin pin⟩
  simp [printBody, enableInterrupts, Statement.lines, blankLine, understood_comment,
    understood_blank, hglobal]

theorem understood_handlerBody (timer : Timer) :
    ∀ line ∈ printBody (handlerBody timer), Understood line := by
  simp [printBody, handlerBody, Statement.lines, callLine, blankLine, understood_comment,
    understood_call, understood_blank]

theorem understood_writeBody (pin : Pin) :
    ∀ line ∈ printBody (writeBody pin), Understood line := by
  have hraise := understood_of_mask (usedMask?_raise pin 2)
  have hclear := understood_of_mask (usedMask?_clear pin 2)
  have hif : Understood (indent 1 ++ layout.keyword "if" (.name "value")) :=
    .inr (.inr (.inr (by decide)))
  have helse : Understood (indent 1 ++ "else") := .inr (.inr (.inr (by decide)))
  simp [printBody, writeBody, Statement.lines, hraise, hclear, hif, helse]

theorem understood_readBody (pin : Pin) : ∀ line ∈ printBody (readBody pin), Understood line := by
  rw [printBody_readBody, List.forall_mem_singleton]
  exact understood_of_mask (usedMask?_read pin)

/-- Nothing else in a source can use a mask. -/
theorem understood_source :
    ∀ line ∈ bodyLines (Listing.lines layout (board.source stamp)), Understood line := by
  rw [bodyLines_source, List.forall_mem_flatMap]
  simp only [functions, List.forall_mem_append, List.forall_mem_cons, List.forall_mem_map]
  exact ⟨⟨⟨understood_initBody, fun timer _ => understood_handlerBody timer⟩,
    fun pin _ => understood_writeBody pin⟩, fun pin _ => understood_readBody pin⟩

end FirmwareGen.Board
