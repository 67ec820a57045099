-- SUMMARY: The listings of boards are made of the vocabulary of their free texts.
import FirmwareGen.Board.Generate
import FirmwareGen.Proofs.C.Texts
import FirmwareGen.Proofs.Naming.Stems
/-!
# Texts of board configurations

The names of a board are copied into macros, functions and comments. Whatever vocabulary they are made
of, all texts of the two listings are made of it.
-/

namespace FirmwareGen

open Text

/-- The free texts of a board that are emitted are made of a vocabulary. -/
structure Board.Within (v : Vocabulary) (board : Board) : Prop where
  projectName : Text.Within v.letter board.projectName
  version : Text.Within v.letter board.version
  pins : ∀ pin ∈ board.pins, Text.Within v.letter pin.name ∧ Text.Within v.letter pin.comment
  timers : ∀ timer ∈ board.timers,
    Text.Within v.letter timer.name ∧ Text.Within v.letter timer.interruptHandler
  uarts : ∀ uart ∈ board.uarts, Text.Within v.letter uart.name
  i2cs : ∀ i2c ∈ board.i2cs, Text.Within v.letter i2c.name
  spis : ∀ spi ∈ board.spis, Text.Within v.letter spi.name

namespace Board

open C

variable {v : Vocabulary}

/-- For literals, as `Vocabulary.fixed`. -/
theorem within_append_fixed {front : String} (hfront : Text.Within v.letter front) {cs : List Char}
    (h : cs.all isFixed = true) : Text.Within v.letter (front ++ String.ofList cs) :=
  within_append.2 ⟨hfront, v.fixed h⟩

/-! ## Headers -/

theorem within_unsigned (n : Nat) : (unsigned n).Within v := by
  rw [unsigned, Expr.Within]
  exact within_append_fixed (v.within_numeral n) rfl

theorem within_setting {name : String} (hname : Text.Within v.letter name) {cs : List Char}
    (hsuffix : cs.all isFixed = true) {value : Expr} (hvalue : value.Within v) :
    (setting name (String.ofList cs) value).Within v :=
  ⟨within_append_fixed (Naming.within_macroName hname) hsuffix, hvalue⟩

theorem within_literal {cs : List Char} (h : cs.all isFixed = true) :
    (Expr.literal (String.ofList cs)).Within v := by
  rw [Expr.Within]
  exact v.fixed h

theorem within_clockSection (clock : ClockSettings) :
    ∀ item ∈ clockSection clock, item.Within v := by
  have hcrystal : ∀ n, (Item.constant "EXTERNAL_CRYSTAL_FREQ_HZ" 4 (unsigned n)).Within v :=
    fun n => ⟨v.fixed rfl, within_unsigned n⟩
  simp only [clockSection, List.forall_mem_append, List.forall_mem_cons]
  refine ⟨⟨⟨v.fixed rfl, ⟨v.fixed rfl, within_unsigned _⟩, List.forall_mem_nil _⟩, ?_⟩,
    trivial, List.forall_mem_nil _⟩
  split
  · rw [List.forall_mem_cons, List.forall_mem_singleton]
    exact ⟨hcrystal _, v.fixed rfl, within_literal rfl⟩
  · rw [List.forall_mem_singleton]
    exact ⟨v.fixed rfl, within_literal rfl⟩

theorem within_pinMacros {pin : Pin} (hname : Text.Within v.letter pin.name)
    (hcomment : Text.Within v.letter pin.comment) : ∀ item ∈ pinMacros pin, item.Within v := by
  have hmacro := Naming.within_macroName hname
  have hnumber : (Expr.literal (toString pin.number.toNat)).Within v := by
    rw [Expr.Within]
    exact v.within_numeral _
  have hport : (Expr.name s!"P{pin.portNumber.toNat}").Within v := by
    rw [Expr.Within]
    exact within_append.2 ⟨v.fixed rfl, v.within_numeral _⟩
  have hmask : (Expr.group (.binary .shiftLeft (.literal "1u")
      (.literal (toString pin.number.toNat)))).Within v := by
    rw [Expr.Within, Expr.Within]
    exact ⟨within_literal rfl, hnumber⟩
  simp only [pinMacros, List.forall_mem_append, List.forall_mem_cons]
  refine ⟨⟨⟨⟨within_append_fixed hmacro rfl, hport⟩, ⟨within_append_fixed hmacro rfl, hnumber⟩,
    ⟨within_append_fixed hmacro rfl, hmask⟩, List.forall_mem_nil _⟩, ?_⟩, trivial,
    List.forall_mem_nil _⟩
  split
  · exact List.forall_mem_nil _
  · exact List.forall_mem_singleton.2 (v.remark_letters _ hcomment)

theorem within_timerMacros {timer : Timer} (hname : Text.Within v.letter timer.name) :
    ∀ item ∈ timerMacros timer, item.Within v := by
  rw [timerMacros, List.forall_mem_cons]
  refine ⟨within_setting hname rfl (within_unsigned _), ?_⟩
  split
  · exact List.forall_mem_singleton.2 (within_setting hname rfl (within_literal rfl))
  · exact List.forall_mem_nil _

theorem within_uartMacros {uart : Uart} (hname : Text.Within v.letter uart.name) :
    ∀ item ∈ uartMacros uart, item.Within v := by
  simp only [uartMacros, List.forall_mem_cons]
  exact ⟨within_setting hname rfl (within_unsigned _),
    within_setting hname rfl (within_unsigned _),
    within_setting hname rfl (within_unsigned _), List.forall_mem_nil _⟩

theorem within_i2cMacros {i2c : I2c} (hname : Text.Within v.letter i2c.name) :
    ∀ item ∈ i2cMacros i2c, item.Within v := by
  have haddress : (Expr.literal (Text.hexByte i2c.slaveAddress)).Within v := by
    rw [Expr.Within]
    exact v.within_hexByte _
  rw [i2cMacros, List.forall_mem_cons]
  refine ⟨within_setting hname rfl (within_unsigned _), ?_⟩
  split
  · exact List.forall_mem_nil _
  · exact List.forall_mem_singleton.2 (within_setting hname rfl haddress)

theorem within_spiMacros {spi : Spi} (hname : Text.Within v.letter spi.name) :
    ∀ item ∈ spiMacros spi, item.Within v := by
  rw [spiMacros, List.forall_mem_cons, List.forall_mem_singleton]
  exact ⟨within_setting hname rfl (within_unsigned _),
    within_setting hname rfl (within_unsigned _)⟩

theorem within_listSection {α : Type} {title : String} (htitle : Text.Within v.letter title)
    {macros : α → List Item} {closing : List Item} (hclosing : ∀ item ∈ closing, item.Within v)
    {elements : List α} (h : ∀ element ∈ elements, ∀ item ∈ macros element, item.Within v) :
    ∀ item ∈ listSection title macros closing elements, item.Within v := by
  unfold listSection
  split
  · exact List.forall_mem_nil _
  · rw [List.forall_mem_append, List.forall_mem_cons, List.forall_mem_flatMap]
    exact ⟨⟨htitle, h⟩, hclosing⟩

section Files

variable {board : Board} {stamp : String}

theorem within_signatures (h : board.Within v) :
    ∀ signature ∈ board.signatures, signature.Within v := by
  have htimer : ∀ timer ∈ board.interruptTimers, (handlerSignature timer).Within v := by
    intro timer htimer
    have hname := (h.timers timer (List.mem_filter.1 htimer).1).1
    exact within_append_fixed (Naming.within_cIdentifier hname) rfl
  have hwrite : ∀ pin ∈ board.outputPins, (writeSignature pin).Within v := by
    intro pin hpin
    have hname := (h.pins pin (List.mem_filter.1 hpin).1).1
    refine ⟨v.fixed rfl, within_append_fixed (Naming.within_cIdentifier hname) rfl, ?_⟩
    exact List.forall_mem_singleton.2 ⟨v.fixed rfl, v.fixed rfl⟩
  have hread : ∀ pin ∈ board.inputPins, (readSignature pin).Within v := by
    intro pin hpin
    have hname := (h.pins pin (List.mem_filter.1 hpin).1).1
    exact ⟨v.fixed rfl, within_append_fixed (Naming.within_cIdentifier hname) rfl,
      List.forall_mem_nil _⟩
  simp only [signatures, List.forall_mem_append, List.forall_mem_cons, List.forall_mem_map]
  exact ⟨⟨⟨⟨v.fixed rfl, v.fixed rfl, List.forall_mem_nil _⟩, htimer⟩, hwrite⟩, hread⟩

theorem within_banner (h : board.Within v) {kind : String} (hkind : Text.Within v.letter kind)
    (hstamp : Text.Within v.letter stamp) : ∀ item ∈ board.banner kind stamp, item.Within v := by
  simp only [banner, List.forall_mem_cons, Item.Within, within_append]
  exact ⟨⟨⟨⟨⟨h.projectName, v.fixed rfl⟩, hkind⟩, v.fixed rfl⟩,
    ⟨v.fixed rfl, h.version⟩, ⟨v.fixed rfl, hstamp⟩, List.forall_mem_nil _⟩, trivial,
    List.forall_mem_nil _⟩

theorem within_headerSections (h : board.Within v) :
    ∀ item ∈ board.headerSections, item.Within v := by
  have hblank : ∀ item ∈ [Item.blank], item.Within v := List.forall_mem_singleton.2 trivial
  simp only [headerSections, List.forall_mem_append, List.forall_mem_cons, List.forall_mem_map]
  refine ⟨⟨⟨⟨⟨⟨⟨within_clockSection board.clock, ?_⟩, ?_⟩, ?_⟩, ?_⟩, ?_⟩, ?_⟩, trivial,
    List.forall_mem_nil _⟩
  · exact within_listSection (v.fixed rfl) (List.forall_mem_nil _) fun pin hpin =>
      within_pinMacros (h.pins pin hpin).1 (h.pins pin hpin).2
  · exact within_listSection (v.fixed rfl) hblank fun timer htimer =>
      within_timerMacros (h.timers timer htimer).1
  · exact within_listSection (v.fixed rfl) hblank fun uart huart =>
      within_uartMacros (h.uarts uart huart)
  · exact within_listSection (v.fixed rfl) hblank fun i2c hi2c =>
      within_i2cMacros (h.i2cs i2c hi2c)
  · exact within_listSection (v.fixed rfl) hblank fun spi hspi =>
      within_spiMacros (h.spis spi hspi)
  · exact ⟨v.fixed rfl, within_signatures h⟩

theorem within_header (h : board.Within v) (hstamp : Text.Within v.letter stamp) :
    ∀ item ∈ board.header stamp, item.Within v := by
  simp only [header, List.forall_mem_append, List.forall_mem_cons]
  refine ⟨⟨⟨within_banner h (v.fixed rfl) hstamp, ?_⟩, within_headerSections h⟩,
    trivial, v.fixed rfl, List.forall_mem_nil _⟩
  exact ⟨v.fixed rfl, v.fixed rfl, trivial, v.fixed rfl, trivial,
    List.forall_mem_nil _⟩

/-! ## Sources -/

theorem within_call {callee : String} (hcallee : Text.Within v.letter callee) {arguments : List Expr}
    (h : Expr.AllWithin v arguments) : (callLine callee arguments).Within v := by
  rw [callLine, Statement.Within, Simple.Within, Expr.Within]
  exact ⟨hcallee, h⟩

theorem within_initRemark {name : String} (h : Text.Within v.letter name) :
    (initRemark name).Within v :=
  within_append.2 ⟨v.fixed rfl, h⟩

theorem within_startCall {name : String} (h : Text.Within v.letter name) : (startCall name).Within v :=
  within_call (within_append_fixed (Naming.within_cIdentifier h) rfl) trivial

theorem within_startTimer {timer : Timer} (h : Text.Within v.letter timer.name) :
    ∀ statement ∈ startTimer timer, statement.Within v := by
  have hisr : Text.Within v.letter (isrName timer) :=
    within_append_fixed (Naming.within_cIdentifier h) rfl
  simp only [startTimer, List.forall_mem_append, List.forall_mem_cons]
  refine ⟨⟨⟨within_initRemark h, within_startCall h, List.forall_mem_nil _⟩, ?_⟩, trivial,
    List.forall_mem_nil _⟩
  split
  · rw [List.forall_mem_singleton]
    refine within_call (within_append_fixed hisr rfl) ?_
    rw [Expr.AllWithin, Expr.Within]
    exact ⟨hisr, trivial⟩
  · exact List.forall_mem_nil _

theorem within_clearPin {pin : Pin} (h : Text.Within v.letter pin.name) {remark : Option String}
    (hremark : ∀ text ∈ remark, v.remark text) : (clearPin pin remark).Within v := by
  have hmacro := Naming.within_macroName h
  rw [clearPin, Simple.Within, dataRegister, pinMask, Expr.Within, Expr.Within, Expr.Within]
  exact ⟨within_append_fixed (within_append_fixed hmacro rfl) rfl,
    within_append_fixed hmacro rfl, hremark⟩

theorem within_raisePin {pin : Pin} (h : Text.Within v.letter pin.name) : (raisePin pin).Within v := by
  have hmacro := Naming.within_macroName h
  rw [raisePin, Simple.Within, dataRegister, pinMask, Expr.Within, Expr.Within]
  refine ⟨within_append_fixed (within_append_fixed hmacro rfl) rfl,
    within_append_fixed hmacro rfl, ?_⟩
  intro text htext
  cases htext

theorem within_startPin {pin : Pin} (h : Text.Within v.letter pin.name) :
    ∀ statement ∈ startPin pin, statement.Within v := by
  simp only [startPin, List.forall_mem_append, List.forall_mem_cons]
  refine ⟨⟨within_initRemark h, ?_⟩, trivial, List.forall_mem_nil _⟩
  split
  · rw [List.forall_mem_singleton]
    apply within_clearPin h
    intro text htext
    cases htext
    exact v.fixedRemark rfl
  · exact List.forall_mem_nil _

theorem within_initBody (h : board.Within v) :
    ∀ statement ∈ board.initBody, statement.Within v := by
  have hserial : ∀ name ∈ board.serialNames, Text.Within v.letter name := by
    simp only [serialNames, List.forall_mem_append, List.forall_mem_map]
    exact ⟨⟨h.uarts, h.i2cs⟩, h.spis⟩
  have hglobal : (Statement.simple (.evaluate (.name "CyGlobalIntEnable"))).Within v := by
    rw [Statement.Within, Simple.Within, Expr.Within]
    exact v.fixed rfl
  simp only [initBody, List.forall_mem_append, List.forall_mem_cons, List.forall_mem_flatMap]
  refine ⟨⟨⟨⟨v.fixed rfl, hglobal, trivial, List.forall_mem_nil _⟩, ?_⟩, ?_⟩, ?_⟩
  · exact fun timer htimer => within_startTimer (h.timers timer htimer).1
  · intro name hname
    simp only [startSerial, List.forall_mem_cons]
    exact ⟨within_initRemark (hserial name hname), within_startCall (hserial name hname),
      trivial, List.forall_mem_nil _⟩
  · exact fun pin hpin => within_startPin (h.pins pin hpin).1

theorem within_handlerBody {timer : Timer} (hname : Text.Within v.letter timer.name)
    (hhandler : Text.Within v.letter timer.interruptHandler) :
    ∀ statement ∈ handlerBody timer, statement.Within v := by
  have hidentifier := Naming.within_cIdentifier hname
  have huser : Text.Within v.letter (userHandler timer) := by
    unfold userHandler
    split
    · exact within_append_fixed hidentifier rfl
    · exact hhandler
  simp only [handlerBody, List.forall_mem_cons]
  exact ⟨v.fixed rfl, within_call (within_append_fixed hidentifier rfl) trivial, trivial,
    v.fixed rfl, within_call huser trivial, List.forall_mem_nil _⟩

theorem within_writeBody {pin : Pin} (h : Text.Within v.letter pin.name) :
    ∀ statement ∈ writeBody pin, statement.Within v := by
  have hclear : (clearPin pin none).Within v := by
    apply within_clearPin h
    intro text htext
    cases htext
  have hvalue : (Expr.name "value").Within v := by
    rw [Expr.Within]
    exact v.fixed rfl
  rw [writeBody, List.forall_mem_singleton]
  refine ⟨⟨hvalue, within_raisePin h⟩, List.forall_mem_nil _, ?_⟩
  intro line hline
  cases hline
  exact hclear

theorem within_readBody {pin : Pin} (h : Text.Within v.letter pin.name) :
    ∀ statement ∈ readBody pin, statement.Within v := by
  have hmacro := Naming.within_macroName h
  rw [readBody, List.forall_mem_singleton, Statement.Within, Simple.Within, Expr.Within,
    Expr.Within, Expr.Within, stateRegister, pinMask, Expr.Within, Expr.Within]
  exact ⟨⟨within_append_fixed (within_append_fixed hmacro rfl) rfl,
    within_append_fixed hmacro rfl⟩, within_literal rfl, within_literal rfl⟩

theorem within_remarked {remark : String} (hremark : Text.Within v.letter remark) {signature : Signature}
    (hsignature : signature.Within v) {body : List Statement}
    (hbody : ∀ statement ∈ body, statement.Within v) :
    ∀ item ∈ remarked remark signature body, item.Within v := by
  simp only [remarked, List.forall_mem_cons]
  exact ⟨List.forall_mem_singleton.2 hremark, ⟨hsignature, hbody⟩, trivial, List.forall_mem_nil _⟩

theorem within_source (h : board.Within v) (hstamp : Text.Within v.letter stamp) :
    ∀ item ∈ board.source stamp, item.Within v := by
  have hsignatures := within_signatures h
  simp only [signatures, List.forall_mem_append, List.forall_mem_cons, List.forall_mem_map]
    at hsignatures
  obtain ⟨⟨⟨hinit, htimers⟩, hwrites⟩, hreads⟩ := hsignatures
  have hinclude : Text.Within v.letter (baseName ++ ".h") := within_append_fixed (v.fixed rfl) rfl
  simp only [source, sourceSections, List.forall_mem_append, List.forall_mem_cons,
    List.forall_mem_flatMap]
  refine ⟨⟨within_banner h (v.fixed rfl) hstamp, hinclude, trivial,
    List.forall_mem_nil _⟩, ⟨⟨?_, ?_⟩, ?_⟩, ?_⟩
  · exact within_remarked (v.fixed rfl) hinit (within_initBody h)
  · intro timer htimer
    obtain ⟨hname, hhandler⟩ := h.timers timer (List.mem_filter.1 htimer).1
    exact within_remarked (within_append_fixed hname rfl) (htimers timer htimer)
      (within_handlerBody hname hhandler)
  · intro pin hpin
    have hname := (h.pins pin (List.mem_filter.1 hpin).1).1
    exact within_remarked (within_append.2 ⟨v.fixed rfl, hname⟩) (hwrites pin hpin)
      (within_writeBody hname)
  · intro pin hpin
    have hname := (h.pins pin (List.mem_filter.1 hpin).1).1
    exact within_remarked (within_append.2 ⟨v.fixed rfl, hname⟩) (hreads pin hpin)
      (within_readBody hname)

end Files

end Board

end FirmwareGen
