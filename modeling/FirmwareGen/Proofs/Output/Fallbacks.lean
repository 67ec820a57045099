-- SUMMARY: Blank texts for which something else is written, and a blank handler, for which it is not.
import FirmwareGen.Proofs.Board.Sections
import FirmwareGen.Proofs.Modulators.Texts
import Mathlib.Data.List.Forall2
/-!
# Texts with a fallback

Three texts of a configuration have a fallback: the frequency and the duty cycle of a modulator, and
the interrupt handler of a timer. A modulator falls back for every blank text, but a timer only for the
empty one; a handler of white space is called as it stands. To see this in the files, the letters `H` in
them are counted, of which white space has none and a fallback at least one.
-/

namespace FirmwareGen

open Text

/-! ## Blank texts -/

/-- A text of nothing but white space. -/
def Blank (text : String) : Prop := ∀ c ∈ text.toList, isBlankChar c = true

instance (text : String) : Decidable (Blank text) :=
  decidable_of_iff (isBlank text = true) isBlank_iff

/-- A text and one that may stand for it: the empty text or the fallback for one that is blank. -/
inductive Refilled (fallback : String) : String → String → Prop
  | same (text : String) : Refilled fallback text text
  | empty {text : String} (blank : Blank text) : Refilled fallback text ""
  | fallback {text : String} (blank : Blank text) : Refilled fallback text fallback

/-- A modulator in which blank texts may be emptied or filled in. The suffix of a duty cycle is not
    typed. -/
inductive Modulator.Refilled (modulator : Modulator) : Modulator → Prop
  | intro {frequency dutyCycle : String}
    (frequency_refilled : FirmwareGen.Refilled "80e3" modulator.frequency frequency)
    (dutyCycle_refilled : FirmwareGen.Refilled "0.5" modulator.dutyCycle dutyCycle) :
    Refilled modulator { modulator with frequency, dutyCycle }

/-- A timer in which a blank handler may be emptied or filled in. -/
inductive Timer.Refilled (timer : Timer) : Timer → Prop
  | intro {interruptHandler : String}
    (handler_refilled : FirmwareGen.Refilled (Naming.cIdentifier timer.name ++ "_Handler")
      timer.interruptHandler interruptHandler) :
    Refilled timer { timer with interruptHandler }

/-- A board in which blank handlers may be emptied or filled in. -/
inductive Board.Refilled (board : Board) : Board → Prop
  | intro {timers : List Timer} (timers_refilled : List.Forall₂ Timer.Refilled board.timers timers) :
    Refilled board { board with timers }

/-- A timer whose routine calls the same function with the other handler: there is no routine, or the
    handler was empty, or it has been kept. -/
def Timer.KeepsCall (timer other : Timer) : Prop :=
  timer.enableInterrupt = true →
    timer.interruptHandler = "" ∨ other.interruptHandler = timer.interruptHandler

/-! ## Pieces of texts -/

/-- A piece stands somewhere in a text. -/
def Contains (text piece : String) : Prop := ∃ front back, text = front ++ piece ++ back

namespace Contains

theorem middle (front piece back : String) : Contains (front ++ piece ++ back) piece :=
  ⟨front, back, rfl⟩

theorem trans {text piece part : String} (h : Contains text piece) (hpart : Contains piece part) :
    Contains text part := by
  obtain ⟨front, back, rfl⟩ := h
  obtain ⟨before, after, rfl⟩ := hpart
  exact ⟨front ++ before, after ++ back, by simp only [String.append_assoc]⟩

theorem of_mem {pieces : List String} {piece : String} (h : piece ∈ pieces) :
    Contains (String.join pieces) piece := by
  obtain ⟨front, back, rfl⟩ := List.append_of_mem h
  rw [String.join_append, String.join_cons, ← String.append_assoc]
  exact .middle _ _ _

end Contains

/-! ## Modulators -/

namespace Modulators

theorem frequencyToken_blank {typed : String} (h : Blank typed) : frequencyToken typed = "80e3" :=
  if_pos (isBlank_iff.2 h)

theorem dutyToken_blank {typed : String} (h : Blank typed) : dutyToken typed = "0.5f" :=
  if_pos (isBlank_iff.2 h)

theorem frequencyToken_refilled {typed other : String} (h : Refilled "80e3" typed other) :
    frequencyToken other = frequencyToken typed := by
  cases h with
  | same => rfl
  | empty blank | fallback blank => exact (frequencyToken_blank blank).symm

theorem dutyToken_refilled {typed other : String} (h : Refilled "0.5" typed other) :
    dutyToken other = dutyToken typed := by
  cases h with
  | same => rfl
  | empty blank | fallback blank => exact (dutyToken_blank blank).symm

theorem ofModulator_refilled {modulator other : Modulator} (h : modulator.Refilled other)
    (scheme : NamingScheme) :
    DriverPlan.ofModulator scheme other = DriverPlan.ofModulator scheme modulator := by
  obtain ⟨hfrequency, hdutyCycle⟩ := h
  simp only [DriverPlan.ofModulator, frequencyToken_refilled hfrequency,
    dutyToken_refilled hdutyCycle]
  rfl

variable {scheme : NamingScheme} {modulators others : List Modulator}

theorem ofModulators_refilled (h : List.Forall₂ Modulator.Refilled modulators others) :
    Batch.ofModulators scheme others = Batch.ofModulators scheme modulators := by
  have hplans : others.map (DriverPlan.ofModulator scheme) =
      modulators.map (DriverPlan.ofModulator scheme) := by
    induction h with
    | nil => rfl
    | cons hfirst _ ih => exact congrArg₂ List.cons (ofModulator_refilled hfirst scheme) ih
  have hbase : Naming.baseFileName scheme.fallbackBaseName others =
      Naming.baseFileName scheme.fallbackBaseName modulators := by
    cases h with
    | nil => rfl
    | cons hfirst _ => cases hfirst; rfl
  rw [Batch.ofModulators, Batch.ofModulators, hplans, hbase]

/-- The line that initializes a setting of a driver. -/
def settingLine (stem setting value : String) : String :=
  "    " ++ stem ++ "_config." ++ setting ++ " = " ++ value ++ ";"

theorem line_setting (plan : DriverPlan) :
    (C.Simple.assign .set (plan.phaseSetting "duty") (.literal plan.duty) none).line 1 =
        settingLine plan.stem (plan.stem ++ ".duty") plan.duty ∧
      (C.Simple.assign .set (plan.setting "fsw") (.literal plan.frequency) none).line 1 =
        settingLine plan.stem "fsw" plan.frequency := by
  simp only [C.Simple.line, C.Simple.print, C.Expr.print, DriverPlan.phaseSetting,
    DriverPlan.phaseState, DriverPlan.setting, DriverPlan.config, DriverPlan.configObject,
    C.AssignOp.symbol, C.printRemark, C.indent, settingLine, ← String.toList_inj]
  simp

theorem settings_mem_initBody (plan : DriverPlan) :
    assignStatement (plan.phaseSetting "duty") (.literal plan.duty) ∈ plan.initBody ∧
      assignStatement (plan.setting "fsw") (.literal plan.frequency) ∈ plan.initBody := by
  simp [DriverPlan.initBody]

theorem line_mem_source {base stamp : String} {plans : List DriverPlan} {plan : DriverPlan}
    (hplan : plan ∈ plans) {line : C.Simple} (h : C.Statement.simple line ∈ plan.initBody) :
    line.line 1 ∈ C.Listing.lines layout (source base stamp plans) := by
  have hitem : C.Item.definition (plan.signature "init" []) plan.initBody ∈
      source base stamp plans := by
    have hfunction : C.Item.definition (plan.signature "init" []) plan.initBody ∈
        plan.initFunction := by simp [DriverPlan.initFunction]
    have hinit := List.mem_flatMap.2 ⟨plan, hplan, hfunction⟩
    simp only [source, sourceSections, List.mem_append, hinit, true_or, or_true]
  refine List.mem_flatMap.2 ⟨_, hitem, ?_⟩
  have hbody : line.line 1 ∈ plan.initBody.flatMap (C.Statement.lines layout) :=
    List.mem_flatMap.2 ⟨_, h, List.mem_singleton_self _⟩
  simp only [C.Item.lines, List.mem_append, hbody, or_true, true_or]

theorem contains_line {ρ : Type} {modulator : Modulator} (h : modulator ∈ modulators)
    {line : C.Simple}
    (hline : C.Statement.simple line ∈ (DriverPlan.ofModulator scheme modulator).initBody)
    (clock : TimeSource ρ) (state : ρ) :
    Contains (generate scheme clock modulators state).1.source (line.line 1 ++ "\n") := by
  have hplan : DriverPlan.ofModulator scheme modulator ∈ plansOf scheme modulators :=
    List.mem_map_of_mem h
  rw [files_generate, FilePair.source_ofBase]
  exact Contains.of_mem (List.mem_map_of_mem (line_mem_source hplan hline))

/-- The function that initializes a driver sets the duty cycle and the frequency. -/
theorem contains_settings {ρ : Type} {modulator : Modulator} (h : modulator ∈ modulators)
    (clock : TimeSource ρ) (state : ρ) :
    Contains (generate scheme clock modulators state).1.source
        (settingLine (Naming.instanceName modulator.name)
          (Naming.instanceName modulator.name ++ ".duty") (dutyToken modulator.dutyCycle) ++ "\n") ∧
      Contains (generate scheme clock modulators state).1.source
        (settingLine (Naming.instanceName modulator.name) "fsw"
          (frequencyToken modulator.frequency) ++ "\n") := by
  obtain ⟨hduty, hfrequency⟩ := settings_mem_initBody (DriverPlan.ofModulator scheme modulator)
  obtain ⟨hdutyLine, hfrequencyLine⟩ := line_setting (DriverPlan.ofModulator scheme modulator)
  have hdutyText := contains_line h hduty clock state
  have hfrequencyText := contains_line h hfrequency clock state
  rw [hdutyLine] at hdutyText
  rw [hfrequencyLine] at hfrequencyText
  exact ⟨hdutyText, hfrequencyText⟩

/-- Modulators with other blank texts are generated alike. -/
theorem generate_refilled {ρ : Type} (h : List.Forall₂ Modulator.Refilled modulators others)
    (clock : TimeSource ρ) (state : ρ) :
    generate scheme clock others state = generate scheme clock modulators state := by
  simp only [generate, ofModulators_refilled h]

end Modulators

/-! ## Boards -/

namespace Board

open C

variable {board other : Board} {stamp : String}

/-- A timer without its handler. -/
def bareTimer (timer : Timer) : Timer := { timer with interruptHandler := "" }

/-- A board without its handlers. -/
def bare (board : Board) : Board := { board with timers := board.timers.map bareTimer }

theorem bare_refilled (h : board.Refilled other) : other.bare = board.bare := by
  obtain ⟨htimers⟩ := h
  have hbare : ∀ {timers others : List Timer}, List.Forall₂ Timer.Refilled timers others →
      others.map bareTimer = timers.map bareTimer := by
    intro timers others htimers
    induction htimers with
    | nil => rfl
    | cons hfirst _ ih =>
      obtain ⟨hhandler⟩ := hfirst
      exact congrArg₂ List.cons rfl ih
  rw [bare, bare, hbare htimers]

theorem interruptTimers_bare : board.bare.interruptTimers = board.interruptTimers.map bareTimer :=
  filter_map_eq bareTimer _ (fun _ => rfl) _

theorem signatures_bare : board.bare.signatures = board.signatures := by
  simp only [signatures, interruptTimers_bare, List.map_map]
  rfl

theorem header_bare : board.bare.header stamp = board.header stamp := by
  simp only [header, headerSections, signatures_bare]
  simp only [bare, listSection_map bareTimer timerMacros fun _ => rfl]
  rfl

theorem initBody_bare : board.bare.initBody = board.initBody := by
  simp only [initBody, bare, List.flatMap_map]
  rfl

/-! ## Texts of routines -/

theorem text_listings (xs ys : Listing) :
    Listing.text layout (xs ++ ys) = Listing.text layout xs ++ Listing.text layout ys := by
  simp only [Listing.text, Listing.pieces, lines_append, List.map_append, String.join_append]

/-- The text of the routine of a timer, if it has one. -/
def routineText (timer : Timer) : String :=
  if timer.enableInterrupt then Listing.text layout (timerHandler timer) else ""

theorem text_routines (timers : List Timer) :
    Listing.text layout ((timers.filter (·.enableInterrupt)).flatMap timerHandler) =
      String.join (timers.map routineText) := by
  induction timers with
  | nil => rfl
  | cons timer timers ih =>
    rw [List.map_cons, String.join_cons, ← ih, routineText]
    cases henable : timer.enableInterrupt with
    | true =>
      rw [List.filter_cons_of_pos henable, List.flatMap_cons, text_listings, if_pos rfl]
    | false =>
      rw [List.filter_cons_of_neg (by simp [henable]), if_neg (by simp), String.empty_append]

/-- What a source has in front of the routines, and what behind them. -/
def sourceFront (board : Board) (stamp : String) : String :=
  Listing.text layout
    (board.banner "Source" stamp ++ [.ownInclude (baseName ++ ".h"), .blank] ++ board.initFunction)

def sourceBack (board : Board) : String :=
  Listing.text layout (board.outputPins.flatMap writeFunction ++ board.inputPins.flatMap readFunction)

theorem sourceText_eq :
    board.sourceText stamp =
      board.sourceFront stamp ++ String.join (board.timers.map routineText) ++ board.sourceBack := by
  rw [← text_routines, sourceFront, sourceBack, ← text_listings, ← text_listings, sourceText, source,
    sourceSections]
  simp only [List.append_assoc]
  rfl

theorem sourceFront_bare : board.bare.sourceFront stamp = board.sourceFront stamp := by
  rw [sourceFront, sourceFront, initFunction, initFunction, initBody_bare]
  rfl

/-- The lines of a routine in front of those in which the handler is called. -/
def routineFront (name : String) : List String :=
  ["/*", " * " ++ name ++ " interrupt service routine", " */",
    "CY_ISR(" ++ (Naming.cIdentifier name ++ "_ISR") ++ ")", "\x7b", "    /* Clear the interrupt */",
    "    " ++ Naming.cIdentifier name ++ "_ReadStatusRegister();", ""]

theorem lines_timerHandler (timer : Timer) :
    Listing.lines layout (timerHandler timer) =
      routineFront timer.name ++
        ["    /* Call user handler */", "    " ++ userHandler timer ++ "();"] ++ ["\x7d", ""] := by
  have hblank : Simple.blank.line 1 = "" := rfl
  have hcall : ∀ callee, (Simple.evaluate (.call callee [])).line 1 = "    " ++ callee ++ "();" := by
    intro callee
    simp [line_call, Expr.printList, indent, ← String.toList_inj]
  simp only [timerHandler, remarked, Listing.lines, List.flatMap_cons, List.flatMap_nil, Item.lines,
    handlerSignature, isrName, Signature.attributeLines, Signature.headLine, handlerBody,
    Statement.lines, callLine, blankLine, line_comment, hblank, hcall]
  simp [routineFront, indent, toString, ← String.toList_inj]

/-- The text of the lines in which a handler is called. -/
def handlerCall (handler : String) : String :=
  "    /* Call user handler */\n    " ++ handler ++ "();\n"

theorem routineText_eq {timer : Timer} (h : timer.enableInterrupt = true) :
    routineText timer =
      String.join ((routineFront timer.name).map (· ++ "\n")) ++ handlerCall (userHandler timer) ++
        "\x7d\n\n" := by
  have hcall : String.join (["    /* Call user handler */",
      "    " ++ userHandler timer ++ "();"].map (· ++ "\n")) = handlerCall (userHandler timer) := by
    unfold handlerCall
    rw [← String.toList_inj]
    simp
  have hend : String.join (["\x7d", ""].map (· ++ "\n")) = "\x7d\n\n" := by decide
  rw [routineText, if_pos h, Listing.text, Listing.pieces, lines_timerHandler, List.map_append,
    List.map_append, String.join_append, String.join_append, hcall, hend]

/-! ## Counting letters -/

/-- How often the first letter of the suffix of a fallback stands in a text. -/
def weight (text : String) : Nat := text.toList.count 'H'

theorem weight_append (a b : String) : weight (a ++ b) = weight a + weight b := by
  rw [weight, String.toList_append, List.count_append]
  rfl

theorem weight_blank {text : String} (h : Blank text) : weight text = 0 := by
  rw [weight, List.count_eq_zero]
  intro hmem
  exact absurd (h 'H' hmem) (by decide)

theorem weight_fallback_pos (stem : String) : 0 < weight (stem ++ "_Handler") := by
  have hsuffix : weight "_Handler" = 1 := by decide
  rw [weight_append, hsuffix]
  omega

theorem fallback_ne_empty (stem : String) : stem ++ "_Handler" ≠ "" := by
  intro hempty
  have hpos := weight_fallback_pos stem
  rw [hempty] at hpos
  exact absurd hpos (by decide)

/-- The fallback is called for the empty text, and for itself. -/
theorem userHandler_of_fallback {timer : Timer}
    (h : timer.interruptHandler = "" ∨
      timer.interruptHandler = Naming.cIdentifier timer.name ++ "_Handler") :
    userHandler timer = Naming.cIdentifier timer.name ++ "_Handler" := by
  rcases h with h | h
  · rw [userHandler, if_pos h]
  · rw [userHandler, if_neg (h ▸ fallback_ne_empty _), h]

/-- The other handler calls the same function, unless it replaces white space that is not empty: then
    the fallback is called in place of the white space. -/
theorem userHandler_refilled {timer other : Timer} (h : timer.Refilled other) :
    (timer.interruptHandler = "" ∨ other.interruptHandler = timer.interruptHandler) ∧
        userHandler other = userHandler timer ∨
      ¬ (timer.interruptHandler = "" ∨ other.interruptHandler = timer.interruptHandler) ∧
        weight (userHandler timer) < weight (userHandler other) := by
  obtain ⟨hhandler⟩ := h
  rename_i handler
  by_cases hsame : handler = timer.interruptHandler
  · subst hsame
    exact .inl ⟨.inr rfl, rfl⟩
  have hblank : Blank timer.interruptHandler := by
    cases hhandler with
    | same => exact absurd rfl hsame
    | empty blank | fallback blank => exact blank
  have hother : userHandler { timer with interruptHandler := handler } =
      Naming.cIdentifier timer.name ++ "_Handler" := by
    apply userHandler_of_fallback
    cases hhandler with
    | same => exact absurd rfl hsame
    | empty => exact .inl rfl
    | fallback => exact .inr rfl
  by_cases hempty : timer.interruptHandler = ""
  · exact .inl ⟨.inl hempty, by rw [hother, userHandler_of_fallback (.inl hempty)]⟩
  · refine .inr ⟨not_or.2 ⟨hempty, hsame⟩, ?_⟩
    rw [hother, userHandler, if_neg hempty, weight_blank hblank]
    exact weight_fallback_pos _

/-- A routine either stays as it is, or calls the fallback in place of white space. -/
theorem routineText_refilled {timer other : Timer} (h : timer.Refilled other) :
    (timer.KeepsCall other ∧ routineText other = routineText timer) ∨
      (¬ timer.KeepsCall other ∧ weight (routineText timer) < weight (routineText other)) := by
  have hname : other.name = timer.name := by cases h; rfl
  have henable : other.enableInterrupt = timer.enableInterrupt := by cases h; rfl
  cases hinterrupt : timer.enableInterrupt with
  | false =>
    refine .inl ⟨fun h => absurd h (by simp [hinterrupt]), ?_⟩
    rw [routineText, routineText, henable, hinterrupt, if_neg (by simp), if_neg (by simp)]
  | true =>
    rw [routineText_eq hinterrupt, routineText_eq (henable.trans hinterrupt), hname]
    rcases userHandler_refilled h with ⟨hkeeps, hcall⟩ | ⟨hkeeps, hmore⟩
    · exact .inl ⟨fun _ => hkeeps, by rw [hcall]⟩
    · refine .inr ⟨fun h => hkeeps (h hinterrupt), ?_⟩
      unfold handlerCall
      simp only [weight_append]
      omega

/-- The routines of a board have the same text just if each calls the same function. -/
theorem routines_refilled {timers others : List Timer}
    (h : List.Forall₂ Timer.Refilled timers others) :
    (List.Forall₂ Timer.KeepsCall timers others ∧
        String.join (others.map routineText) = String.join (timers.map routineText)) ∨
      (¬ List.Forall₂ Timer.KeepsCall timers others ∧
        weight (String.join (timers.map routineText)) <
          weight (String.join (others.map routineText))) := by
  induction h with
  | nil => exact .inl ⟨.nil, rfl⟩
  | cons hfirst _ ih =>
    simp only [List.map_cons, String.join_cons, weight_append, List.forall₂_cons]
    rcases routineText_refilled hfirst with ⟨hkeeps, hsame⟩ | ⟨hkeeps, hmore⟩ <;>
      rcases ih with ⟨hkeepsRest, hsameRest⟩ | ⟨hkeepsRest, hmoreRest⟩
    · exact .inl ⟨⟨hkeeps, hkeepsRest⟩, by rw [hsame, hsameRest]⟩
    · refine .inr ⟨fun h => hkeepsRest h.2, ?_⟩
      rw [hsame]
      omega
    · refine .inr ⟨fun h => hkeeps h.1, ?_⟩
      rw [hsameRest]
      omega
    · exact .inr ⟨fun h => hkeeps h.1, by omega⟩

/-- The sources of two boards are the same just if each routine calls the same function. -/
theorem sourceText_refilled (h : board.Refilled other) :
    other.sourceText stamp = board.sourceText stamp ↔
      List.Forall₂ Timer.KeepsCall board.timers other.timers := by
  have hfront : other.sourceFront stamp = board.sourceFront stamp := by
    rw [← sourceFront_bare, bare_refilled h, sourceFront_bare]
  have hback : other.sourceBack = board.sourceBack := by cases h; rfl
  have htimers : List.Forall₂ Timer.Refilled board.timers other.timers := by
    obtain ⟨htimers⟩ := h
    exact htimers
  rw [sourceText_eq, sourceText_eq, hfront, hback, String.append_left_inj, String.append_right_inj]
  rcases routines_refilled htimers with ⟨hkeeps, hsame⟩ | ⟨hkeeps, hmore⟩
  · exact iff_of_true hsame hkeeps
  · refine iff_of_false (fun hsame => ?_) hkeeps
    rw [hsame] at hmore
    exact absurd hmore (Nat.lt_irrefl _)

theorem headerText_refilled (h : board.Refilled other) :
    other.headerText stamp = board.headerText stamp := by
  rw [headerText, headerText, ← header_bare, bare_refilled h, header_bare]

/-- A routine calls the function of its handler. -/
theorem contains_call {timer : Timer} (hmem : timer ∈ board.timers)
    (h : timer.enableInterrupt = true) :
    Contains (board.sourceText stamp) (handlerCall (userHandler timer)) := by
  have hroutine : Contains (board.sourceText stamp) (routineText timer) := by
    rw [sourceText_eq]
    exact (Contains.middle _ _ _).trans (.of_mem (List.mem_map_of_mem hmem))
  rw [routineText_eq h] at hroutine
  exact hroutine.trans (.middle _ _ _)

end Board

/-! ## Files -/

/-- In place of a blank frequency or duty cycle nothing or the fallback may be typed: the files of the
    modulators are the same, and set the fallback. In place of a blank handler this changes no header of
    a board; it changes the source unless the handler was empty or no routine calls it, for a routine
    calls any handler that is not empty. -/
theorem refilled_generate {ρ : Type} (clock : TimeSource ρ) (state : ρ) :
    (∀ scheme modulators others, List.Forall₂ Modulator.Refilled modulators others →
      Modulators.generate scheme clock others state =
        Modulators.generate scheme clock modulators state) ∧
    (∀ scheme modulators, ∀ modulator ∈ modulators,
      (Blank modulator.dutyCycle →
        Contains (Modulators.generate scheme clock modulators state).1.source
          (Modulators.settingLine (Naming.instanceName modulator.name)
            (Naming.instanceName modulator.name ++ ".duty") "0.5f" ++ "\n")) ∧
      (Blank modulator.frequency →
        Contains (Modulators.generate scheme clock modulators state).1.source
          (Modulators.settingLine (Naming.instanceName modulator.name) "fsw" "80e3" ++ "\n"))) ∧
    (∀ board other, Board.Refilled board other →
      (other.generate clock state).1.header = (board.generate clock state).1.header ∧
      ((other.generate clock state).1.source = (board.generate clock state).1.source ↔
        List.Forall₂ Timer.KeepsCall board.timers other.timers)) ∧
    ∀ board : Board, ∀ timer ∈ board.timers, timer.enableInterrupt = true →
      Contains (board.generate clock state).1.source
        (Board.handlerCall (if timer.interruptHandler = "" then
          Naming.cIdentifier timer.name ++ "_Handler" else timer.interruptHandler)) := by
  refine ⟨fun scheme modulators others h => Modulators.generate_refilled h clock state,
    fun scheme modulators modulator hmem => ?_, fun board other h => ?_,
    fun board timer hmem henable => ?_⟩
  · obtain ⟨hduty, hfrequency⟩ := @Modulators.contains_settings scheme _ _ _ hmem clock state
    constructor
    · intro hblank
      rw [Modulators.dutyToken_blank hblank] at hduty
      exact hduty
    · intro hblank
      rw [Modulators.frequencyToken_blank hblank] at hfrequency
      exact hfrequency
  · simp only [Board.files_generate, Board.files, FilePair.header_ofBase, FilePair.source_ofBase]
    exact ⟨Board.headerText_refilled h, Board.sourceText_refilled h⟩
  · rw [Board.files_generate, Board.files, FilePair.source_ofBase]
    exact Board.contains_call hmem henable

/-- A modulator with blank texts, and the same with the fallbacks typed. -/
def blankModulator : Modulator where
  name := "Buck 1"
  frequency := " \t"
  dutyCycle := "\u3000"
  phases := [{ pwm := "PWM_A" }]

def filledModulator : Modulator :=
  { blankModulator with frequency := "80e3", dutyCycle := "0.5" }

/-- A timer whose routine calls one blank, and the board with nothing in its place. -/
def blankBoard : Board where
  timers := [{ name := "Tick", enableInterrupt := true, interruptHandler := " " }]

def clearedBoard : Board where
  timers := [{ name := "Tick", enableInterrupt := true }]

theorem refilled_clearedBoard : blankBoard.Refilled clearedBoard :=
  .intro (.cons (.intro (.empty (by decide))) .nil)

theorem not_keepsCall_clearedBoard :
    ¬ List.Forall₂ Timer.KeepsCall blankBoard.timers clearedBoard.timers := by
  intro h
  cases h with
  | cons hcall _ => exact absurd (hcall rfl) (by decide)

theorem refilled_generate_blankBoard :
    (List.Forall₂ Modulator.Refilled [blankModulator] [filledModulator] ∧
      Modulators.generate {} (.fixed ⟨2024, 2, 29, 12, 0, 0, 0⟩) [filledModulator] () =
        Modulators.generate {} (.fixed ⟨2024, 2, 29, 12, 0, 0, 0⟩) [blankModulator] ()) ∧
    (Contains (Modulators.generate {} (.fixed ⟨2024, 2, 29, 12, 0, 0, 0⟩) [blankModulator] ()).1.source
        (Modulators.settingLine "buck_1" "buck_1.duty" "0.5f" ++ "\n") ∧
      Contains (Modulators.generate {} (.fixed ⟨2024, 2, 29, 12, 0, 0, 0⟩) [blankModulator] ()).1.source
        (Modulators.settingLine "buck_1" "fsw" "80e3" ++ "\n")) ∧
    (blankBoard.Refilled clearedBoard ∧
      (clearedBoard.generate (.fixed ⟨2024, 2, 29, 12, 0, 0, 0⟩) ()).1.header =
        (blankBoard.generate (.fixed ⟨2024, 2, 29, 12, 0, 0, 0⟩) ()).1.header ∧
      (clearedBoard.generate (.fixed ⟨2024, 2, 29, 12, 0, 0, 0⟩) ()).1.source ≠
        (blankBoard.generate (.fixed ⟨2024, 2, 29, 12, 0, 0, 0⟩) ()).1.source) ∧
    Contains (blankBoard.generate (.fixed ⟨2024, 2, 29, 12, 0, 0, 0⟩) ()).1.source
      (Board.handlerCall " ") := by
  obtain ⟨halike, hset, hboards, hcalls⟩ :=
    refilled_generate (.fixed ⟨2024, 2, 29, 12, 0, 0, 0⟩) ()
  have hstem : Naming.instanceName blankModulator.name = "buck_1" := by decide
  have hstemDuty : "buck_1" ++ ".duty" = "buck_1.duty" := by decide
  have hfilled : List.Forall₂ Modulator.Refilled [blankModulator] [filledModulator] :=
    .cons (.intro (.fallback (by decide)) (.fallback (by decide))) .nil
  obtain ⟨hduty, hfrequency⟩ := hset {} [blankModulator] blankModulator (List.mem_singleton_self _)
  obtain ⟨hheader, hsource⟩ := hboards _ _ refilled_clearedBoard
  rw [hstem, hstemDuty] at hduty
  rw [hstem] at hfrequency
  have hcall := hcalls blankBoard _ (List.mem_singleton_self _) rfl
  rw [if_neg (by decide)] at hcall
  exact ⟨⟨hfilled, halike {} _ _ hfilled⟩, ⟨hduty (by decide), hfrequency (by decide)⟩,
    ⟨refilled_clearedBoard, hheader, fun hsame => not_keepsCall_clearedBoard (hsource.1 hsame)⟩,
    hcall⟩

/-- A handler of one blank is not as good as none. -/
theorem blank_handler_called :
    blankBoard.Refilled clearedBoard ∧
      (clearedBoard.generate (.fixed ⟨2024, 2, 29, 12, 0, 0, 0⟩) ()).1.source ≠
        (blankBoard.generate (.fixed ⟨2024, 2, 29, 12, 0, 0, 0⟩) ()).1.source := by
  refine ⟨refilled_clearedBoard, fun hsame => not_keepsCall_clearedBoard ?_⟩
  simp only [Board.files_generate, Board.files, FilePair.source_ofBase] at hsame
  exact (Board.sourceText_refilled refilled_clearedBoard).1 hsame

end FirmwareGen
