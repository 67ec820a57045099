-- SUMMARY: The functions that a header declares are those that the source defines.
import FirmwareGen.Proofs.Board.Lines
import FirmwareGen.Proofs.C.Heads
import Mathlib.Data.List.Basic
/-!
# Functions of board configurations

A reader of the two files finds the prototypes of the header, which alone begin with a letter, and
the blocks of the source, which are all functions. Each is read as a signature from the text around
its name. Both lists are the functions of the board in the same order.
-/

namespace FirmwareGen.Board

open C Text

/-! ## Reading signatures -/

/-- The signature that a line begins and ends with, around its name. -/
def functionHead? (line : String) : Option Signature :=
  ((between? "void " "(void)" line).map fun name => .function .plain "void" name []) <|>
  ((between? "void " "(uint8 value)" line).map fun name =>
    .function .plain "void" name [⟨"uint8", "value"⟩]) <|>
  ((between? "uint8 " "(void)" line).map fun name => .function .plain "uint8" name [])

/-- The signature in the first line of a definition. -/
def definition? (line : String) : Option Signature :=
  functionHead? line <|> ((between? "CY_ISR(" ")" line).map .handler)

/-- The signature of a prototype. -/
def prototype? (line : String) : Option Signature :=
  ((between? "" ";" line).bind functionHead?) <|>
    ((between? "CY_ISR_PROTO(" ");" line).map .handler)

/-- Whether a line begins with a letter. -/
def declares (line : String) : Bool := line.toList.head?.any Char.isAlpha

/-- The signatures of the prototypes of a file. -/
def declaredSignatures (lines : List String) : List (Option Signature) :=
  (lines.filter declares).map prototype?

/-- The signatures of the functions that a file defines. -/
def definedSignatures (lines : List String) : List (Option Signature) :=
  (blocks lines).map fun block => definition? block.head

theorem headLine_write (pin : Pin) :
    (writeSignature pin).headLine =
      "void " ++ (Naming.cIdentifier pin.name ++ "_Write") ++ "(uint8 value)" := by
  simp [writeSignature, Signature.headLine, printParameters, Parameter.print, ← String.toList_inj]

theorem headLine_read (pin : Pin) :
    (readSignature pin).headLine =
      "uint8 " ++ (Naming.cIdentifier pin.name ++ "_Read") ++ "(void)" := by
  simp [readSignature, Signature.headLine, printParameters, ← String.toList_inj]

theorem functionHead?_void (name : String) :
    functionHead? ("void " ++ name ++ "(void)") = some (.function .plain "void" name []) := by
  rw [functionHead?, between?_append]
  rfl

theorem functionHead?_value (name : String) :
    functionHead? ("void " ++ name ++ "(uint8 value)") =
      some (.function .plain "void" name [⟨"uint8", "value"⟩]) := by
  -- It begins as a function without parameters does, but does not end so.
  have hother : between? "void " "(void)" ("void " ++ name ++ "(uint8 value)") = none :=
    between?_of_endsWith (endsWith_ofList_append rfl rfl _)
  rw [functionHead?, hother, between?_append]
  rfl

theorem functionHead?_uint8 (name : String) :
    functionHead? ("uint8 " ++ name ++ "(void)") = some (.function .plain "uint8" name []) := by
  have hother : ∀ back, between? "void " back ("uint8 " ++ name ++ "(void)") = none := by
    intro back
    rw [String.append_assoc]
    exact between?_ofList_append rfl rfl back _
  rw [functionHead?, hother, hother, between?_append]
  rfl

theorem functionHead?_macro (rest : String) : functionHead? ("CY_ISR" ++ rest) = none := by
  have hvoid : ∀ back, between? "void " back ("CY_ISR" ++ rest) = none := fun back =>
    between?_ofList_append rfl rfl back rest
  have huint8 : ∀ back, between? "uint8 " back ("CY_ISR" ++ rest) = none := fun back =>
    between?_ofList_append rfl rfl back rest
  rw [functionHead?, hvoid, hvoid, huint8]
  rfl

/-! ## Lines of signatures -/

/-- A signature that is read back from its two lines. -/
structure Legible (signature : Signature) : Prop where
  defined : definition? signature.headLine = some signature
  declared : prototype? signature.prototypeLine = some signature
  declares : declares signature.prototypeLine = true

theorem legible_handler (name : String) : Legible (.handler name) where
  defined := by
    have hhead : Signature.headLine (.handler name) = "CY_ISR" ++ ("(" ++ name ++ ")") := by
      simp [Signature.headLine, ← String.toList_inj]
    rw [definition?, hhead, functionHead?_macro, ← hhead]
    exact congrArg (Option.map Signature.handler) (between?_append "CY_ISR(" name ")")
  declared := by
    have hline : Signature.prototypeLine (.handler name) =
        "" ++ ("CY_ISR" ++ ("_PROTO(" ++ name ++ ")")) ++ ";" := by
      simp [Signature.prototypeLine, ← String.toList_inj]
    rw [prototype?, hline, between?_append, Option.bind_some, functionHead?_macro, ← hline]
    exact congrArg (Option.map Signature.handler) (between?_append "CY_ISR_PROTO(" name ");")
  declares := by simp [Signature.prototypeLine, Board.declares]

theorem legible_function {result name : String} {parameters : List Parameter}
    (hresult : ∃ c text, result.toList = c :: text ∧ c.isAlpha = true)
    (h : functionHead? (Signature.function .plain result name parameters).headLine =
      some (.function .plain result name parameters)) :
    Legible (.function .plain result name parameters) where
  defined := by
    rw [definition?, h]
    rfl
  declared := by
    have hline : (Signature.function .plain result name parameters).prototypeLine =
        "" ++ (Signature.function .plain result name parameters).headLine ++ ";" := by
      rw [String.empty_append]
      rfl
    rw [prototype?, hline, between?_append, Option.bind_some, h]
    rfl
  declares := by
    obtain ⟨c, text, hcons, hc⟩ := hresult
    simp [Signature.prototypeLine, Signature.headLine, Board.declares, hcons, hc]

variable {board : Board} {stamp : String}

theorem legible_signatures : ∀ signature ∈ board.signatures, Legible signature := by
  have hvoid : ∃ c text, "void".toList = c :: text ∧ c.isAlpha = true := ⟨'v', _, rfl, by decide⟩
  have huint8 : ∃ c text, "uint8".toList = c :: text ∧ c.isAlpha = true := ⟨'u', _, rfl, by decide⟩
  simp only [signatures, List.forall_mem_append, List.forall_mem_cons, List.forall_mem_map]
  refine ⟨⟨⟨?_, fun timer _ => legible_handler _⟩, fun pin _ => ?_⟩, fun pin _ => ?_⟩
  · apply legible_function hvoid
    exact functionHead?_void "PsocConfig_Init"
  · apply legible_function hvoid
    exact (congrArg functionHead? (headLine_write pin)).trans (functionHead?_value _)
  · apply legible_function huint8
    exact (congrArg functionHead? (headLine_read pin)).trans (functionHead?_uint8 _)

/-! ## The header -/

/-- An item whose lines do not begin with a letter. -/
def Mute (item : Item) : Prop := ∀ c ∈ item.heads, c.isAlpha = false

theorem declares_of_mute {item : Item} (h : Mute item) :
    ∀ line ∈ item.lines layout, declares line = false := by
  intro line hline
  have hbegins := begins_item layout item line hline
  cases hhead : line.toList.head? with
  | none => rw [declares, hhead, Option.any_none]
  | some c =>
    rw [declares, hhead, Option.any_some]
    exact h c (hbegins c hhead)

theorem filter_declares_of_mute {listing : Listing} (h : ∀ item ∈ listing, Mute item) :
    (Listing.lines layout listing).filter declares = [] := by
  rw [List.filter_eq_nil_iff]
  intro line hline
  obtain ⟨item, hitem, hmem⟩ := List.mem_flatMap.1 hline
  rw [declares_of_mute (h item hitem) line hmem]
  exact Bool.false_ne_true

@[simp] theorem mute_blank : Mute .blank := List.forall_mem_nil _

@[simp] theorem mute_comment (text : String) : Mute (.comment text) :=
  List.forall_mem_singleton.2 rfl

@[simp] theorem mute_lineComment (text : String) : Mute (.lineComment text) :=
  List.forall_mem_singleton.2 rfl

@[simp] theorem mute_constant (name : String) (gap : Nat) (value : Expr) :
    Mute (.constant name gap value) :=
  List.forall_mem_singleton.2 rfl

theorem mute_listSection {α : Type} {title : String} {macros : α → List Item} {closing : List Item}
    (hmacros : ∀ element, ∀ item ∈ macros element, Mute item)
    (hclosing : ∀ item ∈ closing, Mute item) (elements : List α) :
    ∀ item ∈ listSection title macros closing elements, Mute item := by
  unfold listSection
  split
  · exact List.forall_mem_nil _
  · rw [List.forall_mem_append, List.forall_mem_cons, List.forall_mem_flatMap]
    exact ⟨⟨mute_comment title, fun element _ => hmacros element⟩, hclosing⟩

/-- What stands in a header in front of the prototypes. -/
theorem mute_macros :
    ∀ item ∈ clockSection board.clock ++ listSection "Pin Definitions" pinMacros [] board.pins ++
      listSection "Timer Definitions" timerMacros [.blank] board.timers ++
      listSection "UART Definitions" uartMacros [.blank] board.uarts ++
      listSection "I2C Definitions" i2cMacros [.blank] board.i2cs ++
      listSection "SPI Definitions" spiMacros [.blank] board.spis, Mute item := by
  have hblank : ∀ item ∈ [Item.blank], Mute item := List.forall_mem_singleton.2 mute_blank
  simp only [List.forall_mem_append]
  refine ⟨⟨⟨⟨⟨?_, ?_⟩, ?_⟩, ?_⟩, ?_⟩, ?_⟩
  · unfold clockSection
    split <;> simp
  · apply mute_listSection _ (List.forall_mem_nil _)
    intro pin
    unfold pinMacros
    split <;> simp
  · apply mute_listSection _ hblank
    intro timer
    unfold timerMacros
    split <;> simp [setting]
  · apply mute_listSection _ hblank
    simp [uartMacros, setting]
  · apply mute_listSection _ hblank
    intro i2c
    unfold i2cMacros
    split <;> simp [setting]
  · apply mute_listSection _ hblank
    simp [spiMacros, setting]

theorem attributeLines_signatures : ∀ signature ∈ board.signatures, signature.attributeLines = [] := by
  simp only [signatures, List.forall_mem_append, List.forall_mem_cons, List.forall_mem_map]
  exact ⟨⟨⟨rfl, fun _ _ => rfl⟩, fun _ _ => rfl⟩, fun _ _ => rfl⟩

theorem lines_prototypes :
    Listing.lines layout (board.signatures.map .prototype) =
      board.signatures.map Signature.prototypeLine := by
  have hsingle : ∀ signature ∈ board.signatures,
      (Item.prototype signature).lines layout = [signature.prototypeLine] := by
    intro signature hsignature
    rw [Item.lines, attributeLines_signatures signature hsignature, List.nil_append]
  rw [Listing.lines, List.flatMap_map, List.map_eq_flatMap]
  exact List.flatMap_congr hsingle

/-- Only the prototypes of a header begin with a letter. -/
theorem filter_declares_header :
    (Listing.lines layout (board.header stamp)).filter declares =
      board.signatures.map Signature.prototypeLine := by
  have hbanner : ∀ item ∈ board.banner "Header" stamp, Mute item := by
    rw [banner, List.forall_mem_cons, List.forall_mem_singleton]
    exact ⟨List.forall_mem_cons.2 ⟨rfl, List.forall_mem_singleton.2 rfl⟩, mute_blank⟩
  have hguard : ∀ item ∈ [Item.unlessDefined guardName, .marker guardName, .blank,
      .systemInclude "project.h", .blank], Mute item := by
    simp [Mute, Item.heads]
  have hback : ∀ item ∈ [Item.blank, .blank, .endGuard guardName], Mute item := by
    simp [Mute, Item.heads]
  -- Regrouped, so that all that stands in front of the prototypes is one part.
  have hsplit : board.header stamp =
      board.banner "Header" stamp ++
      ([.unlessDefined guardName, .marker guardName, .blank, .systemInclude "project.h", .blank] ++
      ((clockSection board.clock ++ listSection "Pin Definitions" pinMacros [] board.pins ++
      listSection "Timer Definitions" timerMacros [.blank] board.timers ++
      listSection "UART Definitions" uartMacros [.blank] board.uarts ++
      listSection "I2C Definitions" i2cMacros [.blank] board.i2cs ++
      listSection "SPI Definitions" spiMacros [.blank] board.spis) ++
      ([.comment "Function Prototypes"] ++ (board.signatures.map .prototype ++
      [.blank, .blank, .endGuard guardName])))) := by
    simp [header, headerSections]
  have happend : ∀ xs ys : Listing, (Listing.lines layout (xs ++ ys)).filter declares =
      (Listing.lines layout xs).filter declares ++ (Listing.lines layout ys).filter declares := by
    intro xs ys
    rw [Listing.lines, List.flatMap_append, List.filter_append]
    rfl
  have hdeclared : ∀ line ∈ board.signatures.map Signature.prototypeLine, declares line = true := by
    rw [List.forall_mem_map]
    exact fun signature hsignature => (legible_signatures signature hsignature).declares
  rw [hsplit, happend, filter_declares_of_mute hbanner, happend, filter_declares_of_mute hguard,
    happend, filter_declares_of_mute mute_macros, happend,
    filter_declares_of_mute (List.forall_mem_singleton.2 (mute_comment _)), happend,
    filter_declares_of_mute hback, lines_prototypes, List.filter_eq_self.2 hdeclared]
  simp only [List.nil_append, List.append_nil]

/-- The prototypes of a header are the signatures of the board. -/
theorem declaredSignatures_header :
    declaredSignatures (Listing.lines layout (board.header stamp)) = board.signatures.map some := by
  rw [declaredSignatures, filter_declares_header, List.map_map]
  apply List.map_congr_left
  exact fun signature hsignature => (legible_signatures signature hsignature).declared

/-! ## The source -/

/-- The functions of a board with their bodies. -/
def functions (board : Board) : List (Signature × List Statement) :=
  (initSignature, board.initBody) ::
    board.interruptTimers.map (fun timer => (handlerSignature timer, handlerBody timer)) ++
    board.outputPins.map (fun pin => (writeSignature pin, writeBody pin)) ++
    board.inputPins.map fun pin => (readSignature pin, readBody pin)

theorem map_fst_functions : board.functions.map Prod.fst = board.signatures := by
  simp only [functions, signatures, List.map_append, List.map_cons, List.map_map,
    Function.comp_def]

/-- The block of a function. -/
def functionBlock (function : Signature × List Statement) : Block where
  head := function.1.headLine
  body := function.2.flatMap (Statement.lines layout)
  tail := "\x7d"

theorem filterMap_remarked {α : Type} (xs : List α) (remark : α → String) (signature : α → Signature)
    (body : α → List Statement) :
    (xs.flatMap fun x => remarked (remark x) (signature x) (body x)).filterMap
        (Item.block? layout) =
      (xs.map fun x => (signature x, body x)).map functionBlock := by
  rw [List.filterMap_flatMap, List.map_map, List.map_eq_flatMap]
  rfl

/-- The blocks of a source are the functions of the board. -/
theorem blocks_source :
    blocks (Listing.lines layout (board.source stamp)) = board.functions.map functionBlock := by
  have hinit : board.initFunction.filterMap (Item.block? layout) =
      [functionBlock (initSignature, board.initBody)] := rfl
  have hhandlers := filterMap_remarked board.interruptTimers
    (fun timer => s!"{timer.name} interrupt service routine") handlerSignature handlerBody
  have hwrites := filterMap_remarked board.outputPins (fun pin => s!"Write to {pin.name}")
    writeSignature writeBody
  have hreads := filterMap_remarked board.inputPins (fun pin => s!"Read from {pin.name}")
    readSignature readBody
  have hfront : (board.banner "Source" stamp ++
      [Item.ownInclude (baseName ++ ".h"), .blank]).filterMap (Item.block? layout) = [] := rfl
  have hsections : board.sourceSections.filterMap (Item.block? layout) =
      functionBlock (initSignature, board.initBody) ::
        (board.interruptTimers.flatMap timerHandler).filterMap (Item.block? layout) ++
        (board.outputPins.flatMap writeFunction).filterMap (Item.block? layout) ++
        (board.inputPins.flatMap readFunction).filterMap (Item.block? layout) := by
    simp only [sourceSections, List.filterMap_append, hinit, List.singleton_append]
  rw [blocks_lines, source, List.filterMap_append, hfront, List.nil_append, hsections]
  unfold timerHandler writeFunction readFunction functions
  rw [hhandlers, hwrites, hreads]
  simp only [List.map_append, List.map_cons]

/-- The functions that a source defines have the signatures of the board. -/
theorem definedSignatures_source :
    definedSignatures (Listing.lines layout (board.source stamp)) = board.signatures.map some := by
  rw [definedSignatures, blocks_source, ← map_fst_functions, List.map_map, List.map_map]
  apply List.map_congr_left
  intro function hfunction
  have hmem : function.1 ∈ board.signatures := map_fst_functions ▸ List.mem_map_of_mem hfunction
  exact (legible_signatures function.1 hmem).defined

end FirmwareGen.Board
