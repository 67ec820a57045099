-- SUMMARY: The two files of a board declare, define and use the same functions and macros.
import FirmwareGen.Proofs.Board.Bodies
/-!
# Agreement of board configurations

The functions of a board are laid out by four writers in two files, and the macros under a second
conversion of the names. The two files stay in step for every mix of pin modes and interrupts.
-/

namespace FirmwareGen.Board

open C Text

/-- A header and a source that a linker can put together. -/
structure InStep (board : Board) (header source : List String) : Prop where
  /-- The prototypes are those of the start-up function, of a handler for each timer with an
      interrupt, and of a function for each output and each input, in their order. -/
  declared : declaredSignatures header = List.map some (
    Signature.function .plain "void" "PsocConfig_Init" [] ::
      (board.timers.filter (·.enableInterrupt)).map (fun timer =>
        .handler (Naming.cIdentifier timer.name ++ "_ISR")) ++
      (board.pins.filter (·.mode = .output)).map (fun pin =>
        .function .plain "void" (Naming.cIdentifier pin.name ++ "_Write") [⟨"uint8", "value"⟩]) ++
      (board.pins.filter (·.mode = .input)).map fun pin =>
        .function .plain "uint8" (Naming.cIdentifier pin.name ++ "_Read") [])
  /-- The definitions match the prototypes one for one. -/
  defined : definedSignatures source = declaredSignatures header
  /-- The start-up function is defined once, and passes on a handler for each timer with an
      interrupt. -/
  started : ∃ body, bodiesWith (.function .plain "void" "PsocConfig_Init" []) source = [body] ∧
    body.filter passesArgument = (board.timers.filter (·.enableInterrupt)).map fun timer =>
      startLine (Naming.cIdentifier timer.name ++ "_ISR")
  /-- What the start-up function passes on is defined. -/
  handled : ∀ body ∈ bodiesWith (.function .plain "void" "PsocConfig_Init" []) source,
    ∀ line ∈ body.filter passesArgument, ∃ isr,
      line = startLine isr ∧ some (.handler isr) ∈ definedSignatures source
  /-- The masks are those of the outputs, which are reset and then written either way, and those of
      the inputs. -/
  used : usedMasks source =
    (board.pins.filter (·.mode = .output)).map (fun pin => Naming.macroName pin.name ++ "_MASK") ++
    (board.pins.filter (·.mode = .output)).flatMap (fun pin =>
      [Naming.macroName pin.name ++ "_MASK", Naming.macroName pin.name ++ "_MASK"]) ++
    (board.pins.filter (·.mode = .input)).map (fun pin => Naming.macroName pin.name ++ "_MASK")
  /-- No other line of a body has an operand that could be a mask. -/
  understood : ∀ line ∈ bodyLines source, Understood line
  /-- The masks are defined, as the masks of pins. -/
  masked : ∀ mask ∈ usedMasks source, ∃ pin ∈ board.pins,
    mask = Naming.macroName pin.name ++ "_MASK" ∧
      "#define " ++ mask ++ "    (1u << " ++ toString pin.number.toNat ++ ")" ∈ header

section Files

variable {board : Board} {stamp : String}

theorem mem_header_of_pinMacros {pin : Pin} (hpin : pin ∈ board.pins) {item : Item}
    (h : item ∈ pinMacros pin) : item ∈ board.header stamp := by
  have hsection : item ∈ listSection "Pin Definitions" pinMacros [] board.pins := by
    unfold listSection
    split
    · next hnil =>
      rw [hnil] at hpin
      cases hpin
    · apply List.mem_append_left
      exact List.mem_cons_of_mem _ (List.mem_flatMap.2 ⟨pin, hpin, h⟩)
  simp only [header, headerSections, List.mem_append, hsection, or_true, true_or]

/-- A header defines the masks of all pins. -/
theorem maskLine_mem_header {pin : Pin} (hpin : pin ∈ board.pins) :
    "#define " ++ maskMacro pin ++ "    (1u << " ++ toString pin.number.toNat ++ ")" ∈
      Listing.lines layout (board.header stamp) := by
  have hmacro : Item.constant (maskMacro pin) 4 (.group (.binary .shiftLeft (.literal "1u")
      (.literal (toString pin.number.toNat)))) ∈ pinMacros pin := by
    simp [pinMacros]
  refine List.mem_flatMap.2 ⟨_, mem_header_of_pinMacros hpin hmacro, ?_⟩
  rw [Item.lines, List.mem_singleton]
  simp [Expr.print, BinaryOp.symbol, ← String.toList_inj]

theorem pin_of_mem_usedMasks {mask : String}
    (h : mask ∈ usedMasks (Listing.lines layout (board.source stamp))) :
    ∃ pin ∈ board.pins, mask = maskMacro pin := by
  have hmasked : ∀ pins : List Pin, pins ⊆ board.pins → mask ∈ pins.map maskMacro →
      ∃ pin ∈ board.pins, mask = maskMacro pin := by
    rintro pins hpins hmem
    obtain ⟨pin, hpin, rfl⟩ := List.mem_map.1 hmem
    exact ⟨pin, hpins hpin, rfl⟩
  have houtputs := hmasked board.outputPins (List.filter_subset_self _)
  rw [usedMasks_source, List.mem_append, List.mem_append] at h
  rcases h with (hreset | hwritten) | hread
  · exact houtputs hreset
  · apply houtputs
    obtain ⟨pin, hpin, hmask⟩ := List.mem_flatMap.1 hwritten
    simp only [List.mem_cons, List.not_mem_nil, or_false, or_self] at hmask
    exact hmask ▸ List.mem_map_of_mem hpin
  · exact hmasked board.inputPins (List.filter_subset_self _) hread

/-- The start-up function passes on handlers that the source defines. -/
theorem handled_initBody {line : String}
    (h : line ∈ (printBody board.initBody).filter passesArgument) :
    ∃ isr, line = startLine isr ∧
      some (.handler isr) ∈ definedSignatures (Listing.lines layout (board.source stamp)) := by
  rw [passing_initBody] at h
  obtain ⟨timer, htimer, rfl⟩ := List.mem_map.1 h
  refine ⟨isrName timer, rfl, ?_⟩
  rw [definedSignatures_source, List.mem_map]
  refine ⟨handlerSignature timer, ?_, rfl⟩
  have hhandler := List.mem_map_of_mem (f := handlerSignature) htimer
  simp only [signatures, List.mem_append]
  exact .inl (.inl (List.mem_cons_of_mem _ hhandler))

end Files

/-- The two files of a call are in step. -/
theorem inStep_generate {ρ : Type} {board : Board} (h : board.OneLine) (clock : TimeSource ρ)
    (state : ρ) :
    InStep board (lines (board.generate clock state).1.header)
      (lines (board.generate clock state).1.source) := by
  obtain ⟨stamp, hheader, hsource⟩ := lines_generate h clock state
  rw [hheader, hsource]
  refine
    { declared := declaredSignatures_header
      defined := definedSignatures_source.trans declaredSignatures_header.symm
      started := ⟨_, bodiesWith_source, passing_initBody⟩
      handled := ?_
      used := usedMasks_source
      understood := understood_source
      masked := ?_ }
  · intro body hbody line hline
    obtain rfl := List.mem_singleton.1 (bodiesWith_source ▸ hbody)
    exact handled_initBody hline
  · intro mask hmask
    obtain ⟨pin, hpin, rfl⟩ := pin_of_mem_usedMasks hmask
    exact ⟨pin, hpin, rfl, maskLine_mem_header hpin⟩

/-- Pins of three modes, and a timer of either kind. -/
def mixedBoard : Board where
  projectName := "Bench"
  pins :=
    [{ name := "Limit Switch", portNumber := 1, number := 3 },
     { name := "Status Led", portNumber := 2, number := 5, mode := .output, comment := "active low" },
     { name := "Sense", mode := .analog },
     { name := "Relay", portNumber := 2, number := 7, mode := .output }]
  timers :=
    [{ name := "Tick" }, { name := "Slow Tick", enableInterrupt := true, interruptHandler := "beat" }]
  uarts := [{ name := "Console" }]

theorem within_mixedBoard (v : Vocabulary) : mixedBoard.Within v where
  projectName := v.fixed rfl
  version := v.fixed rfl
  pins := by
    simp only [mixedBoard, List.forall_mem_cons]
    exact ⟨⟨v.fixed rfl, v.fixed rfl⟩, ⟨v.fixed rfl, v.fixed rfl⟩, ⟨v.fixed rfl, v.fixed rfl⟩,
      ⟨v.fixed rfl, v.fixed rfl⟩, List.forall_mem_nil _⟩
  timers := by
    simp only [mixedBoard, List.forall_mem_cons]
    exact ⟨⟨v.fixed rfl, v.fixed rfl⟩, ⟨v.fixed rfl, v.fixed rfl⟩, List.forall_mem_nil _⟩
  uarts := List.forall_mem_singleton.2 (v.fixed rfl)
  i2cs := List.forall_mem_nil _
  spis := List.forall_mem_nil _

theorem oneLine_mixedBoard : mixedBoard.OneLine := oneLine_iff.2 (within_mixedBoard .oneLine)

theorem inStep_generate_mixedBoard :
    mixedBoard.OneLine ∧
      InStep mixedBoard
        (lines (mixedBoard.generate (.fixed ⟨2024, 2, 29, 12, 0, 0, 0⟩) ()).1.header)
        (lines (mixedBoard.generate (.fixed ⟨2024, 2, 29, 12, 0, 0, 0⟩) ()).1.source) :=
  ⟨oneLine_mixedBoard, inStep_generate oneLine_mixedBoard _ _⟩

end FirmwareGen.Board
