-- SUMMARY: The function of each pin and the macros it uses, which pins can share.
import FirmwareGen.Proofs.Board.Agreement
import Mathlib.Data.List.Nodup
/-!
# Macros of pins

The functions of a pin are named in the letters of the pin, but its macros in capitals. So two pins
with functions of their own can still share their macros. A header defines the macros of a name once
for each pin with that macro name, with the port and the number of that pin.
-/

namespace FirmwareGen.Board

open C Text

/-! ## Reading macros -/

/-- The name and the value of the macro that a line defines. The name ends at the first blank. -/
def define? (line : String) : Option (String × String) :=
  (between? "#define " "" line).map fun rest =>
    (String.ofList (rest.toList.takeWhile (· != ' ')),
     String.ofList ((rest.toList.dropWhile (· != ' ')).dropWhile (· == ' ')))

/-- The values that a file defines for a macro. -/
def valuesOf (name : String) (lines : List String) : List String :=
  ((lines.filterMap define?).filter (·.1 = name)).map (·.2)

/-- The macros of a pin. -/
inductive PinMacro
  | port | number | mask
  deriving DecidableEq, Repr

namespace PinMacro

/-- What the name of a macro has behind the macro name of the pin. -/
def suffix : PinMacro → String
  | port => "_PORT"
  | number => "_PIN"
  | mask => "_MASK"

def value : PinMacro → Pin → String
  | port, pin => "P" ++ toString pin.portNumber.toNat
  | number, pin => toString pin.number.toNat
  | mask, pin => "(1u << " ++ toString pin.number.toNat ++ ")"

end PinMacro

/-! ## Lines that define -/

theorem define?_of_head (line : String) (h : line.toList.head? ≠ some '#') :
    define? line = none := by
  rw [define?, between?_of_head (by simp) "" line h]
  rfl

theorem define?_append {name : String} (hname : Solid name) (gap : Nat) (value : String) :
    define? ("#define " ++ name ++ String.ofList (List.replicate (gap + 1) ' ') ++ value) =
      some (name, String.ofList (value.toList.dropWhile (· == ' '))) := by
  have hrest : between? "#define " "" ("#define " ++ name ++
      String.ofList (List.replicate (gap + 1) ' ') ++ value) =
      some (name ++ String.ofList (List.replicate (gap + 1) ' ') ++ value) :=
    between?_eq_some_iff.2 (by simp only [String.append_assoc, String.append_empty])
  have hletters : ∀ c ∈ name.toList, (c != ' ') = true := by
    intro c hc
    simpa using fun heq : c = ' ' => hname (heq ▸ hc)
  have hstop : (List.replicate (gap + 1) ' ' ++ value.toList).takeWhile (· != ' ') = [] ∧
      (List.replicate (gap + 1) ' ' ++ value.toList).dropWhile (· != ' ') =
        List.replicate (gap + 1) ' ' ++ value.toList := by
    simp [List.replicate_succ]
  have hblanks : (List.replicate (gap + 1) ' ' ++ value.toList).dropWhile (· == ' ') =
      value.toList.dropWhile (· == ' ') := List.dropWhile_append_of_pos (by simp)
  rw [define?, hrest, Option.map_some]
  simp only [String.toList_append, String.toList_ofList, List.append_assoc,
    List.takeWhile_append_of_pos hletters, List.dropWhile_append_of_pos hletters, hstop.1, hstop.2,
    hblanks, List.append_nil, String.ofList_toList]

/-- What a listing defines. -/
def defined (listing : Listing) : List (String × String) := scan layout define? listing

theorem defined_append (front back : Listing) :
    defined (front ++ back) = defined front ++ defined back := scan_append front back

theorem defined_flatMap {α : Type} (xs : List α) (f : α → Listing) :
    defined (xs.flatMap f) = xs.flatMap fun x => defined (f x) := scan_flatMap xs f

theorem defined_of_heads {listing : Listing} (h : ∀ item ∈ listing, '#' ∉ item.heads) :
    defined listing = [] := scan_eq_nil define?_of_head h

theorem defined_constant {name : String} (hname : Solid name) (gap : Nat) (value : Expr) :
    defined [.constant name (gap + 1) value] =
      [(name, String.ofList (value.print.toList.dropWhile (· == ' ')))] := by
  rw [defined, scan, List.flatMap_singleton, Item.lines,
    List.filterMap_cons_some (define?_append hname gap _), List.filterMap_nil]

/-! ## Macros of other things -/

/-- An item that defines no macro with the ending of a macro of a pin. -/
def Foreign (item : Item) : Prop :=
  ∀ definition ∈ defined [item], ∀ kind : PinMacro, endsWith kind.suffix definition.1 = false

theorem foreign_of_heads {item : Item} (h : '#' ∉ item.heads) : Foreign item := by
  rw [Foreign, defined_of_heads (List.forall_mem_singleton.2 h)]
  exact List.forall_mem_nil _

@[simp] theorem foreign_blank : Foreign .blank := foreign_of_heads (by simp [Item.heads])

@[simp] theorem foreign_comment (text : String) : Foreign (.comment text) :=
  foreign_of_heads (by simp [Item.heads])

/-- A word without blanks whose last part is no ending of a macro of a pin. -/
def apart (cs : List Char) : Bool :=
  cs.all (· != ' ') && [PinMacro.port, .number, .mask].all fun kind =>
    !kind.suffix.toList.isSuffixOf cs && !cs.isSuffixOf kind.suffix.toList

theorem endsWith_of_apart {cs : List Char} (h : apart cs = true) (kind : PinMacro) :
    endsWith kind.suffix (String.ofList cs) = false ∧
      endsWith (String.ofList cs) kind.suffix = false := by
  have hkind : kind ∈ [PinMacro.port, .number, .mask] := by cases kind <;> simp
  have happart := List.all_eq_true.1 (Bool.and_eq_true_iff.1 h).2 kind hkind
  simpa [endsWith] using happart

/-- For literals, as `oneLine_ofList`. -/
theorem foreign_constant {cs : List Char} (h : apart cs = true) (gap : Nat) (value : Expr) :
    Foreign (.constant (String.ofList cs) (gap + 1) value) := by
  rw [Foreign, defined_constant (solid_ofList (Bool.and_eq_true_iff.1 h).1),
    List.forall_mem_singleton]
  exact fun kind => (endsWith_of_apart h kind).1

/-- For literals, as `oneLine_ofList`. -/
theorem foreign_setting {cs : List Char} (h : apart cs = true) (name : String) (value : Expr) :
    Foreign (setting name (String.ofList cs) value) := by
  have hsolid := solid_append (solid_macroName name) (solid_ofList (Bool.and_eq_true_iff.1 h).1)
  rw [setting, Foreign, defined_constant hsolid, List.forall_mem_singleton]
  exact fun kind =>
    endsWith_append_eq_false (endsWith_of_apart h kind).1 (endsWith_of_apart h kind).2 _

theorem foreign_listSection {α : Type} (title : String) {macros : α → List Item}
    (h : ∀ element, ∀ item ∈ macros element, Foreign item) (elements : List α) :
    ∀ item ∈ listSection title macros [.blank] elements, Foreign item := by
  unfold listSection
  split
  · exact List.forall_mem_nil _
  · rw [List.forall_mem_append, List.forall_mem_cons, List.forall_mem_flatMap,
      List.forall_mem_singleton]
    exact ⟨⟨foreign_comment title, fun element _ => h element⟩, foreign_blank⟩

theorem foreign_clockSection (clock : ClockSettings) :
    ∀ item ∈ clockSection clock, Foreign item := by
  simp only [clockSection, List.forall_mem_append, List.forall_mem_cons]
  refine ⟨⟨⟨foreign_comment _, foreign_constant rfl 3 _, List.forall_mem_nil _⟩, ?_⟩,
    foreign_blank, List.forall_mem_nil _⟩
  split
  · simp only [List.forall_mem_cons]
    exact ⟨foreign_constant rfl 3 _, foreign_constant rfl 3 _, List.forall_mem_nil _⟩
  · exact List.forall_mem_singleton.2 (foreign_constant rfl 3 _)

section Header

variable (board : Board) (stamp : String)

/-- What stands in a header in front of the pins. -/
theorem foreign_front :
    ∀ item ∈ board.banner "Header" stamp ++
      [.unlessDefined guardName, .marker guardName, .blank, .systemInclude "project.h", .blank] ++
      clockSection board.clock, Foreign item := by
  have hguard : Foreign (.marker guardName) := by
    have hdefined : defined [.marker guardName] = [("PSOC_CONFIG_H", "")] := by decide
    rw [Foreign, hdefined, List.forall_mem_singleton]
    intro kind
    cases kind <;> decide
  have hnone : ∀ item ∈ [Item.unlessDefined guardName, .systemInclude "project.h"],
      Foreign item := by
    have hdefined : ∀ item ∈ [Item.unlessDefined guardName, .systemInclude "project.h"],
        defined [item] = [] := by
      simp only [List.forall_mem_cons]
      exact ⟨by decide, by decide, List.forall_mem_nil _⟩
    intro item hitem
    rw [Foreign, hdefined item hitem]
    exact List.forall_mem_nil _
  simp only [List.forall_mem_append, List.forall_mem_cons, banner] at hnone ⊢
  exact ⟨⟨⟨foreign_of_heads (by simp [Item.heads]), foreign_blank, List.forall_mem_nil _⟩,
    hnone.1, hguard, foreign_blank, hnone.2.1, foreign_blank, List.forall_mem_nil _⟩,
    foreign_clockSection _⟩

/-- No function is declared by a directive. -/
theorem foreign_prototypes :
    ∀ item ∈ board.signatures.map Item.prototype, Foreign item := by
  have hprototype : ∀ signature : Signature, '#' ∉ signature.heads →
      Foreign (.prototype signature) := fun _ h => foreign_of_heads h
  simp only [List.forall_mem_map, List.forall_mem_append, List.forall_mem_cons, signatures]
  refine ⟨⟨⟨hprototype _ (by decide), fun _ _ => hprototype _ ?_⟩,
    fun _ _ => hprototype _ ?_⟩, fun _ _ => hprototype _ ?_⟩
  · simp [handlerSignature, Signature.heads]
  · simp [writeSignature, Signature.heads]
  · simp [readSignature, Signature.heads]

/-- What stands in a header behind the pins. -/
theorem foreign_back :
    ∀ item ∈ listSection "Timer Definitions" timerMacros [.blank] board.timers ++
      listSection "UART Definitions" uartMacros [.blank] board.uarts ++
      listSection "I2C Definitions" i2cMacros [.blank] board.i2cs ++
      listSection "SPI Definitions" spiMacros [.blank] board.spis ++
      [.comment "Function Prototypes"] ++ board.signatures.map .prototype ++
      [.blank, .blank, .endGuard guardName], Foreign item := by
  have hend : Foreign (.endGuard guardName) := by
    have hdefined : defined [.endGuard guardName] = [] := by decide
    rw [Foreign, hdefined]
    exact List.forall_mem_nil _
  simp only [List.forall_mem_append, List.forall_mem_cons]
  refine ⟨⟨⟨⟨⟨⟨foreign_listSection _ ?_ _, foreign_listSection _ ?_ _⟩,
    foreign_listSection _ ?_ _⟩, foreign_listSection _ ?_ _⟩,
    foreign_comment _, List.forall_mem_nil _⟩, foreign_prototypes board⟩, foreign_blank,
    foreign_blank, hend, List.forall_mem_nil _⟩
  · intro timer
    rw [timerMacros, List.forall_mem_cons]
    refine ⟨foreign_setting rfl _ _, ?_⟩
    split
    · exact List.forall_mem_singleton.2 (foreign_setting rfl _ _)
    · exact List.forall_mem_nil _
  · intro uart
    simp only [uartMacros, List.forall_mem_cons]
    exact ⟨foreign_setting rfl _ _, foreign_setting rfl _ _, foreign_setting rfl _ _,
      List.forall_mem_nil _⟩
  · intro i2c
    rw [i2cMacros, List.forall_mem_cons]
    refine ⟨foreign_setting rfl _ _, ?_⟩
    split
    · exact List.forall_mem_nil _
    · exact List.forall_mem_singleton.2 (foreign_setting rfl _ _)
  · intro spi
    simp only [spiMacros, List.forall_mem_cons]
    exact ⟨foreign_setting rfl _ _, foreign_setting rfl _ _, List.forall_mem_nil _⟩

theorem header_around_pins :
    ∃ front back : Listing,
      board.header stamp =
        front ++ listSection "Pin Definitions" pinMacros [] board.pins ++ back ∧
      (∀ item ∈ front, Foreign item) ∧ ∀ item ∈ back, Foreign item := by
  refine ⟨_, _, ?_, foreign_front board stamp, foreign_back board⟩
  simp only [header, headerSections, List.append_assoc, List.cons_append, List.nil_append]

/-! ## Macros of pins -/

theorem head?_ne_of_solid {text : String} (h : Solid text) : text.toList.head? ≠ some ' ' :=
  fun hhead => h (List.mem_of_head? hhead)

theorem solid_toString (n : Nat) : Solid (toString n) := by
  intro hmem
  rw [Nat.toString_eq_repr, Nat.toList_repr] at hmem
  exact absurd (Nat.isDigit_of_mem_toDigits (by decide) (by decide) hmem) (by decide)

theorem solid_suffix (kind : PinMacro) : Solid kind.suffix := by
  cases kind <;> exact solid_ofList rfl

theorem head?_value_ne (kind : PinMacro) (pin : Pin) :
    (kind.value pin).toList.head? ≠ some ' ' := by
  cases kind with
  | port => simp [PinMacro.value]
  | number => exact head?_ne_of_solid (solid_toString _)
  | mask => simp [PinMacro.value]

/-- The line of a macro of a pin. -/
theorem defined_pinMacro (kind : PinMacro) (pin : Pin) (gap : Nat) {value : Expr}
    (hvalue : value.print = kind.value pin) :
    defined [.constant (Naming.macroName pin.name ++ kind.suffix) (gap + 1) value] =
      [(Naming.macroName pin.name ++ kind.suffix, kind.value pin)] := by
  have hblanks : (kind.value pin).toList.dropWhile (· == ' ') = (kind.value pin).toList := by
    have hhead := head?_value_ne kind pin
    cases hchars : (kind.value pin).toList with
    | nil => rfl
    | cons c rest =>
      rw [hchars, List.head?_cons, ne_eq, Option.some.injEq] at hhead
      rw [List.dropWhile_cons_of_neg (by simpa using hhead)]
  rw [defined_constant (solid_append (solid_macroName _) (solid_suffix kind)), hvalue, hblanks,
    String.ofList_toList]

theorem defined_pinMacros (pin : Pin) :
    defined (pinMacros pin) =
      [PinMacro.port, .number, .mask].map fun kind =>
        (Naming.macroName pin.name ++ kind.suffix, kind.value pin) := by
  have hcomment : defined (if pin.comment = "" then [] else [.lineComment pin.comment]) = [] := by
    apply defined_of_heads
    split <;> simp [Item.heads]
  have hblank : defined [.blank] = [] := defined_of_heads (by simp [Item.heads])
  have hsplit : pinMacros pin =
      [.constant (Naming.macroName pin.name ++ PinMacro.port.suffix) 4
        (.name s!"P{pin.portNumber.toNat}")] ++
      [.constant (Naming.macroName pin.name ++ PinMacro.number.suffix) 5
        (.literal (toString pin.number.toNat))] ++
      [.constant (Naming.macroName pin.name ++ PinMacro.mask.suffix) 4
        (.group (.binary .shiftLeft (.literal "1u") (.literal (toString pin.number.toNat))))] ++
      (if pin.comment = "" then [] else [.lineComment pin.comment]) ++ [.blank] := rfl
  rw [hsplit, defined_append, defined_append, defined_append, defined_append, hcomment, hblank,
    defined_pinMacro .port pin, defined_pinMacro .number pin, defined_pinMacro .mask pin]
  · rfl
  · simp [Expr.print, PinMacro.value, BinaryOp.symbol, ← String.toList_inj]
  · rfl
  · rfl

theorem valuesOf_lines (name : String) (listing : Listing) :
    valuesOf name (Listing.lines layout listing) =
      ((defined listing).filter (·.1 = name)).map (·.2) := by
  rw [valuesOf, filterMap_lines]
  rfl

theorem filter_defined_of_foreign {listing : Listing} (h : ∀ item ∈ listing, Foreign item)
    (stem : String) (kind : PinMacro) :
    (defined listing).filter (·.1 = stem ++ kind.suffix) = [] := by
  rw [List.filter_eq_nil_iff]
  intro definition hdefinition
  obtain ⟨item, hitem, hmem⟩ := List.mem_flatMap.1 hdefinition
  have hends := h item hitem definition (by rwa [defined, scan, List.flatMap_singleton]) kind
  simpa using fun heq => append_ne_of_endsWith hends stem (Eq.symm heq)

theorem append_suffix_eq_iff {front stem : String} {kind other : PinMacro} :
    front ++ other.suffix = stem ++ kind.suffix ↔ other = kind ∧ front = stem := by
  constructor
  · intro h
    have hkind : other = kind := by
      by_contra hne
      have hends : endsWith other.suffix kind.suffix = false ∧
          endsWith kind.suffix other.suffix = false := by
        revert hne
        cases other <;> cases kind <;> decide
      exact append_ne_append hends.1 hends.2 front stem h
    subst hkind
    refine ⟨rfl, ?_⟩
    rw [← String.toList_inj] at h ⊢
    simpa using h
  · rintro ⟨rfl, rfl⟩
    rfl

theorem filter_defined_pinMacros (pin : Pin) (stem : String) (kind : PinMacro) :
    ((defined (pinMacros pin)).filter (·.1 = stem ++ kind.suffix)).map (·.2) =
      if Naming.macroName pin.name = stem then [kind.value pin] else [] := by
  rw [defined_pinMacros, List.filter_map]
  simp only [Function.comp_def, append_suffix_eq_iff]
  by_cases hstem : Naming.macroName pin.name = stem
  · cases kind <;> simp [hstem]
  · simp [hstem]

/-- A header defines a macro of a name once for each pin with that macro name. -/
theorem valuesOf_header (stem : String) (kind : PinMacro) :
    valuesOf (stem ++ kind.suffix) (Listing.lines layout (board.header stamp)) =
      (board.pins.filter fun pin => Naming.macroName pin.name = stem).map kind.value := by
  obtain ⟨front, back, hheader, hfront, hback⟩ := header_around_pins board stamp
  have hpins : defined (listSection "Pin Definitions" pinMacros [] board.pins) =
      board.pins.flatMap fun pin => defined (pinMacros pin) := by
    unfold listSection
    split
    · next hnil => rw [hnil]; rfl
    · rw [List.append_nil, ← List.singleton_append, defined_append, defined_flatMap]
      rfl
  rw [valuesOf_lines, hheader, defined_append, defined_append, hpins, List.filter_append,
    List.filter_append, filter_defined_of_foreign hfront, filter_defined_of_foreign hback,
    List.nil_append, List.append_nil, List.filter_flatMap, List.map_flatMap, map_filter_eq_flatMap]
  exact List.flatMap_congr fun pin _ => filter_defined_pinMacros pin stem kind

end Header

/-! ## Functions of pins -/

/-- The function of a pin that is an output or an input, and its body where it uses the macros of a
    macro name. -/
def accessor? (pin : Pin) (stem : String) : Option (Signature × List String) :=
  match pin.mode with
  | .output =>
    some (.function .plain "void" (Naming.cIdentifier pin.name ++ "_Write") [⟨"uint8", "value"⟩],
      ["    if (value)",
       "        " ++ stem ++ "_PORT_DR |= " ++ stem ++ "_MASK;",
       "    else",
       "        " ++ stem ++ "_PORT_DR &= ~" ++ stem ++ "_MASK;"])
  | .input =>
    some (.function .plain "uint8" (Naming.cIdentifier pin.name ++ "_Read") [],
      ["    return (" ++ stem ++ "_PORT_PS & " ++ stem ++ "_MASK) ? 1u : 0u;"])
  | .bidirectional | .analog => none

section Functions

variable {board : Board} {stamp : String}

/-- One element is left of a list just if no other one is. -/
theorem map_filter_eq_singleton_iff {α β : Type} {p : α → Bool} {f : α → β} {front back : List α}
    {x : α} (hx : p x = true) :
    ((front ++ x :: back).filter p).map f = [f x] ↔ ∀ y ∈ front ++ back, p y = false := by
  rw [List.forall_mem_append, List.filter_append, List.filter_cons_of_pos hx]
  constructor
  · intro h
    have hlength := congrArg List.length h
    simp only [List.length_map, List.length_append, List.length_cons, List.length_nil] at hlength
    have hfront : (front.filter p).length = 0 := by omega
    have hback : (back.filter p).length = 0 := by omega
    rw [List.length_eq_zero_iff, List.filter_eq_nil_iff] at hfront hback
    simp only [Bool.not_eq_true] at hfront hback
    exact ⟨hfront, hback⟩
  · rintro ⟨hfront, hback⟩
    rw [List.filter_eq_nil_iff.2 (by simpa using hfront),
      List.filter_eq_nil_iff.2 (by simpa using hback)]
    rfl

theorem bodiesWith_write (pin : Pin) :
    bodiesWith (writeSignature pin) (Listing.lines layout (board.source stamp)) =
      (board.pins.filter fun other => other.mode = .output &&
        Naming.cIdentifier other.name = Naming.cIdentifier pin.name).map fun other =>
          printBody (writeBody other) := by
  simp [bodiesWith_eq, functions, outputPins, List.filter_map, List.filter_filter, Function.comp_def,
    initSignature, handlerSignature, writeSignature, readSignature, Bool.and_comm]

theorem bodiesWith_read (pin : Pin) :
    bodiesWith (readSignature pin) (Listing.lines layout (board.source stamp)) =
      (board.pins.filter fun other => other.mode = .input &&
        Naming.cIdentifier other.name = Naming.cIdentifier pin.name).map fun other =>
          printBody (readBody other) := by
  simp [bodiesWith_eq, functions, inputPins, List.filter_map, List.filter_filter, Function.comp_def,
    initSignature, handlerSignature, writeSignature, readSignature, Bool.and_comm]

theorem printBody_writeBody (pin : Pin) :
    printBody (writeBody pin) =
      ["    if (value)",
       "        " ++ Naming.macroName pin.name ++ "_PORT_DR |= " ++ Naming.macroName pin.name ++
        "_MASK;",
       "    else",
       "        " ++ Naming.macroName pin.name ++ "_PORT_DR &= ~" ++ Naming.macroName pin.name ++
        "_MASK;"] := by
  simp [printBody, writeBody, Statement.lines, line_raisePin, line_clearPin, portMacro, maskMacro,
    Layout.keyword, layout, Expr.print, indent, ← String.toList_inj]

/-- The function of a pin is defined once where no two pins have the same C identifier. -/
theorem bodiesWith_accessor {front back : List Pin} {pin : Pin}
    (hpins : board.pins = front ++ pin :: back)
    (hdistinct : (board.pins.map fun pin => Naming.cIdentifier pin.name).Nodup)
    {signature : Signature} {body : List String}
    (h : accessor? pin (Naming.macroName pin.name) = some (signature, body)) :
    bodiesWith signature (Listing.lines layout (board.source stamp)) = [body] := by
  rw [hpins, List.map_append, List.map_cons, List.nodup_middle, List.nodup_cons,
    ← List.map_append] at hdistinct
  have hothers : ∀ other ∈ front ++ back,
      Naming.cIdentifier other.name ≠ Naming.cIdentifier pin.name := fun other hother heq =>
    hdistinct.1 (heq ▸ List.mem_map_of_mem hother)
  unfold accessor? at h
  split at h
  · next hmode =>
    cases h
    rw [← printBody_writeBody]
    refine (bodiesWith_write pin).trans ?_
    rw [hpins]
    exact (map_filter_eq_singleton_iff (by simp [hmode])).2 fun other hother => by
      simp [hothers other hother]
  · next hmode =>
    cases h
    have hbody : printBody (readBody pin) =
        ["    return (" ++ Naming.macroName pin.name ++ "_PORT_PS & " ++ Naming.macroName pin.name ++
          "_MASK) ? 1u : 0u;"] := by
      simp [printBody_readBody, portMacro, maskMacro, ← String.toList_inj]
    rw [← hbody]
    refine (bodiesWith_read pin).trans ?_
    rw [hpins]
    exact (map_filter_eq_singleton_iff (by simp [hmode])).2 fun other hother => by
      simp [hothers other hother]
  · cases h
  · cases h

end Functions

/-! ## Pins and their macros -/

/-- A header defines the macros of a pin once each, with the port and the number of the pin. -/
def DefinedOnce (pin : Pin) (header : List String) : Prop :=
  ∀ kind : PinMacro, valuesOf (Naming.macroName pin.name ++ kind.suffix) header = [kind.value pin]

/-- How the function of a pin comes to the pin, among other pins. -/
structure Driven (pin : Pin) (others : List Pin) (header source : List String) : Prop where
  /-- The function is defined once, and uses the macros of the macro name of the pin. -/
  function : ∀ signature body, accessor? pin (Naming.macroName pin.name) = some (signature, body) →
    bodiesWith signature source = [body]
  /-- These belong to the pin alone just if no other pin has its macro name. -/
  macros : DefinedOnce pin header ↔
    ∀ other ∈ others, Naming.macroName other.name ≠ Naming.macroName pin.name

theorem definedOnce_header_iff {board : Board} {stamp : String} {front back : List Pin} {pin : Pin}
    (hpins : board.pins = front ++ pin :: back) :
    DefinedOnce pin (Listing.lines layout (board.header stamp)) ↔
      ∀ other ∈ front ++ back, Naming.macroName other.name ≠ Naming.macroName pin.name := by
  have hvalues : ∀ kind : PinMacro,
      valuesOf (Naming.macroName pin.name ++ kind.suffix)
          (Listing.lines layout (board.header stamp)) = [kind.value pin] ↔
        ∀ other ∈ front ++ back, Naming.macroName other.name ≠ Naming.macroName pin.name := by
    intro kind
    rw [valuesOf_header, hpins, map_filter_eq_singleton_iff (by simp)]
    simp only [decide_eq_false_iff_not, ne_eq]
  exact ⟨fun h => (hvalues .port).1 (h .port), fun h kind => (hvalues kind).2 h⟩

/-- The function of each pin uses the macros of its macro name, and they are those of the pin as long
    as no other pin has that macro name. -/
theorem driven_generate {ρ : Type} {board : Board} (h : board.OneLine)
    (hdistinct : (board.pins.map fun pin => Naming.cIdentifier pin.name).Nodup)
    (clock : TimeSource ρ) (state : ρ) :
    ∀ front pin back, board.pins = front ++ pin :: back →
      Driven pin (front ++ back) (lines (board.generate clock state).1.header)
        (lines (board.generate clock state).1.source) := by
  intro front pin back hpins
  obtain ⟨stamp, hheader, hsource⟩ := lines_generate h clock state
  rw [hheader, hsource]
  exact ⟨fun _ _ haccessor => bodiesWith_accessor hpins hdistinct haccessor,
    definedOnce_header_iff hpins⟩

theorem driven_generate_mixedBoard :
    mixedBoard.OneLine ∧
      (mixedBoard.pins.map fun pin => Naming.cIdentifier pin.name).Nodup ∧
      ∀ front pin back, mixedBoard.pins = front ++ pin :: back →
        Driven pin (front ++ back)
          (lines (mixedBoard.generate (.fixed ⟨2024, 2, 29, 12, 0, 0, 0⟩) ()).1.header)
          (lines (mixedBoard.generate (.fixed ⟨2024, 2, 29, 12, 0, 0, 0⟩) ()).1.source) := by
  have hdistinct : (mixedBoard.pins.map fun pin => Naming.cIdentifier pin.name).Nodup := by
    decide +kernel
  exact ⟨oneLine_mixedBoard, hdistinct, driven_generate oneLine_mixedBoard hdistinct _ _⟩

/-- Two outputs whose names differ in the case of their letters only. -/
def twinBoard : Board where
  pins :=
    [{ name := "Led", portNumber := 1, number := 3, mode := .output },
     { name := "LED", portNumber := 2, number := 5, mode := .output }]

/-- A pin with a line of C in its comment. -/
def remarkBoard : Board where
  pins :=
    [{ name := "Led", portNumber := 1, number := 3, mode := .output,
       comment := "x\n#define LED_PORT    P9" }]

def headerLines (board : Board) : List String :=
  lines (board.generate (.fixed ⟨2024, 2, 29, 12, 0, 0, 0⟩) ()).1.header

theorem valuesOf_twinBoard : valuesOf "LED_PORT" (headerLines twinBoard) = ["P1", "P2"] := by
  have honeLine : twinBoard.OneLine := by constructor <;> decide +kernel
  obtain ⟨stamp, hheader, -⟩ := lines_generate honeLine (.fixed ⟨2024, 2, 29, 12, 0, 0, 0⟩) ()
  rw [headerLines, hheader]
  refine (valuesOf_header twinBoard stamp "LED" .port).trans ?_
  decide +kernel

/-- The comment is one item of the listing, but two lines of the text. -/
theorem mem_valuesOf_remarkBoard : "P9" ∈ valuesOf "LED_PORT" (headerLines remarkBoard) := by
  have hline : "#define LED_PORT    P9" ∈ headerLines remarkBoard := by
    rw [headerLines, files_generate, files, FilePair.header_ofBase, headerText, Listing.text,
      Listing.pieces, lines_join_flatMap, List.mem_flatMap]
    refine ⟨"// x\n#define LED_PORT    P9", ?_, by decide +kernel⟩
    obtain ⟨front, back, hheader, -, -⟩ := header_around_pins remarkBoard
      ((TimeSource.fixed ⟨2024, 2, 29, 12, 0, 0, 0⟩).read ()).1.timestamp
    have hpins : "// x\n#define LED_PORT    P9" ∈
        Listing.lines layout (listSection "Pin Definitions" pinMacros [] remarkBoard.pins) := by
      decide +kernel
    rw [hheader]
    simp only [Listing.lines, List.flatMap_append, List.mem_append] at hpins ⊢
    exact Or.inl (Or.inr hpins)
  have hdefine : define? "#define LED_PORT    P9" = some ("LED_PORT", "P9") := by decide +kernel
  exact List.mem_map_of_mem
    (List.mem_filter.2 ⟨List.mem_filterMap.2 ⟨_, hline, hdefine⟩, by decide⟩)

/-- Pins with different C identifiers can have macros that are defined twice, and so can a single pin
    with a line break in its comment. -/
theorem twice_twinBoard :
    (twinBoard.pins.map fun pin => Naming.cIdentifier pin.name).Nodup ∧
      valuesOf "LED_PORT" (headerLines twinBoard) = ["P1", "P2"] ∧
      (∀ pin ∈ twinBoard.pins, ¬ DefinedOnce pin (headerLines twinBoard)) ∧
      "P9" ∈ valuesOf "LED_PORT" (headerLines remarkBoard) ∧
      ∀ pin ∈ remarkBoard.pins, ¬ DefinedOnce pin (headerLines remarkBoard) := by
  have hnames : ∀ pin ∈ twinBoard.pins ++ remarkBoard.pins,
      Naming.macroName pin.name ++ PinMacro.port.suffix = "LED_PORT" := by decide +kernel
  rw [List.forall_mem_append] at hnames
  refine ⟨by decide +kernel, valuesOf_twinBoard, fun pin hpin hdefined => ?_,
    mem_valuesOf_remarkBoard, fun pin hpin hdefined => ?_⟩
  · have hport := hdefined .port
    rw [hnames.1 pin hpin, valuesOf_twinBoard] at hport
    simp at hport
  · have hvalue : ∀ pin ∈ remarkBoard.pins, PinMacro.port.value pin ≠ "P9" := by decide +kernel
    have hmem := mem_valuesOf_remarkBoard
    rw [← hnames.2 pin hpin, hdefined .port, List.mem_singleton] at hmem
    exact hvalue pin hpin hmem.symm

end FirmwareGen.Board
