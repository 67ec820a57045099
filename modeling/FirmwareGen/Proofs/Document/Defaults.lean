-- SUMMARY: The declared fields and defaults of every type of the model, and that they are read.
import FirmwareGen.Model.Schema
import FirmwareGen.Proofs.Document.Denotation
/-!
# Defaults

The types of the model as they are declared: what each field is called in a document, in which order
the fields stand, and what a field is that a document leaves out.
-/

namespace FirmwareGen

open Document

/-! ## Modulators and phases -/

def Phase.parts : List (FieldPart Phase) :=
  [{ name := "id", content := (·.id), default := 0 },
   { name := "alias", content := (·.aliasName), default := "" },
   { name := "pwm", content := (·.pwm), default := "" },
   { name := "phase_shift", content := (·.phaseShift), default := "" },
   { name := "generate_isr", content := (·.generateIsr), default := false },
   { name := "isr_trigger_source", content := (·.isrTrigger), default := .periodMatch },
   { name := "trigger_adc", content := (·.triggerAdc), default := false },
   { name := "adc_trigger_source", content := (·.adcTrigger), default := .tr0 },
   { name := "alignment", content := (·.alignment), default := .center },
   { name := "group_number", content := (·.groupNumber), default := 0 },
   { name := "is_inverted", content := (·.isInverted), default := false }]

instance : Denoted Phase := ⟨DenotesRecord Phase.parts⟩

def Modulator.parts : List (FieldPart Modulator) :=
  [{ name := "id", content := (·.id), default := 0 },
   { name := "name", content := (·.name), default := "" },
   { name := "frequency", content := (·.frequency), default := "" },
   { name := "deadtime", content := (·.deadtime), default := "" },
   { name := "duty_cycle", content := (·.dutyCycle), default := "" },
   { name := "group_number", content := (·.groupNumber), default := 0 },
   { name := "trigger_start", content := (·.triggerStart), default := "" },
   { name := "trigger_stop", content := (·.triggerStop), default := "" },
   { name := "trigger_swap", content := (·.triggerSwap), default := "" },
   { name := "phases", content := (·.phases), default := [] }]

instance : Denoted Modulator := ⟨DenotesRecord Modulator.parts⟩

def ModulatorSet.parts : List (FieldPart ModulatorSet) :=
  [{ name := "modulators", content := (·.modulators), default := [] }]

instance : Denoted ModulatorSet := ⟨DenotesRecord ModulatorSet.parts⟩

/-! ## Boards -/

def ClockSettings.parts : List (FieldPart ClockSettings) :=
  [{ name := "main_clock_frequency", content := (·.mainFrequency), default := 24000000 },
   { name := "use_external_crystal", content := (·.usesCrystal), default := false },
   { name := "external_crystal_frequency", content := (·.crystalFrequency), default := 24000000 }]

instance : Denoted ClockSettings := ⟨DenotesRecord ClockSettings.parts⟩

def Pin.parts : List (FieldPart Pin) :=
  [{ name := "name", content := (·.name), default := "" },
   { name := "port", content := (·.portNumber), default := 0 },
   { name := "number", content := (·.number), default := 0 },
   { name := "mode", content := (·.mode), default := .input },
   { name := "drive", content := (·.drive), default := .standard },
   { name := "pull_up", content := (·.pullUp), default := false },
   { name := "pull_down", content := (·.pullDown), default := false },
   { name := "comment", content := (·.comment), default := "" }]

instance : Denoted Pin := ⟨DenotesRecord Pin.parts⟩

def Timer.parts : List (FieldPart Timer) :=
  [{ name := "name", content := (·.name), default := "" },
   { name := "period", content := (·.period), default := 1000 },
   { name := "mode", content := (·.mode), default := .continuous },
   { name := "enable_interrupt", content := (·.enableInterrupt), default := false },
   { name := "interrupt_handler", content := (·.interruptHandler), default := "" }]

instance : Denoted Timer := ⟨DenotesRecord Timer.parts⟩

def Uart.parts : List (FieldPart Uart) :=
  [{ name := "name", content := (·.name), default := "" },
   { name := "baud_rate", content := (·.baudRate), default := 9600 },
   { name := "data_bits", content := (·.dataBits), default := 8 },
   { name := "parity", content := (·.parity), default := .none },
   { name := "stop_bits", content := (·.stopBits), default := 1 },
   { name := "tx_pin", content := (·.txPin), default := "" },
   { name := "rx_pin", content := (·.rxPin), default := "" }]

instance : Denoted Uart := ⟨DenotesRecord Uart.parts⟩

def I2c.parts : List (FieldPart I2c) :=
  [{ name := "name", content := (·.name), default := "" },
   { name := "clock_frequency", content := (·.clockFrequency), default := 100000 },
   { name := "scl_pin", content := (·.sclPin), default := "" },
   { name := "sda_pin", content := (·.sdaPin), default := "" },
   { name := "is_master", content := (·.isMaster), default := true },
   { name := "slave_address", content := (·.slaveAddress), default := 0x50 }]

instance : Denoted I2c := ⟨DenotesRecord I2c.parts⟩

def Spi.parts : List (FieldPart Spi) :=
  [{ name := "name", content := (·.name), default := "" },
   { name := "clock_frequency", content := (·.clockFrequency), default := 1000000 },
   { name := "mode", content := (·.mode), default := .mode0 },
   { name := "mosi_pin", content := (·.mosiPin), default := "" },
   { name := "miso_pin", content := (·.misoPin), default := "" },
   { name := "sclk_pin", content := (·.sclkPin), default := "" },
   { name := "cs_pin", content := (·.csPin), default := "" }]

instance : Denoted Spi := ⟨DenotesRecord Spi.parts⟩

def Board.parts : List (FieldPart Board) :=
  [{ name := "project_name", content := (·.projectName), default := "PsocProject" },
   { name := "version", content := (·.version), default := "1.0.0" },
   { name := "clock_settings", content := (·.clock),
     default := { mainFrequency := 24000000, usesCrystal := false, crystalFrequency := 24000000 } },
   { name := "pins", content := (·.pins), default := [] },
   { name := "timers", content := (·.timers), default := [] },
   { name := "uarts", content := (·.uarts), default := [] },
   { name := "i2cs", content := (·.i2cs), default := [] },
   { name := "spis", content := (·.spis), default := [] }]

/-! ## Schemas -/

/-- The types that are read as records. -/
inductive ModelType
  | phase | modulator | modulatorSet | clockSettings | pin | timer
  | uart | i2c | spi | board
  deriving DecidableEq, Repr

namespace ModelType

abbrev Carrier : ModelType → Type
  | .phase => Phase
  | .modulator => Modulator
  | .modulatorSet => ModulatorSet
  | .clockSettings => ClockSettings
  | .pin => Pin
  | .timer => Timer
  | .uart => Uart
  | .i2c => I2c
  | .spi => Spi
  | .board => Board

def schema : (type : ModelType) → Record type.Carrier
  | .phase => Phase.schema
  | .modulator => Modulator.schema
  | .modulatorSet => ModulatorSet.schema
  | .clockSettings => ClockSettings.schema
  | .pin => Pin.schema
  | .timer => Timer.schema
  | .uart => Uart.schema
  | .i2c => I2c.schema
  | .spi => Spi.schema
  | .board => Board.schema

def parts : (type : ModelType) → List (FieldPart type.Carrier)
  | .phase => Phase.parts
  | .modulator => Modulator.parts
  | .modulatorSet => ModulatorSet.parts
  | .clockSettings => ClockSettings.parts
  | .pin => Pin.parts
  | .timer => Timer.parts
  | .uart => Uart.parts
  | .i2c => I2c.parts
  | .spi => Spi.parts
  | .board => Board.parts

theorem settable_fields (type : ModelType) : ∀ field ∈ type.schema.fields, field.Settable := by
  cases type <;>
    simp only [schema, Phase.schema, Modulator.schema, ModulatorSet.schema, ClockSettings.schema,
      Pin.schema, Timer.schema, Uart.schema, I2c.schema, Spi.schema, Board.schema,
      List.forall_mem_cons] <;>
    and_intros <;>
    first
    | exact ⟨fun _ _ => rfl, fun _ => rfl⟩
    | exact List.forall_mem_nil _

theorem apart_fields (type : ModelType) : type.schema.fields.Pairwise Field.Apart := by
  cases type <;>
    simp only [schema, Phase.schema, Modulator.schema, ModulatorSet.schema, ClockSettings.schema,
      Pin.schema, Timer.schema, Uart.schema, I2c.schema, Spi.schema, Board.schema,
      List.pairwise_cons, List.forall_mem_cons] <;>
    and_intros <;>
    first
    | exact ⟨fun _ _ => rfl, fun _ _ => rfl⟩
    | exact List.forall_mem_nil _
    | exact .nil

theorem separated_schema (type : ModelType) : type.schema.Separated where
  settable := type.settable_fields
  apart := type.apart_fields
  names := by cases type <;> decide
  rebuilt _ := by cases type <;> rfl

end ModelType

theorem Phase.declares_schema : Phase.schema.Declares Phase.parts where
  separated := ModelType.separated_schema .phase
  fields := by
    simp only [Phase.schema, Phase.parts, List.forall₂_cons]
    exact ⟨.intro Codec.reads_uint32, .intro Codec.reads_text, .intro Codec.reads_text,
      .intro Codec.reads_text, .intro Codec.reads_flag, .intro (Codec.reads_choice IsrTrigger),
      .intro Codec.reads_flag, .intro (Codec.reads_choice AdcTrigger),
      .intro (Codec.reads_choice PwmAlignment), .intro Codec.reads_int32, .intro Codec.reads_flag,
      .nil⟩

theorem Modulator.declares_schema : Modulator.schema.Declares Modulator.parts where
  separated := ModelType.separated_schema .modulator
  fields := by
    simp only [Modulator.schema, Modulator.parts, List.forall₂_cons]
    exact ⟨.intro Codec.reads_uint32, .intro Codec.reads_text, .intro Codec.reads_text,
      .intro Codec.reads_text, .intro Codec.reads_text, .intro Codec.reads_uint8,
      .intro Codec.reads_text, .intro Codec.reads_text, .intro Codec.reads_text,
      .intro (Codec.reads_list Phase.declares_schema.reads), .nil⟩

theorem ModulatorSet.declares_schema : ModulatorSet.schema.Declares ModulatorSet.parts where
  separated := ModelType.separated_schema .modulatorSet
  fields := by
    simp only [ModulatorSet.schema, ModulatorSet.parts, List.forall₂_cons]
    exact ⟨.intro (Codec.reads_list Modulator.declares_schema.reads), .nil⟩

theorem ClockSettings.declares_schema : ClockSettings.schema.Declares ClockSettings.parts where
  separated := ModelType.separated_schema .clockSettings
  fields := by
    simp only [ClockSettings.schema, ClockSettings.parts, List.forall₂_cons]
    exact ⟨.intro Codec.reads_uint32, .intro Codec.reads_flag, .intro Codec.reads_uint32, .nil⟩

theorem Pin.declares_schema : Pin.schema.Declares Pin.parts where
  separated := ModelType.separated_schema .pin
  fields := by
    simp only [Pin.schema, Pin.parts, List.forall₂_cons]
    exact ⟨.intro Codec.reads_text, .intro Codec.reads_uint32, .intro Codec.reads_uint32,
      .intro (Codec.reads_choice PinMode), .intro (Codec.reads_choice PinDrive),
      .intro Codec.reads_flag, .intro Codec.reads_flag, .intro Codec.reads_text, .nil⟩

theorem Timer.declares_schema : Timer.schema.Declares Timer.parts where
  separated := ModelType.separated_schema .timer
  fields := by
    simp only [Timer.schema, Timer.parts, List.forall₂_cons]
    exact ⟨.intro Codec.reads_text, .intro Codec.reads_uint32,
      .intro (Codec.reads_choice TimerMode), .intro Codec.reads_flag, .intro Codec.reads_text,
      .nil⟩

theorem Uart.declares_schema : Uart.schema.Declares Uart.parts where
  separated := ModelType.separated_schema .uart
  fields := by
    simp only [Uart.schema, Uart.parts, List.forall₂_cons]
    exact ⟨.intro Codec.reads_text, .intro Codec.reads_uint32, .intro Codec.reads_uint8,
      .intro (Codec.reads_choice Parity), .intro Codec.reads_uint8, .intro Codec.reads_text,
      .intro Codec.reads_text, .nil⟩

theorem I2c.declares_schema : I2c.schema.Declares I2c.parts where
  separated := ModelType.separated_schema .i2c
  fields := by
    simp only [I2c.schema, I2c.parts, List.forall₂_cons]
    exact ⟨.intro Codec.reads_text, .intro Codec.reads_uint32, .intro Codec.reads_text,
      .intro Codec.reads_text, .intro Codec.reads_flag, .intro Codec.reads_uint8, .nil⟩

theorem Spi.declares_schema : Spi.schema.Declares Spi.parts where
  separated := ModelType.separated_schema .spi
  fields := by
    simp only [Spi.schema, Spi.parts, List.forall₂_cons]
    exact ⟨.intro Codec.reads_text, .intro Codec.reads_uint32,
      .intro (Codec.reads_choice SpiMode), .intro Codec.reads_text, .intro Codec.reads_text,
      .intro Codec.reads_text, .intro Codec.reads_text, .nil⟩

theorem Board.declares_schema : Board.schema.Declares Board.parts where
  separated := ModelType.separated_schema .board
  fields := by
    simp only [Board.schema, Board.parts, List.forall₂_cons]
    exact ⟨.intro Codec.reads_text, .intro Codec.reads_text,
      .intro ClockSettings.declares_schema.reads,
      .intro (Codec.reads_list Pin.declares_schema.reads),
      .intro (Codec.reads_list Timer.declares_schema.reads),
      .intro (Codec.reads_list Uart.declares_schema.reads),
      .intro (Codec.reads_list I2c.declares_schema.reads),
      .intro (Codec.reads_list Spi.declares_schema.reads), .nil⟩

theorem ModelType.declares_schema : (type : ModelType) → type.schema.Declares type.parts
  | .phase => Phase.declares_schema
  | .modulator => Modulator.declares_schema
  | .modulatorSet => ModulatorSet.declares_schema
  | .clockSettings => ClockSettings.declares_schema
  | .pin => Pin.declares_schema
  | .timer => Timer.declares_schema
  | .uart => Uart.declares_schema
  | .i2c => I2c.declares_schema
  | .spi => Spi.declares_schema
  | .board => Board.declares_schema

/-- Every type of the model is read from partial documents, with its declared defaults. -/
theorem takesDefaults_schema (type : ModelType) : TakesDefaults type.schema type.parts :=
  type.declares_schema.takesDefaults

/-- An array gives the first fields in order, and the rest of the timer is at its defaults. -/
example :
    Timer.schema.codec.decode Json.dialect (.array [.string "Tick", .int 500, .string "OneShot"]) =
      some { name := "Tick", period := 500, mode := .oneShot } := by
  decide

end FirmwareGen
