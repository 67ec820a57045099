-- SUMMARY: How modulators and boards are read from document values and written back.
import FirmwareGen.Document.Record
import FirmwareGen.Model.Board
import FirmwareGen.Model.Modulator
/-!
# Schemas

The record schema of each type of the model: its fields in declaration order under the names that
documents use.
-/

namespace FirmwareGen

open Document

def Phase.schema : Record Phase where
  preset := {}
  fields :=
    [{ name := "id", codec := .uint32, get := (·.id), set := fun v p => { p with id := v } },
     { name := "alias", codec := .text, get := (·.aliasName),
       set := fun v p => { p with aliasName := v } },
     { name := "pwm", codec := .text, get := (·.pwm), set := fun v p => { p with pwm := v } },
     { name := "phase_shift", codec := .text, get := (·.phaseShift),
       set := fun v p => { p with phaseShift := v } },
     { name := "generate_isr", codec := .flag, get := (·.generateIsr),
       set := fun v p => { p with generateIsr := v } },
     { name := "isr_trigger_source", codec := .choice IsrTrigger, get := (·.isrTrigger),
       set := fun v p => { p with isrTrigger := v } },
     { name := "trigger_adc", codec := .flag, get := (·.triggerAdc),
       set := fun v p => { p with triggerAdc := v } },
     { name := "adc_trigger_source", codec := .choice AdcTrigger, get := (·.adcTrigger),
       set := fun v p => { p with adcTrigger := v } },
     { name := "alignment", codec := .choice PwmAlignment, get := (·.alignment),
       set := fun v p => { p with alignment := v } },
     { name := "group_number", codec := .int32, get := (·.groupNumber),
       set := fun v p => { p with groupNumber := v } },
     { name := "is_inverted", codec := .flag, get := (·.isInverted),
       set := fun v p => { p with isInverted := v } }]

def Modulator.schema : Record Modulator where
  preset := {}
  fields :=
    [{ name := "id", codec := .uint32, get := (·.id), set := fun v m => { m with id := v } },
     { name := "name", codec := .text, get := (·.name), set := fun v m => { m with name := v } },
     { name := "frequency", codec := .text, get := (·.frequency),
       set := fun v m => { m with frequency := v } },
     { name := "deadtime", codec := .text, get := (·.deadtime),
       set := fun v m => { m with deadtime := v } },
     { name := "duty_cycle", codec := .text, get := (·.dutyCycle),
       set := fun v m => { m with dutyCycle := v } },
     { name := "group_number", codec := .uint8, get := (·.groupNumber),
       set := fun v m => { m with groupNumber := v } },
     { name := "trigger_start", codec := .text, get := (·.triggerStart),
       set := fun v m => { m with triggerStart := v } },
     { name := "trigger_stop", codec := .text, get := (·.triggerStop),
       set := fun v m => { m with triggerStop := v } },
     { name := "trigger_swap", codec := .text, get := (·.triggerSwap),
       set := fun v m => { m with triggerSwap := v } },
     { name := "phases", codec := .list Phase.schema.codec, get := (·.phases),
       set := fun v m => { m with phases := v } }]

def ModulatorSet.schema : Record ModulatorSet where
  preset := {}
  fields :=
    [{ name := "modulators", codec := .list Modulator.schema.codec, get := (·.modulators),
       set := fun v s => { s with modulators := v } }]

def ClockSettings.schema : Record ClockSettings where
  preset := {}
  fields :=
    [{ name := "main_clock_frequency", codec := .uint32, get := (·.mainFrequency),
       set := fun v c => { c with mainFrequency := v } },
     { name := "use_external_crystal", codec := .flag, get := (·.usesCrystal),
       set := fun v c => { c with usesCrystal := v } },
     { name := "external_crystal_frequency", codec := .uint32, get := (·.crystalFrequency),
       set := fun v c => { c with crystalFrequency := v } }]

def Pin.schema : Record Pin where
  preset := {}
  fields :=
    [{ name := "name", codec := .text, get := (·.name), set := fun v p => { p with name := v } },
     { name := "port", codec := .uint32, get := (·.portNumber),
       set := fun v p => { p with portNumber := v } },
     { name := "number", codec := .uint32, get := (·.number),
       set := fun v p => { p with number := v } },
     { name := "mode", codec := .choice PinMode, get := (·.mode),
       set := fun v p => { p with mode := v } },
     { name := "drive", codec := .choice PinDrive, get := (·.drive),
       set := fun v p => { p with drive := v } },
     { name := "pull_up", codec := .flag, get := (·.pullUp),
       set := fun v p => { p with pullUp := v } },
     { name := "pull_down", codec := .flag, get := (·.pullDown),
       set := fun v p => { p with pullDown := v } },
     { name := "comment", codec := .text, get := (·.comment),
       set := fun v p => { p with comment := v } }]

def Timer.schema : Record Timer where
  preset := {}
  fields :=
    [{ name := "name", codec := .text, get := (·.name), set := fun v t => { t with name := v } },
     { name := "period", codec := .uint32, get := (·.period),
       set := fun v t => { t with period := v } },
     { name := "mode", codec := .choice TimerMode, get := (·.mode),
       set := fun v t => { t with mode := v } },
     { name := "enable_interrupt", codec := .flag, get := (·.enableInterrupt),
       set := fun v t => { t with enableInterrupt := v } },
     { name := "interrupt_handler", codec := .text, get := (·.interruptHandler),
       set := fun v t => { t with interruptHandler := v } }]

def Uart.schema : Record Uart where
  preset := {}
  fields :=
    [{ name := "name", codec := .text, get := (·.name), set := fun v u => { u with name := v } },
     { name := "baud_rate", codec := .uint32, get := (·.baudRate),
       set := fun v u => { u with baudRate := v } },
     { name := "data_bits", codec := .uint8, get := (·.dataBits),
       set := fun v u => { u with dataBits := v } },
     { name := "parity", codec := .choice Parity, get := (·.parity),
       set := fun v u => { u with parity := v } },
     { name := "stop_bits", codec := .uint8, get := (·.stopBits),
       set := fun v u => { u with stopBits := v } },
     { name := "tx_pin", codec := .text, get := (·.txPin),
       set := fun v u => { u with txPin := v } },
     { name := "rx_pin", codec := .text, get := (·.rxPin),
       set := fun v u => { u with rxPin := v } }]

def I2c.schema : Record I2c where
  preset := {}
  fields :=
    [{ name := "name", codec := .text, get := (·.name), set := fun v i => { i with name := v } },
     { name := "clock_frequency", codec := .uint32, get := (·.clockFrequency),
       set := fun v i => { i with clockFrequency := v } },
     { name := "scl_pin", codec := .text, get := (·.sclPin),
       set := fun v i => { i with sclPin := v } },
     { name := "sda_pin", codec := .text, get := (·.sdaPin),
       set := fun v i => { i with sdaPin := v } },
     { name := "is_master", codec := .flag, get := (·.isMaster),
       set := fun v i => { i with isMaster := v } },
     { name := "slave_address", codec := .uint8, get := (·.slaveAddress),
       set := fun v i => { i with slaveAddress := v } }]

def Spi.schema : Record Spi where
  preset := {}
  fields :=
    [{ name := "name", codec := .text, get := (·.name), set := fun v s => { s with name := v } },
     { name := "clock_frequency", codec := .uint32, get := (·.clockFrequency),
       set := fun v s => { s with clockFrequency := v } },
     { name := "mode", codec := .choice SpiMode, get := (·.mode),
       set := fun v s => { s with mode := v } },
     { name := "mosi_pin", codec := .text, get := (·.mosiPin),
       set := fun v s => { s with mosiPin := v } },
     { name := "miso_pin", codec := .text, get := (·.misoPin),
       set := fun v s => { s with misoPin := v } },
     { name := "sclk_pin", codec := .text, get := (·.sclkPin),
       set := fun v s => { s with sclkPin := v } },
     { name := "cs_pin", codec := .text, get := (·.csPin),
       set := fun v s => { s with csPin := v } }]

def Board.schema : Record Board where
  preset := {}
  fields :=
    [{ name := "project_name", codec := .text, get := (·.projectName),
       set := fun v b => { b with projectName := v } },
     { name := "version", codec := .text, get := (·.version),
       set := fun v b => { b with version := v } },
     { name := "clock_settings", codec := ClockSettings.schema.codec, get := (·.clock),
       set := fun v b => { b with clock := v } },
     { name := "pins", codec := .list Pin.schema.codec, get := (·.pins),
       set := fun v b => { b with pins := v } },
     { name := "timers", codec := .list Timer.schema.codec, get := (·.timers),
       set := fun v b => { b with timers := v } },
     { name := "uarts", codec := .list Uart.schema.codec, get := (·.uarts),
       set := fun v b => { b with uarts := v } },
     { name := "i2cs", codec := .list I2c.schema.codec, get := (·.i2cs),
       set := fun v b => { b with i2cs := v } },
     { name := "spis", codec := .list Spi.schema.codec, get := (·.spis),
       set := fun v b => { b with spis := v } }]

end FirmwareGen
