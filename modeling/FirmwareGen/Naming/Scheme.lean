-- SUMMARY: How the names in generated code are derived from the names of a design.
import FirmwareGen.Naming.Identifier
import FirmwareGen.Text.Removal
/-!
# Naming schemes

A naming scheme says how PWM resources become phase enumerators and short phase names, and what
stands in for blank modulator names.
-/

namespace FirmwareGen

structure NamingScheme where
  /-- Removed from a PWM resource wherever it occurs. -/
  pwmMarker : String := "PWM_"
  /-- Removed further, in this order, from the short name of a phase. -/
  phaseFragments : List String := ["_INNER", "_OUTER"]
  fallbackBaseName : String := "modulator_config"
  fallbackSymbol : String := "MODULATOR"
  deriving DecidableEq, Repr

namespace NamingScheme

/-- The scheme that removes nothing and has no fallbacks. -/
def bare : NamingScheme where
  pwmMarker := ""
  phaseFragments := []
  fallbackBaseName := ""
  fallbackSymbol := ""

def addFragment (scheme : NamingScheme) (fragment : String) : NamingScheme :=
  { scheme with phaseFragments := scheme.phaseFragments ++ [fragment] }

/-- The symbol stem of a modulator, for which the fallback stands in if the name is blank. -/
def symbolStem (scheme : NamingScheme) (name : String) : String :=
  let stem := Naming.symbolStem name
  if stem = "" then scheme.fallbackSymbol else stem

/-- The PWM resource without the marker. -/
def phaseTag (scheme : NamingScheme) (pwm : String) : String := Text.remove scheme.pwmMarker pwm

/-- The phase tag without the fragments. -/
def phaseName (scheme : NamingScheme) (pwm : String) : String :=
  scheme.phaseFragments.foldl (fun name fragment => Text.remove fragment name) (scheme.phaseTag pwm)

end NamingScheme

end FirmwareGen
