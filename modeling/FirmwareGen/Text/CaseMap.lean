-- SUMMARY: Full lower-case and upper-case mapping of texts, the final sigma included.
import FirmwareGen.Text.Blank
import FirmwareGen.Text.CaseTable
/-!
# Upper and lower case

Full case mapping: a character may become several, and a capital sigma at the end of a word takes
its final form.
-/

namespace FirmwareGen.Text

/-- The image of a code point under one run of a table, if the run has it. -/
def CaseRun.image? (run : CaseRun) (n : Nat) : Option Nat :=
  if run.first ≤ n ∧ n ≤ run.last ∧ (n - run.first) % run.stride = 0 then
    some (run.image + (n - run.first))
  else none

/-- The image of a character: an expansion comes before a run, and a character in neither table
    stays as it is. -/
def caseImage (runs : List CaseRun) (expansions : List (Nat × List Nat)) (c : Char) : List Char :=
  match expansions.lookup c.toNat with
  | some image => image.map Char.ofNat
  | none =>
    match runs.findSome? (·.image? c.toNat) with
    | some n => [Char.ofNat n]
    | none => [c]

/-! ## Upper case -/

def upperChar (c : Char) : List Char := caseImage upperRuns upperExpansions c

def upperChars (text : List Char) : List Char := text.flatMap upperChar

def upper (text : String) : String := String.ofList (upperChars text.toList)

/-! ## Lower case -/

def lowerChar (c : Char) : List Char := caseImage lowerRuns lowerExpansions c

/-- Whether the nearest character that counts for case is a letter with case. -/
def meetsCased (text : List Char) : Bool :=
  match text.dropWhile (inRanges caseIgnorableRanges) with
  | [] => false
  | c :: _ => inRanges casedRanges c

/-- The lower-case sigma between `before`, nearest character first, and `after`: final when a
    letter stands before it and none after it. -/
def lowerSigma (before after : List Char) : Char :=
  if meetsCased before && !meetsCased after then 'ς' else 'σ'

/-- Lower-cases a text that follows `before`, of which the nearest character comes first. -/
def lowerAfter (before : List Char) : List Char → List Char
  | [] => []
  | c :: rest =>
    (if c = 'Σ' then [lowerSigma before rest] else lowerChar c) ++ lowerAfter (c :: before) rest

def lowerChars (text : List Char) : List Char := lowerAfter [] text

def lower (text : String) : String := String.ofList (lowerChars text.toList)

end FirmwareGen.Text
