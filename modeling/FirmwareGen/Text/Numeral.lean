-- SUMMARY: Digits of a base, reading of numbers and numbers of fixed width.
/-!
# Numerals

Decimal numerals of a fixed least width, two-digit hexadecimal numerals, and readers of numerals
made of ASCII digits.
-/

namespace FirmwareGen.Text

/-! ## Writing -/

/-- The last `width` digits of a number in the given base, most significant first. -/
def lastDigits (base : Nat) : Nat → Nat → List Char
  | 0, _ => []
  | width + 1, n => lastDigits base width (n / base) ++ [Nat.digitChar (n % base)]

@[simp] theorem length_lastDigits (base width n : Nat) :
    (lastDigits base width n).length = width := by
  induction width generalizing n with
  | zero => rfl
  | succ width ih => simp [lastDigits, ih]

/-- A decimal numeral, filled up with zeros to `width` digits. -/
def padded (width n : Nat) : List Char :=
  if n < Nat.pow 10 width then lastDigits 10 width n else Nat.toDigits 10 n

/-- A byte as a C literal of two upper-case hexadecimal digits. -/
def hexByte (byte : UInt8) : String :=
  "0x" ++ String.ofList ((lastDigits 16 2 byte.toNat).map Char.toUpper)

/-! ## Reading -/

/-- The value of a digit in the given base, the letters of either case. -/
def digitValue? (base : Nat) (c : Char) : Option Nat :=
  let n := c.toNat
  let value :=
    if 48 ≤ n ∧ n ≤ 57 then n - 48
    else if 97 ≤ n ∧ n ≤ 122 then n - 87
    else if 65 ≤ n ∧ n ≤ 90 then n - 55
    else base
  if value < base then some value else none

/-- The number that some digits denote after the number `start`. -/
def readDigits? (base start : Nat) : List Char → Option Nat
  | [] => some start
  | c :: rest =>
    match digitValue? base c with
    | some d => readDigits? base (start * base + d) rest
    | none => none

/-- One or more digits and nothing else. -/
def readNat? (base : Nat) : List Char → Option Nat
  | [] => none
  | c :: rest => readDigits? base 0 (c :: rest)

/-- An optional sign and one or more decimal digits. -/
def readInt? : List Char → Option Int
  | '-' :: rest => (readNat? 10 rest).map fun n => -(n : Int)
  | '+' :: rest => (readNat? 10 rest).map fun n => (n : Int)
  | rest => (readNat? 10 rest).map fun n => (n : Int)

end FirmwareGen.Text
