-- SUMMARY: The cases of a switch, read back from the lines of a function.
import FirmwareGen.C.Printer
import FirmwareGen.Proofs.Text.Lines
/-!
# Cases

A reader of a function finds the labels of its cases and what stands under each of them, up to the
line that leaves the switch.
-/

namespace FirmwareGen.C

open Text

/-! ## Reading cases -/

/-- The label of a case and the lines under it. -/
structure Arm where
  label : String
  body : List String
  deriving DecidableEq, Repr

def caseLabel? (line : String) : Option String := between? "        case " ":" line

/-- The lines in front of the first case, and the cases. -/
def armsFrom : List String → List String × List Arm
  | [] => ([], [])
  | line :: rest =>
    let (front, arms) := armsFrom rest
    match caseLabel? line with
    | some label => ([], { label, body := front } :: arms)
    | none => (line :: front, arms)

/-- The line that leaves a case. -/
def leaveLine : String := "            break;"

def Arm.untilLeave (arm : Arm) : Arm := { arm with body := arm.body.takeWhile (· != leaveLine) }

/-- The cases in the lines of a function. -/
def arms (lines : List String) : List Arm := (armsFrom lines).2.map Arm.untilLeave

/-! ## The cases of a switch -/

theorem caseLabel?_case (label : String) :
    caseLabel? (indent 2 ++ "case " ++ label ++ ":") = some label := by
  have hindent : indent 2 ++ "case " = "        case " := by simp [indent]
  rw [hindent, caseLabel?, between?_append]

/-- A line of a case is indented further than a label. -/
theorem caseLabel?_line (line : Simple) : caseLabel? (line.line 3) = none := by
  have hblank : caseLabel? "" = none := by
    rw [caseLabel?, between?_eq_none]
    intro rest heq
    simp at heq
  have hindent : ∀ text, caseLabel? (indent 3 ++ text) = none := by
    intro text
    have htext : indent 3 ++ text = "            " ++ text := by simp [indent]
    rw [htext]
    exact between?_ofList_append rfl rfl _ _
  cases line with
  | blank => exact hblank
  | _ => exact hindent _

theorem armsFrom_append {lines : List String} (h : ∀ line ∈ lines, caseLabel? line = none)
    (rest : List String) :
    armsFrom (lines ++ rest) = (lines ++ (armsFrom rest).1, (armsFrom rest).2) := by
  induction lines with
  | nil => rfl
  | cons line lines ih =>
    rw [List.forall_mem_cons] at h
    rw [List.cons_append, armsFrom, ih h.2, h.1]
    rfl

theorem armsFrom_of_none {lines : List String} (h : ∀ line ∈ lines, caseLabel? line = none) :
    armsFrom lines = (lines, []) := by
  have hnil := armsFrom_append h []
  rwa [List.append_nil, armsFrom, List.append_nil] at hnil

/-- What a case does before it leaves the switch. -/
def Case.arm (case : Case) : Arm :=
  { label := case.label
    body := (case.body.map (Simple.line 3)).takeWhile (· != leaveLine) }

theorem leaveLine_eq : Simple.line 3 .leave = leaveLine := by
  simp [Simple.line, Simple.print, indent, leaveLine]

theorem untilLeave_append {case : Case} (h : Simple.leave ∈ case.body) (rest : List String) :
    Arm.untilLeave { label := case.label, body := case.body.map (Simple.line 3) ++ rest } =
      case.arm := by
  have hleave : leaveLine ∈ case.body.map (Simple.line 3) :=
    List.mem_map.2 ⟨.leave, h, leaveLine_eq⟩
  rw [Arm.untilLeave, Case.arm, takeWhile_append_of_mem hleave (by simp)]

/-- Cases that all leave the switch are read back, whatever comes behind them. -/
theorem arms_cases {cases : List Case} (h : ∀ case ∈ cases, Simple.leave ∈ case.body)
    {front back : List String} (hfront : ∀ line ∈ front, caseLabel? line = none)
    (hback : ∀ line ∈ back, caseLabel? line = none) :
    arms (front ++ cases.flatMap Case.lines ++ back) = cases.map Case.arm := by
  have hcases : ((armsFrom (cases.flatMap Case.lines ++ back)).2).map Arm.untilLeave =
      cases.map Case.arm := by
    induction cases with
    | nil => rw [List.flatMap_nil, List.nil_append, armsFrom_of_none hback]; rfl
    | cons case cases ih =>
      rw [List.forall_mem_cons] at h
      have hbody : ∀ line ∈ case.body.map (Simple.line 3), caseLabel? line = none := by
        intro line hline
        obtain ⟨simple, -, rfl⟩ := List.mem_map.1 hline
        exact caseLabel?_line simple
      rw [List.flatMap_cons, Case.lines, List.append_assoc, List.cons_append, armsFrom,
        armsFrom_append hbody, caseLabel?_case]
      simp only [List.map_cons, untilLeave_append h.1, ih h.2]
  rw [arms, List.append_assoc, armsFrom_append hfront]
  exact hcases

end FirmwareGen.C
