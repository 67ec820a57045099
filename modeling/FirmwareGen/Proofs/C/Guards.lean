-- SUMMARY: Texts with one conditional part, which ends with the last line.
import FirmwareGen.Proofs.C.Heads
import FirmwareGen.Proofs.C.Texts
/-!
# Guards

Directives begin with a hash at the start of their line. A header is guarded if the only conditional
directives in it open a part and close it on the last line.
-/

namespace FirmwareGen.C

open Text (lines Vocabulary)
open Text.Vocabulary (unpunctuated)

/-! ## Directives -/

/-- The word of a directive, which stands behind the hash and blanks. -/
def directive? (line : String) : Option String :=
  match line.toList with
  | [] => none
  | c :: rest =>
    if c = '#' then some (String.ofList ((rest.dropWhile (· = ' ')).takeWhile Char.isAlpha)) else none

/-- The directives that open, divide and close conditional parts. -/
def conditionals : List String :=
  ["if", "ifdef", "ifndef", "elif", "elifdef", "elifndef", "else", "endif"]

def isConditional (line : String) : Bool :=
  match directive? line with
  | none => false
  | some word => conditionals.contains word

/-- A text with one conditional part, which a guard opens and the last line closes. -/
def Guarded (text : String) : Prop :=
  ∃ name closing, (lines text).filter isConditional = ["#ifndef " ++ name, closing] ∧
    directive? closing = some "endif" ∧ (lines text).getLast? = some closing

theorem isConditional_of_head {line : String} (h : line.toList.head? ≠ some '#') :
    isConditional line = false := by
  rw [isConditional, directive?]
  cases hline : line.toList with
  | nil => rfl
  | cons c rest =>
    rw [hline, List.head?_cons, ne_eq, Option.some.injEq] at h
    simp only [if_neg h]

/-- For literals, as `Text.oneLine_ofList`: nothing is read behind a front that the word ends in. -/
theorem directive_append {front : List Char}
    (hfront : (front.tail.dropWhile (· = ' ')).all Char.isAlpha = false) (rest : String) :
    directive? (String.ofList front ++ rest) = directive? (String.ofList front) := by
  rw [directive?, directive?, String.toList_append, String.toList_ofList]
  cases front with
  | nil => cases hfront
  | cons c front =>
    rw [List.tail_cons] at hfront
    obtain ⟨d, hd, hletter⟩ := List.all_eq_false.1 hfront
    have hrest : (front.dropWhile (· = ' ')).isEmpty = false :=
      List.isEmpty_eq_false_iff.2 (List.ne_nil_of_mem hd)
    have hword : ((front ++ rest.toList).dropWhile (· = ' ')).takeWhile Char.isAlpha =
        (front.dropWhile (· = ' ')).takeWhile Char.isAlpha := by
      rw [List.dropWhile_append, hrest]
      exact Text.takeWhile_append_of_mem hd (by simpa using hletter) _
    rw [List.cons_append]
    simp only [hword]

theorem isConditional_append {front : List Char}
    (hfront : (front.tail.dropWhile (· = ' ')).all Char.isAlpha = false) (rest : String) :
    isConditional (String.ofList front ++ rest) = isConditional (String.ofList front) := by
  rw [isConditional, directive_append hfront, isConditional]

/-! ## Conditional directives of a listing -/

/-- Whether an item opens or closes a conditional part. -/
def Item.isGuard : Item → Bool
  | .unlessDefined _ | .endGuard _ => true
  | _ => false

theorem hash_not_mem_word {word : String} (h : Text.Within unpunctuated.letter word) :
    '#' ∉ (word ++ " ").toList.head?.toList := by
  intro hmem
  have hchars : '#' ∈ (word ++ " ").toList := List.mem_of_head? (Option.mem_toList.1 hmem)
  rw [String.toList_append, List.mem_append] at hchars
  rcases hchars with hchars | hchars
  · exact Vocabulary.not_mem_punctuation h _ hchars (by decide)
  · exact absurd hchars (by decide)

theorem Signature.hash_not_mem_heads {signature : Signature} (h : signature.Within unpunctuated) :
    '#' ∉ signature.heads := by
  cases signature with
  | handler name => simp [Signature.heads]
  | function linkage result name parameters =>
    cases linkage with
    | plain => exact hash_not_mem_word h.1
    | staticInline => simp [Signature.heads]
    | interrupt => exact List.not_mem_cons_of_ne_of_not_mem (by decide) (hash_not_mem_word h.1)

/-- Only guards are conditional in a listing without punctuation in its texts. -/
theorem isConditional_item (layout : Layout) {item : Item} (h : item.Within unpunctuated)
    (hitem : item.isGuard = false) : ∀ line ∈ item.lines layout, isConditional line = false := by
  have hheads : '#' ∉ item.heads → ∀ line ∈ item.lines layout, isConditional line = false :=
    fun hhash line hline =>
      isConditional_of_head fun hhead => hhash (begins_item layout item line hline '#' hhead)
  cases item with
  | unlessDefined name | endGuard name => cases hitem
  | marker name => exact List.forall_mem_singleton.2 (isConditional_append rfl name)
  | constant name gap value =>
    refine List.forall_mem_singleton.2 ?_
    rw [String.append_assoc, String.append_assoc]
    exact isConditional_append rfl _
  | systemInclude file | ownInclude file =>
    refine List.forall_mem_singleton.2 ?_
    rw [String.append_assoc]
    exact isConditional_append rfl _
  | object type name field value => exact hheads (hash_not_mem_word h.1)
  | prototype signature => exact hheads (signature.hash_not_mem_heads h)
  | definition signature body =>
    refine hheads fun hmem => ?_
    rcases List.mem_append.1 hmem with hmem | hmem
    · exact signature.hash_not_mem_heads h.1 hmem
    · exact absurd hmem (by decide)
  | _ => exact hheads (by simp [Item.heads])

theorem filter_isConditional (layout : Layout) {listing : Listing}
    (h : ∀ item ∈ listing, item.Within unpunctuated)
    (hguards : ∀ item ∈ listing, item.isGuard = false) :
    (Listing.lines layout listing).filter isConditional = [] := by
  rw [List.filter_eq_nil_iff]
  intro line hline
  obtain ⟨item, hitem, hmem⟩ := List.mem_flatMap.1 hline
  simp [isConditional_item layout (h item hitem) (hguards item hitem) line hmem]

/-- A listing between a guard and its end, behind a preamble. -/
theorem guarded_text (layout : Layout) {preamble body : Listing} {name : String}
    (h : ∀ item ∈ preamble ++ [.unlessDefined name] ++ body ++ [.endGuard name],
      item.Within unpunctuated)
    (hpreamble : ∀ item ∈ preamble, item.isGuard = false)
    (hbody : ∀ item ∈ body, item.isGuard = false) :
    Guarded (Listing.text layout
      (preamble ++ [.unlessDefined name] ++ body ++ [.endGuard name])) := by
  have hlines := lines_text layout fun item hitem => item.unbroken_of_within (h item hitem)
  simp only [List.forall_mem_append] at h
  obtain ⟨closing, hclosing, hword⟩ : ∃ closing,
      (Item.endGuard name).lines layout = [closing] ∧ directive? closing = some "endif" := by
    refine ⟨_, rfl, ?_⟩
    split
    · rw [String.append_assoc]
      exact directive_append rfl _
    · exact directive_append rfl _
  have hopening : isConditional ("#ifndef " ++ name) = true := isConditional_append rfl name
  have hend : isConditional closing = true := by rw [isConditional, hword]; decide
  have hparts : Listing.lines layout (preamble ++ [.unlessDefined name] ++ body ++ [.endGuard name]) =
      Listing.lines layout preamble ++ ["#ifndef " ++ name] ++ Listing.lines layout body ++ [closing] := by
    simp only [Listing.lines, List.flatMap_append, List.flatMap_singleton, hclosing]
    rfl
  rw [Guarded, hlines, hparts]
  refine ⟨name, closing, ?_, hword, List.getLast?_concat⟩
  simp only [List.filter_append, List.filter_cons_of_pos, List.filter_nil, List.nil_append,
    filter_isConditional layout h.1.1.1 hpreamble, filter_isConditional layout h.1.2 hbody, hopening,
    hend, List.append_nil, List.cons_append]

end FirmwareGen.C
