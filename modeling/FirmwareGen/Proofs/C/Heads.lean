-- SUMMARY: The characters that the lines of an item begin with, and readings of single lines.
import FirmwareGen.Proofs.C.Blocks
/-!
# Heads of lines

What an item is can be seen from how its lines begin. A reader that looks for lines with a known
beginning passes over all items whose lines begin otherwise.
-/

namespace FirmwareGen.C

open Text

/-! ## First characters -/

def Signature.heads : Signature → List Char
  | .function .staticInline _ _ _ => ['s']
  | .function .interrupt result _ _ => '_' :: (result ++ " ").toList.head?.toList
  | .function .plain result _ _ => (result ++ " ").toList.head?.toList
  | .handler _ => ['C']

/-- The characters that lines of an item can begin with. -/
def Item.heads : Item → List Char
  | .blank => []
  | .comment _ | .lineComment _ => ['/']
  | .banner _ => ['/', ' ']
  | .unlessDefined _ | .endGuard _ | .marker _ | .constant _ _ _ | .systemInclude _
  | .ownInclude _ => ['#']
  | .shortEnum _ _ => ['t']
  | .enumeration _ _ => ['t', ' ', '\x7d']
  | .structType _ _ => ['t', '\x7b', ' ', '\x7d']
  | .declaredObject _ _ => ['e']
  | .object type _ _ _ => (type ++ " ").toList.head?.toList
  | .prototype signature => signature.heads
  | .definition signature _ => signature.heads ++ ['\x7b', ' ', '\x7d']

/-- A line that is empty or begins with one of some characters. -/
def Begins (heads : List Char) (line : String) : Prop :=
  ∀ c, line.toList.head? = some c → c ∈ heads

theorem begins_of_indented {line : String} (h : Indented line) {heads : List Char}
    (hblank : ' ' ∈ heads) : Begins heads line := fun c hc => h c hc ▸ hblank

theorem begins_of_head {line : String} {c : Char} (h : line.toList.head? = some c)
    {heads : List Char} (hc : c ∈ heads) : Begins heads line := by
  intro d hd
  rw [h, Option.some.injEq] at hd
  exact hd ▸ hc

theorem begins_append {front : String} {c : Char} (h : front.toList.head? = some c) (rest : String)
    {heads : List Char} (hc : c ∈ heads) : Begins heads (front ++ rest) := by
  refine begins_of_head ?_ hc
  rw [String.toList_append, List.head?_append, h]
  rfl

theorem begins_word (word rest : String) :
    Begins (word ++ " ").toList.head?.toList (word ++ " " ++ rest) := by
  cases hhead : (word ++ " ").toList.head? with
  | none => simp at hhead
  | some c => exact begins_append hhead rest (by simp)

theorem begins_headLine (signature : Signature) (rest : String) :
    Begins signature.heads (signature.headLine ++ rest) := by
  cases signature with
  | handler name =>
    rw [Signature.headLine, String.append_assoc, String.append_assoc]
    exact begins_append (c := 'C') (by simp) _ (by simp [Signature.heads])
  | function linkage result name parameters =>
    have hresult := begins_word result (name ++ "(" ++ printParameters parameters ++ ")" ++ rest)
    cases linkage with
    | plain => simpa [Signature.headLine, Signature.heads, String.append_assoc] using hresult
    | staticInline =>
      simp only [Signature.headLine, String.append_assoc]
      exact begins_append (c := 's') (by simp) _ (by simp [Signature.heads])
    | interrupt =>
      have hline : Begins (Signature.function .interrupt result name parameters).heads
          (result ++ " " ++ (name ++ "(" ++ printParameters parameters ++ ")" ++ rest)) :=
        fun c hc => List.mem_cons_of_mem _ (hresult c hc)
      simpa [Signature.headLine, String.append_assoc] using hline

theorem begins_attributeLines (signature : Signature) :
    ∀ line ∈ signature.attributeLines, Begins signature.heads line := by
  cases signature with
  | handler name => exact List.forall_mem_nil _
  | function linkage result name parameters =>
    cases linkage with
    | interrupt =>
      exact List.forall_mem_singleton.2
        (begins_of_head (c := '_') (by simp [interruptAttributes]) (by simp [Signature.heads]))
    | _ => exact List.forall_mem_nil _

theorem begins_prototypeLine (signature : Signature) :
    Begins signature.heads signature.prototypeLine := by
  cases signature with
  | function linkage result name parameters => exact begins_headLine _ ";"
  | handler name =>
    rw [Signature.prototypeLine, String.append_assoc]
    exact begins_append (c := 'C') (by simp) _ (by simp [Signature.heads])

theorem begins_closingLine (name : String) {heads : List Char} (h : '\x7d' ∈ heads) :
    Begins heads ("\x7d " ++ name ++ ";") := by
  rw [String.append_assoc]
  exact begins_append (c := '\x7d') (by simp) _ h

/-- The lines of an item begin with the characters of its kind. -/
theorem begins_item (layout : Layout) (item : Item) :
    ∀ line ∈ item.lines layout, Begins item.heads line := by
  have hsharp : ∀ front rest : String, front.toList.head? = some '#' →
      Begins ['#'] (front ++ rest) := fun front rest h => begins_append h rest (by simp)
  have hslash : ∀ front rest : String, front.toList.head? = some '/' →
      Begins ['/'] (front ++ rest) := fun front rest h => begins_append h rest (by simp)
  cases item with
  | blank =>
    refine List.forall_mem_singleton.2 fun c hc => ?_
    simp at hc
  | comment text =>
    simp only [Item.lines, List.forall_mem_singleton, String.append_assoc]
    exact hslash _ _ (by simp)
  | lineComment text => exact List.forall_mem_singleton.2 (hslash _ _ (by simp))
  | banner texts =>
    exact Item.forall_lines_banner.2 ⟨begins_of_head (c := '/') (by simp) (by simp [Item.heads]),
      fun text _ => begins_append (c := ' ') (by simp) text (by simp [Item.heads]),
      begins_of_head (c := ' ') (by simp) (by simp [Item.heads])⟩
  | unlessDefined name => exact List.forall_mem_singleton.2 (hsharp _ _ (by simp))
  | endGuard name =>
    refine List.forall_mem_singleton.2 ?_
    split
    · rw [String.append_assoc]
      exact hsharp _ _ (by simp)
    · exact hsharp _ _ (by simp)
  | marker name => exact List.forall_mem_singleton.2 (hsharp _ _ (by simp))
  | constant name gap value =>
    simp only [Item.lines, List.forall_mem_singleton, String.append_assoc]
    exact hsharp _ _ (by simp)
  | systemInclude file =>
    simp only [Item.lines, List.forall_mem_singleton, String.append_assoc]
    exact hsharp _ _ (by simp)
  | ownInclude file =>
    simp only [Item.lines, List.forall_mem_singleton, String.append_assoc]
    exact hsharp _ _ (by simp)
  | shortEnum enumerators name =>
    simp only [Item.lines, List.forall_mem_singleton, String.append_assoc]
    exact begins_append (c := 't') (by simp) _ (by simp [Item.heads])
  | enumeration enumerators name =>
    exact Item.forall_lines_enumeration.2
      ⟨begins_of_head (c := 't') (by simp) (by simp [Item.heads]),
        fun line hline => begins_of_indented (indented_enumeratorLines enumerators line hline)
          (by simp [Item.heads]),
        begins_closingLine name (by simp [Item.heads])⟩
  | structType name members =>
    exact Item.forall_lines_structType.2
      ⟨begins_append (c := 't') (by simp) _ (by simp [Item.heads]),
        begins_of_head (c := '\x7b') (by simp) (by simp [Item.heads]),
        fun member _ => begins_of_indented (indented_member member) (by simp [Item.heads]),
        begins_closingLine name (by simp [Item.heads])⟩
  | declaredObject type name =>
    simp only [Item.lines, List.forall_mem_singleton, String.append_assoc]
    exact begins_append (c := 'e') (by simp) _ (by simp [Item.heads])
  | object type name field value =>
    have hword := begins_word type (name ++ " = \x7b." ++ field ++ " = " ++ value.print ++ "\x7d;")
    simpa [Item.lines, Item.heads, String.append_assoc] using hword
  | prototype signature =>
    exact Item.forall_lines_prototype.2
      ⟨begins_attributeLines signature, begins_prototypeLine signature⟩
  | definition signature body =>
    have hheads : ∀ {line}, Begins signature.heads line →
        Begins (Item.definition signature body).heads line := fun h c hc =>
      List.mem_append_left _ (h c hc)
    have hbrace : ∀ c : Char, c ∈ ['\x7b', ' ', '\x7d'] →
        c ∈ (Item.definition signature body).heads := fun c hc => List.mem_append_right _ hc
    have hhead := begins_headLine signature ""
    rw [String.append_empty] at hhead
    exact Item.forall_lines_definition.2
      ⟨fun line hline => hheads (begins_attributeLines signature line hline), hheads hhead,
        begins_of_head (c := '\x7b') (by simp) (hbrace _ (by simp)),
        fun statement _ line hline => begins_of_indented
          (indented_statement layout statement line hline) (hbrace ' ' (by simp)),
        begins_of_head (c := '\x7d') (by simp) (hbrace _ (by simp))⟩

/-! ## Reading single lines -/

section Scan

variable {α : Type} {read : String → Option α} {layout : Layout}

/-- What is read from the lines of a listing, item by item. -/
def scan (layout : Layout) (read : String → Option α) (listing : Listing) : List α :=
  listing.flatMap fun item => (item.lines layout).filterMap read

theorem filterMap_lines (layout : Layout) (read : String → Option α) (listing : Listing) :
    (Listing.lines layout listing).filterMap read = scan layout read listing := by
  rw [Listing.lines, scan, List.filterMap_flatMap]

@[simp] theorem scan_nil : scan layout read [] = [] := rfl

theorem scan_cons (item : Item) (listing : Listing) :
    scan layout read (item :: listing) =
      (item.lines layout).filterMap read ++ scan layout read listing := List.flatMap_cons

theorem scan_append (xs ys : Listing) :
    scan layout read (xs ++ ys) = scan layout read xs ++ scan layout read ys :=
  List.flatMap_append

theorem scan_flatMap {β : Type} (xs : List β) (f : β → Listing) :
    scan layout read (xs.flatMap f) = xs.flatMap fun x => scan layout read (f x) := by
  rw [scan, List.flatMap_assoc]
  rfl

theorem map_filter_eq_flatMap {α β : Type} (p : α → Prop) [DecidablePred p] (f : α → β)
    (xs : List α) :
    (xs.filter fun x => p x).map f = xs.flatMap fun x => if p x then [f x] else [] := by
  induction xs with
  | nil => rfl
  | cons x xs ih =>
    rw [List.flatMap_cons, ← ih]
    by_cases hx : p x <;> simp [hx]

/-- A reader of lines with a known beginning reads nothing from lines that begin otherwise. -/
theorem scan_eq_nil {c : Char} (hread : ∀ line, line.toList.head? ≠ some c → read line = none)
    {listing : Listing} (h : ∀ item ∈ listing, c ∉ item.heads) : scan layout read listing = [] := by
  rw [scan, List.flatMap_eq_nil_iff]
  intro item hitem
  rw [List.filterMap_eq_nil_iff]
  intro line hline
  exact hread line fun hc => h item hitem (begins_item layout item line hline c hc)

theorem filterMap_item_eq_nil {c : Char}
    (hread : ∀ line, line.toList.head? ≠ some c → read line = none) {item : Item}
    (h : c ∉ item.heads) : (item.lines layout).filterMap read = [] := by
  rw [List.filterMap_eq_nil_iff]
  intro line hline
  exact hread line fun hc => h (begins_item layout item line hline c hc)

/-- Of a function, only the line that names it is read. -/
theorem filterMap_definition {c : Char}
    (hread : ∀ line, line.toList.head? ≠ some c → read line = none)
    (hc : c ∉ ['_', '\x7b', ' ', '\x7d']) (signature : Signature) (body : List Statement) :
    (Item.lines layout (.definition signature body)).filterMap read =
      (read signature.headLine).toList := by
  simp only [List.mem_cons, List.not_mem_nil, or_false, not_or] at hc
  obtain ⟨hattribute, hopen, hblank, hclose⟩ := hc
  have hbegins : ∀ {line heads}, Begins heads line → c ∉ heads → read line = none :=
    fun hline hheads => hread _ fun hcons => hheads (hline c hcons)
  have hattributes : signature.attributeLines.filterMap read = [] := by
    rw [List.filterMap_eq_nil_iff]
    exact signature.forall_attributeLines
      (hread _ (by simp [interruptAttributes, Ne.symm hattribute]))
  have hbody : (body.flatMap (Statement.lines layout)).filterMap read = [] := by
    rw [List.filterMap_eq_nil_iff]
    intro line hline
    exact hread line fun hhead => hblank (indented_body layout body line hline c hhead)
  have hbraces : read "\x7b" = none ∧ read "\x7d" = none :=
    ⟨hread _ (by simp [Ne.symm hopen]), hread _ (by simp [Ne.symm hclose])⟩
  simp only [Item.lines, List.filterMap_append, hattributes, hbody, List.nil_append,
    List.append_nil, List.filterMap_cons_none hbraces.2,
    List.filterMap_nil]
  cases hhead : read signature.headLine <;> simp [hhead, hbraces.1]

end Scan

/-- A text between a front and a back begins as the front does. -/
theorem between?_of_head {front : String} {c : Char} (hfront : front.toList.head? = some c)
    (back line : String) (h : line.toList.head? ≠ some c) : between? front back line = none := by
  refine between?_eq_none fun rest heq => h ?_
  rw [heq, List.head?_append, hfront]
  rfl

end FirmwareGen.C
