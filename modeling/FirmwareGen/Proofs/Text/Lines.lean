-- SUMMARY: The lines of a text, and the parts of a line between a known front and a known back.
import FirmwareGen.Text.Removal
import Mathlib.Data.List.Basic
import Mathlib.Tactic.Common
/-!
# Lines

A text whose lines all end in a line feed is cut into them again, as long as no line has a line
feed of its own. Inside a line, things are found by what stands around them.
-/

namespace FirmwareGen.Text

/-! ## Lines -/

/-- The lines of a text, without their line feeds. -/
def splitLines : List Char → List (List Char)
  | [] => []
  | c :: rest =>
    if c = '\n' then [] :: splitLines rest
    else
      match splitLines rest with
      | [] => [[c]]
      | line :: further => (c :: line) :: further

def lines (text : String) : List String := (splitLines text.toList).map String.ofList

/-- A text without a line feed. -/
def OneLine (text : String) : Prop := '\n' ∉ text.toList

instance (text : String) : Decidable (OneLine text) := inferInstanceAs (Decidable (_ ∉ _))

/-- For literals, which are lists of characters without being unfolded. -/
theorem oneLine_ofList {cs : List Char} (h : cs.all (· != '\n') = true) :
    OneLine (String.ofList cs) := by
  intro hmem
  rw [String.toList_ofList] at hmem
  exact absurd (List.all_eq_true.1 h _ hmem) (by decide)

theorem oneLine_append {a b : String} : OneLine (a ++ b) ↔ OneLine a ∧ OneLine b := by
  simp [OneLine]

theorem splitLines_feed {line : List Char} (h : '\n' ∉ line) :
    splitLines (line ++ ['\n']) = [line] := by
  induction line with
  | nil => simp [splitLines]
  | cons c line ih =>
    simp only [List.mem_cons, not_or] at h
    rw [List.cons_append, splitLines, if_neg (Ne.symm h.1), ih h.2]

theorem splitLines_eq_nil_iff {cs : List Char} : splitLines cs = [] ↔ cs = [] := by
  cases cs with
  | nil => simp [splitLines]
  | cons c cs =>
    rw [splitLines]
    split
    · simp
    · split <;> simp

/-- A text is cut apart behind each of its line feeds. -/
theorem splitLines_feed_append (front back : List Char) :
    splitLines (front ++ '\n' :: back) = splitLines (front ++ ['\n']) ++ splitLines back := by
  induction front with
  | nil => simp [splitLines]
  | cons c front ih =>
    rw [List.cons_append, List.cons_append, splitLines, splitLines]
    split
    · rw [ih, List.cons_append]
    · cases hfront : splitLines (front ++ ['\n']) with
      | nil => simp [splitLines_eq_nil_iff] at hfront
      | cons line further => rw [ih, hfront]; rfl

/-- Texts that are each ended by a line feed, whatever line feeds they have of their own. -/
theorem lines_join_flatMap (texts : List String) :
    lines (String.join (texts.map (· ++ "\n"))) = texts.flatMap fun text => lines (text ++ "\n") := by
  unfold lines
  induction texts with
  | nil => rfl
  | cons text texts ih =>
    have htext : (String.join ((text :: texts).map (· ++ "\n"))).toList =
        text.toList ++ '\n' :: (String.join (texts.map (· ++ "\n"))).toList := by
      simp [String.toList_join]
    have hline : (text ++ "\n").toList = text.toList ++ ['\n'] := by simp
    rw [htext, splitLines_feed_append, List.map_append, ih, List.flatMap_cons, hline]

/-- Lines that are each ended by a line feed are found again. -/
theorem lines_join {texts : List String} (h : ∀ text ∈ texts, OneLine text) :
    lines (String.join (texts.map (· ++ "\n"))) = texts := by
  have hline : ∀ text ∈ texts, lines (text ++ "\n") = [text] := by
    intro text htext
    have hchars : (text ++ "\n").toList = text.toList ++ ['\n'] := by simp
    rw [lines, hchars, splitLines_feed (h text htext), List.map_singleton, String.ofList_toList]
  rw [lines_join_flatMap, List.flatMap_congr hline, List.flatMap_singleton']

/-! ## Parts of a line -/

theorem takeWhile_append_of_mem {α : Type} {p : α → Bool} {xs : List α} {c : α} (hmem : c ∈ xs)
    (hc : p c = false) (ys : List α) : (xs ++ ys).takeWhile p = xs.takeWhile p := by
  induction xs with
  | nil => cases hmem
  | cons x xs ih =>
    rw [List.cons_append, List.takeWhile_cons, List.takeWhile_cons]
    split
    · next hx =>
      rw [List.mem_cons] at hmem
      rcases hmem with rfl | hmem
      · rw [hc] at hx; cases hx
      · rw [ih hmem]
    · rfl

/-- What stands in a text between a front and a back. -/
def between? (front back text : String) : Option String :=
  match afterPattern? front.toList text.toList with
  | none => none
  | some rest => (afterPattern? back.toList.reverse rest.reverse).map fun inner =>
    String.ofList inner.reverse

theorem between?_eq_some_iff {front back text inner : String} :
    between? front back text = some inner ↔ text = front ++ inner ++ back := by
  have htext : text = front ++ inner ++ back ↔
      ∃ rest, text.toList = front.toList ++ rest ∧ rest = inner.toList ++ back.toList := by
    rw [← String.toList_inj]
    simp only [String.toList_append, List.append_assoc, exists_eq_right]
  rw [htext, between?]
  constructor
  · intro h
    cases hfront : afterPattern? front.toList text.toList with
    | none => rw [hfront] at h; cases h
    | some rest =>
      rw [hfront] at h
      obtain ⟨found, hback, rfl⟩ := Option.map_eq_some_iff.1 h
      refine ⟨rest, afterPattern?_eq_some_iff.1 hfront, ?_⟩
      rw [← List.reverse_inj, afterPattern?_eq_some_iff.1 hback]
      simp
  · rintro ⟨rest, hfront, rfl⟩
    have hback : afterPattern? back.toList.reverse (inner.toList ++ back.toList).reverse =
        some inner.toList.reverse := by
      rw [afterPattern?_eq_some_iff, List.reverse_append]
    rw [afterPattern?_eq_some_iff.2 hfront]
    simp only [hback, Option.map_some, List.reverse_reverse, String.ofList_toList]

@[simp] theorem between?_append (front inner back : String) :
    between? front back (front ++ inner ++ back) = some inner :=
  between?_eq_some_iff.2 rfl

/-- Nothing is found in a text that goes another way than the front. -/
theorem between?_eq_none {front back text : String}
    (h : ∀ rest, text.toList ≠ front.toList ++ rest) : between? front back text = none := by
  cases hfound : between? front back text with
  | none => rfl
  | some inner =>
    have heq := congrArg String.toList (between?_eq_some_iff.1 hfound)
    simp only [String.toList_append, List.append_assoc] at heq
    exact absurd heq (h _)

/-- For literals, as `oneLine_ofList`. -/
theorem between?_ofList {xs ys : List Char} (h : xs.isPrefixOf ys = false) (back : String) :
    between? (String.ofList xs) back (String.ofList ys) = none := by
  refine between?_eq_none fun rest heq => ?_
  rw [String.toList_ofList, String.toList_ofList] at heq
  rw [Bool.eq_false_iff, ne_eq, List.isPrefixOf_iff_prefix] at h
  exact h ⟨rest, heq.symm⟩

/-- For literals, as `oneLine_ofList`: nothing is found if neither beginning continues the other. -/
theorem between?_ofList_append {xs ys : List Char} (h : xs.isPrefixOf ys = false)
    (h' : ys.isPrefixOf xs = false) (back text : String) :
    between? (String.ofList xs) back (String.ofList ys ++ text) = none := by
  refine between?_eq_none fun rest heq => ?_
  rw [String.toList_append, String.toList_ofList, String.toList_ofList] at heq
  rw [Bool.eq_false_iff, ne_eq, List.isPrefixOf_iff_prefix] at h h'
  have hleft : xs <+: ys ++ text.toList := ⟨rest, heq.symm⟩
  rcases List.prefix_or_prefix_of_prefix hleft (List.prefix_append ys text.toList) with hxs | hys
  · exact h hxs
  · exact h' hys

/-- Whether a text ends with another. -/
def endsWith (back text : String) : Bool := back.toList.isSuffixOf text.toList

@[simp] theorem endsWith_append_self (text back : String) : endsWith back (text ++ back) = true := by
  simp [endsWith]

/-- For literals, as `oneLine_ofList`. -/
theorem endsWith_ofList (xs ys : List Char) :
    endsWith (String.ofList xs) (String.ofList ys) = xs.isSuffixOf ys := by
  rw [endsWith, String.toList_ofList, String.toList_ofList]

/-- Of two ends of a text, one ends with the other. -/
theorem endsWith_append_eq_false {back last : String} (h : endsWith back last = false)
    (h' : endsWith last back = false) (text : String) : endsWith back (text ++ last) = false := by
  rw [Bool.eq_false_iff, ne_eq, endsWith, List.isSuffixOf_iff_suffix] at h h' ⊢
  rw [String.toList_append]
  intro hback
  rcases List.suffix_or_suffix_of_suffix hback (List.suffix_append _ _) with hlast | hlast
  · exact h hlast
  · exact h' hlast

/-- For literals, as `oneLine_ofList`. -/
theorem endsWith_ofList_append {xs ys : List Char} (h : xs.isSuffixOf ys = false)
    (h' : ys.isSuffixOf xs = false) (text : String) :
    endsWith (String.ofList xs) (text ++ String.ofList ys) = false :=
  endsWith_append_eq_false ((endsWith_ofList xs ys).trans h) ((endsWith_ofList ys xs).trans h') text

/-- A text does not end with what another text does not end with. -/
theorem append_ne_of_endsWith {back other : String} (h : endsWith back other = false)
    (front : String) : front ++ back ≠ other := by
  rintro rfl
  simp at h

/-- Texts whose last parts do not end with each other are different. -/
theorem append_ne_append {back last : String} (h : endsWith back last = false)
    (h' : endsWith last back = false) (front text : String) : front ++ back ≠ text ++ last :=
  append_ne_of_endsWith (endsWith_append_eq_false h h' text) front

/-- Nothing is found in a text that ends another way than the back. -/
theorem between?_of_endsWith {front back text : String} (h : endsWith back text = false) :
    between? front back text = none := by
  cases hfound : between? front back text with
  | none => rfl
  | some inner =>
    rw [between?_eq_some_iff.1 hfound, endsWith_append_self] at h
    cases h

/-- For literals: texts with different last parts do not end with each other. -/
theorem endsWith_append_ofList {xs ys : List Char} (hlength : xs.length = ys.length) (hne : xs ≠ ys)
    (front text : String) :
    endsWith (front ++ String.ofList xs) (text ++ String.ofList ys) = false := by
  rw [Bool.eq_false_iff, ne_eq, endsWith, List.isSuffixOf_iff_suffix]
  simp only [String.toList_append, String.toList_ofList]
  intro hsuffix
  have hxs : xs <:+ text.toList ++ ys := (List.suffix_append _ _).trans hsuffix
  have hys : xs <:+ ys := List.suffix_of_suffix_length_le hxs (List.suffix_append _ _)
    (Nat.le_of_eq hlength)
  exact hne (hys.eq_of_length hlength)

/-! ## Plain texts -/

/-- Characters that the stem of a function can have: neither capitals nor blanks. -/
def isPlain (c : Char) : Bool := !c.isUpper && c != ' '

def Plain (text : String) : Prop := ∀ c ∈ text.toList, isPlain c = true

theorem plain_append {a b : String} (ha : Plain a) (hb : Plain b) : Plain (a ++ b) := by
  intro c hc
  rw [String.toList_append, List.mem_append] at hc
  exact hc.elim (ha c) (hb c)

/-- For literals, as `oneLine_ofList`. -/
theorem plain_ofList {cs : List Char} (h : cs.all isPlain = true) : Plain (String.ofList cs) := by
  intro c hc
  rw [String.toList_ofList] at hc
  exact List.all_eq_true.1 h c hc

theorem append_ofList_ne_empty {cs : List Char} (h : cs ≠ []) (text : String) :
    text ++ String.ofList cs ≠ "" := by
  intro hempty
  have hlist := congrArg String.toList hempty
  rw [String.toList_append, String.toList_ofList, String.toList_empty] at hlist
  exact h (List.append_eq_nil_iff.1 hlist).2

end FirmwareGen.Text
