-- SUMMARY: The tokens of a written element, and that a scan of its text finds exactly them.
import FirmwareGen.Proofs.Markup.Attributes
/-!
# Scanning written elements

The scan for the end of a tag passes over the tag of a written element: its name and keys have
neither brackets nor quotes, and its values stand between quotes that they do not contain. Hence a
written element is cut into one token a tag.
-/

namespace FirmwareGen.Markup

/-! ## The end of a tag -/

namespace Token

/-- A scan for the end of a tag passes over these characters. -/
def Passed (xs : List Char) : Prop :=
  ∀ rest, upToUnquoted none (xs ++ rest) =
    (upToUnquoted none rest).map fun found => (xs ++ found.1, found.2)

theorem Passed.nil : Passed [] := fun rest => by simp

theorem Passed.append {xs ys : List Char} (hxs : Passed xs) (hys : Passed ys) :
    Passed (xs ++ ys) := by
  intro rest
  rw [List.append_assoc, hxs, hys, Option.map_map]
  congr 1
  funext found
  simp

theorem Passed.flatMap {α : Type} {entries : List α} {f : α → List Char}
    (h : ∀ entry ∈ entries, Passed (f entry)) : Passed (entries.flatMap f) := by
  induction entries with
  | nil => exact .nil
  | cons entry entries ih =>
    rw [List.flatMap_cons]
    exact (h entry List.mem_cons_self).append (ih fun e he => h e (List.mem_cons_of_mem _ he))

theorem Passed.of_plain {xs : List Char} (hbracket : '>' ∉ xs) (hdouble : '"' ∉ xs)
    (hsingle : '\'' ∉ xs) : Passed xs := by
  intro rest
  induction xs with
  | nil => simp
  | cons c xs ih =>
    simp only [List.mem_cons, not_or] at hbracket hdouble hsingle
    have hquote : quoteAfter none c = none := by
      simp [quoteAfter, Ne.symm hdouble.1, Ne.symm hsingle.1]
    rw [List.cons_append, upToUnquoted, if_neg (by simp [Ne.symm hbracket.1]), hquote,
      ih hbracket.2 hdouble.2 hsingle.2, Option.map_map]
    rfl

theorem upToUnquoted_quoted {value : List Char} (h : '"' ∉ value) (rest : List Char) :
    upToUnquoted (some '"') (value ++ '"' :: rest) =
      (upToUnquoted none rest).map fun found => (value ++ '"' :: found.1, found.2) := by
  induction value with
  | nil => rfl
  | cons c value ih =>
    simp only [List.mem_cons, not_or] at h
    have hquote : quoteAfter (some '"') c = some '"' := by simp [quoteAfter, Ne.symm h.1]
    rw [List.cons_append, upToUnquoted, if_neg (by simp), hquote, ih h.2, Option.map_map]
    rfl

theorem Passed.quoted {value : List Char} (h : '"' ∉ value) : Passed ('"' :: value ++ ['"']) := by
  intro rest
  rw [List.append_assoc, List.cons_append, upToUnquoted, if_neg (by decide),
    show quoteAfter none '"' = some '"' from rfl, List.singleton_append, upToUnquoted_quoted h,
    Option.map_map]
  congr 1
  funext found
  simp

/-- The content of a tag that a scan passes over ends at its bracket. -/
theorem Passed.upToUnquoted_bracket {xs : List Char} (h : Passed xs) (rest : List Char) :
    upToUnquoted none (xs ++ '>' :: rest) = some (xs, rest) := by
  rw [h, upToUnquoted, if_pos (by simp)]
  simp

theorem readFirst_passed {content : List Char} (h : Passed content)
    (hbang : content.head? ≠ some '!') (hquestion : content.head? ≠ some '?') (rest : List Char) :
    readFirst '<' (content ++ '>' :: rest) = .ok (ofContent content, rest) := by
  unfold readFirst
  rw [if_pos rfl]
  unfold readTag
  split
  · next heq =>
    cases content with
    | nil => cases heq
    | cons c content => cases heq; exact absurd rfl hbang
  · next heq =>
    cases content with
    | nil => cases heq
    | cons c content => cases heq; exact absurd rfl hquestion
  · rw [h.upToUnquoted_bracket]

theorem scan_cons {c : Char} {text rest : List Char} {token : Token}
    (h : readFirst c text = .ok (token, rest)) :
    scan (c :: text) = (token :: (scan rest).1, (scan rest).2) := by
  rw [scan]
  split
  · next heq => rw [h] at heq; cases heq
  · next heq =>
    rw [h] at heq
    simp only [Except.ok.injEq, Prod.mk.injEq] at heq
    obtain ⟨rfl, rfl⟩ := heq
    rfl

theorem trimEnd_eq_self {name : List Char} (h : ∀ c ∈ name, isBlank c = false) :
    trimEnd name = name := by
  have hblank : ∀ c ∈ name.reverse, isBlank c = false := fun c hc => h c (List.mem_reverse.1 hc)
  unfold trimEnd
  cases hreverse : name.reverse with
  | nil => rfl
  | cons c rest =>
    rw [hreverse] at hblank
    rw [List.dropWhile_cons_of_neg (by simp [hblank c List.mem_cons_self])]
    simp only [← hreverse, List.reverse_reverse]

end Token

/-! ## Tags of written elements -/

namespace WrittenElement

open Token

/-- A name and attributes whose tag can be cut into them again. -/
structure CleanTag (name : List Char) (attributes : List (List Char × List Char)) : Prop where
  name_clean : IsClean name
  keys_clean : ∀ entry ∈ attributes, IsClean entry.1

variable {name : List Char} {attributes : List (List Char × List Char)}

theorem passed_of_isClean {xs : List Char} (h : IsClean xs) : Passed xs :=
  .of_plain (h.2 '>' (by decide)) (h.2 '"' (by decide)) (h.2 '\'' (by decide))

theorem CleanTag.passed (h : CleanTag name attributes) : Passed (tagContent name attributes) := by
  refine (passed_of_isClean h.name_clean).append (.flatMap ?_)
  rintro ⟨key, value⟩ hentry
  have hblank : Passed [' '] := .of_plain (by decide) (by decide) (by decide)
  have hequals : Passed ['='] := .of_plain (by decide) (by decide) (by decide)
  have hkey : Passed key := passed_of_isClean (h.keys_clean _ hentry)
  have hvalue := Passed.quoted (Entity.quote_not_mem_escape value)
  simpa [printAttribute] using ((hblank.append hkey).append hequals).append hvalue

theorem CleanTag.head?_ne (h : CleanTag name attributes) {c : Char} (hc : c ∈ markupChars) :
    (tagContent name attributes).head? ≠ some c := by
  obtain ⟨⟨hne, hname⟩, -⟩ := h
  cases name with
  | nil => exact absurd rfl hne
  | cons d name =>
    simp only [tagContent, List.cons_append, List.head?_cons, ne_eq, Option.some.injEq]
    rintro rfl
    exact hname d hc List.mem_cons_self

theorem CleanTag.getLast?_ne (h : CleanTag name attributes) :
    (tagContent name attributes).getLast? ≠ some '/' := by
  obtain ⟨⟨hne, hname⟩, -⟩ := h
  intro hlast
  rcases List.eq_nil_or_concat attributes with rfl | ⟨front, entry, rfl⟩
  · simp only [tagContent, List.flatMap_nil, List.append_nil] at hlast
    exact hname '/' (by decide) (List.mem_of_getLast? hlast)
  · have hquote : tagContent name (front.concat entry) =
        (tagContent name front ++ (' ' :: entry.1 ++ ['=', '"'] ++ Entity.escape entry.2)) ++
          ['"'] := by
      simp [tagContent, printAttribute]
    rw [hquote, List.getLast?_concat] at hlast
    exact absurd hlast (by decide)

theorem ofContent_start (h : CleanTag name attributes) :
    ofContent (tagContent name attributes) = .start (tagContent name attributes) := by
  unfold ofContent
  split
  · next heq => exact absurd (by rw [heq]; rfl) (h.head?_ne (c := '/') (by decide))
  · rw [if_neg h.getLast?_ne]

theorem ofContent_empty (h : CleanTag name attributes) :
    ofContent (tagContent name attributes ++ ['/']) = .empty (tagContent name attributes) := by
  have hhead := h.head?_ne (c := '/') (by decide)
  unfold ofContent
  split
  · next heq =>
    cases hcontent : tagContent name attributes with
    | nil =>
      rw [tagContent, List.append_eq_nil_iff] at hcontent
      exact absurd hcontent.1 h.name_clean.1
    | cons c content =>
      rw [hcontent, List.cons_append] at heq
      cases heq
      exact absurd (by rw [hcontent]; rfl) hhead
  · rw [if_pos (by simp), List.dropLast_concat]

theorem ofContent_close (hname : IsClean name) : ofContent ('/' :: name) = .close name := by
  rw [ofContent, trimEnd_eq_self hname.isBlank_eq_false]

theorem readFirst_start (h : CleanTag name attributes) (rest : List Char) :
    readFirst '<' (tagContent name attributes ++ '>' :: rest) =
      .ok (.start (tagContent name attributes), rest) := by
  rw [readFirst_passed h.passed (h.head?_ne (by decide)) (h.head?_ne (by decide)),
    ofContent_start h]

theorem readFirst_empty (h : CleanTag name attributes) (rest : List Char) :
    readFirst '<' (tagContent name attributes ++ ['/'] ++ '>' :: rest) =
      .ok (.empty (tagContent name attributes), rest) := by
  have hslash : Passed ['/'] := .of_plain (by decide) (by decide) (by decide)
  have hhead : ∀ c ∈ markupChars, (tagContent name attributes ++ ['/']).head? ≠ some c := by
    intro c hc
    have hne : tagContent name attributes ≠ [] := List.append_ne_nil_of_left_ne_nil h.name_clean.1 _
    rw [List.head?_append_of_ne_nil _ hne]
    exact h.head?_ne hc
  rw [readFirst_passed (h.passed.append hslash) (hhead _ (by decide)) (hhead _ (by decide)),
    ofContent_empty h]

theorem readFirst_close (hname : IsClean name) (rest : List Char) :
    readFirst '<' ('/' :: name ++ '>' :: rest) = .ok (.close name, rest) := by
  have hslash : Passed ['/'] := .of_plain (by decide) (by decide) (by decide)
  have hread := readFirst_passed (hslash.append (passed_of_isClean hname)) (by simp) (by simp) rest
  rwa [List.singleton_append, ofContent_close hname] at hread

/-! ## Tokens of written elements -/

mutual

/-- The tokens of a written element, one a tag. -/
def tokens : WrittenElement → List Token
  | ⟨name, attributes, []⟩ => [.empty (tagContent name attributes)]
  | ⟨name, attributes, child :: children⟩ =>
    .start (tagContent name attributes) :: (tokens child ++ tokensAll children) ++ [.close name]

def tokensAll : List WrittenElement → List Token
  | [] => []
  | element :: rest => tokens element ++ tokensAll rest

end

mutual

/-- All tags of a written element are clean. -/
def Clean : WrittenElement → Prop
  | ⟨name, attributes, children⟩ => CleanTag name attributes ∧ CleanAll children

def CleanAll : List WrittenElement → Prop
  | [] => True
  | element :: rest => Clean element ∧ CleanAll rest

end

mutual

/-- A scan cuts a written element into its tokens and goes on behind it. -/
theorem scan_print : (element : WrittenElement) → element.Clean → (rest : List Char) →
    scan (element.print ++ rest) = (element.tokens ++ (scan rest).1, (scan rest).2)
  | ⟨name, attributes, []⟩, h, rest => by
    rw [Clean] at h
    have hprint : print ⟨name, attributes, []⟩ ++ rest =
        '<' :: (tagContent name attributes ++ ['/'] ++ '>' :: rest) := by
      simp [print]
    rw [hprint, scan_cons (readFirst_empty h.1 rest), tokens]
    rfl
  | ⟨name, attributes, child :: children⟩, h, rest => by
    rw [Clean, CleanAll] at h
    obtain ⟨htag, hchild, hchildren⟩ := h
    have hprint : print ⟨name, attributes, child :: children⟩ ++ rest =
        '<' :: (tagContent name attributes ++ '>' :: (print child ++ (printAll children ++
          '<' :: ('/' :: name ++ '>' :: rest)))) := by
      simp [print]
    rw [hprint, scan_cons (readFirst_start htag _), scan_print child hchild,
      scan_printAll children hchildren,
      scan_cons (readFirst_close htag.name_clean rest), tokens]
    simp

theorem scan_printAll : (elements : List WrittenElement) → CleanAll elements →
    (rest : List Char) →
    scan (printAll elements ++ rest) = (tokensAll elements ++ (scan rest).1, (scan rest).2)
  | [], _, rest => by simp [printAll, tokensAll]
  | element :: elements, h, rest => by
    rw [CleanAll] at h
    rw [printAll, List.append_assoc, scan_print element h.1, scan_printAll elements h.2, tokensAll,
      List.append_assoc]

end

end WrittenElement

end FirmwareGen.Markup
