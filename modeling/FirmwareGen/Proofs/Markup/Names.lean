-- SUMMARY: Names without a colon, and namespaces that one declaration on the root binds.
import FirmwareGen.Markup.Event
import FirmwareGen.Text.Blank
import Mathlib.Data.List.TakeWhile
import Mathlib.Tactic.Common
/-!
# Names in written documents

A document puts its elements into a namespace by one declaration, of the default namespace or of a
prefix. Names are made of the characters that the standard allows in names without a colon; none of
them means anything else in a tag, which is all that the scanners need to know about names.
-/

namespace FirmwareGen.Markup

/-! ## Names without a colon -/

/-- Inclusive ranges of the code points that a name can start with. -/
def nameStartRanges : List (Nat × Nat) :=
  [(0x41, 0x5A), (0x5F, 0x5F), (0x61, 0x7A), (0xC0, 0xD6), (0xD8, 0xF6), (0xF8, 0x2FF),
   (0x370, 0x37D), (0x37F, 0x1FFF), (0x200C, 0x200D), (0x2070, 0x218F), (0x2C00, 0x2FEF),
   (0x3001, 0xD7FF), (0xF900, 0xFDCF), (0xFDF0, 0xFFFD), (0x10000, 0xEFFFF)]

/-- Inclusive ranges of the code points that a name can go on with. -/
def nameRanges : List (Nat × Nat) :=
  nameStartRanges ++ [(0x2D, 0x2E), (0x30, 0x39), (0xB7, 0xB7), (0x300, 0x36F), (0x203F, 0x2040)]

def isNameStart (c : Char) : Bool := Text.inRanges nameStartRanges c

def isNameChar (c : Char) : Bool := Text.inRanges nameRanges c

/-- Whether a text is a name without a colon. -/
def isNcName : List Char → Bool
  | [] => false
  | c :: rest => isNameStart c && rest.all isNameChar

theorem isNameChar_of_isNameStart {c : Char} (h : isNameStart c = true) : isNameChar c = true := by
  simp only [isNameStart, isNameChar, Text.inRanges, nameRanges, List.any_append,
    Bool.or_eq_true] at h ⊢
  exact .inl h

theorem isNameChar_of_mem {name : List Char} (h : isNcName name = true) :
    ∀ c ∈ name, isNameChar c = true := by
  cases name with
  | nil => cases h
  | cons c rest =>
    simp only [isNcName, Bool.and_eq_true, List.all_eq_true] at h
    intro x hx
    cases hx with
    | head => exact isNameChar_of_isNameStart h.1
    | tail _ hx => exact h.2 x hx

theorem ne_nil_of_isNcName {name : List Char} (h : isNcName name = true) : name ≠ [] := by
  rintro rfl
  cases h

/-! ## Clean texts -/

/-- Characters that mean something in a tag and can stand in neither a name nor a key. -/
def markupChars : List Char :=
  [' ', '\t', '\n', '\r', '=', '<', '>', '/', '"', '\'', '!', '?']

/-- A text that can stand as a name or a key in a tag. -/
def IsClean (xs : List Char) : Prop := xs ≠ [] ∧ ∀ c ∈ markupChars, c ∉ xs

theorem isNameChar_eq_false {c : Char} (h : c ∈ ':' :: markupChars) : isNameChar c = false := by
  have hall : (':' :: markupChars).all (fun c => !isNameChar c) = true := by decide
  simpa using List.all_eq_true.1 hall c h

theorem not_mem_of_isNcName {name : List Char} (h : isNcName name = true) {c : Char}
    (hc : c ∈ ':' :: markupChars) : c ∉ name := by
  intro hmem
  have := isNameChar_of_mem h c hmem
  rw [isNameChar_eq_false hc] at this
  cases this

theorem isClean_of_isNcName {name : List Char} (h : isNcName name = true) : IsClean name :=
  ⟨ne_nil_of_isNcName h, fun _ hc => not_mem_of_isNcName h (List.mem_cons_of_mem _ hc)⟩

theorem IsClean.append {xs ys : List Char} (hxs : IsClean xs) (hys : IsClean ys) :
    IsClean (xs ++ ys) := by
  refine ⟨List.append_ne_nil_of_left_ne_nil hxs.1 ys, fun c hc => ?_⟩
  rw [List.mem_append, not_or]
  exact ⟨hxs.2 c hc, hys.2 c hc⟩

/-- A clean text has no white space. -/
theorem IsClean.isBlank_eq_false {xs : List Char} (h : IsClean xs) :
    ∀ c ∈ xs, isBlank c = false := by
  intro c hc
  by_contra hb
  simp only [isBlank, Bool.not_eq_false, Bool.or_eq_true, beq_iff_eq] at hb
  rcases hb with ((rfl | rfl) | rfl) | rfl <;> exact h.2 _ (by decide) hc

/-! ## Scanning up to a character -/

theorem takeWhile_append_cons {p : Char → Bool} {xs rest : List Char} {c : Char}
    (hxs : ∀ x ∈ xs, p x = true) (hc : p c = false) : (xs ++ c :: rest).takeWhile p = xs := by
  rw [List.takeWhile_append_of_pos hxs, List.takeWhile_cons_of_neg (by simp [hc]), List.append_nil]

theorem dropWhile_append_cons {p : Char → Bool} {xs rest : List Char} {c : Char}
    (hxs : ∀ x ∈ xs, p x = true) (hc : p c = false) :
    (xs ++ c :: rest).dropWhile p = c :: rest := by
  rw [List.dropWhile_append_of_pos hxs, List.dropWhile_cons_of_neg (by simp [hc])]

/-! ## Namespaces bound on the root -/

/-- How a document puts its elements into one namespace. -/
inductive Binding
  | default
  | named (before : List Char)

namespace Binding

/-- The name of an element as it stands in its tag. -/
def qualify : Binding → List Char → List Char
  | .default, name => name
  | .named before, name => before ++ ':' :: name

/-- The key of the attribute that declares the namespace. -/
def key : Binding → List Char
  | .default => ['x', 'm', 'l', 'n', 's']
  | .named before => ['x', 'm', 'l', 'n', 's', ':'] ++ before

/-- The prefix as the reader splits it off. -/
def before? : Binding → Option (List Char)
  | .default => none
  | .named before => some before

/-- A prefix is a name without a colon that is not reserved. -/
def Allowed : Binding → Prop
  | .default => True
  | .named before =>
    isNcName before = true ∧ before ≠ "xml".toList ∧ before ≠ "xmlns".toList

instance (binding : Binding) : Decidable binding.Allowed := by
  cases binding <;> unfold Allowed <;> infer_instance

theorem isClean_qualify {binding : Binding} (hbinding : binding.Allowed) {name : List Char}
    (hname : isNcName name = true) : IsClean (binding.qualify name) := by
  cases binding with
  | default => exact isClean_of_isNcName hname
  | named before =>
    have hcolon : IsClean [':'] := ⟨by simp, by simp [markupChars]⟩
    have hbefore := isClean_of_isNcName hbinding.1
    exact hbefore.append (hcolon.append (isClean_of_isNcName hname))

theorem isClean_key {binding : Binding} (hbinding : binding.Allowed) : IsClean binding.key := by
  have hword : IsClean ['x', 'm', 'l', 'n', 's', ':'] := ⟨by simp, by simp [markupChars]⟩
  cases binding with
  | default => exact ⟨by simp [key], by simp [key, markupChars]⟩
  | named before => exact hword.append (isClean_of_isNcName hbinding.1)

/-- The reader splits a qualified name where it was put together. -/
theorem splitName_qualify {binding : Binding} (hbinding : binding.Allowed) {name : List Char}
    (hname : isNcName name = true) : splitName (binding.qualify name) = (binding.before?, name) := by
  have hplain : ∀ {xs : List Char}, isNcName xs = true → ∀ c ∈ xs, (c != ':') = true := by
    intro xs hxs c hc
    simp only [bne_iff_ne, ne_eq]
    rintro rfl
    exact not_mem_of_isNcName hxs (by decide) hc
  cases binding with
  | default =>
    have hdrop : name.dropWhile (· != ':') = [] := List.dropWhile_eq_nil_iff.2 (hplain hname)
    simp [splitName, qualify, before?, hdrop]
  | named before =>
    have hcolon : (':' != ':') = false := by decide
    simp [splitName, qualify, before?, dropWhile_append_cons (hplain hbinding.1) hcolon,
      takeWhile_append_cons (hplain hbinding.1) hcolon]

end Binding

/-! ## Declarations -/

/-- No name without a colon is a declaration, but for the word that is one. -/
theorem ofKey?_of_isNcName {key : List Char} (hkey : isNcName key = true)
    (hne : key ≠ Binding.default.key) : Declaration.ofKey? key = none := by
  unfold Declaration.ofKey?
  split
  · exact absurd rfl hne
  · exact absurd (by simp) (not_mem_of_isNcName (c := ':') hkey (by decide))
  · rfl

/-- The namespaces that a document can bind: none of the reserved ones, and not the empty text,
    which undoes a binding. -/
def Bindable (uri : List Char) : Prop := uri ≠ [] ∧ uri ≠ xmlUri ∧ uri ≠ xmlnsUri

instance (uri : List Char) : Decidable (Bindable uri) := by unfold Bindable; infer_instance

/-- What a scope has to know of a document: its namespace under its prefix. -/
def Scope.Binds (scope : Scope) (binding : Binding) (uri : List Char) : Prop :=
  scope.resolve binding.before? = .bound (String.ofList uri)

/-- The declaration of a document binds its namespace. -/
theorem Scope.binds_of_declaration {binding : Binding} (hbinding : binding.Allowed)
    {uri : List Char} (huri : Bindable uri) (scope : Scope) :
    ∃ declaration inner, Declaration.ofKey? binding.key = some declaration ∧
      scope.bind declaration uri = .ok inner ∧ inner.Binds binding uri := by
  obtain ⟨hne, hxml, hxmlns⟩ := huri
  cases binding with
  | default =>
    refine ⟨.default, ([], uri) :: scope, rfl, rfl, ?_⟩
    cases uri with
    | nil => exact absurd rfl hne
    | cons c uri => rfl
  | named before =>
    obtain ⟨hname, hne_xml, hne_xmlns⟩ := hbinding
    refine ⟨.named before, (before, uri) :: scope, rfl, ?_, ?_⟩
    · simp only [Scope.bind]
      rw [if_neg hne_xml, if_neg hne_xmlns, if_neg (by simp [hxml, hxmlns])]
    · cases before with
      | nil => cases hname
      | cons c before =>
        cases uri with
        | nil => exact absurd rfl hne
        | cons d uri => simp [Scope.Binds, Binding.before?, Scope.resolve]

end FirmwareGen.Markup
