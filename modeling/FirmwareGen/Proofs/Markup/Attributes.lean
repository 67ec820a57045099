-- SUMMARY: Written attributes are read back: entities, keys, values and the check for duplicates.
import FirmwareGen.Markup.Printer
import FirmwareGen.Proofs.Markup.Names
import Mathlib.Data.List.Forall2
/-!
# Reading written attributes

Escaping is undone by reading, and an escaped value has no quote that could end it. So the scan of
a written tag sees every attribute as it was written, and a check of different keys gives back the
values.
-/

namespace FirmwareGen.Markup

/-! ## Entities -/

namespace Entity

theorem unescapeFrom_cons {length start : Nat} {c : Char} (h : c ≠ '&') (rest : List Char) :
    unescapeFrom length start (c :: rest) =
      (unescapeFrom length (start + c.utf8Size) rest).map (c :: ·) := by
  rw [unescapeFrom]
  exact h

theorem unescapeFrom_entity {length start : Nat} {name rest after : List Char} {c : Char}
    (hspan : spanName rest = some (name, after)) (hname : resolve (start + 1) name = .ok c) :
    unescapeFrom length start ('&' :: rest) =
      (unescapeFrom length (start + 2 + byteLength name) after).map (c :: ·) := by
  rw [unescapeFrom]
  split
  · next h => rw [hspan] at h; cases h
  · next h =>
    rw [hspan] at h
    simp only [Option.some.injEq, Prod.mk.injEq] at h
    obtain ⟨rfl, rfl⟩ := h
    rw [hname]

theorem escape_cons (c : Char) (value : List Char) :
    escape (c :: value) = escapeChar c ++ escape value := by
  simp [escape]

/-- A character is written as itself or as the entity that stands for it. -/
theorem escapeChar_cases (c : Char) :
    (c ≠ '&' ∧ escapeChar c = [c]) ∨
    ∃ name, escapeChar c = '&' :: (name ++ [';']) ∧ ';' ∉ name ∧ '&' ∉ name ∧ '#' ∉ name ∧
      predefined? name = some c := by
  by_cases hlt : c = '<'
  · subst hlt; exact .inr ⟨['l', 't'], by decide⟩
  by_cases hgt : c = '>'
  · subst hgt; exact .inr ⟨['g', 't'], by decide⟩
  by_cases hamp : c = '&'
  · subst hamp; exact .inr ⟨['a', 'm', 'p'], by decide⟩
  by_cases hapos : c = '\''
  · subst hapos; exact .inr ⟨['a', 'p', 'o', 's'], by decide⟩
  by_cases hquot : c = '"'
  · subst hquot; exact .inr ⟨['q', 'u', 'o', 't'], by decide⟩
  exact .inl ⟨hamp, by simp [escapeChar, hlt, hgt, hamp, hapos, hquot]⟩

theorem spanName_append {name : List Char} (hsemi : ';' ∉ name) (hamp : '&' ∉ name)
    (rest : List Char) : spanName (name ++ ';' :: rest) = some (name, rest) := by
  induction name with
  | nil => rfl
  | cons c name ih =>
    simp only [List.mem_cons, not_or] at hsemi hamp
    rw [List.cons_append, spanName, ih hsemi.2 hamp.2]
    · rfl
    · exact fun h => hsemi.1 h.symm
    · exact fun h => hamp.1 h.symm

theorem resolve_predefined {start : Nat} {name : List Char} {c : Char} (hsharp : '#' ∉ name)
    (h : predefined? name = some c) : resolve start name = .ok c := by
  unfold resolve
  split
  · exact absurd List.mem_cons_self hsharp
  · rw [h]

theorem unescapeFrom_escape (length start : Nat) (value : List Char) :
    unescapeFrom length start (escape value) = .ok value := by
  induction value generalizing start with
  | nil => rw [escape, List.flatMap_nil, unescapeFrom]
  | cons c value ih =>
    rw [escape_cons]
    obtain ⟨hc, heq⟩ | ⟨name, heq, hsemi, hamp, hsharp, hname⟩ := escapeChar_cases c
    · rw [heq, List.singleton_append, unescapeFrom_cons hc, ih]
      rfl
    · rw [heq, List.cons_append, List.append_assoc, List.singleton_append,
        unescapeFrom_entity (spanName_append hsemi hamp _) (resolve_predefined hsharp hname), ih]
      rfl

/-- Escaping is undone exactly. -/
theorem unescape_escape (value : List Char) : unescape (escape value) = .ok value :=
  unescapeFrom_escape _ _ value

/-- An escaped value can stand between double quotes. -/
theorem quote_not_mem_escape (value : List Char) : '"' ∉ escape value := by
  intro hmem
  obtain ⟨c, -, hc⟩ := List.mem_flatMap.1 hmem
  unfold escapeChar at hc
  split_ifs at hc with hlt hgt hamp hapos hquot
  any_goals simp at hc
  exact hquot hc.symm

end Entity

/-! ## One attribute -/

namespace RawAttribute

open WrittenElement

theorem inKey_of_isClean {key : List Char} (h : IsClean key) : ∀ c ∈ key, inKey c = true := by
  intro c hc
  have hne : c ≠ '=' := by
    rintro rfl
    exact h.2 '=' (by decide) hc
  simp [inKey, h.isBlank_eq_false c hc, hne]

theorem skipBlank_of_head {c : Char} {rest : List Char} {position : Nat} (h : isBlank c = false) :
    skipBlank { rest := c :: rest, position } = { rest := c :: rest, position } := by
  simp [skipBlank, h]

/-- The key of a written attribute, and the place of its opening quote. -/
theorem readKey_printAttribute (length position : Nat) {key : List Char} (hkey : IsClean key)
    (rest : List Char) :
    readKey length { rest := ' ' :: (key ++ '=' :: '"' :: rest), position } =
      some (.ok (key, position + 1,
        { rest := '"' :: rest, position := position + 1 + byteLength key + 1 })) := by
  cases key with
  | nil => exact absurd rfl hkey.1
  | cons c key =>
    have hc : isBlank c = false := hkey.isBlank_eq_false c List.mem_cons_self
    have htail : ∀ x ∈ key, inKey x = true :=
      fun x hx => inKey_of_isClean hkey x (List.mem_cons_of_mem _ hx)
    have hstart : skipBlank { rest := ' ' :: (c :: key ++ '=' :: '"' :: rest), position } =
        { rest := c :: (key ++ '=' :: '"' :: rest), position := position + 1 } := by
      simp [skipBlank, hc, show isBlank ' ' = true from rfl]
    unfold readKey
    simp only [hstart, takeWhile_append_cons htail (show inKey '=' = false from rfl),
      dropWhile_append_cons htail (show inKey '=' = false from rfl),
      skipBlank_of_head (show isBlank '=' = false from rfl),
      skipBlank_of_head (show isBlank '"' = false from rfl)]

theorem readValue_quoted (length position : Nat) {value : List Char} (h : '"' ∉ value)
    (rest : List Char) :
    readValue length { rest := '"' :: (value ++ '"' :: rest), position } =
      .ok (value, { rest, position := position + byteLength value + 2 }) := by
  have hvalue : ∀ c ∈ value, (c != '"') = true := by
    intro c hc
    simp only [bne_iff_ne, ne_eq]
    rintro rfl
    exact h hc
  have hquote : ('"' != '"') = false := by decide
  simp [readValue, takeWhile_append_cons hvalue hquote, dropWhile_append_cons hvalue hquote]

theorem scanFrom_cons {length position : Nat} {place value after : Place} {key text : List Char}
    (hkey : readKey length place = some (.ok (key, position, value)))
    (hvalue : readValue length value = .ok (text, after)) :
    scanFrom length place =
      ({ key, position, value := .ok text } :: (scanFrom length after).1,
        (scanFrom length after).2) := by
  rw [scanFrom]
  split
  · next h => rw [hkey] at h; cases h
  · next h => rw [hkey] at h; cases h
  · next h =>
    rw [hkey] at h
    simp only [Option.some.injEq, Except.ok.injEq, Prod.mk.injEq] at h
    obtain ⟨rfl, rfl, rfl⟩ := h
    split
    · next h => rw [hvalue] at h; cases h
    · next h =>
      rw [hvalue] at h
      simp only [Except.ok.injEq, Prod.mk.injEq] at h
      obtain ⟨rfl, rfl⟩ := h
      rfl

/-! ## All attributes of a tag -/

/-- What a scan sees of a written attribute. -/
def Shows (raw : RawAttribute) (entry : List Char × List Char) : Prop :=
  raw.key = entry.1 ∧ raw.value = .ok (Entity.escape entry.2)

/-- The scan sees written attributes one by one and without a fault. -/
theorem scanFrom_printAttribute (length : Nat) {attributes : List (List Char × List Char)}
    (hkeys : ∀ entry ∈ attributes, IsClean entry.1) (position : Nat) :
    ∃ raws, scanFrom length { rest := attributes.flatMap printAttribute, position } =
      (raws, none) ∧ List.Forall₂ Shows raws attributes := by
  induction attributes generalizing position with
  | nil =>
    refine ⟨[], ?_, .nil⟩
    rw [scanFrom]
    rfl
  | cons entry attributes ih =>
    obtain ⟨key, value⟩ := entry
    have hkey := readKey_printAttribute length position (hkeys _ List.mem_cons_self)
      (Entity.escape value ++ '"' :: attributes.flatMap printAttribute)
    have hvalue := readValue_quoted length (position + 1 + byteLength key + 1)
      (Entity.quote_not_mem_escape value) (attributes.flatMap printAttribute)
    obtain ⟨raws, hraws, hshows⟩ := ih (fun e he => hkeys e (List.mem_cons_of_mem _ he))
      (position + 1 + byteLength key + 1 + byteLength (Entity.escape value) + 2)
    have hprint : ((key, value) :: attributes).flatMap printAttribute =
        ' ' :: (key ++ '=' :: '"' :: (Entity.escape value ++ '"' ::
          attributes.flatMap printAttribute)) := by
      simp [printAttribute]
    refine ⟨{ key, position := position + 1, value := .ok (Entity.escape value) } :: raws, ?_,
      .cons ⟨rfl, rfl⟩ hshows⟩
    rw [hprint, scanFrom_cons hkey hvalue, hraws]

end RawAttribute

open WrittenElement RawAttribute

variable {name : List Char} {attributes : List (List Char × List Char)}

theorem tagName_tagContent (hname : IsClean name) :
    tagName (tagContent name attributes) = name := by
  have hchars : ∀ c ∈ name, (!isBlank c) = true := by
    intro c hc
    simp [hname.isBlank_eq_false c hc]
  unfold tagName tagContent
  cases attributes with
  | nil => simpa using hchars
  | cons entry attributes => exact takeWhile_append_cons hchars rfl

theorem dropWhile_tagContent (hname : IsClean name) :
    (tagContent name attributes).dropWhile (fun c => !isBlank c) =
      attributes.flatMap printAttribute := by
  have hchars : ∀ c ∈ name, (!isBlank c) = true := by
    intro c hc
    simp [hname.isBlank_eq_false c hc]
  unfold tagContent
  cases attributes with
  | nil => simpa using hchars
  | cons entry attributes => exact dropWhile_append_cons hchars rfl

theorem rawAttributes_tagContent (hname : IsClean name)
    (hkeys : ∀ entry ∈ attributes, IsClean entry.1) :
    ∃ raws, rawAttributes (tagContent name attributes) = (raws, none) ∧
      List.Forall₂ Shows raws attributes := by
  unfold rawAttributes
  rw [dropWhile_tagContent hname]
  exact scanFrom_printAttribute _ hkeys _

/-- The check passes attributes of different keys and undoes the escapes. -/
theorem checkAttributes_of_shows {raws : List RawAttribute}
    (hshows : List.Forall₂ Shows raws attributes) (hkeys : (attributes.map Prod.fst).Nodup)
    {earlier : List RawAttribute} (hearlier : ∀ raw ∈ earlier, raw.key ∉ attributes.map Prod.fst) :
    checkAttributes earlier raws =
      .ok (attributes.map fun entry => (String.ofList entry.1, String.ofList entry.2)) := by
  induction hshows generalizing earlier with
  | nil => rfl
  | @cons raw entry raws attributes hraw hshows ih =>
    obtain ⟨hkey, hvalue⟩ := hraw
    rw [List.map_cons, List.nodup_cons] at hkeys
    have hfind : earlier.find? (·.key == raw.key) = none := by
      rw [List.find?_eq_none]
      intro x hx
      simp only [beq_iff_eq]
      intro heq
      exact hearlier x hx (by rw [heq, hkey]; exact List.mem_cons_self)
    have hnext : ∀ x ∈ earlier ++ [raw], x.key ∉ attributes.map Prod.fst := by
      intro x hx
      rw [List.mem_append, List.mem_singleton] at hx
      rcases hx with hx | rfl
      · exact fun h => hearlier x hx (List.mem_cons_of_mem _ h)
      · rw [hkey]; exact hkeys.1
    rw [checkAttributes, hfind]
    simp only [hvalue, Entity.unescape_escape, ih hkeys.2 hnext, hkey]
    rfl

/-- Written attributes of different keys are read back. -/
theorem readAttributes_tagContent (hname : IsClean name)
    (hkeys : ∀ entry ∈ attributes, IsClean entry.1) (hnodup : (attributes.map Prod.fst).Nodup) :
    readAttributes (tagContent name attributes) =
      .ok (attributes.map fun entry => (String.ofList entry.1, String.ofList entry.2)) := by
  obtain ⟨raws, hraws, hshows⟩ := rawAttributes_tagContent hname hkeys
  have hcheck : checkAttributes [] raws = _ := checkAttributes_of_shows hshows hnodup (by simp)
  unfold readAttributes
  simp only [hraws, hcheck]

end FirmwareGen.Markup
