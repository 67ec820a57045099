-- SUMMARY: A tag of an element without content may be replaced by a start tag and its end tag.
import FirmwareGen.Proofs.Markup.Acceptance
import FirmwareGen.Proofs.Markup.Scans
/-!
# Expanding tags of elements without content

The event of an element without content is interchangeable with the start of the element and its end.
A builder checks the two forms in different orders, and so may refuse them for different reasons,
but it refuses both or is the same after both. By induction this holds for a whole sequence of events
in which any number of such events is expanded.
-/

namespace FirmwareGen.Markup

/-! ## Expansions -/

/-- A list in which some of the entries that can be replaced are. -/
inductive Expands {α : Type} (replaces : α → List α → Prop) : List α → List α → Prop
  | nil : Expands replaces [] []
  | keep (x : α) {xs expanded : List α} (rest : Expands replaces xs expanded) :
    Expands replaces (x :: xs) (x :: expanded)
  | replace {x : α} {piece xs expanded : List α} (replaced : replaces x piece)
    (rest : Expands replaces xs expanded) : Expands replaces (x :: xs) (piece ++ expanded)

namespace Expands

variable {α : Type} {replaces : α → List α → Prop}

theorem refl : (xs : List α) → Expands replaces xs xs
  | [] => .nil
  | x :: xs => .keep x (refl xs)

theorem append {xs ys expanded expanded' : List α} (hxs : Expands replaces xs expanded)
    (hys : Expands replaces ys expanded') : Expands replaces (xs ++ ys) (expanded ++ expanded') := by
  induction hxs with
  | nil => exact hys
  | keep x _ ih => exact .keep x ih
  | replace replaced _ ih =>
    rw [List.append_assoc]
    exact .replace replaced ih

end Expands

/-- The tag of an element without content is the start tag and the end tag of that element. -/
inductive Token.Opens : Token → List Token → Prop
  | empty (content : List Char) : Opens (.empty content) [.start content, .close (tagName content)]

/-- An element without content is the start and the end of that element. -/
inductive Event.Opens : Event → List Event → Prop
  | empty (tag : Tag) : Opens (.empty tag) [.start tag, .close]

/-! ## Building from an expansion -/

namespace Builder

variable {builder after : Builder}

theorem run_cons_eq_ok_iff {event : Event} {events : List Event} :
    builder.run (event :: events) = .ok after ↔
      ∃ between, builder.step event = .ok between ∧ between.run events = .ok after := by
  rw [run]
  cases builder.step event <;> simp

theorem run_append_eq_ok_iff {xs ys : List Event} :
    builder.run (xs ++ ys) = .ok after ↔
      ∃ between, builder.run xs = .ok between ∧ between.run ys = .ok after := by
  rw [run_append]
  cases builder.run xs <;> simp

theorem run_singleton (builder : Builder) (event : Event) :
    builder.run [event] = builder.step event := by
  rw [run]
  cases builder.step event <;> rfl

/-- Whatever is open, the start and the end of an element do to a builder what the element without
    content does. -/
theorem run_start_close_eq_ok_iff {tag : Tag} :
    builder.run [.start tag, .close] = .ok after ↔ builder.step (.empty tag) = .ok after := by
  rw [run_cons_eq_ok_iff]
  simp only [run_singleton]
  by_cases hroot : builder.pending.isEmpty = true ∧ builder.root.isSome = true
  · -- A second root is refused at its start; as one event it is refused at the latest when attached.
    obtain ⟨root, hsome⟩ := Option.isSome_iff_exists.1 hroot.2
    have hpending : builder.pending = [] := List.isEmpty_iff.1 hroot.1
    rw [step, if_pos (by simpa using hroot), step]
    simp only [attach, hpending, hsome]
    repeat' split
    all_goals simp
  · rw [step, if_neg (by simpa using hroot), step]
    by_cases hlimit : builder.pending.length = levelLimit
    · simp [hlimit]
    · cases OpenElement.ofTag tag <;> simp [hlimit, step]

/-- A builder takes an expansion just if it takes what is expanded, and is the same after it. -/
theorem run_expands {events expanded : List Event} (h : Expands Event.Opens events expanded) :
    builder.run expanded = .ok after ↔ builder.run events = .ok after := by
  induction h generalizing builder with
  | nil => rfl
  | keep event _ ih => simp only [run_cons_eq_ok_iff, ih]
  | replace hopens _ ih =>
    cases hopens with
    | empty tag =>
      rw [run_append_eq_ok_iff, run_cons_eq_ok_iff]
      simp only [run_start_close_eq_ok_iff, ih]

end Builder

/-- An expansion leaves the ends with the elements that they close. -/
theorem matched_expands {events expanded : List Event} (h : Expands Event.Opens events expanded)
    (depth : Nat) : Matched depth expanded ↔ Matched depth events := by
  induction h generalizing depth with
  | nil => rfl
  | keep event _ ih => rw [matched_cons, matched_cons, ih]
  | replace hopens _ ih =>
    cases hopens with
    | empty tag =>
      simp only [List.cons_append, List.nil_append, matched_cons, ih, Event.depthAfter]
      simp

/-! ## Trees of documents -/

/-- The root element of a document whose reader yields these events and then fails, or does not. -/
def treeOf (events : List Event) (failure : Option ReadError) : Except DocumentError Element :=
  match Builder.initial.run events, failure with
  | .error e, _ => .error e
  | .ok _, some e => .error (.read e)
  | .ok builder, none => builder.finish

theorem readDocument_eq (document : List Char) :
    readDocument document = treeOf (readEvents document).1 (readEvents document).2 := rfl

theorem treeOf_none (events : List Event) : treeOf events none = buildTree events := by
  unfold treeOf buildTree
  cases Builder.initial.run events <;> rfl

theorem treeOf_eq_ok_iff {events : List Event} {failure : Option ReadError} {root : Element} :
    treeOf events failure = .ok root ↔ failure = none ∧
      ∃ builder, Builder.initial.run events = .ok builder ∧ builder.finish = .ok root := by
  unfold treeOf
  cases Builder.initial.run events <;> cases failure <;> simp

/-- An expansion has the same tree, or has none either. -/
theorem treeOf_expands {events expanded : List Event} (h : Expands Event.Opens events expanded)
    {failure failure' : Option ReadError} (hfailure : failure = none ↔ failure' = none)
    (root : Element) : treeOf events failure = .ok root ↔ treeOf expanded failure' = .ok root := by
  simp only [treeOf_eq_ok_iff, hfailure, Builder.run_expands h]

/-! ## Events of an expansion -/

/-- The events of an expansion are an expansion of the events, and end in the same error. -/
theorem expands_ofTokens {tokens expanded : List Token} (h : Expands Token.Opens tokens expanded)
    (frames : List Event.Frame) :
    Expands Event.Opens (Event.ofTokens frames tokens).1 (Event.ofTokens frames expanded).1 ∧
      (Event.ofTokens frames expanded).2 = (Event.ofTokens frames tokens).2 := by
  induction h generalizing frames with
  | nil => exact ⟨.nil, rfl⟩
  | keep token _ ih =>
    rw [Event.ofTokens, Event.ofTokens]
    cases Event.ofToken frames token with
    | error e => exact ⟨.nil, rfl⟩
    | ok taken => exact ⟨.keep taken.1 (ih taken.2).1, (ih taken.2).2⟩
  | replace hopens _ ih =>
    cases hopens with
    | empty content =>
      rw [List.cons_append, Event.ofTokens, Event.ofTokens, Event.ofToken, Event.ofToken]
      cases (Event.currentScope frames).extend (rawAttributes content).1 with
      | error e => exact ⟨.nil, rfl⟩
      | ok scope =>
        obtain ⟨hevents, hfailure⟩ := ih frames
        simp only [List.cons_append, List.nil_append, Event.ofTokens, Event.ofToken, if_true]
        exact ⟨.replace (.empty (Event.readElement scope content)) hevents, hfailure⟩

/-! ## Texts of an expansion -/

/-- A document without the byte order mark in front of it. -/
def unmarked : List Char → List Char
  | '\uFEFF' :: rest => rest
  | text => text

theorem readEvents_eq (document : List Char) :
    readEvents document =
      ((Event.ofTokens [] (Token.scan (unmarked document)).1).1,
        (Event.ofTokens [] (Token.scan (unmarked document)).1).2 <|>
          (Token.scan (unmarked document)).2.map .lexical) := rfl

/-- Documents whose tokens are expanded have expanded events. -/
theorem expands_readEvents {document document' : List Char}
    (htokens : Expands Token.Opens (Token.scan (unmarked document)).1
      (Token.scan (unmarked document')).1)
    (hlexical : (Token.scan (unmarked document')).2 = (Token.scan (unmarked document)).2) :
    Expands Event.Opens (readEvents document).1 (readEvents document').1 ∧
      (readEvents document').2 = (readEvents document).2 := by
  obtain ⟨hevents, hfailure⟩ := expands_ofTokens htokens []
  refine ⟨hevents, ?_⟩
  simp only [readEvents_eq, hfailure, hlexical]

/-- A byte order mark stays in front of what is exchanged behind it. -/
theorem exists_mark (document : List Char) :
    ∃ mark, document = mark ++ unmarked document ∧
      ∀ text, text.head? = (unmarked document).head? → unmarked (mark ++ text) = text := by
  unfold unmarked
  split
  · exact ⟨['\uFEFF'], rfl, fun text _ => rfl⟩
  · next hmark =>
    refine ⟨[], rfl, fun text hhead => ?_⟩
    rw [List.nil_append]
    split
    · next rest =>
      obtain ⟨rest, rfl⟩ := List.head?_eq_some_iff.1 hhead.symm
      exact absurd rfl (hmark rest)
    · rfl

/-- Wherever a document has the tag of an element without content, a pair of tags may stand. Only a
    content that ends in a slash and a name that opens a quote cannot be written in this way. -/
theorem exists_tagPair {document content : List Char} {before after : List Token}
    (h : (Token.scan (unmarked document)).1 = before ++ .empty content :: after)
    (hlast : content.getLast? ≠ some '/') (hname : Token.Passed (tagName content)) :
    ∃ front back, document = front ++ Token.emptyTag content ++ back ∧
      Expands Event.Opens (readEvents document).1
        (readEvents (front ++ Token.tagPair content ++ back)).1 ∧
      (readEvents (front ++ Token.tagPair content ++ back)).2 = (readEvents document).2 := by
  obtain ⟨mark, hmark, hunmarked⟩ := exists_mark document
  obtain ⟨front, back, htext, hafter, hread, hfront⟩ := Token.exists_front h
  obtain ⟨-, -, hpassed, hhead⟩ := Token.eq_of_readFirst_empty hread
  have hscan : Token.scan (unmarked document) =
      (before ++ .empty content :: after, (Token.scan back).2) := by
    rw [htext, Token.emptyTag, List.cons_append, List.cons_append, List.append_assoc,
      List.cons_append, List.singleton_append, hfront, Token.scan_cons hread, hafter]
  have hpair : Token.scan (unmarked (mark ++ (front ++ (Token.tagPair content ++ back)))) =
      (before ++ (.start content :: .close (tagName content) :: after), (Token.scan back).2) := by
    have hsame : (front ++ (Token.tagPair content ++ back)).head? = (unmarked document).head? := by
      rw [htext]
      cases front <;> rfl
    have hbracket : ∃ more, Token.tagPair content ++ back = '<' :: more := ⟨_, rfl⟩
    obtain ⟨more, hmore⟩ := hbracket
    rw [hunmarked _ hsame, hmore, hfront, ← hmore,
      Token.scan_tagPair hpassed hhead hlast hname, hafter]
  have hexpands : Expands Token.Opens (Token.scan (unmarked document)).1
      (Token.scan (unmarked (mark ++ (front ++ (Token.tagPair content ++ back))))).1 := by
    rw [hscan, hpair]
    exact (Expands.refl before).append (.replace (Token.Opens.empty content) (.refl after))
  refine ⟨mark ++ front, back, ?_, ?_⟩
  · rw [hmark, htext]
    simp
  · rw [List.append_assoc, List.append_assoc]
    exact expands_readEvents hexpands (by rw [hscan, hpair])

end FirmwareGen.Markup
