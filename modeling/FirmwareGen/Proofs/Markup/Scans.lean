-- SUMMARY: A token depends on its own text alone, so that one tag of a document may be exchanged.
import FirmwareGen.Proofs.Markup.Tags
/-!
# Exchanging a tag

The scan of a document decides on each token by the text of the token and, for a text between tags,
by the bracket behind it. Hence the tokens in front of a tag stay what they are when other tags take
its place. What a scan takes for the tag of an element without content is one in the text.
-/

namespace FirmwareGen.Markup

namespace Token

/-! ## What is read depends on its own text -/

variable {text content rest : List Char} {token : Token}

theorem upTo_front {closes : List Char → Bool} {before : List Char}
    (h : upTo closes before text = some (content, rest)) :
    ∃ c piece, text = c :: (piece ++ rest) ∧
      ∀ rest', upTo closes before (c :: (piece ++ rest')) = some (content, rest') := by
  induction text generalizing before with
  | nil => cases h
  | cons c text ih =>
    rw [upTo] at h
    split at h
    · next hclose =>
      cases h
      exact ⟨c, [], rfl, fun rest' => by rw [List.nil_append, upTo, if_pos hclose]⟩
    · next hopen =>
      obtain ⟨d, piece, rfl, hpiece⟩ := ih h
      refine ⟨c, d :: piece, rfl, fun rest' => ?_⟩
      rw [upTo, if_neg hopen]
      exact hpiece rest'

theorem upToBalanced_front {depth : Nat} (h : upToBalanced depth text = some (content, rest)) :
    ∃ c piece, text = c :: (piece ++ rest) ∧
      ∀ rest', upToBalanced depth (c :: (piece ++ rest')) = some (content, rest') := by
  induction text generalizing depth content rest with
  | nil => cases h
  | cons c text ih =>
    rw [upToBalanced] at h
    split at h
    · next hclose =>
      cases h
      exact ⟨c, [], rfl, fun rest' => by rw [List.nil_append, upToBalanced, if_pos hclose]⟩
    · next hopen =>
      obtain ⟨⟨content, rest⟩, hfound, hcons⟩ := Option.map_eq_some_iff.1 h
      cases hcons
      obtain ⟨d, piece, rfl, hpiece⟩ := ih hfound
      refine ⟨c, d :: piece, rfl, fun rest' => ?_⟩
      rw [upToBalanced, if_neg hopen, List.cons_append, hpiece rest']
      rfl

theorem upToUnquoted_front {quote : Option Char}
    (h : upToUnquoted quote text = some (content, rest)) :
    ∃ c piece, text = c :: (piece ++ rest) ∧
      ∀ rest', upToUnquoted quote (c :: (piece ++ rest')) = some (content, rest') := by
  induction text generalizing quote content rest with
  | nil => cases h
  | cons c text ih =>
    rw [upToUnquoted] at h
    split at h
    · next hclose =>
      cases h
      exact ⟨c, [], rfl, fun rest' => by rw [List.nil_append, upToUnquoted, if_pos hclose]⟩
    · next hopen =>
      obtain ⟨⟨content, rest⟩, hfound, hcons⟩ := Option.map_eq_some_iff.1 h
      cases hcons
      obtain ⟨d, piece, rfl, hpiece⟩ := ih hfound
      refine ⟨c, d :: piece, rfl, fun rest' => ?_⟩
      rw [upToUnquoted, if_neg hopen, List.cons_append, hpiece rest']
      rfl

theorem readBang_front (h : readBang text = .ok (token, rest)) :
    ∃ c piece, text = c :: (piece ++ rest) ∧
      ∀ rest', readBang (c :: (piece ++ rest')) = .ok (token, rest') := by
  unfold readBang at h
  split at h
  · split at h
    · next hfound =>
      cases h
      obtain ⟨c, piece, hcons, hpiece⟩ := upTo_front hfound
      cases hcons
      exact ⟨'-', piece, rfl, fun rest' => by simp only [readBang, hpiece rest']⟩
    · cases h
  · split at h
    · next hfound =>
      cases h
      obtain ⟨c, piece, hcons, hpiece⟩ := upTo_front hfound
      cases hcons
      exact ⟨'[', piece, rfl, fun rest' => by simp only [readBang, hpiece rest']⟩
    · cases h
  · next c text hcomment hcdata =>
    split at h
    · next hletter =>
      split at h
      · next hfound =>
        split at h
        · next hdoctype =>
          cases h
          obtain ⟨d, piece, hcons, hpiece⟩ := upToBalanced_front hfound
          cases hcons
          refine ⟨c, piece, rfl, fun rest' => ?_⟩
          rw [readBang.eq_3 c (piece ++ rest') hcomment hcdata, if_pos hletter]
          simp only [hpiece rest', if_pos hdoctype]
        · cases h
      · cases h
    · cases h
  · cases h

theorem readInstruction_front (h : readInstruction text = .ok (token, rest)) :
    ∃ c piece, text = c :: (piece ++ rest) ∧
      ∀ rest', readInstruction (c :: (piece ++ rest')) = .ok (token, rest') := by
  unfold readInstruction at h
  split at h
  · next hfound =>
    cases h
    obtain ⟨c, piece, rfl, hpiece⟩ := upTo_front hfound
    exact ⟨c, piece, rfl, fun rest' => by simp only [readInstruction, hpiece rest']⟩
  · cases h

theorem readTag_front (h : readTag text = .ok (token, rest)) :
    ∃ c piece, text = c :: (piece ++ rest) ∧
      ∀ rest', readTag (c :: (piece ++ rest')) = .ok (token, rest') := by
  unfold readTag at h
  split at h
  · obtain ⟨c, piece, rfl, hpiece⟩ := readBang_front h
    exact ⟨'!', c :: piece, rfl, hpiece⟩
  · obtain ⟨c, piece, rfl, hpiece⟩ := readInstruction_front h
    exact ⟨'?', c :: piece, rfl, hpiece⟩
  · next hbang hquestion =>
    split at h
    · next hfound =>
      cases h
      obtain ⟨c, piece, rfl, hpiece⟩ := upToUnquoted_front hfound
      refine ⟨c, piece, rfl, fun rest' => ?_⟩
      unfold readTag
      split
      · next heq => cases heq; exact absurd rfl (hbang _)
      · next heq => cases heq; exact absurd rfl (hquestion _)
      · rw [hpiece rest']
    · cases h

/-- A text between tags ends at a bracket or with the document, so the first character behind it
    counts too. -/
theorem readFirst_front {c : Char} (h : readFirst c text = .ok (token, rest)) :
    ∃ piece, text = piece ++ rest ∧
      ∀ rest', rest'.head? = rest.head? → readFirst c (piece ++ rest') = .ok (token, rest') := by
  unfold readFirst at h
  split at h
  · next hbracket =>
    obtain ⟨d, piece, rfl, hpiece⟩ := readTag_front h
    exact ⟨d :: piece, rfl, fun rest' _ => by
      rw [readFirst, if_pos hbracket, List.cons_append, hpiece rest']⟩
  · next hbracket =>
    cases h
    refine ⟨text.takeWhile (· != '<'), List.takeWhile_append_dropWhile.symm, fun rest' hhead => ?_⟩
    have hstop : rest'.takeWhile (· != '<') = [] ∧ rest'.dropWhile (· != '<') = rest' := by
      have hleft := List.head?_dropWhile_not (· != '<') text
      cases rest' with
      | nil => exact ⟨rfl, rfl⟩
      | cons d rest' =>
        rw [← hhead, List.head?_cons] at hleft
        rw [List.takeWhile_cons, List.dropWhile_cons, if_neg (by simpa using hleft),
          if_neg (by simpa using hleft)]
        exact ⟨rfl, rfl⟩
    have hpiece : ∀ d ∈ text.takeWhile (· != '<'), (d != '<') = true :=
      fun d hd => List.mem_takeWhile_imp (p := (· != '<')) hd
    rw [readFirst, if_neg hbracket, List.takeWhile_append_of_pos hpiece,
      List.dropWhile_append_of_pos hpiece, hstop.1, hstop.2, List.append_nil]

/-- The first token of a scan that yields one. -/
theorem readFirst_of_scan {tokens : List Token} (h : (scan text).1 = token :: tokens) :
    ∃ c piece rest, text = c :: piece ∧ readFirst c piece = .ok (token, rest) ∧
      (scan rest).1 = tokens := by
  cases text with
  | nil => simp [scan] at h
  | cons c piece =>
    cases hread : readFirst c piece with
    | error e =>
      rw [scan] at h
      split at h
      · cases h
      · next heq => rw [hread] at heq; cases heq
    | ok found =>
      obtain ⟨first, rest⟩ := found
      rw [scan_cons hread] at h
      cases h
      exact ⟨c, piece, rest, rfl, hread, rfl⟩

/-! ## Tags of elements without content -/

/-- The tag of an element without content. -/
def emptyTag (content : List Char) : List Char := '<' :: content ++ ['/', '>']

/-- The start tag with this content and the end tag of its name. -/
def tagPair (content : List Char) : List Char :=
  '<' :: content ++ ['>'] ++ '<' :: '/' :: tagName content ++ ['>']

theorem quoteAfter_ne_slash {quote : Option Char} {c : Char} (h : quote ≠ some '/') :
    quoteAfter quote c ≠ some '/' := by
  unfold quoteAfter
  split
  · split
    · exact nofun
    · exact h
  · split
    · next hquote => rcases hquote with rfl | rfl <;> decide
    · exact nofun

/-- A slash opens no quote and closes none, so a tag that ends behind it was outside quotes. -/
theorem eq_of_upToUnquoted_slash {quote : Option Char} (hslash : quote ≠ some '/')
    (h : upToUnquoted quote text = some (['/'], rest)) :
    quote = none ∧ text = '/' :: '>' :: rest := by
  cases text with
  | nil => cases h
  | cons c text =>
    rw [upToUnquoted] at h
    split at h
    · cases h
    obtain ⟨⟨found, rest⟩, hfound, hcons⟩ := Option.map_eq_some_iff.1 h
    cases hcons
    cases text with
    | nil => cases hfound
    | cons d text =>
      rw [upToUnquoted] at hfound
      split at hfound
      · next hclose =>
        cases hfound
        refine ⟨?_, by rw [hclose.1]⟩
        cases quote with
        | none => rfl
        | some q =>
          have hclosed : '/' = q := by simpa [quoteAfter] using hclose.2
          exact absurd (congrArg some hclosed.symm) hslash
      · obtain ⟨_, _, hcons⟩ := Option.map_eq_some_iff.1 hfound
        cases hcons

/-- What ends in a slash and is taken for the content of a tag is passed over without the slash
    too. -/
theorem upToUnquoted_slash {quote : Option Char} (hslash : quote ≠ some '/')
    (h : upToUnquoted quote text = some (content ++ ['/'], rest)) :
    text = content ++ '/' :: '>' :: rest ∧
      ∀ more, upToUnquoted quote (content ++ more) =
        (upToUnquoted none more).map fun found => (content ++ found.1, found.2) := by
  induction content generalizing text quote with
  | nil =>
    obtain ⟨rfl, rfl⟩ := eq_of_upToUnquoted_slash hslash h
    exact ⟨rfl, fun more => by simp⟩
  | cons c content ih =>
    cases text with
    | nil => cases h
    | cons d text =>
      rw [upToUnquoted] at h
      split at h
      · cases h
      next hopen =>
      obtain ⟨⟨found, rest⟩, hfound, hcons⟩ := Option.map_eq_some_iff.1 h
      cases hcons
      obtain ⟨rfl, hmore⟩ := ih (quoteAfter_ne_slash hslash) hfound
      refine ⟨rfl, fun more => ?_⟩
      rw [List.cons_append, upToUnquoted, if_neg hopen, hmore, Option.map_map]
      rfl

theorem eq_of_ofContent_empty {found : List Char} (h : ofContent found = .empty content) :
    found = content ++ ['/'] ∧ found.head? ≠ some '/' := by
  unfold ofContent at h
  split at h
  · cases h
  next hslash =>
  split at h
  · next hlast =>
    cases h
    refine ⟨?_, fun hhead => ?_⟩
    · obtain ⟨front, rfl⟩ := List.getLast?_eq_some_iff.1 hlast
      rw [List.dropLast_concat]
    · obtain ⟨tail, rfl⟩ := List.head?_eq_some_iff.1 hhead
      exact hslash tail rfl
  · cases h

/-- The text of the tag of an element without content. -/
theorem eq_of_readFirst_empty {c : Char} (h : readFirst c text = .ok (.empty content, rest)) :
    c = '<' ∧ text = content ++ '/' :: '>' :: rest ∧ Passed content ∧
      ∀ d ∈ ['!', '?', '/'], content.head? ≠ some d := by
  unfold readFirst at h
  split at h
  swap
  · cases h
  next hbracket =>
  refine ⟨hbracket, ?_⟩
  unfold readTag at h
  split at h
  · next bang =>
    unfold readBang at h
    repeat' split at h
    all_goals cases h
  · unfold readInstruction at h
    repeat' split at h
    all_goals cases h
  · next hbang hquestion =>
    split at h
    swap
    · cases h
    next found rest hfound =>
    obtain ⟨hcontent, rfl⟩ := Prod.mk.inj (Except.ok.inj h)
    obtain ⟨rfl, hhead⟩ := eq_of_ofContent_empty hcontent
    obtain ⟨rfl, hpassed⟩ := upToUnquoted_slash (by decide) hfound
    refine ⟨rfl, hpassed, fun d hd hfirst => ?_⟩
    obtain ⟨tail, rfl⟩ := List.head?_eq_some_iff.1 hfirst
    simp only [List.mem_cons, List.not_mem_nil, or_false] at hd
    rcases hd with rfl | rfl | rfl
    · exact hbang _ rfl
    · exact hquestion _ rfl
    · exact hhead rfl

/-- In front of the tag of an element without content there are tokens that do not depend on the
    tag. -/
theorem exists_front {before after : List Token}
    (h : (scan text).1 = before ++ .empty content :: after) :
    ∃ front back, text = front ++ (emptyTag content ++ back) ∧ (scan back).1 = after ∧
      readFirst '<' (content ++ '/' :: '>' :: back) = .ok (.empty content, back) ∧
      ∀ more, scan (front ++ '<' :: more) =
        (before ++ (scan ('<' :: more)).1, (scan ('<' :: more)).2) := by
  induction before generalizing text with
  | nil =>
    obtain ⟨c, piece, back, rfl, hread, hback⟩ := readFirst_of_scan h
    obtain ⟨rfl, rfl, -⟩ := eq_of_readFirst_empty hread
    exact ⟨[], back, by simp [emptyTag], hback, hread, fun more => rfl⟩
  | cons token before ih =>
    obtain ⟨c, piece, rest, rfl, hread, hrest⟩ := readFirst_of_scan h
    obtain ⟨front, back, rfl, hback, hempty, hmore⟩ := ih hrest
    obtain ⟨taken, rfl, htaken⟩ := readFirst_front hread
    refine ⟨c :: (taken ++ front), back, by simp, hback, hempty, fun more => ?_⟩
    have hhead : (front ++ '<' :: more).head? = (front ++ (emptyTag content ++ back)).head? := by
      cases front <;> rfl
    rw [List.cons_append, List.append_assoc, scan_cons (htaken _ hhead), hmore more]
    rfl

/-- A pair of tags without content between them is scanned as two tokens. -/
theorem scan_tagPair (hcontent : Passed content)
    (hhead : ∀ d ∈ ['!', '?', '/'], content.head? ≠ some d) (hlast : content.getLast? ≠ some '/')
    (hname : Passed (tagName content)) (rest : List Char) :
    scan (tagPair content ++ rest) =
      (.start content :: .close (tagName content) :: (scan rest).1, (scan rest).2) := by
  have hstart : ofContent content = .start content := by
    unfold ofContent
    split
    · exact absurd rfl (hhead '/' (by decide))
    · rw [if_neg hlast]
  have hclose : ofContent ('/' :: tagName content) = .close (tagName content) := by
    rw [ofContent, trimEnd_eq_self fun c hc => by
      simpa using List.mem_takeWhile_imp (p := fun c => !isBlank c) hc]
  have hslash : Passed ['/'] := .of_plain (by decide) (by decide) (by decide)
  have htext : tagPair content ++ rest =
      '<' :: (content ++ '>' :: '<' :: (['/'] ++ tagName content ++ '>' :: rest)) := by
    simp [tagPair]
  rw [htext, scan_cons (readFirst_passed hcontent (hhead '!' (by decide)) (hhead '?' (by decide)) _),
    scan_cons (readFirst_passed (hslash.append hname) (by simp) (by simp) rest), hstart,
    List.singleton_append, hclose]

end Token

end FirmwareGen.Markup
