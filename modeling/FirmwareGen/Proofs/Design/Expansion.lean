-- SUMMARY: An import does not tell a tag of an element without content from a pair of tags.
import FirmwareGen.Design.Import
import FirmwareGen.Proofs.Markup.Expansion
/-!
# Elements without content in design files

A document may write an element without content as one tag or as a pair of tags. Either way it has
the same tree, or none; hence an import yields the same phases and succeeds or fails alike. Only the
error of a failure may be another one.
-/

namespace FirmwareGen.Design

open Markup

/-- Two documents that an import tells apart at most by the error that it reports. -/
structure ImportedAlike (document document' : String) : Prop where
  root : ∀ root,
    readDocument document.toList = .ok root ↔ readDocument document'.toList = .ok root
  success : (importReport document).success = (importReport document').success
  phases : (importReport document).phases = (importReport document').phases
  notes : (importReport document).notes = (importReport document').notes

/-- Of a document an import reports nothing but an error that is not in its root element. -/
theorem ImportedAlike.of_root {document document' : String}
    (h : ∀ root, readDocument document.toList = .ok root ↔
      readDocument document'.toList = .ok root) : ImportedAlike document document' := by
  have hreport : (importReport document).success = (importReport document').success ∧
      (importReport document).phases = (importReport document').phases ∧
        (importReport document).notes = (importReport document').notes := by
    simp only [importReport, importDesign]
    cases hread : readDocument document.toList with
    | ok root =>
      rw [(h root).1 hread]
      exact ⟨rfl, rfl, rfl⟩
    | error e =>
      cases hread' : readDocument document'.toList with
      | ok root => exact absurd ((h root).2 hread') (by rw [hread]; exact nofun)
      | error e' => exact ⟨rfl, rfl, rfl⟩
  exact ⟨h, hreport.1, hreport.2.1, hreport.2.2⟩

theorem importedAlike_of_expands {document document' : String}
    (hevents : Expands Event.Opens (readEvents document.toList).1 (readEvents document'.toList).1)
    (hfailure : (readEvents document.toList).2 = none ↔ (readEvents document'.toList).2 = none) :
    ImportedAlike document document' :=
  .of_root fun root => by
    rw [readDocument_eq, readDocument_eq]
    exact treeOf_expands hevents hfailure root

/-- Events of elements without content may be replaced by the start and the end of the element, at any
    number of places: the ends still close open elements, and the tree is the same, if there is one. So
    documents whose events differ in this way are imported alike, and any tag of an element without
    content may be written as a pair of tags. -/
theorem importedAlike_tagPair :
    (∀ events expanded, Expands Event.Opens events expanded →
      (Matched 0 events ↔ Matched 0 expanded) ∧
        (∀ root, buildTree events = .ok root ↔ buildTree expanded = .ok root) ∧
          ∀ failure failure', (failure = none ↔ failure' = none) →
            ∀ root, treeOf events failure = .ok root ↔ treeOf expanded failure' = .ok root) ∧
    (∀ document document' : String,
      Expands Event.Opens (readEvents document.toList).1 (readEvents document'.toList).1 →
        ((readEvents document.toList).2 = none ↔ (readEvents document'.toList).2 = none) →
          ImportedAlike document document') ∧
    ∀ document content before after,
      (Token.scan (unmarked document)).1 = before ++ .empty content :: after →
        content.getLast? ≠ some '/' → Token.Passed (tagName content) →
          ∃ front back, document = front ++ Token.emptyTag content ++ back ∧
            ImportedAlike (.ofList document)
              (.ofList (front ++ Token.tagPair content ++ back)) := by
  refine ⟨fun events expanded h => ⟨(matched_expands h 0).symm, fun root => ?_,
    fun failure failure' hfailure root => treeOf_expands h hfailure root⟩,
    fun document document' => importedAlike_of_expands, ?_⟩
  · rw [← treeOf_none, ← treeOf_none]
    exact treeOf_expands h Iff.rfl root
  · intro document content before after h hlast hname
    obtain ⟨front, back, hdocument, hevents, hfailure⟩ := exists_tagPair h hlast hname
    refine ⟨front, back, hdocument, importedAlike_of_expands ?_ ?_⟩
    · rwa [String.toList_ofList, String.toList_ofList]
    · rw [String.toList_ofList, String.toList_ofList, hfailure]

/-- An element around two, of which one has content. -/
def twinDocument : List Char := "<a><b/><c><d/></c></a>".toList

/-- The same element with every tag in a pair. -/
def pairedDocument : List Char := "<a><b></b><c><d></d></c></a>".toList

theorem scan_twinDocument : Token.scan (unmarked twinDocument) =
    ([.start ['a'], .empty ['b'], .start ['c'], .empty ['d'], .close ['c'], .close ['a']], none) := by
  have ha : Token.readFirst '<' "a><b/><c><d/></c></a>".toList =
      .ok (.start ['a'], '<' :: "b/><c><d/></c></a>".toList) := rfl
  have hb : Token.readFirst '<' "b/><c><d/></c></a>".toList =
      .ok (.empty ['b'], '<' :: "c><d/></c></a>".toList) := rfl
  have hc : Token.readFirst '<' "c><d/></c></a>".toList =
      .ok (.start ['c'], '<' :: "d/></c></a>".toList) := rfl
  have hd : Token.readFirst '<' "d/></c></a>".toList =
      .ok (.empty ['d'], '<' :: "/c></a>".toList) := rfl
  have hcend : Token.readFirst '<' "/c></a>".toList = .ok (.close ['c'], '<' :: "/a>".toList) := rfl
  have hend : Token.readFirst '<' "/a>".toList = .ok (.close ['a'], []) := rfl
  rw [show unmarked twinDocument = '<' :: "a><b/><c><d/></c></a>".toList from rfl,
    Token.scan_cons ha, Token.scan_cons hb, Token.scan_cons hc, Token.scan_cons hd,
    Token.scan_cons hcend, Token.scan_cons hend, Token.scan]

theorem scan_pairedDocument : Token.scan (unmarked pairedDocument) =
    ([.start ['a'], .start ['b'], .close ['b'], .start ['c'], .start ['d'], .close ['d'],
      .close ['c'], .close ['a']], none) := by
  have ha : Token.readFirst '<' "a><b></b><c><d></d></c></a>".toList =
      .ok (.start ['a'], '<' :: "b></b><c><d></d></c></a>".toList) := rfl
  have hb : Token.readFirst '<' "b></b><c><d></d></c></a>".toList =
      .ok (.start ['b'], '<' :: "/b><c><d></d></c></a>".toList) := rfl
  have hbend : Token.readFirst '<' "/b><c><d></d></c></a>".toList =
      .ok (.close ['b'], '<' :: "c><d></d></c></a>".toList) := rfl
  have hc : Token.readFirst '<' "c><d></d></c></a>".toList =
      .ok (.start ['c'], '<' :: "d></d></c></a>".toList) := rfl
  have hd : Token.readFirst '<' "d></d></c></a>".toList =
      .ok (.start ['d'], '<' :: "/d></c></a>".toList) := rfl
  have hdend : Token.readFirst '<' "/d></c></a>".toList =
      .ok (.close ['d'], '<' :: "/c></a>".toList) := rfl
  have hcend : Token.readFirst '<' "/c></a>".toList = .ok (.close ['c'], '<' :: "/a>".toList) := rfl
  have hend : Token.readFirst '<' "/a>".toList = .ok (.close ['a'], []) := rfl
  rw [show unmarked pairedDocument = '<' :: "a><b></b><c><d></d></c></a>".toList from rfl,
    Token.scan_cons ha, Token.scan_cons hb, Token.scan_cons hbend, Token.scan_cons hc,
    Token.scan_cons hd, Token.scan_cons hdend, Token.scan_cons hcend, Token.scan_cons hend,
    Token.scan]

theorem expands_twinDocument :
    Expands Event.Opens (readEvents twinDocument).1 (readEvents pairedDocument).1 ∧
      (readEvents pairedDocument).2 = (readEvents twinDocument).2 := by
  refine expands_readEvents ?_ (by rw [scan_twinDocument, scan_pairedDocument])
  rw [scan_twinDocument, scan_pairedDocument]
  exact .keep _ (.replace (Token.Opens.empty _)
    (.keep _ (.replace (Token.Opens.empty _) (.refl _))))

/-- A tag that is only a name has no attributes. -/
theorem rawAttributes_singleton {c : Char} (h : isBlank c = false) :
    rawAttributes [c] = ([], none) := by
  have hrest : [c].dropWhile (fun c => !isBlank c) = [] := by simp [h]
  rw [rawAttributes, hrest, RawAttribute.scanFrom]
  rfl

theorem readEvents_twinDocument : readEvents twinDocument =
    let tag (name : String) : Tag := { resolution := .unbound, name, attributes := .ok [] }
    ([.start (tag "a"), .empty (tag "b"), .start (tag "c"), .empty (tag "d"), .close, .close],
      none) := by
  have ha : rawAttributes ['a'] = ([], none) := rawAttributes_singleton (by decide)
  have hb : rawAttributes ['b'] = ([], none) := rawAttributes_singleton (by decide)
  have hc : rawAttributes ['c'] = ([], none) := rawAttributes_singleton (by decide)
  have hd : rawAttributes ['d'] = ([], none) := rawAttributes_singleton (by decide)
  rw [readEvents_eq, scan_twinDocument]
  simp only [Event.ofTokens, Event.ofToken, Event.readElement, readAttributes, ha, hb, hc, hd,
    Scope.extend]
  rfl

theorem importedAlike_tagPair_twinDocument :
    Expands Event.Opens (readEvents twinDocument).1 (readEvents pairedDocument).1 ∧
      (readEvents pairedDocument).2 = (readEvents twinDocument).2 ∧
      (∃ root, buildTree (readEvents twinDocument).1 = .ok root ∧
        buildTree (readEvents pairedDocument).1 = .ok root) ∧
      ImportedAlike (.ofList twinDocument) (.ofList pairedDocument) ∧
      ∃ front back, twinDocument = front ++ Token.emptyTag ['b'] ++ back ∧
        ImportedAlike (.ofList twinDocument) (.ofList (front ++ Token.tagPair ['b'] ++ back)) := by
  obtain ⟨hexpands, hfailure⟩ := expands_twinDocument
  obtain ⟨hevents, hdocuments, htexts⟩ := importedAlike_tagPair
  obtain ⟨-, htree, -⟩ := hevents _ _ hexpands
  have hbuild : ∃ root, buildTree (readEvents twinDocument).1 = .ok root := by
    rw [readEvents_twinDocument]
    exact ⟨_, rfl⟩
  obtain ⟨root, hroot⟩ := hbuild
  refine ⟨hexpands, hfailure, ⟨root, hroot, (htree root).1 hroot⟩, hdocuments _ _ ?_ ?_,
    htexts twinDocument ['b'] [.start ['a']]
      [.start ['c'], .empty ['d'], .close ['c'], .close ['a']] ?_ (by decide) ?_⟩
  · rw [String.toList_ofList, String.toList_ofList]
    exact hexpands
  · rw [String.toList_ofList, String.toList_ofList, hfailure]
  · rw [scan_twinDocument]
    rfl
  · exact .of_plain (by decide) (by decide) (by decide)

end FirmwareGen.Design
