-- SUMMARY: Imported modulators survive saving and loading.
import FirmwareGen.Command.Run
import FirmwareGen.Proofs.Design.RoundTrip
import FirmwareGen.Proofs.Document.Json.Values
import FirmwareGen.Proofs.Storage.Runs
/-!
# Saving and loading modulators

The import of a design leaves the document of a modulator in a file, and loading that file gives the
modulator back, whatever its texts are: the document is JSON, as the extension of the file says in
some letter case, and its text survives as UTF-8.
-/

namespace FirmwareGen.Command

open Document

/-! ## Names of JSON files -/

/-- A text that spells a word in some mixture of small and capital letters. -/
def AnyCase (word text : String) : Prop :=
  List.Forall₂ (fun c d => d = c ∨ d = c.toUpper) word.toList text.toList

instance (word text : String) : Decidable (AnyCase word text) :=
  inferInstanceAs (Decidable (List.Forall₂ _ word.toList text.toList))

theorem map_toLower_of_anyCase {word text : List Char}
    (hcase : List.Forall₂ (fun c d => d = c ∨ d = c.toUpper) word text)
    (hword : ∀ c ∈ word, c.toLower = c ∧ c.toUpper.toLower = c) : text.map Char.toLower = word := by
  induction hcase with
  | nil => rfl
  | cons hletter _ ih =>
    rw [List.forall_mem_cons] at hword
    rw [List.map_cons, ih hword.2]
    rcases hletter with rfl | rfl
    · rw [hword.1.1]
    · rw [hword.1.2]

theorem isJsonPath_of_anyCase {path extension : String}
    (hextension : Path.extension? path = some extension) (hcase : AnyCase "json" extension) :
    isJsonPath path = true := by
  have hlower := map_toLower_of_anyCase hcase (by simp)
  simp only [isJsonPath, hextension, hlower, beq_self_eq_true]

/-! ## Documents of modulators -/

theorem parse_modulatorText (modulator : Modulator) :
    (Json.parse (modulatorText modulator)).bind (Modulator.schema.codec.decode Json.dialect) =
      some modulator := by
  have hcodec := Record.lawful_codec Modulator.lawful_schema
  rw [modulatorText, Json.parse_print (hcodec.exact modulator), Option.bind_some,
    hcodec.decode_encode]

theorem load_modulatorText (modulator : Modulator) {path : String}
    (hpath : isJsonPath path = true) :
    load Modulator.schema path (some (modulatorText modulator)) = .ok modulator := by
  rw [load, readRecord, if_pos hpath, parse_modulatorText]

theorem fromUTF8?_toUTF8 (text : String) : String.fromUTF8? text.toUTF8 = some text := by
  rw [String.fromUTF8?, String.toUTF8, dif_pos text.isValidUTF8]
  rfl

/-! ## The import of a design -/

section Import

variable (directory : Location) (instant : DateTime) (tree : FileTree)

theorem run_each_debug {α : Type} (message : α → String) (items : List α) :
    ((each (fun a => Script.debug (message a)) items).run directory instant tree).result = .ok () ∧
      ((each (fun a => Script.debug (message a)) items).run directory instant tree).tree = tree := by
  induction items with
  | nil => exact ⟨rfl, rfl⟩
  | cons a items ih => exact ih

/-- The modulator of a design file of some text, or why there is none. -/
def imported (design : String) : Option String → Except String Modulator
  | none => .error ("failed to read " ++ design)
  | some text =>
    if (Design.importReport text).success then
      .ok { id := 1, name := (Path.stem? design).getD "", phases := (Design.importReport text).phases }
    else .error (design ++ ": " ++ (Design.importReport text).errorMessage)

/-- The import of a design depends on the text of its file alone and changes nothing. -/
theorem run_importModulator (design : String) :
    ((importModulator design).run directory instant tree).result =
        imported design ((tree.read directory design).bind String.fromUTF8?) ∧
      ((importModulator design).run directory instant tree).tree = tree := by
  rw [importModulator, Script.run_bind, Script.readOr, Script.run]
  cases (tree.read directory design).bind String.fromUTF8? with
  | none => exact ⟨rfl, rfl⟩
  | some text =>
    by_cases hsuccess : (Design.importReport text).success = true
    · obtain ⟨hresult, htree⟩ := run_each_debug directory instant tree Design.Note.message
        (Design.importReport text).notes
      simp only [Script.run, Script.Outcome.andThen, imported, if_pos hsuccess, Script.run_bind,
        hresult, htree]
      exact ⟨rfl, rfl⟩
    · simp only [Script.run, Script.Outcome.andThen, imported, if_neg hsuccess, true_and]

variable {directory instant tree}

theorem result_importModulator {design text : String}
    (hread : tree.read directory design = some text.toUTF8)
    (hsuccess : (Design.importReport text).success = true) :
    ((importModulator design).run directory instant tree).result =
      .ok { id := 1, name := (Path.stem? design).getD "",
            phases := (Design.importReport text).phases } := by
  rw [(run_importModulator directory instant tree design).1, hread, Option.bind_some,
    fromUTF8?_toUTF8, imported, if_pos hsuccess]

/-- The import of a design leaves the document of its modulator at every path that can be written
    to. -/
theorem run_importDesign {design path : String} {modulator : Modulator} {after : FileTree}
    (himport : ((importModulator design).run directory instant tree).result = .ok modulator)
    (hwrite : tree.write directory path (modulatorText modulator).toUTF8 = (after, true)) :
    ∃ messages, (perform (.importDesign design (some path))).run directory instant tree =
      { tree := after, messages, result := .ok () } := by
  have htree := (run_importModulator directory instant tree design).2
  rw [perform, Script.run_bind, Script.Outcome.andThen]
  simp only [himport, htree, Script.run_bind, Script.run_writeOr hwrite, Script.Outcome.andThen]
  exact ⟨_, rfl⟩

end Import

/-! ## Saving and loading -/

/-- The import of a design leaves the document of its modulator at every path that can be written
    to, and from a path with the extension of JSON in some letter case the document of a modulator
    is loaded as that modulator. -/
theorem loadRecord_saved (modulator : Modulator) (directory : Location) (instant : DateTime)
    {path extension : String} (hextension : Path.extension? path = some extension)
    (hcase : AnyCase "json" extension) :
    (∀ design tree after,
      ((importModulator design).run directory instant tree).result = .ok modulator →
      tree.write directory path (modulatorText modulator).toUTF8 = (after, true) →
      (∃ messages, (perform (.importDesign design (some path))).run directory instant tree =
        { tree := after, messages, result := .ok () }) ∧
        after.read directory path = some (modulatorText modulator).toUTF8) ∧
    ∀ tree : FileTree, tree.read directory path = some (modulatorText modulator).toUTF8 →
      ((loadRecord Modulator.schema path).run directory instant tree).result = .ok modulator := by
  constructor
  · intro design tree after himport hwrite
    exact ⟨run_importDesign himport hwrite, FileTree.read_of_write hwrite⟩
  · intro tree hread
    have hload := load_modulatorText modulator (isJsonPath_of_anyCase hextension hcase)
    rw [loadRecord, Script.run, hread, Option.bind_some, fromUTF8?_toUTF8]
    simp only [hload, Script.run]

/-- A design whose output has a quote, a backslash, a line break and a character outside the first
    plane in its name. -/
def quotedRoot : Markup.Element :=
  Design.node "Design" []
    [Design.node "Personality" [("template", Design.pwmTemplate)]
      [Design.node "Block" [("location", "PWM_A")]
        [Design.node "Aliases" [] [Design.node "Alias" [("value", "in\"\\\n😀")] []]]]]

def quotedDesign : String :=
  String.ofList ((quotedRoot.declaring .default Design.designSpace.toList).written .default).print

/-- The name of a design file, with a quote, a backslash and a control character. -/
def quotedName : String := "\"\\\x01.modus"

def quotedTree : FileTree := { files := [([quotedName], quotedDesign.toUTF8)] }

def quotedModulator : Modulator :=
  { id := 1
    name := "\"\\\x01"
    phases := [{ id := 1, aliasName := "in\"\\\n😀", pwm := "PWM_A" }] }

theorem importReport_quotedDesign :
    (Design.importReport quotedDesign).success = true ∧
      (Design.importReport quotedDesign).phases = quotedModulator.phases := by
  have hplain : ∀ x ∈ quotedRoot.preorder, x.IsPlain Design.designSpace.toList := by decide
  have hallowed : Markup.Binding.default.Allowed := by decide
  have hread := Markup.readDocument_print hallowed Design.designSpace_bindable
    Design.escape_designSpace hplain (by decide)
  rw [quotedDesign, Design.importReport, Design.importDesign, String.toList_ofList, hread]
  exact ⟨rfl, by decide +kernel⟩

def quotedInstant : DateTime :=
  { year := 2024, month := 2, day := 29, hour := 23, minute := 59, second := 59 }

theorem loadRecord_saved_quotedModulator :
    Path.extension? "out.JsOn" = some "JsOn" ∧ AnyCase "json" "JsOn" ∧ ∃ after messages,
      (perform (.importDesign quotedName (some "out.JsOn"))).run [] quotedInstant quotedTree =
        { tree := after, messages, result := .ok () } ∧
      ((loadRecord Modulator.schema "out.JsOn").run [] quotedInstant after).result =
        .ok quotedModulator := by
  have hextension : Path.extension? "out.JsOn" = some "JsOn" := by decide
  have hcase : AnyCase "json" "JsOn" := by decide
  have himport : ((importModulator quotedName).run [] quotedInstant quotedTree).result =
      .ok quotedModulator := by
    obtain ⟨hsuccess, hphases⟩ := importReport_quotedDesign
    have hread : quotedTree.read [] quotedName = some quotedDesign.toUTF8 := by
      have hlocate : quotedTree.locate [] quotedName = .ok [quotedName] := by decide +kernel
      rw [FileTree.read, hlocate]
      rfl
    have hstem : Path.stem? quotedName = some quotedModulator.name := by decide
    rw [result_importModulator hread hsuccess, hphases, hstem]
    rfl
  have hwrite : quotedTree.write [] "out.JsOn" (modulatorText quotedModulator).toUTF8 =
      (quotedTree.setFile ["out.JsOn"] (modulatorText quotedModulator).toUTF8, true) := by
    have hlocate : quotedTree.locate [] "out.JsOn" = .ok ["out.JsOn"] := by decide +kernel
    rw [FileTree.write, hlocate]
    rfl
  obtain ⟨hsave, hload⟩ := loadRecord_saved quotedModulator [] quotedInstant hextension hcase
  obtain ⟨⟨messages, hrun⟩, hsaved⟩ := hsave quotedName quotedTree _ himport hwrite
  exact ⟨hextension, hcase, _, messages, hrun, hload _ hsaved⟩

end FirmwareGen.Command
