-- SUMMARY: Events that spell element trees, and that a written tree is read back.
import FirmwareGen.Markup.Document
import FirmwareGen.Proofs.Markup.Tags
import FirmwareGen.Proofs.Markup.Traversal
/-!
# Reading trees

A sequence of events spells the elements that its tags open and close; texts, comments and
instructions may stand anywhere inside an element. Running a builder over such a sequence attaches
the elements one by one. A written tree is cut into tokens whose events spell it, so it is read
back.
-/

namespace FirmwareGen.Markup

open WrittenElement (tagContent tokens tokensAll Clean CleanAll)

/-! ## Events that spell elements -/

/-- The events that are passed over, outside the root or inside it. -/
def Event.Skipped (outside : Bool) : Event → Prop
  | .characters content => outside = true → content.all Text.isAsciiBlank = true
  | .cdata => outside = false
  | .comment | .instruction | .declaration | .doctype => True
  | .start _ | .empty _ | .close => False

/-- Events that spell elements side by side, outside the root or inside it. An element without
    children can have one tag or two. A tag with an undeclared prefix or with attributes that cannot be
    read is the tag of no element. -/
inductive Spells : Bool → List Event → List Element → Prop
  | nil {outside : Bool} : Spells outside [] []
  | skip {outside : Bool} {event : Event} {events : List Event} {elements : List Element} :
    event.Skipped outside → Spells outside events elements →
    Spells outside (event :: events) elements
  | empty {outside : Bool} {element : Element} {events : List Event} {elements : List Element} :
    element.children = [] → Spells outside events elements →
    Spells outside (.empty element.tag :: events) (element :: elements)
  | nested {outside : Bool} {element : Element} {inner events : List Event}
    {elements : List Element} :
    Spells false inner element.children → Spells outside events elements →
    Spells outside (.start element.tag :: inner ++ .close :: events) (element :: elements)

theorem Spells.append {outside : Bool} {xs ys : List Event} {first second : List Element}
    (hxs : Spells outside xs first) (hys : Spells outside ys second) :
    Spells outside (xs ++ ys) (first ++ second) := by
  induction hxs with
  | nil => exact hys
  | skip hskip _ ih => exact .skip hskip (ih hys)
  | empty hchildren _ ih => exact .empty hchildren (ih hys)
  | nested hinner _ _ ih =>
    simp only [List.cons_append, List.append_assoc]
    exact .nested hinner (ih hys)

/-! ## Running a builder -/

namespace Builder

/-- Attaches elements in turn. -/
def attachAll (builder : Builder) : List Element → Except DocumentError Builder
  | [] => .ok builder
  | element :: elements =>
    match builder.attach element with
    | .error e => .error e
    | .ok builder => builder.attachAll elements

theorem run_append (builder : Builder) (xs ys : List Event) :
    builder.run (xs ++ ys) =
      match builder.run xs with
      | .error e => .error e
      | .ok builder => builder.run ys := by
  induction xs generalizing builder with
  | nil => rfl
  | cons event xs ih =>
    rw [List.cons_append, run, run]
    cases builder.step event with
    | error e => rfl
    | ok builder => exact ih builder

theorem step_skipped {builder : Builder} {event : Event}
    (h : event.Skipped builder.pending.isEmpty) : builder.step event = .ok builder := by
  cases event with
  | start tag => exact h.elim
  | empty tag => exact h.elim
  | close => exact h.elim
  | characters content =>
    rw [step, if_neg]
    simp only [Bool.and_eq_true, Bool.not_eq_true', not_and, Bool.not_eq_false]
    exact h
  | cdata => rw [step, if_neg (by rw [show builder.pending.isEmpty = false from h]; simp)]
  | comment => rfl
  | instruction => rfl
  | declaration => rfl
  | doctype => rfl

/-- Attaching changes neither the number of open elements nor whether there are any. -/
theorem length_attach {builder after : Builder} {element : Element}
    (h : builder.attach element = .ok after) : after.pending.length = builder.pending.length := by
  unfold attach at h
  split at h
  · next hpending =>
    simp only [Except.ok.injEq] at h
    rw [← h, hpending]
    rfl
  · next hpending =>
    split at h
    · cases h
    · simp only [Except.ok.injEq] at h
      rw [← h]

theorem isEmpty_attach {builder after : Builder} {element : Element}
    (h : builder.attach element = .ok after) :
    after.pending.isEmpty = builder.pending.isEmpty := by
  rw [Bool.eq_iff_iff, List.isEmpty_iff_length_eq_zero, List.isEmpty_iff_length_eq_zero,
    length_attach h]

/-- An element without its children, as its tag opens it. -/
def opened (element : Element) : OpenElement where
  space := element.space
  name := element.name
  attributes := element.attributes
  finished := []

/-- A builder inside an element that has just been opened. -/
def enter (builder : Builder) (element : Element) : Builder :=
  { builder with pending := opened element :: builder.pending }

theorem ofTag_tag (element : Element) : OpenElement.ofTag element.tag = .ok (opened element) := by
  obtain ⟨space, name, attributes, children⟩ := element
  cases space <;> rfl

/-- Elements attached below an open element become its children. -/
theorem attachAll_cons (parent : OpenElement) (pending : List OpenElement) (root : Option Element)
    (elements : List Element) :
    attachAll { pending := parent :: pending, root } elements =
      .ok { pending := { parent with finished := elements.reverse ++ parent.finished } :: pending,
            root } := by
  induction elements generalizing parent with
  | nil => rfl
  | cons element elements ih =>
    rw [attachAll]
    simp only [attach, ih, List.reverse_cons, List.append_assoc, List.singleton_append]

theorem attach_of_root {builder : Builder} (hpending : builder.pending.isEmpty = true)
    (hroot : builder.root.isSome = true) (element : Element) :
    builder.attach element = .error .multipleRoots := by
  obtain ⟨root, hroot⟩ := Option.isSome_iff_exists.1 hroot
  unfold attach
  rw [List.isEmpty_iff.1 hpending, hroot]

theorem step_start {builder : Builder} (element : Element)
    (hroot : ¬ (builder.pending.isEmpty = true ∧ builder.root.isSome = true))
    (hdepth : builder.pending.length ≠ levelLimit) :
    builder.step (.start element.tag) = .ok (builder.enter element) := by
  rw [step, if_neg (by simpa using hroot), if_neg hdepth, ofTag_tag]
  rfl

theorem step_empty {builder : Builder} {element : Element} (hchildren : element.children = [])
    (hdepth : builder.pending.length ≠ levelLimit) :
    builder.step (.empty element.tag) = builder.attach element := by
  obtain ⟨space, name, attributes, children⟩ := element
  rw [step, if_neg hdepth, ofTag_tag, show children = [] from hchildren]
  rfl

/-- What an open element has inside and its end attach that element. -/
theorem run_enter {builder : Builder} {element : Element} {inner : List Event}
    (hinner : (builder.enter element).run inner =
      (builder.enter element).attachAll element.children) (rest : List Event) :
    (builder.enter element).run (inner ++ .close :: rest) =
      match builder.attach element with
      | .error e => .error e
      | .ok after => after.run rest := by
  obtain ⟨pending, root⟩ := builder
  obtain ⟨space, name, attributes, children⟩ := element
  rw [run_append, hinner, enter, attachAll_cons]
  cases hattach : attach { pending, root } ⟨space, name, attributes, children⟩ <;>
    simp only [run, step, OpenElement.close, opened, List.append_nil, List.reverse_reverse, hattach]

/-- Running over events attaches the elements that they spell, unless these lie too deep. -/
theorem run_spells {outside : Bool} {events : List Event} {elements : List Element}
    (h : Spells outside events elements) {builder : Builder}
    (houtside : builder.pending.isEmpty = outside)
    (hlevels : builder.pending.length + Element.levelsAll elements ≤ levelLimit) :
    builder.run events = builder.attachAll elements := by
  induction h generalizing builder with
  | nil => rfl
  | skip hskip _ ih =>
    rw [run, step_skipped (by rw [houtside]; exact hskip)]
    exact ih houtside hlevels
  | @empty outside element events elements hchildren _ ih =>
    simp only [Element.levelsAll, Element.levels_eq] at hlevels
    rw [run, step_empty hchildren (by omega), attachAll]
    cases hattach : builder.attach element with
    | error e => rfl
    | ok after =>
      refine ih ((isEmpty_attach hattach).trans houtside) ?_
      rw [length_attach hattach]
      omega
  | @nested outside element inner events elements _ _ ihinner ih =>
    simp only [Element.levelsAll, Element.levels_eq] at hlevels
    by_cases hroot : builder.pending.isEmpty = true ∧ builder.root.isSome = true
    · rw [List.cons_append, run, step, if_pos (by simp [hroot]), attachAll,
        attach_of_root hroot.1 hroot.2]
    · have hinner : (builder.enter element).run inner =
          (builder.enter element).attachAll element.children :=
        ihinner rfl (by simp only [enter, List.length_cons]; omega)
      rw [List.cons_append, run, step_start element hroot (by omega), attachAll]
      simp only [run_enter hinner]
      cases hattach : builder.attach element with
      | error e => rfl
      | ok after =>
        refine ih ((isEmpty_attach hattach).trans houtside) ?_
        rw [length_attach hattach]
        omega

end Builder

/-- Events that spell one element are the document of that element. -/
theorem buildTree_of_spells {events : List Event} {root : Element}
    (h : Spells true events [root]) (hlevels : root.levels ≤ levelLimit) :
    buildTree events = .ok root := by
  have hrun : Builder.initial.run events = Builder.initial.attachAll [root] :=
    Builder.run_spells h rfl (by simpa [Builder.initial, Element.levelsAll] using hlevels)
  rw [buildTree, hrun]
  rfl

/-! ## Written trees -/

/-- Attributes as they are written. -/
def writtenAttributes (attributes : List (String × String)) : List (List Char × List Char) :=
  attributes.map fun entry => (entry.1.toList, entry.2.toList)

namespace Element

mutual

/-- An element as it is written in a document that binds its namespace. -/
def written (binding : Binding) : Element → WrittenElement
  | ⟨_, name, attributes, children⟩ =>
    ⟨binding.qualify name.toList, writtenAttributes attributes, writtenAll binding children⟩

def writtenAll (binding : Binding) : List Element → List WrittenElement
  | [] => []
  | element :: rest => written binding element :: writtenAll binding rest

end

/-- An element of the document's namespace whose names have no colon, with no declaration and no
    key twice. -/
structure IsPlain (uri : List Char) (element : Element) : Prop where
  space_eq : element.space = some (String.ofList uri)
  name_isNcName : isNcName element.name.toList = true
  keys_isNcName : ∀ entry ∈ element.attributes, isNcName entry.1.toList = true
  keys_ne : ∀ entry ∈ element.attributes, entry.1.toList ≠ Binding.default.key
  keys_nodup : (element.attributes.map Prod.fst).Nodup

instance (uri : List Char) (element : Element) : Decidable (element.IsPlain uri) :=
  decidable_of_iff
    (element.space = some (String.ofList uri) ∧ isNcName element.name.toList = true ∧
      (∀ entry ∈ element.attributes, isNcName entry.1.toList = true) ∧
      (∀ entry ∈ element.attributes, entry.1.toList ≠ Binding.default.key) ∧
      (element.attributes.map Prod.fst).Nodup)
    ⟨fun ⟨hspace, hname, hkeys, hne, hnodup⟩ => ⟨hspace, hname, hkeys, hne, hnodup⟩,
      fun h => ⟨h.space_eq, h.name_isNcName, h.keys_isNcName, h.keys_ne, h.keys_nodup⟩⟩

/-- An element with the declaration of the document's namespace in front of its attributes. -/
def declaring (binding : Binding) (uri : List Char) (element : Element) : Element :=
  { element with
    attributes := (String.ofList binding.key, String.ofList uri) :: element.attributes }

end Element

/-! ## Tags of written trees -/

section Tags

variable {binding : Binding} {uri : List Char} {element : Element}

theorem keys_writtenAttributes (attributes : List (String × String)) :
    (writtenAttributes attributes).map Prod.fst =
      (attributes.map Prod.fst).map String.toList := by
  simp [writtenAttributes]

theorem nodup_keys_writtenAttributes {attributes : List (String × String)}
    (h : (attributes.map Prod.fst).Nodup) : ((writtenAttributes attributes).map Prod.fst).Nodup := by
  rw [keys_writtenAttributes]
  exact List.Pairwise.map _ (fun _ _ hne heq => hne (String.toList_injective heq)) h

theorem ofList_writtenAttributes (attributes : List (String × String)) :
    ((writtenAttributes attributes).map fun entry =>
      (String.ofList entry.1, String.ofList entry.2)) = attributes := by
  have hcomp : ((fun entry : List Char × List Char =>
      (String.ofList entry.1, String.ofList entry.2)) ∘
        fun entry : String × String => (entry.1.toList, entry.2.toList)) = id := by
    funext entry
    simp
  rw [writtenAttributes, List.map_map, hcomp, List.map_id]

/-- Attributes that declare nothing leave the scope as it is. -/
theorem Scope.extend_of_shows {raws : List RawAttribute} {attributes : List (List Char × List Char)}
    (hshows : List.Forall₂ RawAttribute.Shows raws attributes)
    (hkeys : ∀ entry ∈ attributes, Declaration.ofKey? entry.1 = none) (scope : Scope) :
    scope.extend raws = .ok scope := by
  induction hshows with
  | nil => rfl
  | @cons raw entry raws attributes hraw _ ih =>
    obtain ⟨hkey, hvalue⟩ := hraw
    rw [Scope.extend, hvalue]
    simp only [hkey, hkeys entry List.mem_cons_self]
    exact ih fun e he => hkeys e (List.mem_cons_of_mem _ he)

/-- The declaration in front of such attributes binds the namespace of the document. -/
theorem Scope.extend_declaration (hbinding : binding.Allowed) (huri : Bindable uri)
    (hescape : Entity.escape uri = uri) {raws : List RawAttribute}
    {attributes : List (List Char × List Char)}
    (hshows : List.Forall₂ RawAttribute.Shows raws ((binding.key, uri) :: attributes))
    (hkeys : ∀ entry ∈ attributes, Declaration.ofKey? entry.1 = none) (scope : Scope) :
    ∃ inner, scope.extend raws = .ok inner ∧ inner.Binds binding uri := by
  obtain ⟨declaration, inner, hdeclaration, hbind, hinner⟩ :=
    Scope.binds_of_declaration hbinding huri scope
  refine ⟨inner, ?_, hinner⟩
  cases hshows with
  | cons hraw hshows =>
    obtain ⟨hkey, hvalue⟩ := hraw
    rw [Scope.extend, hvalue]
    simp only [hkey, hdeclaration, hescape, hbind]
    exact Scope.extend_of_shows hshows hkeys inner

/-- A tag of the document's namespace is read back where that is bound. -/
theorem readElement_written (hbinding : binding.Allowed) {scope : Scope}
    (hscope : scope.Binds binding uri) (hspace : element.space = some (String.ofList uri))
    (hname : isNcName element.name.toList = true)
    (hkeys : ∀ entry ∈ writtenAttributes element.attributes, IsClean entry.1)
    (hnodup : (element.attributes.map Prod.fst).Nodup) :
    Event.readElement scope (tagContent (binding.qualify element.name.toList)
      (writtenAttributes element.attributes)) = element.tag := by
  have hqualified := Binding.isClean_qualify hbinding hname
  have hresolve : scope.resolve binding.before? = .bound (String.ofList uri) := hscope
  unfold Event.readElement
  rw [tagName_tagContent hqualified, Binding.splitName_qualify hbinding hname,
    readAttributes_tagContent hqualified hkeys (nodup_keys_writtenAttributes hnodup),
    ofList_writtenAttributes]
  simp only [hresolve, Element.tag, hspace, String.ofList_toList]

theorem Element.IsPlain.keys_clean (h : element.IsPlain uri) :
    ∀ entry ∈ writtenAttributes element.attributes, IsClean entry.1 := by
  intro entry hentry
  obtain ⟨attr, hattr, rfl⟩ := List.mem_map.1 hentry
  exact isClean_of_isNcName (h.keys_isNcName attr hattr)

theorem Element.IsPlain.ofKey? (h : element.IsPlain uri) :
    ∀ entry ∈ writtenAttributes element.attributes, Declaration.ofKey? entry.1 = none := by
  intro entry hentry
  obtain ⟨attr, hattr, rfl⟩ := List.mem_map.1 hentry
  exact ofKey?_of_isNcName (h.keys_isNcName attr hattr) (h.keys_ne attr hattr)

end Tags

/-! ## Tokens that spell elements -/

/-- Tokens below open elements spell elements, whatever stands behind them. -/
def Reads (outside : Bool) (frames : List Event.Frame) (tokens : List Token)
    (elements : List Element) : Prop :=
  ∃ events, Spells outside events elements ∧ ∀ rest,
    Event.ofTokens frames (tokens ++ rest) =
      (events ++ (Event.ofTokens frames rest).1, (Event.ofTokens frames rest).2)

namespace Reads

variable {outside : Bool} {frames : List Event.Frame}

theorem nil : Reads outside frames [] [] := ⟨[], .nil, fun _ => rfl⟩

theorem append {xs ys : List Token} {first second : List Element}
    (hxs : Reads outside frames xs first) (hys : Reads outside frames ys second) :
    Reads outside frames (xs ++ ys) (first ++ second) := by
  obtain ⟨xevents, hxspells, hxs⟩ := hxs
  obtain ⟨yevents, hyspells, hys⟩ := hys
  refine ⟨xevents ++ yevents, hxspells.append hyspells, fun rest => ?_⟩
  rw [List.append_assoc, hxs, hys, List.append_assoc]

variable {scope : Scope} {content : List Char} {element : Element}

theorem empty (hextend : (Event.currentScope frames).extend (rawAttributes content).1 = .ok scope)
    (hread : Event.readElement scope content = element.tag) (hchildren : element.children = []) :
    Reads outside frames [.empty content] [element] := by
  refine ⟨[.empty element.tag], .empty hchildren .nil, fun rest => ?_⟩
  rw [List.singleton_append, Event.ofTokens, Event.ofToken, hextend]
  simp only [hread]
  rfl

theorem nested {tokens : List Token} {name : List Char} (hname : tagName content = name)
    (hextend : (Event.currentScope frames).extend (rawAttributes content).1 = .ok scope)
    (hread : Event.readElement scope content = element.tag)
    (hinner : Reads false ({ name, scope } :: frames) tokens element.children) :
    Reads outside frames (.start content :: tokens ++ [.close name]) [element] := by
  obtain ⟨events, hspells, hinner⟩ := hinner
  refine ⟨.start element.tag :: events ++ [.close], .nested hspells .nil, fun rest => ?_⟩
  have hclose : Event.ofTokens ({ name, scope } :: frames) (.close name :: rest) =
      (.close :: (Event.ofTokens frames rest).1, (Event.ofTokens frames rest).2) := by
    rw [Event.ofTokens, Event.ofToken]
    simp only [if_true]
  rw [List.append_assoc, List.cons_append, Event.ofTokens, Event.ofToken, hextend]
  simp only [hread, hname, hinner, hclose, List.append_assoc, List.cons_append, List.nil_append]

end Reads

section Written

variable {binding : Binding} {uri : List Char} {frames : List Event.Frame}

open Element (written writtenAll preorder preorderAll preorder_eq levels_eq declaring)

/-- A written element is spelled by its tokens when its tag is read back and so are its children. -/
theorem reads_written {outside : Bool} {scope : Scope} {element : Element}
    (hbinding : binding.Allowed) (hname : isNcName element.name.toList = true)
    (hextend : (Event.currentScope frames).extend (rawAttributes (tagContent
      (binding.qualify element.name.toList) (writtenAttributes element.attributes))).1 = .ok scope)
    (hread : Event.readElement scope (tagContent (binding.qualify element.name.toList)
      (writtenAttributes element.attributes)) = element.tag)
    (hchildren : Reads false ({ name := binding.qualify element.name.toList, scope } :: frames)
      (tokensAll (writtenAll binding element.children)) element.children) :
    Reads outside frames (element.written binding).tokens [element] := by
  obtain ⟨space, name, attributes, children⟩ := element
  cases children with
  | nil =>
    rw [written, writtenAll, tokens]
    exact .empty hextend hread rfl
  | cons child children =>
    rw [written, writtenAll, tokens]
    rw [writtenAll, tokensAll] at hchildren
    exact .nested (tagName_tagContent (Binding.isClean_qualify hbinding hname)) hextend hread
      hchildren

mutual

/-- Plain elements are spelled by their tokens wherever their namespace is bound. -/
theorem reads_plain (hbinding : binding.Allowed) : (element : Element) →
    (∀ x ∈ element.preorder, x.IsPlain uri) → {frames : List Event.Frame} →
    (Event.currentScope frames).Binds binding uri →
    Reads false frames (element.written binding).tokens [element]
  | ⟨space, name, attributes, children⟩, h, frames, hscope => by
    rw [preorder, List.forall_mem_cons] at h
    obtain ⟨hplain, hchildren⟩ := h
    obtain ⟨raws, hraws, hshows⟩ := rawAttributes_tagContent
      (Binding.isClean_qualify hbinding hplain.name_isNcName) hplain.keys_clean
    refine reads_written hbinding hplain.name_isNcName ?_
      (readElement_written hbinding hscope hplain.space_eq hplain.name_isNcName hplain.keys_clean
        hplain.keys_nodup) (reads_plainAll hbinding children hchildren hscope)
    rw [hraws]
    exact Scope.extend_of_shows hshows hplain.ofKey? _

theorem reads_plainAll (hbinding : binding.Allowed) : (elements : List Element) →
    (∀ x ∈ preorderAll elements, x.IsPlain uri) → {frames : List Event.Frame} →
    (Event.currentScope frames).Binds binding uri →
    Reads false frames (tokensAll (writtenAll binding elements)) elements
  | [], _, _, _ => by
    rw [writtenAll, tokensAll]
    exact .nil
  | element :: elements, h, frames, hscope => by
    rw [preorderAll, List.forall_mem_append] at h
    rw [writtenAll, tokensAll]
    exact (reads_plain hbinding element h.1 hscope).append
      (reads_plainAll hbinding elements h.2 hscope)

end

mutual

theorem clean_written (hbinding : binding.Allowed) : (element : Element) →
    (∀ x ∈ element.preorder, x.IsPlain uri) → (element.written binding).Clean
  | ⟨space, name, attributes, children⟩, h => by
    rw [preorder, List.forall_mem_cons] at h
    rw [written, Clean]
    exact ⟨⟨Binding.isClean_qualify hbinding h.1.name_isNcName, h.1.keys_clean⟩,
      clean_writtenAll hbinding children h.2⟩

theorem clean_writtenAll (hbinding : binding.Allowed) : (elements : List Element) →
    (∀ x ∈ preorderAll elements, x.IsPlain uri) → CleanAll (writtenAll binding elements)
  | [], _ => by
    rw [writtenAll, CleanAll]
    trivial
  | element :: elements, h => by
    rw [preorderAll, List.forall_mem_append] at h
    rw [writtenAll, CleanAll]
    exact ⟨clean_written hbinding element h.1, clean_writtenAll hbinding elements h.2⟩

end

/-! ## Documents -/

theorem writtenAttributes_declaring (element : Element) :
    writtenAttributes (element.declaring binding uri).attributes =
      (binding.key, uri) :: writtenAttributes element.attributes := by
  simp [declaring, writtenAttributes]

/-- The keys of the root of a document: the declaration and plain ones. -/
theorem keys_clean_declaring (hbinding : binding.Allowed) {element : Element}
    (h : element.IsPlain uri) :
    ∀ entry ∈ writtenAttributes (element.declaring binding uri).attributes, IsClean entry.1 := by
  rw [writtenAttributes_declaring, List.forall_mem_cons]
  exact ⟨Binding.isClean_key hbinding, h.keys_clean⟩

theorem keys_nodup_declaring {element : Element} (h : element.IsPlain uri) :
    ((element.declaring binding uri).attributes.map Prod.fst).Nodup := by
  rw [declaring, List.map_cons, List.nodup_cons]
  refine ⟨fun hmem => ?_, h.keys_nodup⟩
  obtain ⟨entry, hentry, hkey⟩ := List.mem_map.1 hmem
  have hncName := h.keys_isNcName entry hentry
  have hne := h.keys_ne entry hentry
  rw [hkey, String.toList_ofList] at hncName hne
  cases binding with
  | default => exact hne rfl
  | named before => exact not_mem_of_isNcName hncName List.mem_cons_self (by simp [Binding.key])

/-- The root of a document is spelled by its tokens: its declaration binds the namespace. -/
theorem reads_declaring (hbinding : binding.Allowed) (huri : Bindable uri)
    (hescape : Entity.escape uri = uri) {element : Element}
    (h : ∀ x ∈ element.preorder, x.IsPlain uri) :
    Reads true [] ((element.declaring binding uri).written binding).tokens
      [element.declaring binding uri] := by
  rw [preorder_eq, List.forall_mem_cons] at h
  obtain ⟨hplain, hchildren⟩ := h
  have hname : isNcName (element.declaring binding uri).name.toList = true := hplain.name_isNcName
  have hclean := keys_clean_declaring hbinding hplain
  obtain ⟨raws, hraws, hshows⟩ := rawAttributes_tagContent (Binding.isClean_qualify hbinding hname)
    hclean
  rw [writtenAttributes_declaring] at hshows
  obtain ⟨scope, hextend, hscope⟩ :=
    Scope.extend_declaration hbinding huri hescape hshows hplain.ofKey? Scope.initial
  refine reads_written hbinding hname (by rw [hraws]; exact hextend) ?_
    (reads_plainAll hbinding element.children hchildren hscope)
  exact readElement_written hbinding hscope hplain.space_eq hname hclean
    (keys_nodup_declaring hplain)

theorem clean_declaring (hbinding : binding.Allowed) {element : Element}
    (h : ∀ x ∈ element.preorder, x.IsPlain uri) :
    ((element.declaring binding uri).written binding).Clean := by
  rw [preorder_eq, List.forall_mem_cons] at h
  obtain ⟨hplain, hchildren⟩ := h
  rw [declaring, written, Clean]
  exact ⟨⟨Binding.isClean_qualify hbinding hplain.name_isNcName,
    keys_clean_declaring hbinding hplain⟩, clean_writtenAll hbinding element.children hchildren⟩

theorem print_eq_cons (element : WrittenElement) : ∃ rest, element.print = '<' :: rest := by
  obtain ⟨name, attributes, children⟩ := element
  cases children with
  | nil => exact ⟨_, rfl⟩
  | cons child children => exact ⟨_, rfl⟩

theorem readEvents_bracket {rest : List Char} {tokens : List Token} {events : List Event}
    (htokens : Token.scan ('<' :: rest) = (tokens, none))
    (hevents : Event.ofTokens [] tokens = (events, none)) :
    readEvents ('<' :: rest) = (events, none) := by
  have hmark : readEvents ('<' :: rest) =
      ((Event.ofTokens [] (Token.scan ('<' :: rest)).1).1,
        (Event.ofTokens [] (Token.scan ('<' :: rest)).1).2 <|>
          (Token.scan ('<' :: rest)).2.map .lexical) := rfl
  rw [hmark, htokens, hevents]
  rfl

theorem readDocument_of_readEvents {document : List Char} {events : List Event}
    (h : readEvents document = (events, none)) : readDocument document = buildTree events := by
  unfold readDocument buildTree
  rw [h]
  simp only
  cases Builder.initial.run events with
  | error e => rfl
  | ok builder => rfl

/-- A document of plain elements is read back. -/
theorem readDocument_print (hbinding : binding.Allowed) (huri : Bindable uri)
    (hescape : Entity.escape uri = uri) {element : Element}
    (h : ∀ x ∈ element.preorder, x.IsPlain uri) (hlevels : element.levels ≤ levelLimit) :
    readDocument ((element.declaring binding uri).written binding).print =
      .ok (element.declaring binding uri) := by
  have hscan := WrittenElement.scan_print _ (clean_declaring hbinding h) []
  obtain ⟨events, hspells, htokens⟩ := reads_declaring hbinding huri hescape h
  have hevents := htokens []
  simp only [List.append_nil, Token.scan, Event.ofTokens] at hscan hevents
  have hread : readEvents ((element.declaring binding uri).written binding).print =
      (events, none) := by
    obtain ⟨rest, hrest⟩ := print_eq_cons ((element.declaring binding uri).written binding)
    rw [hrest] at hscan ⊢
    exact readEvents_bracket hscan hevents
  rw [readDocument_of_readEvents hread]
  refine buildTree_of_spells hspells ?_
  rw [levels_eq] at hlevels ⊢
  exact hlevels

end Written

end FirmwareGen.Markup
