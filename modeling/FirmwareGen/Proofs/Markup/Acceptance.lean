-- SUMMARY: Which sequences of events are accepted as a document, and which tree they give.
import FirmwareGen.Proofs.Markup.Places
/-!
# Acceptance of documents

A sequence of events that is accepted gives the tree that it spells. In one direction the builder is
run over what spells a tree. In the other, what a builder has taken so far spells its root, or the
finished children of its open elements with their tags in between; each step keeps that.
-/

namespace FirmwareGen.Markup

open Element (levelsAll levelsAll_append levels_eq)

/-! ## Trees that are too deep -/

namespace Builder

variable {builder : Builder}

theorem step_start_of_limit (tag : Tag) (h : builder.pending.length = levelLimit) :
    builder.step (.start tag) = .error .tooDeep := by
  have hopen : builder.pending.isEmpty = false := by
    rw [List.isEmpty_eq_false_iff_exists_mem]
    exact List.exists_mem_of_length_pos (h ▸ by decide)
  rw [step, hopen, if_neg (by simp), if_pos h]

theorem step_empty_of_limit (tag : Tag) (h : builder.pending.length = levelLimit) :
    builder.step (.empty tag) = .error .tooDeep := by
  rw [step, if_pos h]

/-- What is too deep behind another element is not outside the root. -/
theorem eq_false_of_tooDeep {outside : Bool} {element : Element} {elements : List Element}
    {depth : Nat} (hroot : outside = true → (element :: elements).length ≤ 1)
    (hdepth : depth ≤ levelLimit) (hlevels : levelLimit < depth + levelsAll elements) :
    outside = false := by
  cases outside with
  | false => rfl
  | true =>
    have hnil : elements = [] := List.eq_nil_of_length_eq_zero (by simpa using hroot rfl)
    rw [hnil, levelsAll] at hlevels
    omega

/-- Running over events that spell elements fails if these lie too deep. Outside the root there may be
    one element. -/
theorem run_tooDeep {outside : Bool} {events : List Event} {elements : List Element}
    (h : Spells outside events elements) (houtside : builder.pending.isEmpty = outside)
    (hroot : outside = true → builder.root = none) (hone : outside = true → elements.length ≤ 1)
    (hdepth : builder.pending.length ≤ levelLimit)
    (hlevels : levelLimit < builder.pending.length + levelsAll elements) :
    builder.run events = .error .tooDeep := by
  induction h generalizing builder with
  | nil =>
    rw [levelsAll] at hlevels
    omega
  | skip hskip _ ih =>
    rw [run, step_skipped (by rw [houtside]; exact hskip)]
    exact ih houtside hroot hone hdepth hlevels
  | @empty outside element events elements hchildren _ ih =>
    rw [run]
    by_cases hlimit : builder.pending.length = levelLimit
    · rw [step_empty_of_limit _ hlimit]
    · obtain ⟨after, hattach⟩ := exists_attach (fun h => hroot (houtside ▸ h)) element
      have hlength := length_attach hattach
      -- The element itself is not too deep, so one behind it is.
      have hrest : levelLimit < after.pending.length + levelsAll elements := by
        simp only [levelsAll, levels_eq, hchildren] at hlevels
        omega
      have hinside := eq_false_of_tooDeep hone (hlength ▸ hdepth) hrest
      rw [step_empty hchildren hlimit, hattach]
      exact ih ((isEmpty_attach hattach).trans houtside) (by simp [hinside]) (by simp [hinside])
        (hlength ▸ hdepth) hrest
  | @nested outside element inner events elements hinner _ ihinner ih =>
    rw [List.cons_append, run]
    by_cases hlimit : builder.pending.length = levelLimit
    · rw [step_start_of_limit _ hlimit]
    · have hopen : (builder.enter element).pending.length = builder.pending.length + 1 := rfl
      rw [step_start element (fun h => by simp [hroot (houtside ▸ h.1)] at h) hlimit]
      by_cases hfits : builder.pending.length + 1 + levelsAll element.children ≤ levelLimit
      · obtain ⟨after, hattach⟩ := exists_attach (fun h => hroot (houtside ▸ h)) element
        have hlength := length_attach hattach
        have hrest : levelLimit < after.pending.length + levelsAll elements := by
          simp only [levelsAll, levels_eq] at hlevels
          omega
        have hinside := eq_false_of_tooDeep hone (hlength ▸ hdepth) hrest
        simp only [run_enter (run_spells hinner rfl (hopen ▸ hfits)), hattach]
        exact ih ((isEmpty_attach hattach).trans houtside) (by simp [hinside]) (by simp [hinside])
          (hlength ▸ hdepth) hrest
      · have htooDeep : (builder.enter element).run inner = .error .tooDeep :=
          ihinner rfl (by simp) (by simp) (by omega) (by omega)
        simp only [run_append, htooDeep]

end Builder

/-- Events that spell one element are refused if it is too deep. -/
theorem buildTree_of_tooDeep {events : List Event} {root : Element}
    (h : Spells true events [root]) (hlevels : levelLimit < root.levels) :
    buildTree events = .error .tooDeep := by
  have hrun : Builder.initial.run events = .error .tooDeep :=
    Builder.run_tooDeep h rfl (fun _ => rfl) (fun _ => le_rfl) (Nat.zero_le _) (by
      simpa [Builder.initial, levelsAll] using hlevels)
  rw [buildTree, hrun]

/-! ## What a builder has taken -/

/-- The tag of an open element is the one that it was opened by, and at first it has no children. -/
theorem OpenElement.ofTag_eq_ok {tag : Tag} {element : OpenElement}
    (h : OpenElement.ofTag tag = .ok element) :
    element.close.children = [] ∧ element.close.tag = tag := by
  obtain ⟨resolution, name, attributes⟩ := tag
  unfold OpenElement.ofTag at h
  cases resolution <;> cases attributes <;> cases h <;> exact ⟨rfl, rfl⟩

/-- An open element with one more finished child. -/
def OpenElement.adopt (parent : OpenElement) (element : Element) : OpenElement :=
  { parent with finished := element :: parent.finished }

theorem OpenElement.children_adopt (parent : OpenElement) (element : Element) :
    (parent.adopt element).close.children = parent.close.children ++ [element] :=
  List.reverse_cons

/-- Events that spell the root of a builder or, with the tags of its open elements, the finished
    children of these. No element among them is too deep. -/
inductive Holds : List Event → Builder → Prop
  | outside {events : List Event} {root : Option Element} (spells : Spells true events root.toList)
    (levels : levelsAll root.toList ≤ levelLimit) : Holds events { pending := [], root }
  | inside {events inner : List Event} {element : OpenElement} {pending : List OpenElement}
    {root : Option Element} (outer : Holds events { pending, root })
    (spells : Spells false inner element.close.children)
    (levels : pending.length + element.close.levels ≤ levelLimit) :
    Holds (events ++ .start element.close.tag :: inner) { pending := element :: pending, root }

namespace Holds

variable {events more : List Event} {event : Event} {builder after : Builder}

theorem initial : Holds [] Builder.initial := .outside .nil (Nat.zero_le _)

theorem length_le (h : Holds events builder) : builder.pending.length ≤ levelLimit := by
  cases h with
  | outside => exact Nat.zero_le _
  | inside outer spells levels =>
    rw [levels_eq] at levels
    rw [List.length_cons]
    omega

theorem skip (h : Holds events builder) (hskip : event.Skipped builder.pending.isEmpty) :
    Holds (events ++ [event]) builder := by
  cases h with
  | outside spells levels => exact .outside (by simpa using spells.append (.skip hskip .nil)) levels
  | inside outer spells levels =>
    rw [List.append_assoc, List.cons_append]
    exact .inside outer (by simpa using spells.append (.skip hskip .nil)) levels

/-- An element that is attached is spelled behind what the builder holds. -/
theorem attach {element : Element} (h : Holds events builder)
    (hspells : Spells builder.pending.isEmpty more [element])
    (hlevels : builder.pending.length + element.levels ≤ levelLimit)
    (hattach : builder.attach element = .ok after) : Holds (events ++ more) after := by
  cases h with
  | @outside events root spells levels =>
    cases root with
    | some root => cases hattach
    | none =>
      cases hattach
      exact .outside (spells.append hspells) (by simpa [levelsAll] using hlevels)
  | @inside events inner parent pending root outer spells levels =>
    cases hattach
    rw [List.append_assoc, List.cons_append]
    have hinner : Spells false (inner ++ more) (parent.adopt element).close.children := by
      rw [OpenElement.children_adopt]
      exact spells.append hspells
    have hdepth : pending.length + (parent.adopt element).close.levels ≤ levelLimit := by
      rw [levels_eq] at levels ⊢
      rw [List.length_cons] at hlevels
      rw [OpenElement.children_adopt, levelsAll_append, levelsAll, levelsAll]
      omega
    exact .inside outer hinner hdepth

/-- A step goes on with what the builder holds. -/
theorem step (h : Holds events builder) (hmatched : event = .close → builder.pending.length ≠ 0)
    (hstep : builder.step event = .ok after) : Holds (events ++ [event]) after := by
  have hlength := h.length_le
  have hlevels : ∀ element : OpenElement, element.close.children = [] →
      builder.pending.length ≠ levelLimit →
      builder.pending.length + element.close.levels ≤ levelLimit := by
    intro element hchildren hdepth
    rw [levels_eq, hchildren, levelsAll]
    omega
  cases Builder.takes_of_step hstep with
  | @start tag element root depth opened =>
    obtain ⟨hchildren, rfl⟩ := OpenElement.ofTag_eq_ok opened
    exact .inside h (hchildren ▸ .nil) (hlevels element hchildren depth)
  | @empty tag element after depth opened attached =>
    obtain ⟨hchildren, rfl⟩ := OpenElement.ofTag_eq_ok opened
    exact h.attach (.empty hchildren .nil) (hlevels element hchildren depth) attached
  | @close element pending after innermost attached =>
    obtain ⟨_, root⟩ := builder
    cases innermost
    cases h with
    | @inside events inner element pending root outer spells levels =>
      have hspells : Spells pending.isEmpty (.start element.close.tag :: inner ++ [.close])
          [element.close] := .nested spells .nil
      rw [List.append_assoc]
      exact outer.attach hspells levels attached
  | stray pending => exact absurd (by rw [pending]; rfl) (hmatched rfl)
  | skip skipped => exact h.skip skipped

/-- A run goes on with what the builder holds. -/
theorem run (h : Holds events builder) (hmatched : Matched builder.pending.length more)
    (hrun : builder.run more = .ok after) : Holds (events ++ more) after := by
  induction more generalizing events builder with
  | nil =>
    cases hrun
    rwa [List.append_nil]
  | cons event more ih =>
    obtain ⟨hevent, hmatched⟩ := matched_cons.1 hmatched
    rw [Builder.run] at hrun
    split at hrun
    · cases hrun
    next between hstep =>
    rw [List.append_cons]
    exact ih (h.step hevent hstep) (Builder.length_step hstep ▸ hmatched) hrun

end Holds

/-- An accepted sequence of events spells its tree. -/
theorem spells_of_buildTree {events : List Event} {root : Element} (hmatched : Matched 0 events)
    (h : buildTree events = .ok root) : Spells true events [root] ∧ root.levels ≤ levelLimit := by
  unfold buildTree at h
  split at h
  · cases h
  next builder hrun =>
  have hholds := Holds.initial.run hmatched hrun
  unfold Builder.finish at h
  split at h
  · cases h
  · cases h
  next found hpending hroot =>
  cases h
  cases hholds with
  | inside => cases hpending
  | outside spells levels =>
    cases hroot
    exact ⟨spells, by simpa [levelsAll] using levels⟩

/-! ## Events of a tree -/

mutual

/-- A tree is spelled by its own events. -/
theorem spells_events (outside : Bool) : (element : Element) →
    Spells outside element.events [element]
  | ⟨space, name, attributes, children⟩ => by
    rw [Element.events]
    exact @Spells.nested outside ⟨space, name, attributes, children⟩ _ [] []
      (spells_eventsAll children) .nil

theorem spells_eventsAll : (elements : List Element) →
    Spells false (Element.eventsAll elements) elements
  | [] => by
    rw [Element.eventsAll]
    exact .nil
  | element :: elements => by
    rw [Element.eventsAll]
    exact (spells_events false element).append (spells_eventsAll elements)

end

/-- Just well-formed sequences of events are accepted, and give the tree that they spell. A tree that is
    too deep is refused for that. -/
theorem buildTree_eq_ok_iff {events : List Event} (hmatched : Matched 0 events) :
    ((∃ root, buildTree events = .ok root) ↔ WellFormed events) ∧
    (∀ root, buildTree events = .ok root ↔
      Spells true events [root] ∧ root.levels ≤ levelLimit) ∧
    (∀ root, Spells true events [root] → levelLimit < root.levels →
      buildTree events = .error .tooDeep) ∧
    (∀ root : Element, buildTree root.events =
      if root.levels ≤ levelLimit then .ok root else .error .tooDeep) ∧
    ∀ document, Matched 0 (readEvents document).1 ∧
      ((readEvents document).2 = none →
        readDocument document = buildTree (readEvents document).1) := by
  refine ⟨exists_buildTree_iff hmatched,
    fun root => ⟨spells_of_buildTree hmatched, fun h => buildTree_of_spells h.1 h.2⟩,
    fun root => buildTree_of_tooDeep, fun root => ?_,
    fun document => ⟨matched_readEvents document,
      fun hread => readDocument_of_readEvents (Prod.ext rfl hread)⟩⟩
  split
  · next hlevels => exact buildTree_of_spells (spells_events true root) hlevels
  · next hlevels => exact buildTree_of_tooDeep (spells_events true root) (Nat.lt_of_not_le hlevels)

/-- A root with a comment in front, a text inside and a child without content. -/
def sampleEvents : List Event :=
  [.comment, .start { resolution := .unbound, name := "a", attributes := .ok [] },
   .characters ['t'],
   .empty { resolution := .bound "u", name := "b", attributes := .ok [("k", "v")] }, .close,
   .characters ['\n']]

theorem buildTree_eq_ok_iff_sampleEvents :
    Matched 0 sampleEvents ∧ WellFormed sampleEvents ∧
      Spells true sampleEvents [⟨none, "a", [], [⟨some "u", "b", [("k", "v")], []⟩]⟩] := by
  have hmatched : Matched 0 sampleEvents := by
    simp [Matched, sampleEvents, located, Event.depthAfter]
  have hbuild : buildTree sampleEvents =
      .ok ⟨none, "a", [], [⟨some "u", "b", [("k", "v")], []⟩]⟩ := rfl
  have hall := buildTree_eq_ok_iff hmatched
  exact ⟨hmatched, hall.1.1 ⟨_, hbuild⟩, ((hall.2.1 _).1 hbuild).1⟩

end FirmwareGen.Markup
