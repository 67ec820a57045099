-- SUMMARY: Sequences of events that are accepted, told by the places of the events.
import FirmwareGen.Proofs.Markup.Trees
/-!
# Places of events

The place of an event is the number of elements that are open in front of it. Whether a builder takes
an event depends on nothing else but whether its root has begun, so a sequence is accepted just if each
event may have its place, one element begins outside all others and all elements end.
-/

namespace FirmwareGen.Markup

/-! ## Places of events -/

namespace Event

/-- The number of open elements after an event. -/
def depthAfter (depth : Nat) : Event → Nat
  | .start _ => depth + 1
  | .close => depth - 1
  | _ => depth

/-- The tag of an event that begins an element. -/
def tag? : Event → Option Tag
  | .start tag => some tag
  | .empty tag => some tag
  | _ => none

end Event

/-- Events with the number of elements that are open in front of each. -/
def located : Nat → List Event → List (Nat × Event)
  | _, [] => []
  | depth, event :: events => (depth, event) :: located (event.depthAfter depth) events

/-- Every end closes an element that is open, and so the innermost one. -/
def Matched (depth : Nat) (events : List Event) : Prop := (0, Event.close) ∉ located depth events

theorem matched_cons {depth : Nat} {event : Event} {events : List Event} :
    Matched depth (event :: events) ↔
      (event = .close → depth ≠ 0) ∧ Matched (event.depthAfter depth) events := by
  simp only [Matched, located, List.mem_cons, not_or, Prod.mk.injEq, not_and]
  exact and_congr_left' ⟨fun h hclose hdepth => h hdepth.symm hclose.symm,
    fun h hdepth hclose => h hclose.symm hdepth.symm⟩

theorem matched_ofTokens (frames : List Event.Frame) (tokens : List Token) :
    Matched frames.length (Event.ofTokens frames tokens).1 := by
  induction tokens generalizing frames with
  | nil => exact List.not_mem_nil
  | cons token tokens ih =>
    rw [Event.ofTokens]
    cases htoken : Event.ofToken frames token with
    | error e => exact List.not_mem_nil
    | ok taken =>
      obtain ⟨event, after⟩ := taken
      have hplace : (event = .close → frames.length ≠ 0) ∧
          event.depthAfter frames.length = after.length := by
        unfold Event.ofToken at htoken
        repeat' split at htoken
        all_goals cases htoken
        all_goals simp [Event.depthAfter]
      exact matched_cons.2 ⟨hplace.1, hplace.2 ▸ ih after⟩

/-- A reader closes no element that is not open. -/
theorem matched_readEvents (document : List Char) : Matched 0 (readEvents document).1 := by
  unfold readEvents
  exact matched_ofTokens [] _

/-! ## Steps of a builder -/

/-- What comes of an event that a builder takes. -/
inductive Builder.Takes (builder : Builder) : Event → Builder → Prop
  | start {tag : Tag} {element : OpenElement}
    (root : ¬ (builder.pending.isEmpty = true ∧ builder.root.isSome = true))
    (depth : builder.pending.length ≠ levelLimit) (opened : OpenElement.ofTag tag = .ok element) :
    Takes builder (.start tag) { builder with pending := element :: builder.pending }
  | empty {tag : Tag} {element : OpenElement} {after : Builder}
    (depth : builder.pending.length ≠ levelLimit) (opened : OpenElement.ofTag tag = .ok element)
    (attached : builder.attach element.close = .ok after) : Takes builder (.empty tag) after
  | close {element : OpenElement} {pending : List OpenElement} {after : Builder}
    (innermost : builder.pending = element :: pending)
    (attached : { builder with pending }.attach element.close = .ok after) :
    Takes builder .close after
  | stray (pending : builder.pending = []) : Takes builder .close builder
  | skip {event : Event} (skipped : event.Skipped builder.pending.isEmpty) :
    Takes builder event builder

theorem Builder.takes_of_step {builder after : Builder} {event : Event}
    (hstep : builder.step event = .ok after) : builder.Takes event after := by
  cases event with
  | start tag =>
    rw [step] at hstep
    split at hstep
    · cases hstep
    next hroot =>
    split at hstep
    · cases hstep
    next hdepth =>
    split at hstep
    · cases hstep
    next element hopened =>
    cases hstep
    exact .start (by simpa using hroot) hdepth hopened
  | empty tag =>
    rw [step] at hstep
    split at hstep
    · cases hstep
    next hdepth =>
    split at hstep
    · cases hstep
    next element hopened => exact .empty hdepth hopened hstep
  | close =>
    rw [step] at hstep
    split at hstep
    · next hpending =>
      cases hstep
      exact .stray hpending
    · next element pending hpending => exact .close hpending hstep
  | characters content =>
    rw [step] at hstep
    split at hstep
    · cases hstep
    next hquiet =>
    cases hstep
    exact .skip (by simpa [Event.Skipped] using hquiet)
  | cdata =>
    rw [step] at hstep
    split at hstep
    · cases hstep
    next hinside =>
    cases hstep
    exact .skip (by simpa [Event.Skipped] using hinside)
  | comment | instruction | declaration | doctype =>
    cases hstep
    exact .skip trivial

theorem Event.depthAfter_of_skipped {event : Event} {outside : Bool} (h : event.Skipped outside)
    (depth : Nat) : event.depthAfter depth = depth ∧ event.tag? = none := by
  cases event with
  | start | empty | close => exact h.elim
  | _ => exact ⟨rfl, rfl⟩

/-- A builder has as many open elements as the events that it takes. -/
theorem Builder.length_step {builder after : Builder} {event : Event}
    (hstep : builder.step event = .ok after) :
    after.pending.length = event.depthAfter builder.pending.length := by
  cases takes_of_step hstep with
  | start => rfl
  | empty depth opened attached => exact length_attach attached
  | close innermost attached =>
    rw [length_attach attached, innermost]
    rfl
  | stray pending =>
    rw [pending]
    rfl
  | skip skipped => rw [(Event.depthAfter_of_skipped skipped _).1]

/-! ## Acceptance by places -/

/-- The prefix of a tag is declared, and its attributes can be read. -/
def Tag.Readable (tag : Tag) : Prop :=
  (∀ name, tag.resolution ≠ .undeclared name) ∧ ∃ attributes, tag.attributes = .ok attributes

theorem OpenElement.exists_ofTag_iff {tag : Tag} :
    (∃ element, OpenElement.ofTag tag = .ok element) ↔ tag.Readable := by
  obtain ⟨resolution, name, attributes⟩ := tag
  unfold OpenElement.ofTag Tag.Readable
  cases resolution <;> cases attributes <;> simp

/-- The number of elements that begin outside all others. -/
def rootCount (depth : Nat) (events : List Event) : Nat :=
  (located depth events).countP fun place => place.1 = 0 ∧ place.2.tag?.isSome

/-- Events that form one tree, with each event in a place that it may have. -/
structure WellFormed (events : List Event) : Prop where
  root : rootCount 0 events = 1
  /-- All elements that begin end. -/
  closed : events.foldl Event.depthAfter 0 = 0
  levels : ∀ place ∈ located 0 events, place.2.tag?.isSome → place.1 < levelLimit
  tags : ∀ place ∈ located 0 events, ∀ tag ∈ place.2.tag?, tag.Readable
  texts : ∀ content, (0, Event.characters content) ∈ located 0 events →
    content.all Text.isAsciiBlank = true
  cdata : (0, Event.cdata) ∉ located 0 events

/-- An event may have a place with a number of open elements. -/
def Event.Fits (depth : Nat) : Event → Prop
  | .start tag => depth < levelLimit ∧ tag.Readable
  | .empty tag => depth < levelLimit ∧ tag.Readable
  | .characters content => depth = 0 → content.all Text.isAsciiBlank = true
  | .cdata => depth ≠ 0
  | .close | .comment | .instruction | .declaration | .doctype => True

theorem Event.fits_iff_skipped {event : Event} {pending : List OpenElement}
    (htag : event.tag? = none) (hclose : event ≠ .close) :
    event.Fits pending.length ↔ event.Skipped pending.isEmpty := by
  cases event with
  | start | empty => cases htag
  | close => exact absurd rfl hclose
  | characters content => simp [Fits, Skipped]
  | cdata => simp [Fits, Skipped]
  | _ => exact Iff.rfl

/-- The number of roots that begin with an event. -/
def Event.roots (depth : Nat) (event : Event) : Nat :=
  if depth = 0 ∧ event.tag?.isSome then 1 else 0

namespace Builder

/-- The number of roots that have begun. -/
def roots (builder : Builder) : Nat :=
  if builder.pending.isEmpty && builder.root.isNone then 0 else 1

/-- A builder has no finished root inside an element. -/
structure Valid (builder : Builder) : Prop where
  root : builder.pending ≠ [] → builder.root = none
  length : builder.pending.length ≤ levelLimit

theorem valid_attach {builder after : Builder} {element : Element} (h : builder.Valid)
    (hattach : builder.attach element = .ok after) : after.Valid ∧ after.roots = 1 := by
  obtain ⟨pending, root⟩ := builder
  cases pending with
  | nil =>
    cases root with
    | some root => cases hattach
    | none =>
      cases hattach
      exact ⟨⟨fun hne => absurd rfl hne, h.length⟩, rfl⟩
  | cons parent pending =>
    cases hattach
    exact ⟨⟨fun _ => h.root (List.cons_ne_nil _ _), h.length⟩, rfl⟩

theorem roots_add_le_iff {builder : Builder} {event : Event} :
    builder.roots + event.roots builder.pending.length ≤ 1 ↔
      (event.tag?.isSome → ¬ (builder.pending.isEmpty = true ∧ builder.root.isSome = true)) := by
  obtain ⟨pending, root⟩ := builder
  cases htag : event.tag?.isSome <;> cases pending <;> cases root <;>
    simp [roots, Event.roots, htag]

theorem exists_attach {builder : Builder} (hroot : builder.pending.isEmpty = true → builder.root = none)
    (element : Element) : ∃ after, builder.attach element = .ok after := by
  obtain ⟨pending, root⟩ := builder
  cases pending with
  | nil => exact ⟨_, by rw [attach, show root = none from hroot rfl]⟩
  | cons parent pending => exact ⟨_, rfl⟩

theorem fits_of_takes {builder after : Builder} {event : Event} (h : builder.Valid)
    (htakes : builder.Takes event after) :
    event.Fits builder.pending.length ∧
      (event.tag?.isSome → ¬ (builder.pending.isEmpty = true ∧ builder.root.isSome = true)) := by
  have hlength := h.length
  cases htakes with
  | start root depth opened =>
    exact ⟨⟨by omega, OpenElement.exists_ofTag_iff.1 ⟨_, opened⟩⟩, fun _ => root⟩
  | empty depth opened attached =>
    refine ⟨⟨by omega, OpenElement.exists_ofTag_iff.1 ⟨_, opened⟩⟩, fun _ hroot => ?_⟩
    rw [attach_of_root hroot.1 hroot.2] at attached
    cases attached
  | close | stray => exact ⟨trivial, by simp [Event.tag?]⟩
  | skip skipped =>
    have htag := (Event.depthAfter_of_skipped skipped 0).2
    have hclose : event ≠ .close := by
      rintro rfl
      exact skipped
    exact ⟨(Event.fits_iff_skipped htag hclose).2 skipped, by simp [htag]⟩

theorem exists_step_iff {builder : Builder} {event : Event} (h : builder.Valid)
    (hmatched : event = .close → builder.pending.length ≠ 0) :
    (∃ after, builder.step event = .ok after) ↔
      event.Fits builder.pending.length ∧
        builder.roots + event.roots builder.pending.length ≤ 1 := by
  rw [roots_add_le_iff]
  constructor
  · rintro ⟨after, hstep⟩
    exact fits_of_takes h (takes_of_step hstep)
  · rintro ⟨hfits, hroot⟩
    cases event with
    | start tag =>
      obtain ⟨element, hopened⟩ := OpenElement.exists_ofTag_iff.2 hfits.2
      have hdepth : builder.pending.length ≠ levelLimit := Nat.ne_of_lt hfits.1
      exact ⟨_, by rw [step, if_neg (by simpa using hroot rfl), if_neg hdepth, hopened]⟩
    | empty tag =>
      obtain ⟨element, hopened⟩ := OpenElement.exists_ofTag_iff.2 hfits.2
      have hdepth : builder.pending.length ≠ levelLimit := Nat.ne_of_lt hfits.1
      rw [step, if_neg hdepth, hopened]
      exact exists_attach (fun hpending => by simpa [hpending] using hroot rfl) element.close
    | close =>
      obtain ⟨pending, root⟩ := builder
      cases pending with
      | nil => exact absurd rfl (hmatched rfl)
      | cons element pending =>
        have hroot : root = none := h.root (List.cons_ne_nil _ _)
        have hattach : ∃ after, attach { pending, root } element.close = .ok after :=
          exists_attach (fun _ => hroot) element.close
        exact hattach
    | _ => exact ⟨_, step_skipped ((Event.fits_iff_skipped rfl (by simp)).1 hfits)⟩

/-- An event that begins an element, or comes inside one, leaves a root that has begun. -/
theorem one_le_roots_add {builder : Builder} {event : Event}
    (h : event.tag?.isSome = true ∨ builder.pending ≠ []) :
    1 ≤ builder.roots + event.roots builder.pending.length := by
  obtain ⟨pending, root⟩ := builder
  cases pending with
  | nil => simp [Event.roots, h.resolve_right (fun hne => hne rfl)]
  | cons parent pending => simp [roots]

theorem valid_step {builder after : Builder} {event : Event} (h : builder.Valid)
    (hmatched : event = .close → builder.pending.length ≠ 0)
    (hstep : builder.step event = .ok after) :
    after.Valid ∧ after.roots = builder.roots + event.roots builder.pending.length := by
  have hroots : (event.tag?.isSome = true ∨ builder.pending ≠ []) →
      builder.roots + event.roots builder.pending.length = 1 := fun hbegun =>
    le_antisymm ((exists_step_iff h hmatched).1 ⟨after, hstep⟩).2 (one_le_roots_add hbegun)
  cases takes_of_step hstep with
  | start root depth opened =>
    rw [hroots (.inl rfl)]
    refine ⟨⟨fun _ => ?_, Nat.lt_of_le_of_ne h.length depth⟩, rfl⟩
    by_cases hpending : builder.pending = []
    · simpa [hpending] using root
    · exact h.root hpending
  | empty depth opened attached =>
    rw [hroots (.inl rfl)]
    exact valid_attach h attached
  | @close element pending after innermost attached =>
    have hne : builder.pending ≠ [] := by simp [innermost]
    have hlength := h.length
    rw [innermost] at hlength
    have hvalid : Valid { builder with pending } :=
      ⟨fun _ => h.root hne, Nat.le_of_succ_le hlength⟩
    rw [hroots (.inr hne)]
    exact valid_attach hvalid attached
  | stray pending => exact absurd (by rw [pending]; rfl) (hmatched rfl)
  | skip skipped => exact ⟨h, by simp [Event.roots, (Event.depthAfter_of_skipped skipped 0).2]⟩

/-- A builder takes events and has one closed root in the end. -/
def Accepts (builder : Builder) (events : List Event) : Prop :=
  ∃ after root, builder.run events = .ok after ∧ after.finish = .ok root

theorem accepts_cons {builder : Builder} {event : Event} {events : List Event} :
    builder.Accepts (event :: events) ↔
      ∃ next, builder.step event = .ok next ∧ next.Accepts events := by
  rw [Accepts, run]
  cases builder.step event with
  | error e => simp
  | ok next => simp [Accepts]

theorem rootCount_cons {depth : Nat} {event : Event} {events : List Event} :
    rootCount depth (event :: events) =
      event.roots depth + rootCount (event.depthAfter depth) events := by
  rw [rootCount, located, List.countP_cons, Nat.add_comm]
  simp [Event.roots, rootCount]

/-- A run ends with one closed root just if each event fits its place and one root begins. -/
theorem accepts_iff {builder : Builder} {events : List Event} (h : builder.Valid)
    (hmatched : Matched builder.pending.length events) :
    builder.Accepts events ↔
      (∀ place ∈ located builder.pending.length events, place.2.Fits place.1) ∧
        builder.roots + rootCount builder.pending.length events = 1 ∧
        events.foldl Event.depthAfter builder.pending.length = 0 := by
  induction events generalizing builder with
  | nil =>
    obtain ⟨pending, root⟩ := builder
    cases pending <;> cases root <;> simp [Accepts, run, finish, located, roots, rootCount]
  | cons event events ih =>
    obtain ⟨hevent, hmatched⟩ := matched_cons.1 hmatched
    have hnext : ∀ next, builder.step event = .ok next →
        (next.Accepts events ↔
          (∀ place ∈ located (event.depthAfter builder.pending.length) events,
              place.2.Fits place.1) ∧
            builder.roots + event.roots builder.pending.length +
              rootCount (event.depthAfter builder.pending.length) events = 1 ∧
            events.foldl Event.depthAfter (event.depthAfter builder.pending.length) = 0) := by
      intro next hstep
      obtain ⟨hvalid, hroots⟩ := valid_step h hevent hstep
      rw [← length_step hstep, ← hroots]
      exact ih hvalid (length_step hstep ▸ hmatched)
    rw [accepts_cons, rootCount_cons, located, List.forall_mem_cons, List.foldl_cons,
      ← Nat.add_assoc]
    constructor
    · rintro ⟨next, hstep, haccepts⟩
      obtain ⟨hplaces, hroots, hclosed⟩ := (hnext next hstep).1 haccepts
      exact ⟨⟨((exists_step_iff h hevent).1 ⟨next, hstep⟩).1, hplaces⟩, hroots, hclosed⟩
    · rintro ⟨⟨hfits, hplaces⟩, hroots, hclosed⟩
      obtain ⟨next, hstep⟩ := (exists_step_iff h hevent).2 ⟨hfits, by omega⟩
      exact ⟨next, hstep, (hnext next hstep).2 ⟨hplaces, hroots, hclosed⟩⟩

end Builder

theorem Event.fits_iff {depth : Nat} {event : Event} :
    event.Fits depth ↔
      (event.tag?.isSome → depth < levelLimit) ∧ (∀ tag ∈ event.tag?, tag.Readable) ∧
        (∀ content, (depth, event) = (0, .characters content) →
          content.all Text.isAsciiBlank = true) ∧
        (depth, event) ≠ (0, .cdata) := by
  cases event <;> simp [Fits, tag?]

theorem wellFormed_iff {events : List Event} :
    WellFormed events ↔
      (∀ place ∈ located 0 events, place.2.Fits place.1) ∧ rootCount 0 events = 1 ∧
        events.foldl Event.depthAfter 0 = 0 := by
  constructor
  · intro h
    refine ⟨fun place hplace => Event.fits_iff.2 ⟨h.levels place hplace, h.tags place hplace,
      fun content hcontent => h.texts content (hcontent ▸ hplace), fun hcdata => ?_⟩, h.root, h.closed⟩
    exact h.cdata (hcdata ▸ hplace)
  · rintro ⟨hplaces, hroot, hclosed⟩
    have hfits := fun place hplace => Event.fits_iff.1 (hplaces place hplace)
    exact
      { root := hroot
        closed := hclosed
        levels := fun place hplace => (hfits place hplace).1
        tags := fun place hplace => (hfits place hplace).2.1
        texts := fun content hplace => (hfits _ hplace).2.2.1 content rfl
        cdata := fun hplace => (hfits _ hplace).2.2.2 rfl }

/-- Just well-formed sequences of events are accepted. -/
theorem exists_buildTree_iff {events : List Event} (hmatched : Matched 0 events) :
    (∃ root, buildTree events = .ok root) ↔ WellFormed events := by
  have hvalid : Builder.initial.Valid := ⟨fun hne => absurd rfl hne, Nat.zero_le _⟩
  have haccepts : (∃ root, buildTree events = .ok root) ↔ Builder.initial.Accepts events := by
    unfold buildTree Builder.Accepts
    cases Builder.initial.run events with
    | error e => simp
    | ok after => simp
  rw [haccepts, Builder.accepts_iff hvalid hmatched, wellFormed_iff]
  simp [Builder.initial, Builder.roots]

end FirmwareGen.Markup
