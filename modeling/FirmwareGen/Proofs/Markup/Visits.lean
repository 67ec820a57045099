-- SUMMARY: The loop that searches below an element, and which nodes of the tree it visits.
import FirmwareGen.Proofs.Markup.Traversal
import Mathlib.Tactic.Common
/-!
# Visits of a search

A search can be run as a loop over a stack of pending trees, whose next tree is the last one. What is
still to be visited is the traversal of the stack from its end, and each turn of the loop takes its
first element. So the loop ends, it visits every node of the tree once, in the order of the addresses
of the nodes, and it finds what `Element.search` finds.
-/

namespace FirmwareGen.Markup.Element

/-! ## The loop -/

/-- A search in progress. -/
structure Progress where
  /-- The trees still to be visited, the next one last. -/
  pending : List Element
  found : List Element

namespace Progress

variable {wanted : Element → Bool} {progress next last : Progress} {element : Element}
  {visited : List Element}

/-- One turn of the loop takes the last pending tree off the stack and puts the children of its
    element there in reverse, so that the first of them is next. -/
def turn? (wanted : Element → Bool) (progress : Progress) : Option (Element × Progress) :=
  progress.pending.getLast?.map fun element =>
    (element,
      { pending := progress.pending.dropLast ++ element.children.reverse
        found := if wanted element then progress.found ++ [element] else progress.found })

/-- The turns of the loop until nothing is pending, with the elements that they visit. -/
inductive Runs (wanted : Element → Bool) : Progress → List Element → Progress → Prop
  | done {progress : Progress} (idle : progress.turn? wanted = none) : Runs wanted progress [] progress
  | turn {progress next last : Progress} {element : Element} {visited : List Element}
      (taken : progress.turn? wanted = some (element, next)) (runs : Runs wanted next visited last) :
      Runs wanted progress (element :: visited) last

/-- The elements still to be visited, in order. -/
def upcoming (progress : Progress) : List Element := preorderAll progress.pending.reverse

theorem turn?_eq_none_iff : progress.turn? wanted = none ↔ progress.upcoming = [] := by
  obtain ⟨pending, found⟩ := progress
  rcases List.eq_nil_or_concat pending with rfl | ⟨front, element, rfl⟩
  · simp [turn?, upcoming, preorderAll]
  · simp [turn?, upcoming, preorderAll, preorder_eq]

/-- A turn visits the first of the upcoming elements and leaves the others. -/
theorem upcoming_of_turn? (h : progress.turn? wanted = some (element, next)) :
    progress.upcoming = element :: next.upcoming ∧
      next.found = progress.found ++ [element].filter wanted := by
  obtain ⟨pending, found⟩ := progress
  obtain ⟨top, htop, heq⟩ := Option.map_eq_some_iff.1 h
  cases heq
  obtain ⟨front, rfl⟩ := List.getLast?_eq_some_iff.1 htop
  constructor
  · rw [upcoming, upcoming, List.reverse_append, List.reverse_singleton, List.singleton_append,
      preorderAll, preorder_eq, List.dropLast_concat, List.reverse_append, List.reverse_reverse,
      preorderAll_append, List.cons_append]
  · by_cases hwanted : wanted element <;> simp [hwanted]

/-- The loop visits what is upcoming and finds what is wanted of it. -/
theorem Runs.eq (h : Runs wanted progress visited last) :
    visited = progress.upcoming ∧ last = ⟨[], progress.found ++ progress.upcoming.filter wanted⟩ := by
  induction h with
  | @done progress idle =>
    have hnone := turn?_eq_none_iff.1 idle
    obtain ⟨pending, found⟩ := progress
    have hpending : pending = [] := by
      rw [turn?, Option.map_eq_none_iff, List.getLast?_eq_none_iff] at idle
      exact idle
    subst hpending
    rw [hnone, List.filter_nil, List.append_nil]
    exact ⟨rfl, rfl⟩
  | turn taken _ ih =>
    obtain ⟨hupcoming, hfound⟩ := upcoming_of_turn? taken
    rw [hupcoming, ih.1, ih.2, hfound, List.append_assoc, ← List.filter_append, List.singleton_append]
    exact ⟨rfl, rfl⟩

/-- The loop ends, since each turn leaves one element less. -/
theorem exists_runs (wanted : Element → Bool) (progress : Progress) :
    ∃ visited last, Runs wanted progress visited last := by
  generalize hcount : progress.upcoming.length = count
  induction count generalizing progress with
  | zero => exact ⟨[], progress, .done (turn?_eq_none_iff.2 (List.length_eq_zero_iff.1 hcount))⟩
  | succ count ih =>
    cases hturn : progress.turn? wanted with
    | none =>
      rw [turn?_eq_none_iff.1 hturn] at hcount
      cases hcount
    | some taken =>
      obtain ⟨element, next⟩ := taken
      rw [(upcoming_of_turn? hturn).1, List.length_cons, Nat.add_right_cancel_iff] at hcount
      obtain ⟨visited, last, hruns⟩ := ih next hcount
      exact ⟨element :: visited, last, .turn hturn hruns⟩

theorem runs_iff :
    Runs wanted progress visited last ↔
      visited = progress.upcoming ∧
        last = ⟨[], progress.found ++ progress.upcoming.filter wanted⟩ := by
  constructor
  · exact Runs.eq
  · rintro ⟨rfl, rfl⟩
    obtain ⟨visited, last, hruns⟩ := exists_runs wanted progress
    obtain ⟨hvisited, hlast⟩ := hruns.eq
    rwa [hvisited, hlast] at hruns

end Progress

/-! ## Addresses -/

/-- The node at an address, which gives the number of a child for each level further down. -/
def descendant? : Element → List Nat → Option Element
  | element, [] => some element
  | element, i :: address => element.children[i]?.bind (descendant? · address)

mutual

/-- The addresses of the nodes of a tree, each before those below it. -/
def addresses : Element → List (List Nat)
  | ⟨_, _, _, children⟩ => [] :: addressesFrom 0 children

/-- The addresses of the nodes of trees that are numbered from `i` on. -/
def addressesFrom : Nat → List Element → List (List Nat)
  | _, [] => []
  | i, element :: rest => (addresses element).map (i :: ·) ++ addressesFrom (i + 1) rest

end

theorem addresses_eq (element : Element) :
    element.addresses = [] :: addressesFrom 0 element.children := by
  cases element; rw [addresses]

theorem mem_addressesFrom_iff {i : Nat} {elements : List Element} {address : List Nat} :
    address ∈ addressesFrom i elements ↔
      ∃ j element below, elements[j]? = some element ∧ address = (i + j) :: below ∧
        below ∈ element.addresses := by
  induction elements generalizing i with
  | nil => simp [addressesFrom]
  | cons element elements ih =>
    rw [addressesFrom, List.mem_append, List.mem_map, ih]
    constructor
    · rintro (⟨below, hbelow, rfl⟩ | ⟨j, other, below, hother, rfl, hbelow⟩)
      · exact ⟨0, element, below, rfl, rfl, hbelow⟩
      · exact ⟨j + 1, other, below, hother, by rw [Nat.add_right_comm, Nat.add_assoc], hbelow⟩
    · rintro ⟨j, other, below, hother, rfl, hbelow⟩
      cases j with
      | zero =>
        cases hother
        exact .inl ⟨below, hbelow, rfl⟩
      | succ j => exact .inr ⟨j, other, below, hother, by rw [Nat.add_right_comm, Nat.add_assoc], hbelow⟩

/-- The addresses are those that lead to a node. -/
theorem mem_addresses_iff {address : List Nat} {element : Element} :
    address ∈ element.addresses ↔ (element.descendant? address).isSome := by
  induction address generalizing element with
  | nil => simp [addresses_eq, descendant?]
  | cons i address ih =>
    rw [addresses_eq, List.mem_cons, mem_addressesFrom_iff, descendant?, Option.isSome_bind]
    constructor
    · rintro (heq | ⟨j, child, below, hchild, heq, hbelow⟩)
      · cases heq
      · rw [Nat.zero_add, List.cons.injEq] at heq
        obtain ⟨rfl, rfl⟩ := heq
        rw [hchild]
        exact ih.1 hbelow
    · intro hsome
      obtain ⟨child, hchild, hbelow⟩ := (Option.any_eq_true _ _).1 hsome
      exact .inr ⟨i, child, address, hchild, by rw [Nat.zero_add], ih.2 hbelow⟩

mutual

/-- The addresses are in lexicographic order. -/
theorem sorted_addresses : ∀ element : Element, element.addresses.Pairwise (· < ·)
  | ⟨_, _, _, children⟩ => by
    rw [addresses, List.pairwise_cons]
    refine ⟨fun address haddress => ?_, sorted_addressesFrom 0 children⟩
    obtain ⟨_, _, _, -, rfl, -⟩ := mem_addressesFrom_iff.1 haddress
    exact List.nil_lt_cons _ _

theorem sorted_addressesFrom : ∀ (i : Nat) (elements : List Element),
    (addressesFrom i elements).Pairwise (· < ·)
  | _, [] => by rw [addressesFrom]; exact .nil
  | i, element :: rest => by
    rw [addressesFrom, List.pairwise_append]
    refine ⟨?_, sorted_addressesFrom (i + 1) rest, ?_⟩
    · refine List.Pairwise.map _ (fun _ _ hlt => ?_) (sorted_addresses element)
      exact List.cons_lt_cons_iff.2 (.inr ⟨rfl, hlt⟩)
    · intro address haddress other hother
      obtain ⟨below, -, rfl⟩ := List.mem_map.1 haddress
      obtain ⟨j, _, _, -, rfl, -⟩ := mem_addressesFrom_iff.1 hother
      exact List.cons_lt_cons_iff.2 (.inl (by omega))

end

mutual

/-- The traversal meets the nodes in the order of their addresses. -/
theorem map_descendant?_addresses : ∀ element : Element,
    element.addresses.map element.descendant? = element.preorder.map some
  | ⟨space, name, attributes, children⟩ => by
    rw [addresses, preorder, List.map_cons, List.map_cons, descendant?, List.cons_inj_right]
    refine map_addressesFrom 0 children fun j child below hchild => ?_
    rw [descendant?, Nat.zero_add, hchild, Option.bind_some]

/-- The same for trees in a row, with any map that leads through them. -/
theorem map_addressesFrom {node? : List Nat → Option Element} : ∀ (i : Nat) (elements : List Element),
    (∀ j element below, elements[j]? = some element →
      node? ((i + j) :: below) = element.descendant? below) →
    (addressesFrom i elements).map node? = (preorderAll elements).map some
  | _, [], _ => by rw [addressesFrom, preorderAll]; rfl
  | i, element :: rest, h => by
    have hfirst : ((addresses element).map (i :: ·)).map node? = element.preorder.map some := by
      rw [List.map_map, ← map_descendant?_addresses element]
      exact List.map_congr_left fun below _ => h 0 element below rfl
    have hrest := map_addressesFrom (i + 1) rest fun j other below hother => by
      rw [Nat.add_assoc, Nat.add_comm 1 j]
      exact h (j + 1) other below hother
    rw [addressesFrom, preorderAll, List.map_append, List.map_append, hfirst, hrest]

end

/-! ## Search -/

/-- A search finds the wanted elements of the traversal. As a loop it ends after it has visited just
    the elements of the traversal, and these are the nodes of the tree, each one once, in the order
    of their addresses. -/
theorem visits_search (root : Element) (wanted : Element → Bool) :
    root.search wanted = root.preorder.filter wanted ∧
      (∀ visited last, Progress.Runs wanted ⟨[root], []⟩ visited last ↔
        visited = root.preorder ∧ last = ⟨[], root.search wanted⟩) ∧
      ∃ addresses : List (List Nat), addresses.Pairwise (· < ·) ∧
        (∀ address, address ∈ addresses ↔ (root.descendant? address).isSome) ∧
        addresses.map root.descendant? = root.preorder.map some := by
  refine ⟨search_eq wanted root, fun visited last => ?_, root.addresses, sorted_addresses root,
    fun _ => mem_addresses_iff, map_descendant?_addresses root⟩
  have hupcoming : Progress.upcoming ⟨[root], []⟩ = root.preorder := by
    rw [Progress.upcoming, List.reverse_singleton, preorderAll, preorderAll, List.append_nil]
  rw [Progress.runs_iff, hupcoming, search_eq, List.nil_append]

end FirmwareGen.Markup.Element
