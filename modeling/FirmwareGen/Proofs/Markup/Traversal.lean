-- SUMMARY: The search below an element visits every element once, in document order.
import FirmwareGen.Markup.Element
/-!
# Traversal of element trees

The search keeps a list of pending trees and puts the children of an element in front of it. What
it finds are the wanted elements of the recursive traversal of the pending trees.
-/

namespace FirmwareGen.Markup.Element

/-! ## Recursive traversal -/

theorem preorder_eq (element : Element) :
    element.preorder = element :: preorderAll element.children := by
  cases element; rw [preorder]

theorem preorderAll_append (xs ys : List Element) :
    preorderAll (xs ++ ys) = preorderAll xs ++ preorderAll ys := by
  induction xs with
  | nil => rfl
  | cons element xs ih => rw [List.cons_append, preorderAll, preorderAll, ih, List.append_assoc]

theorem levels_eq (element : Element) : element.levels = 1 + levelsAll element.children := by
  cases element; rw [levels]

theorem levelsAll_append (xs ys : List Element) :
    levelsAll (xs ++ ys) = max (levelsAll xs) (levelsAll ys) := by
  induction xs with
  | nil => rw [List.nil_append, levelsAll, Nat.zero_max]
  | cons element xs ih => rw [List.cons_append, levelsAll, levelsAll, ih, Nat.max_assoc]

/-! ## Search -/

/-- A search finds the wanted elements of the pending trees in document order. -/
theorem searchAll_eq (wanted : Element → Bool) (pending : List Element) :
    searchAll wanted pending = (preorderAll pending).filter wanted := by
  induction pending using searchAll.induct wanted with
  | case1 => rw [searchAll, preorderAll, List.filter_nil]
  | case2 element pending hwanted ih =>
    rw [searchAll, ih, preorderAll_append, preorderAll, preorder_eq, List.cons_append,
      List.filter_cons, if_pos hwanted]
  | case3 element pending hwanted ih =>
    rw [searchAll, ih, preorderAll_append, preorderAll, preorder_eq, List.cons_append,
      List.filter_cons, if_neg hwanted]

theorem search_eq (wanted : Element → Bool) (element : Element) :
    element.search wanted = element.preorder.filter wanted := by
  rw [search, searchAll_eq, preorderAll, preorderAll, List.append_nil]

end FirmwareGen.Markup.Element
