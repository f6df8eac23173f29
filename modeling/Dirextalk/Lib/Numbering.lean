import Dirextalk.Lib.Fallible
import Mathlib.Algebra.Order.BigOperators.Group.List

/-!
# Items that are numbered one by one

The items with numbers in an interval stand side by side, and a list is numbered one by one
exactly if its parts are.
-/

namespace Dirextalk.Lib

variable {α : Type} {items : List α}

variable {number : α → Nat}

/-- Of items numbered one by one, those in an interval stand side by side. -/
theorem filter_numbered {start count : Nat} (numbers : items.map number = List.range' start count)
    (low high : Nat) :
    (items.filter fun item => decide (low < number item) && decide (number item ≤ high)) =
      (items.take (high + 1 - start)).drop (low + 1 - start) := by
  induction items generalizing start count with
  | nil => simp
  | cons item rest ih =>
    cases count with
    | zero => cases numbers
    | succ count =>
      rw [List.map_cons, List.range'_succ] at numbers
      obtain ⟨first, numbers⟩ := List.cons.inj numbers
      rw [List.filter_cons, first, ih numbers]
      by_cases above : start ≤ high
      · have more : high + 1 - start = high + 1 - (start + 1) + 1 := by omega
        rw [more, List.take_succ_cons]
        by_cases below : low < start
        · have none : low + 1 - start = 0 := by omega
          have none' : low + 1 - (start + 1) = 0 := by omega
          simp [above, below, none, none']
        · have later : low + 1 - start = low + 1 - (start + 1) + 1 := by omega
          simp [below, later]
      · have none : high + 1 - start = 0 := by omega
        have none' : high + 1 - (start + 1) = 0 := by omega
        simp [above, none, none']

/-- Items are numbered one by one exactly if both parts of them are. -/
theorem numbered_append {start : Nat} {others : List α} :
    (items ++ others).map number = List.range' start (items ++ others).length ↔
      items.map number = List.range' start items.length ∧
        others.map number = List.range' (start + items.length) others.length := by
  rw [List.map_append, List.length_append, ← List.range'_append_1]
  constructor
  · intro same
    exact List.append_inj same (by rw [List.length_map, List.length_range'])
  · intro ⟨left, right⟩
    rw [left, right]

/-- The number of an item that is numbered one by one. -/
theorem number_bounds {start : Nat} (numbers : items.map number = List.range' start items.length)
    {item : α} (listed : item ∈ items) :
    start ≤ number item ∧ number item < start + items.length := by
  have member : number item ∈ items.map number := List.mem_map_of_mem listed
  rwa [numbers, List.mem_range'_1] at member

end Dirextalk.Lib
