import Mathlib.Data.List.Nodup
import Mathlib.Data.List.Range

/-!
# Linked lists as cells with identities

A doubly linked list is the sequence of its live cells, each with an identity and a value.
An iterator names a cell; erasing a cell invalidates the iterators that name it, and reading
through or advancing from such an iterator is an error. Values alone cannot show that error,
so a loop that erases while it traverses is run on cells. Code that only erases by value
depends on the values alone, which `values_eraseFirst` states.
-/

/-- A linked list as its live cells in order; no identity names two cells. -/
structure CellList (α : Type) where
  /-- Identity and value of each live cell. -/
  cells : List (Nat × α)
  /-- Identities are pairwise distinct. -/
  distinct : (cells.map Prod.fst).Nodup

namespace CellList

variable {α : Type}

/-- A list of values, in fresh cells. -/
def ofList (values : List α) : CellList α where
  cells := values.zipIdx.map Prod.swap
  distinct := by
    have identities : (values.zipIdx.map Prod.swap).map Prod.fst = List.range values.length := by
      rw [List.map_map, show Prod.fst ∘ Prod.swap = (Prod.snd : α × Nat → Nat) from rfl,
        List.zipIdx_map_snd, List.range_eq_range']
    rw [identities]
    exact List.nodup_range

/-- The values in order. -/
def values (list : CellList α) : List α := list.cells.map Prod.snd

/-- Fresh cells hold the given values. -/
@[simp] theorem values_ofList (values : List α) : (ofList values).values = values := by
  simp only [ofList, CellList.values, List.map_map]
  rw [show Prod.snd ∘ Prod.swap = (Prod.fst : α × Nat → α) from rfl, List.zipIdx_map_fst]

/-- Iterator to the first cell, or the end. -/
def first (list : CellList α) : Option Nat := list.cells.head?.map Prod.fst

/-- The value read through an iterator; nothing when the cell is not live. -/
def read (list : CellList α) (cell : Nat) : Option α :=
  (list.cells.find? fun entry => entry.1 = cell).map Prod.snd

/-- The iterator after a cell of a sequence; nothing when the cell is not in it. -/
def nextIn : List (Nat × α) → Nat → Option (Option Nat)
  | [], _ => none
  | entry :: rest, cell =>
    if entry.1 = cell then some (rest.head?.map Prod.fst) else nextIn rest cell

/-- Advance an iterator; nothing when its cell is not live. -/
def next (list : CellList α) (cell : Nat) : Option (Option Nat) := nextIn list.cells cell

/-- Unlink a cell, invalidating the iterators that name it. -/
def erase (list : CellList α) (cell : Nat) : CellList α where
  cells := list.cells.eraseP fun entry => entry.1 = cell
  distinct := list.distinct.sublist (List.eraseP_sublist.map Prod.fst)

/-- A cell outside a sequence has no successor in it. -/
theorem nextIn_eq_none {cells : List (Nat × α)} {cell : Nat}
    (absent : cell ∉ cells.map Prod.fst) : nextIn cells cell = none := by
  induction cells with
  | nil => rfl
  | cons entry rest ih =>
    rw [List.map_cons, List.mem_cons, not_or] at absent
    rw [nextIn, if_neg (Ne.symm absent.1), ih absent.2]

/-- The identity of an erased cell is gone. -/
theorem not_mem_eraseP (cell : Nat) : ∀ {cells : List (Nat × α)}, (cells.map Prod.fst).Nodup →
    cell ∉ (cells.eraseP fun entry => entry.1 = cell).map Prod.fst
  | [], _ => List.not_mem_nil
  | entry :: rest, distinct => by
    rw [List.map_cons, List.nodup_cons] at distinct
    by_cases same : entry.1 = cell
    · rw [List.eraseP_cons_of_pos (by simpa using same)]
      exact same ▸ distinct.1
    · rw [List.eraseP_cons_of_neg (by simpa using same), List.map_cons, List.mem_cons, not_or]
      exact ⟨Ne.symm same, not_mem_eraseP cell distinct.2⟩

/-- Advancing from the cell just erased is an error. -/
theorem next_erase (list : CellList α) (cell : Nat) : (list.erase cell).next cell = none :=
  nextIn_eq_none (not_mem_eraseP cell list.distinct)

section Search

variable [DecidableEq α]

/-- Iterator to the first cell that holds a value, or the end. -/
def find (list : CellList α) (value : α) : Option Nat :=
  (list.cells.find? fun entry => entry.2 = value).map Prod.fst

/-- Find a value and erase the cell found, if any. -/
def eraseFirst (list : CellList α) (value : α) : CellList α :=
  match list.find value with
  | none => list
  | some cell => list.erase cell

/-- On values, finding and erasing is removing the first occurrence. -/
@[simp] theorem values_eraseFirst (list : CellList α) (value : α) :
    (list.eraseFirst value).values = list.values.erase value := by
  obtain ⟨cells, distinct⟩ := list
  unfold eraseFirst find
  induction cells with
  | nil => rfl
  | cons entry rest ih =>
    rw [List.map_cons, List.nodup_cons] at distinct
    have tail := ih distinct.2
    by_cases same : entry.2 = value
    · simp [List.find?, same, erase, values]
    · simp only [List.find?, same, decide_false] at tail ⊢
      cases found : rest.find? fun entry => decide (entry.2 = value) with
      | none =>
        simp only [found, Option.map_none, values] at tail ⊢
        rw [List.map_cons, List.erase_cons_tail (by simpa using same), ← tail]
      | some hit =>
        have other : entry.1 ≠ hit.1 := fun clash =>
          distinct.1 (clash ▸ List.mem_map_of_mem (List.mem_of_find?_eq_some found))
        simp only [found, Option.map_some, values, erase] at tail ⊢
        rw [List.eraseP_cons_of_neg (by simpa using other), List.map_cons, List.map_cons,
          List.erase_cons_tail (by simpa using same), ← tail]

/-- Erase one cell for each of the given values, in order. -/
def eraseEach (list : CellList α) (removed : List α) : CellList α :=
  removed.foldl eraseFirst list

/-- On values, erasing each is removing first occurrences one after the other. -/
@[simp] theorem values_eraseEach (list : CellList α) (removed : List α) :
    (list.eraseEach removed).values = removed.foldl List.erase list.values := by
  unfold eraseEach
  induction removed generalizing list with
  | nil => rfl
  | cons value removed ih =>
    rw [List.foldl_cons, List.foldl_cons, ih, values_eraseFirst]

end Search

/-- How a traversal ends: past the last cell, at a cell that is not live, or not within the
steps given to it. -/
inductive Walk (α : Type) where
  | done (list : CellList α)
  | invalid
  | unfinished

/-- A range-based loop over a list that its body may change: read through the iterator, run
the body, advance. -/
def walk (body : α → CellList α → CellList α) : Nat → CellList α → Option Nat → Walk α
  | _, list, none => .done list
  | 0, _, some _ => .unfinished
  | steps + 1, list, some cell =>
    match list.read cell with
    | none => .invalid
    | some value =>
      let list := body value list
      match list.next cell with
      | none => .invalid
      | some iterator => walk body steps list iterator

/-- The loop from the first cell, with as many steps as there are cells. -/
def rangeFor (list : CellList α) (body : α → CellList α → CellList α) : Walk α :=
  walk body list.cells.length list list.first

/-- A loop whose body erases, for each value, the first cell that holds it, erases the very
cell it stands on and cannot advance. -/
theorem rangeFor_eraseFirst [DecidableEq α] {list : CellList α} (nonempty : list.values ≠ []) :
    list.rangeFor (fun value list => list.eraseFirst value) = .invalid := by
  obtain ⟨cells, distinct⟩ := list
  cases cells with
  | nil => exact absurd rfl nonempty
  | cons entry rest =>
    have erased : CellList.eraseFirst ⟨entry :: rest, distinct⟩ entry.2 =
        CellList.erase ⟨entry :: rest, distinct⟩ entry.1 := by
      simp [eraseFirst, find, List.find?]
    simp only [rangeFor, first, List.head?_cons, Option.map_some, List.length_cons, walk, read,
      List.find?, decide_true, erased, next_erase]

end CellList
