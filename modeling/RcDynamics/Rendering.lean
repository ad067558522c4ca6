import RcDynamics.Csv
import RcDynamics.CsvReader

/-!
# Rendering

The stream operators of `csv_printing.h` write the names of a header and the entries of a line
with commas between them, as they are. A reader of comma-separated values gets them back exactly
when none of them needs quotes.
-/

namespace RcDynamics

/-- The loop of both stream operators: a comma in front of every cell but the first. -/
def printCells (cells : List String) : String :=
  (cells.foldl (fun (text, first) cell =>
    (if first then text ++ cell else text ++ "," ++ cell, false)) ("", true)).1

/-- `operator<<(std::ostream& s, const csv::Header& header)`. -/
def Header.print (header : Header) : String := printCells header.fields

/-- `operator<<(std::ostream& s, const csv::Line& csv)`. -/
def Line.print (line : Line) : String := printCells line.entries

/-- A reader of comma-separated values gets cells back from a text of one line. With `bare` it
takes a quote in the middle of a cell for itself, otherwise it refuses it. -/
def RecoveredFrom (bare : Bool) (text : String) (cells : List String) : Prop :=
  CsvReader.Recovers bare text.toList (cells.map String.toList)

/-- The cell has no comma and no line break, does not begin with a quote, and has no quote at all
if the reader refuses those. -/
def PlainCell (bare : Bool) (cell : String) : Prop := CsvReader.Plain bare cell.toList

/-- After the first cell, every cell is appended with a comma. -/
theorem toList_foldl_cells (cells : List String) (text : String) :
    (cells.foldl (fun (text, first) cell =>
        (if first then text ++ cell else text ++ "," ++ cell, false)) (text, false)).1.toList =
      text.toList ++ cells.flatMap fun cell => ',' :: cell.toList := by
  induction cells generalizing text with
  | nil => simp
  | cons cell cells ih =>
    rw [List.foldl_cons]
    simp only [Bool.false_eq_true, if_false]
    rw [ih]
    simp

/-- The text is the cells joined by commas. -/
theorem toList_printCells (cells : List String) :
    (printCells cells).toList = CsvReader.join (cells.map String.toList) := by
  cases cells with
  | nil => rfl
  | cons cell cells =>
    unfold printCells
    rw [List.foldl_cons]
    simp only [if_true]
    rw [toList_foldl_cells, List.map_cons, CsvReader.join_cons, List.flatMap_map]
    simp

/-- Cells that are printed are got back exactly when there are some and none of them needs
quotes. -/
theorem printCells_recovered_iff (bare : Bool) (cells : List String) :
    RecoveredFrom bare (printCells cells) cells ↔
      cells ≠ [] ∧ ∀ cell ∈ cells, PlainCell bare cell := by
  unfold RecoveredFrom
  rw [toList_printCells, CsvReader.recovers_join_iff]
  simp [PlainCell]

/-- The names of a header and the entries of a line are got back from what is printed exactly when
there are some and none of them needs quotes. -/
theorem print_recovered_iff (bare : Bool) :
    (∀ header : Header, RecoveredFrom bare header.print header.fields ↔
        header.fields ≠ [] ∧ ∀ field ∈ header.fields, PlainCell bare field) ∧
      ∀ line : Line, RecoveredFrom bare line.print line.entries ↔
        line.entries ≠ [] ∧ ∀ entry ∈ line.entries, PlainCell bare entry :=
  ⟨fun header => printCells_recovered_iff bare header.fields,
    fun line => printCells_recovered_iff bare line.entries⟩

/-- An entry with a comma is printed like two entries, and no reader gets it back. -/
theorem print_comma :
    Line.print ⟨["left,camera"]⟩ = Line.print ⟨["left", "camera"]⟩ ∧
      ∀ bare, ¬RecoveredFrom bare (Line.print ⟨["left,camera"]⟩) ["left,camera"] := by
  refine ⟨by decide, fun bare recovered => ?_⟩
  have plain := (printCells_recovered_iff bare ["left,camera"]).mp recovered
  have ordinary := (plain.2 "left,camera" (by simp)).ordinary ',' (by decide)
  exact ordinary.1 rfl

end RcDynamics
