import Mathlib.Data.List.Basic

/-!
# Reading comma-separated values

A reader of one record of comma-separated values, after the usual rules: cells are separated by
commas, a cell may stand in double quotes, and inside quotes a doubled quote stands for one.
Readers differ in a quote in the middle of a cell that does not begin with one, so that is a
parameter. Joining cells by commas is read back exactly for cells that need no quotes: what the
reader removes from a text makes it shorter, and joining does not make up for it.
-/

namespace CsvReader

/-- Where in a cell the reader is. -/
inductive Mode where
  | start
  | plain
  | quoted
  /-- After a quote inside quotes: the end of the cell, or the first of two quotes. -/
  | closed
deriving DecidableEq, Repr

/-- Put a character in front of the first cell. -/
def push (c : Char) : List (List Char) → List (List Char)
  | [] => [[c]]
  | cell :: cells => (c :: cell) :: cells

/-- A character that stands for itself after the first one of a cell: no comma, no line break, and
a quote only when the reader lets it pass there. -/
def Ordinary (bare : Bool) (c : Char) : Prop :=
  c ≠ ',' ∧ c ≠ '\n' ∧ c ≠ '\r' ∧ (c = '"' → bare = true)

instance (bare : Bool) (c : Char) : Decidable (Ordinary bare c) :=
  inferInstanceAs (Decidable (_ ∧ _ ∧ _ ∧ (_ → _)))

/-- The cells of a record; nothing when the text is no record. With `bare` a quote in the middle
of a cell stands for itself. A line break ends the record, so no text may come after it. -/
def read (bare : Bool) : Mode → List Char → Option (List (List Char))
  | .quoted, [] => none
  | _, [] => some [[]]
  | .start, c :: text =>
    if c = '"' then read bare .quoted text
    else if c = ',' then (read bare .start text).map ([] :: ·)
    else if Ordinary bare c then (read bare .plain text).map (push c)
    else none
  | .plain, c :: text =>
    if c = ',' then (read bare .start text).map ([] :: ·)
    else if Ordinary bare c then (read bare .plain text).map (push c)
    else none
  | .quoted, c :: text =>
    if c = '"' then read bare .closed text else (read bare .quoted text).map (push c)
  | .closed, c :: text =>
    if c = '"' then (read bare .quoted text).map (push c)
    else if c = ',' then (read bare .start text).map ([] :: ·)
    else none

example : read false .start "\"a,\"\"b\"\"\",c".toList = some ["a,\"b\"".toList, ['c']] := by decide

/-- Cells with commas between them. -/
def join (cells : List (List Char)) : List Char := [','].intercalate cells

/-- A cell that needs no quotes: no comma, no line break, and no quote where it has a meaning. -/
structure Plain (bare : Bool) (cell : List Char) : Prop where
  ordinary : ∀ c ∈ cell, Ordinary bare c
  unquoted : cell.head? ≠ some '"'

/-- A text is one line that is read as these cells. -/
structure Recovers (bare : Bool) (text : List Char) (cells : List (List Char)) : Prop where
  oneLine : ∀ c ∈ text, c ≠ '\n' ∧ c ≠ '\r'
  read : CsvReader.read bare .start text = some cells

/-- A first character of the first cell is the first of the text. -/
theorem join_push (c : Char) {cells : List (List Char)} (nonempty : cells ≠ []) :
    join (push c cells) = c :: join cells := by
  cases cells with
  | nil => exact absurd rfl nonempty
  | cons cell cells => cases cells <;> rfl

/-- An empty first cell puts a comma in front. -/
theorem join_nil_cons {cells : List (List Char)} (nonempty : cells ≠ []) :
    join ([] :: cells) = ',' :: join cells := by
  cases cells with
  | nil => exact absurd rfl nonempty
  | cons cell cells => rfl

/-- A comma separates the first cell from the others. -/
theorem join_cons_cons (cell next : List Char) (others : List (List Char)) :
    join (cell :: next :: others) = cell ++ ',' :: join (next :: others) := by
  simp [join]

/-- Every cell but the first comes after a comma. -/
theorem join_cons (cell : List Char) (cells : List (List Char)) :
    join (cell :: cells) = cell ++ cells.flatMap (',' :: ·) := by
  induction cells generalizing cell with
  | nil => simp [join]
  | cons next others ih => rw [join_cons_cons, ih, List.flatMap_cons, List.cons_append]

/-- The cells read do not make up more text than was read, and less of it after a quote. -/
theorem read_length {bare : Bool} {mode : Mode} {text : List Char} {cells : List (List Char)}
    (ran : read bare mode text = some cells) :
    cells ≠ [] ∧ (join cells).length ≤ text.length ∧
      (mode = .quoted → (join cells).length < text.length) := by
  induction text generalizing mode cells with
  | nil =>
    cases mode with
    | quoted => cases ran
    | start | plain | closed =>
      cases ran
      exact ⟨List.cons_ne_nil _ _, Nat.le_refl 0, fun clash => nomatch clash⟩
  | cons c text ih =>
    have pushed {next : Mode} (read' : (read bare next text).map (push c) = some cells) :
        cells ≠ [] ∧ (join cells).length ≤ text.length + 1 ∧
          (next = .quoted → (join cells).length < text.length + 1) := by
      obtain ⟨rest, ran', rfl⟩ := Option.map_eq_some_iff.mp read'
      obtain ⟨some, le, quoted⟩ := ih ran'
      rw [join_push c some, List.length_cons]
      refine ⟨?_, by omega, fun same => by have := quoted same; omega⟩
      cases rest <;> exact List.cons_ne_nil _ _
    have separated (read' : (read bare .start text).map ([] :: ·) = some cells) :
        cells ≠ [] ∧ (join cells).length ≤ text.length + 1 := by
      obtain ⟨rest, ran', rfl⟩ := Option.map_eq_some_iff.mp read'
      obtain ⟨some, le, _⟩ := ih ran'
      rw [join_nil_cons some, List.length_cons]
      exact ⟨List.cons_ne_nil _ _, by omega⟩
    rw [List.length_cons]
    cases mode with
    | quoted =>
      simp only [read] at ran
      split_ifs at ran
      · obtain ⟨some, le, _⟩ := ih ran
        exact ⟨some, by omega, fun _ => by omega⟩
      · obtain ⟨some, le, less⟩ := pushed ran
        exact ⟨some, le, fun _ => less rfl⟩
    | closed =>
      simp only [read] at ran
      split_ifs at ran
      · obtain ⟨some, le, _⟩ := pushed ran
        exact ⟨some, le, fun clash => nomatch clash⟩
      · obtain ⟨some, le⟩ := separated ran
        exact ⟨some, le, fun clash => nomatch clash⟩
    | start =>
      simp only [read] at ran
      split_ifs at ran
      · obtain ⟨some, le, _⟩ := ih ran
        exact ⟨some, by omega, fun clash => nomatch clash⟩
      · obtain ⟨some, le⟩ := separated ran
        exact ⟨some, le, fun clash => nomatch clash⟩
      · obtain ⟨some, le, _⟩ := pushed ran
        exact ⟨some, le, fun clash => nomatch clash⟩
    | plain =>
      simp only [read] at ran
      split_ifs at ran
      · obtain ⟨some, le⟩ := separated ran
        exact ⟨some, le, fun clash => nomatch clash⟩
      · obtain ⟨some, le, _⟩ := pushed ran
        exact ⟨some, le, fun clash => nomatch clash⟩

/-- Where nothing is lost in reading, no quotes were used: from the start of a cell all cells are
plain, and from its middle the rest of it is ordinary. -/
theorem read_plain {bare : Bool} {text : List Char} {cells : List (List Char)} :
    (read bare .start text = some cells → (join cells).length = text.length →
        ∀ cell ∈ cells, Plain bare cell) ∧
      (read bare .plain text = some cells → (join cells).length = text.length →
        ∃ cell rest, cells = cell :: rest ∧ (∀ c ∈ cell, Ordinary bare c) ∧
          ∀ other ∈ rest, Plain bare other) := by
  have empty : Plain bare [] := ⟨by simp, by simp⟩
  induction text generalizing cells with
  | nil =>
    constructor
    · intro ran _
      cases ran
      intro cell member
      rw [List.mem_singleton.mp member]
      exact empty
    · intro ran _
      cases ran
      exact ⟨[], [], rfl, empty.ordinary, fun _ member => nomatch member⟩
  | cons c text ih =>
    -- What both modes do after a comma, and with a character that stands for itself.
    have separated (ran : (read bare .start text).map ([] :: ·) = some cells)
        (same : (join cells).length = (c :: text).length) :
        ∃ rest, cells = [] :: rest ∧ ∀ other ∈ rest, Plain bare other := by
      obtain ⟨rest, ran', rfl⟩ := Option.map_eq_some_iff.mp ran
      rw [join_nil_cons (read_length ran').1] at same
      exact ⟨rest, rfl, ih.1 ran' (Nat.succ.inj same)⟩
    have pushed (ran : (read bare .plain text).map (push c) = some cells)
        (same : (join cells).length = (c :: text).length) :
        ∃ cell rest, cells = (c :: cell) :: rest ∧ (∀ x ∈ cell, Ordinary bare x) ∧
          ∀ other ∈ rest, Plain bare other := by
      obtain ⟨cells', ran', rfl⟩ := Option.map_eq_some_iff.mp ran
      rw [join_push c (read_length ran').1] at same
      obtain ⟨cell, rest, rfl, ordinary, plain⟩ := ih.2 ran' (Nat.succ.inj same)
      exact ⟨cell, rest, rfl, ordinary, plain⟩
    constructor
    · intro ran same
      simp only [read] at ran
      split_ifs at ran with quote comma here
      · have shorter := (read_length ran).2.2 rfl
        rw [same, List.length_cons] at shorter
        omega
      · obtain ⟨rest, rfl, plain⟩ := separated ran same
        exact List.forall_mem_cons.mpr ⟨empty, plain⟩
      · obtain ⟨cell, rest, rfl, ordinary, plain⟩ := pushed ran same
        have first : Plain bare (c :: cell) :=
          ⟨List.forall_mem_cons.mpr ⟨here, ordinary⟩, by simpa using quote⟩
        exact List.forall_mem_cons.mpr ⟨first, plain⟩
    · intro ran same
      simp only [read] at ran
      split_ifs at ran with comma here
      · obtain ⟨rest, rfl, plain⟩ := separated ran same
        exact ⟨[], rest, rfl, empty.ordinary, plain⟩
      · obtain ⟨cell, rest, rfl, ordinary, plain⟩ := pushed ran same
        exact ⟨c :: cell, rest, rfl, List.forall_mem_cons.mpr ⟨here, ordinary⟩, plain⟩

/-- From the middle of a cell, ordinary characters are read up to the end of the cell. -/
theorem read_append {bare : Bool} {cell : List Char} (ordinary : ∀ c ∈ cell, Ordinary bare c)
    (rest : List Char) :
    read bare .plain (cell ++ rest) =
      (read bare .plain rest).map fun cells => cell.foldr push cells := by
  induction cell with
  | nil => simp
  | cons c cell ih =>
    obtain ⟨here, later⟩ := List.forall_mem_cons.mp ordinary
    rw [List.cons_append, read, if_neg here.1, if_pos here, ih later, Option.map_map]
    rfl

/-- Characters put in front one by one. -/
theorem foldr_push (cell : List Char) (cells : List (List Char)) :
    cell.foldr push ([] :: cells) = cell :: cells := by
  induction cell with
  | nil => rfl
  | cons c cell ih => rw [List.foldr_cons, ih, push]

/-- Without a quote in front, the start of a cell is like its middle. -/
theorem read_start_of_head {bare : Bool} {text : List Char} (unquoted : text.head? ≠ some '"') :
    read bare .start text = read bare .plain text := by
  cases text with
  | nil => rfl
  | cons c text =>
    have other : c ≠ '"' := by simpa using unquoted
    rw [read, read, if_neg other]

/-- Plain cells joined by commas are read back. -/
theorem read_join {bare : Bool} {cells : List (List Char)} (nonempty : cells ≠ [])
    (plain : ∀ cell ∈ cells, Plain bare cell) :
    read bare .start (join cells) = some cells := by
  induction cells with
  | nil => exact absurd rfl nonempty
  | cons cell cells ih =>
    obtain ⟨here, later⟩ := List.forall_mem_cons.mp plain
    obtain ⟨rest, text, ends, starts⟩ : ∃ rest, join (cell :: cells) = cell ++ rest ∧
        read bare .plain rest = some ([] :: cells) ∧ rest.head? ≠ some '"' := by
      cases cells with
      | nil => exact ⟨[], by simp [join], rfl, by simp⟩
      | cons next others =>
        refine ⟨',' :: join (next :: others), join_cons_cons cell next others, ?_, by simp⟩
        rw [read, if_pos rfl, ih (List.cons_ne_nil _ _) later]
        rfl
    have unquoted : (cell ++ rest).head? ≠ some '"' := by
      cases cell with
      | nil => exact starts
      | cons c cell => exact here.unquoted
    rw [text, read_start_of_head unquoted, read_append here.ordinary, ends, Option.map_some,
      foldr_push]

/-- Plain cells make up one line. -/
theorem oneLine_join {bare : Bool} {cells : List (List Char)}
    (plain : ∀ cell ∈ cells, Plain bare cell) : ∀ c ∈ join cells, c ≠ '\n' ∧ c ≠ '\r' := by
  induction cells with
  | nil => exact fun c member => nomatch member
  | cons cell cells ih =>
    obtain ⟨here, later⟩ := List.forall_mem_cons.mp plain
    have inside : ∀ c ∈ cell, c ≠ '\n' ∧ c ≠ '\r' := fun c member =>
      ⟨(here.ordinary c member).2.1, (here.ordinary c member).2.2.1⟩
    cases cells with
    | nil => simpa [join] using inside
    | cons next others =>
      intro c member
      rw [join_cons_cons, List.mem_append, List.mem_cons] at member
      rcases member with first | rfl | rest
      · exact inside c first
      · decide
      · exact ih later c rest

/-- Joined cells are one line that is read as these cells exactly when there are some and each of
them is plain. -/
theorem recovers_join_iff (bare : Bool) (cells : List (List Char)) :
    Recovers bare (join cells) cells ↔ cells ≠ [] ∧ ∀ cell ∈ cells, Plain bare cell := by
  constructor
  · intro recovered
    exact ⟨(read_length recovered.read).1, read_plain.1 recovered.read rfl⟩
  · rintro ⟨nonempty, plain⟩
    exact ⟨oneLine_join plain, read_join nonempty plain⟩

end CsvReader
