import RcDynamics.Protobuf

/-!
# Flattening messages

`csv_printing.h` flattens a message twice: `Header` collects the names of its fields and `Line`
their values. Both walk the fields in the order of the descriptor and leave out optional fields
that are not set. They differ in repeated fields of messages, where the header applies an
accessor for singular fields. What both are meant to show are the leaves of a message: its
scalars with the paths of names that lead to them.
-/

namespace RcDynamics

/-- `struct Header`. -/
structure Header where
  fields : List String
  /-- `prefix_`. -/
  start : String
deriving DecidableEq, Repr

/-- `struct Line`. -/
structure Line where
  entries : List String
deriving DecidableEq, Repr

namespace Header

/-- `operator<<(const std::string& field)`. -/
def addString (header : Header) (field : String) : Header :=
  { header with fields := header.fields ++ [header.start ++ field] }

/-- `operator<<(const Header& other)`. -/
def addHeader (header other : Header) : Header :=
  { header with fields := header.fields ++ other.fields.map (header.start ++ ·) }

mutual

/-- `operator<<(const Message& m)`. -/
def addMessage (header : Header) : Message → Except ReflectionError Header
  | .mk fields => header.addFields fields

/-- Its loop over the fields. -/
def addFields (header : Header) : List Field → Except ReflectionError Header
  | [] => .ok header
  | field :: fields =>
    match header.addField field with
    | .ok header => header.addFields fields
    | .error e => .error e

/-- The body of that loop. -/
def addField (header : Header) : Field → Except ReflectionError Header
  | .scalar name optional has _ =>
    if !optional || has then .ok (header.addString name) else .ok header
  | .message name optional has value =>
    if !optional || has then
      -- `prefixed` starts an empty header of that prefix.
      match addMessage ⟨[], name ++ "_"⟩ value with
      | .ok other => .ok (header.addHeader other)
      | .error e => .error e
    else .ok header
  | .scalars name _ values =>
    .ok ((List.range values.length).foldl
      (fun header k => header.addString (name ++ "_" ++ toString k)) header)
  | .messages name values =>
    -- The first iteration calls `GetMessage` on the repeated field.
    if values.length = 0 then .ok header else .error (.singularAccess "GetMessage" name)

end

end Header

namespace Line

/-- `operator<<(const std::string& t)`. -/
def addString (line : Line) (t : String) : Line := ⟨line.entries ++ [t]⟩

mutual

/-- `operator<<(const Message& m)`. -/
def addMessage (line : Line) : Message → Line
  | .mk fields => line.addFields fields

/-- Its loop over the fields. -/
def addFields (line : Line) : List Field → Line
  | [] => line
  | field :: fields => (line.addField field).addFields fields

/-- The body of that loop. -/
def addField (line : Line) : Field → Line
  | .scalar _ optional has value =>
    if !optional || has then line.addString value.text else line
  | .message _ optional has value => if !optional || has then line.addMessage value else line
  | .scalars _ _ values => values.foldl (fun line value => line.addString value.1.text) line
  | .messages _ values => line.addMessages values

/-- Its loop over the elements of a repeated field of messages. -/
def addMessages (line : Line) : List Message → Line
  | [] => line
  | value :: values => (line.addMessage value).addMessages values

end

end Line

/-- A scalar in a message, with the names of the fields and the indices that lead to it. -/
abbrev Leaf := List String × Scalar

/-- The leaf seen from further outside. -/
def Leaf.within (outer : List String) (leaf : Leaf) : Leaf := (outer ++ leaf.1, leaf.2)

/-- The name of the column of a path: its parts joined by `_`. -/
def columnName (path : List String) : String := "_".intercalate path

mutual

/-- The leaves of a message that are set or required, in order. -/
def Message.leaves : Message → List Leaf
  | .mk fields => leavesOfFields fields

/-- The leaves of some fields. -/
def leavesOfFields : List Field → List Leaf
  | [] => []
  | field :: fields => field.leaves ++ leavesOfFields fields

/-- The leaves of a field. -/
def Field.leaves : Field → List Leaf
  | .scalar name optional has value => if !optional || has then [([name], value)] else []
  | .message name optional has value =>
    if !optional || has then value.leaves.map (Leaf.within [name]) else []
  | .scalars name _ values => values.mapIdx fun k value => ([name, toString k], value.1)
  | .messages name values => leavesOfElements name 0 values

/-- The leaves of the elements of a repeated field from an index on. -/
def leavesOfElements (name : String) (k : Nat) : List Message → List Leaf
  | [] => []
  | value :: values =>
    value.leaves.map (Leaf.within [name, toString k]) ++ leavesOfElements name (k + 1) values

end

/-- Adding strings one after the other adds their texts in order. -/
theorem Line.entries_foldl {α : Type} (text : α → String) (values : List α) (line : Line) :
    (values.foldl (fun line value => line.addString (text value)) line).entries =
      line.entries ++ values.map text := by
  induction values generalizing line with
  | nil => simp
  | cons value values ih =>
    rw [List.foldl_cons, ih, Line.addString, List.append_assoc, List.map_cons]
    rfl

/-- Seen from further outside, leaves keep their values. -/
theorem map_text_within (outer : List String) (leaves : List Leaf) :
    (leaves.map (Leaf.within outer)).map (fun leaf => leaf.2.text) =
      leaves.map fun leaf => leaf.2.text := by
  rw [List.map_map]
  rfl

mutual

/-- A line shows the values of the leaves. -/
theorem Line.entries_addMessage (line : Line) (m : Message) :
    (line.addMessage m).entries = line.entries ++ m.leaves.map fun leaf => leaf.2.text := by
  cases m with
  | mk fields => exact Line.entries_addFields line fields

/-- Some fields add the values of their leaves. -/
theorem Line.entries_addFields (line : Line) (fields : List Field) :
    (line.addFields fields).entries =
      line.entries ++ (leavesOfFields fields).map fun leaf => leaf.2.text := by
  cases fields with
  | nil => exact (List.append_nil _).symm
  | cons field fields =>
    rw [Line.addFields, Line.entries_addFields (line.addField field) fields,
      Line.entries_addField line field, leavesOfFields, List.map_append, List.append_assoc]

/-- A field adds the values of its leaves. -/
theorem Line.entries_addField (line : Line) (field : Field) :
    (line.addField field).entries =
      line.entries ++ field.leaves.map fun leaf => leaf.2.text := by
  cases field with
  | scalar name optional has value =>
    rw [Line.addField, Field.leaves]
    split_ifs
    · rfl
    · exact (List.append_nil _).symm
  | message name optional has value =>
    rw [Line.addField, Field.leaves]
    split_ifs
    · rw [Line.entries_addMessage line value, map_text_within]
    · exact (List.append_nil _).symm
  | scalars name cppType values =>
    have texts : (values.mapIdx fun k value => (([name, toString k], value.1) : Leaf)).map
        (fun leaf => leaf.2.text) = values.map fun value => value.1.text := by
      refine List.ext_getElem (by simp) fun i _ _ => ?_
      simp
    have added := Line.entries_foldl
      (fun value : {value : Scalar // value.cppType = cppType} => value.1.text) values line
    rw [Line.addField, Field.leaves, texts]
    exact added
  | messages name values => exact Line.entries_addMessages line name 0 values

/-- Elements of a repeated field add the values of their leaves. -/
theorem Line.entries_addMessages (line : Line) (name : String) (k : Nat) (values : List Message) :
    (line.addMessages values).entries =
      line.entries ++ (leavesOfElements name k values).map fun leaf => leaf.2.text := by
  cases values with
  | nil => exact (List.append_nil _).symm
  | cons value values =>
    rw [Line.addMessages, Line.entries_addMessages (line.addMessage value) name (k + 1) values,
      Line.entries_addMessage line value, leavesOfElements, List.map_append, map_text_within,
      List.append_assoc]

end

mutual

/-- A repeated field of messages that is looked at has an element. -/
def Message.hasElements : Message → Bool
  | .mk fields => anyHasElements fields

/-- One of some fields has. -/
def anyHasElements : List Field → Bool
  | [] => false
  | field :: fields => field.hasElements || anyHasElements fields

/-- A field has, itself or in its message. -/
def Field.hasElements : Field → Bool
  | .scalar .. => false
  | .message _ optional has value => (!optional || has) && value.hasElements
  | .scalars .. => false
  | .messages _ values => !values.isEmpty

end

namespace Header

/-- The header with columns for further leaves. -/
def shows (header : Header) (leaves : List Leaf) : Header :=
  { header with
    fields := header.fields ++ leaves.map fun leaf => header.start ++ columnName leaf.1 }

/-- No leaves, no columns. -/
theorem shows_nil (header : Header) : header.shows [] = header := by
  simp [shows]

/-- Leaves of two parts have their columns in order. -/
theorem shows_append (header : Header) (first second : List Leaf) :
    (header.shows first).shows second = header.shows (first ++ second) := by
  simp [shows]

/-- A header has been extended by the columns of some leaves, or a repeated field of messages has
stopped it. -/
def Outcome (header : Header) (stopped : Bool) (leaves : List Leaf)
    (result : Except ReflectionError Header) : Prop :=
  stopped = false ∧ result = .ok (header.shows leaves) ∨
    stopped = true ∧ ∃ e, result = .error e

/-- Adding names one after the other adds their columns in order. -/
theorem foldl_addString {α : Type} (names : α → String) (values : List α) (header : Header) :
    values.foldl (fun header value => header.addString (names value)) header =
      { header with
        fields := header.fields ++ values.map fun value => header.start ++ names value } := by
  induction values generalizing header with
  | nil => simp
  | cons value values ih =>
    rw [List.foldl_cons, ih]
    simp [addString]

end Header

/-- The leaves of elements begin with the name of their field. -/
theorem leavesOfElements_head (name : String) (k : Nat) (values : List Message) :
    ∀ leaf ∈ leavesOfElements name k values, leaf.1.head? = some name := by
  induction values generalizing k with
  | nil => exact fun leaf member => absurd member List.not_mem_nil
  | cons value values ih =>
    intro leaf member
    rcases List.mem_append.mp member with first | later
    · obtain ⟨inner, _, rfl⟩ := List.mem_map.mp first
      rfl
    · exact ih (k + 1) leaf later

/-- The leaves of a field begin with its name. -/
theorem Field.leaves_head (field : Field) :
    ∀ leaf ∈ field.leaves, leaf.1.head? = some field.name := by
  intro leaf member
  cases field with
  | scalar name optional has value =>
    rw [Field.leaves] at member
    split_ifs at member
    · rw [List.mem_singleton.mp member]
      rfl
    · exact absurd member List.not_mem_nil
  | message name optional has value =>
    rw [Field.leaves] at member
    split_ifs at member
    · obtain ⟨inner, _, rfl⟩ := List.mem_map.mp member
      rfl
    · exact absurd member List.not_mem_nil
  | scalars name cppType values =>
    rw [Field.leaves] at member
    obtain ⟨k, _, rfl⟩ := List.mem_mapIdx.mp member
    rfl
  | messages name values => exact leavesOfElements_head name 0 values leaf member

/-- The leaves of some fields begin with the name of one of them. -/
theorem leavesOfFields_head (fields : List Field) :
    ∀ leaf ∈ leavesOfFields fields, ∃ field ∈ fields, leaf.1.head? = some field.name := by
  induction fields with
  | nil => exact fun leaf member => absurd member List.not_mem_nil
  | cons field fields ih =>
    intro leaf member
    rcases List.mem_append.mp member with first | later
    · exact ⟨field, List.mem_cons_self, field.leaves_head leaf first⟩
    · obtain ⟨other, present, head⟩ := ih leaf later
      exact ⟨other, List.mem_cons_of_mem field present, head⟩

/-- The path of a leaf is not empty. -/
theorem Message.leaves_path (m : Message) : ∀ leaf ∈ m.leaves, leaf.1 ≠ [] := by
  intro leaf member none
  cases m with
  | mk fields =>
    obtain ⟨field, _, head⟩ := leavesOfFields_head fields leaf member
    rw [none] at head
    cases head

/-- The column of a leaf of a message in a field begins with the name of the field. -/
theorem columnName_within {name : String} {leaf : Leaf} (some : leaf.1 ≠ []) :
    columnName (leaf.within [name]).1 = name ++ "_" ++ columnName leaf.1 := by
  exact String.intercalate_cons_of_ne_nil some

namespace Header

/-- A header for a message of a field, added to a header, shows the leaves of the field. -/
theorem addHeader_shows (header : Header) (name : String) {leaves : List Leaf}
    (paths : ∀ leaf ∈ leaves, leaf.1 ≠ []) :
    header.addHeader ((⟨[], name ++ "_"⟩ : Header).shows leaves) =
      header.shows (leaves.map (Leaf.within [name])) := by
  unfold addHeader shows
  congr 2
  simp only [List.nil_append, List.map_map]
  refine List.map_congr_left fun leaf member => ?_
  exact congrArg (header.start ++ ·) (columnName_within (paths leaf member)).symm

mutual

/-- A header shows the leaves of a message, unless a repeated field of messages stops it. -/
theorem addMessage_outcome (header : Header) (m : Message) :
    header.Outcome m.hasElements m.leaves (header.addMessage m) := by
  cases m with
  | mk fields => exact addFields_outcome header fields

/-- So it does those of some fields. -/
theorem addFields_outcome (header : Header) (fields : List Field) :
    header.Outcome (anyHasElements fields) (leavesOfFields fields) (header.addFields fields) := by
  cases fields with
  | nil => exact Or.inl ⟨rfl, congrArg Except.ok header.shows_nil.symm⟩
  | cons field fields =>
    rw [addFields, anyHasElements, leavesOfFields]
    obtain ⟨clear, added⟩ | ⟨stopped, e, failed⟩ := addField_outcome header field
    · rw [added, clear, Bool.false_or]
      have rest := addFields_outcome (header.shows field.leaves) fields
      unfold Outcome at rest ⊢
      rwa [shows_append] at rest
    · rw [failed, stopped, Bool.true_or]
      exact Or.inr ⟨rfl, e, rfl⟩

/-- So it does those of a field. -/
theorem addField_outcome (header : Header) (field : Field) :
    header.Outcome field.hasElements field.leaves (header.addField field) := by
  cases field with
  | scalar name optional has value =>
    refine Or.inl ⟨rfl, ?_⟩
    rw [addField, Field.leaves]
    split_ifs
    · rfl
    · rw [shows_nil]
  | message name optional has value =>
    rw [addField, Field.leaves, Field.hasElements]
    cases shown : !optional || has with
    | false => exact Or.inl ⟨rfl, congrArg Except.ok header.shows_nil.symm⟩
    | true =>
      obtain ⟨clear, added⟩ | ⟨stopped, e, failed⟩ :=
        addMessage_outcome ⟨[], name ++ "_"⟩ value
      · refine Or.inl ⟨clear, ?_⟩
        rw [if_pos rfl, if_pos rfl, added]
        exact congrArg Except.ok (addHeader_shows header name value.leaves_path)
      · refine Or.inr ⟨stopped, e, ?_⟩
        rw [if_pos rfl, failed]
  | scalars name cppType values =>
    refine Or.inl ⟨rfl, ?_⟩
    rw [addField, Field.leaves, foldl_addString, shows]
    congr 3
    refine List.ext_getElem (by simp) fun k _ _ => ?_
    simp [columnName]
  | messages name values =>
    rw [addField, Field.leaves, Field.hasElements]
    cases values with
    | nil => exact Or.inl ⟨rfl, congrArg Except.ok header.shows_nil.symm⟩
    | cons value values => exact Or.inr ⟨rfl, _, rfl⟩

end

end Header

/-- Header and line of a message flatten it the same way, and as its leaves, exactly when no
repeated field of messages that is looked at has an element. -/
theorem header_line_agree_iff (m : Message) :
    (∃ header, Header.addMessage ⟨[], ""⟩ m = .ok header ∧
        header.fields.length = (Line.addMessage ⟨[]⟩ m).entries.length ∧
        header.fields = m.leaves.map (fun leaf => columnName leaf.1) ∧
        (Line.addMessage ⟨[]⟩ m).entries = m.leaves.map (fun leaf => leaf.2.text)) ↔
      m.hasElements = false := by
  have entries := Line.entries_addMessage ⟨[]⟩ m
  rw [List.nil_append] at entries
  obtain ⟨clear, added⟩ | ⟨stopped, e, failed⟩ := Header.addMessage_outcome ⟨[], ""⟩ m
  · refine iff_of_true ⟨_, added, ?_, ?_, entries⟩ clear
    · simp [Header.shows, entries]
    · simp [Header.shows]
  · refine iff_of_false ?_ (by rw [stopped]; decide)
    rintro ⟨header, added, _⟩
    rw [failed] at added
    cases added

/-- A message with one element in a repeated field of messages. -/
def pathMessage : Message :=
  .mk [.messages "poses" [.mk [.scalar "x" false true (.int32 1#32)]]]

/-- Its line shows the element, and its header cannot be built. -/
theorem header_rejects_element :
    Header.addMessage ⟨[], ""⟩ pathMessage = .error (.singularAccess "GetMessage" "poses") ∧
      (Line.addMessage ⟨[]⟩ pathMessage).entries = ["1"] ∧
      ¬∃ header, Header.addMessage ⟨[], ""⟩ pathMessage = .ok header ∧
        header.fields.length = (Line.addMessage ⟨[]⟩ pathMessage).entries.length ∧
        header.fields = pathMessage.leaves.map (fun leaf => columnName leaf.1) ∧
        (Line.addMessage ⟨[]⟩ pathMessage).entries =
          pathMessage.leaves.map (fun leaf => leaf.2.text) := by
  have rejected : Header.addMessage ⟨[], ""⟩ pathMessage =
      .error (.singularAccess "GetMessage" "poses") := rfl
  refine ⟨rejected, by decide +kernel, ?_⟩
  rintro ⟨header, added, _⟩
  rw [rejected] at added
  cases added

end RcDynamics
