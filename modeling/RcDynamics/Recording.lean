import Mathlib.Data.List.ReduceOption
import RcDynamics.Csv

/-!
# Recordings

`rcdynamics_stream` records the messages of a stream as lines below one header, the header of
the first message. A line has an entry for each leaf that is set in its own message, so the
columns keep their meaning exactly when the same leaves are present in all messages.
-/

namespace RcDynamics

/-- What the recording loop writes to the file. -/
inductive Output where
  | header (header : Header)
  | line (line : Line)
deriving DecidableEq, Repr

/-- The recording loop of `main`, from a value of `cnt_msgs` on, over what `receive` returns. -/
def record (cntMsgs : BitVec 32) : List (Option Message) → Except ReflectionError (List Output)
  | [] => .ok []
  | none :: received => record cntMsgs received
  | some msg :: received => do
    let heading ←
      if cntMsgs = 0 then (Header.addMessage ⟨[], ""⟩ msg).map fun h => [.header h] else .ok []
    let rest ← record (cntMsgs + 1) received
    return heading ++ .line (Line.addMessage ⟨[]⟩ msg) :: rest

/-- The scalar at a path of singular fields is set or required, and so is every message around
it. -/
inductive Message.Present : Message → List String → Prop where
  | scalar {fields : List Field} {name : String} {optional has : Bool} {value : Scalar}
      (member : .scalar name optional has value ∈ fields) (shown : (!optional || has) = true) :
      Present (.mk fields) [name]
  | message {fields : List Field} {name : String} {optional has : Bool} {value : Message}
      {path : List String} (member : .message name optional has value ∈ fields)
      (shown : (!optional || has) = true) (inner : value.Present path) :
      Present (.mk fields) (name :: path)

/-- The paths of the leaves of a message, in order. -/
def Message.columns (m : Message) : List (List String) := m.leaves.map Prod.fst

/-- The line of a message has one entry for each column: the value of that leaf. -/
structure Message.FillsColumns (m : Message) (columns : List (List String)) : Prop where
  paths : m.columns = columns
  entries : (Line.addMessage ⟨[]⟩ m).entries = m.leaves.map fun leaf => leaf.2.text

/-- The paths of the leaves of some fields are those of each field in order. -/
theorem mem_leavesOfFields {fields : List Field} {leaf : Leaf} :
    leaf ∈ leavesOfFields fields ↔ ∃ field ∈ fields, leaf ∈ field.leaves := by
  induction fields with
  | nil => simp [leavesOfFields]
  | cons field fields ih => simp [leavesOfFields, ih]

/-- What is present is a leaf. -/
theorem Message.Present.mem_columns {m : Message} {path : List String} (present : m.Present path) :
    path ∈ m.columns := by
  induction present with
  | @scalar fields name optional has value member shown =>
    have leaf : (([name], value) : Leaf) ∈ (Field.scalar name optional has value).leaves := by
      rw [Field.leaves, if_pos shown]
      exact List.mem_singleton_self _
    exact List.mem_map.mpr ⟨_, mem_leavesOfFields.mpr ⟨_, member, leaf⟩, rfl⟩
  | @message fields name optional has value path member shown _ ih =>
    obtain ⟨inner, found, rfl⟩ := List.mem_map.mp ih
    have leaf : Leaf.within [name] inner ∈ (Field.message name optional has value).leaves := by
      rw [Field.leaves, if_pos shown]
      exact List.mem_map_of_mem found
    exact List.mem_map.mpr ⟨_, mem_leavesOfFields.mpr ⟨_, member, leaf⟩, rfl⟩

section Types

variable {descriptors : Descriptors}

/-- A declared field is singular, and so is everything in the messages it holds. -/
def Descriptors.Plain (descriptors : Descriptors) (declared : FieldDescriptor) : Prop :=
  declared.isRepeated = false ∧
    ∀ inner, declared.holds = some inner → descriptors.Unrepeated inner

/-- The fields of a type without repeated fields are plain. -/
theorem Descriptors.Unrepeated.plain {type : String} (unrepeated : descriptors.Unrepeated type) :
    ∀ declared ∈ descriptors.fields type, descriptors.Plain declared := by
  intro declared member
  refine ⟨unrepeated type .refl declared member, fun inner holds further path => ?_⟩
  exact unrepeated further (.head ⟨declared, member, holds⟩ path)

/-- A field of a plain declaration is a scalar or a message. -/
theorem Field.HasType.singular {declared : FieldDescriptor} {field : Field}
    (typed : field.HasType descriptors declared) (plain : descriptors.Plain declared) :
    (∃ name optional has value, field = .scalar name optional has value) ∨
      ∃ name optional has value type, field = .message name optional has value ∧
        descriptors.Unrepeated type ∧
        ((!optional || has) = true → value.HasType descriptors type) := by
  cases field with
  | scalar name optional has value => exact Or.inl ⟨name, optional, has, value, rfl⟩
  | message name optional has value =>
    obtain ⟨type, rfl, inner⟩ := typed
    exact Or.inr ⟨name, optional, has, value, type, rfl, plain.2 type rfl, inner⟩
  | scalars name cppType values =>
    cases typed
    exact Bool.noConfusion (plain.1 : true = false)
  | messages name values =>
    obtain ⟨type, rfl, _⟩ := typed
    exact Bool.noConfusion (plain.1 : true = false)

/-- Each field of a list is as one of its declarations. -/
theorem fieldsHaveTypes_mem {declared : List FieldDescriptor} {fields : List Field}
    (typed : fieldsHaveTypes descriptors declared fields) :
    ∀ field ∈ fields, ∃ d ∈ declared, field.HasType descriptors d := by
  induction fields generalizing declared with
  | nil => exact fun field member => absurd member List.not_mem_nil
  | cons first fields ih =>
    cases declared with
    | nil => exact absurd typed not_false
    | cons d declared =>
      intro field member
      rcases List.mem_cons.mp member with rfl | later
      · exact ⟨d, List.mem_cons_self, typed.1⟩
      · obtain ⟨d', found, has⟩ := ih typed.2 field later
        exact ⟨d', List.mem_cons_of_mem d found, has⟩

/-- A leaf of a message without repeated fields is present. -/
theorem Message.HasType.present {path : List String} :
    ∀ {type : String} {m : Message}, descriptors.Unrepeated type → m.HasType descriptors type →
      path ∈ m.columns → m.Present path := by
  induction path with
  | nil =>
    intro type m _ _ member
    obtain ⟨leaf, found, none⟩ := List.mem_map.mp member
    exact absurd none (m.leaves_path leaf found)
  | cons name path ih =>
    intro type m unrepeated typed member
    cases m with
    | mk fields =>
      obtain ⟨leaf, found, same⟩ := List.mem_map.mp member
      obtain ⟨field, among, leafOf⟩ := mem_leavesOfFields.mp found
      obtain ⟨declared, known, has⟩ := fieldsHaveTypes_mem typed field among
      rcases has.singular (unrepeated.plain declared known) with
        ⟨own, optional, set, value, rfl⟩ | ⟨own, optional, set, value, inner, rfl, plain, typed'⟩
      · rw [Field.leaves] at leafOf
        split_ifs at leafOf with shown
        · rw [List.mem_singleton.mp leafOf] at same
          rw [← same]
          exact .scalar among shown
        · exact absurd leafOf List.not_mem_nil
      · rw [Field.leaves] at leafOf
        split_ifs at leafOf with shown
        · obtain ⟨deeper, within, rfl⟩ := List.mem_map.mp leafOf
          obtain ⟨rfl, rfl⟩ := List.cons.inj same
          exact .message among shown (ih plain (typed' shown) (List.mem_map_of_mem within))
        · exact absurd leafOf List.not_mem_nil

mutual

/-- A header of a message without repeated fields is not stopped. -/
theorem Message.HasType.hasElements {type : String} (unrepeated : descriptors.Unrepeated type)
    (m : Message) (typed : m.HasType descriptors type) : m.hasElements = false := by
  cases m with
  | mk fields => exact fieldsHaveTypes_hasElements unrepeated.plain fields typed

/-- Nor is one of some plain fields. -/
theorem fieldsHaveTypes_hasElements {declared : List FieldDescriptor}
    (plain : ∀ d ∈ declared, descriptors.Plain d) (fields : List Field)
    (typed : fieldsHaveTypes descriptors declared fields) : anyHasElements fields = false := by
  cases fields with
  | nil => rfl
  | cons field fields =>
    cases declared with
    | nil => exact absurd typed not_false
    | cons d declared =>
      rw [anyHasElements, Field.HasType.hasElements (plain d List.mem_cons_self) field typed.1,
        fieldsHaveTypes_hasElements (fun d' member => plain d' (List.mem_cons_of_mem d member))
          fields typed.2]
      rfl

/-- Nor is one of a plain field. -/
theorem Field.HasType.hasElements {declared : FieldDescriptor} (plain : descriptors.Plain declared)
    (field : Field) (typed : field.HasType descriptors declared) : field.hasElements = false := by
  cases field with
  | scalar name optional has value => rfl
  | message name optional has value =>
    obtain ⟨type, rfl, inner⟩ := typed
    rw [Field.hasElements]
    cases shown : !optional || has with
    | false => rfl
    | true => exact Message.HasType.hasElements (plain.2 type rfl) value (inner shown)
  | scalars name cppType values => rfl
  | messages name values =>
    obtain ⟨type, rfl, _⟩ := typed
    exact Bool.noConfusion (plain.1 : true = false)

end

/-- The paths of the leaves of some fields, in order. -/
def columnsOfFields (fields : List Field) : List (List String) :=
  (leavesOfFields fields).map Prod.fst

/-- The paths of the leaves of a field, in order. -/
def Field.columns (field : Field) : List (List String) := field.leaves.map Prod.fst

/-- The columns of some fields are those of each in order. -/
theorem columnsOfFields_cons (field : Field) (fields : List Field) :
    columnsOfFields (field :: fields) = field.columns ++ columnsOfFields fields :=
  List.map_append

/-- The columns of a field begin with its name. -/
theorem Field.columns_head {field : Field} {path : List String} (member : path ∈ field.columns) :
    path.head? = some field.name := by
  obtain ⟨leaf, found, rfl⟩ := List.mem_map.mp member
  exact field.leaves_head leaf found

/-- The columns of some fields begin with the name of one of them. -/
theorem columnsOfFields_head {fields : List Field} {path : List String}
    (member : path ∈ columnsOfFields fields) : ∃ field ∈ fields, path.head? = some field.name := by
  obtain ⟨leaf, found, rfl⟩ := List.mem_map.mp member
  exact leavesOfFields_head fields leaf found

/-- The columns of a message in a field. -/
theorem Field.columns_message (name : String) (optional has : Bool) (value : Message) :
    (Field.message name optional has value).columns =
      if !optional || has then value.columns.map (name :: ·) else [] := by
  unfold Field.columns Message.columns
  rw [Field.leaves]
  split_ifs
  · rw [List.map_map, List.map_map]
    rfl
  · rfl

/-- The columns of a scalar. -/
theorem Field.columns_scalar (name : String) (optional has : Bool) (value : Scalar) :
    (Field.scalar name optional has value).columns =
      if !optional || has then [[name]] else [] := by
  unfold Field.columns
  rw [Field.leaves]
  split_ifs <;> rfl

/-- A declared field has the declared name. -/
theorem Field.HasType.name_eq {declared : FieldDescriptor} {field : Field}
    (typed : field.HasType descriptors declared) : field.name = declared.name := by
  cases field with
  | scalar name optional has value =>
    cases typed
    rfl
  | message name optional has value =>
    obtain ⟨type, rfl, _⟩ := typed
    rfl
  | scalars name cppType values =>
    cases typed
    rfl
  | messages name values =>
    obtain ⟨type, rfl, _⟩ := typed
    rfl

/-- Declared fields have the declared names. -/
theorem fieldsHaveTypes_names {declared : List FieldDescriptor} {fields : List Field}
    (typed : fieldsHaveTypes descriptors declared fields) :
    fields.map Field.name = declared.map FieldDescriptor.name := by
  induction fields generalizing declared with
  | nil =>
    cases declared with
    | nil => rfl
    | cons d declared => exact absurd typed not_false
  | cons field fields ih =>
    cases declared with
    | nil => exact absurd typed not_false
    | cons d declared => rw [List.map_cons, List.map_cons, typed.1.name_eq, ih typed.2]

/-- A path that begins with the name of the first field is a column of that field. -/
theorem mem_columns_first {field : Field} {fields : List Field} {path : List String}
    (distinct : field.name ∉ fields.map Field.name) :
    path ∈ field.columns ↔
      path ∈ columnsOfFields (field :: fields) ∧ path.head? = some field.name := by
  rw [columnsOfFields_cons, List.mem_append]
  constructor
  · exact fun member => ⟨Or.inl member, Field.columns_head member⟩
  · rintro ⟨first | later, head⟩
    · exact first
    · obtain ⟨other, among, begins⟩ := columnsOfFields_head later
      rw [head, Option.some.injEq] at begins
      exact absurd (begins ▸ List.mem_map_of_mem among) distinct

/-- Any other path is a column of the other fields. -/
theorem mem_columns_later {field : Field} {fields : List Field} {path : List String}
    (distinct : field.name ∉ fields.map Field.name) :
    path ∈ columnsOfFields fields ↔
      path ∈ columnsOfFields (field :: fields) ∧ path.head? ≠ some field.name := by
  rw [columnsOfFields_cons, List.mem_append]
  constructor
  · refine fun member => ⟨Or.inr member, fun head => ?_⟩
    obtain ⟨other, among, begins⟩ := columnsOfFields_head member
    rw [head, Option.some.injEq] at begins
    exact absurd (begins ▸ List.mem_map_of_mem among) distinct
  · rintro ⟨first | later, head⟩
    · exact absurd (Field.columns_head first) head
    · exact later

/-- Columns that are there or not, and the same when they are, are equal when the same paths are
among them. -/
theorem columns_eq_of_shown {shown otherShown : Bool} {columns others : List (List String)}
    (both : shown = true → otherShown = true →
      (∀ path, path ∈ columns ↔ path ∈ others) → columns = others)
    (same : ∀ path, path ∈ (if shown then columns else []) ↔
      path ∈ (if otherShown then others else [])) :
    (if shown then columns else []) = if otherShown then others else [] := by
  cases shown with
  | true =>
    cases otherShown with
    | true => exact both rfl rfl same
    | false =>
      refine List.eq_nil_iff_forall_not_mem.mpr fun path member => ?_
      exact absurd ((same path).mp member) List.not_mem_nil
  | false =>
    cases otherShown with
    | true =>
      refine (List.eq_nil_iff_forall_not_mem.mpr fun path member => ?_).symm
      exact absurd ((same path).mpr member) List.not_mem_nil
    | false => rfl

mutual

/-- Two messages of one type without repeated fields have the same columns when the same paths are
among them. -/
theorem Message.columns_eq {type : String} (unrepeated : descriptors.Unrepeated type)
    (m other : Message) (typed : m.HasType descriptors type)
    (otherTyped : other.HasType descriptors type)
    (same : ∀ path, path ∈ m.columns ↔ path ∈ other.columns) : m.columns = other.columns := by
  cases m with
  | mk fields =>
    cases other with
    | mk others =>
      exact columnsOfFields_eq unrepeated.plain (descriptors.distinct type) fields others typed
        otherTyped same

/-- So do two lists of fields with the same declarations. -/
theorem columnsOfFields_eq {declared : List FieldDescriptor}
    (plain : ∀ d ∈ declared, descriptors.Plain d)
    (distinct : (declared.map FieldDescriptor.name).Nodup) (fields others : List Field)
    (typed : fieldsHaveTypes descriptors declared fields)
    (otherTyped : fieldsHaveTypes descriptors declared others)
    (same : ∀ path, path ∈ columnsOfFields fields ↔ path ∈ columnsOfFields others) :
    columnsOfFields fields = columnsOfFields others := by
  cases fields with
  | nil =>
    cases declared with
    | nil =>
      cases others with
      | nil => rfl
      | cons other others => exact absurd otherTyped not_false
    | cons d declared => exact absurd typed not_false
  | cons field fields =>
    cases declared with
    | nil => exact absurd typed not_false
    | cons d declared =>
      cases others with
      | nil => exact absurd otherTyped not_false
      | cons other others =>
        rw [List.map_cons, List.nodup_cons] at distinct
        have name := typed.1.name_eq
        have otherName := otherTyped.1.name_eq
        have apart : field.name ∉ fields.map Field.name := by
          rw [name, fieldsHaveTypes_names typed.2]
          exact distinct.1
        have otherApart : other.name ∉ others.map Field.name := by
          rw [otherName, fieldsHaveTypes_names otherTyped.2]
          exact distinct.1
        have first := Field.columns_eq (plain d List.mem_cons_self) field other typed.1
          otherTyped.1 fun path => by
            rw [mem_columns_first apart, mem_columns_first otherApart, same, name, otherName]
        have later := columnsOfFields_eq
          (fun d' member => plain d' (List.mem_cons_of_mem d member)) distinct.2 fields others
          typed.2 otherTyped.2 fun path => by
            rw [mem_columns_later apart, mem_columns_later otherApart, same, name, otherName]
        rw [columnsOfFields_cons, columnsOfFields_cons, first, later]

/-- So do two fields with the same declaration. -/
theorem Field.columns_eq {declared : FieldDescriptor} (plain : descriptors.Plain declared)
    (field other : Field) (typed : field.HasType descriptors declared)
    (otherTyped : other.HasType descriptors declared)
    (same : ∀ path, path ∈ field.columns ↔ path ∈ other.columns) :
    field.columns = other.columns := by
  cases field with
  | scalar name optional has value =>
    cases typed
    cases other with
    | scalar name' optional' has' value' =>
      obtain rfl : name = name' := congrArg FieldDescriptor.name otherTyped
      rw [Field.columns_scalar, Field.columns_scalar] at same ⊢
      exact columns_eq_of_shown (fun _ _ _ => rfl) same
    | message name' optional' has' value' =>
      obtain ⟨_, clash, _⟩ := otherTyped
      cases clash
    | scalars name' cppType values => cases otherTyped
    | messages name' values =>
      obtain ⟨_, clash, _⟩ := otherTyped
      cases clash
  | message name optional has value =>
    obtain ⟨type, rfl, inner⟩ := typed
    cases other with
    | scalar name' optional' has' value' => cases otherTyped
    | message name' optional' has' value' =>
      obtain ⟨_, declared, otherInner⟩ := otherTyped
      cases declared
      rw [Field.columns_message, Field.columns_message] at same ⊢
      refine columns_eq_of_shown (fun shown otherShown among => ?_) same
      refine congrArg (List.map (name :: ·)) (Message.columns_eq (plain.2 type rfl) value value'
        (inner shown) (otherInner otherShown) fun path => ?_)
      simpa using among (name :: path)
    | scalars name' cppType values => cases otherTyped
    | messages name' values =>
      obtain ⟨_, clash, _⟩ := otherTyped
      cases clash
  | scalars name cppType values =>
    cases typed
    exact Bool.noConfusion (plain.1 : true = false)
  | messages name values =>
    obtain ⟨type, rfl, _⟩ := typed
    exact Bool.noConfusion (plain.1 : true = false)

end

end Types

/-- The line that is written for a message. -/
def lineOf (msg : Message) : Output := .line (Line.addMessage ⟨[]⟩ msg)

/-- A first message is written below its header. -/
theorem record_first (msg : Message) (received : List (Option Message)) :
    record 0 (some msg :: received) =
      match Header.addMessage ⟨[], ""⟩ msg with
      | .error e => .error e
      | .ok header => (record 1 received).map fun rest => .header header :: lineOf msg :: rest := by
  have next : (0 : BitVec 32) + 1 = 1 := by decide
  rw [record, if_pos rfl, next]
  cases Header.addMessage ⟨[], ""⟩ msg with
  | error e => rfl
  | ok header => cases record 1 received <;> rfl

/-- A later message is written as a line. -/
theorem record_later {cntMsgs : BitVec 32} (later : cntMsgs ≠ 0) (msg : Message)
    (received : List (Option Message)) :
    record cntMsgs (some msg :: received) =
      (record (cntMsgs + 1) received).map (lineOf msg :: ·) := by
  rw [record, if_neg later]
  cases record (cntMsgs + 1) received <;> rfl

/-- Only lines are written as long as the counter does not come round to zero. -/
theorem record_lines_iff (cntMsgs : BitVec 32) (received : List (Option Message)) :
    record cntMsgs received = .ok (received.reduceOption.map lineOf) ↔
      received.reduceOption = [] ∨
        cntMsgs ≠ 0 ∧ cntMsgs.toNat + received.reduceOption.length ≤ 2 ^ 32 := by
  induction received generalizing cntMsgs with
  | nil => simp [record]
  | cons msg received ih =>
    cases msg with
    | none => exact ih cntMsgs
    | some msg =>
      rw [List.reduceOption_cons_of_some, List.map_cons, List.length_cons]
      by_cases first : cntMsgs = 0
      · subst first
        refine iff_of_false (fun written => ?_) (by simp)
        rw [record_first] at written
        cases built : Header.addMessage ⟨[], ""⟩ msg with
        | error e =>
          rw [built] at written
          cases written
        | ok header =>
          rw [built] at written
          simp only at written
          cases rest : record 1 received with
          | error e =>
            rw [rest] at written
            cases written
          | ok lines =>
            rw [rest] at written
            injection written with written
            injection written with clash
            cases clash
      · rw [record_later first]
        have rest : (record (cntMsgs + 1) received).map (lineOf msg :: ·) =
              .ok (lineOf msg :: received.reduceOption.map lineOf) ↔
            record (cntMsgs + 1) received = .ok (received.reduceOption.map lineOf) := by
          cases record (cntMsgs + 1) received <;> simp [Except.map]
        rw [rest, ih]
        have room := cntMsgs.isLt
        have counted : (cntMsgs + 1).toNat = (cntMsgs.toNat + 1) % 2 ^ 32 := by simp
        have again : cntMsgs + 1 = 0 ↔ (cntMsgs + 1).toNat = 0 := by
          rw [← BitVec.toNat_inj]
          rfl
        have none : received.reduceOption = [] ↔ received.reduceOption.length = 0 :=
          List.length_eq_zero_iff.symm
        rw [none, ne_eq, again, counted]
        simp only [List.cons_ne_nil, false_or, ne_eq, first, not_false_eq_true, true_and]
        omega

/-- What is recorded is the header of the first message and a line for each message exactly when
the first message has a header and the counter does not come round to zero. -/
theorem record_iff {received : List (Option Message)} {first : Message} {later : List Message}
    (messages : received.reduceOption = first :: later) (header : Header) :
    record 0 received = .ok (.header header :: (first :: later).map lineOf) ↔
      Header.addMessage ⟨[], ""⟩ first = .ok header ∧ later.length < 2 ^ 32 := by
  induction received with
  | nil => cases messages
  | cons msg received ih =>
    cases msg with
    | none => exact ih messages
    | some msg =>
      rw [List.reduceOption_cons_of_some] at messages
      obtain ⟨rfl, rest⟩ := List.cons.inj messages
      have lines := record_lines_iff 1 received
      rw [rest] at lines
      have short : (later = [] ∨ (1 : BitVec 32) ≠ 0 ∧
          (1 : BitVec 32).toNat + later.length ≤ 2 ^ 32) ↔ later.length < 2 ^ 32 := by
        have none : later = [] ↔ later.length = 0 := List.length_eq_zero_iff.symm
        have one : (1 : BitVec 32).toNat = 1 := rfl
        have some : (1 : BitVec 32) ≠ 0 := by decide
        rw [none, one]
        simp only [some, ne_eq, not_false_eq_true, true_and]
        omega
      rw [record_first, ← short, ← lines]
      cases Header.addMessage ⟨[], ""⟩ msg with
      | error e => simp
      | ok header' => cases record 1 received <;> simp [Except.map]

/-- One header is written and the columns below it keep their meaning exactly when at most `2^32`
messages are recorded and the same scalars are present in all of them. -/
theorem columns_keep_meaning_iff {descriptors : Descriptors} {type : String}
    (unrepeated : descriptors.Unrepeated type) {received : List (Option Message)} {first : Message}
    {later : List Message} (messages : received.reduceOption = first :: later)
    (typed : ∀ m ∈ first :: later, m.HasType descriptors type) :
    (∃ columns : List (List String),
        record 0 received =
          .ok (.header ⟨columns.map columnName, ""⟩ :: (first :: later).map lineOf) ∧
        ∀ m ∈ first :: later, m.FillsColumns columns) ↔
      later.length < 2 ^ 32 ∧
        ∀ m ∈ later, ∀ path, first.Present path ↔ m.Present path := by
  have present (m : Message) (among : m ∈ first :: later) (path : List String) :
      path ∈ m.columns ↔ m.Present path :=
    ⟨(typed m among).present unrepeated, Message.Present.mem_columns⟩
  have begins : first ∈ first :: later := List.mem_cons_self
  constructor
  · rintro ⟨columns, recorded, fills⟩
    refine ⟨((record_iff messages _).mp recorded).2, fun m among path => ?_⟩
    have member := List.mem_cons_of_mem first among
    rw [← present first begins, ← present m member, (fills first begins).paths,
      (fills m member).paths]
  · rintro ⟨short, same⟩
    have clear := Message.HasType.hasElements unrepeated first (typed first begins)
    obtain ⟨_, built⟩ | ⟨stopped, _⟩ := Header.addMessage_outcome ⟨[], ""⟩ first
    · refine ⟨first.columns, (record_iff messages _).mpr ⟨?_, short⟩, fun m member => ⟨?_, ?_⟩⟩
      · rw [built]
        simp [Header.shows, Message.columns]
      · rcases List.mem_cons.mp member with rfl | among
        · rfl
        · refine Message.columns_eq unrepeated m first (typed m member) (typed first begins)
            fun path => ?_
          rw [present m member, present first begins, same m among]
      · exact (Line.entries_addMessage ⟨[]⟩ m).trans (List.nil_append _)
    · rw [clear] at stopped
      cases stopped

/-- A type with two optional scalars. -/
def imuDescriptors : Descriptors where
  fields type :=
    if type = "Imu" then [.scalar "x" true .int32, .scalar "y" true .int32] else []
  distinct type := by
    split_ifs
    · decide
    · exact List.nodup_nil

/-- A message of that type with some of them set. -/
def imuMessage (hasX hasY : Bool) : Message :=
  .mk [.scalar "x" true hasX (.int32 1#32), .scalar "y" true hasY (.int32 2#32)]

/-- The type has no repeated fields. -/
theorem imuDescriptors_unrepeated : imuDescriptors.Unrepeated "Imu" := by
  intro inner path field member
  unfold imuDescriptors at member
  dsimp only at member
  split_ifs at member
  · simp only [List.mem_cons, List.not_mem_nil, or_false] at member
    rcases member with rfl | rfl <;> rfl
  · exact absurd member List.not_mem_nil

/-- The message is of that type. -/
theorem imuMessage_typed (hasX hasY : Bool) :
    (imuMessage hasX hasY).HasType imuDescriptors "Imu" :=
  ⟨rfl, rfl, trivial⟩

/-- Messages with the same scalars are recorded below one header. -/
theorem columns_keep_meaning_imu :
    ∃ columns : List (List String),
      record 0 [some (imuMessage true false), none, some (imuMessage true false)] =
        .ok (.header ⟨columns.map columnName, ""⟩ ::
          [imuMessage true false, imuMessage true false].map lineOf) ∧
      ∀ m ∈ [imuMessage true false, imuMessage true false], m.FillsColumns columns := by
  have messages : [some (imuMessage true false), none, some (imuMessage true false)].reduceOption =
      [imuMessage true false, imuMessage true false] := rfl
  have typed : ∀ m ∈ [imuMessage true false, imuMessage true false],
      m.HasType imuDescriptors "Imu" := by
    simp [imuMessage_typed]
  refine (columns_keep_meaning_iff imuDescriptors_unrepeated messages typed).mpr
    ⟨by decide, fun m member path => ?_⟩
  rw [List.mem_singleton.mp member]

/-- A second message without the first scalar has the value of the second in its column. -/
theorem columns_shifted :
    record 0 [some (imuMessage true true), some (imuMessage false true)] =
        .ok [.header ⟨["x", "y"], ""⟩, .line ⟨["1", "2"]⟩, .line ⟨["2"]⟩] ∧
      ¬∃ columns : List (List String),
        record 0 [some (imuMessage true true), some (imuMessage false true)] =
          .ok (.header ⟨columns.map columnName, ""⟩ ::
            [imuMessage true true, imuMessage false true].map lineOf) ∧
        ∀ m ∈ [imuMessage true true, imuMessage false true], m.FillsColumns columns := by
  refine ⟨by decide +kernel, ?_⟩
  rintro ⟨columns, _, fills⟩
  have full := (fills (imuMessage true true) (by simp)).paths
  have short := (fills (imuMessage false true) (by simp)).paths
  have apart : (imuMessage true true).columns ≠ (imuMessage false true).columns := by
    decide +kernel
  exact apart (full.trans short.symm)

end RcDynamics
