import RcDynamics.JsonText
import RcDynamics.Lexer

/-!
# Scanning numbers

The machine of `scan_number` reads the numbers of the grammar: what it accepts is one, and it reads
one to its last character wherever the text does not go on with a part of a number. The number that
it converts is the one that is written.
-/

namespace RcDynamics.Lexer

open JsonText

/-- The rest of the input does not go on with a number. -/
def Stops (rest : List Char) : Prop :=
  ∀ c ∈ rest.head?, c.isDigit = false ∧ c ≠ '.' ∧ c ≠ 'e' ∧ c ≠ 'E'

/-- Where the rest begins with punctuation, numbers end. -/
theorem stops_cons {c : Char} (other : c.isDigit = false ∧ c ≠ '.' ∧ c ≠ 'e' ∧ c ≠ 'E')
    (rest : List Char) : Stops (c :: rest) := by
  intro d member
  cases member
  exact other

/-- White space is what the lexer ignores. -/
theorem isWhitespace_iff {c : Char} :
    isWhitespace c = true ↔ c = ' ' ∨ c = '\t' ∨ c = '\n' ∨ c = '\r' := by
  simp [isWhitespace, or_assoc]

/-- A character that is not ignored is where the token begins. -/
theorem scan_visible {c : Char} (visible : isWhitespace c = false) (rest : List Char) :
    scan (c :: rest) = scanToken c rest := by
  rw [scan, List.dropWhile_cons_of_neg (by simp [visible])]

/-- A number is scanned where its first character stands. -/
theorem scan_number {c : Char} (first : c = '-' ∨ c.isDigit = true) (rest : List Char) :
    scan (c :: rest) = scanNumber c rest := by
  have visible : isWhitespace c = false := by
    rcases first with rfl | digit
    · rfl
    · refine Bool.eq_false_iff.mpr fun blank => ?_
      rcases isWhitespace_iff.mp blank with rfl | rfl | rfl | rfl
      all_goals cases digit
  rw [scan_visible visible]
  unfold scanToken
  split
  case h_12 => rw [if_pos first]
  all_goals
    rcases first with same | digit
    · cases same
    · cases digit

section Machine

variable {state : NumberState} {type type' : NumberType} {tokenBuffer text rest input : List Char}

/-- The states that read any digits. -/
def NumberState.Loops (state : NumberState) : Prop :=
  state = any1 ∨ state = decimal2 ∨ state = any2

/-- One of them reads a digit and stays. -/
theorem scanDigits_digit (loops : state.Loops) {c : Char} (digit : c.isDigit = true) :
    scanDigits state type tokenBuffer (c :: input) =
      scanDigits state type (tokenBuffer ++ [c]) input := by
  rcases loops with rfl | rfl | rfl
  all_goals
    rw [scanDigits]
    simp only [NumberState.move, Option.any_some, digit, if_true]
    rfl

/-- It reads all digits that follow. -/
theorem scanDigits_digits (loops : state.Loops) {digits : List Char}
    (all : ∀ c ∈ digits, c.isDigit = true) (tokenBuffer : List Char) :
    scanDigits state type tokenBuffer (digits ++ input) =
      scanDigits state type (tokenBuffer ++ digits) input := by
  induction digits generalizing tokenBuffer with
  | nil => rw [List.nil_append, List.append_nil]
  | cons c digits later =>
    rw [List.cons_append, scanDigits_digit loops (all c List.mem_cons_self),
      later (fun d member => all d (List.mem_cons_of_mem c member)), List.append_assoc,
      List.singleton_append]

/-- What is left is not empty and does not begin with a digit, or is empty. -/
def NoDigit (rest : List Char) : Prop := ∀ c ∈ rest.head?, c.isDigit = false

/-- The input of a state that reads any digits, cut after them. -/
theorem scanDigits_cut (loops : state.Loops) (type : NumberType) (tokenBuffer input : List Char) :
    ∃ digits left, (∀ c ∈ digits, c.isDigit = true) ∧ NoDigit left ∧ input = digits ++ left ∧
      scanDigits state type tokenBuffer input =
        scanDigits state type (tokenBuffer ++ digits) left := by
  have all : ∀ c ∈ input.takeWhile Char.isDigit, c.isDigit = true :=
    List.all_eq_true.mp List.all_takeWhile
  refine ⟨input.takeWhile Char.isDigit, input.dropWhile Char.isDigit, all, ?_,
    (List.takeWhile_append_dropWhile).symm, ?_⟩
  · intro c first
    have left := List.head?_dropWhile_not Char.isDigit input
    rw [Option.mem_def.mp first] at left
    simpa using left
  · rw [← scanDigits_digits loops all, List.takeWhile_append_dropWhile]

/-- At the end of the last digits. -/
theorem scanDigits_any2_end (stops : NoDigit rest) :
    scanDigits .any2 type tokenBuffer rest = some (type, tokenBuffer, rest) := by
  cases rest with
  | nil => rfl
  | cons c rest =>
    have digit := stops c rfl
    simp [scanDigits, NumberState.move, digit]

/-- The digits of an exponent are read. -/
theorem scanDigits_any2 {digits : List Char} (all : ∀ c ∈ digits, c.isDigit = true)
    (stops : NoDigit rest) :
    scanDigits .any2 type tokenBuffer (digits ++ rest) =
      some (type, tokenBuffer ++ digits, rest) := by
  rw [scanDigits_digits (.inr (.inr rfl)) all, scanDigits_any2_end stops]

/-- What is read as the last digits are digits. -/
theorem digits_of_scanDigits
    (scanned : scanDigits .any2 type tokenBuffer input = some (type', text, rest)) :
    ∃ digits, (∀ c ∈ digits, c.isDigit = true) ∧ input = digits ++ rest ∧
      text = tokenBuffer ++ digits ∧ type' = type := by
  obtain ⟨digits, left, all, stops, cut, same⟩ :=
    scanDigits_cut (.inr (.inr rfl) : NumberState.any2.Loops) type tokenBuffer input
  rw [same, scanDigits_any2_end stops] at scanned
  cases scanned
  exact ⟨digits, all, cut, rfl, rfl⟩

/-- A digit is none of the other characters of a number. -/
theorem digit_ne {c d : Char} (digit : c.isDigit = true) (other : d.isDigit = false) : c ≠ d := by
  rintro rfl
  rw [digit] at other
  cases other

/-- The exponent after its letter is read. -/
theorem scanDigits_exponent {sign : Option Char} {digits : List Char}
    (isSign : ∀ c ∈ sign, c = '+' ∨ c = '-') (isDigits : Digits digits) (stops : NoDigit rest) :
    scanDigits .exponent type tokenBuffer (sign.toList ++ digits ++ rest) =
      some (type, tokenBuffer ++ (sign.toList ++ digits), rest) := by
  obtain ⟨some, all⟩ := isDigits
  obtain ⟨d, digits, rfl⟩ := List.exists_cons_of_ne_nil some
  have digit := all d List.mem_cons_self
  have others : ∀ c ∈ digits, c.isDigit = true := fun c member =>
    all c (List.mem_cons_of_mem d member)
  have plus := digit_ne (d := '+') digit rfl
  have minus := digit_ne (d := '-') digit rfl
  have same : type.enter .any2 = type := rfl
  cases sign with
  | none =>
    simp only [Option.toList_none, List.nil_append, List.cons_append]
    rw [scanDigits]
    simp only [NumberState.move, Option.some.injEq, plus, minus, or_self, if_false,
      Option.any_some, digit, if_true]
    rw [same, scanDigits_any2 others stops, List.append_assoc, List.singleton_append]
  | some c =>
    have signed := isSign c rfl
    simp only [Option.toList_some, List.nil_append, List.cons_append]
    rw [scanDigits]
    simp only [NumberState.move, Option.some.injEq, signed, if_true]
    rw [scanDigits]
    simp only [NumberState.move, Option.any_some, digit, if_true]
    have kept : (type.enter .sign).enter .any2 = type := rfl
    rw [kept, scanDigits_any2 others stops]
    simp only [List.append_assoc, List.cons_append, List.nil_append]

/-- What is read after a sign are digits. -/
theorem digits_of_scanDigits_sign
    (scanned : scanDigits .sign type tokenBuffer input = some (type', text, rest)) :
    ∃ digits, Digits digits ∧ input = digits ++ rest ∧ text = tokenBuffer ++ digits ∧
      type' = type := by
  cases input with
  | nil => cases scanned
  | cons d input =>
    rw [scanDigits] at scanned
    by_cases digit : d.isDigit = true
    · simp only [NumberState.move, Option.any_some, digit, if_true] at scanned
      obtain ⟨digits, all, rfl, rfl, rfl⟩ := digits_of_scanDigits scanned
      refine ⟨d :: digits, ⟨List.cons_ne_nil _ _, List.forall_mem_cons.mpr ⟨digit, all⟩⟩, rfl, ?_,
        rfl⟩
      rw [List.append_assoc, List.singleton_append]
    · simp only [NumberState.move, Option.any_some, digit] at scanned
      cases scanned

/-- What is read after the letter of an exponent is one. -/
theorem exponent_of_scanDigits
    (scanned : scanDigits .exponent type tokenBuffer input = some (type', text, rest)) :
    ∃ sign digits, (∀ c ∈ sign, c = '+' ∨ c = '-') ∧ Digits digits ∧
      input = Option.toList sign ++ digits ++ rest ∧
      text = tokenBuffer ++ (Option.toList sign ++ digits) ∧ type' = type := by
  cases input with
  | nil => cases scanned
  | cons c input =>
    rw [scanDigits] at scanned
    by_cases signed : c = '+' ∨ c = '-'
    · simp only [NumberState.move, Option.some.injEq, signed, if_true] at scanned
      obtain ⟨digits, isDigits, rfl, rfl, rfl⟩ := digits_of_scanDigits_sign scanned
      refine ⟨some c, digits, fun d member => ?_, isDigits, rfl, ?_, rfl⟩
      · cases member
        exact signed
      · rw [List.append_assoc]
        rfl
    · by_cases digit : c.isDigit = true
      · simp only [NumberState.move, Option.some.injEq, signed, if_false, Option.any_some, digit,
          if_true] at scanned
        obtain ⟨digits, all, rfl, rfl, rfl⟩ := digits_of_scanDigits scanned
        refine ⟨none, c :: digits, fun d member => absurd member (Option.not_mem_none d),
          ⟨List.cons_ne_nil _ _, List.forall_mem_cons.mpr ⟨digit, all⟩⟩, rfl, ?_, rfl⟩
        rw [List.append_assoc]
        rfl
      · simp only [NumberState.move, Option.some.injEq, signed, if_false, Option.any_some,
          digit] at scanned
        cases scanned

/-- The states in which a number may end or go on with an exponent. -/
def NumberState.MayEnd (state : NumberState) : Prop :=
  state = zero ∨ state = any1 ∨ state = decimal2

/-- A character that is no further digit for such a state, and no point. -/
def NumberState.Passes (state : NumberState) (c : Char) : Prop :=
  (state = zero ∨ c.isDigit = false) ∧ (state = decimal2 ∨ c ≠ '.')

/-- Where they go from there. -/
theorem NumberState.MayEnd.move_eq (mayEnd : state.MayEnd) {c : Char} (passes : state.Passes c) :
    state.move (some c) = if c = 'e' ∨ c = 'E' then .goto .exponent else .done := by
  obtain ⟨digit, point⟩ := passes
  rcases mayEnd with rfl | rfl | rfl
  · simp [NumberState.move, point.resolve_left (by decide)]
  · simp [NumberState.move, digit.resolve_left (by decide), point.resolve_left (by decide)]
  · simp [NumberState.move, digit.resolve_left (by decide)]

/-- The rest of a number from such a state: an exponent or nothing. -/
theorem scanDigits_exponent? (mayEnd : state.MayEnd) (exponent : Option Exponent)
    (stops : Stops rest) :
    scanDigits state type tokenBuffer (exponent.elim [] Exponent.text ++ rest) =
      some (if exponent.isNone then type else .float,
        tokenBuffer ++ exponent.elim [] Exponent.text, rest) := by
  cases exponent with
  | none =>
    simp only [Option.elim_none, List.nil_append, List.append_nil, Option.isNone_none, if_true]
    cases rest with
    | nil => rcases mayEnd with rfl | rfl | rfl <;> rfl
    | cons c rest =>
      obtain ⟨digit, point, e, capital⟩ := stops c rfl
      rw [scanDigits, mayEnd.move_eq ⟨.inr digit, .inr point⟩, if_neg (by simp [e, capital])]
  | some e =>
    have noDigit : NoDigit rest := fun c first => (stops c first).1
    have letter : e.letter = 'e' ∨ e.letter = 'E' := e.isLetter
    have other : e.letter.isDigit = false ∧ e.letter ≠ '.' := by
      rcases letter with same | same
      all_goals
        rw [same]
        exact ⟨rfl, by decide⟩
    simp only [Option.elim_some, Exponent.text, List.cons_append, Option.isNone_some,
      Bool.false_eq_true, if_false]
    rw [scanDigits, mayEnd.move_eq ⟨.inr other.1, .inr other.2⟩, if_pos letter]
    simp only
    rw [scanDigits_exponent e.isSign e.isDigits noDigit, List.append_assoc, List.singleton_append]
    rfl

/-- What is read from such a state is an exponent or nothing. -/
theorem exponent?_of_scanDigits (mayEnd : state.MayEnd)
    (first : ∀ c ∈ input.head?, state.Passes c)
    (scanned : scanDigits state type tokenBuffer input = some (type', text, rest)) :
    ∃ exponent : Option Exponent, input = exponent.elim [] Exponent.text ++ rest ∧
      text = tokenBuffer ++ exponent.elim [] Exponent.text ∧
      type' = if exponent.isNone then type else .float := by
  cases input with
  | nil =>
    have ended : scanDigits state type tokenBuffer [] = some (type, tokenBuffer, []) := by
      rcases mayEnd with rfl | rfl | rfl <;> rfl
    rw [ended] at scanned
    cases scanned
    exact ⟨none, rfl, (List.append_nil _).symm, rfl⟩
  | cons c input =>
    rw [scanDigits, mayEnd.move_eq (first c rfl)] at scanned
    by_cases letter : c = 'e' ∨ c = 'E'
    · rw [if_pos letter] at scanned
      simp only at scanned
      obtain ⟨sign, digits, isSign, isDigits, rfl, rfl, rfl⟩ := exponent_of_scanDigits scanned
      refine ⟨some ⟨c, sign, digits, letter, isSign, isDigits⟩, rfl, ?_, rfl⟩
      rw [List.append_assoc]
      rfl
    · rw [if_neg letter] at scanned
      cases scanned
      exact ⟨none, rfl, (List.append_nil _).symm, rfl⟩

/-- The states at the end of the digits before the point. -/
def NumberState.MayPoint (state : NumberState) : Prop := state = zero ∨ state = any1

/-- They may end a number. -/
theorem NumberState.MayPoint.mayEnd (mayPoint : state.MayPoint) : state.MayEnd := by
  rcases mayPoint with rfl | rfl
  · exact .inl rfl
  · exact .inr (.inl rfl)

/-- They go on at a point. -/
theorem NumberState.MayPoint.move_point (mayPoint : state.MayPoint) :
    state.move (some '.') = .goto .decimal1 := by
  rcases mayPoint with rfl | rfl
  · rfl
  · rfl

/-- The digits after a point, and the exponent, are read. -/
theorem scanDigits_decimal1 {digits : List Char} (isDigits : Digits digits)
    (exponent : Option Exponent) (stops : Stops rest) :
    scanDigits .decimal1 .float tokenBuffer
        (digits ++ (exponent.elim [] Exponent.text ++ rest)) =
      some (.float, tokenBuffer ++ (digits ++ exponent.elim [] Exponent.text), rest) := by
  obtain ⟨some, all⟩ := isDigits
  obtain ⟨d, digits, rfl⟩ := List.exists_cons_of_ne_nil some
  have digit := all d List.mem_cons_self
  have others : ∀ c ∈ digits, c.isDigit = true := fun c member =>
    all c (List.mem_cons_of_mem d member)
  rw [List.cons_append, scanDigits]
  simp only [NumberState.move, Option.any_some, digit, if_true]
  rw [scanDigits_digits (.inr (.inl rfl)) others,
    scanDigits_exponent? (.inr (.inr rfl)) exponent stops]
  have type : (if exponent.isNone then NumberType.float.enter .decimal2 else .float) =
      NumberType.float := ite_self _
  rw [type]
  simp only [List.append_assoc, List.cons_append, List.nil_append]

/-- What is read after a point are digits, and an exponent or nothing. -/
theorem fraction_of_scanDigits
    (scanned : scanDigits .decimal1 .float tokenBuffer input = some (type', text, rest)) :
    ∃ digits, ∃ exponent : Option Exponent, Digits digits ∧
      input = digits ++ (exponent.elim [] Exponent.text ++ rest) ∧
      text = tokenBuffer ++ (digits ++ exponent.elim [] Exponent.text) ∧ type' = .float := by
  cases input with
  | nil => cases scanned
  | cons d input =>
    rw [scanDigits] at scanned
    by_cases digit : d.isDigit = true
    · simp only [NumberState.move, Option.any_some, digit, if_true] at scanned
      obtain ⟨digits, left, all, stops, rfl, same⟩ :=
        scanDigits_cut (.inr (.inl rfl) : NumberState.decimal2.Loops) (.enter .float .decimal2)
          (tokenBuffer ++ [d]) input
      rw [same] at scanned
      obtain ⟨exponent, rfl, rfl, rfl⟩ := exponent?_of_scanDigits (.inr (.inr rfl))
        (fun c first => ⟨.inr (stops c first), .inl rfl⟩) scanned
      refine ⟨d :: digits, exponent,
        ⟨List.cons_ne_nil _ _, List.forall_mem_cons.mpr ⟨digit, all⟩⟩, rfl, ?_, ite_self _⟩
      simp only [List.append_assoc, List.cons_append, List.nil_append]
    · simp only [NumberState.move, Option.any_some, digit] at scanned
      cases scanned

/-- The rest of a number from the end of the digits before the point: a fraction or nothing, and
an exponent or nothing. -/
theorem scanDigits_fraction? (mayPoint : state.MayPoint) {fraction : Option (List Char)}
    (isFraction : ∀ digits ∈ fraction, Digits digits) (exponent : Option Exponent)
    (stops : Stops rest) :
    scanDigits state type tokenBuffer
        (fraction.elim [] ('.' :: ·) ++ (exponent.elim [] Exponent.text ++ rest)) =
      some (if fraction.isNone && exponent.isNone then type else .float,
        tokenBuffer ++ (fraction.elim [] ('.' :: ·) ++ exponent.elim [] Exponent.text), rest) := by
  cases fraction with
  | none => exact scanDigits_exponent? mayPoint.mayEnd exponent stops
  | some digits =>
    simp only [Option.elim_some, List.cons_append, Option.isNone_some, Bool.false_and,
      Bool.false_eq_true, if_false]
    rw [scanDigits, mayPoint.move_point]
    simp only
    have type : type.enter .decimal1 = .float := rfl
    rw [type, scanDigits_decimal1 (isFraction digits rfl) exponent stops]
    simp only [List.append_assoc, List.cons_append, List.nil_append]

/-- What is read from there. -/
theorem fraction?_of_scanDigits (mayPoint : state.MayPoint)
    (first : ∀ c ∈ input.head?, state = .zero ∨ c.isDigit = false)
    (scanned : scanDigits state type tokenBuffer input = some (type', text, rest)) :
    ∃ fraction : Option (List Char), ∃ exponent : Option Exponent,
      (∀ digits ∈ fraction, Digits digits) ∧
      input = fraction.elim [] ('.' :: ·) ++ (exponent.elim [] Exponent.text ++ rest) ∧
      text = tokenBuffer ++
        (fraction.elim [] ('.' :: ·) ++ exponent.elim [] Exponent.text) ∧
      type' = if fraction.isNone && exponent.isNone then type else .float := by
  by_cases point : input.head? = some '.'
  · obtain ⟨input, rfl⟩ : ∃ left, input = '.' :: left := by
      cases input with
      | nil => cases point
      | cons c input =>
        cases point
        exact ⟨input, rfl⟩
    rw [scanDigits, mayPoint.move_point] at scanned
    simp only at scanned
    obtain ⟨digits, exponent, isDigits, rfl, rfl, rfl⟩ := fraction_of_scanDigits scanned
    refine ⟨some digits, exponent, fun _ same => ?_, rfl, ?_, rfl⟩
    · cases same
      exact isDigits
    · simp only [Option.elim_some, List.append_assoc, List.cons_append, List.nil_append]
  · obtain ⟨exponent, rfl, rfl, rfl⟩ := exponent?_of_scanDigits mayPoint.mayEnd
      (fun c here => ⟨first c here, .inr fun same => point (same ▸ here)⟩) scanned
    have isFraction : ∀ digits ∈ none, Digits digits := fun digits member =>
      absurd member (Option.not_mem_none digits)
    exact ⟨none, exponent, isFraction, rfl, rfl, rfl⟩

end Machine

/-- The type of a number as it is written. -/
def numeralType (x : Numeral) : NumberType :=
  if x.isInteger then (if x.negative then .integer else .unsigned) else .float

/-- The digits before the point of a number, from the first one. -/
theorem scanDigits_whole (type : NumberType) (tokenBuffer : List Char) (x : Numeral)
    {rest : List Char} (stops : Stops rest) {c : Char} {digits : List Char}
    (whole : x.whole = c :: digits) :
    scanDigits (if c = '0' then .zero else .any1) type (tokenBuffer ++ [c])
        (digits ++ (x.fraction.elim [] ('.' :: ·) ++ (x.exponent.elim [] Exponent.text ++ rest))) =
      some (if x.isInteger then type else .float, tokenBuffer ++ (x.whole ++
        (x.fraction.elim [] ('.' :: ·) ++ x.exponent.elim [] Exponent.text)), rest) := by
  have all := x.isWhole.2
  rw [whole] at all
  have others : ∀ d ∈ digits, d.isDigit = true := fun d member =>
    all d (List.mem_cons_of_mem c member)
  by_cases zero : c = '0'
  · have alone := x.noLeadingZero
    rw [whole, zero] at alone
    have none : digits = [] := (List.cons.inj (alone rfl)).2
    rw [if_pos zero, none, List.nil_append,
      scanDigits_fraction? (.inl rfl) x.isFraction x.exponent stops, whole, none]
    simp only [List.append_assoc, List.cons_append, List.nil_append]
    rfl
  · rw [if_neg zero, scanDigits_digits (.inl rfl) others,
      scanDigits_fraction? (.inr rfl) x.isFraction x.exponent stops, whole]
    simp only [List.append_assoc, List.cons_append, List.nil_append]
    rfl

/-- The states after the sign of a number and after its first digit. -/
theorem numberStart_digit {c : Char} (digit : c.isDigit = true) :
    numberStart c = (if c = '0' then .zero else .any1, .unsigned) := by
  rw [numberStart, if_neg (digit_ne digit rfl)]
  split_ifs
  · rfl
  · rfl

/-- From a sign the machine goes on with a digit. -/
theorem scanDigits_minus {type : NumberType} {tokenBuffer input : List Char} {c : Char}
    (digit : c.isDigit = true) :
    scanDigits .minus type tokenBuffer (c :: input) =
      scanDigits (if c = '0' then .zero else .any1) type (tokenBuffer ++ [c]) input := by
  rw [scanDigits]
  simp only [NumberState.move, Option.some.injEq, Option.any_some, digit, if_true]
  split_ifs
  · rfl
  · rfl

/-- A number is read where something else begins after it. -/
theorem scan_numeral (x : Numeral) {rest : List Char} (stops : Stops rest) :
    scan (x.text ++ rest) = (convert (numeralType x) x.text, rest) := by
  obtain ⟨c, digits, whole⟩ := List.exists_cons_of_ne_nil x.isWhole.1
  have digit : c.isDigit = true := x.isWhole.2 c (by rw [whole]; exact List.mem_cons_self)
  unfold Numeral.text numeralType
  cases sign : x.negative with
  | false =>
    have read := scanDigits_whole .unsigned [] x stops whole
    simp only [Bool.false_eq_true, if_false, List.nil_append, whole, List.cons_append,
      List.append_assoc] at read ⊢
    rw [scan_number (.inr digit), scanNumber_accepted (numberStart_digit digit) read]
  | true =>
    have read := scanDigits_whole .integer ['-'] x stops whole
    have start : numberStart '-' = (.minus, .integer) := rfl
    simp only [if_true, whole, List.cons_append, List.nil_append, List.append_assoc] at read ⊢
    rw [scan_number (.inl rfl), scanNumber_accepted start]
    rw [scanDigits_minus digit]
    exact read

/-- What is read from the first digit of a number on is the rest of one. -/
theorem whole_of_scanDigits (negative : Bool) {type type' : NumberType} (tokenBuffer : List Char)
    {input text rest : List Char} {c : Char} (digit : c.isDigit = true)
    (scanned : scanDigits (if c = '0' then .zero else .any1) type (tokenBuffer ++ [c]) input =
      some (type', text, rest)) :
    ∃ x : Numeral, x.negative = negative ∧ c :: input = x.whole ++
        (x.fraction.elim [] ('.' :: ·) ++ (x.exponent.elim [] Exponent.text ++ rest)) ∧
      text = tokenBuffer ++ (x.whole ++
        (x.fraction.elim [] ('.' :: ·) ++ x.exponent.elim [] Exponent.text)) ∧
      type' = if x.isInteger then type else .float := by
  by_cases zero : c = '0'
  · rw [if_pos zero] at scanned
    obtain ⟨fraction, exponent, isFraction, rfl, rfl, rfl⟩ :=
      fraction?_of_scanDigits (.inl rfl) (fun _ _ => .inl rfl) scanned
    let x : Numeral :=
      { negative := negative
        whole := [c]
        fraction := fraction
        exponent := exponent
        isWhole := ⟨List.cons_ne_nil _ _, fun d member => List.mem_singleton.mp member ▸ digit⟩
        noLeadingZero := fun _ => by rw [zero]
        isFraction := isFraction }
    refine ⟨x, rfl, rfl, ?_, rfl⟩
    rw [List.append_assoc]
  · rw [if_neg zero] at scanned
    obtain ⟨digits, left, all, stops, rfl, same⟩ :=
      scanDigits_cut (.inl rfl : NumberState.any1.Loops) type (tokenBuffer ++ [c]) input
    rw [same] at scanned
    obtain ⟨fraction, exponent, isFraction, rfl, rfl, rfl⟩ :=
      fraction?_of_scanDigits (.inr rfl) (fun d first => .inr (stops d first)) scanned
    let x : Numeral :=
      { negative := negative
        whole := c :: digits
        fraction := fraction
        exponent := exponent
        isWhole := ⟨List.cons_ne_nil _ _, List.forall_mem_cons.mpr ⟨digit, all⟩⟩
        noLeadingZero := fun first => absurd (Option.some.inj first) zero
        isFraction := isFraction }
    refine ⟨x, rfl, rfl, ?_, rfl⟩
    simp only [x, List.append_assoc, List.cons_append, List.nil_append]

/-- What is read as a number is one. -/
theorem numeral_of_scanNumber {c : Char} {input rest : List Char} {token : Token}
    (first : c = '-' ∨ c.isDigit = true) (scanned : scanNumber c input = (token, rest))
    (proper : token ≠ .parseError) :
    ∃ x : Numeral, c :: input = x.text ++ rest ∧ token = convert (numeralType x) x.text := by
  unfold scanNumber at scanned
  split at scanned
  case h_2 =>
    cases scanned
    exact absurd rfl proper
  case h_1 type text left accepted =>
    cases scanned
    by_cases sign : c = '-'
    · subst sign
      have start : numberStart '-' = (.minus, .integer) := rfl
      rw [start] at accepted
      cases input with
      | nil => cases accepted
      | cons d input =>
        by_cases digit : d.isDigit = true
        · rw [scanDigits_minus digit] at accepted
          obtain ⟨x, negative, cut, rfl, rfl⟩ := whole_of_scanDigits true ['-'] digit accepted
          refine ⟨x, ?_, ?_⟩
          · rw [cut, Numeral.text, negative]
            simp only [if_true, List.append_assoc, List.cons_append, List.nil_append]
          · rw [Numeral.text, numeralType, negative]
            simp only [if_true, List.append_assoc, List.cons_append, List.nil_append]
        · have zero : d ≠ '0' := by
            rintro rfl
            exact digit rfl
          rw [scanDigits] at accepted
          simp only [NumberState.move, Option.some.injEq, zero, if_false, Option.any_some, digit]
            at accepted
          cases accepted
    · have digit := first.resolve_left sign
      rw [numberStart_digit digit] at accepted
      obtain ⟨x, negative, cut, rfl, rfl⟩ := whole_of_scanDigits false [] digit accepted
      refine ⟨x, ?_, ?_⟩
      · rw [cut, Numeral.text, negative]
        simp only [Bool.false_eq_true, if_false, List.append_assoc, List.nil_append]
      · rw [Numeral.text, numeralType, negative]
        simp only [Bool.false_eq_true, if_false, List.append_assoc, List.nil_append]

/-- The first character of a number is a minus sign exactly when it is negative. -/
theorem head_text_eq_iff (x : Numeral) : x.text.head? = some '-' ↔ x.negative = true := by
  obtain ⟨c, digits, whole⟩ := List.exists_cons_of_ne_nil x.isWhole.1
  have digit : c.isDigit = true := x.isWhole.2 c (by rw [whole]; exact List.mem_cons_self)
  have other := digit_ne (d := '-') digit rfl
  unfold Numeral.text
  cases x.negative with
  | false => simp [whole, other]
  | true => simp

/-- The text of a number after its sign. -/
theorem unsigned_text (x : Numeral) :
    (if x.text.head? = some '-' then x.text.tail else x.text) =
      x.whole ++ (x.fraction.elim [] ('.' :: ·) ++ x.exponent.elim [] Exponent.text) := by
  cases sign : x.negative with
  | false =>
    rw [if_neg (by rw [head_text_eq_iff, sign]; decide), Numeral.text, sign]
    simp only [Bool.false_eq_true, if_false, List.append_assoc, List.nil_append]
  | true =>
    rw [if_pos (by rw [head_text_eq_iff, sign]), Numeral.text, sign]
    simp only [if_true, List.append_assoc, List.cons_append, List.nil_append, List.tail_cons]

/-- An exponent does not begin with a digit or a point. -/
theorem exponent_head (exponent : Option Exponent) :
    ∀ c ∈ (exponent.elim [] Exponent.text).head?, c.isDigit = false ∧ c ≠ '.' := by
  cases exponent with
  | none => exact fun c first => (nomatch first)
  | some e =>
    intro c first
    cases first
    rcases e.isLetter with same | same
    all_goals
      rw [same]
      exact ⟨rfl, by decide⟩

/-- The digits of an exponent are found after its letter, and after its sign if it has one. -/
theorem exponent_value (exponent : Option Exponent) :
    let afterE := (exponent.elim [] Exponent.text).tail
    let power := Nat.ofDigitChars 10
      (if afterE.head? = some '+' ∨ afterE.head? = some '-' then afterE.tail else afterE) 0
    (if afterE.head? = some '-' then -power else power : Int) =
      exponent.elim 0 Exponent.value := by
  cases exponent with
  | none => rfl
  | some e =>
    obtain ⟨d, digits, split⟩ := List.exists_cons_of_ne_nil e.isDigits.1
    have digit : d.isDigit = true := e.isDigits.2 d (by rw [split]; exact List.mem_cons_self)
    have plus := digit_ne (d := '+') digit rfl
    have minus := digit_ne (d := '-') digit rfl
    cases sign : e.sign with
    | none => simp [Exponent.text, Exponent.value, sign, split, plus, minus]
    | some c =>
      rcases e.isSign c sign with rfl | rfl
      · simp [Exponent.text, Exponent.value, sign]
      · simp [Exponent.text, Exponent.value, sign]

/-- Digits are cut off where none follow. -/
theorem cut_digits {digits left : List Char} (all : ∀ c ∈ digits, c.isDigit = true)
    (stops : NoDigit left) :
    (digits ++ left).takeWhile Char.isDigit = digits ∧
      (digits ++ left).dropWhile Char.isDigit = left := by
  apply Decimal.takeWhile_digits left all
  cases left with
  | nil => rfl
  | cons c left => simp [stops c rfl]

/-- The fraction of a number is found after its point, if it has one. -/
theorem fraction_text (x : Numeral) :
    let afterWhole := x.fraction.elim [] ('.' :: ·) ++ x.exponent.elim [] Exponent.text
    NoDigit afterWhole ∧
      (if afterWhole.head? = some '.' then afterWhole.tail.takeWhile Char.isDigit else []) =
        x.fraction.getD [] ∧
      (if afterWhole.head? = some '.' then afterWhole.tail.dropWhile Char.isDigit else afterWhole) =
        x.exponent.elim [] Exponent.text := by
  have exponent := exponent_head x.exponent
  cases present : x.fraction with
  | none =>
    have none : ¬(x.exponent.elim [] Exponent.text).head? = some '.' := fun first =>
      (exponent '.' first).2 rfl
    refine ⟨fun c first => (exponent c first).1, ?_, ?_⟩
    · exact if_neg none
    · exact if_neg none
  | some digits =>
    obtain ⟨taken, left⟩ := cut_digits (x.isFraction digits present).2
      fun c first => (exponent c first).1
    refine ⟨fun c first => ?_, ?_, ?_⟩
    · cases first
      rfl
    · exact taken
    · exact left

/-- The value that is taken from the text of a number is the one that is written. -/
theorem exactValue_text (x : Numeral) : exactValue x.text = x.value := by
  obtain ⟨stops, fraction, exponent⟩ := fraction_text x
  obtain ⟨whole, left⟩ := cut_digits x.isWhole.2 stops
  have power := exponent_value x.exponent
  unfold exactValue Numeral.value
  simp only [unsigned_text, whole, left, fraction, exponent]
  simp only [power, head_text_eq_iff]

/-- The text of an integer is its digits, after its sign. -/
theorem text_integer {x : Numeral} (integer : x.isInteger = true) :
    x.text = (if x.negative then ['-'] else []) ++ x.whole := by
  obtain ⟨fraction, exponent⟩ := Bool.and_eq_true_iff.mp integer
  rw [Option.isNone_iff_eq_none] at fraction exponent
  rw [Numeral.text, fraction, exponent, Option.elim_none, Option.elim_none, List.append_nil,
    List.append_nil]

end RcDynamics.Lexer
