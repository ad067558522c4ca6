import RcDynamics.ScanNumber

/-!
# Integers in JSON texts

`dump_integer` counts the digits of a number first and then writes them backwards, two at a time,
from the place where the last one belongs. The count is exact, so the text starts at the front of
the buffer whatever was there before, and all integers of 64 bits fit. `scan_number` reads the
text back as the same number.
-/

namespace RcDynamics

namespace Serializer

/-- The decimal digits of a number that has more than one. -/
theorem toDigits_step {n : Nat} (more : 10 ≤ n) :
    Nat.toDigits 10 n = Nat.toDigits 10 (n / 10) ++ [Nat.digitChar (n % 10)] :=
  Nat.toDigits_of_base_le (by decide) more

/-- The decimal digits of a number that has more than two. -/
theorem toDigits_two {n : Nat} (more : 100 ≤ n) :
    Nat.toDigits 10 n =
      Nat.toDigits 10 (n / 100) ++ [(digitsTo99 (n % 100)).1, (digitsTo99 (n % 100)).2] := by
  have first : n / 10 / 10 = n / 100 := by omega
  have second : n / 10 % 10 = n % 100 / 10 := by omega
  have third : n % 10 = n % 100 % 10 := by omega
  rw [toDigits_step (by omega), toDigits_step (by omega), first, second, third, List.append_assoc]
  rfl

/-- `count_digits` counts the digits. -/
theorem countDigits_eq (n : Nat) : countDigits n = (Nat.toDigits 10 n).length := by
  have one {n : Nat} (more : 10 ≤ n) :
      (Nat.toDigits 10 n).length = (Nat.toDigits 10 (n / 10)).length + 1 := by
    rw [toDigits_step more, List.length_append, List.length_singleton]
  have last {n : Nat} (small : n < 10) : (Nat.toDigits 10 n).length = 1 := by
    rw [Nat.toDigits_of_lt_base small, List.length_singleton]
  induction n using Nat.strongRecOn with
  | ind n counted =>
    rw [countDigits]
    split_ifs with lt10 lt100 lt1000 lt10000
    · rw [last lt10]
    · rw [one (by omega), last (by omega)]
    · rw [one (by omega), one (by omega), last (by omega)]
    · rw [one (by omega), one (by omega), one (by omega), last (by omega)]
    · have quotient : n / 10 / 10 / 10 / 10 = n / 10000 := by omega
      rw [counted (n / 10000) (by omega), one (n := n) (by omega), one (n := n / 10) (by omega),
        one (n := n / 10 / 10) (by omega), one (n := n / 10 / 10 / 10) (by omega), quotient]

/-- A character is put before those already written. -/
theorem prepend_spec {buffer : NumberBuffer} {p : Nat} (here : buffer.pointer = p + 1)
    (inside : p < 64) (c : Char) :
    ∃ next, buffer.prepend c = .ok next ∧ next.pointer = p ∧
      next.cells.toList.take p = buffer.cells.toList.take p ∧
      next.cells.toList.drop p = c :: buffer.cells.toList.drop (p + 1) := by
  obtain ⟨cells, pointer⟩ := buffer
  simp only at here
  subst here
  have within : 0 < p + 1 ∧ p + 1 ≤ 64 := by omega
  have length : p < cells.toList.length := by
    rw [Vector.length_toList]
    exact inside
  refine ⟨_, dif_pos within, rfl, ?_, ?_⟩
  · simp only [Nat.add_sub_cancel, Vector.toList_set]
    rw [List.take_set_of_le (Nat.le_refl p)]
  · simp only [Nat.add_sub_cancel, Vector.toList_set]
    rw [List.drop_eq_getElem_cons (by rwa [List.length_set]), List.getElem_set_self,
      List.drop_set_of_lt (Nat.lt_succ_self p)]

/-- Two characters are put before those already written. -/
theorem prepend_two {buffer : NumberBuffer} {p : Nat} (here : buffer.pointer = p + 1 + 1)
    (inside : p + 1 < 64) (second first : Char) :
    ∃ next, (buffer.prepend second >>= (·.prepend first)) = .ok next ∧ next.pointer = p ∧
      next.cells.toList.take p = buffer.cells.toList.take p ∧
      next.cells.toList.drop p = first :: second :: buffer.cells.toList.drop (p + 1 + 1) := by
  obtain ⟨middle, ran, pointer, before, after⟩ := prepend_spec here inside second
  obtain ⟨next, ran', pointer', before', after'⟩ := prepend_spec pointer (by omega) first
  have shorter (l : List Char) : l.take p = (l.take (p + 1)).take p := by
    rw [List.take_take, Nat.min_eq_left (Nat.le_succ p)]
  refine ⟨next, ?_, pointer', ?_, ?_⟩
  · rw [ran]
    exact ran'
  · rw [before', shorter, before, ← shorter]
  · rw [after', after]

/-- The digits are put before what is already written, and what is before them stays. -/
theorem writeDigits_spec (n : Nat) (buffer : NumberBuffer) {k : Nat}
    (here : buffer.pointer = k + (Nat.toDigits 10 n).length) (inside : buffer.pointer ≤ 64) :
    ∃ next, writeDigits n buffer = .ok next ∧ next.pointer = k ∧
      next.cells.toList.take k = buffer.cells.toList.take k ∧
      next.cells.toList.drop k =
        Nat.toDigits 10 n ++ buffer.cells.toList.drop (k + (Nat.toDigits 10 n).length) := by
  induction n using Nat.strongRecOn generalizing buffer k with
  | ind n written =>
    rw [writeDigits]
    split_ifs with hundred ten
    · have digits := toDigits_two hundred
      have length : (Nat.toDigits 10 n).length = (Nat.toDigits 10 (n / 100)).length + 1 + 1 := by
        rw [digits, List.length_append]
        rfl
      rw [length] at here ⊢
      obtain ⟨middle, ran, pointer, before, after⟩ := prepend_two
        (p := k + (Nat.toDigits 10 (n / 100)).length) (by omega) (by omega)
        (digitsTo99 (n % 100)).2 (digitsTo99 (n % 100)).1
      obtain ⟨next, ran', pointer', before', after'⟩ :=
        written (n / 100) (by omega) _ pointer (by omega)
      have shorter (l : List Char) :
          l.take k = (l.take (k + (Nat.toDigits 10 (n / 100)).length)).take k := by
        rw [List.take_take, Nat.min_eq_left (Nat.le_add_right k _)]
      refine ⟨next, ?_, pointer', ?_, ?_⟩
      · simp only
        rw [← bind_assoc, ran]
        exact ran'
      · rw [before', shorter, before, ← shorter]
      · rw [after', after, digits, List.append_assoc]
        rfl
    · have digits : Nat.toDigits 10 n = [(digitsTo99 n).1, (digitsTo99 n).2] := by
        rw [toDigits_step ten, Nat.toDigits_of_lt_base (by omega)]
        rfl
      rw [digits] at here ⊢
      exact prepend_two here (by rw [here] at inside; exact inside) _ _
    · have alone := Nat.toDigits_of_lt_base (b := 10) (n := n) (by omega)
      rw [alone] at here ⊢
      exact prepend_spec here (by rw [here] at inside; exact inside) _

/-- The decimal text of an integer. -/
def decimal (x : Int) : List Char :=
  if x < 0 then '-' :: Nat.toDigits 10 x.natAbs else Nat.toDigits 10 x.toNat

/-- The integers that a document can hold. -/
def InRange (x : Int) : Prop := -2 ^ 63 ≤ x ∧ x < 2 ^ 64

/-- Integers in range have at most twenty digits. -/
theorem digits_length {n : Nat} (small : n < 2 ^ 64) : (Nat.toDigits 10 n).length ≤ 20 := by
  rw [Nat.length_toDigits_le_iff (by decide) (by decide)]
  omega

/-- An integer in range is written as its decimal text, whatever `number_buffer` holds before. -/
theorem dumpInteger_eq {x : Int} (range : InRange x) (cells : Vector Char 64) :
    ∃ after, dumpInteger x cells = .ok (decimal x, after) := by
  obtain ⟨low, high⟩ := range
  unfold dumpInteger decimal
  by_cases zero : x = 0
  · subst zero
    exact ⟨cells, rfl⟩
  rw [if_neg zero]
  by_cases negative : x < 0
  · have sign : removeSign x = x.natAbs := by
      unfold removeSign
      omega
    have short := digits_length (n := x.natAbs) (by omega)
    simp only [negative, decide_true, if_true, sign, countDigits_eq]
    obtain ⟨next, ran, pointer, before, after⟩ := writeDigits_spec x.natAbs
      { cells := cells.set 0 '-', pointer := 1 + (Nat.toDigits 10 x.natAbs).length }
      (k := 1) rfl (by simp only; omega)
    have front : next.cells.toList = '-' :: (Nat.toDigits 10 x.natAbs ++
        (cells.set 0 '-').toList.drop (1 + (Nat.toDigits 10 x.natAbs).length)) := by
      rw [← List.take_append_drop 1 next.cells.toList, before, after, Vector.toList_set]
      obtain ⟨c, rest, split⟩ := List.exists_cons_of_length_pos
        (l := cells.toList) (by rw [Vector.length_toList]; decide)
      rw [split]
      rfl
    rw [if_pos (by omega), ran]
    refine ⟨next.cells, ?_⟩
    change Except.ok (next.cells.toList.take _, _) = _
    rw [front, Nat.add_comm 1, List.take_succ_cons, List.take_left]
  · have short := digits_length (n := x.toNat) (by omega)
    simp only [negative, decide_false, Bool.false_eq_true, if_false, countDigits_eq]
    obtain ⟨next, ran, pointer, before, after⟩ := writeDigits_spec x.toNat
      { cells := cells, pointer := (Nat.toDigits 10 x.toNat).length }
      (k := 0) (Nat.zero_add _).symm (by simp only; omega)
    rw [if_pos (by omega), ran]
    refine ⟨next.cells, ?_⟩
    change Except.ok (next.cells.toList.take _, _) = _
    rw [← List.drop_zero (l := next.cells.toList), after, List.take_left]

end Serializer

namespace Lexer

open JsonText

/-- A number that is not zero does not begin with a zero. -/
theorem toDigits_head {n : Nat} (positive : 0 < n) :
    ∃ c digits, Nat.toDigits 10 n = c :: digits ∧ c ≠ '0' := by
  induction n using Nat.strongRecOn with
  | ind n shorter =>
    by_cases small : n < 10
    · refine ⟨_, [], Nat.toDigits_of_lt_base small, ?_⟩
      have table : ∀ n < 10, 0 < n → Nat.digitChar n ≠ '0' := by decide
      exact table n small positive
    · obtain ⟨c, digits, split, nonzero⟩ := shorter (n / 10) (by omega) (by omega)
      refine ⟨c, digits ++ [Nat.digitChar (n % 10)], ?_, nonzero⟩
      rw [Nat.toDigits_of_base_le (by decide) (by omega), split, List.cons_append]

/-- The digits of a number as it is written. -/
def decimalNumeral (negative : Bool) (n : Nat) : Numeral where
  negative := negative
  whole := Nat.toDigits 10 n
  fraction := none
  exponent := none
  isWhole := ⟨Nat.toDigits_ne_nil, Decimal.isDigit_toDigits n⟩
  noLeadingZero := by
    intro first
    rcases Nat.eq_zero_or_pos n with rfl | positive
    · exact Nat.toDigits_zero 10
    · obtain ⟨c, digits, split, nonzero⟩ := toDigits_head positive
      rw [split] at first
      exact absurd (Option.some.inj first) nonzero
  isFraction := fun _ none => (nomatch none)

/-- A number without sign is read back from its digits. -/
theorem scan_digits {n : Nat} (small : n < 2 ^ 64) {rest : List Char} (stops : Stops rest) :
    scan (Nat.toDigits 10 n ++ rest) = (.valueUnsigned n, rest) := by
  have text : (decimalNumeral false n).text = Nat.toDigits 10 n :=
    (text_integer rfl).trans (List.nil_append _)
  have type : numeralType (decimalNumeral false n) = .unsigned := rfl
  have read := scan_numeral (decimalNumeral false n) stops
  rw [text, type] at read
  rw [read]
  simp only [convert, Nat.ofDigitChars_ten_toDigits, small, if_true]

/-- A negative number is read back from its sign and its digits. -/
theorem scan_negative {n : Nat} (small : n ≤ 2 ^ 63) {rest : List Char} (stops : Stops rest) :
    scan ('-' :: Nat.toDigits 10 n ++ rest) = (.valueInteger (-n), rest) := by
  have low : (-2 ^ 63 : Int) ≤ -n := by omega
  have text : (decimalNumeral true n).text = '-' :: Nat.toDigits 10 n := text_integer rfl
  have type : numeralType (decimalNumeral true n) = .integer := rfl
  have read := scan_numeral (decimalNumeral true n) stops
  rw [text, type] at read
  rw [read]
  simp only [convert, List.tail_cons, Nat.ofDigitChars_ten_toDigits, low, if_true]

/-- An integer in range is read back from its decimal text: a negative one as `number_integer`,
any other as `number_unsigned`. -/
theorem scan_decimal {x : Int} (range : Serializer.InRange x) {rest : List Char}
    (stops : Stops rest) :
    scan (Serializer.decimal x ++ rest) =
      (if x < 0 then .valueInteger x else .valueUnsigned x.toNat, rest) := by
  obtain ⟨low, high⟩ := range
  unfold Serializer.decimal
  by_cases negative : x < 0
  · have value : -(x.natAbs : Int) = x := by omega
    rw [if_pos negative, if_pos negative,
      scan_negative (n := x.natAbs) (by omega) stops, value]
  · rw [if_neg negative, if_neg negative, scan_digits (by omega) stops]

end Lexer

open Serializer Lexer in
/-- **Round trip of integers.** Every integer of 64 bits, signed or not, is written without a write
beyond the buffer, whatever the buffer holds from before, and is scanned back wherever the text goes
on with something that is no part of a number. -/
theorem integer_round_trip {x : Int} (range : InRange x) (cells : Vector Char 64) :
    ∃ text after, dumpInteger x cells = .ok (text, after) ∧ ∀ rest, Stops rest →
      scan (text ++ rest) =
        (if x < 0 then .valueInteger x else .valueUnsigned x.toNat, rest) := by
  obtain ⟨after, printed⟩ := dumpInteger_eq range cells
  exact ⟨decimal x, after, printed, fun rest stops => scan_decimal range stops⟩

open Serializer Lexer in
/-- The smallest integer, whose absolute value is no signed integer, is written and scanned. -/
theorem integer_round_trip_lowest : ∃ text after,
    dumpInteger (-2 ^ 63) (Vector.replicate 64 'x') = .ok (text, after) ∧
      scan (text ++ [']']) = (.valueInteger (-2 ^ 63), [']']) := by
  have range : InRange (-2 ^ 63) := ⟨by decide, by decide⟩
  obtain ⟨text, after, printed, scanned⟩ := integer_round_trip range (Vector.replicate 64 'x')
  refine ⟨text, after, printed, ?_⟩
  rw [scanned [']'] fun c member => by cases member; decide]
  rfl

end RcDynamics
