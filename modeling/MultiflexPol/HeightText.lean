/-
This file states which strings `ParseHeightFlexible` accepts.
-/

import MultiflexPol.Rpc
import Mathlib.Data.String.Basic

namespace Multiflex.Pol

/-- A text `std::stoll` reads completely as `value`: blanks, a sign, digits. -/
def HeightText (text : List Char) (value : Int) : Prop :=
  ∃ blanks sign digits, text = blanks ++ sign ++ digits ∧ (∀ c ∈ blanks, isSpace c = true) ∧
    (sign = [] ∨ sign = ['+'] ∨ sign = ['-']) ∧ digits ≠ [] ∧ (∀ c ∈ digits, c.isDigit = true) ∧
    value = (if sign = ['-'] then -1 else 1) * decimalValue digits

/-- `std::stoll` after its blanks: the sign it reads and the rest. -/
theorem stoll_eq_sign (text : List Char) :
    ∃ sign rest, (sign = [] ∨ sign = ['+'] ∨ sign = ['-']) ∧
      (sign = [] → ∀ c ∈ rest.head?, c ≠ '-' ∧ c ≠ '+') ∧
      text = text.takeWhile isSpace ++ sign ++ rest ∧
      stoll text =
        let digits := rest.takeWhile Char.isDigit
        let value : Int := (if sign = ['-'] then -1 else 1) * decimalValue digits
        if digits = [] ∨ ¬ FitsInt64 value then none
        else some (value, (text.takeWhile isSpace).length + sign.length + digits.length) := by
  have whole : text = text.takeWhile isSpace ++ text.drop (text.takeWhile isSpace).length :=
    ((congrArg (· ++ _) (List.prefix_iff_eq_take.1 (List.takeWhile_prefix _))).trans
      (List.take_append_drop _ _)).symm
  unfold stoll
  dsimp only
  revert whole
  generalize text.drop (text.takeWhile isSpace).length = after
  intro whole
  rcases after with _ | ⟨c, rest⟩
  · exact ⟨[], [], .inl rfl, by simp, by simpa using whole, rfl⟩
  by_cases minus : c = '-'
  · subst minus
    exact ⟨['-'], rest, .inr (.inr rfl), by simp, by simpa using whole, rfl⟩
  by_cases plus : c = '+'
  · subst plus
    exact ⟨['+'], rest, .inr (.inl rfl), by simp, by simpa using whole, rfl⟩
  refine ⟨[], c :: rest, .inl rfl, fun _ d first => ?_, by simpa using whole, ?_⟩
  · cases first
    exact ⟨minus, plus⟩
  · delta stoll.match_1
    dsimp only
    simp only [minus, plus, dite_false]
    rfl

/-- No decimal digit is white space. -/
theorem isSpace_of_isDigit {c : Char} (digit : c.isDigit = true) : isSpace c = false := by
  simp only [Char.isDigit, Bool.and_eq_true, decide_eq_true_eq] at digit
  have low := @UInt32.le_toNat_of_le _ 48 (by decide) digit.1
  have high := @UInt32.toNat_le_of_le _ 57 (by decide) digit.2
  simp only [isSpace, Char.toNat, Bool.or_eq_false_iff, beq_eq_false_iff_ne, Bool.and_eq_false_iff,
    decide_eq_false_iff_not]
  omega

/-- The parts of a text that `std::stoll` reads to its end. -/
theorem heightText_of_parts {text blanks sign rest : List Char}
    (whole : text = blanks ++ sign ++ rest) (spaces : ∀ c ∈ blanks, isSpace c = true)
    (signed : sign = [] ∨ sign = ['+'] ∨ sign = ['-'])
    (nonempty : rest.takeWhile Char.isDigit ≠ [])
    (read : blanks.length + sign.length + (rest.takeWhile Char.isDigit).length = text.length) :
    HeightText text ((if sign = ['-'] then -1 else 1) * decimalValue (rest.takeWhile Char.isDigit)) := by
  have tail := List.takeWhile_append_dropWhile Char.isDigit rest
  have lengths := congrArg List.length tail
  rw [whole] at read
  simp only [List.length_append] at read lengths
  have nothingAfter : rest.dropWhile Char.isDigit = [] := List.eq_nil_of_length_eq_zero (by omega)
  rw [nothingAfter, List.append_nil] at tail
  exact ⟨blanks, sign, _, by rw [whole, tail], spaces, signed, nonempty,
    fun c mem => List.mem_takeWhile_imp mem, rfl⟩

/-- What `std::stoll` reads to the end is a height text of a `long long`. -/
theorem heightText_of_stoll {text : List Char} {value : Int}
    (parsed : stoll text = some (value, text.length)) : HeightText text value ∧ FitsInt64 value := by
  obtain ⟨sign, rest, signed, -, whole, read⟩ := stoll_eq_sign text
  rw [read] at parsed
  dsimp only at parsed
  rw [Option.ite_none_left_eq_some, not_or, not_not] at parsed
  obtain ⟨rejected, parsed⟩ := parsed
  obtain ⟨rfl, length⟩ := Prod.mk.inj (Option.some.inj parsed)
  exact ⟨heightText_of_parts whole (fun c mem => List.mem_takeWhile_imp mem) signed rejected.1 length,
    rejected.2⟩

/-- A height text of a `long long` is read to its end. -/
theorem stoll_of_heightText {text : List Char} {value : Int} (wellFormed : HeightText text value)
    (fits : FitsInt64 value) : stoll text = some (value, text.length) := by
  obtain ⟨blanks, sign, digits, rfl, spaces, signed, nonempty, allDigits, rfl⟩ := wellFormed
  obtain ⟨d, ds, rfl⟩ := List.exists_cons_of_ne_nil nonempty
  have firstDigit := allDigits d (List.mem_cons_self _ _)
  have blanksRead : (blanks ++ sign ++ d :: ds).takeWhile isSpace = blanks := by
    rw [List.append_assoc, List.takeWhile_append_of_pos spaces]
    rcases signed with rfl | rfl | rfl <;>
      simp [isSpace_of_isDigit firstDigit, show isSpace '+' = false by decide,
        show isSpace '-' = false by decide]
  obtain ⟨sign', rest', signed', unsigned', whole', read⟩ := stoll_eq_sign (blanks ++ sign ++ d :: ds)
  rw [blanksRead, List.append_assoc, List.append_assoc] at whole'
  have same := List.append_cancel_left whole'
  obtain ⟨rfl, rfl⟩ : sign' = sign ∧ rest' = d :: ds := by
    rcases signed with rfl | rfl | rfl <;> rcases signed' with rfl | rfl | rfl <;>
      simp only [List.nil_append, List.singleton_append, List.cons.injEq, true_and] at same <;>
      first
        | exact ⟨rfl, same.symm⟩
        | exact absurd (same.1 ▸ firstDigit) (by decide)
        | exact absurd (unsigned' rfl _ (by rw [← same]; rfl)) (by decide)
        | exact absurd same.1 (by decide)
  rw [read, blanksRead, List.takeWhile_eq_self_iff.2 allDigits]
  dsimp only
  rw [if_neg (not_or.2 ⟨List.cons_ne_nil _ _, not_not.2 fits⟩), List.length_append,
    List.length_append, Nat.add_assoc]

theorem stoll_of_isEmpty {s : String} (empty : s.isEmpty = true) : stoll s.data = none := by
  rw [(String.isEmpty_iff s).1 empty]
  rfl

/-- Where `std::stoll` reads all of it, the value is returned or out of range. -/
theorem parseHeightFlexible_str_of_stoll {s : String} {value : Int}
    (read : stoll s.data = some (value, s.length)) :
    parseHeightFlexible (.str s) =
      if value < 0 ∨ value > 2147483647 then
        .error (.jsonRpc RPC_INVALID_PARAMETER "height out of range")
      else .ok value := by
  have nonempty : s.isEmpty = false :=
    Bool.eq_false_iff.2 fun empty => by rw [stoll_of_isEmpty empty] at read; cases read
  simp only [parseHeightFlexible, nonempty, Bool.false_eq_true, ↓reduceIte]
  rw [show s.toList = s.data from rfl, read]
  simp

/-- Where it does not, the string is not a number. -/
theorem parseHeightFlexible_str_of_not_stoll {s : String}
    (unread : ∀ value, stoll s.data ≠ some (value, s.length)) :
    parseHeightFlexible (.str s) = .error (.jsonRpc RPC_INVALID_PARAMETER "height must be a number") := by
  simp only [parseHeightFlexible]
  split_ifs
  · rfl
  rw [show s.toList = s.data from rfl]
  split
  · rfl
  · next value idx read =>
    rw [if_pos fun (same : idx = s.length) => unread value (same ▸ read)]

/-- `ParseHeightFlexible` accepts exactly the decimal strings of values in `[0, INT_MAX]`. -/
theorem parseHeightFlexible_str (s : String) (height : Int) :
    (parseHeightFlexible (.str s) = .ok height ↔
      HeightText s.data height ∧ 0 ≤ height ∧ height ≤ 2147483647) ∧
    (HeightText s.data height → FitsInt64 height → (height < 0 ∨ 2147483647 < height) →
      parseHeightFlexible (.str s) = .error (.jsonRpc RPC_INVALID_PARAMETER "height out of range")) ∧
    ((∀ value, HeightText s.data value → ¬ FitsInt64 value) →
      parseHeightFlexible (.str s) =
        .error (.jsonRpc RPC_INVALID_PARAMETER "height must be a number")) := by
  refine ⟨⟨fun accepted => ?_, fun ⟨wellFormed, low, high⟩ => ?_⟩,
    fun wellFormed fits outside => ?_, fun overflows => ?_⟩
  · by_cases read : ∃ value, stoll s.data = some (value, s.length)
    · obtain ⟨value, read⟩ := read
      rw [parseHeightFlexible_str_of_stoll read] at accepted
      split_ifs at accepted with outside
      cases accepted
      exact ⟨(heightText_of_stoll read).1, by omega, by omega⟩
    · rw [parseHeightFlexible_str_of_not_stoll fun value same => read ⟨value, same⟩] at accepted
      cases accepted
  · have fits : FitsInt64 height := by unfold FitsInt64; omega
    rw [parseHeightFlexible_str_of_stoll (stoll_of_heightText wellFormed fits), if_neg (by omega)]
  · rw [parseHeightFlexible_str_of_stoll (stoll_of_heightText wellFormed fits), if_pos (by omega)]
  · exact parseHeightFlexible_str_of_not_stoll fun value read =>
      overflows value (heightText_of_stoll read).1 (heightText_of_stoll read).2

theorem parseHeightFlexible_str_outOfRange :
    (HeightText "3000000000".data 3000000000 ∧ FitsInt64 3000000000 ∧
        ((3000000000 : Int) < 0 ∨ 2147483647 < (3000000000 : Int)) ∧
      parseHeightFlexible (.str "3000000000") =
        .error (.jsonRpc RPC_INVALID_PARAMETER "height out of range")) ∧
    ((∀ value, HeightText "12a".data value → ¬ FitsInt64 value) ∧
      parseHeightFlexible (.str "12a") =
        .error (.jsonRpc RPC_INVALID_PARAMETER "height must be a number")) :=
  have wellFormed : HeightText "3000000000".data 3000000000 :=
    ⟨[], [], "3000000000".data, rfl, by simp, .inl rfl, by decide, by decide, by decide⟩
  have trailing : ∀ value, HeightText "12a".data value → ¬ FitsInt64 value :=
    fun _ ⟨_, _, digits, whole, _, _, nonempty, allDigits, _⟩ => by
      have last := congrArg List.getLast? whole
      rw [List.getLast?_append_of_ne_nil _ nonempty] at last
      exact absurd (allDigits 'a' (List.mem_of_getLast?_eq_some (by rw [← last]; rfl))) (by decide)
  ⟨⟨wellFormed, by decide, .inr (by decide),
      (parseHeightFlexible_str "3000000000" 3000000000).2.1 wellFormed (by decide) (.inr (by decide))⟩,
    ⟨trailing, (parseHeightFlexible_str "12a" 0).2.2 trailing⟩⟩

end Multiflex.Pol
