/-
**Strings and numbers as they are written.**

A written string is read back character by character, whatever is escaped in it (`readString_writeString`). A
double is spelled with a whole part, a fraction and an exponent (`Spelling`). However the digits of its
decimal are laid out, the spelling has the value of the decimal (`exists_spelling`), and so **a written double
is read back** (`exists_spelling_render`).

The lengths of numbers are checked apart from that, character by character over the whole text
(`numbersFitFrom`): strings do not count there, and the spelled numbers are short.
-/

import Mathlib.Data.List.Basic
import PromptChain.Proofs.Rounding
import PromptChain.Proofs.Text
import PromptChain.Transcript

namespace PromptChain.Json

/-! ### Strings -/

/-- The escape of a control character, digit by digit. -/
theorem hexDigits_control : ∀ code : Fin 32, ∃ a b : Char, Text.hexDigits 4 code = ['0', '0', a, b] ∧
    fourHex? '0' '0' a b = some code.val ∧ (a ≠ '"' ∧ a ≠ '\\' ∧ a ≠ '\r') ∧ b ≠ '"' ∧ b ≠ '\\' ∧ b ≠ '\r' := by
  intro code
  refine ⟨(Text.hexDigits 4 code).getD 2 'x', (Text.hexDigits 4 code).getD 3 'x', ?_⟩
  revert code
  decide

theorem push_toNat (before : List Char) (c : Char) :
    Gathered.push (some before) c.toNat = some (c :: before) := by
  have isHalf : (isHighHalf c.toNat || isLowHalf c.toNat) = false := by
    have := c.valid
    simp only [isHighHalf, isLowHalf, Bool.or_eq_false_iff, Bool.and_eq_false_iff, decide_eq_false_iff_not]
    simp only [UInt32.isValidChar, Nat.isValidChar] at this
    have : c.toNat = c.val.toNat := rfl
    omega
  rw [Gathered.push, isHalf, if_neg (by decide)]
  simp [Char.ofNat_toNat]

section String

variable (whole before : List Char)

theorem readString_unicode {a b c d : Char} {code : Nat} (isCode : fourHex? a b c d = some code)
    (noHalf : isHighHalf code = false) (e : Char) (rest : List Char) :
    readString whole ('\\' :: 'u' :: a :: b :: c :: d :: e :: rest) (some before)
      = readString whole (e :: rest) (Gathered.push (some before) code) := by
  rcases rest with _ | ⟨f, _ | ⟨g, _ | ⟨h, _ | ⟨i, _ | ⟨j, _ | ⟨k, rest⟩⟩⟩⟩⟩⟩ <;>
    simp [readString, isCode, noHalf]

theorem readString_plain {c : Char} (noQuote : c ≠ '"') (noBackslash : c ≠ '\\') (noControl : ¬ c.toNat < 0x20)
    (rest : List Char) : readString whole (c :: rest) (some before)
      = readString whole rest (Gathered.push (some before) c.toNat) := by
  rw [readString.eq_8 whole _ c rest noQuote, if_neg noControl]
  all_goals
    intros
    contradiction

/-- **A written character is read back.** -/
theorem readString_writeChar (c e : Char) (rest : List Char) :
    readString whole (writeChar false c ++ e :: rest) (some before)
      = readString whole (e :: rest) (some (c :: before)) := by
  rw [← push_toNat]
  unfold writeChar
  split
  iterate 7 (· simp [readString, shortEscape?])
  · rename_i noQuote noBackslash _ _ _ _ _
    simp only
    split
    · rename_i isControl
      obtain ⟨a, b, digits, isCode, _⟩ := hexDigits_control ⟨c.toNat, isControl⟩
      have noHalf : isHighHalf c.toNat = false := by
        simp only [isHighHalf, Bool.and_eq_false_iff, decide_eq_false_iff_not]
        omega
      rw [unicodeEscape, digits]
      exact readString_unicode whole before isCode noHalf e rest
    · rename_i noControl
      exact readString_plain whole before noQuote noBackslash noControl (e :: rest)

/-- **A written string is read back.** -/
theorem readString_writeString (text : String) (rest : List Char) :
    readString whole (text.toList.flatMap (writeChar false) ++ '"' :: rest) (some [])
      = .ok (.str text, rest) := by
  have behind (chars before : List Char) :
      readString whole (chars.flatMap (writeChar false) ++ '"' :: rest) (some before)
        = .ok (.str (String.ofList (before.reverse ++ chars)), rest) := by
    induction chars generalizing before with
    | nil => simp [readString, Gathered.value]
    | cons c chars ih =>
      obtain ⟨e, more, isMore⟩ : ∃ e more, chars.flatMap (writeChar false) ++ '"' :: rest = e :: more :=
        List.exists_cons_of_ne_nil (by simp)
      rw [List.flatMap_cons, List.append_assoc, isMore, readString_writeChar, ← isMore, ih]
      simp
  simpa using behind text.toList []

end String

/-- No part of a written string counts as a number. -/
theorem numbersFitFrom_writeChar (c : Char) (rest : List Char) :
    numbersFitFrom .string (writeChar false c ++ rest) = numbersFitFrom .string rest := by
  unfold writeChar
  split
  iterate 7 (· rfl)
  · rename_i noQuote noBackslash _ _ _ _ _
    simp only
    split
    · rename_i isControl
      obtain ⟨a, b, digits, _, ⟨noQuote, noBackslash, _⟩, noQuoteToo, noBackslashToo, _⟩ :=
        hexDigits_control ⟨c.toNat, isControl⟩
      rw [unicodeEscape, digits]
      simp [numbersFitFrom, Place.next, noQuote, noBackslash, noQuoteToo, noBackslashToo]
    · have isNext : Place.next .string c = .string := by
        simp only [Place.next, beq_iff_eq]
        rw [if_neg noQuote, if_neg noBackslash]
      show numbersFitFrom .string (c :: rest) = _
      rw [numbersFitFrom, isNext]

theorem numbersFitFrom_writeString (text : String) (rest : List Char) :
    numbersFitFrom .between (writeString false text ++ rest) = numbersFitFrom .between rest := by
  have inside (chars : List Char) :
      numbersFitFrom .string (chars.flatMap (writeChar false) ++ '"' :: rest)
        = numbersFitFrom .between rest := by
    induction chars with
    | nil => rfl
    | cons c chars ih => rw [List.flatMap_cons, List.append_assoc, numbersFitFrom_writeChar, ih]
  simp only [writeString, List.cons_append, List.append_assoc, List.nil_append]
  exact inside text.toList

/-- Carriage returns are escaped. -/
theorem return_notMem_writeString (text : String) : '\r' ∉ writeString false text := by
  have inChar (c : Char) : '\r' ∉ writeChar false c := by
    unfold writeChar
    split
    iterate 7 (· decide)
    · rename_i noReturn _ _ _
      simp only
      split
      · rename_i isControl
        obtain ⟨a, b, digits, _, ⟨_, _, noReturn⟩, _, _, noReturnToo⟩ := hexDigits_control ⟨c.toNat, isControl⟩
        rw [unicodeEscape, digits]
        simp [noReturn.symm, noReturnToo.symm]
      · simp [Ne.symm noReturn]
  simp [writeString, inChar]

/-! ### Numbers -/

open Decimal (nearest magnitudeBits infiniteBits Scientific padded significantDigits)

theorem numberOf_eq (digits : List Char) : numberOf digits = Nat.ofDigitChars 10 digits 0 := by
  rw [numberOf, Nat.ofDigitChars_eq_foldl]
  simp only [Nat.mul_comm]
  rfl

theorem numberOf_append (first second : List Char) :
    numberOf (first ++ second) = numberOf first * 10 ^ second.length + numberOf second := by
  rw [numberOf_eq, numberOf_eq, numberOf_eq, Nat.ofDigitChars_append, Nat.ofDigitChars_eq_ofDigitChars_zero]
  ring

theorem numberOf_replicate (count : Nat) : numberOf (List.replicate count '0') = 0 := by
  rw [numberOf_eq, Nat.ofDigitChars_replicate_zero, Nat.mul_zero]

/-- A text of digits. -/
def AreDigits (text : List Char) : Prop := ∀ c ∈ text, isDigit c = true

theorem areDigits_toDigits (value : Nat) : AreDigits (Nat.toDigits 10 value) := fun _ member =>
  Nat.isDigit_of_mem_toDigits (by decide) (by decide) member

theorem areDigits_zeros (count : Nat) : AreDigits (List.replicate count '0') := by
  intro c member
  rw [List.eq_of_mem_replicate member]
  rfl

theorem AreDigits.append {first second : List Char} (areFirst : AreDigits first) (areSecond : AreDigits second) :
    AreDigits (first ++ second) := by
  intro c member
  exact (List.mem_append.mp member).elim (areFirst c) (areSecond c)

/-- What follows a value: the end, or a comma, or a new line. -/
def IsBehind (rest : List Char) : Prop := rest = [] ∨ ∃ c more, rest = c :: more ∧ (c = ',' ∨ c = '\n')

/-- The digits before the point: a zero stands alone. -/
structure IsWholePart (whole : List Char) : Prop where
  digits : AreDigits whole
  someDigit : whole ≠ []
  lone : whole.head? = some '0' → whole = ['0']

def signOf (negative : Bool) : List Char := if negative then ['-'] else []

def pointed (fraction : List Char) : List Char := if fraction = [] then [] else '.' :: fraction

def raised : Option Int → List Char
  | none => []
  | some exponent =>
    'e' :: (if exponent < 0 then '-' else '+') :: padded Transcript.style.numbers.exponentWidth exponent.natAbs

/-- The spelling of a double: some digits, and a fraction or an exponent. -/
structure Spelling where
  whole : List Char
  fraction : List Char
  exponent : Option Int
  isWhole : IsWholePart whole
  digits : AreDigits fraction
  isDouble : fraction ≠ [] ∨ exponent ≠ none
  isShort : whole.length ≤ 16

namespace Spelling

def text (spelling : Spelling) : List Char :=
  spelling.whole ++ (pointed spelling.fraction ++ raised spelling.exponent)

def decimal (spelling : Spelling) : Scientific :=
  ⟨numberOf (spelling.whole ++ spelling.fraction), spelling.exponent.getD 0 - spelling.fraction.length⟩

end Spelling

theorem numberOf_padded (width value : Nat) : numberOf (padded width value) = value := by
  simp only [padded]
  rw [numberOf_append, numberOf_replicate, Nat.zero_mul, Nat.zero_add, numberOf_eq,
    Nat.ofDigitChars_ten_toDigits]

theorem areDigits_padded (width value : Nat) : AreDigits (padded width value) :=
  (areDigits_zeros _).append (areDigits_toDigits value)

section Reading

variable {rest : List Char}

theorem IsBehind.stops (behind : IsBehind rest) : Text.Stops isDigit rest := by
  rcases behind with rfl | ⟨c, more, rfl, rfl | rfl⟩
  · exact .nil _
  · exact .cons (by decide) _
  · exact .cons (by decide) _

/-- An exponent is read back, and its mark is no digit. -/
theorem readExponent_raised (behind : IsBehind rest) (exponent : Option Int) :
    readExponent (raised exponent ++ rest) = (exponent, rest) ∧
      Text.Stops isDigit (raised exponent ++ rest) := by
  cases exponent with
  | none =>
    refine ⟨?_, behind.stops⟩
    rcases behind with rfl | ⟨c, more, rfl, rfl | rfl⟩ <;> rfl
  | some exponent =>
    refine ⟨?_, .cons (by decide) _⟩
    let digits := padded Transcript.style.numbers.exponentWidth exponent.natAbs
    have someDigit : ¬ digits.isEmpty = true := by
      simp [digits, padded, Nat.toDigits_ne_nil]
    have taken : (digits ++ rest).takeWhile isDigit = digits :=
      Text.takeWhile_append_stops (areDigits_padded _ _) behind.stops
    have dropped : (digits ++ rest).dropWhile isDigit = rest :=
      Text.dropWhile_append_stops (areDigits_padded _ _) behind.stops
    have isNumber : numberOf digits = exponent.natAbs := numberOf_padded _ _
    have isRead (negative : Bool) (whole : List Char) : readExponentDigits negative (digits ++ rest) whole
        = (some (if negative then -(exponent.natAbs : Int) else exponent.natAbs), rest) := by
      simp only [readExponentDigits, taken, dropped, if_neg someDigit, isNumber]
    by_cases isLess : exponent < 0
    · have isText : raised (some exponent) ++ rest = 'e' :: '-' :: (digits ++ rest) := by
        simp [raised, isLess, digits]
      rw [isText]
      refine (isRead true _).trans ?_
      rw [if_pos rfl, show -(exponent.natAbs : Int) = exponent by omega]
    · have isText : raised (some exponent) ++ rest = 'e' :: '+' :: (digits ++ rest) := by
        simp [raised, isLess, digits]
      rw [isText]
      refine (isRead false _).trans ?_
      rw [if_neg (by decide), show (exponent.natAbs : Int) = exponent by omega]

/-- A fraction is read back, and its point is no digit. -/
theorem readFraction_pointed {fraction : List Char} (digits : AreDigits fraction)
    (stops : Text.Stops isDigit rest) (noPoint : rest.head? ≠ some '.') :
    readFraction (pointed fraction ++ rest) = (fraction, rest) ∧
      Text.Stops isDigit (pointed fraction ++ rest) := by
  rw [pointed]
  split
  · rename_i isNone
    subst isNone
    refine ⟨?_, stops⟩
    rw [List.nil_append]
    unfold readFraction
    split
    · exact absurd rfl noPoint
    · rfl
  · rename_i someDigit
    refine ⟨?_, .cons (by decide) _⟩
    simp [readFraction, Text.takeWhile_append_stops digits stops,
      Text.dropWhile_append_stops digits stops, someDigit]

/-- **A number with a fraction or an exponent is read as a double.** -/
theorem Spelling.readNumber_eq (spelling : Spelling) (negative : Bool) (behind : IsBehind rest) :
    readNumber (signOf negative ++ (spelling.text ++ rest))
      = .ok (.float (nearest negative spelling.decimal), rest) := by
  obtain ⟨whole, fraction, exponent, isWhole, digits, isDouble, _⟩ := spelling
  obtain ⟨exponentRead, stops⟩ := readExponent_raised behind exponent
  have noPoint : (raised exponent ++ rest).head? ≠ some '.' := by
    cases exponent with
    | none => rcases behind with rfl | ⟨c, more, rfl, rfl | rfl⟩ <;> simp [raised]
    | some exponent => simp [raised]
  obtain ⟨fractionRead, stopsToo⟩ := readFraction_pointed digits stops noPoint
  obtain ⟨first, more, rfl⟩ := List.exists_cons_of_ne_nil isWhole.someDigit
  have noSign : first ≠ '-' := by
    rintro rfl
    exact absurd (isWhole.digits '-' List.mem_cons_self) (by decide)
  let unsigned := first :: more ++ (pointed fraction ++ (raised exponent ++ rest))
  have isUnsigned : first :: more ++ (pointed fraction ++ raised exponent) ++ rest = unsigned := by
    simp [unsigned]
  have isSigned : takeSign (signOf negative ++ unsigned) = (negative, unsigned) := by
    cases negative
    · exact takeSign.eq_2 _ (fun _ same => noSign (List.cons.inj same).1)
    · rfl
  have isDigits : wholeDigits unsigned = first :: more := by
    by_cases isZero : first = '0'
    · subst isZero
      exact (isWhole.lone rfl).symm
    · refine (wholeDigits.eq_2 _ fun _ same => isZero (List.cons.inj same).1).trans ?_
      exact Text.takeWhile_append_stops isWhole.digits stopsToo
  have notWhole : ¬ (fraction.isEmpty && exponent.isNone) = true := by
    rcases isDouble with someDigit | someExponent <;> simp [*]
  have isTail : unsigned.drop (first :: more).length = pointed fraction ++ (raised exponent ++ rest) :=
    List.drop_left
  show readNumber (signOf negative ++ (first :: more ++ (pointed fraction ++ raised exponent) ++ rest)) = _
  rw [isUnsigned]
  unfold readNumber
  simp only [isSigned, isDigits, List.isEmpty_cons, Bool.false_eq_true, if_false, isTail, fractionRead,
    exponentRead, if_neg notWhole]
  rfl

theorem Spelling.return_notMem (spelling : Spelling) : '\r' ∉ spelling.text := by
  have inDigits {digits : List Char} (areDigits : AreDigits digits) : '\r' ∉ digits := fun member =>
    absurd (areDigits _ member) (by decide)
  have inFraction : '\r' ∉ pointed spelling.fraction := by
    rw [pointed]
    split
    · simp
    · simp [inDigits spelling.digits]
  have inExponent : '\r' ∉ raised spelling.exponent := by
    cases spelling.exponent with
    | none => simp [raised]
    | some exponent =>
      have inPadded := inDigits (areDigits_padded Transcript.style.numbers.exponentWidth exponent.natAbs)
      simp only [raised, List.mem_cons, not_or]
      refine ⟨by decide, ?_, inPadded⟩
      split <;> decide
  simp [Spelling.text, inDigits spelling.isWhole.digits, inFraction, inExponent]

theorem numbersFitFrom_whole {digits : List Char} (areDigits : AreDigits digits) (length : Nat)
    (isShort : length + digits.length ≤ longestNumber) :
    numbersFitFrom (.whole length) (digits ++ rest) = numbersFitFrom (.whole (length + digits.length)) rest := by
  induction digits generalizing length with
  | nil => rfl
  | cons c digits ih =>
    have isNext : Place.next (.whole length) c = .whole (length + 1) := by
      simp only [Place.next, areDigits c List.mem_cons_self, if_true]
    rw [List.length_cons] at isShort
    rw [List.cons_append, numbersFitFrom, isNext]
    simp only [decide_eq_true (show length + 1 ≤ longestNumber by omega), Bool.true_and]
    rw [ih (List.forall_mem_cons.mp areDigits).2 (length + 1) (by omega), List.length_cons]
    congr 2
    omega

/-- Characters that do not leave a place are passed over. -/
theorem numbersFitFrom_append {place : Place} {text : List Char} (notWhole : ∀ length, place ≠ .whole length)
    (stays : ∀ c ∈ text, place.next c = place) :
    numbersFitFrom place (text ++ rest) = numbersFitFrom place rest := by
  induction text with
  | nil => rfl
  | cons c text ih =>
    rw [List.cons_append, numbersFitFrom, stays c List.mem_cons_self]
    cases place with
    | whole length => exact absurd rfl (notWhole length)
    | _ => exact ih (List.forall_mem_cons.mp stays).2

/-- **A short number fits.** -/
theorem Spelling.numbersFitFrom_eq (spelling : Spelling) (negative : Bool) (behind : IsBehind rest) :
    numbersFitFrom .between (signOf negative ++ (spelling.text ++ rest)) = numbersFitFrom .between rest := by
  obtain ⟨whole, fraction, exponent, isWhole, digits, isDouble, isShort⟩ := spelling
  have atEnd : numbersFitFrom .behindWhole rest = numbersFitFrom .between rest := by
    rcases behind with rfl | ⟨c, more, rfl, rfl | rfl⟩ <;> rfl
  have ofDigit (c : Char) (isDigit : isDigit c = true) : Place.next .behindWhole c = .behindWhole := by
    simp [Place.next, isDigit]
  have ofDigits (digits : List Char) (areDigits : AreDigits digits) (c : Char) (member : c ∈ digits) :
      Place.next .behindWhole c = .behindWhole := ofDigit c (areDigits c member)
  have ofRaised (c : Char) (member : c ∈ raised exponent) : Place.next .behindWhole c = .behindWhole := by
    cases exponent with
    | none => cases member
    | some exponent =>
      rcases List.mem_cons.mp member with rfl | member
      · rfl
      · rcases List.mem_cons.mp member with rfl | member
        · split <;> rfl
        · exact ofDigits _ (areDigits_padded _ _) c member
  -- What stands behind the whole part belongs to the number.
  obtain ⟨mark, tail, isTail, isMark, stays⟩ : ∃ mark tail, pointed fraction ++ raised exponent = mark :: tail ∧
      (mark = '.' ∨ mark = 'e') ∧ ∀ c ∈ tail, Place.next .behindWhole c = .behindWhole := by
    by_cases isNone : fraction = []
    · cases exponent with
      | none => exact absurd rfl (isDouble.resolve_left (fun some => some isNone))
      | some exponent =>
        exact ⟨'e', _, by rw [pointed, if_pos isNone]; rfl, Or.inr rfl, (List.forall_mem_cons.mp ofRaised).2⟩
    · refine ⟨'.', fraction ++ raised exponent, by rw [pointed, if_neg isNone]; rfl, Or.inl rfl,
        fun c member => ?_⟩
      exact (List.mem_append.mp member).elim (ofDigits _ digits c) (ofRaised c)
  have behindWhole (length : Nat) :
      numbersFitFrom (.whole length) (mark :: tail ++ rest) = numbersFitFrom .between rest := by
    have isBehind : numbersFitFrom (.whole length) (mark :: tail ++ rest)
        = numbersFitFrom .behindWhole (tail ++ rest) := by
      rcases isMark with rfl | rfl <;> rfl
    rw [isBehind, numbersFitFrom_append (by simp) stays, atEnd]
  obtain ⟨first, more, rfl⟩ := List.exists_cons_of_ne_nil isWhole.someDigit
  show numbersFitFrom .between
    (signOf negative ++ (first :: more ++ (pointed fraction ++ raised exponent) ++ rest)) = _
  rw [isTail, List.append_assoc]
  cases negative with
  | true =>
    show numbersFitFrom (.whole 1) (first :: more ++ (mark :: tail ++ rest)) = _
    rw [numbersFitFrom_whole isWhole.digits 1 (by simp only [longestNumber]; omega), behindWhole]
  | false =>
    have firstDigit := isWhole.digits first List.mem_cons_self
    have noQuote : first ≠ '"' := by
      rintro rfl
      exact absurd firstDigit (by decide)
    have isNext : Place.next .between first = .whole 1 := by simp [Place.next, noQuote, firstDigit]
    show numbersFitFrom .between (first :: (more ++ (mark :: tail ++ rest))) = _
    rw [numbersFitFrom, isNext]
    rw [List.length_cons] at isShort
    have moreDigits : AreDigits more := (List.forall_mem_cons.mp isWhole.digits).2
    exact (numbersFitFrom_whole moreDigits 1 (by simp only [longestNumber]; omega)).trans (behindWhole _)

end Reading

/-! ### Doubles -/

theorem head?_toDigits {value : Nat} (positive : 0 < value) : (Nat.toDigits 10 value).head? ≠ some '0' := by
  induction value using Nat.strongRecOn with
  | ind value ih =>
    rw [Nat.toDigits_eq_if (by decide)]
    split
    · rename_i isDigit
      have (digit : Fin 10) (someDigit : 0 < digit.val) : digit.val.digitChar ≠ '0' := by
        revert digit
        decide
      simpa using this ⟨value, isDigit⟩ positive
    · rw [List.head?_append_of_ne_nil _ Nat.toDigits_ne_nil]
      exact ih (value / 10) (by omega) (by omega)

/-- The digits of a number are those that count and zeros. -/
theorem exists_toDigits_eq {value : Nat} (positive : 0 < value) :
    ∃ zeros, Nat.toDigits 10 value = significantDigits value ++ List.replicate zeros '0' ∧
      significantDigits value ≠ [] := by
  let reversed := (Nat.toDigits 10 value).reverse
  have isZeros : reversed.takeWhile (· == '0') = List.replicate (reversed.takeWhile (· == '0')).length '0' :=
    List.eq_replicate_of_mem fun c member => by simpa using List.mem_takeWhile_imp member
  have split : Nat.toDigits 10 value = (reversed.dropWhile (· == '0')).reverse
      ++ List.replicate (reversed.takeWhile (· == '0')).length '0' := by
    rw [← List.reverse_replicate, ← isZeros, ← List.reverse_append, List.takeWhile_append_dropWhile,
      List.reverse_reverse]
  have someKept : (reversed.dropWhile (· == '0')).reverse ≠ [] := by
    intro none
    have isValue := @Nat.ofDigitChars_ten_toDigits value
    rw [split, none, List.nil_append, Nat.ofDigitChars_replicate_zero, Nat.mul_zero] at isValue
    exact positive.ne isValue
  have isKept : significantDigits value = (reversed.dropWhile (· == '0')).reverse := by
    unfold significantDigits
    split
    · rename_i none
      exact absurd none someKept
    · rfl
  rw [isKept]
  exact ⟨_, split, someKept⟩

section Render

/-- The place of the point, from the first digit on. -/
def pointOf (decimal : Scientific) : Int := (Nat.toDigits 10 decimal.digits).length + decimal.exponent

variable {decimal : Scientific} (positive : 0 < decimal.digits)

include positive

theorem areDigits_significantDigits : AreDigits (significantDigits decimal.digits) := by
  obtain ⟨zeros, isDigits, _⟩ := exists_toDigits_eq positive
  intro c member
  refine areDigits_toDigits decimal.digits c ?_
  rw [isDigits]
  exact List.mem_append_left _ member

theorem head?_significantDigits : (significantDigits decimal.digits).head? ≠ some '0' := by
  obtain ⟨zeros, isDigits, someDigit⟩ := exists_toDigits_eq positive
  have := head?_toDigits positive
  rwa [isDigits, List.head?_append_of_ne_nil _ someDigit] at this

/-- However many zeros are written around the digits, the value stays. -/
theorem value_zeros (front behind : Nat) (exponent : Int)
    (same : exponent + behind = pointOf decimal - (significantDigits decimal.digits).length) :
    Scientific.value ⟨numberOf (List.replicate front '0' ++ significantDigits decimal.digits
      ++ List.replicate behind '0'), exponent⟩ = decimal.value := by
  obtain ⟨zeros, isDigits, _⟩ := exists_toDigits_eq positive
  have isNumber : decimal.digits = numberOf (significantDigits decimal.digits) * 10 ^ zeros := by
    have := numberOf_append (significantDigits decimal.digits) (List.replicate zeros '0')
    rwa [numberOf_replicate, Nat.add_zero, List.length_replicate, ← isDigits, numberOf_eq,
      Nat.ofDigitChars_ten_toDigits] at this
  have isSum : exponent + behind = zeros + decimal.exponent := by
    rw [same, pointOf, isDigits, List.length_append, List.length_replicate]
    omega
  have isScaled : (decimal.digits : ℚ) = numberOf (significantDigits decimal.digits) * (10 : ℚ) ^ zeros := by
    exact_mod_cast isNumber
  simp only [Scientific.value, numberOf_append, numberOf_replicate, List.length_replicate, Nat.zero_mul,
    Nat.zero_add, Nat.add_zero]
  rw [isScaled]
  push_cast
  rw [mul_assoc, mul_assoc, ← zpow_natCast, ← zpow_natCast, ← zpow_add₀ (by decide), ← zpow_add₀ (by decide),
    Int.add_comm, isSum]

theorem isWholePart_of_prefix {count : Nat} (some : 0 < count) (zeros : Nat) :
    IsWholePart ((significantDigits decimal.digits).take count ++ List.replicate zeros '0') := by
  obtain ⟨_, _, someDigit⟩ := exists_toDigits_eq positive
  have areDigits := areDigits_significantDigits positive
  have noZero := head?_significantDigits positive
  have someTaken : (significantDigits decimal.digits).take count ≠ [] := by
    rw [ne_eq, List.take_eq_nil_iff]
    exact not_or.mpr ⟨some.ne', someDigit⟩
  refine ⟨AreDigits.append (fun c member => areDigits c (List.mem_of_mem_take member))
    (areDigits_zeros _), ?_, ?_⟩
  · exact List.append_ne_nil_of_left_ne_nil someTaken _
  · intro isZero
    rw [List.head?_append_of_ne_nil _ someTaken, List.head?_take, if_neg some.ne'] at isZero
    exact absurd isZero noZero

/-- One digit, the others behind the point, and the exponent. -/
theorem exists_spelling_raised :
    let digits := significantDigits decimal.digits
    ∃ spelling : Spelling, spelling.text = digits.take 1 ++ (pointed (digits.drop 1)
      ++ raised (some (pointOf decimal - 1))) ∧ spelling.decimal.value = decimal.value := by
  intro digits
  obtain ⟨_, _, someDigit⟩ := exists_toDigits_eq positive
  have isWhole := isWholePart_of_prefix positive Nat.one_pos 0
  rw [List.replicate_zero, List.append_nil] at isWhole
  refine ⟨⟨digits.take 1, digits.drop 1, some (pointOf decimal - 1), isWhole, ?_, by simp, ?_⟩, rfl, ?_⟩
  · exact fun c member => areDigits_significantDigits positive c (List.mem_of_mem_drop member)
  · rw [List.length_take]
    omega
  · have isLength : 0 < digits.length := List.length_pos_iff.mpr someDigit
    have isSame := value_zeros positive 0 0 (pointOf decimal - 1 - (digits.drop 1).length) (by
      rw [List.length_drop]
      show _ = _ - (digits.length : Int)
      omega)
    show Scientific.value ⟨numberOf (digits.take 1 ++ digits.drop 1), _⟩ = _
    rw [List.take_append_drop]
    simpa using isSame

/-- Zeros behind the point, and all digits behind them. -/
theorem exists_spelling_below (isBelow : pointOf decimal ≤ 0) :
    ∃ spelling : Spelling, spelling.text = '0' :: '.' :: List.replicate (-pointOf decimal).toNat '0'
      ++ significantDigits decimal.digits ∧ spelling.decimal.value = decimal.value := by
  obtain ⟨_, _, someDigit⟩ := exists_toDigits_eq positive
  let fraction := List.replicate (-pointOf decimal).toNat '0' ++ significantDigits decimal.digits
  have someFraction : fraction ≠ [] := List.append_ne_nil_of_right_ne_nil _ someDigit
  refine ⟨⟨['0'], fraction, none, ⟨areDigits_zeros 1, by simp, by simp⟩, ?_, Or.inl someFraction, by simp⟩,
    ?_, ?_⟩
  · exact (areDigits_zeros _).append (areDigits_significantDigits positive)
  · simp [Spelling.text, pointed, raised, someFraction, fraction]
  · have isSame := value_zeros positive ((-pointOf decimal).toNat + 1) 0 (0 - fraction.length) (by
      simp only [fraction, List.length_append, List.length_replicate]
      omega)
    simpa [Spelling.decimal, fraction, List.replicate_succ] using isSame

/-- The point is among the digits, or behind zeros that follow them. -/
theorem exists_spelling_around (isAbove : 0 < pointOf decimal) (isShort : pointOf decimal ≤ 16) :
    let digits := significantDigits decimal.digits
    let count := (pointOf decimal).toNat
    ∃ spelling : Spelling, spelling.text = digits.take count
      ++ List.replicate (count - (digits.take count).length) '0'
      ++ '.' :: (if (digits.drop count).isEmpty then ['0'] else digits.drop count) ∧
        spelling.decimal.value = decimal.value := by
  intro digits count
  have isWhole := isWholePart_of_prefix positive (show 0 < count by omega) (count - (digits.take count).length)
  let whole := digits.take count ++ List.replicate (count - (digits.take count).length) '0'
  have isShort : whole.length ≤ 16 := by
    simp only [whole, List.length_append, List.length_replicate, List.length_take]
    omega
  by_cases isInside : count < digits.length
  · have someFraction : digits.drop count ≠ [] := List.drop_eq_nil_iff.not.mpr (Nat.not_le.mpr isInside)
    refine ⟨⟨whole, digits.drop count, none, isWhole, ?_, Or.inl someFraction, isShort⟩, ?_, ?_⟩
    · exact fun c member => areDigits_significantDigits positive c (List.mem_of_mem_drop member)
    · simp [Spelling.text, pointed, raised, someFraction, whole]
    · have noZeros : count - (digits.take count).length = 0 := by
        rw [List.length_take]
        omega
      have isSame := value_zeros positive 0 0 (0 - (digits.drop count).length) (by
        rw [List.length_drop]
        show _ = _ - (digits.length : Int)
        omega)
      have isBoth : whole ++ digits.drop count = digits := by
        simp only [whole, noZeros, List.replicate_zero, List.append_nil, List.take_append_drop]
      show Scientific.value ⟨numberOf (whole ++ digits.drop count), _⟩ = _
      rw [isBoth]
      simpa using isSame
  · have noFraction : digits.drop count = [] := List.drop_eq_nil_iff.mpr (Nat.not_lt.mp isInside)
    have isTaken : digits.take count = digits := List.take_of_length_le (Nat.not_lt.mp isInside)
    refine ⟨⟨whole, ['0'], none, isWhole, areDigits_zeros 1, by simp, isShort⟩, ?_, ?_⟩
    · simp [Spelling.text, pointed, raised, noFraction, whole]
    · have isSame := value_zeros positive 0 (count - digits.length + 1) (0 - 1) (by
        show _ = _ - (digits.length : Int)
        omega)
      simpa [Spelling.decimal, whole, isTaken, List.replicate_succ'] using isSame

/-- **Every decimal is spelled as a double of its value.** -/
theorem exists_spelling :
    ∃ spelling : Spelling, spelling.text = decimal.render Transcript.style.numbers ∧
      spelling.decimal.value = decimal.value := by
  unfold Scientific.render
  simp only
  rw [← pointOf]
  split
  case isTrue =>
    obtain ⟨spelling, isText, isValue⟩ := exists_spelling_raised positive
    obtain ⟨_, _, someDigit⟩ := exists_toDigits_eq positive
    obtain ⟨first, more, isCons⟩ := List.exists_cons_of_ne_nil someDigit
    refine ⟨spelling, isText.trans ?_, isValue⟩
    rw [isCons, pointed]
    by_cases isLast : more = [] <;> simp [isLast, raised]
  case isFalse inRange =>
    split
    case isTrue isBelow => exact exists_spelling_below positive isBelow
    case isFalse notBelow =>
      rw [Bool.or_eq_true, decide_eq_true_eq, decide_eq_true_eq, not_or] at inRange
      exact exists_spelling_around positive (Int.not_le.mp notBelow) (Int.not_lt.mp inRange.2)

end Render

/-- **A written double is read back.** -/
theorem exists_spelling_render {value : Float} (isNumber : (value.isNaN || value.isInf) = false) :
    ∃ spelling : Spelling, (Decimal.render Transcript.style.numbers value).toList
        = signOf (Decimal.isNegative value) ++ spelling.text ∧
      nearest (Decimal.isNegative value) spelling.decimal = value := by
  have isFinite := Decimal.magnitudeBits_lt isNumber
  by_cases isZero : magnitudeBits value = 0
  · have isMagnitude : Decimal.magnitudeOf value = .zero := by
      simp only [Decimal.magnitudeOf, if_pos isFinite, if_pos isZero]
    let spelling : Spelling :=
      ⟨['0'], ['0'], none, ⟨areDigits_zeros 1, by simp, by simp⟩, areDigits_zeros 1, by simp, by simp⟩
    refine ⟨spelling, ?_,
      Decimal.nearest_eq isFinite (fun _ => rfl) (fun positive => absurd isZero positive.ne')⟩
    simp only [Decimal.render, isMagnitude, String.toList_ofList]
    rfl
  · have positive := Nat.pos_of_ne_zero isZero
    let decimal := Decimal.shortestDecimal (.ofBits (magnitudeBits value))
    have someDigit : 0 < decimal.digits :=
      Decimal.digits_pos positive (Decimal.roundsTo_shortestDecimal positive)
    have isMagnitude : Decimal.magnitudeOf value = .finite (.ofBits (magnitudeBits value)) := by
      simp only [Decimal.magnitudeOf, if_pos isFinite, if_neg isZero]
    obtain ⟨spelling, isText, isValue⟩ := exists_spelling someDigit
    refine ⟨spelling, ?_, Decimal.nearest_eq isFinite (fun wrong => absurd wrong isZero) (fun _ => isValue)⟩
    simp only [Decimal.render, isMagnitude, String.toList_ofList, isText]
    rfl

end PromptChain.Json
