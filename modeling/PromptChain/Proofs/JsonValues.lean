/-
**Values as they are written.**

A value is `Readable` if it is read back from its text, wherever that stands, and if the text passes what else
is asked of it: no number is too long, no line ends with a carriage return, all strings are texts, and not too
many values stand in one another. Null, strings and numbers are, and so are arrays and objects of such values
(`readable_arr`, `readable_obj`), by induction over what stands behind the first item or field.

The reader has fuel. Two for each character are enough, since every step that takes one also passes a
character.
-/

import PromptChain.Proofs.JsonText

namespace PromptChain.Json

open Transcript (style)

/-- A value that is read back from its text, at every level: with what the check of a text asks for. -/
structure Readable (depth : Nat) (value : Json) : Prop where
  starts : ∀ level, ∃ c more,
    prettyValue style level value = c :: more ∧ isSpace c = false ∧ c ≠ ']' ∧ c ≠ '\ufeff'
  reads : ∀ level rest fuel, IsBehind rest → 2 * (prettyValue style level value).length ≤ fuel →
    readValue fuel (prettyValue style level value ++ rest) = .ok (value, rest)
  fits : ∀ level rest, IsBehind rest →
    numbersFitFrom .between (prettyValue style level value ++ rest) = numbersFitFrom .between rest
  noReturn : ∀ level, '\r' ∉ prettyValue style level value
  isWhole : value.isWhole = true
  shallow : value.depth ≤ depth

theorem Readable.deeper {depth more : Nat} {value : Json} (readable : Readable depth value)
    (atMost : depth ≤ more) :
    Readable more value :=
  { readable with shallow := readable.shallow.trans atMost }

/-- A text that starts neither with a quote nor with a bracket nor with a word is a number. -/
theorem readValue_number {c : Char} {text : List Char} (fuel : Nat) (noQuote : c ≠ '"') (noBracket : c ≠ '[')
    (noBrace : c ≠ '\x7b') (noWord : readWord? (c :: text) = none) :
    readValue (fuel + 1) (c :: text) = readNumber (c :: text) := by
  rw [readValue]
  · rw [noWord]
  · intro rest same
    exact noQuote (List.cons.inj same).1
  · intro rest same
    exact noBracket (List.cons.inj same).1
  · intro rest same
    exact noBrace (List.cons.inj same).1

section Leaves

variable (depth : Nat)

theorem readable_null : Readable depth .null := by
  refine ⟨fun level => ⟨'n', _, rfl, rfl, by decide, by decide⟩, ?_, ?_, ?_, rfl, Nat.zero_le _⟩
  · intro level rest fuel _ enough
    obtain ⟨fuel, rfl⟩ := Nat.exists_eq_add_one.mpr
      (show 0 < fuel by simp [prettyValue, writeLeaf] at enough; omega)
    have isWord : readWord? ('n' :: 'u' :: 'l' :: 'l' :: rest) = some (.null, rest) := by
      simp [readWord?, words, Text.dropPrefix?]
    show readValue (fuel + 1) ('n' :: 'u' :: 'l' :: 'l' :: rest) = _
    rw [readValue]
    · rw [isWord]
    all_goals simp
  · intro level rest _
    rfl
  · intro level
    simp [prettyValue, writeLeaf]

theorem readable_str (text : String) : Readable depth (.str text) := by
  have isText (level : Nat) : prettyValue style level (.str text) = writeString false text := rfl
  refine ⟨fun level => ⟨'"', _, rfl, rfl, by decide, by decide⟩, ?_, ?_,
    fun _ => return_notMem_writeString text, rfl,
    Nat.zero_le _⟩
  · intro level rest fuel _ enough
    rw [isText] at enough ⊢
    obtain ⟨fuel, rfl⟩ := Nat.exists_eq_add_one.mpr (show 0 < fuel by simp [writeString] at enough; omega)
    simp only [writeString, List.cons_append, List.append_assoc, List.nil_append]
    exact readString_writeString _ text rest
  · intro level rest _
    exact numbersFitFrom_writeString text rest

theorem readable_float {value : Float} (isNumber : (value.isNaN || value.isInf) = false) :
    Readable depth (.float value) := by
  obtain ⟨spelling, isRendered, isValue⟩ := exists_spelling_render isNumber
  have isText (level : Nat) : prettyValue style level (.float value)
      = signOf (Decimal.isNegative value) ++ spelling.text := isRendered
  obtain ⟨first, more, isFirst⟩ := List.exists_cons_of_ne_nil spelling.isWhole.someDigit
  have isDigit : isDigit first = true :=
    spelling.isWhole.digits first (by rw [isFirst]; exact List.mem_cons_self)
  have isOther {c : Char} (noDigit : Json.isDigit c = false) : first ≠ c := by
    rintro rfl
    exact Bool.false_ne_true (noDigit.symm.trans isDigit)
  have isBody : spelling.text = first :: (more ++ (pointed spelling.fraction ++ raised spelling.exponent)) := by
    rw [Spelling.text, isFirst]
    rfl
  refine ⟨fun level => ?_, ?_, ?_, fun level => ?_, rfl, Nat.zero_le _⟩
  · rw [isText, isBody]
    cases Decimal.isNegative value
    · exact ⟨first, _, rfl, by simp [isSpace, (isOther rfl : first ≠ ' '), (isOther rfl : first ≠ '\t'),
        (isOther rfl : first ≠ '\n'), (isOther rfl : first ≠ '\r')], isOther rfl, isOther rfl⟩
    · exact ⟨'-', _, rfl, rfl, by decide, by decide⟩
  · intro level rest fuel behind enough
    have someText : 0 < (prettyValue style level (.float value)).length := by
      rw [isText, isBody]
      simp
    obtain ⟨fuel, rfl⟩ := Nat.exists_eq_add_one.mpr (show 0 < fuel by omega)
    have isRead := spelling.readNumber_eq (Decimal.isNegative value) behind
    rw [isValue] at isRead
    rw [isText, List.append_assoc, ← isRead, isBody]
    cases Decimal.isNegative value
    · refine readValue_number fuel (isOther rfl) (isOther rfl) (isOther rfl) ?_
      simp [readWord?, words, Text.dropPrefix?, (isOther rfl : first ≠ 'n'), (isOther rfl : first ≠ 't'),
        (isOther rfl : first ≠ 'f'), (isOther rfl : first ≠ 'N'), (isOther rfl : first ≠ 'I'),
        (isOther rfl : first ≠ '-')]
    · refine readValue_number fuel (by decide) (by decide) (by decide) ?_
      simp [readWord?, words, Text.dropPrefix?, (isOther rfl : first ≠ 'I')]
  · intro level rest behind
    rw [isText, List.append_assoc]
    exact spelling.numbersFitFrom_eq _ behind
  · rw [isText, List.mem_append, not_or]
    refine ⟨?_, spelling.return_notMem⟩
    rw [signOf]
    split <;> decide

end Leaves

/-- Blanks between the parts are passed over. -/
theorem skipSpace_newline (level : Nat) {c : Char} (noSpace : isSpace c = false) (rest : List Char) :
    skipSpace (newline style level ++ c :: rest) = c :: rest := by
  have areSpaces : ∀ c ∈ newline style level, isSpace c = true := by
    intro c member
    rcases List.mem_cons.mp member with rfl | isBlank
    · rfl
    · rw [List.eq_of_mem_replicate isBlank]
      rfl
  exact Text.dropWhile_append_stops areSpaces (.cons noSpace _)

theorem isBehind_newline (level : Nat) (rest : List Char) : IsBehind (newline style level ++ rest) :=
  Or.inr ⟨'\n', _, rfl, Or.inr rfl⟩

theorem numbersFitFrom_newline (level : Nat) (rest : List Char) :
    numbersFitFrom .between (newline style level ++ rest) = numbersFitFrom .between rest := by
  refine numbersFitFrom_append (by simp) fun c member => ?_
  rcases List.mem_cons.mp member with rfl | isBlank
  · rfl
  · rw [List.eq_of_mem_replicate isBlank]
    rfl

theorem return_notMem_newline (level : Nat) : '\r' ∉ newline style level := by
  simp [newline, List.mem_replicate]

/-- The blanks before a value are passed over. -/
theorem Readable.skipSpace_eq {depth : Nat} {value : Json} (readable : Readable depth value) (level : Nat)
    (rest : List Char) : skipSpace (newline style level ++ (prettyValue style level value ++ rest))
      = prettyValue style level value ++ rest := by
  obtain ⟨c, more, isText, noSpace, _⟩ := readable.starts level
  rw [isText, List.cons_append]
  exact skipSpace_newline level noSpace _

/-! ### Arrays and objects -/

section Items

variable {depth : Nat} {rest : List Char}

/-- **Items are read back**, one behind the other, up to the closing bracket. -/
theorem readItems_pretty (level : Nat) (items : List Json) (item : Json) (before : List Json) (fuel : Nat)
    (readable : ∀ value ∈ item :: items, Readable depth value)
    (enough : 2 * (prettyValue style (level + 1) item ++ (prettyItems style (level + 1) items
      ++ (newline style level ++ [']']))).length ≤ fuel) :
    readItems fuel (prettyValue style (level + 1) item ++ (prettyItems style (level + 1) items
        ++ (newline style level ++ ']' :: rest))) before
      = .ok (.arr (before ++ item :: items), rest) := by
  induction items generalizing item before fuel with
  | nil =>
    simp only [List.length_append, prettyItems, List.nil_append, List.length_cons] at enough ⊢
    obtain ⟨fuel, rfl⟩ := Nat.exists_eq_add_one.mpr (show 0 < fuel by omega)
    have isRead := (readable item List.mem_cons_self).reads (level + 1) (newline style level ++ ']' :: rest) fuel
      (isBehind_newline level _) (by omega)
    rw [readItems, isRead]
    simp only [skipSpace_newline level (show isSpace ']' = false from rfl)]
  | cons next items ih =>
    have isNext := readable next (List.mem_cons_of_mem _ List.mem_cons_self)
    simp only [prettyItems, List.length_append, List.append_assoc, List.cons_append, List.length_cons]
      at enough ih ⊢
    obtain ⟨fuel, rfl⟩ := Nat.exists_eq_add_one.mpr (show 0 < fuel by omega)
    have isRead := (readable item List.mem_cons_self).reads (level + 1) (',' :: (newline style (level + 1)
      ++ (prettyValue style (level + 1) next ++ (prettyItems style (level + 1) items ++ (newline style level
        ++ ']' :: rest))))) fuel (Or.inr ⟨',', _, rfl, Or.inl rfl⟩) (by omega)
    have later := ih next (before ++ [item]) fuel (List.forall_mem_cons.mp readable).2
      (by omega)
    rw [List.append_assoc] at later
    rw [readItems, isRead]
    show readItems fuel (skipSpace _) _ = _
    rw [isNext.skipSpace_eq]
    exact later

theorem numbersFitFrom_items (level : Nat) (items : List Json) (readable : ∀ value ∈ items, Readable depth value)
    (behind : IsBehind rest) : IsBehind (prettyItems style level items ++ rest) ∧
      numbersFitFrom .between (prettyItems style level items ++ rest) = numbersFitFrom .between rest := by
  induction items with
  | nil => exact ⟨behind, rfl⟩
  | cons item items ih =>
    obtain ⟨behindMore, fits⟩ := ih (List.forall_mem_cons.mp readable).2
    have isText : prettyItems style level (item :: items) ++ rest = ',' :: (newline style level
        ++ (prettyValue style level item ++ (prettyItems style level items ++ rest))) := by
      simp [prettyItems]
    rw [isText]
    refine ⟨Or.inr ⟨',', _, rfl, Or.inl rfl⟩, ?_⟩
    show numbersFitFrom .between (newline style level ++ _) = _
    rw [numbersFitFrom_newline, (readable item List.mem_cons_self).fits _ _ behindMore, fits]

theorem return_notMem_items (level : Nat) (items : List Json)
    (readable : ∀ value ∈ items, Readable depth value) :
    '\r' ∉ prettyItems style level items := by
  induction items with
  | nil => simp [prettyItems]
  | cons item items ih =>
    have later := ih (List.forall_mem_cons.mp readable).2
    simp [prettyItems, return_notMem_newline, (readable item List.mem_cons_self).noReturn, later]

theorem areWhole_of_readable (items : List Json) (readable : ∀ value ∈ items, Readable depth value) :
    areWhole items = true ∧ depthOfItems items ≤ depth := by
  induction items with
  | nil => exact ⟨rfl, Nat.zero_le _⟩
  | cons item items ih =>
    obtain ⟨areWhole, shallow⟩ := ih (List.forall_mem_cons.mp readable).2
    have isItem := readable item List.mem_cons_self
    rw [Json.areWhole, isItem.isWhole, depthOfItems]
    exact ⟨areWhole, Nat.max_le.mpr ⟨isItem.shallow, shallow⟩⟩

/-- **An array of values that are read back is read back.** -/
theorem readable_arr (items : List Json) (readable : ∀ value ∈ items, Readable depth value) :
    Readable (depth + 1) (.arr items) := by
  cases items with
  | nil =>
    refine ⟨fun level => ⟨'[', _, rfl, rfl, by decide, by decide⟩, ?_, ?_, by simp [prettyValue], rfl,
      Nat.zero_le _⟩
    · intro level rest fuel _ enough
      obtain ⟨fuel, rfl⟩ := Nat.exists_eq_add_one.mpr (show 0 < fuel by simp [prettyValue] at enough; omega)
      rfl
    · intro level rest _
      rfl
  | cons item items =>
    have isText (level : Nat) (rest : List Char) : prettyValue style level (.arr (item :: items)) ++ rest
        = '[' :: (newline style (level + 1) ++ (prettyValue style (level + 1) item
          ++ (prettyItems style (level + 1) items ++ (newline style level ++ ']' :: rest)))) := by
      simp [prettyValue]
    have isItem := readable item List.mem_cons_self
    obtain ⟨areWhole, shallow⟩ := areWhole_of_readable (item :: items) readable
    refine ⟨fun level => ⟨'[', _, rfl, rfl, by decide, by decide⟩, ?_, ?_, fun level => ?_, areWhole,
      Nat.succ_le_succ shallow⟩
    · intro level rest fuel _ enough
      have isLength := congrArg List.length (isText level [])
      simp only [List.append_nil, List.length_cons, List.length_append, List.length_nil] at isLength
      obtain ⟨fuel, rfl⟩ := Nat.exists_eq_add_one.mpr (show 0 < fuel by omega)
      obtain ⟨c, more, isFirst, noSpace, noBracket, _⟩ := isItem.starts (level + 1)
      have isRead := @readItems_pretty depth rest level items item [] fuel readable (by
        simp only [List.length_append, List.length_cons, List.length_nil]
        omega)
      rw [isText, readValue, isItem.skipSpace_eq]
      rw [isFirst] at isRead ⊢
      split
      · rename_i same
        exact absurd (List.cons.inj same).1 noBracket
      · exact isRead
    · intro level rest _
      rw [isText]
      show numbersFitFrom .between (newline style (level + 1) ++ _) = _
      obtain ⟨behind, fits⟩ := numbersFitFrom_items (level + 1) items
        (List.forall_mem_cons.mp readable).2 (isBehind_newline level (']' :: rest))
      rw [numbersFitFrom_newline, isItem.fits _ _ behind, fits, numbersFitFrom_newline]
      rfl
    · simp [prettyValue, return_notMem_newline, isItem.noReturn,
        return_notMem_items (level + 1) items (List.forall_mem_cons.mp readable).2]

/-- One field is read: its name, a colon, its value, and what comes then. -/
theorem readFields_succ (level fuel : Nat) (field : String × Json) (before : List (String × Json))
    (readable : Readable depth field.2) (behind : IsBehind rest)
    (enough : 2 * (prettyValue style level field.2).length ≤ fuel) :
    let result := readFields (fuel + 1)
      (writeString false field.1 ++ (':' :: ' ' :: (prettyValue style level field.2 ++ rest))) before
    (∀ after, skipSpace rest = '\x7d' :: after → result = .ok (.obj (before ++ [field]), after)) ∧
      ∀ after, skipSpace rest = ',' :: after →
        result = readFields fuel (skipSpace after) (before ++ [field]) := by
  obtain ⟨c, more, isFirst, noSpace, _⟩ := readable.starts level
  have afterColon : skipSpace (' ' :: (prettyValue style level field.2 ++ rest))
      = prettyValue style level field.2 ++ rest := by
    rw [isFirst]
    exact List.dropWhile_cons_of_neg (l := _) (Bool.eq_false_iff.mp noSpace)
  have afterKey (text : List Char) : skipSpace (':' :: text) = ':' :: text := rfl
  have isValue := readable.reads level rest fuel behind enough
  simp only [writeString, List.cons_append, List.append_assoc, List.nil_append]
  rw [readFields]
  simp only [readString_writeString, afterKey, afterColon, isValue]
  constructor
  · intro after isAfter
    rw [isAfter]
    rfl
  · intro after isAfter
    rw [isAfter]
    rfl

/-- **Fields are read back**, one behind the other, up to the closing brace. -/
theorem readFields_pretty (level : Nat) (fields : List (String × Json)) (field : String × Json)
    (before : List (String × Json)) (fuel : Nat) (readable : ∀ entry ∈ field :: fields, Readable depth entry.2)
    (enough : 2 * (writeString false field.1 ++ (':' :: ' ' :: (prettyValue style (level + 1) field.2
      ++ (prettyFields style (level + 1) fields ++ (newline style level ++ ['\x7d']))))).length ≤ fuel) :
    readFields fuel (writeString false field.1 ++ (':' :: ' ' :: (prettyValue style (level + 1) field.2
        ++ (prettyFields style (level + 1) fields ++ (newline style level ++ '\x7d' :: rest))))) before
      = .ok (.obj (before ++ field :: fields), rest) := by
  have isField := readable field List.mem_cons_self
  have isAscii : style.asciiOnly = false := rfl
  induction fields generalizing field before fuel with
  | nil =>
    simp only [List.length_append, prettyFields, List.nil_append, List.length_cons] at enough ⊢
    obtain ⟨fuel, rfl⟩ := Nat.exists_eq_add_one.mpr (show 0 < fuel by omega)
    refine (readFields_succ (level + 1) fuel field before isField (isBehind_newline level _) (by omega)).1 _ ?_
    exact skipSpace_newline level rfl rest
  | cons next fields ih =>
    obtain ⟨key, value⟩ := next
    have isNext := readable (key, value) (List.mem_cons_of_mem _ List.mem_cons_self)
    simp only [prettyFields, isAscii, List.length_append, List.append_assoc, List.cons_append, List.nil_append,
      List.length_cons] at enough ih ⊢
    obtain ⟨fuel, rfl⟩ := Nat.exists_eq_add_one.mpr (show 0 < fuel by omega)
    have later := ih (key, value) (before ++ [field]) fuel
      (List.forall_mem_cons.mp readable).2 (by dsimp only; omega) isNext
    refine ((readFields_succ (level + 1) fuel field before isField (Or.inr ⟨',', _, rfl, Or.inl rfl⟩)
      (by omega)).2 _ rfl).trans ?_
    rw [List.append_assoc] at later
    refine Eq.trans ?_ later
    simp only [writeString, List.cons_append, List.append_assoc, List.nil_append]
    rw [skipSpace_newline (level + 1) (show isSpace '"' = false from rfl)]

theorem numbersFitFrom_fields (level : Nat) (fields : List (String × Json))
    (readable : ∀ entry ∈ fields, Readable depth entry.2) (behind : IsBehind rest) :
    IsBehind (prettyFields style level fields ++ rest) ∧
      numbersFitFrom .between (prettyFields style level fields ++ rest) = numbersFitFrom .between rest := by
  induction fields with
  | nil => exact ⟨behind, rfl⟩
  | cons field fields ih =>
    obtain ⟨key, value⟩ := field
    obtain ⟨behindMore, fits⟩ := ih (List.forall_mem_cons.mp readable).2
    have isText : prettyFields style level ((key, value) :: fields) ++ rest = ',' :: (newline style level
        ++ (writeString false key ++ (':' :: ' ' :: (prettyValue style level value
          ++ (prettyFields style level fields ++ rest))))) := by
      simp [prettyFields, Transcript.style]
    rw [isText]
    refine ⟨Or.inr ⟨',', _, rfl, Or.inl rfl⟩, ?_⟩
    show numbersFitFrom .between (newline style level ++ _) = _
    rw [numbersFitFrom_newline, numbersFitFrom_writeString]
    show numbersFitFrom .between (prettyValue style level value ++ _) = _
    rw [(readable (key, value) List.mem_cons_self).fits _ _ behindMore, fits]

theorem return_notMem_fields (level : Nat) (fields : List (String × Json))
    (readable : ∀ entry ∈ fields, Readable depth entry.2) : '\r' ∉ prettyFields style level fields := by
  induction fields with
  | nil => simp [prettyFields]
  | cons field fields ih =>
    have later := ih (List.forall_mem_cons.mp readable).2
    have inKey : '\r' ∉ writeString style.asciiOnly field.1 := return_notMem_writeString field.1
    simp [prettyFields, return_notMem_newline, inKey, (readable field List.mem_cons_self).noReturn, later]

theorem fieldsAreWhole_of_readable (fields : List (String × Json))
    (readable : ∀ entry ∈ fields, Readable depth entry.2) :
    fieldsAreWhole fields = true ∧ depthOfFields fields ≤ depth := by
  induction fields with
  | nil => exact ⟨rfl, Nat.zero_le _⟩
  | cons field fields ih =>
    obtain ⟨areWhole, shallow⟩ := ih (List.forall_mem_cons.mp readable).2
    have isField := readable field List.mem_cons_self
    rw [fieldsAreWhole, isField.isWhole, depthOfFields]
    exact ⟨areWhole, Nat.max_le.mpr ⟨isField.shallow, shallow⟩⟩

/-- **An object of values that are read back is read back.** -/
theorem readable_obj (fields : List (String × Json)) (readable : ∀ entry ∈ fields, Readable depth entry.2) :
    Readable (depth + 1) (.obj fields) := by
  cases fields with
  | nil =>
    refine ⟨fun level => ⟨'\x7b', _, rfl, rfl, by decide, by decide⟩, ?_, ?_, by simp [prettyValue], rfl,
      Nat.zero_le _⟩
    · intro level rest fuel _ enough
      obtain ⟨fuel, rfl⟩ := Nat.exists_eq_add_one.mpr (show 0 < fuel by simp [prettyValue] at enough; omega)
      rfl
    · intro level rest _
      rfl
  | cons field fields =>
    obtain ⟨key, value⟩ := field
    have isText (level : Nat) (rest : List Char) :
        prettyValue style level (.obj ((key, value) :: fields)) ++ rest
        = '\x7b' :: (newline style (level + 1) ++ (writeString false key ++ (':' :: ' ' ::
          (prettyValue style (level + 1) value ++ (prettyFields style (level + 1) fields
            ++ (newline style level ++ '\x7d' :: rest)))))) := by
      simp [prettyValue, Transcript.style]
    obtain ⟨areWhole, shallow⟩ := fieldsAreWhole_of_readable _ readable
    refine ⟨fun level => ⟨'\x7b', _, rfl, rfl, by decide, by decide⟩, ?_, ?_, fun level => ?_, areWhole,
      Nat.succ_le_succ shallow⟩
    · intro level rest fuel _ enough
      have isLength := congrArg List.length (isText level [])
      simp only [List.append_nil, List.length_cons, List.length_append, List.length_nil] at isLength
      obtain ⟨fuel, rfl⟩ := Nat.exists_eq_add_one.mpr (show 0 < fuel by omega)
      have isRead := @readFields_pretty depth rest level fields (key, value) [] fuel readable (by
        simp only [List.length_append, List.length_cons, List.length_nil]
        omega)
      rw [isText, readValue]
      simp only [writeString, List.cons_append, List.append_assoc, List.nil_append] at isRead ⊢
      rw [skipSpace_newline (level + 1) (show isSpace '"' = false from rfl)]
      exact isRead
    · intro level rest _
      rw [isText]
      show numbersFitFrom .between (newline style (level + 1) ++ _) = _
      obtain ⟨behind, fits⟩ := numbersFitFrom_fields (level + 1) fields
        (List.forall_mem_cons.mp readable).2 (isBehind_newline level ('\x7d' :: rest))
      rw [numbersFitFrom_newline, numbersFitFrom_writeString]
      show numbersFitFrom .between (prettyValue style (level + 1) value ++ _) = _
      rw [(readable (key, value) List.mem_cons_self).fits _ _ behind, fits, numbersFitFrom_newline]
      rfl
    · have inKey : '\r' ∉ writeString style.asciiOnly key := return_notMem_writeString key
      simp [prettyValue, return_notMem_newline, inKey, (readable (key, value) List.mem_cons_self).noReturn,
        return_notMem_fields (level + 1) fields (List.forall_mem_cons.mp readable).2]

end Items

/-- **A value is read back from its text**, which passes the check of numbers. -/
theorem Readable.readAll_pretty {depth : Nat} {value : Json} (readable : Readable depth value) :
    readAll (pretty style value).toList = .ok value ∧
      numbersFitFrom .between (pretty style value).toList = true := by
  obtain ⟨c, more, isText, noSpace, _, noMark⟩ := readable.starts 0
  have isRead := readable.reads 0 [] (2 * (prettyValue style 0 value).length + 2) (Or.inl rfl) (by omega)
  have fits := readable.fits 0 [] (Or.inl rfl)
  rw [List.append_nil] at isRead fits
  rw [pretty, String.toList_ofList]
  refine ⟨?_, fits⟩
  have unmarked : ¬ ((prettyValue style 0 value).head? == some '\ufeff') = true := by
    rw [isText]
    intro isMark
    exact noMark (Option.some.inj (beq_iff_eq.mp isMark))
  have skipped : skipSpace (prettyValue style 0 value) = prettyValue style 0 value := by
    rw [isText]
    exact List.dropWhile_cons_of_neg (Bool.eq_false_iff.mp noSpace)
  rw [readAll, if_neg unmarked, skipped, isRead]
  rfl

end PromptChain.Json
