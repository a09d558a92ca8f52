/-
**Variables are inserted in one pass from left to right.**

A text with variables is written in fragments (`Fragment`): text without a dollar sign, an escaped dollar
sign, a braced or a bare reference. Fragments may stand side by side as they like, except that no character
that could go on in its name follows a bare reference (`Separated`).

* `interpolate_eq`: a text gives what its pieces stand for, or its first unbound variable.
* `scan_source_append`: the pieces of a fragment are scanned whatever follows it, so those of a text are
  the pieces of its fragments (`scan_sourceOf`). A value is not scanned.
* `interpolate_inserts_verbatim`: what fragments stand for is inserted as it is; a text with all its dollar
  signs doubled stands for itself.
-/

import PromptChain.Proofs.Text
import PromptChain.Variable

namespace PromptChain

/-! ### References of a text -/

def isUnbound (bindings : Bindings) (name : String) : Bool := (bindings.get? name).isNone

/-- What is made with variables, unless one of them is unbound; the first such is the fault. -/
def unlessUnbound {α : Type} (bindings : Bindings) (unit : Option String) (names : List String) (made : α) :
    Except Fault α :=
  match names.find? (isUnbound bindings) with
  | none => .ok made
  | some name => .error (.unresolvedVariable name unit)

theorem unlessUnbound_of_bound {bindings : Bindings} {names : List String}
    (bound : ∀ name ∈ names, isUnbound bindings name = false) (unit : Option String) (text : String) :
    unlessUnbound bindings unit names text = .ok text := by
  rw [unlessUnbound, List.find?_eq_none.mpr fun name isName => by simp [bound name isName]]

theorem unlessUnbound_of_split {bindings : Bindings} {early late : List String} {name : String}
    (bound : ∀ earlier ∈ early, isUnbound bindings earlier = false)
    (unbound : isUnbound bindings name = true) (unit : Option String) (text : String) :
    unlessUnbound bindings unit (early ++ name :: late) text = .error (.unresolvedVariable name unit) := by
  have first : (early ++ name :: late).find? (isUnbound bindings) = some name := by
    rw [List.find?_append, List.find?_eq_none.mpr fun earlier isEarly => by simp [bound earlier isEarly],
      Option.none_or, List.find?_cons_of_pos unbound]
  rw [unlessUnbound, first]

/-- The value of a variable; none is the empty text. -/
def valueOf (bindings : Bindings) (name : String) : List Char := ((bindings.get? name).getD "").toList

/-- The variable that a piece refers to. -/
def Piece.name? : Piece → Option String
  | .reference name _ => some (String.ofList name)
  | _ => none

/-- What a piece stands for when its variable is bound. -/
def Piece.inserted (bindings : Bindings) : Piece → List Char
  | .plain c => [c]
  | .dollar => ['$']
  | .reference name _ => valueOf bindings (String.ofList name)

/-- The variables that a text refers to, from left to right. -/
def references (text : String) : List String := (Piece.scan text.toList).filterMap Piece.name?

/-- What a text stands for when its variables are bound. -/
def inserted (bindings : Bindings) (text : String) : String :=
  String.ofList ((Piece.scan text.toList).flatMap (Piece.inserted bindings))

theorem Piece.values_eq (bindings : Bindings) (pieces : List Piece) :
    Piece.values bindings pieces
      = match (pieces.filterMap Piece.name?).find? (isUnbound bindings) with
        | none => .ok (pieces.flatMap (Piece.inserted bindings))
        | some name => .error name := by
  induction pieces with
  | nil => rfl
  | cons piece pieces ih =>
    have onward {value : List Char} (isValue : piece.value bindings = .ok value) :
        Piece.values bindings (piece :: pieces)
          = match (pieces.filterMap Piece.name?).find? (isUnbound bindings) with
            | none => .ok (value ++ pieces.flatMap (Piece.inserted bindings))
            | some name => .error name := by
      rw [Piece.values, isValue, ih]
      cases (pieces.filterMap Piece.name?).find? (isUnbound bindings) <;> rfl
    cases piece with
    | plain c => exact onward rfl
    | dollar => exact onward rfl
    | reference name braced =>
      have names : (Piece.reference name braced :: pieces).filterMap Piece.name?
          = String.ofList name :: pieces.filterMap Piece.name? := rfl
      rw [names]
      cases found : bindings.get? (String.ofList name) with
      | some value =>
        have isBound : isUnbound bindings (String.ofList name) = false := by rw [isUnbound, found]; rfl
        have isValue : Piece.inserted bindings (.reference name braced) = value.toList := by
          rw [Piece.inserted, valueOf, found]
          rfl
        rw [onward (by rw [Piece.value, found]), List.find?_cons_of_neg (by simp [isBound]),
          List.flatMap_cons, isValue]
      | none =>
        have unbound : isUnbound bindings (String.ofList name) = true := by rw [isUnbound, found]; rfl
        rw [Piece.values, Piece.value, found, List.find?_cons_of_pos unbound]

/-- **A text gives what its pieces stand for, or its first unbound variable.** -/
theorem interpolate_eq (bindings : Bindings) (unit : Option String) (text : String) :
    interpolate bindings unit text
      = unlessUnbound bindings unit (references text) (inserted bindings text) := by
  rw [interpolate, Piece.values_eq, unlessUnbound, references, inserted]
  cases ((Piece.scan text.toList).filterMap Piece.name?).find? (isUnbound bindings) <;> rfl

/-! ### Fragments -/

/-- The name of a variable: a capital letter or a low line, then such characters and digits. -/
structure VariableName where
  first : Char
  rest : List Char
  starts : isVariableStart first = true
  goesOn : ∀ c ∈ rest, isVariableChar c = true

def VariableName.chars (name : VariableName) : List Char := name.first :: name.rest

def VariableName.text (name : VariableName) : String := String.ofList name.chars

/-- What a text with variables is written of. -/
inductive Fragment where
  | text (plain : List Char) (noDollar : '$' ∉ plain)
  | escape
  | braced (name : VariableName)
  | bare (name : VariableName)

namespace Fragment

def source : Fragment → List Char
  | text plain _ => plain
  | escape => ['$', '$']
  | braced name => '$' :: '{' :: (name.chars ++ ['}'])
  | bare name => '$' :: name.chars

/-- The variable that a fragment refers to. -/
def name? : Fragment → Option String
  | text _ _ | escape => none
  | braced name | bare name => some name.text

/-- What a fragment stands for when its variable is bound. -/
def value (bindings : Bindings) : Fragment → List Char
  | text plain _ => plain
  | escape => ['$']
  | braced name | bare name => valueOf bindings name.text

def pieces : Fragment → List Piece
  | text plain _ => plain.map .plain
  | escape => [.dollar]
  | braced name => [.reference name.chars true]
  | bare name => [.reference name.chars false]

/-- A bare reference ends before a text that cannot go on in its name. -/
def EndsBefore (after : List Char) : Fragment → Prop
  | bare _ => Text.Stops isVariableChar after
  | _ => True

theorem filterMap_name?_pieces (fragment : Fragment) :
    fragment.pieces.filterMap Piece.name? = fragment.name?.toList := by
  cases fragment with
  | text plain noDollar =>
    rw [pieces, List.filterMap_map]
    exact List.filterMap_eq_nil_iff.mpr fun c _ => rfl
  | escape => rfl
  | braced name => rfl
  | bare name => rfl

theorem flatMap_inserted_pieces (bindings : Bindings) (fragment : Fragment) :
    fragment.pieces.flatMap (Piece.inserted bindings) = fragment.value bindings := by
  cases fragment with
  | text plain noDollar =>
    rw [pieces, List.flatMap_map, value]
    exact List.flatMap_singleton' plain
  | escape => rfl
  | braced name => exact List.flatMap_singleton ..
  | bare name => exact List.flatMap_singleton ..

end Fragment

/-- The text that fragments make up. -/
def sourceOf (fragments : List Fragment) : List Char := fragments.flatMap Fragment.source

/-- No character that could go on in its name follows a bare reference. -/
def Separated : List Fragment → Prop
  | [] => True
  | fragment :: rest => fragment.EndsBefore (sourceOf rest) ∧ Separated rest

/-! ### Scanning -/

variable {after : List Char} {fragments : List Fragment}

theorem takeVariable?_append (name : VariableName) (ends : Text.Stops isVariableChar after) :
    takeVariable? (name.chars ++ after) = some (name.chars, after) := by
  rw [VariableName.chars, List.cons_append, takeVariable?, if_pos name.starts,
    Text.takeWhile_append_stops name.goesOn ends, Text.dropWhile_append_stops name.goesOn ends]

/-- A name cannot be taken for a dollar sign or a brace. -/
theorem pieceAfterDollar?_bare (name : VariableName) (ends : Text.Stops isVariableChar after) :
    pieceAfterDollar? (name.chars ++ after) = some (.reference name.chars false, after) := by
  have taken := takeVariable?_append name ends
  unfold pieceAfterDollar?
  split
  · rename_i rest isText
    have wrong := name.starts
    rw [(List.cons.inj isText).1] at wrong
    exact absurd wrong (by decide)
  · rename_i rest isText
    have wrong := name.starts
    rw [(List.cons.inj isText).1] at wrong
    exact absurd wrong (by decide)
  · rw [taken]

theorem pieceAfterDollar?_braced (name : VariableName) (after : List Char) :
    pieceAfterDollar? ('{' :: (name.chars ++ '}' :: after))
      = some (.reference name.chars true, after) := by
  have taken := takeVariable?_append name (Text.Stops.cons (c := '}') (by decide) after)
  rw [pieceAfterDollar?, taken]
  rfl

theorem scan_dollar {text after : List Char} {piece : Piece}
    (found : pieceAfterDollar? text = some (piece, after)) :
    Piece.scan ('$' :: text) = piece :: Piece.scan after := by
  rw [Piece.scan, if_pos rfl]
  split
  · rename_i same
    cases found.symm.trans same
    rfl
  · rename_i missing
    cases found.symm.trans missing

/-- **The pieces of a fragment are scanned whatever follows it.** -/
theorem scan_source_append {fragment : Fragment} (ends : fragment.EndsBefore after) :
    Piece.scan (fragment.source ++ after) = fragment.pieces ++ Piece.scan after := by
  cases fragment with
  | text plain noDollar =>
    show Piece.scan (plain ++ after) = plain.map .plain ++ Piece.scan after
    induction plain with
    | nil => rfl
    | cons c plain ih =>
      obtain ⟨different, later⟩ := not_or.mp (List.mem_cons.not.mp noDollar)
      rw [List.cons_append, Piece.scan, if_neg (Ne.symm different), ih later trivial]
      rfl
  | escape => exact scan_dollar rfl
  | braced name =>
    show Piece.scan ('$' :: '{' :: ((name.chars ++ ['}']) ++ after)) = _
    rw [List.append_assoc]
    exact scan_dollar (pieceAfterDollar?_braced name after)
  | bare name => exact scan_dollar (pieceAfterDollar?_bare name ends)

theorem scan_sourceOf (separated : Separated fragments) :
    Piece.scan (sourceOf fragments) = fragments.flatMap Fragment.pieces := by
  induction fragments with
  | nil => rw [sourceOf, List.flatMap_nil, Piece.scan, List.flatMap_nil]
  | cons fragment rest ih =>
    rw [sourceOf, List.flatMap_cons, ← sourceOf, scan_source_append separated.1, ih separated.2,
      List.flatMap_cons]

theorem interpolate_sourceOf (separated : Separated fragments) (bindings : Bindings)
    (unit : Option String) :
    interpolate bindings unit (String.ofList (sourceOf fragments))
      = unlessUnbound bindings unit (fragments.filterMap Fragment.name?)
        (String.ofList (fragments.flatMap (Fragment.value bindings))) := by
  have names : (fragments.flatMap Fragment.pieces).filterMap Piece.name?
      = fragments.filterMap Fragment.name? := by
    rw [List.filterMap_flatMap, List.filterMap_eq_flatMap_toList]
    exact List.flatMap_congr fun fragment _ => fragment.filterMap_name?_pieces
  have values : (fragments.flatMap Fragment.pieces).flatMap (Piece.inserted bindings)
      = fragments.flatMap (Fragment.value bindings) := by
    rw [List.flatMap_assoc]
    exact List.flatMap_congr fun fragment _ => fragment.flatMap_inserted_pieces bindings
  rw [interpolate_eq, references, inserted, String.toList_ofList, scan_sourceOf separated, names, values]

/-! ### Doubled dollar signs -/

/-- A text with every dollar sign doubled. -/
def doubled (text : String) : String :=
  String.ofList (text.toList.flatMap fun c => if c = '$' then ['$', '$'] else [c])

/-- The fragment for a character of a text that is to stand for itself. -/
def Fragment.ofChar (c : Char) : Fragment :=
  if isDollar : c = '$' then .escape else .text [c] (by simpa using Ne.symm isDollar)

theorem sourceOf_ofChar (text : List Char) :
    sourceOf (text.map Fragment.ofChar) = text.flatMap fun c => if c = '$' then ['$', '$'] else [c] := by
  rw [sourceOf, List.flatMap_map]
  refine List.flatMap_congr fun c _ => ?_
  unfold Fragment.ofChar
  split <;> rfl

theorem separated_ofChar (text : List Char) : Separated (text.map Fragment.ofChar) := by
  induction text with
  | nil => exact trivial
  | cons c text ih =>
    refine ⟨?_, ih⟩
    unfold Fragment.ofChar
    split <;> exact trivial

theorem name?_ofChar (c : Char) : (Fragment.ofChar c).name? = none := by
  unfold Fragment.ofChar
  split <;> rfl

theorem value_ofChar (bindings : Bindings) (c : Char) : (Fragment.ofChar c).value bindings = [c] := by
  unfold Fragment.ofChar
  split
  · rename_i isDollar
    rw [isDollar]
    rfl
  · rfl

/-- **A text with every dollar sign doubled stands for itself.** -/
theorem interpolate_doubled (bindings : Bindings) (unit : Option String) (text : String) :
    interpolate bindings unit (doubled text) = .ok text := by
  have noNames : (text.toList.map Fragment.ofChar).filterMap Fragment.name? = [] := by
    rw [List.filterMap_map]
    exact List.filterMap_eq_nil_iff.mpr fun c _ => name?_ofChar c
  have itself : (text.toList.map Fragment.ofChar).flatMap (Fragment.value bindings) = text.toList := by
    rw [List.flatMap_map]
    exact (List.flatMap_congr fun c _ => value_ofChar bindings c).trans (List.flatMap_singleton' _)
  rw [doubled, ← sourceOf_ofChar, interpolate_sourceOf (separated_ofChar _), noNames, itself,
    String.ofList_toList]
  rfl

/-! ### The whole -/

theorem value_of_noName (bindings other : Bindings) {fragment : Fragment} (noName : fragment.name? = none) :
    fragment.value bindings = fragment.value other := by
  cases fragment with
  | text plain noDollar => rfl
  | escape => rfl
  | braced name => cases noName
  | bare name => cases noName

/-- **Variables are inserted in one pass, verbatim.** A text that is written in fragments gives what these
stand for, one after the other, if all the variables that it refers to are bound; else the first one that is
not. Without references the bindings do not matter, and a text with every dollar sign doubled gives
itself. -/
theorem interpolate_inserts_verbatim (fragments : List Fragment) (separated : Separated fragments)
    (bindings : Bindings) (unit : Option String) :
    ((∀ name ∈ fragments.filterMap Fragment.name?, isUnbound bindings name = false) →
      interpolate bindings unit (String.ofList (sourceOf fragments))
        = .ok (String.ofList (fragments.flatMap (Fragment.value bindings)))) ∧
    (∀ early name late, fragments.filterMap Fragment.name? = early ++ name :: late →
      (∀ earlier ∈ early, isUnbound bindings earlier = false) → isUnbound bindings name = true →
      interpolate bindings unit (String.ofList (sourceOf fragments))
        = .error (.unresolvedVariable name unit)) ∧
    (fragments.filterMap Fragment.name? = [] → ∀ other : Bindings,
      interpolate other unit (String.ofList (sourceOf fragments))
        = interpolate bindings unit (String.ofList (sourceOf fragments))) ∧
    ∀ text : String, interpolate bindings unit (doubled text) = .ok text := by
  refine ⟨fun bound => ?_, fun early name late names bound unbound => ?_, fun noNames other => ?_,
    interpolate_doubled bindings unit⟩
  · rw [interpolate_sourceOf separated]
    exact unlessUnbound_of_bound bound unit _
  · rw [interpolate_sourceOf separated, names]
    exact unlessUnbound_of_split bound unbound unit _
  · have values : fragments.flatMap (Fragment.value other) = fragments.flatMap (Fragment.value bindings) :=
      List.flatMap_congr fun fragment isFragment =>
        value_of_noName other bindings (List.filterMap_eq_nil_iff.mp noNames fragment isFragment)
    rw [interpolate_sourceOf separated, interpolate_sourceOf separated, noNames, values]
    rfl

/-- The text `to $$${USER}_$AI.` -/
def addressFragments : List Fragment :=
  [.text "to ".toList (by decide), .escape, .braced ⟨'U', "SER".toList, rfl, List.all_eq_true.mp rfl⟩,
    .text "_".toList (by decide), .bare ⟨'A', "I".toList, rfl, List.all_eq_true.mp rfl⟩,
    .text ".".toList (by decide)]

/-- A value that looks like a reference goes in as it is. -/
theorem address_inserts_verbatim :
    interpolate [("AI", "x"), ("USER", "$AI")] none (String.ofList (sourceOf addressFragments))
      = .ok "to $$AI_x." :=
  (interpolate_inserts_verbatim addressFragments
    ⟨trivial, trivial, trivial, trivial, Text.Stops.cons (by decide) [], trivial, trivial⟩ _ none).1
    (by decide)

end PromptChain
