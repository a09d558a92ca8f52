/-
**Templates and their texts.**

A template is canonical when no plain segment of it is empty or stands next to another plain one, and no
segment holds a backtick.

* `segmentsOf?_eq_some`: what stands between backticks gives canonical segments with the same text;
* `segmentsOf?_text`: canonical segments are read back from their text.

Main statement: `templates_correspond`, reading and writing are inverse to each other between the texts
with an even number of backticks and the canonical templates.
-/

import Mathlib.Data.List.Chain
import PromptChain.Proofs.RoundTrip

namespace PromptChain.Template

open Text

variable {segments : List Segment} {parts : List (List Char)} {plain : List Char}

/-! ### Canonical templates -/

/-- Two segments that may follow each other: one of them is a command. -/
def Apart : Segment → Segment → Prop
  | .text _, .text _ => False
  | _, _ => True

/-- What stands in a segment, without its backticks. -/
def inside : Segment → List Char
  | .text plain => plain.toList
  | .shell command => command.toList

/-- A template with its text divided by backticks and nowhere else. -/
structure IsCanonical (template : Template) : Prop where
  solid : .text "" ∉ template.segments
  apart : template.segments.IsChain Apart
  closed : ∀ segment ∈ template.segments, '\x60' ∉ inside segment

theorem isCanonical_cons {segment : Segment} : IsCanonical ⟨segment :: segments⟩ ↔
    segment ≠ .text "" ∧ '\x60' ∉ inside segment ∧ (∀ next ∈ segments.head?, Apart segment next) ∧
      IsCanonical ⟨segments⟩ := by
  constructor
  · rintro ⟨solid, apart, closed⟩
    rw [List.mem_cons, not_or] at solid
    rw [List.isChain_cons] at apart
    rw [List.forall_mem_cons] at closed
    exact ⟨Ne.symm solid.1, closed.1, apart.1, solid.2, apart.2, closed.2⟩
  · rintro ⟨nonempty, isClosed, first, solid, apart, closed⟩
    exact ⟨List.not_mem_cons_of_ne_of_not_mem nonempty.symm solid, List.isChain_cons.mpr ⟨first, apart⟩,
      List.forall_mem_cons.mpr ⟨isClosed, closed⟩⟩

/-! ### Reading -/

theorem text_cons (segment : Segment) :
    text ⟨segment :: segments⟩ = segment.source ++ text ⟨segments⟩ := String.join_cons

/-- A plain part may stand before a command, or at the end. -/
theorem isCanonical_plainPart (closed : '\x60' ∉ plain) (canonical : IsCanonical ⟨segments⟩)
    (first : ∀ next ∈ segments.head?, Apart (.text (String.ofList plain)) next) :
    IsCanonical ⟨plainPart plain ++ segments⟩ ∧
      (text ⟨plainPart plain ++ segments⟩).toList = plain ++ (text ⟨segments⟩).toList := by
  cases plain with
  | nil => exact ⟨canonical, rfl⟩
  | cons c plain =>
    refine ⟨isCanonical_cons.mpr ⟨by simp, by simpa [inside] using closed, first, canonical⟩, ?_⟩
    simp [plainPart, text_cons, Segment.source]

/-- **What stands between backticks** is read as canonical segments with the same text. -/
theorem segmentsOf?_eq_some (closed : ∀ part ∈ parts, '\x60' ∉ part)
    (isRead : segmentsOf? parts = some segments) :
    IsCanonical ⟨segments⟩ ∧ (text ⟨segments⟩).toList = joinWith ['\x60'] parts := by
  fun_induction segmentsOf? parts generalizing segments with
  | case1 | case3 => cases isRead
  | case2 plain =>
    cases isRead
    have nothing : IsCanonical ⟨[]⟩ := ⟨List.not_mem_nil, .nil, by simp⟩
    simpa [joinWith, text] using isCanonical_plainPart (closed plain List.mem_cons_self) nothing (by simp)
  | case4 plain command next rest ih =>
    obtain ⟨later, isLater, rfl⟩ := Option.map_eq_some_iff.mp isRead
    rw [List.forall_mem_cons, List.forall_mem_cons] at closed
    obtain ⟨canonical, same⟩ := ih closed.2.2 isLater
    have commandFirst : IsCanonical ⟨.shell (String.ofList command) :: later⟩ :=
      isCanonical_cons.mpr ⟨by simp, by simpa [inside] using closed.2.1, fun _ _ => trivial, canonical⟩
    obtain ⟨isCanonical, isText⟩ := isCanonical_plainPart closed.1 commandFirst (by simp [Apart])
    refine ⟨isCanonical, isText.trans ?_⟩
    simp [text_cons, Segment.source, same, joinWith]

/-! ### Writing -/

theorem splitOnChar_closed (closed : '\x60' ∉ plain) (rest : List Char) :
    splitOnChar '\x60' (plain ++ '\x60' :: rest) = plain :: splitOnChar '\x60' rest := by
  simp only [splitOnChar_eq_splitOn, List.splitOn_append_cons_self, List.splitOn_eq_singleton closed,
    List.singleton_append]

/-- **Canonical segments are read back from their text**, also with a plain part before a command. -/
theorem segmentsOf?_text (canonical : IsCanonical ⟨segments⟩) (plainClosed : '\x60' ∉ plain)
    (apart : plain = [] ∨ ∀ next ∈ segments.head?, Apart (.text (String.ofList plain)) next) :
    segmentsOf? (splitOnChar '\x60' (plain ++ (text ⟨segments⟩).toList))
      = some (plainPart plain ++ segments) := by
  induction segments generalizing plain with
  | nil =>
    rw [show (text ⟨[]⟩).toList = [] from rfl, List.append_nil, List.append_nil, splitOnChar_eq_splitOn,
      List.splitOn_eq_singleton plainClosed, segmentsOf?]
  | cons segment rest ih =>
    obtain ⟨nonempty, closed, first, rest_canonical⟩ := isCanonical_cons.mp canonical
    cases segment with
    | text own =>
      -- Nothing stands before a plain segment, which is itself the part before the rest.
      cases apart.resolve_right fun apart => apart _ rfl
      rw [text_cons, String.toList_append, List.nil_append, Segment.source,
        ih rest_canonical (show _ ∉ own.toList from closed) (.inr (by simpa using first)), plainPart,
        String.ofList_toList, if_neg (by simpa using nonempty)]
      rfl
    | shell command =>
      have isRead := ih rest_canonical List.not_mem_nil (.inl rfl)
      have written : (text ⟨.shell command :: rest⟩).toList
          = '\x60' :: (command.toList ++ '\x60' :: (text ⟨rest⟩).toList) := by
        simp [text_cons, Segment.source]
      rw [written, splitOnChar_closed plainClosed, splitOnChar_closed (show _ ∉ command.toList from closed)]
      rw [List.nil_append] at isRead
      cases found : splitOnChar '\x60' (text ⟨rest⟩).toList with
      | nil => rw [found] at isRead; cases isRead
      | cons next more =>
        rw [segmentsOf?, ← found, isRead, Option.map_some, String.ofList_toList]
        rfl

/-- **Templates and their texts correspond one to one.** A text is refused exactly when the number of its
backticks is odd. It is read as a template exactly when this template is canonical and has that text: so
what is read has the text that was read, and what is canonical is read back from its text. -/
theorem templates_correspond (text : String) (template : Template) :
    (parse? text = none ↔ Odd (text.toList.count '\x60')) ∧
      (parse? text = some template ↔ template.IsCanonical ∧ template.text = text) := by
  refine ⟨?_, ?_, ?_⟩
  · rw [← Nat.not_even_iff_odd, ← Source.parse?_isSome, Option.not_isSome_iff_eq_none]
  · intro isRead
    obtain ⟨segments, isSegments, rfl⟩ := Option.map_eq_some_iff.mp isRead
    obtain ⟨canonical, same⟩ :=
      segmentsOf?_eq_some (fun _ member => separator_notMem_of_mem_splitOnChar member) isSegments
    rw [joinWith_eq_intercalate, splitOnChar_eq_splitOn, List.intercalate_splitOn] at same
    exact ⟨canonical, String.toList_injective same⟩
  · rintro ⟨canonical, rfl⟩
    exact congrArg (Option.map mk) (segmentsOf?_text canonical List.not_mem_nil (.inl rfl))

end PromptChain.Template
