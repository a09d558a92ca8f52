/-
**Transcripts that are found again.**

The files of all units stand in one directory. A file has the name of its unit, a low line and a stamp,
and is looked for by the start of its name, up to that low line. A stamp holds no low line, but the name
of a unit may; so a file is found for its own unit and for each name that, with a low line behind it, is
a start of the name of its unit (`Saving.isFoundBy_file_iff`).

Along any number of saves the directory keeps what was saved (`Keeping`): by one save
(`Keeping.save_of_fits`), and so by all of them (`Keeping.saveEach`). The newest of what is found is the
last one kept (`Keeping.latest_eq`). So the latest transcript of a name is the last one saved for that
name or for a longer one (`latest_is_last_saved_with_start`).
-/

import Mathlib.Data.List.Nodup
import PromptChain.Archive
import PromptChain.Proofs.Files
import PromptChain.Proofs.Words

namespace PromptChain.Archive

open Files
open Source (isExportChar_iff ne_of_isExportChar)

/-! ### Stamps -/

/-- The digits of a number of some width. -/
theorem isDigit_of_mem_padded {width value : Nat} {c : Char} (member : c ∈ Decimal.padded width value) :
    c.isDigit = true := by
  rcases List.mem_append.mp member with isZero | isDigit
  · rw [List.eq_of_mem_replicate isZero]
    decide
  · exact Nat.isDigit_of_mem_toDigits (by decide) (by decide) isDigit

/-- A stamp is made of digits, hyphens, points and a letter. -/
theorem mem_stamp {moment : Nat} {c : Char} (member : c ∈ (Time.stamp moment).toList) :
    c.isDigit = true ∨ c ∈ ['-', 'T', '.'] := by
  rw [Time.stamp, String.toList_ofList] at member
  simp only [List.mem_append, List.mem_cons] at member
  grind [isDigit_of_mem_padded]

theorem notMem_stamp {moment : Nat} {c : Char} (noDigit : c.isDigit = false)
    (noMark : c ∉ ['-', 'T', '.']) : c ∉ (Time.stamp moment).toList := by
  intro member
  rcases mem_stamp member with isDigit | isMark
  · exact Bool.false_ne_true (noDigit.symm.trans isDigit)
  · exact noMark isMark

/-! ### Names of files -/

variable {name : String}

theorem safeName_of_isName (isName : IsName name.toList) : safeName name = name := by
  have allKept : name.toList.filter (fun c => Text.isAlphanumeric c || c == '-' || c == '_')
      = name.toList := by
    refine List.filter_eq_self.mpr fun c member => ?_
    have inName := (isExportChar_iff c).mp (isName.2 c member)
    have lowLine : (c == '_') = decide (c.toNat = 95) := by
      rw [Bool.eq_iff_iff, beq_iff_eq, decide_eq_true_eq, ← Char.toNat_inj]
      rfl
    have isAscii : c.toNat < 128 := by omega
    simp only [Text.isAlphanumeric, Text.isAlphanumericCode, Text.isLetterCode, if_pos isAscii, lowLine,
      Bool.or_eq_true, Bool.and_eq_true, decide_eq_true_eq]
    omega
  rw [safeName, allKept, String.ofList_toList]

theorem toList_fileName (isName : IsName name.toList) (timestamp : String) :
    (fileName name timestamp).toList
      = name.toList ++ '_' :: (timestamp.toList ++ ".json".toList) := by
  rw [fileName, safeName_of_isName isName]
  simp [String.toList_append]

/-- Two texts with a mark in them, of which one has no mark behind that one: they are cut at the same
mark, or the other is cut before. -/
theorem eq_or_prefix_of_marked {mark : Char} {first rest second last : List Char}
    (unmarked : mark ∉ last) (same : first ++ mark :: rest = second ++ mark :: last) :
    first = second ∧ rest = last ∨ first ++ [mark] <+: second := by
  rcases List.append_eq_append_iff.mp same with ⟨more, rfl, tail⟩ | ⟨more, rfl, tail⟩
  · cases more with
    | nil =>
      rw [List.nil_append] at tail
      exact .inl ⟨(List.append_nil _).symm, (List.cons.inj tail).2⟩
    | cons c more =>
      obtain ⟨rfl, -⟩ := List.cons.inj tail
      exact .inr ⟨more, by simp⟩
  · cases more with
    | nil =>
      rw [List.nil_append] at tail
      exact .inl ⟨List.append_nil _, (List.cons.inj tail).2.symm⟩
    | cons c more =>
      obtain ⟨-, isLast⟩ := List.cons.inj tail
      exact absurd (by rw [isLast]; simp) unmarked

section Stamped

variable {first second timestamp other : String} (unmarked : '_' ∉ timestamp.toList)

include unmarked

/-- Behind the low line of a file name there is none. -/
theorem lowLine_notMem : '_' ∉ timestamp.toList ++ ".json".toList := by
  rw [List.mem_append]
  rintro (inStamp | inEnd)
  · exact unmarked inStamp
  · exact absurd inEnd (by decide)

/-- **The stamp of a file is found again in its name.** -/
theorem stamp_eq_of_fileName_eq (isFirst : IsName first.toList) (isSecond : IsName second.toList)
    (otherUnmarked : '_' ∉ other.toList) (same : fileName first timestamp = fileName second other) :
    timestamp = other := by
  have parts := congrArg String.toList same
  rw [toList_fileName isFirst, toList_fileName isSecond] at parts
  rcases eq_or_prefix_of_marked (lowLine_notMem otherUnmarked) parts with ⟨-, tails⟩ | ⟨more, longer⟩
  · exact String.toList_inj.mp (List.append_cancel_right tails)
  · -- a low line would stand behind the first one
    rw [← longer, List.append_assoc, List.append_assoc, List.append_cancel_left_eq,
      List.singleton_append, List.cons.injEq] at parts
    exact absurd (by rw [parts.2]; simp) (lowLine_notMem unmarked)

end Stamped

theorem slash_notMem_fileName (name : String) {timestamp : String} (oneStep : '/' ∉ timestamp.toList) :
    '/' ∉ (fileName name timestamp).toList := by
  have notKept : '/' ∉ (safeName name).toList := by
    rw [safeName, String.toList_ofList]
    exact fun kept => absurd (List.of_mem_filter kept) (by decide)
  simp [fileName, String.toList_append, notKept, oneStep]

/-! ### Files that are found -/

theorem head?_ne_point (isName : IsName name.toList) (rest : String) :
    (name ++ rest).toList.head? ≠ some '.' := by
  rw [String.toList_append, List.head?_append_of_ne_nil _ isName.1]
  intro isHead
  exact ne_of_isExportChar (isName.2 _ (List.mem_of_mem_head? isHead)) (by decide) rfl

/-- What is looked for by the start of its name. -/
theorem isFoundBy_iff {start name : String} (plain : ∀ c ∈ start.toList, Wild.IsPlain c)
    (shown : start.toList.head? ≠ some '.') :
    isFoundBy (start ++ "*.json") name = true
      ↔ isHidden name = false ∧ ∃ middle, name.toList = start.toList ++ middle ++ ".json".toList := by
  have shownPattern : isHidden (start ++ "*.json") = false := by
    rw [isHidden, String.toList_append, beq_eq_false_iff_ne]
    cases isStart : start.toList with
    | nil => decide
    | cons c rest =>
      rw [isStart] at shown
      exact shown
  have parts : start ++ "*.json" = start ++ "*" ++ ".json" := by
    rw [String.append_assoc]
    rfl
  have plainEnd : ∀ c ∈ ".json".toList, Wild.IsPlain c := by
    simp [Wild.IsPlain]
  rw [isFoundBy, shownPattern, parts, Bool.and_eq_true, Wild.matchesAll_star_iff plain plainEnd]
  simp

theorem plain_of_isName (isName : IsName name.toList) :
    ∀ c ∈ (name ++ "_").toList, Wild.IsPlain c := by
  intro c member
  rw [String.toList_append, List.mem_append] at member
  have inName : isExportChar c = true := by
    rcases member with inName | isLowLine
    · exact isName.2 c inName
    · rw [List.mem_singleton.mp isLowLine]
      decide
  exact ⟨ne_of_isExportChar inName (by decide), ne_of_isExportChar inName (by decide),
    ne_of_isExportChar inName (by decide)⟩

theorem isHidden_fileName (isName : IsName name.toList) (timestamp : String) :
    isHidden (fileName name timestamp) = false := by
  rw [isHidden, beq_eq_false_iff_ne, fileName, safeName_of_isName isName, String.append_assoc,
    String.append_assoc]
  exact head?_ne_point isName _

/-- A file of any unit is a transcript. -/
theorem isFoundBy_all (isName : IsName name.toList) (timestamp : String) :
    isFoundBy ("" ++ "*.json") (fileName name timestamp) = true := by
  rw [isFoundBy_iff (by simp) (by simp)]
  refine ⟨isHidden_fileName isName timestamp, name.toList ++ '_' :: timestamp.toList, ?_⟩
  rw [toList_fileName isName]
  simp

/-- What is found for a name is a transcript. -/
theorem isFoundBy_all_of_name {asked file : String} (isAsked : IsName asked.toList)
    (found : isFoundBy (asked ++ "_" ++ "*.json") file = true) :
    isFoundBy ("" ++ "*.json") file = true := by
  rw [isFoundBy_iff (plain_of_isName isAsked) (head?_ne_point isAsked _)] at found
  obtain ⟨shown, middle, whole⟩ := found
  rw [isFoundBy_iff (by simp) (by simp)]
  exact ⟨shown, (asked ++ "_").toList ++ middle, whole⟩

/-- **A file is found for the name of its unit, and for what is a start of it before a low line.** -/
theorem isFoundBy_fileName_iff {asked name timestamp : String} (isAsked : IsName asked.toList)
    (isName : IsName name.toList) (unmarked : '_' ∉ timestamp.toList) :
    isFoundBy (asked ++ "_" ++ "*.json") (fileName name timestamp) = true
      ↔ name = asked ∨ asked.toList ++ ['_'] <+: name.toList := by
  have isStart : (asked ++ "_").toList = asked.toList ++ ['_'] := by simp [String.toList_append]
  rw [isFoundBy_iff (plain_of_isName isAsked) (head?_ne_point isAsked _), isStart,
    toList_fileName isName]
  constructor
  · rintro ⟨-, middle, whole⟩
    have marked : asked.toList ++ '_' :: (middle ++ ".json".toList)
        = name.toList ++ '_' :: (timestamp.toList ++ ".json".toList) := by
      rw [whole]
      simp
    rcases eq_or_prefix_of_marked (lowLine_notMem unmarked) marked with ⟨same, -⟩ | isPrefix
    · exact .inl (String.toList_inj.mp same.symm)
    · exact .inr isPrefix
  · rintro (rfl | ⟨more, longer⟩)
    · exact ⟨isHidden_fileName isName _, timestamp.toList, by simp⟩
    · refine ⟨isHidden_fileName isName _, more ++ '_' :: timestamp.toList, ?_⟩
      rw [← longer]
      simp

/-! ### One save after another -/

/-- A transcript to be saved, and the clock at that time. -/
structure Saving where
  name : String
  session : Session
  report : Report
  clock : Time.Clock

namespace Saving

/-- The stamp of a transcript. -/
@[irreducible]
def stamp (saving : Saving) : String := Time.stamp saving.clock.moment

/-- The name of the file of a transcript. -/
def file (saving : Saving) : String := fileName saving.name saving.stamp

/-- Whether the name of a file is short enough. -/
def fits (saving : Saving) : Bool := decide (saving.file.utf8ByteSize ≤ Tree.longestName)

/-- Whether a transcript is looked at for a name: it is that of its unit, or a start of it before a low
line. -/
def answers (asked : String) (saving : Saving) : Bool :=
  saving.name == asked || (asked.toList ++ ['_']).isPrefixOf saving.name.toList

/-- The text of a transcript, as bytes. -/
def bytes (saving : Saving) : Text.Bytes :=
  let transcript : Transcript :=
    { unit := saving.name, timestamp := saving.stamp, session := saving.session, report := saving.report }
  Text.encode transcript.text

/-- The file of a transcript in a directory. -/
def entry (place : Place) (saving : Saving) : Entry :=
  { place := place ++ [saving.file], content := some saving.bytes, modified := saving.clock.modified }

theorem notMem_stamp {c : Char} (noDigit : c.isDigit = false) (noMark : c ∉ ['-', 'T', '.'])
    (saving : Saving) : c ∉ saving.stamp.toList := by
  rw [stamp]
  exact Archive.notMem_stamp noDigit noMark

theorem isFoundBy_file_iff {asked : String} {saving : Saving} (isAsked : IsName asked.toList)
    (isName : IsName saving.name.toList) :
    isFoundBy (asked ++ "_" ++ "*.json") saving.file = true ↔ saving.answers asked = true := by
  rw [file, isFoundBy_fileName_iff isAsked isName (saving.notMem_stamp (by decide) (by decide)),
    answers, Bool.or_eq_true, beq_iff_eq, List.isPrefixOf_iff_prefix]

end Saving

/-- Saves transcripts one after the other: those that were saved with their paths, and the files. -/
def saveEach (archive : Archive) (here : Place) (tree : Tree) :
    List Saving → List (Saving × String) × Tree
  | [] => ([], tree)
  | saving :: rest =>
    let step := archive.save ⟨tree, here, saving.clock⟩ saving.name saving.session saving.report
    let later := saveEach archive here step.2.tree rest
    ((step.1.toOption.map fun path => (saving, path)).toList ++ later.1, later.2)

/-- An archive whose files are found again by their paths: no wildcard is in the path of the directory,
and at most one slash at its end. -/
structure IsPlain (archive : Archive) (stem : String) : Prop where
  isStem : IsStem stem
  base : archive.base = stem ∨ archive.base = stem ++ "/"
  noWildcard : hasWildcard stem = false

theorem IsPlain.joinText_base {archive : Archive} {stem name : String} (plain : archive.IsPlain stem)
    (oneStep : '/' ∉ name.toList) : joinText archive.base name = stem ++ "/" ++ name := by
  rcases plain.base with isBase | isBase
  · rw [isBase, joinText_stem plain.isStem oneStep]
  · rw [isBase, joinText_slash oneStep]

/-- Whether an entry is a transcript, by its name. -/
def isTranscript (entry : Entry) : Bool := entry.place.getLast?.any (isFoundBy ("" ++ "*.json"))

/-- A directory whose transcripts are those that were kept, in this order. -/
structure Keeping (here : Place) (stem : String) (place : Place) (kept : List Saving) (tree : Tree) :
    Prop where
  located : tree.locate here (.ofRawText stem) = .ok place
  isDirectory : tree.isDirectory place = true
  transcripts : (tree.childrenOf place).filter isTranscript = kept.map (Saving.entry place)

section Keeping

variable {archive : Archive} {stem : String} {here place : Place} {kept : List Saving} {tree : Tree}
  {saving : Saving}

/-- The path of a file leads into the directory, if its name is short enough. -/
theorem Keeping.locate_file (keeping : Keeping here stem place kept tree) (isStem : IsStem stem)
    (isName : IsName saving.name.toList) :
    tree.locate here (.ofRawText (stem ++ "/" ++ saving.file))
      = if saving.fits then .ok (place ++ [saving.file]) else .error .nameTooLong := by
  have lowLine : '_' ∈ saving.file.toList := by
    rw [Saving.file, toList_fileName isName]
    simp
  rw [Tree.locate_join isStem keeping.located keeping.isDirectory (List.ne_nil_of_mem lowLine)
    (slash_notMem_fileName _ (saving.notMem_stamp (by decide) (by decide)))]
  · by_cases isLong : Tree.longestName < saving.file.utf8ByteSize
    · simp [Saving.fits, isLong]
    · simp [Saving.fits, isLong, Nat.le_of_not_lt isLong]
  · intro isPoint
    rw [isPoint] at lowLine
    exact absurd lowLine (by decide)
  · intro isParent
    rw [isParent] at lowLine
    exact absurd lowLine (by decide)

/-- What is at the place of a file. -/
theorem Keeping.entry?_file (keeping : Keeping here stem place kept tree)
    (isName : IsName saving.name.toList) :
    Tree.entry? tree (place ++ [saving.file])
      = (kept.find? fun other => other.file == saving.file).map (Saving.entry place) := by
  have sameFile : (fun entry : Entry => entry.place == place ++ [saving.file]) ∘ Saving.entry place
      = fun other => other.file == saving.file := by
    funext other
    simp [Saving.entry]
  rw [← sameFile, ← List.find?_map, ← keeping.transcripts, Tree.childrenOf, List.filter_filter,
    List.find?_filter, Tree.entry?]
  congr 1
  funext entry
  rw [Bool.eq_iff_iff, decide_eq_true_eq]
  constructor
  · intro samePlace
    have atPlace := beq_iff_eq.mp samePlace
    have isFile : isFoundBy ("" ++ "*.json") saving.file = true := isFoundBy_all isName _
    refine ⟨?_, samePlace⟩
    rw [isTranscript, atPlace, List.getLast?_concat, Option.any_some, isFile]
    simp
  · exact fun both => both.2

/-- The names in a directory by a pattern that finds transcripts only. -/
theorem filter_childNames (tree : Tree) (place : Place) {pattern : String}
    (isStart : ∀ file, isFoundBy pattern file = true → isFoundBy ("" ++ "*.json") file = true) :
    (tree.childNames place).filter (isFoundBy pattern)
      = (((tree.childrenOf place).filter isTranscript).filterMap fun entry =>
          entry.place.getLast?).filter (isFoundBy pattern) := by
  rw [Tree.childNames, List.filter_filterMap, List.filter_filterMap, List.filterMap_filter]
  congr 1
  funext entry
  rw [isTranscript]
  cases isLast : entry.place.getLast? with
  | none => rfl
  | some file =>
    by_cases found : isFoundBy pattern file = true
    · rw [Option.any_some, if_pos (isStart file found)]
    · simp [found]

/-- The transcripts that are found, before they are put in order. -/
theorem Keeping.glob_eq (keeping : Keeping here stem place kept tree) (plain : archive.IsPlain stem)
    {start : String} (oneStep : '/' ∉ start.toList)
    (isStart : ∀ file, isFoundBy (start ++ "*.json") file = true →
      isFoundBy ("" ++ "*.json") file = true) :
    glob tree here (joinText archive.base (start ++ "*.json"))
      = (kept.filter fun saving => isFoundBy (start ++ "*.json") saving.file).map
          fun saving => joinText stem saving.file := by
  have patternStep : '/' ∉ (start ++ "*.json").toList := by
    rw [String.toList_append, List.mem_append]
    rintro (inStart | inEnd)
    · exact oneStep inStart
    · exact absurd inEnd (by decide)
  have wildcard : hasWildcard (start ++ "*.json") = true := by
    rw [hasWildcard, String.toList_append, List.any_append]
    simp
  have lastSteps : (kept.map (Saving.entry place)).filterMap (fun entry => entry.place.getLast?)
      = kept.map Saving.file := by
    rw [List.filterMap_map, ← List.filterMap_eq_map]
    congr 1
    funext saving
    simp [Saving.entry]
  rw [plain.joinText_base patternStep,
    glob_join plain.isStem plain.noWildcard wildcard patternStep keeping.located,
    filter_childNames tree place isStart, keeping.transcripts, lastSteps, List.filter_map, List.map_map]
  rfl

/-- A new archive without transcripts. -/
theorem keeping_of_create {before : Tree} {now : Int} (plain : archive.IsPlain stem)
    (created : archive.create before here now = .ok tree) (empty : archive.list tree here "" = []) :
    ∃ place, Keeping here stem place [] tree := by
  obtain ⟨place, located, isDirectory⟩ := Tree.makeDirectories_located created
  have atStem : tree.locate here (.ofRawText stem) = .ok place := by
    rcases plain.base with isBase | isBase
    · rwa [isBase] at located
    · rw [isBase] at located
      exact Tree.locate_of_slash plain.isStem located
  have nothing : glob tree here (joinText archive.base ("" ++ "*.json")) = [] :=
    List.eq_nil_of_length_eq_zero ((List.length_mergeSort _).symm.trans (congrArg _ empty))
  rw [plain.joinText_base (by decide), glob_join plain.isStem plain.noWildcard (by decide) (by decide)
    atStem, List.map_eq_nil_iff, Tree.childNames, List.filter_eq_nil_iff] at nothing
  refine ⟨place, atStem, isDirectory, List.filter_eq_nil_iff.mpr fun entry member => ?_⟩
  rw [isTranscript]
  cases isLast : entry.place.getLast? with
  | none => simp
  | some file => exact nothing file (List.mem_filterMap.mpr ⟨entry, member, isLast⟩)

/-- A save writes the file of a transcript. -/
theorem save_eq (saving : Saving) (plain : archive.IsPlain stem) :
    archive.save ⟨tree, here, saving.clock⟩ saving.name saving.session saving.report
      = match tree.write here (.ofRawText (stem ++ "/" ++ saving.file)) saving.bytes
            saving.clock.modified with
        | .error issue =>
          (.error ⟨stem ++ "/" ++ saving.file, issue⟩, ⟨tree, here, saving.clock.looked⟩)
        | .ok after =>
          (.ok (stem ++ "/" ++ saving.file), ⟨after, here, saving.clock.looked.written⟩) := by
  have isPath : joinText archive.base (fileName saving.name saving.stamp) = stem ++ "/" ++ saving.file :=
    plain.joinText_base (slash_notMem_fileName _ (saving.notMem_stamp (by decide) (by decide)))
  have isStamp : Time.stamp saving.clock.moment = saving.stamp := by rw [Saving.stamp]
  unfold Archive.save
  simp only [isStamp, isPath]
  rfl

/-- **A transcript is saved** behind those that were kept. -/
theorem Keeping.save_of_fits (keeping : Keeping here stem place kept tree)
    (plain : archive.IsPlain stem) (isName : IsName saving.name.toList)
    (isNew : ∀ other ∈ kept, other.file ≠ saving.file) (fits : saving.fits = true) :
    ∃ storage, archive.save ⟨tree, here, saving.clock⟩ saving.name saving.session saving.report
        = (.ok (stem ++ "/" ++ saving.file), storage) ∧
      Keeping here stem place (kept ++ [saving]) storage.tree := by
  have noEntry : tree.entry? (saving.entry place).place = none := by
    have noFile : (kept.find? fun other => other.file == saving.file) = none :=
      List.find?_eq_none.mpr fun other member => by simpa using isNew other member
    rw [Saving.entry, keeping.entry?_file isName, noFile]
    rfl
  have noDirectory : tree.isDirectory (saving.entry place).place = false := by
    rw [Tree.isDirectory, noEntry]
    simp [Saving.entry]
  have isWritten : tree.write here (.ofRawText (stem ++ "/" ++ saving.file)) saving.bytes
      saving.clock.modified = .ok (tree.put (saving.entry place)) := by
    have isParent : tree.isDirectory (place ++ [saving.file]).dropLast = true := by
      rw [List.dropLast_concat]
      exact keeping.isDirectory
    have isFile : tree.isDirectory (place ++ [saving.file]) = false := noDirectory
    simp only [Tree.write, keeping.locate_file plain.isStem isName, if_pos fits, isFile, isParent]
    rfl
  have keeps := Tree.keeps_put (.inr noDirectory)
  refine ⟨_, by rw [save_eq saving plain, isWritten], ?_⟩
  refine ⟨Tree.locate_mono keeps keeping.located, keeps place keeping.isDirectory, ?_⟩
  have isChild : (!(saving.entry place).place.isEmpty && (saving.entry place).place.dropLast == place)
      = true := by
    simp [Saving.entry]
  have isFound : isTranscript (saving.entry place) = true := by
    rw [isTranscript, Saving.entry, List.getLast?_concat, Option.any_some]
    exact isFoundBy_all isName _
  rw [Tree.put_of_entry?_eq_none noEntry, Tree.childrenOf, List.filter_append, List.filter_append,
    ← Tree.childrenOf, keeping.transcripts, List.filter_singleton, isChild, cond_true,
    List.filter_singleton, isFound, cond_true, List.map_append, List.map_singleton]

/-- A transcript whose name is too long is refused. -/
theorem Keeping.save_of_long (keeping : Keeping here stem place kept tree)
    (plain : archive.IsPlain stem) (isName : IsName saving.name.toList)
    (tooLong : ¬ saving.fits = true) :
    ∃ refusal storage, archive.save ⟨tree, here, saving.clock⟩ saving.name saving.session saving.report
        = (.error refusal, storage) ∧ storage.tree = tree := by
  have isRefused : tree.write here (.ofRawText (stem ++ "/" ++ saving.file)) saving.bytes
      saving.clock.modified = .error .nameTooLong := by
    simp only [Tree.write, keeping.locate_file plain.isStem isName, if_neg tooLong]
  refine ⟨_, _, by rw [save_eq saving plain, isRefused], rfl⟩

/-- **Transcripts that were saved one after the other are kept in this order.** -/
theorem Keeping.saveEach (keeping : Keeping here stem place kept tree) (plain : archive.IsPlain stem)
    {savings : List Saving} (areNames : ∀ saving ∈ savings, IsName saving.name.toList)
    (areNew : ((kept ++ savings).map Saving.file).Nodup) :
    (archive.saveEach here tree savings).1
        = (savings.filter Saving.fits).map (fun saving => (saving, stem ++ "/" ++ saving.file)) ∧
      Keeping here stem place (kept ++ savings.filter Saving.fits)
        (archive.saveEach here tree savings).2 := by
  induction savings generalizing tree kept with
  | nil =>
    rw [List.filter_nil, List.append_nil]
    exact ⟨rfl, keeping⟩
  | cons saving rest ih =>
    have isName := areNames saving List.mem_cons_self
    have restNames : ∀ other ∈ rest, IsName other.name.toList := (List.forall_mem_cons.mp areNames).2
    have isNew : ∀ other ∈ kept, other.file ≠ saving.file := by
      intro other member
      rw [List.map_append, List.nodup_append] at areNew
      exact areNew.2.2 _ (List.mem_map_of_mem member) _ (List.mem_map_of_mem List.mem_cons_self)
    by_cases fits : saving.fits = true
    · obtain ⟨storage, isSaved, after⟩ := keeping.save_of_fits plain isName isNew fits
      have later := ih after restNames (by rwa [List.append_assoc, List.singleton_append])
      rw [Archive.saveEach, List.filter_cons_of_pos fits]
      simp only [isSaved]
      rw [List.append_assoc, List.singleton_append] at later
      exact ⟨congrArg _ later.1, later.2⟩
    · obtain ⟨refusal, storage, isRefused, sameTree⟩ := keeping.save_of_long plain isName fits
      have stillNew : ((kept ++ rest).map Saving.file).Nodup := by
        refine areNew.sublist (List.Sublist.map _ ?_)
        exact List.Sublist.append_left (List.sublist_cons_self _ _) _
      have later := ih keeping restNames stillNew
      rw [Archive.saveEach, List.filter_cons_of_neg fits]
      simp only [isRefused, sameTree]
      exact later

/-! ### The order in which transcripts are found -/

/-- What stands in ascending order is turned around when the greatest is to come first. -/
theorem mergeSort_of_ascending {α : Type} (key : α → Int) {items : List α}
    (ascending : items.Pairwise fun first second => key first < key second) :
    (items.mergeSort fun first second => decide (key second ≤ key first)) = items.reverse := by
  have descending : items.reverse.Pairwise fun first second =>
      decide (key second ≤ key first) = true := by
    rw [List.pairwise_reverse]
    exact ascending.imp fun before => decide_eq_true (Int.le_of_lt before)
  have apart : (items.map key).Nodup := List.pairwise_map.mpr (ascending.imp Int.ne_of_lt)
  refine List.Perm.eq_of_pairwise ?_ (List.pairwise_mergeSort ?_ ?_ items) descending
    ((List.mergeSort_perm items _).trans (List.reverse_perm items).symm)
  · intro first second isFirst isSecond forth back
    refine List.inj_on_of_nodup_map apart ((List.mergeSort_perm items _).mem_iff.mp isFirst)
      (List.mem_reverse.mp isSecond) ?_
    exact Int.le_antisymm (of_decide_eq_true back) (of_decide_eq_true forth)
  · intro first second third firstBelow secondBelow
    exact decide_eq_true (Int.le_trans (of_decide_eq_true secondBelow) (of_decide_eq_true firstBelow))
  · intro first second
    rw [Bool.or_eq_true, decide_eq_true_eq, decide_eq_true_eq]
    exact Int.le_total _ _

/-- When a kept transcript was saved. -/
theorem Keeping.modified_eq (keeping : Keeping here stem place kept tree) (isStem : IsStem stem)
    (distinct : (kept.map Saving.file).Nodup) (member : saving ∈ kept)
    (isName : IsName saving.name.toList) (fits : saving.fits = true) :
    modified tree here (stem ++ "/" ++ saving.file) = saving.clock.modified := by
  have isKept : (kept.find? fun other => other.file == saving.file) = some saving := by
    have isThere : (kept.find? fun other => other.file == saving.file).isSome = true :=
      List.find?_isSome.mpr ⟨saving, member, beq_self_eq_true saving.file⟩
    obtain ⟨other, found⟩ := Option.isSome_iff_exists.mp isThere
    have sameFile : other.file = saving.file := by simpa using List.find?_some found
    rw [found, List.inj_on_of_nodup_map distinct (List.mem_of_find?_eq_some found) member sameFile]
  simp only [modified, keeping.locate_file isStem isName, if_pos fits, keeping.entry?_file isName,
    isKept, Option.map_some, Option.elim_some, Saving.entry]

/-- **The latest transcript** is the last one that was kept of those that answer. -/
theorem Keeping.latest_eq (keeping : Keeping here stem place kept tree) (plain : archive.IsPlain stem)
    (areNames : ∀ saving ∈ kept, IsName saving.name.toList)
    (fit : ∀ saving ∈ kept, saving.fits = true) (distinct : (kept.map Saving.file).Nodup)
    (later : kept.Pairwise fun first second => first.clock.modified < second.clock.modified)
    {asked : String} (isAsked : IsName asked.toList) :
    archive.latest? tree here asked
      = ((kept.filter (Saving.answers asked)).getLast?).map fun saving =>
          stem ++ "/" ++ saving.file := by
  have oneStep : '/' ∉ (asked ++ "_").toList := by
    rw [String.toList_append, List.mem_append]
    rintro (inName | isLowLine)
    · exact ne_of_isExportChar (isAsked.2 _ inName) (by decide) rfl
    · exact absurd isLowLine (by decide)
  have answering : (kept.filter fun saving => isFoundBy (asked ++ "_" ++ "*.json") saving.file)
      = kept.filter (Saving.answers asked) := by
    refine List.filter_congr fun saving member => ?_
    rw [Bool.eq_iff_iff]
    exact Saving.isFoundBy_file_iff isAsked (areNames saving member)
  have paths : (kept.filter (Saving.answers asked)).map (fun saving => joinText stem saving.file)
      = (kept.filter (Saving.answers asked)).map (fun saving => stem ++ "/" ++ saving.file) := by
    refine List.map_congr_left fun saving member => ?_
    exact joinText_stem plain.isStem
      (slash_notMem_fileName _ (saving.notMem_stamp (by decide) (by decide)))
  have ascending : ((kept.filter (Saving.answers asked)).map fun saving =>
      stem ++ "/" ++ saving.file).Pairwise fun first second =>
        modified tree here first < modified tree here second := by
    rw [List.pairwise_map]
    refine (later.filter _).imp_of_mem fun {first second} isFirst isSecond before => ?_
    have firstKept := List.mem_of_mem_filter isFirst
    have secondKept := List.mem_of_mem_filter isSecond
    rw [keeping.modified_eq plain.isStem distinct firstKept (areNames first firstKept)
        (fit first firstKept),
      keeping.modified_eq plain.isStem distinct secondKept (areNames second secondKept)
        (fit second secondKept)]
    exact before
  rw [latest?, list, keeping.glob_eq plain oneStep fun file => isFoundBy_all_of_name isAsked, answering,
    paths, mergeSort_of_ascending _ ascending, List.head?_reverse, List.getLast?_map]

end Keeping

/-! ### The latest transcript of a name -/

/-- What is last among some is last among fewer, if it is one of them. -/
theorem getLast?_filter_of_imp {α : Type} {items : List α} {wide narrow : α → Bool} {last : α}
    (narrower : ∀ item, narrow item = true → wide item = true)
    (isLast : (items.filter wide).getLast? = some last) (isNarrow : narrow last = true) :
    (items.filter narrow).getLast? = some last := by
  obtain ⟨before, whole⟩ := List.getLast?_eq_some_iff.mp isLast
  have twice : items.filter narrow = (items.filter wide).filter narrow := by
    rw [List.filter_filter]
    refine List.filter_congr fun item _ => ?_
    rw [Bool.eq_iff_iff, Bool.and_eq_true]
    exact ⟨fun holds => ⟨holds, narrower item holds⟩, And.left⟩
  rw [twice, whole, List.filter_append, List.filter_singleton, isNarrow, cond_true,
    List.getLast?_concat]

/-- The last among some and the last among fewer have the same key exactly if they are the same. -/
theorem map_getLast?_filter_eq_iff {α β : Type} {items : List α} {wide narrow : α → Bool} {key : α → β}
    (narrower : ∀ item, narrow item = true → wide item = true)
    (distinct : ∀ first ∈ items, ∀ second ∈ items, key first = key second → first = second) :
    (items.filter wide).getLast?.map key = (items.filter narrow).getLast?.map key
      ↔ ∀ last ∈ (items.filter wide).getLast?, narrow last = true := by
  cases isWide : (items.filter wide).getLast? with
  | none =>
    have noneWide := List.filter_eq_nil_iff.mp (List.getLast?_eq_none_iff.mp isWide)
    have noneNarrow : items.filter narrow = [] :=
      List.filter_eq_nil_iff.mpr fun item member isNarrow =>
        noneWide item member (narrower item isNarrow)
    simp [noneNarrow]
  | some last =>
    constructor
    · intro sameKey other isLast
      obtain rfl := Option.some.inj isLast
      obtain ⟨own, isOwn, ownKey⟩ := Option.map_eq_some_iff.mp sameKey.symm
      obtain ⟨ownItem, isNarrow⟩ := List.mem_filter.mp (List.mem_of_getLast? isOwn)
      have lastItem := List.mem_of_mem_filter (List.mem_of_getLast? isWide)
      rw [← distinct own ownItem last lastItem ownKey]
      exact isNarrow
    · intro isNarrow
      rw [getLast?_filter_of_imp narrower isWide (isNarrow last rfl)]

/-- Transcripts with stamps of their own have files of their own. -/
theorem nodup_files {savings : List Saving}
    (areNames : ∀ saving ∈ savings, IsName saving.name.toList)
    (distinct : (savings.map Saving.stamp).Nodup) : (savings.map Saving.file).Nodup := by
  refine List.pairwise_map.mpr ((List.pairwise_map.mp distinct).imp_of_mem ?_)
  intro first second isFirst isSecond apart sameFile
  exact apart (stamp_eq_of_fileName_eq (first.notMem_stamp (by decide) (by decide))
    (areNames first isFirst) (areNames second isSecond) (second.notMem_stamp (by decide) (by decide))
    sameFile)

/-- **The latest transcript of a name is the last one that was saved for it or for a longer name.**
Transcripts of units are saved one after the other in a new archive, each with a stamp of its own and
later than those before. Each of them is saved, unless its name is too long for a file. What is found
for a name is the last one whose unit has this name, or a name that starts with it and a low line; so
it is the last one saved for the name itself exactly if no transcript of a longer name was saved
after that one. -/
theorem latest_is_last_saved_with_start {archive : Archive} {stem : String}
    (plain : archive.IsPlain stem) {before tree : Tree} {here : Place} {now : Int}
    (created : archive.create before here now = .ok tree) (empty : archive.list tree here "" = [])
    {savings : List Saving} (areNames : ∀ saving ∈ savings, IsName saving.name.toList)
    (distinct : (savings.map Saving.stamp).Nodup)
    (later : savings.Pairwise fun first second => first.clock.modified < second.clock.modified)
    {name : String} (isName : IsName name.toList) :
    let saved := (archive.saveEach here tree savings).1
    let after := (archive.saveEach here tree savings).2
    let found := (saved.filter fun save => save.1.answers name).getLast?
    let own := (saved.filter fun save => save.1.name == name).getLast?
    saved.map Prod.fst = savings.filter Saving.fits ∧
      archive.latest? after here name = found.map Prod.snd ∧
      (archive.latest? after here name = own.map Prod.snd ↔ ∀ save ∈ found, save.1.name = name) := by
  intro saved after found own
  obtain ⟨place, keeping⟩ := keeping_of_create plain created empty
  have apart : (savings.map Saving.file).Nodup := nodup_files areNames distinct
  obtain ⟨isSaved, kept⟩ := keeping.saveEach plain areNames (by rwa [List.nil_append])
  rw [List.nil_append] at kept
  have latest : archive.latest? after here name = found.map Prod.snd := by
    have answer := kept.latest_eq plain
      (fun saving member => areNames saving (List.mem_of_mem_filter member))
      (fun saving member => List.of_mem_filter member)
      (apart.sublist (List.filter_sublist.map _)) (later.filter _) isName
    rw [answer]
    simp only [found, saved, isSaved, List.filter_map, List.getLast?_map, Option.map_map]
    rfl
  have ownAnswers : ∀ save : Saving × String, (save.1.name == name) = true →
      save.1.answers name = true := by
    intro save sameName
    rw [Saving.answers, sameName, Bool.true_or]
  -- no two transcripts share a file, so a path belongs to one of them only
  have ownPath : ∀ first ∈ saved, ∀ second ∈ saved, first.2 = second.2 → first = second := by
    intro first isFirst second isSecond samePath
    simp only [saved, isSaved] at isFirst isSecond
    obtain ⟨saving, isSaving, rfl⟩ := List.mem_map.mp isFirst
    obtain ⟨other, isOther, rfl⟩ := List.mem_map.mp isSecond
    rw [String.append_right_inj] at samePath
    rw [List.inj_on_of_nodup_map apart (List.mem_of_mem_filter isSaving)
      (List.mem_of_mem_filter isOther) samePath]
  refine ⟨?_, latest, ?_⟩
  · simp only [saved, isSaved, List.map_map]
    exact List.map_id' _
  · rw [latest]
    simpa only [beq_iff_eq] using map_getLast?_filter_eq_iff ownAnswers ownPath

/-- A unit and one whose name goes on behind a low line, saved one second after the other. -/
def twoSavings : List Saving :=
  [⟨"a", {}, ⟨"a", .success, [], none, [], [], [], none, [], 0⟩, ⟨1704067200000000, 0⟩⟩,
   ⟨"a_b", {}, ⟨"a_b", .success, [], none, [], [], [], none, [], 0⟩,
    ⟨1704067201000000, 1000000000⟩⟩]

/-- The files of a new archive. -/
def newDirectory : Tree := ⟨[{ place := ["state"], content := none, modified := 0 }]⟩

/-- **The transcript of another unit is found**: the last one for the shorter name is that of the longer
one, though one was saved for the shorter name. -/
theorem twoSavings_find_longer_name :
    let saves := Archive.saveEach ⟨"state"⟩ [] newDirectory twoSavings
    Archive.latest? ⟨"state"⟩ saves.2 [] "a" = some "state/a_b_2024-01-01T00-00-01.json" ∧
      ((saves.1.filter fun save => save.1.name == "a").getLast?).map Prod.snd
        = some "state/a_2024-01-01T00-00-00.json" := by
  have plain : Archive.IsPlain ⟨"state"⟩ "state" :=
    ⟨⟨by decide, by decide⟩, .inl rfl, by decide⟩
  have created : Archive.create ⟨"state"⟩ {} [] 0 = .ok newDirectory := by rfl
  obtain ⟨-, latest, -⟩ := latest_is_last_saved_with_start plain created (by decide +kernel)
    (show ∀ saving ∈ twoSavings, IsName saving.name.toList by decide +kernel)
    (by decide +kernel) (by decide +kernel) (show IsName "a".toList by decide)
  exact ⟨latest.trans (by decide +kernel), by decide +kernel⟩

end PromptChain.Archive
