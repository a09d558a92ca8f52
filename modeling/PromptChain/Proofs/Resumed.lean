/-
**What was saved is resumed.**

The bytes of a text are decoded as this text (`Text.decode_encode`), character by character
(`Text.decodeStep_utf8EncodeChar`). A transcript is written to a file in the directory of its archive,
however the path of that directory ends and whatever the name of the unit is made of
(`IsAt.write_file`), and is read back from there (`IsAt.load_put`). So saving and loading loses nothing
(`saved_transcript_is_loaded`); but a duration that is no number can be saved, and then the transcript
cannot be loaded (`endless_transcript_is_lost`).
-/

import PromptChain.Proofs.Archive
import PromptChain.Proofs.Parsed
import PromptChain.Proofs.Records
import PromptChain.Session.Forks

namespace PromptChain

/-! ### Texts as bytes -/

namespace Text

theorem toNat_ofNat_byte {byte : Nat} (small : byte < 256) : (UInt8.ofNat byte).toNat = byte := by
  rw [UInt8.toNat_ofNat']
  omega

/-- A byte of the third place or the fourth is taken onto a value. -/
theorem takeContinuations_cons {low : Nat} (small : low < 64) (value taken count : Nat) (rest : Bytes) :
    takeContinuations value taken (count + 1) (UInt8.ofNat (low + 128) :: rest)
      = takeContinuations (value * 64 + low) (taken + 1) count rest := by
  have isOne : isContinuation (low + 128) = true := by
    simp only [isContinuation, Bool.and_eq_true, decide_eq_true_eq]
    omega
  have isLow : (low + 128) % 64 = low := by omega
  rw [takeContinuations, toNat_ofNat_byte (by omega), if_pos isOne, isLow]

/-- The first two bytes of a character, and what the others make of them. -/
theorem decodeStep_cons {first low code : Nat} {rest : Bytes} (count : Nat) (small : first < 256)
    (smallToo : low < 64) (leads : followers? first = some (count + 1))
    (follows : mayFollow first (low + 128) = true)
    (taken : takeContinuations (leadValue first (count + 1) * 64 + low) 2 count rest = .ok code) :
    decodeStep (UInt8.ofNat first) (UInt8.ofNat (low + 128) :: rest) = .ok (code, count + 2) := by
  rw [decodeStep, toNat_ofNat_byte small, leads]
  dsimp only
  have isLow : (low + 128) % 64 = low := by omega
  rw [toNat_ofNat_byte (by omega), if_pos follows, isLow, taken]

/-- **A written character is taken off.** -/
theorem decodeStep_utf8EncodeChar (c : Char) (rest : Bytes) :
    ∃ first more, String.utf8EncodeChar c ++ rest = first :: more ∧
      decodeStep first more = .ok (c.toNat, (String.utf8EncodeChar c).length) := by
  have valid : c.toNat < 0xd800 ∨ 0xdfff < c.toNat ∧ c.toNat < 0x110000 := c.valid
  have isCode : c.val.toNat = c.toNat := rfl
  unfold String.utf8EncodeChar
  simp only [isCode]
  generalize c.toNat = code at valid
  split
  case isTrue =>
    refine ⟨_, _, rfl, ?_⟩
    have leads : followers? code = some 0 := by rw [followers?, if_pos (by omega)]
    rw [decodeStep, toNat_ofNat_byte (by omega), leads]
    rfl
  case isFalse =>
    split
    case isTrue =>
      refine ⟨_, _, rfl, decodeStep_cons 0 (by omega) (by omega) ?_ ?_ ?_⟩
      · rw [followers?, if_neg (by omega), if_neg (by omega), if_pos (by omega)]
      · simp only [mayFollow, Bool.and_eq_true, decide_eq_true_eq]
        constructor <;> split_ifs <;> omega
      · rw [takeContinuations, leadValue]
        exact congrArg _ (by omega)
    case isFalse =>
      split
      case isTrue =>
        refine ⟨_, _, rfl, decodeStep_cons 1 (by omega) (by omega) ?_ ?_ ?_⟩
        · rw [followers?, if_neg (by omega), if_neg (by omega), if_neg (by omega), if_pos (by omega)]
        · simp only [mayFollow, Bool.and_eq_true, decide_eq_true_eq]
          constructor <;> split_ifs <;> omega
        · refine (takeContinuations_cons (by omega) _ _ 0 rest).trans ?_
          rw [takeContinuations, leadValue]
          exact congrArg _ (by omega)
      case isFalse =>
        refine ⟨_, _, rfl, decodeStep_cons 2 (by omega) (by omega) ?_ ?_ ?_⟩
        · rw [followers?, if_neg (by omega), if_neg (by omega), if_neg (by omega), if_neg (by omega),
            if_pos (by omega)]
        · simp only [mayFollow, Bool.and_eq_true, decide_eq_true_eq]
          constructor <;> split_ifs <;> omega
        · refine (takeContinuations_cons (by omega) _ _ 1 _).trans ?_
          refine (takeContinuations_cons (by omega) _ _ 0 rest).trans ?_
          rw [takeContinuations,
            show leadValue (code / 262144 % 8 + 240) 3 = (code / 262144 % 8 + 240) % 8 from rfl]
          exact congrArg _ (by omega)

/-- **A text is read back from its bytes.** -/
theorem decode_encode (text : String) : decode (encode text) = .ok text := by
  have ofChars (chars : List Char) (position fuel : Nat)
      (enough : (chars.flatMap String.utf8EncodeChar).length ≤ fuel) :
      decodeFrom position fuel (chars.flatMap String.utf8EncodeChar) = .ok chars := by
    induction chars generalizing position fuel with
    | nil => cases fuel <;> rfl
    | cons c chars ih =>
      obtain ⟨first, more, isCons, isStep⟩ :=
        decodeStep_utf8EncodeChar c (chars.flatMap String.utf8EncodeChar)
      have isDropped : (first :: more).drop (String.utf8EncodeChar c).length
          = chars.flatMap String.utf8EncodeChar := by
        rw [← isCons, List.drop_left]
      have someByte : 0 < (String.utf8EncodeChar c).length := by
        rw [String.length_utf8EncodeChar]
        exact c.utf8Size_pos
      have isText : (c :: chars).flatMap String.utf8EncodeChar = first :: more := by
        rw [List.flatMap_cons, isCons]
      rw [List.flatMap_cons, List.length_append] at enough
      obtain ⟨fuel, rfl⟩ := Nat.exists_eq_add_one.mpr (show 0 < fuel by omega)
      rw [isText, decodeFrom, isStep]
      simp only [isDropped]
      rw [ih _ _ (by omega), Char.ofNat_toNat]
  rw [decode, encode, ofChars _ _ _ (Nat.le_refl _)]
  exact congrArg _ String.ofList_toList

end Text

theorem universalNewlines_of_notMem {text : String} (noReturn : '\r' ∉ text.toList) :
    universalNewlines text = text := by
  have noneTurned : text.toList.map (fun c => if c = '\r' then '\n' else c) = text.toList := by
    refine (List.map_congr_left fun c member => ?_).trans (List.map_id' _)
    refine if_neg ?_
    rintro rfl
    exact noReturn member
  rw [universalNewlines, Source.normalizeNewlines_of_notMem noReturn, noneTurned, String.ofList_toList]

/-- A restored session has the turns and the variables it was restored from. -/
theorem Session.Forks.session_add (forks : Forks) (session : Session) (parent : Option Nat) :
    (forks.add session parent).session forks.members.length = session := by
  simp [Forks.session, Forks.add]

/-! ### The file of a transcript -/

namespace Archive

open Files

/-- The directory of an archive is there, at a place. -/
structure IsAt (archive : Archive) (tree : Tree) (here place : Place) : Prop where
  located : tree.locate here (.ofRawText archive.base) = .ok place
  isDirectory : tree.isDirectory place = true

namespace IsAt

variable {archive : Archive} {tree : Tree} {here place : Place}

theorem mono {after : Tree} (isAt : archive.IsAt tree here place) (keeps : Tree.Keeps tree after) :
    archive.IsAt after here place :=
  ⟨Tree.locate_mono keeps isAt.located, keeps place isAt.isDirectory⟩

variable {timestamp : String} (isAt : archive.IsAt tree here place) (name : String)
  (oneStep : '/' ∉ timestamp.toList)

include isAt oneStep

/-- The path of a file leads into the directory, if its name is short enough. -/
theorem locate_file :
    tree.locate here (.ofRawText (joinText archive.base (fileName name timestamp)))
      = if Tree.longestName < (fileName name timestamp).utf8ByteSize then .error .nameTooLong
        else .ok (place ++ [fileName name timestamp]) := by
  have lowLine : '_' ∈ (fileName name timestamp).toList := by
    simp [fileName, String.toList_append]
  refine Tree.locate_joinText isAt.located isAt.isDirectory (List.ne_nil_of_mem lowLine)
    (slash_notMem_fileName name oneStep) ?_ ?_
  · intro isPoint
    rw [isPoint] at lowLine
    exact absurd lowLine (by decide)
  · intro isParent
    rw [isParent] at lowLine
    exact absurd lowLine (by decide)

/-- **A file is written** unless its name is too long or that of a directory. -/
theorem write_file (bytes : Text.Bytes) (now : Int) :
    tree.write here (.ofRawText (joinText archive.base (fileName name timestamp))) bytes now
      = if Tree.longestName < (fileName name timestamp).utf8ByteSize then .error .nameTooLong
        else if tree.isDirectory (place ++ [fileName name timestamp]) then .error .isDirectory
        else .ok (tree.put
          { place := place ++ [fileName name timestamp], content := some bytes, modified := now }) := by
  rw [Tree.write, isAt.locate_file name oneStep]
  by_cases isLong : Tree.longestName < (fileName name timestamp).utf8ByteSize
  · rw [if_pos isLong, if_pos isLong]
  · have isParent : tree.isDirectory (place ++ [fileName name timestamp]).dropLast = true := by
      rw [List.dropLast_concat]
      exact isAt.isDirectory
    simp only [if_neg isLong, isParent, Bool.not_true, Bool.false_eq_true, if_false]

/-- **A transcript is loaded from its file** if the duration is a number; else it is refused. -/
theorem load_put {transcript : Transcript} {now : Int}
    (fits : (fileName name timestamp).utf8ByteSize ≤ Tree.longestName)
    (free : tree.isDirectory (place ++ [fileName name timestamp]) = false)
    (distinct : Assoc.Distinct transcript.session.bindings)
    (distinctToo : Assoc.Distinct transcript.report.bindings) :
    let entry : Entry :=
      { place := place ++ [fileName name timestamp], content := some (Text.encode transcript.text)
        modified := now }
    let path := joinText archive.base (fileName name timestamp)
    load (tree.put entry) here path
      = if transcript.report.isTimed then .ok transcript else .error (.invalid path) := by
  intro entry path
  have located : (tree.put entry).locate here (.ofRawText path) = .ok entry.place := by
    rw [(isAt.mono (Tree.keeps_put (.inr free))).locate_file name oneStep,
      if_neg (Nat.not_lt.mpr fits)]
  have content : (tree.put entry).content? entry.place = some (Text.encode transcript.text) := by
    rw [Tree.content?, Tree.entry?_put, if_pos rfl]
    rfl
  have isNamed : (tree.put entry).names here (.ofRawText path) = true := by
    simp only [Tree.names, located, Tree.has, Tree.isFile, content, Option.isSome_some, Bool.or_true]
  have isRead : (tree.put entry).read here (.ofRawText path) = .ok (Text.encode transcript.text) := by
    simp only [Tree.read, located, content]
  simp only [load, isNamed, isRead, Text.decode_encode,
    universalNewlines_of_notMem transcript.return_notMem_text,
    transcript.ofText?_text distinct distinctToo]
  cases transcript.report.isTimed <;> rfl

end IsAt

/-! ### Saving and loading -/

/-- What a save gives, by the stamp of the transcript. -/
theorem IsAt.save_eq {archive : Archive} {storage : Storage} {place : Place} {timestamp : String}
    (isAt : archive.IsAt storage.tree storage.here place)
    (isStamp : Time.stamp storage.clock.moment = timestamp) (name : String) (session : Session)
    (report : Report) :
    let file := fileName name timestamp
    let path := joinText archive.base file
    let bytes := Text.encode (Transcript.text ⟨name, timestamp, session, report⟩)
    archive.save storage name session report
      = if Tree.longestName < file.utf8ByteSize then
          (.error ⟨path, .nameTooLong⟩, { storage with clock := storage.clock.looked })
        else if storage.tree.isDirectory (place ++ [file]) then
          (.error ⟨path, .isDirectory⟩, { storage with clock := storage.clock.looked })
        else
          (.ok path,
            { storage with
              tree := storage.tree.put
                { place := place ++ [file], content := some bytes, modified := storage.clock.modified }
              clock := storage.clock.looked.written }) := by
  have oneStep : '/' ∉ timestamp.toList := by
    rw [← isStamp]
    exact notMem_stamp (by decide) (by decide)
  intro file path bytes
  unfold save
  simp only [isStamp]
  rw [isAt.write_file name oneStep]
  by_cases isLong : Tree.longestName < file.utf8ByteSize
  · rw [if_pos isLong, if_pos isLong]
  · rw [if_neg isLong, if_neg isLong]
    by_cases isTaken : storage.tree.isDirectory (place ++ [file]) = true
    · rw [if_pos isTaken, if_pos isTaken]
    · rw [if_neg isTaken, if_neg isTaken]
      rfl

/-- What was saved is loaded if the duration is a number; else it is refused. -/
theorem IsAt.load_saved {archive : Archive} {storage after : Storage} {place : Place}
    {timestamp name path : String} {session : Session} {report : Report}
    (isAt : archive.IsAt storage.tree storage.here place)
    (isStamp : Time.stamp storage.clock.moment = timestamp)
    (distinct : Assoc.Distinct session.bindings) (distinctToo : Assoc.Distinct report.bindings)
    (isSaved : archive.save storage name session report = (.ok path, after)) :
    load after.tree after.here path
      = if report.isTimed then .ok ⟨name, timestamp, session, report⟩ else .error (.invalid path) := by
  have oneStep : '/' ∉ timestamp.toList := by
    rw [← isStamp]
    exact notMem_stamp (by decide) (by decide)
  rw [isAt.save_eq isStamp] at isSaved
  split_ifs at isSaved with isLong isTaken
  · cases isSaved
  · cases isSaved
  · obtain ⟨isPath, rfl⟩ := Prod.mk.inj isSaved
    obtain rfl := Except.ok.inj isPath
    exact isAt.load_put name oneStep (Nat.le_of_not_lt isLong) (Bool.eq_false_iff.mpr isTaken)
      distinct distinctToo

/-- **Saving and resuming loses nothing.** A transcript is saved in the directory of an archive, unless
the name of its file is too long or that of a directory. What was saved is loaded with the same unit,
session and report if the duration of the report is a number, and a session restored from it has the
same turns and the same variables. A duration that is infinite or undefined is saved too, but then what
was saved is refused. -/
theorem saved_transcript_is_loaded {archive : Archive} {storage : Storage} {place : Place}
    (isAt : archive.IsAt storage.tree storage.here place) (name : String) {session : Session}
    {report : Report} (distinct : Assoc.Distinct session.bindings)
    (distinctToo : Assoc.Distinct report.bindings) :
    let file := fileName name (Time.stamp storage.clock.moment)
    let path := joinText archive.base file
    (archive.save storage name session report).1
        = (if Tree.longestName < file.utf8ByteSize then .error ⟨path, .nameTooLong⟩
          else if storage.tree.isDirectory (place ++ [file]) then .error ⟨path, .isDirectory⟩
          else .ok path) ∧
      ∀ path after, archive.save storage name session report = (.ok path, after) →
        (report.isTimed = true → ∃ loaded, load after.tree after.here path = .ok loaded ∧
          loaded.unit = name ∧ loaded.session = session ∧ loaded.report = report ∧
          ∀ forks : Session.Forks,
            (forks.add loaded.session none).session forks.members.length = session) ∧
        (report.isTimed = false → load after.tree after.here path = .error (.invalid path)) := by
  obtain ⟨timestamp, isStamp⟩ : ∃ timestamp, Time.stamp storage.clock.moment = timestamp := ⟨_, rfl⟩
  rw [isStamp]
  intro file path
  refine ⟨?_, fun path after isSaved => ?_⟩
  · rw [isAt.save_eq isStamp]
    split_ifs <;> rfl
  · have isLoaded := isAt.load_saved isStamp distinct distinctToo isSaved
    constructor
    · intro timed
      rw [if_pos timed] at isLoaded
      exact ⟨_, isLoaded, rfl, rfl, rfl, fun forks => forks.session_add session none⟩
    · intro untimed
      rwa [untimed] at isLoaded

/-- A new archive at the start of 2024. -/
def newStorage : Storage := ⟨newDirectory, [], ⟨1704067200000000, 0⟩⟩

/-- A session with marks and control characters in its texts. -/
def markedSession : Session :=
  ⟨[⟨"say \"é\"", "a\r\n\t\u0000", some "u"⟩], [("AI", "a\r\n\t\u0000"), ("USER", "\\")]⟩

/-- A report on it. -/
def markedReport (duration : Float) : Report :=
  ⟨"u", .success, ["u"], none, markedSession.bindings, [], [], none, [.terminal], duration⟩

theorem isAt_newStorage : Archive.IsAt ⟨"state"⟩ newStorage.tree newStorage.here ["state"] :=
  ⟨by decide +kernel, by decide +kernel⟩

theorem distinct_markedSession : Assoc.Distinct markedSession.bindings := by
  unfold Assoc.Distinct
  decide

theorem fileName_newStorage :
    fileName "u" (Time.stamp newStorage.clock.moment) = "u_2024-01-01T00-00-00.json" := by
  decide +kernel

theorem markedSession_is_loaded :
    ∃ after, Archive.save ⟨"state"⟩ newStorage "u" markedSession (markedReport 1)
        = (.ok "state/u_2024-01-01T00-00-00.json", after) ∧
      ∃ loaded, load after.tree after.here "state/u_2024-01-01T00-00-00.json" = .ok loaded ∧
        loaded.unit = "u" ∧ loaded.session = markedSession ∧ loaded.report = markedReport 1 := by
  have distinctToo : Assoc.Distinct (markedReport 1).bindings := distinct_markedSession
  obtain ⟨result, resumed⟩ :=
    saved_transcript_is_loaded isAt_newStorage "u" distinct_markedSession distinctToo
  rw [fileName_newStorage, if_neg (by decide), if_neg (by decide)] at result
  have isSaved := Prod.ext result rfl
  obtain ⟨loaded, isLoaded, isUnit, isSession, isReport, -⟩ :=
    (resumed _ _ isSaved).1 (by decide +kernel)
  exact ⟨_, isSaved, loaded, isLoaded, isUnit, isSession, isReport⟩

/-- The infinite duration. -/
def endless : Float := .ofBits 0x7ff0000000000000

/-- **An infinite duration is saved and cannot be loaded**: it is written as nothing. -/
theorem endless_transcript_is_lost :
    ∃ path after, Archive.save ⟨"state"⟩ newStorage "u" markedSession (markedReport endless)
        = (.ok path, after) ∧
      ∀ loaded, load after.tree after.here path ≠ .ok loaded := by
  have distinctToo : Assoc.Distinct (markedReport endless).bindings := distinct_markedSession
  have isSaved := isAt_newStorage.save_eq rfl "u" markedSession (markedReport endless)
  dsimp only at isSaved
  rw [fileName_newStorage, if_neg (by decide), if_neg (by decide)] at isSaved
  have isLoaded := isAt_newStorage.load_saved rfl distinct_markedSession distinctToo isSaved
  have untimed : (markedReport endless).isTimed = false := by decide +kernel
  rw [untimed] at isLoaded
  refine ⟨_, _, isSaved, fun loaded isOk => ?_⟩
  rw [isLoaded] at isOk
  cases isOk

end Archive

end PromptChain
