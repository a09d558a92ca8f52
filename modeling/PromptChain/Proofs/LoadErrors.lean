/-
**What sources at fault do to a load.**

Load errors are written down and not looked at: whatever is done to a program after some errors is done as
without them (`Program.after`, and `readSources_after`, `analyze_after` for the parts of a load). So a source
whose fault is recorded costs itself only, and a lenient load differs from one without it in one entry. A
regular expression beyond a limit is not recorded as a fault: it ends the load
(`rejected_text_costs_itself_iff_fault`).

A strict load stops at the first source that is malformed, before it looks at the errors that were recorded
until then. What it raises is the first malformed source, and only without one the first load error
(`strict_load_raises_first_malformed`).
-/

import PromptChain.Proofs.Bookkeeping
import PromptChain.Proofs.Load

namespace PromptChain

/-! ### Errors from before -/

namespace Program

/-- A program, after errors that were recorded earlier. -/
def after (earlier : List Fault) (program : Program) : Program :=
  { program with loadErrors := earlier ++ program.loadErrors }

/-- A program as it would be without its errors. -/
def clean (program : Program) : Program := { program with loadErrors := [] }

theorem after_clean (program : Program) : program.clean.after program.loadErrors = program := by
  rw [after, clean, List.append_nil]

theorem record_eq_after (program : Program) (fault : Fault) :
    { program with loadErrors := program.loadErrors ++ [fault] }
      = program.clean.after (program.loadErrors ++ [fault]) := by
  rw [after, clean, List.append_nil]

section After

variable (earlier : List Fault)

theorem addUnit_after (program : Program) (unit : PromptUnit) :
    (program.after earlier).addUnit unit = (program.addUnit unit).after earlier := by
  by_cases taken : program.isTaken unit = true
  · have takenAfter : (program.after earlier).isTaken unit = true := taken
    rw [addUnit_of_taken taken, addUnit_of_taken takenAfter]
    simp only [after, lookup, List.append_assoc]
  · have freeAfter : ¬ (program.after earlier).isTaken unit = true := taken
    rw [addUnit_of_free taken, addUnit_of_free freeAfter]
    rfl

theorem addUnits_after (program : Program) (units : List PromptUnit) :
    (program.after earlier).addUnits units = (program.addUnits units).after earlier := by
  unfold addUnits
  induction units generalizing program with
  | nil => rfl
  | cons unit units ih => rw [List.foldl_cons, List.foldl_cons, addUnit_after, ih]

/-- The same with the log of an analysis. -/
def loggedAfter (program : Logged Program) : Logged Program :=
  { program with value := program.value.after earlier }

theorem blockLogged_after (program : Logged Program) (unit : PromptUnit) (fault : Fault) :
    blockLogged (loggedAfter earlier program) unit fault
      = loggedAfter earlier (blockLogged program unit fault) := by
  simp only [blockLogged, loggedAfter, block, after, List.append_assoc]

theorem checkUnits_after (program : Logged Program) (units : List PromptUnit) :
    checkUnits (loggedAfter earlier program) units
      = (loggedAfter earlier (checkUnits program units).1, (checkUnits program units).2) := by
  induction units generalizing program with
  | nil => rfl
  | cons unit units ih =>
    rw [checkUnits, checkUnits]
    split
    · exact ih { program with value := program.value.setUnit _ }
    · rw [blockLogged_after, ih]
    · rfl

theorem blockAll_after (program : Logged Program) (bad : Assoc Fault) :
    blockAll (loggedAfter earlier program) bad = loggedAfter earlier (blockAll program bad) := by
  unfold blockAll
  induction bad generalizing program with
  | nil => rfl
  | cons entry bad ih =>
    rw [List.foldl_cons, List.foldl_cons, ← ih]
    congr 1
    dsimp only [loggedAfter, after, lookup]
    split
    · exact blockLogged_after earlier program _ _
    · rfl

theorem checkCalls_after (program : Logged Program) :
    checkCalls (loggedAfter earlier program) = loggedAfter earlier (checkCalls program) := by
  let graph := CallGraph.ofUnits program.value.loaded
  let linked : Logged Program := { program with value := { program.value with graph := some graph } }
  have blocked := blockAll_after earlier linked (linked.value.brokenReferences graph)
  exact congrArg (fun result : Logged Program =>
    (⟨result.value, result.log ++ graph.cycles.map fun cycle =>
      ⟨.warning, "[load] possible call cycle: " ++ CallGraph.cycleText cycle⟩⟩ : Logged Program)) blocked

/-- **A lenient analysis** does not look at earlier errors. -/
theorem analyze_after (program : Program) :
    (program.after earlier).analyze false
      = (loggedAfter earlier (program.analyze false).1, (program.analyze false).2) := by
  have checked := checkUnits_after earlier ⟨program, []⟩ program.loaded
  unfold analyze
  rw [show (program.after earlier).loaded = program.loaded from rfl,
    show (⟨program.after earlier, []⟩ : Logged Program) = loggedAfter earlier ⟨program, []⟩ from rfl, checked]
  rcases checkUnits ⟨program, []⟩ program.loaded with ⟨result, readable⟩
  cases readable with
  | false => rfl
  | true => exact congrArg (·, none) (checkCalls_after earlier result)

end After

end Program

section Reading

variable {tree : Files.Tree} {here : Files.Place}

/-- Reading sources does not look at earlier errors, nor at the log. -/
theorem readSources_after (earlier : List Fault) (strict : Bool) (program : Program)
    (log other : List LogLine) (sources : List SourceInput) :
    (readSources tree here strict ⟨program.after earlier, log⟩ sources).2
      = (readSources tree here strict ⟨program, other⟩ sources).2.map (Program.after earlier) := by
  induction sources generalizing program log other with
  | nil => rfl
  | cons source sources ih =>
    rw [readSources, readSources]
    split
    · rename_i units _
      have added : addSource (program.after earlier) source units
          = (addSource program source units).after earlier :=
        Program.addUnits_after earlier { program with sources := program.sources ++ [source.label] } units
      dsimp only
      rw [added]
      exact ih _ _ _
    · split
      · rfl
      · rename_i fault _ _
        have recorded : { program.after earlier with
            loadErrors := (program.after earlier).loadErrors ++ [fault] }
            = { program with loadErrors := program.loadErrors ++ [fault] }.after earlier := by
          simp only [Program.after, List.append_assoc]
        dsimp only
        rw [recorded]
        exact ih _ _ _
    · rfl

/-- Sources are read one after the other. -/
theorem readSources_append (strict : Bool) (program : Logged Program) (early late : List SourceInput) :
    readSources tree here strict program (early ++ late)
      = match readSources tree here strict program early with
        | (log, .ok next) => readSources tree here strict ⟨next, log⟩ late
        | (log, .error error) => (log, .error error) := by
  induction early generalizing program with
  | nil => rfl
  | cons source early ih =>
    rw [List.cons_append, readSources, readSources]
    split
    · exact ih _
    · split
      · rfl
      · exact ih _
    · rename_i error _ _
      cases error <;> rfl

/-- **A lenient load** reads its sources and analyses what they give. -/
theorem load_lenient (sources : List SourceInput) :
    (load tree here false sources).2 = (readSources tree here false ⟨{}, []⟩ sources).2.map
      fun program => (program.analyze false).1.value := by
  unfold load
  rcases read : readSources tree here false ⟨{}, []⟩ sources with ⟨log, result⟩
  cases result with
  | error problem => rfl
  | ok program =>
    obtain ⟨result, analyzed, _⟩ := (filled_of_readSources .empty read).mem_loadedUnits
    dsimp only [Except.map]
    rw [analyzed]

/-! ### A source that cannot be parsed -/

/-- **A text that cannot be parsed costs only itself if it is at fault, and else the load.** Where a load of
the other sources returns a program, a load with the text among them returns one exactly when the problem is a
fault; it then has the same units, blocked units, sources and call graph, and one more load error, the fault
of the text. A regular expression beyond a limit ends the load. -/
theorem rejected_text_costs_itself_iff_fault (early late : List SourceInput) (text : String)
    (problem : Source.ReadError) (rejected : Source.parseUnits none text = .error problem)
    {log : List LogLine} {program : Program}
    (loaded : load tree here false (early ++ late) = (log, .ok program)) :
    ((∃ result, (load tree here false (early ++ .text text :: late)).2 = .ok result) ↔
      ∃ fault, problem = .fault fault) ∧
    (∀ fault, problem = .fault fault → ∃ result before behind,
      (load tree here false (early ++ .text text :: late)).2 = .ok result ∧
      result.units = program.units ∧ result.blocked = program.blocked ∧
      result.sources = program.sources ∧ result.graph = program.graph ∧
      program.loadErrors = before ++ behind ∧ result.loadErrors = before ++ fault :: behind) ∧
    ∀ delimiter failure, problem = .beyondLimit delimiter failure →
      (load tree here false (early ++ .text text :: late)).2 = .error (.beyondLimit delimiter failure) := by
  have lenient := @load_lenient tree here
  have loadedToo := (lenient (early ++ late)).symm.trans (congrArg Prod.snd loaded)
  rw [lenient, readSources_append] at *
  rcases read : readSources tree here false ⟨{}, []⟩ early with ⟨earlyLog, result⟩
  rw [read] at loadedToo
  cases result with
  | error wrong => cases loadedToo
  | ok middle =>
    dsimp only at loadedToo ⊢
    rw [readSources, SourceInput.units, unitsOfContent, rejected]
    cases problem with
    | beyondLimit delimiter failure =>
      refine ⟨?_, by simp, ?_⟩
      · constructor
        · rintro ⟨_, wrong⟩
          cases wrong
        · rintro ⟨_, wrong⟩
          cases wrong
      · rintro _ _ same
        cases same
        rfl
    | fault fault =>
      -- Both loads go on as one without the errors so far.
      dsimp only
      rw [if_neg Bool.false_ne_true, Program.record_eq_after,
        readSources_after (middle.loadErrors ++ [fault]) false middle.clean _ earlyLog late]
      rw [← middle.after_clean, readSources_after middle.loadErrors false middle.clean _ earlyLog late]
        at loadedToo
      cases rest : (readSources tree here false ⟨middle.clean, earlyLog⟩ late).2 with
      | error wrong =>
        rw [rest] at loadedToo
        cases loadedToo
      | ok last =>
        rw [rest] at loadedToo
        have isProgram := Except.ok.inj loadedToo
        dsimp only [Except.map] at isProgram ⊢
        rw [Program.analyze_after] at isProgram ⊢
        refine ⟨⟨fun _ => ⟨fault, rfl⟩, fun _ => ⟨_, rfl⟩⟩, ?_, by simp⟩
        rintro _ same
        cases same
        refine ⟨_, middle.loadErrors, (last.analyze false).1.value.loadErrors, rfl, ?_⟩
        rw [← isProgram]
        exact ⟨rfl, rfl, rfl, rfl, rfl, List.append_assoc ..⟩

end Reading

/-- A text with a regular expression that cannot be read. -/
def brokenText : String := "Torn\ndirection:t\n\x7bmatch $AI\x7b/(/=>`true`\x7d\x7d\n"

/-- A text with a regular expression that repeats beyond the limit. -/
def boundlessText : String := "Vast\ndirection:v\n\x7bmatch $AI\x7b/x\x7b4294967295\x7d/=>`true`\x7d\x7d\n"

/-- Whether a text is rejected, and then whether it is at fault. -/
def isAtFault? (text : String) : Option Bool :=
  match Source.parseUnits none text with
  | .ok _ => none
  | .error (.fault _) => some true
  | .error (.beyondLimit _ _) => some false

/-- The text that is at fault adds its fault and nothing else; the other one ends the load. -/
theorem brokenText_costs_itself :
    ∃ fault delimiter failure log program result before behind,
      Source.parseUnits none brokenText = .error (.fault fault) ∧
      Source.parseUnits none boundlessText = .error (.beyondLimit delimiter failure) ∧
      load {} [] false ([] ++ [.text Program.mixedSource]) = (log, .ok program) ∧
      program.names = ["Ping", "pong"] ∧
      (load {} [] false ([] ++ [.text brokenText, .text Program.mixedSource])).2 = .ok result ∧
      result.units = program.units ∧ result.blocked = program.blocked ∧
      program.loadErrors = before ++ behind ∧ result.loadErrors = before ++ fault :: behind ∧
      (load {} [] false ([] ++ [.text boundlessText, .text Program.mixedSource])).2
        = .error (.beyondLimit delimiter failure) := by
  have kinds : isAtFault? brokenText = some true ∧ isAtFault? boundlessText = some false := by
    decide +kernel
  have evaluated : (load {} [] false ([] ++ [.text Program.mixedSource])).2.toOption.map Program.names
      = some ["Ping", "pong"] := by
    decide +kernel
  obtain ⟨log, program, loaded, names⟩ := exists_of_load_map evaluated
  obtain ⟨broken, boundless⟩ := kinds
  unfold isAtFault? at broken boundless
  split at broken <;> cases broken
  split at boundless <;> cases boundless
  rename_i fault rejected _ delimiter failure exceeded
  obtain ⟨_, costsItself, _⟩ := rejected_text_costs_itself_iff_fault [] _ _ _ rejected loaded
  obtain ⟨_, _, endsLoad⟩ := rejected_text_costs_itself_iff_fault [] _ _ _ exceeded loaded
  obtain ⟨result, before, behind, returns, units, blocked, _, _, errors, oneMore⟩ := costsItself fault rfl
  exact ⟨fault, delimiter, failure, log, program, result, before, behind, rejected, exceeded, loaded, names,
    returns, units, blocked, errors, oneMore, endsLoad delimiter failure rfl⟩

/-! ### Faults of sources -/

/-- Whether a source cannot be read. -/
def Fault.isMalformed : Fault → Bool
  | .source .malformed _ _ => true
  | _ => false

theorem Fault.FromAnalysis.isMalformed {fault : Fault} (found : fault.FromAnalysis) :
    fault.isMalformed = false := by
  cases fault with
  | source kind problem location =>
    cases kind with
    | malformed => cases found
    | duplicateUnit => rfl
    | unresolvedReference => rfl
  | _ => rfl

theorem Fault.isMalformed_of_isDuplicate {fault : Fault} (isDuplicate : fault.isDuplicate = true) :
    fault.isMalformed = false := by
  cases fault with
  | source kind problem location =>
    cases kind with
    | duplicateUnit => rfl
    | malformed => cases isDuplicate
    | unresolvedReference => rfl
  | _ => rfl

namespace Source

/-- A problem whose fault, if it has one, is that the source is malformed. -/
def ReadError.IsMalformed : ReadError → Prop
  | .fault found => found.isMalformed = true
  | .beyondLimit _ _ => True

variable {origin : Option String} {error : ReadError}

theorem isMalformed_of_buildPattern {token : Token} (failed : buildPattern origin token = .error error) :
    error.IsMalformed := by
  have regex : ∀ source flags delimiter,
      buildRegex origin token.place source flags delimiter = .error error → error.IsMalformed := by
    intro source flags delimiter failed
    unfold buildRegex at failed
    split at failed <;> cases failed
    · rfl
    · trivial
  unfold buildPattern at failed
  split at failed
  · exact regex _ _ _ failed
  · exact regex _ _ _ failed
  · cases failed

theorem isMalformed_of_buildArms {arms : List RawArm} (failed : buildArms origin arms = .error error) :
    error.IsMalformed := by
  induction arms with
  | nil => cases failed
  | cons arm arms ih =>
    rw [buildArms] at failed
    split at failed
    · rename_i first
      cases failed
      exact isMalformed_of_buildPattern first
    · split at failed
      · rename_i rest
        cases failed
        exact ih rest
      · cases failed

theorem isMalformed_of_buildEntries {unit : String} {before : List MetaEntry} {tokens : List Token}
    (failed : buildEntries origin unit before tokens = .error error) : error.IsMalformed := by
  induction tokens generalizing before with
  | nil => cases failed
  | cons token tokens ih =>
    rw [buildEntries] at failed
    dsimp only at failed
    split at failed
    · cases failed
      rfl
    · split at failed
      · cases failed
        rfl
      · split at failed
        · cases failed
          rfl
        · exact ih failed

theorem isMalformed_of_buildUnits {units : List RawUnit} (failed : buildUnits origin units = .error error) :
    error.IsMalformed := by
  induction units with
  | nil => cases failed
  | cons unit units ih =>
    rw [buildUnits, buildUnit] at failed
    split at failed
    · rename_i first
      cases failed
      split at first
      · rename_i arms
        cases first
        exact isMalformed_of_buildArms arms
      · dsimp only at first
        split at first
        · rename_i entries
          cases first
          exact isMalformed_of_buildEntries entries
        · cases first
    · split at failed
      · rename_i rest
        cases failed
        exact ih rest
      · cases failed

/-- **A source that is at fault is malformed.** -/
theorem isMalformed_of_parseUnits {text : String} (failed : parseUnits origin text = .error error) :
    error.IsMalformed := by
  unfold parseUnits at failed
  dsimp only at failed
  split at failed
  · cases failed
    rfl
  · exact isMalformed_of_buildUnits failed

end Source

namespace SourceInput

variable (tree : Files.Tree) (here : Files.Place)

/-- A source that can be parsed, or is rejected with a fault. -/
def Settles (source : SourceInput) : Prop :=
  (∃ units, source.units tree here = .ok units) ∨ ∃ fault, source.units tree here = .error (.fault fault)

/-- The fault for which a source is rejected. -/
def rejection? (source : SourceInput) : Option Fault :=
  match source.units tree here with
  | .error (.fault fault) => some fault
  | _ => none

variable {tree here}

theorem isMalformed_of_units {source : SourceInput} {fault : Fault}
    (rejected : source.units tree here = .error (.fault fault)) : fault.isMalformed = true := by
  have content : ∀ origin text, unitsOfContent origin text = .error (.fault fault) →
      fault.isMalformed = true := by
    intro origin text failed
    unfold unitsOfContent at failed
    split at failed <;> cases failed
    rename_i parsed
    exact Source.isMalformed_of_parseUnits parsed
  cases source with
  | text text => exact content _ _ rejected
  | file path =>
    rw [units] at rejected
    split at rejected
    · rename_i unread
      cases rejected
      unfold readText at unread
      split at unread
      · cases unread
      · split at unread <;> cases unread
    · exact content _ _ rejected

end SourceInput

/-! ### Strict loads -/

section Strict

variable {tree : Files.Tree} {here : Files.Place} {sources : List SourceInput}

/-- **Sources that settle are all read by a lenient load.** The first malformed entry is the first rejection,
and all entries are malformed sources and duplicates. -/
theorem exists_readSources_lenient (settle : ∀ source ∈ sources, source.Settles tree here)
    (program : Logged Program) :
    ∃ log result, readSources tree here false program sources = (log, .ok result) ∧
      result.loadErrors.find? Fault.isMalformed = (program.value.loadErrors.find? Fault.isMalformed).or
        (sources.findSome? (SourceInput.rejection? tree here)) ∧
      ∀ fault ∈ result.loadErrors, fault ∈ program.value.loadErrors ∨ fault.isMalformed = true ∨
        fault.isDuplicate = true := by
  induction sources generalizing program with
  | nil =>
    refine ⟨program.log, program.value, rfl, ?_, fun _ => Or.inl⟩
    rw [List.findSome?_nil, Option.or_none]
  | cons source sources ih =>
    rw [List.forall_mem_cons] at settle
    rw [readSources, List.findSome?_cons, SourceInput.rejection?]
    rcases settle.1 with ⟨units, parsed⟩ | ⟨fault, rejected⟩
    · rw [parsed]
      obtain ⟨added, appended, kinds⟩ := (Program.changes_addUnits (fun _ => False)
        { program.value with sources := program.value.sources ++ [source.label] } units).exists_added
      have duplicates : ∀ fault ∈ added, fault.isDuplicate = true :=
        fun fault isAdded => (kinds fault isAdded).elim id False.elim
      have noneMalformed : added.find? Fault.isMalformed = none := by
        rw [List.find?_eq_none]
        intro fault isAdded
        rw [Fault.isMalformed_of_isDuplicate (duplicates fault isAdded)]
        exact Bool.false_ne_true
      obtain ⟨log, result, read, first, all⟩ := ih settle.2
        { program with value := addSource program.value source units }
      have errors : (addSource program.value source units).loadErrors
          = program.value.loadErrors ++ added := appended
      refine ⟨log, result, read, ?_, fun fault isFault => ?_⟩
      · rw [first, errors, List.find?_append, noneMalformed, Option.or_none]
      · rcases all fault isFault with before | kind
        · rw [errors, List.mem_append] at before
          exact before.imp_right fun isAdded => Or.inr (duplicates fault isAdded)
        · exact Or.inr kind
    · rw [rejected]
      have isMalformed := SourceInput.isMalformed_of_units rejected
      obtain ⟨log, result, read, first, all⟩ := ih settle.2
        ⟨{ program.value with loadErrors := program.value.loadErrors ++ [fault] },
          program.log ++ [⟨.error, "[load] " ++ fault.text⟩]⟩
      refine ⟨log, result, read, ?_, fun other isOther => ?_⟩
      · rw [first, List.find?_append, List.find?_singleton, if_pos isMalformed, Option.or_assoc,
          Option.some_or]
      · rcases all other isOther with before | kind
        · rw [List.mem_append, List.mem_singleton] at before
          rcases before with before | rfl
          · exact Or.inl before
          · exact Or.inr (Or.inl isMalformed)
        · exact Or.inr kind

/-- Without a rejection, strictness makes no difference to reading. -/
theorem readSources_strict (noRejection : sources.findSome? (SourceInput.rejection? tree here) = none)
    (program : Logged Program) :
    readSources tree here true program sources = readSources tree here false program sources := by
  induction sources generalizing program with
  | nil => rfl
  | cons source sources ih =>
    rw [List.findSome?_cons, SourceInput.rejection?] at noRejection
    rw [readSources, readSources]
    split
    · rename_i units parsed
      rw [parsed] at noRejection
      exact ih noRejection _
    · rename_i fault rejected
      rw [rejected] at noRejection
      cases noRejection
    · rfl

/-- The first rejection ends a strict load. -/
theorem readSources_rejected (settle : ∀ source ∈ sources, source.Settles tree here) {fault : Fault}
    (rejection : sources.findSome? (SourceInput.rejection? tree here) = some fault)
    (program : Logged Program) :
    (readSources tree here true program sources).2 = .error (.fault fault) := by
  induction sources generalizing program with
  | nil => cases rejection
  | cons source sources ih =>
    rw [List.forall_mem_cons] at settle
    rw [List.findSome?_cons, SourceInput.rejection?] at rejection
    rw [readSources]
    rcases settle.1 with ⟨units, parsed⟩ | ⟨other, rejected⟩
    · rw [parsed] at rejection ⊢
      exact ih settle.2 rejection _
    · rw [rejected] at rejection ⊢
      rw [← Option.some.inj rejection]
      rfl

/-- A strict analysis reaches the same program, and raises its first error. -/
theorem analyze_strict {program : Program} {result : Logged Program}
    (analyzed : program.analyze false = (result, none)) :
    program.analyze true = (result, result.value.loadErrors.head?.map .refused) := by
  unfold Program.analyze at analyzed ⊢
  rcases checkUnits : Program.checkUnits ⟨program, []⟩ program.loaded with ⟨checked, readable⟩
  rw [checkUnits] at analyzed
  cases readable with
  | false => cases analyzed
  | true =>
    obtain rfl : Program.checkCalls checked = result := congrArg Prod.fst analyzed
    dsimp only
    cases (Program.checkCalls checked).value.loadErrors <;> rfl

/-- Where malformed sources and duplicates come first and nothing behind them is malformed, the first
malformed source is the first error unless that is a duplicate. -/
theorem find?_isMalformed_eq_first_iff {first : Fault} {rest read behind : List Fault}
    (errors : first :: rest = read ++ behind)
    (kinds : ∀ fault ∈ read, fault.isMalformed = true ∨ fault.isDuplicate = true)
    (others : ∀ fault ∈ behind, fault.isMalformed = false) :
    ((first :: rest).find? Fault.isMalformed).getD first = first ↔
      ¬ (first.isDuplicate = true ∧ ∃ other ∈ rest, other.isMalformed = true) := by
  by_cases isMalformed : first.isMalformed = true
  · rw [List.find?_cons_of_pos isMalformed, Option.getD_some, eq_self, true_iff]
    rintro ⟨isDuplicate, _⟩
    rw [Fault.isMalformed_of_isDuplicate isDuplicate] at isMalformed
    cases isMalformed
  · rw [List.find?_cons_of_neg isMalformed]
    cases found : rest.find? Fault.isMalformed with
    | none =>
      rw [Option.getD_none, eq_self, true_iff]
      rintro ⟨_, other, isOther, otherMalformed⟩
      exact List.find?_eq_none.mp found other isOther otherMalformed
    | some other =>
      have otherMalformed := List.find?_some found
      have inRest := List.mem_of_find?_eq_some found
      have isDuplicate : first.isDuplicate = true := by
        cases read with
        | nil =>
          have inBehind : other ∈ behind := by
            rw [← List.nil_append behind, ← errors]
            exact List.mem_cons_of_mem _ inRest
          rw [others other inBehind] at otherMalformed
          cases otherMalformed
        | cons head read =>
          rw [← (List.cons.inj errors).1] at kinds
          exact (kinds first List.mem_cons_self).resolve_left isMalformed
      rw [Option.getD_some]
      refine ⟨fun same => absurd (same ▸ otherMalformed) isMalformed, fun apart => ?_⟩
      exact absurd ⟨isDuplicate, other, inRest, otherMalformed⟩ apart

/-- **Strict and lenient loads.** For sources of which each can be parsed or is rejected with a fault, a
lenient load returns a program. A strict load returns the same one if there are no load errors. Otherwise it
raises the first of them that is a malformed source, and the first of all if no source is malformed; so it
raises the first load error unless that is a duplicate and a later one a malformed source. -/
theorem strict_load_raises_first_malformed (tree : Files.Tree) (here : Files.Place)
    (sources : List SourceInput) (settle : ∀ source ∈ sources, source.Settles tree here) :
    ∃ log program, load tree here false sources = (log, .ok program) ∧
      (program.loadErrors = [] → load tree here true sources = (log, .ok program)) ∧
      ∀ first rest, program.loadErrors = first :: rest →
        ∃ strictLog raised, load tree here true sources = (strictLog, .error (.fault raised)) ∧
          raised = ((first :: rest).find? Fault.isMalformed).getD first ∧
          (raised = first ↔ ¬ (first.isDuplicate = true ∧ ∃ other ∈ rest, other.isMalformed = true)) := by
  obtain ⟨log, filled, read, firstMalformed, kinds⟩ := exists_readSources_lenient settle ⟨{}, []⟩
  have isFilled := filled_of_readSources .empty read
  obtain ⟨result, analyzed, _⟩ := isFilled.mem_loadedUnits
  have changes := Program.changes_analyze isFilled.tidy.distinct (fun _ _ => isFilled.tidy.own) false
  rw [analyzed] at changes
  obtain ⟨behind, errors, fromAnalysis⟩ := changes.exists_added
  have others : ∀ fault ∈ behind, fault.isMalformed = false := fun fault isBehind =>
    (fromAnalysis fault isBehind).elim Fault.isMalformed_of_isDuplicate Fault.FromAnalysis.isMalformed
  have rejection : result.value.loadErrors.find? Fault.isMalformed
      = sources.findSome? (SourceInput.rejection? tree here) := by
    have noneBehind : behind.find? Fault.isMalformed = none := by
      rw [List.find?_eq_none]
      intro fault isBehind
      rw [others fault isBehind]
      exact Bool.false_ne_true
    rw [errors, List.find?_append, noneBehind, Option.or_none, firstMalformed]
    rfl
  have lenient : load tree here false sources = (log ++ result.log, .ok result.value) := by
    unfold load
    rw [read]
    dsimp only
    rw [analyzed]
  -- Without a rejection both loads read the same and the analysis decides.
  have unrejected : sources.findSome? (SourceInput.rejection? tree here) = none →
      load tree here true sources = (log ++ result.log,
        (result.value.loadErrors.head?.elim (.ok result.value) fun fault => .error (.fault fault))) := by
    intro noRejection
    unfold load
    rw [readSources_strict noRejection, read]
    dsimp only
    rw [analyze_strict analyzed]
    cases result.value.loadErrors <;> rfl
  refine ⟨_, _, lenient, fun noErrors => ?_, fun first rest split => ?_⟩
  · rw [noErrors] at rejection unrejected
    exact unrejected rejection.symm
  · rw [split] at rejection unrejected
    have kindsRead := fun fault isRead => (kinds fault isRead).resolve_left List.not_mem_nil
    refine ⟨(load tree here true sources).1, _, Prod.ext rfl ?_, rfl,
      find?_isMalformed_eq_first_iff (split.symm.trans errors) kindsRead others⟩
    rw [rejection]
    cases found : sources.findSome? (SourceInput.rejection? tree here) with
    | none =>
      rw [unrejected found]
      rfl
    | some fault =>
      have ends := readSources_rejected settle found ⟨{}, []⟩
      unfold load
      rcases reading : readSources tree here true ⟨{}, []⟩ sources with ⟨strictLog, ended⟩
      rw [reading] at ends
      obtain rfl : ended = .error (.fault fault) := ends
      rfl

end Strict

/-- A source, the same one again, and one that is malformed. -/
def twiceSources : List SourceInput :=
  [.text Program.cycleSource, .text Program.cycleSource, .text brokenText]

/-- The duplicates are recorded first, but the malformed source is raised. -/
theorem twiceSources_raise_last :
    (∀ source ∈ twiceSources, source.Settles {} []) ∧
      ∃ log program first rest strictLog raised,
        load {} [] false twiceSources = (log, .ok program) ∧ program.loadErrors = first :: rest ∧
        first.isDuplicate = true ∧ load {} [] true twiceSources = (strictLog, .error (.fault raised)) ∧
        raised ≠ first := by
  have kinds : isAtFault? Program.cycleSource = none ∧ isAtFault? brokenText = some true := by
    decide +kernel
  have settles : ∀ text, isAtFault? text = none ∨ isAtFault? text = some true →
      (SourceInput.text text).Settles {} [] := by
    intro text either
    rw [isAtFault?] at either
    rw [SourceInput.Settles, SourceInput.units, unitsOfContent]
    cases read : Source.parseUnits none text with
    | ok units => exact Or.inl ⟨units, rfl⟩
    | error problem =>
      cases problem with
      | fault fault => exact Or.inr ⟨fault, rfl⟩
      | beyondLimit delimiter failure => simp [read] at either
  have settle : ∀ source ∈ twiceSources, source.Settles {} [] := by
    intro source isSource
    simp only [twiceSources, List.mem_cons, List.not_mem_nil, or_false] at isSource
    rcases isSource with rfl | rfl | rfl
    · exact settles _ (Or.inl kinds.1)
    · exact settles _ (Or.inl kinds.1)
    · exact settles _ (Or.inr kinds.2)
  have evaluated : (load {} [] false twiceSources).2.toOption.map (fun program =>
      program.loadErrors.map fun fault => (fault.isDuplicate, fault.isMalformed))
      = some [(true, false), (true, false), (false, true)] := by
    decide +kernel
  obtain ⟨log, program, loaded, errors⟩ := exists_of_load_map evaluated
  obtain ⟨first, rest, split, isFirst, others⟩ := List.map_eq_cons_iff.mp errors
  obtain ⟨_, _, lenient, _, raises⟩ := strict_load_raises_first_malformed {} [] twiceSources settle
  rw [loaded] at lenient
  cases lenient
  obtain ⟨strictLog, raised, strict, _, isFirstIff⟩ := raises first rest split
  have isDuplicate := congrArg Prod.fst isFirst
  refine ⟨settle, log, program, first, rest, strictLog, raised, loaded, split, isDuplicate, strict, ?_⟩
  intro same
  refine isFirstIff.mp same ⟨isDuplicate, ?_⟩
  obtain ⟨other, isOther, otherKind⟩ := List.mem_map.mp (others ▸ List.mem_cons_of_mem _ List.mem_cons_self)
  exact ⟨other, isOther, congrArg Prod.snd otherKind⟩

end PromptChain
