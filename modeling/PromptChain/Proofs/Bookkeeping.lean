/-
**The books of a program stay in order, whatever is done to it.**

Units are added to a program, units are blocked, and the program is analysed, in any order and as often as one
likes (`Operation`, `Leads`). All this comes down to five small changes (`Change`): `changes_perform` says so
once for every operation, and what is kept is shown for each change.

* `Books.change`: a unit stands under its own key and is the first that was offered for it; no key is both
  loaded and blocked; every unit that was offered is loaded, blocked or recorded as a duplicate.
* `Change.onward`: errors are only appended, and what is blocked stays blocked.

Main statement: `history_keeps_books`.
-/

import PromptChain.Proofs.Validation

namespace PromptChain

/-! ### Kinds of load errors -/

/-- Whether a unit was refused because its name is taken. -/
def Fault.isDuplicate : Fault → Bool
  | .source .duplicateUnit _ _ => true
  | _ => false

/-- The faults for which the analysis refuses units. -/
def Fault.FromAnalysis : Fault → Prop
  | .source .unresolvedReference _ _ | .invalidMetadata _ _ => True
  | _ => False

theorem Fault.FromAnalysis.isDuplicate {fault : Fault} (found : fault.FromAnalysis) :
    fault.isDuplicate = false := by
  cases fault with
  | source kind problem location =>
    cases kind with
    | duplicateUnit => cases found
    | malformed => rfl
    | unresolvedReference => rfl
  | _ => rfl

namespace Assoc

variable {α : Type} {map : Assoc α} {key : String}

theorem length_keys (map : Assoc α) : (keys map).length = map.length := List.length_map ..

/-- A new key goes to the end. -/
theorem set_of_isNew (isNew : get? map key = none) (value : α) :
    set map key value = map ++ [(key, value)] := by
  induction map with
  | nil => rfl
  | cons entry map ih =>
    rw [get?_cons] at isNew
    by_cases same : entry.1 = key
    · rw [if_pos same] at isNew
      cases isNew
    · rw [if_neg same] at isNew
      rw [set, if_neg same, ih isNew, List.cons_append]

/-- A key that is there keeps its place. -/
theorem length_set_of_there (there : (get? map key).isSome = true) (value : α) :
    (set map key value).length = map.length := by
  rw [← length_keys, keys_set, if_pos ((mem_keys_iff map key).mpr there), length_keys]

theorem length_erase (distinct : Distinct map) (there : (get? map key).isSome = true) :
    (erase map key).length + 1 = map.length := by
  have isKey := (mem_keys_iff map key).mpr there
  have erased : keys (erase map key) = (keys map).erase key := by
    rw [List.Nodup.erase_eq_filter distinct, keys, keys, erase, List.filter_map]
    rfl
  rw [← length_keys, erased, List.length_erase_of_mem isKey, ← length_keys map]
  have some := List.length_pos_of_mem isKey
  omega

/-- What holds of all values and of a new one holds of all when it is set. -/
theorem forall_set {holds : α → Prop} (all : ∀ entry ∈ map, holds entry.2) (key : String)
    {value : α} (isNew : holds value) : ∀ entry ∈ set map key value, holds entry.2 := by
  induction map with
  | nil =>
    intro entry isEntry
    rw [List.mem_singleton.mp isEntry]
    exact isNew
  | cons first map ih =>
    rw [List.forall_mem_cons] at all
    rw [set]
    split
    · exact List.forall_mem_cons.mpr ⟨isNew, all.2⟩
    · exact List.forall_mem_cons.mpr ⟨all.1, ih all.2⟩

end Assoc

namespace Program

/-! ### The small changes -/

/-- What can happen to a program in one step, with the units that are offered to it there. A unit is refused
for a fault of some kinds only. -/
inductive Change (may : Fault → Prop) (program : Program) : List PromptUnit → Program → Prop
  /-- A unit is added whose name is free. -/
  | added {unit : PromptUnit} (unloaded : Assoc.get? program.units unit.key = none)
    (unblocked : Assoc.get? program.blocked unit.key = none) :
    Change may program [unit] (program.setUnit unit)
  /-- A unit is not added, since its name is taken. -/
  | doubled {unit : PromptUnit} (taken : (Assoc.get? program.units unit.key).isSome = true ∨
      (Assoc.get? program.blocked unit.key).isSome = true) (problem : String) (location : Location) :
    Change may program [unit]
      { program with loadErrors := program.loadErrors ++ [.source .duplicateUnit problem location] }
  /-- A unit gets its metadata. -/
  | checked {key : String} {unit : PromptUnit} (found : Assoc.get? program.units key = some unit)
    (metadata : Metadata) : Change may program [] (program.setUnit { unit with metadata := some metadata })
  /-- A unit is refused. -/
  | refused {key : String} {unit : PromptUnit} (found : Assoc.get? program.units key = some unit)
    {fault : Fault} (isAllowed : may fault) : Change may program [] (program.block unit fault)
  /-- The program gets its call graph. -/
  | linked (graph : CallGraph) : Change may program [] { program with graph := some graph }

/-- Changes one after the other, with all units that are offered in them. -/
inductive Changes (may : Fault → Prop) : Program → List PromptUnit → Program → Prop
  | refl {program : Program} : Changes may program [] program
  | step {program next last : Program} {offered more : List PromptUnit}
    (first : Change may program offered next) (rest : Changes may next more last) :
    Changes may program (offered ++ more) last

section Changes

variable {may : Fault → Prop} {program next last : Program} {offered more : List PromptUnit}
  {other : Fault → Prop}

theorem Change.changes (change : Change may program offered next) : Changes may program offered next := by
  have alone := Changes.step change .refl
  rwa [List.append_nil] at alone

theorem Changes.trans (early : Changes may program offered next) (late : Changes may next more last) :
    Changes may program (offered ++ more) last := by
  induction early with
  | refl => exact late
  | step first _ ih =>
    rw [List.append_assoc]
    exact .step first (ih late)

theorem Change.mono (weaker : ∀ fault, may fault → other fault)
    (change : Change may program offered next) : Change other program offered next := by
  cases change with
  | added unloaded unblocked => exact .added unloaded unblocked
  | doubled taken problem location => exact .doubled taken problem location
  | checked found metadata => exact .checked found metadata
  | refused found isAllowed => exact .refused found (weaker _ isAllowed)
  | linked graph => exact .linked graph

theorem Changes.mono (weaker : ∀ fault, may fault → other fault)
    (changes : Changes may program offered last) : Changes other program offered last := by
  induction changes with
  | refl => exact .refl
  | step first _ ih => exact .step (first.mono weaker) ih

/-- **Errors are appended**, and they are duplicates or faults for which units may be refused. -/
theorem Changes.exists_added (changes : Changes may program offered last) :
    ∃ added, last.loadErrors = program.loadErrors ++ added ∧
      ∀ fault ∈ added, fault.isDuplicate = true ∨ may fault := by
  induction changes with
  | refl => exact ⟨[], (List.append_nil _).symm, by simp⟩
  | step first _ ih =>
    obtain ⟨added, same, kinds⟩ := ih
    cases first with
    | added | checked | linked => exact ⟨added, same, kinds⟩
    | doubled taken problem location =>
      refine ⟨_ :: added, by rw [same, List.append_assoc]; rfl, ?_⟩
      exact List.forall_mem_cons.mpr ⟨Or.inl rfl, kinds⟩
    | refused found isAllowed =>
      refine ⟨_ :: added, by rw [same, block, List.append_assoc]; rfl, ?_⟩
      exact List.forall_mem_cons.mpr ⟨Or.inr isAllowed, kinds⟩

end Changes

/-! ### What adding and the analysis change -/

/-- Whether a name is taken, by a unit that is loaded or by one that is blocked. -/
def isTaken (program : Program) (unit : PromptUnit) : Bool :=
  (program.lookup unit.name).isSome || Assoc.has program.blocked unit.key

variable {program : Program} {unit : PromptUnit}

theorem addUnit_of_taken (taken : program.isTaken unit = true) :
    program.addUnit unit = { program with loadErrors := program.loadErrors ++
      [.source .duplicateUnit (duplicateMessage unit.name ((program.lookup unit.name).map PromptUnit.line))
        (locationOf unit)] } := if_pos taken

theorem addUnit_of_free (free : ¬ program.isTaken unit = true) :
    program.addUnit unit = program.setUnit unit := if_neg free

/-- Adding a unit is one change. -/
theorem change_addUnit (may : Fault → Prop) (program : Program) (unit : PromptUnit) :
    Change may program [unit] (program.addUnit unit) := by
  by_cases taken : program.isTaken unit = true
  · rw [addUnit_of_taken taken]
    rw [isTaken, Bool.or_eq_true, Assoc.has_eq_isSome] at taken
    exact .doubled taken _ _
  · rw [addUnit_of_free taken]
    rw [isTaken, Bool.or_eq_true, not_or, Assoc.has_eq_isSome, Option.not_isSome_iff_eq_none,
      Option.not_isSome_iff_eq_none] at taken
    exact .added taken.1 taken.2

theorem changes_addUnits (may : Fault → Prop) (program : Program) (units : List PromptUnit) :
    Changes may program units (program.addUnits units) := by
  unfold addUnits
  induction units generalizing program with
  | nil => exact .refl
  | cons unit units ih => exact .step (change_addUnit may program unit) (ih _)

theorem fromAnalysis_of_checkUnit {fault : Fault} (refused : checkUnit unit = .refused fault) :
    fault.FromAnalysis := by
  unfold checkUnit at refused
  split at refused
  · cases refused
  · cases refused
    trivial
  · split at refused
    · cases refused
      trivial
    · cases refused

/-- Checking units changes one after the other, as long as each is there when its turn comes. -/
theorem changes_checkUnits {units : List PromptUnit} (program : Logged Program)
    (there : ∀ unit ∈ units, Assoc.get? program.value.units unit.key = some unit)
    (apart : (units.map PromptUnit.key).Nodup) :
    Changes Fault.FromAnalysis program.value [] (checkUnits program units).1.value := by
  induction units generalizing program with
  | nil => exact .refl
  | cons unit units ih =>
    rw [List.forall_mem_cons] at there
    rw [List.map_cons, List.nodup_cons] at apart
    have others : ∀ other ∈ units, unit.key ≠ other.key :=
      fun other isOther same => apart.1 (same ▸ List.mem_map_of_mem isOther)
    rw [checkUnits]
    split
    · rename_i metadata _
      refine .step (.checked there.1 metadata) (ih { program with
        value := program.value.setUnit { unit with metadata := some metadata } }
        (fun other isOther => ?_) apart.2)
      rw [get?_setUnit]
      exact (if_neg (others other isOther)).trans (there.2 other isOther)
    · rename_i fault found
      refine .step (.refused there.1 (fromAnalysis_of_checkUnit found))
        (ih (blockLogged program unit fault) (fun other isOther => ?_) apart.2)
      rw [blockLogged, get?_block, if_neg (others other isOther)]
      exact there.2 other isOther
    · exact .refl

theorem fromAnalysis_missingTargets (program : Program) (graph : CallGraph) :
    ∀ entry ∈ program.missingTargets graph, entry.2.FromAnalysis := by
  unfold missingTargets
  refine List.foldlRecOn (motive := fun bad : Assoc Fault => ∀ entry ∈ bad, entry.2.FromAnalysis) _ _
    (by simp) fun bad all edge _ => ?_
  split
  · exact all
  · dsimp only
    split
    · exact all
    · exact Assoc.forall_set all _ trivial

/-- The faults of calls are faults of the analysis. -/
theorem fromAnalysis_brokenReferences (program : Program) (graph : CallGraph) :
    ∀ entry ∈ program.brokenReferences graph, entry.2.FromAnalysis := by
  unfold brokenReferences
  refine List.foldlRecOn (motive := fun bad : Assoc Fault => ∀ entry ∈ bad, entry.2.FromAnalysis) _ _
    (fromAnalysis_missingTargets program graph) fun bad all key _ => ?_
  unfold addDependents
  refine List.foldlRecOn (motive := fun bad : Assoc Fault => ∀ entry ∈ bad, entry.2.FromAnalysis) _ _
    all fun bad all caller _ => ?_
  split
  · split
    · exact all
    · exact Assoc.forall_set all _ trivial
  · exact all

theorem changes_blockAll {bad : Assoc Fault} (program : Logged Program)
    (kinds : ∀ entry ∈ bad, entry.2.FromAnalysis) :
    Changes Fault.FromAnalysis program.value [] (blockAll program bad).value := by
  unfold blockAll
  induction bad generalizing program with
  | nil => exact .refl
  | cons entry bad ih =>
    rw [List.forall_mem_cons] at kinds
    rw [List.foldl_cons]
    split
    · rename_i unit found
      exact .step (.refused found kinds.1) (ih (blockLogged program unit entry.2) kinds.2)
    · exact ih program kinds.2

/-- **The analysis** checks and refuses units, for faults of its own, and offers none. -/
theorem changes_analyze (distinct : Assoc.Distinct program.units)
    (own : ∀ key unit, Assoc.get? program.units key = some unit → unit.key = key) (strict : Bool) :
    Changes Fault.FromAnalysis program [] (program.analyze strict).1.value := by
  have keyOf : ∀ entry ∈ program.units, entry.2.key = entry.1 :=
    fun entry isEntry => own _ _ ((Assoc.mem_iff_get? distinct _ _).mp isEntry)
  have there : ∀ unit ∈ program.loaded, Assoc.get? program.units unit.key = some unit := by
    intro unit isLoaded
    obtain ⟨entry, isEntry, rfl⟩ := List.mem_map.mp isLoaded
    rw [keyOf entry isEntry]
    exact (Assoc.mem_iff_get? distinct _ _).mp isEntry
  have apart : (program.loaded.map PromptUnit.key).Nodup := by
    have keys : program.loaded.map PromptUnit.key = Assoc.keys program.units := by
      rw [loaded, List.map_map]
      exact List.map_congr_left keyOf
    rw [keys]
    exact distinct
  have unitsChecked := changes_checkUnits ⟨program, []⟩ there apart
  unfold analyze
  split
  · rename_i result checks
    rw [checks] at unitsChecked
    exact unitsChecked
  · rename_i result checks
    rw [checks] at unitsChecked
    have callsChecked : Changes Fault.FromAnalysis result.value [] (checkCalls result).value :=
      .step (.linked _) (changes_blockAll ⟨_, result.log⟩ (fromAnalysis_brokenReferences _ _))
    dsimp only
    split
    · exact unitsChecked.trans callsChecked
    · exact unitsChecked.trans callsChecked

/-! ### The books -/

/-- The first unit with a key among those that were offered. -/
def firstOffered (offered : List PromptUnit) (key : String) : Option PromptUnit :=
  offered.find? fun unit => unit.key == key

theorem firstOffered_append (offered : List PromptUnit) (unit : PromptUnit) (key : String) :
    firstOffered (offered ++ [unit]) key
      = (firstOffered offered key).or (if unit.key = key then some unit else none) := by
  unfold firstOffered
  rw [List.find?_append, List.find?_singleton]
  simp only [beq_iff_eq]

/-- What may stand under a key: the unit, the fault for which it was blocked, and the first unit that was
offered for it. -/
inductive Entry (key : String) : Option PromptUnit → Option Fault → Option PromptUnit → Prop
  | free : Entry key none none none
  | loaded {unit first : PromptUnit} (own : unit.key = key) (same : first.unchecked = unit.unchecked) :
    Entry key (some unit) none (some first)
  | blocked {fault : Fault} {first : PromptUnit} : Entry key none (some fault) (some first)

/-- What is in order about a program to which units have been offered. -/
structure Books (offered : List PromptUnit) (program : Program) : Prop where
  loadedOnce : Assoc.Distinct program.units
  blockedOnce : Assoc.Distinct program.blocked
  entry : ∀ key, Entry key (Assoc.get? program.units key) (Assoc.get? program.blocked key)
    (firstOffered offered key)
  count : offered.length
    = program.units.length + program.blocked.length + program.loadErrors.countP Fault.isDuplicate
  refusals : program.loadErrors.filter (fun fault => !fault.isDuplicate) = program.blocked.map Prod.snd

section Books

variable {program next last : Program} {offered more : List PromptUnit} {unit : PromptUnit} {key : String}

theorem books_empty : Books [] {} := ⟨.nil, .nil, fun _ => .free, rfl, rfl⟩

section

variable (books : Books offered program)

include books

/-- What is known of a key whose unit is loaded. -/
theorem Books.of_loaded (found : Assoc.get? program.units key = some unit) :
    unit.key = key ∧ Assoc.get? program.blocked key = none ∧
      (firstOffered offered key).map PromptUnit.unchecked = some unit.unchecked := by
  have entry := books.entry key
  rw [found] at entry
  generalize Assoc.get? program.blocked key = blocked at *
  generalize firstOffered offered key = first at *
  cases entry with
  | loaded own same => exact ⟨own, rfl, congrArg some same⟩

theorem Books.of_blocked (isBlocked : (Assoc.get? program.blocked key).isSome = true) :
    Assoc.get? program.units key = none := by
  cases found : Assoc.get? program.units key with
  | none => rfl
  | some unit =>
    rw [(books.of_loaded found).2.1] at isBlocked
    cases isBlocked

theorem Books.added (unloaded : Assoc.get? program.units unit.key = none)
    (unblocked : Assoc.get? program.blocked unit.key = none) :
    Books (offered ++ [unit]) (program.setUnit unit) := by
  refine ⟨books.loadedOnce.set _ _, books.blockedOnce, fun key => ?_, ?_, books.refusals⟩
  · have entry := books.entry key
    rw [get?_setUnit, firstOffered_append]
    split
    · rename_i same
      subst same
      rw [unloaded, unblocked] at entry
      generalize firstOffered offered unit.key = first at *
      cases entry with
      | free => exact unblocked ▸ .loaded rfl rfl
    · rw [Option.or_none]
      exact entry
  · rw [setUnit, Assoc.set_of_isNew unloaded, List.length_append, List.length_append, books.count]
    simp only [List.length_singleton]
    omega

theorem Books.doubled (taken : (Assoc.get? program.units unit.key).isSome = true ∨
      (Assoc.get? program.blocked unit.key).isSome = true) (problem : String) (location : Location) :
    Books (offered ++ [unit])
      { program with loadErrors := program.loadErrors ++ [.source .duplicateUnit problem location] } := by
  refine ⟨books.loadedOnce, books.blockedOnce, fun key => ?_, ?_, ?_⟩
  · have entry := books.entry key
    rw [firstOffered_append]
    split
    · rename_i same
      subst same
      generalize Assoc.get? program.units unit.key = loaded at *
      generalize Assoc.get? program.blocked unit.key = blocked at *
      generalize firstOffered offered unit.key = first at *
      cases entry with
      | free => simp at taken
      | loaded own same => exact .loaded own same
      | blocked => exact .blocked
    · rw [Option.or_none]
      exact entry
  · have recorded : [Fault.source .duplicateUnit problem location].countP Fault.isDuplicate = 1 := rfl
    rw [List.length_append, List.countP_append, recorded, books.count, List.length_singleton,
      ← Nat.add_assoc]
  · rw [List.filter_append, books.refusals]
    exact List.append_nil _

theorem Books.checked (found : Assoc.get? program.units key = some unit)
    (metadata : Metadata) : Books offered (program.setUnit { unit with metadata := some metadata }) := by
  obtain ⟨rfl, unblocked, _⟩ := books.of_loaded found
  refine ⟨books.loadedOnce.set _ _, books.blockedOnce, fun key => ?_, ?_, books.refusals⟩
  · have entry := books.entry key
    rw [get?_setUnit]
    split
    · rename_i same
      have isKey : unit.key = key := same
      rw [← isKey, found, unblocked] at entry
      rw [← isKey, setUnit, unblocked]
      generalize firstOffered offered unit.key = first at *
      cases entry with
      | loaded own same => exact .loaded own same
    · exact entry
  · have there : (Assoc.get? program.units unit.key).isSome = true := by rw [found]; rfl
    exact Assoc.length_set_of_there there { unit with metadata := some metadata } ▸ books.count

theorem Books.refused (found : Assoc.get? program.units key = some unit)
    {fault : Fault} (isOther : fault.isDuplicate = false) : Books offered (program.block unit fault) := by
  obtain ⟨rfl, unblocked, _⟩ := books.of_loaded found
  have there : (Assoc.get? program.units unit.key).isSome = true := by rw [found]; rfl
  refine ⟨books.loadedOnce.erase _, books.blockedOnce.set _ _, fun key => ?_, ?_, ?_⟩
  · have entry := books.entry key
    rw [get?_block, block, Assoc.get?_set]
    split
    · rename_i same
      rw [← same, found, unblocked] at entry
      rw [← same]
      generalize firstOffered offered unit.key = first at *
      cases entry with
      | loaded => exact .blocked
    · exact entry
  · have shorter := Assoc.length_erase books.loadedOnce there
    have counted := books.count
    have unrecorded : [fault].countP Fault.isDuplicate = 0 := by simp [isOther]
    rw [block, Assoc.set_of_isNew unblocked, List.length_append, List.countP_append, unrecorded,
      List.length_singleton]
    dsimp only
    omega
  · rw [block, Assoc.set_of_isNew unblocked, List.filter_append, books.refusals, List.map_append]
    simp [isOther]

/-- **Every change keeps the books.** -/
theorem Books.change (change : Change (fun fault => fault.isDuplicate = false) program more next) :
    Books (offered ++ more) next := by
  cases change with
  | added unloaded unblocked => exact books.added unloaded unblocked
  | doubled taken problem location => exact books.doubled taken problem location
  | checked found metadata => exact (List.append_nil offered).symm ▸ books.checked found metadata
  | refused found isOther => exact (List.append_nil offered).symm ▸ books.refused found isOther
  | linked graph =>
    rw [List.append_nil]
    exact ⟨books.loadedOnce, books.blockedOnce, books.entry, books.count, books.refusals⟩

end

/-! ### What stays as it is -/

/-- What is recorded of a program stays recorded. -/
structure Onward (program later : Program) : Prop where
  errors : program.loadErrors <+: later.loadErrors
  blocked : ∀ key fault, Assoc.get? program.blocked key = some fault →
    Assoc.get? later.blocked key = some fault

theorem Onward.refl (program : Program) : Onward program program := ⟨List.prefix_rfl, fun _ _ => id⟩

theorem Onward.trans (early : Onward program next) (late : Onward next last) : Onward program last where
  errors := early.errors.trans late.errors
  blocked key fault found := late.blocked key fault (early.blocked key fault found)

/-- A change records, and strikes out nothing. -/
theorem Change.onward {may : Fault → Prop} (change : Change may program more next)
    (books : Books offered program) : Onward program next := by
  cases change with
  | added | checked | linked => exact ⟨List.prefix_rfl, fun _ _ => id⟩
  | doubled => exact ⟨List.prefix_append _ _, fun _ _ => id⟩
  | @refused key unit found fault _ =>
    refine ⟨List.prefix_append _ _, fun other earlier isBlocked => ?_⟩
    obtain ⟨rfl, unblocked, _⟩ := books.of_loaded found
    rw [block, Assoc.get?_set, if_neg]
    · exact isBlocked
    · rintro rfl
      rw [unblocked] at isBlocked
      cases isBlocked

/-- **Changes keep the books, and what was recorded.** -/
theorem Changes.keep (changes : Changes (fun fault => fault.isDuplicate = false) program more last)
    (books : Books offered program) : Books (offered ++ more) last ∧ Onward program last := by
  induction changes generalizing offered with
  | refl => exact ⟨(List.append_nil offered).symm ▸ books, .refl _⟩
  | step first _ ih =>
    obtain ⟨booksLast, onward⟩ := ih (books.change first)
    exact ⟨List.append_assoc .. ▸ booksLast, (first.onward books).trans onward⟩

end Books

/-! ### Histories -/

/-- What is done to a program. -/
inductive Operation where
  | add (units : List PromptUnit)
  | block (unit : PromptUnit) (fault : Fault)
  | analyze (strict : Bool)

/-- A program after an operation; an analysis that fails leaves what it has reached. -/
def Operation.perform (program : Program) : Operation → Program
  | add units => program.addUnits units
  | block unit fault => program.block unit fault
  | analyze strict => (program.analyze strict).1.value

/-- Only a loaded unit is blocked, and not as a duplicate. -/
def Operation.Allowed (program : Program) : Operation → Prop
  | block unit fault => unit ∈ program.loaded ∧ fault.isDuplicate = false
  | add _ | analyze _ => True

/-- The units that an operation offers. -/
def Operation.offered : Operation → List PromptUnit
  | add units => units
  | block _ _ | analyze _ => []

/-- Operations lead from a program to another. -/
inductive Leads : Program → List Operation → Program → Prop
  | nil {program : Program} : Leads program [] program
  | cons {program last : Program} {operation : Operation} {operations : List Operation}
    (allowed : operation.Allowed program) (rest : Leads (operation.perform program) operations last) :
    Leads program (operation :: operations) last

/-- **Every operation is made of small changes.** -/
theorem changes_perform {offered : List PromptUnit} (books : Books offered program)
    {operation : Operation} (allowed : operation.Allowed program) :
    Changes (fun fault => fault.isDuplicate = false) program operation.offered
      (operation.perform program) := by
  cases operation with
  | add units => exact changes_addUnits _ program units
  | block unit fault =>
    obtain ⟨entry, isEntry, rfl⟩ := List.mem_map.mp allowed.1
    exact (Change.refused ((Assoc.mem_iff_get? books.loadedOnce _ _).mp isEntry) allowed.2).changes
  | analyze strict =>
    have changes := changes_analyze books.loadedOnce (fun _ _ found => (books.of_loaded found).1) strict
    exact changes.mono fun _ fault => fault.isDuplicate

/-- **A history keeps the books, and what was recorded.** -/
theorem Leads.keep {offered : List PromptUnit} {program last : Program} {operations : List Operation}
    (leads : Leads program operations last) (books : Books offered program) :
    Books (offered ++ operations.flatMap Operation.offered) last ∧ Onward program last := by
  induction leads generalizing offered with
  | nil => exact ⟨(List.append_nil offered).symm ▸ books, .refl _⟩
  | cons allowed _ ih =>
    obtain ⟨booksNext, onward⟩ := (changes_perform books allowed).keep books
    obtain ⟨booksLast, further⟩ := ih booksNext
    refine ⟨?_, onward.trans further⟩
    rw [List.flatMap_cons, ← List.append_assoc]
    exact booksLast

/-- **The books of a program over its whole history.** Whatever was done to a program, from the empty one on,
and whatever is done to it from there:

* a loaded unit stands under its own key, and is the first unit that was ever offered for it, up to the
  metadata that the analysis gives it;
* no key is both loaded and blocked, and a blocked key stays blocked and is never loaded again;
* load errors are only appended;
* the units that were offered are as many as the loaded ones, the blocked keys and the recorded duplicates
  together, and the other load errors are those of the blocked keys, one for each, in order. -/
theorem history_keeps_books (earlier later : List Operation) (program last : Program)
    (start : Leads {} earlier program) (onward : Leads program later last) :
    let offered := earlier.flatMap Operation.offered
    (∀ key unit, Assoc.get? program.units key = some unit → nameKey unit.name = key ∧
      (firstOffered offered key).map PromptUnit.unchecked = some unit.unchecked) ∧
    (∀ key, ¬ (Assoc.has program.units key = true ∧ Assoc.has program.blocked key = true)) ∧
    (∀ key, Assoc.has program.blocked key = true →
      Assoc.has last.blocked key = true ∧ Assoc.get? last.units key = none) ∧
    program.loadErrors <+: last.loadErrors ∧
    (Assoc.keys program.units).Nodup ∧ (Assoc.keys program.blocked).Nodup ∧
    offered.length = program.units.length + program.blocked.length
      + program.loadErrors.countP Fault.isDuplicate ∧
    program.loadErrors.filter (fun fault => !fault.isDuplicate) = program.blocked.map Prod.snd := by
  intro offered
  obtain ⟨books, _⟩ := start.keep books_empty
  obtain ⟨booksLast, kept⟩ := onward.keep books
  simp only [Assoc.has_eq_isSome]
  refine ⟨?_, ?_, ?_, kept.errors, books.loadedOnce, books.blockedOnce, books.count, books.refusals⟩
  · intro key unit found
    obtain ⟨own, _, isFirst⟩ := books.of_loaded found
    exact ⟨own, isFirst⟩
  · rintro key ⟨isLoaded, isBlocked⟩
    rw [books.of_blocked isBlocked] at isLoaded
    cases isLoaded
  · intro key isBlocked
    obtain ⟨fault, found⟩ := Option.isSome_iff_exists.mp isBlocked
    have stillBlocked : (Assoc.get? last.blocked key).isSome = true := by
      rw [kept.blocked key fault found]
      rfl
    exact ⟨stillBlocked, booksLast.of_blocked stillBlocked⟩

/-- A history of the units of a source: they are added, analysed, and added once more. -/
def mixedStart (units : List PromptUnit) : List Operation := [.add units, .analyze true, .add units]

/-- The program after it. -/
def mixedProgram (units : List PromptUnit) : Program :=
  (((addUnits {} units).analyze true).1.value).addUnits units

/-- Of eight units that were offered, two are loaded, two are blocked, and four are duplicates; when one of
the loaded units is blocked, an analysis blocks the other. -/
theorem mixedSource_keeps_books :
    ∃ units unit, Source.parseUnits none mixedSource = .ok units ∧
      Leads {} (mixedStart units) (mixedProgram units) ∧ unit ∈ (mixedProgram units).loaded ∧
      let last := (((mixedProgram units).block unit (.general "off")).analyze false).1.value
      Leads (mixedProgram units) [.block unit (.general "off"), .analyze false] last ∧
      (mixedProgram units).names = ["Ping", "pong"] ∧
      Assoc.keys (mixedProgram units).blocked = ["stray", "far"] ∧
      Assoc.keys last.blocked = ["stray", "far", "ping", "pong"] ∧
      units.length + units.length = 2 + 2 + (mixedProgram units).loadErrors.countP Fault.isDuplicate ∧
      (mixedProgram units).loadErrors <+: last.loadErrors := by
  have evaluated : (Source.parseUnits none mixedSource).toOption.map (fun units =>
      ((mixedProgram units).names, Assoc.keys (mixedProgram units).blocked,
        ((mixedProgram units).lookup "ping").map fun unit => Assoc.keys
          (((mixedProgram units).block unit (.general "off")).analyze false).1.value.blocked))
      = some (["Ping", "pong"], ["stray", "far"], some ["stray", "far", "ping", "pong"]) := by
    decide +kernel
  obtain ⟨units, given, isEvaluated⟩ := Option.map_eq_some_iff.mp evaluated
  have parsed : Source.parseUnits none mixedSource = .ok units := by
    cases read : Source.parseUnits none mixedSource with
    | error problem => rw [read] at given; cases given
    | ok found => rw [read] at given; rw [Option.some.inj given]
  obtain ⟨names, rest⟩ := Prod.mk.inj isEvaluated
  obtain ⟨blocked, later⟩ := Prod.mk.inj rest
  obtain ⟨unit, found, blockedLater⟩ := Option.map_eq_some_iff.mp later
  have isLoaded : unit ∈ (mixedProgram units).loaded :=
    List.mem_map.mpr ⟨_, Assoc.mem_of_get? found, rfl⟩
  have start : Leads {} (mixedStart units) (mixedProgram units) :=
    .cons trivial (.cons trivial (.cons trivial .nil))
  have onward : Leads (mixedProgram units) [.block unit (.general "off"), .analyze false] _ :=
    .cons ⟨isLoaded, rfl⟩ (.cons trivial .nil)
  obtain ⟨_, _, _, appended, _, _, counted, _⟩ := history_keeps_books _ _ _ _ start onward
  refine ⟨units, unit, parsed, start, isLoaded, onward, names, blocked, blockedLater, ?_, appended⟩
  have two : (mixedProgram units).units.length = 2 := by
    have lengths := congrArg List.length names
    rwa [Program.names, loaded, List.length_map, List.length_map] at lengths
  have twoBlocked : (mixedProgram units).blocked.length = 2 := by
    rw [← Assoc.length_keys, blocked]
    rfl
  rw [two, twoBlocked] at counted
  simpa [mixedStart, Operation.offered] using counted

end Program

end PromptChain
