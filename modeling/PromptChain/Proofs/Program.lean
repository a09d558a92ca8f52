/-
**Programs keep their units under their own keys.**

A program is tidy when each of its units is well formed and stands under its own key, and no key stands
twice (`Program.Tidy`). Names are letters, digits and low lines, so the key of a key is the key itself
(`nameKey_nameKey`) and looking up a key finds what stands under it (`Program.Tidy.lookup_key`).

`Program.Filled` are the programs that units of sources have been added to; they are tidy.
-/

import PromptChain.Proofs.Assoc
import PromptChain.Proofs.Parsed
import PromptChain.Program

namespace PromptChain

/-! ### Keys of names -/

/-- Folding a folded letter changes nothing. -/
theorem foldChar_fold {c : Char} (inName : isExportChar c = true) :
    (Text.foldChar c).flatMap Text.foldChar = Text.foldChar c := by
  have small : ∀ code < 128, (Text.foldChar (Char.ofNat code)).flatMap Text.foldChar
      = Text.foldChar (Char.ofNat code) := by
    decide
  rw [Source.isExportChar_iff] at inName
  have bound : c.toNat < 128 := by omega
  have same := small c.toNat bound
  rwa [Char.ofNat_toNat] at same

/-- **The key of a key is the key itself.** -/
theorem nameKey_nameKey {name : String} (isName : IsName name.toList) :
    nameKey (nameKey name) = nameKey name := by
  unfold nameKey Text.fold
  rw [String.toList_ofList, List.flatMap_assoc]
  exact congrArg String.ofList (List.flatMap_congr fun c member => foldChar_fold (isName.2 c member))

namespace Program

variable {program : Program} {key : String} {unit : PromptUnit}

/-! ### Tidy programs -/

/-- Each unit is well formed and stands under its own key, and no key stands twice. -/
structure Tidy (program : Program) : Prop where
  distinct : Assoc.Distinct program.units
  entry : ∀ {key unit}, Assoc.get? program.units key = some unit → unit.key = key ∧ unit.WellFormed

section

variable (tidy : program.Tidy)

include tidy

theorem Tidy.own (found : Assoc.get? program.units key = some unit) :
    unit.key = key := (tidy.entry found).1

theorem Tidy.wellFormed (found : Assoc.get? program.units key = some unit) :
    unit.WellFormed := (tidy.entry found).2

/-- **A unit is loaded when it stands under its key.** -/
theorem Tidy.mem_loaded : unit ∈ program.loaded ↔ Assoc.get? program.units unit.key = some unit := by
  constructor
  · intro member
    obtain ⟨⟨key, same⟩, isEntry, rfl⟩ := List.mem_map.mp member
    have found := (Assoc.mem_iff_get? tidy.distinct key same).mp isEntry
    rwa [tidy.own found]
  · intro found
    exact List.mem_map.mpr ⟨_, (Assoc.mem_iff_get? tidy.distinct _ _).mpr found, rfl⟩

theorem Tidy.nameKey_key (found : Assoc.get? program.units key = some unit) : nameKey key = key := by
  rw [← tidy.own found]
  exact nameKey_nameKey (tidy.wellFormed found).name

/-- **Looking up a key finds what stands under it.** -/
theorem Tidy.lookup_key (found : Assoc.get? program.units key = some unit) :
    program.lookup key = some unit := by
  rw [lookup, tidy.nameKey_key found, found]

/-- A unit that a name stands for is loaded. -/
theorem Tidy.mem_loaded_of_lookup {name : String} (found : program.lookup name = some unit) :
    unit ∈ program.loaded := by
  rw [tidy.mem_loaded, tidy.own found]
  exact found

/-- Two loaded units with one key are the same. -/
theorem Tidy.eq_of_key {other : PromptUnit} (isLoaded : unit ∈ program.loaded)
    (isLoadedToo : other ∈ program.loaded) (same : unit.key = other.key) : unit = other := by
  have first := tidy.mem_loaded.mp isLoaded
  have second := tidy.mem_loaded.mp isLoadedToo
  rw [same, second] at first
  exact (Option.some.inj first).symm

/-- The keys of the loaded units, in order. -/
theorem Tidy.map_key_loaded : program.loaded.map PromptUnit.key = Assoc.keys program.units := by
  rw [loaded, List.map_map, Assoc.keys]
  refine List.map_congr_left fun entry isEntry => ?_
  exact tidy.own ((Assoc.mem_iff_get? tidy.distinct entry.1 entry.2).mp isEntry)

end

theorem get?_setUnit (program : Program) (unit : PromptUnit) (key : String) :
    Assoc.get? (program.setUnit unit).units key
      = if unit.key = key then some unit else Assoc.get? program.units key := Assoc.get?_set _ _ _ _

theorem get?_block (program : Program) (unit : PromptUnit) (fault : Fault) (key : String) :
    Assoc.get? (program.block unit fault).units key
      = if unit.key = key then none else Assoc.get? program.units key := Assoc.get?_erase _ _ _

/-- A unit is added where its name is free, and else changes no unit. -/
theorem units_addUnit (program : Program) (unit : PromptUnit) :
    (program.addUnit unit).units = program.units ∨
      (program.addUnit unit).units = (program.setUnit unit).units := by
  unfold Program.addUnit
  simp only
  split
  · exact Or.inl rfl
  · exact Or.inr rfl

theorem Tidy.setUnit (tidy : program.Tidy) (wellFormed : unit.WellFormed) : (program.setUnit unit).Tidy := by
  refine ⟨tidy.distinct.set _ _, ?_⟩
  intro key other found
  rw [get?_setUnit] at found
  split at found
  · rename_i same
    cases found
    exact ⟨same, wellFormed⟩
  · exact tidy.entry found

theorem Tidy.block (tidy : program.Tidy) (unit : PromptUnit) (fault : Fault) :
    (program.block unit fault).Tidy := by
  refine ⟨tidy.distinct.erase _, ?_⟩
  intro key other found
  rw [get?_block] at found
  split at found
  · cases found
  · exact tidy.entry found

theorem Tidy.addUnit (tidy : program.Tidy) (wellFormed : unit.WellFormed) : (program.addUnit unit).Tidy := by
  rcases units_addUnit program unit with same | same
  · exact ⟨same ▸ tidy.distinct, same ▸ tidy.entry⟩
  · have set := tidy.setUnit wellFormed
    exact ⟨same ▸ set.distinct, same ▸ set.entry⟩

theorem Tidy.addUnits (tidy : program.Tidy) {units : List PromptUnit}
    (wellFormed : ∀ unit ∈ units, unit.WellFormed) : (program.addUnits units).Tidy := by
  unfold Program.addUnits
  induction units generalizing program with
  | nil => exact tidy
  | cons unit units ih =>
    exact ih (tidy.addUnit (wellFormed unit List.mem_cons_self))
      (List.forall_mem_cons.mp wellFormed).2

/-! ### Filled programs -/

/-- A program that units of sources have been added to, and nothing else but labels and load errors. -/
inductive Filled : Program → Prop
  | empty : Filled {}
  | addUnits {program : Program} (filled : Filled program) {origin : Option String} {source : String}
    {units : List PromptUnit} (parsed : Source.parseUnits origin source = .ok units) :
    Filled (program.addUnits units)
  | note {program : Program} (filled : Filled program) (sources : List String) (errors : List Fault) :
    Filled { program with sources := sources, loadErrors := errors }

/-- **Filled programs are tidy.** -/
theorem Filled.tidy (filled : program.Filled) : program.Tidy := by
  induction filled with
  | empty =>
    refine ⟨Assoc.Distinct.nil, ?_⟩
    intro key unit found
    cases found
  | addUnits _ parsed ih => exact ih.addUnits (Source.wellFormed_of_parseUnits parsed)
  | note _ _ _ ih => exact ⟨ih.distinct, ih.entry⟩

/-- What holds of the units before and of those that are added holds of all. -/
theorem forall_addUnits {property : PromptUnit → Prop} {units : List PromptUnit}
    (before : ∀ key unit, Assoc.get? program.units key = some unit → property unit)
    (added : ∀ unit ∈ units, property unit) (key : String) (unit : PromptUnit)
    (found : Assoc.get? (program.addUnits units).units key = some unit) : property unit := by
  unfold Program.addUnits at found
  induction units generalizing program with
  | nil => exact before key unit found
  | cons first units ih =>
    refine ih ?_ (List.forall_mem_cons.mp added).2 found
    intro key unit found
    rcases units_addUnit program first with same | same
    · exact before key unit (same ▸ found)
    · rw [same, get?_setUnit] at found
      split at found
      · cases found
        exact added _ List.mem_cons_self
      · exact before key unit found

/-- The metadata of a filled program has not been checked. -/
theorem Filled.unchecked (filled : program.Filled) (isLoaded : unit ∈ program.loaded) :
    unit.metadata = none := by
  have every : ∀ key unit, Assoc.get? program.units key = some unit → unit.metadata = none := by
    clear isLoaded
    induction filled with
    | empty =>
      intro key unit found
      cases found
    | addUnits _ parsed ih => exact forall_addUnits ih (Source.unchecked_of_parseUnits parsed)
    | note _ _ _ ih => exact ih
  exact every _ _ (filled.tidy.mem_loaded.mp isLoaded)

end Program

end PromptChain
