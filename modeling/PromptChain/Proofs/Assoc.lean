/-
**Maps that keep the order of insertion, as functions.**

What a map gives for a key after each of its operations (`get?_set`, `get?_setAll`, `get?_erase`), and its
members when no key stands twice (`mem_iff_get?`), which every operation preserves (`Distinct`). Such
pairs are a map as they stand (`ofPairs_of_distinct`).
-/

import Mathlib.Data.List.Nodup
import PromptChain.Assoc

namespace PromptChain.Assoc

variable {α : Type} {map : Assoc α}

@[simp]
theorem get?_nil (key : String) : get? ([] : Assoc α) key = none := rfl

theorem get?_cons (entry : String × α) (map : Assoc α) (key : String) :
    get? (entry :: map) key = if entry.1 = key then some entry.2 else get? map key := by
  unfold get?
  rw [List.lookup_cons]
  by_cases same : entry.1 = key
  · rw [if_pos same, same, beq_self_eq_true]
  · rw [if_neg same, beq_false_of_ne (Ne.symm same)]

/-- **Setting a key changes its value and no other.** -/
theorem get?_set (map : Assoc α) (key : String) (value : α) (other : String) :
    get? (set map key value) other = if key = other then some value else get? map other := by
  induction map with
  | nil => rw [set, get?_cons]
  | cons entry map ih =>
    rw [set]
    by_cases same : entry.1 = key
    · rw [if_pos same, get?_cons, get?_cons, same]
      by_cases asked : key = other
      · rw [if_pos asked, if_pos asked]
      · rw [if_neg asked, if_neg asked, if_neg asked]
    · rw [if_neg same, get?_cons, get?_cons, ih]
      by_cases asked : entry.1 = other
      · rw [if_pos asked, if_pos asked, if_neg fun wrong => same (asked.trans wrong.symm)]
      · rw [if_neg asked, if_neg asked]

@[simp]
theorem get?_set_self (map : Assoc α) (key : String) (value : α) :
    get? (set map key value) key = some value := by
  rw [get?_set, if_pos rfl]

/-- **Dropping a key leaves the others.** -/
theorem get?_erase (map : Assoc α) (key other : String) :
    get? (erase map key) other = if key = other then none else get? map other := by
  induction map with
  | nil => simp [erase]
  | cons entry map ih =>
    unfold erase at ih ⊢
    by_cases same : entry.1 = key
    · rw [List.filter_cons_of_neg (by simp [same]), ih, get?_cons, same]
      by_cases asked : key = other
      · rw [if_pos asked, if_pos asked]
      · rw [if_neg asked, if_neg asked, if_neg asked]
    · rw [List.filter_cons_of_pos (by simpa using same), get?_cons, get?_cons, ih]
      by_cases asked : entry.1 = other
      · rw [if_pos asked, if_pos asked, if_neg fun wrong => same (asked.trans wrong.symm)]
      · rw [if_neg asked, if_neg asked]

theorem mem_keys_iff (map : Assoc α) (key : String) : key ∈ keys map ↔ (get? map key).isSome := by
  induction map with
  | nil => simp [keys]
  | cons entry map ih =>
    rw [keys, List.map_cons, List.mem_cons, get?_cons, ← keys, ih]
    by_cases same : entry.1 = key
    · simp [same]
    · simp [same, Ne.symm same]

theorem has_eq_isSome (map : Assoc α) (key : String) : has map key = (get? map key).isSome := by
  rw [Bool.eq_iff_iff, ← mem_keys_iff]
  simp [has, keys]

/-- The value of a key stands in the map. -/
theorem mem_of_get? {key : String} {value : α} (found : get? map key = some value) :
    (key, value) ∈ map := by
  induction map with
  | nil => cases found
  | cons entry map ih =>
    rw [get?_cons] at found
    split at found
    · rename_i same
      rw [← same, ← Option.some.inj found]
      exact List.mem_cons_self
    · exact List.mem_cons_of_mem _ (ih found)

/-- Setting a key drops none. -/
theorem isSome_get?_set {other : String} (known : (get? map other).isSome = true) (key : String)
    (value : α) : (get? (set map key value) other).isSome = true := by
  rw [get?_set]
  split
  · rfl
  · exact known

theorem isSome_get?_setAll {other : String} (known : (get? map other).isSome = true)
    (values : Assoc α) : (get? (setAll map values) other).isSome = true := by
  unfold setAll
  induction values generalizing map with
  | nil => exact known
  | cons entry values ih => exact ih (isSome_get?_set known entry.1 entry.2)

/-- **Setting pairs one after the other**: of two with one key the later one counts. -/
theorem get?_setAll_reverse (map values : Assoc α) (key : String) :
    get? (setAll map values) key = (get? values.reverse key).or (get? map key) := by
  unfold setAll
  induction values generalizing map with
  | nil => rfl
  | cons entry values ih =>
    have last : get? (values.reverse ++ [entry]) key
        = (get? values.reverse key).or (if entry.1 = key then some entry.2 else none) := by
      rw [get?, List.lookup_append, ← get?, ← get?, get?_cons, get?_nil]
    rw [List.foldl_cons, ih, get?_set, List.reverse_cons, last, Option.or_assoc]
    split <;> rfl

theorem mem_keys_ofPairs (pairs : Assoc α) (key : String) :
    key ∈ keys (ofPairs pairs) ↔ key ∈ keys pairs := by
  rw [mem_keys_iff, ofPairs, get?_setAll_reverse, get?_nil, Option.or_none, ← mem_keys_iff, keys,
    List.map_reverse, List.mem_reverse, keys]

/-- Leaving out keys leaves the others. -/
theorem get?_filter (map : Assoc α) (keep : String → Bool) (key : String) :
    get? (map.filter fun entry => keep entry.1) key = if keep key then get? map key else none := by
  induction map with
  | nil => simp
  | cons entry map ih =>
    rw [List.filter_cons]
    by_cases same : entry.1 = key
    · cases kept : keep key <;> simp [get?_cons, ih, same, kept]
    · cases kept : keep entry.1 <;> simp [get?_cons, ih, same]

/-! ### No key twice -/

/-- No key stands twice. -/
def Distinct (map : Assoc α) : Prop := (keys map).Nodup

theorem Distinct.nil : Distinct ([] : Assoc α) := List.nodup_nil

theorem keys_set (map : Assoc α) (key : String) (value : α) :
    keys (set map key value) = if key ∈ keys map then keys map else keys map ++ [key] := by
  induction map with
  | nil => simp [keys, set]
  | cons entry map ih =>
    unfold keys at ih ⊢
    rw [set]
    by_cases same : entry.1 = key
    · rw [if_pos same, if_pos (by simp [same]), List.map_cons, List.map_cons, same]
    · rw [if_neg same, List.map_cons, List.map_cons, ih]
      by_cases later : key ∈ List.map Prod.fst map
      · rw [if_pos later, if_pos (List.mem_cons_of_mem _ later)]
      · rw [if_neg later, if_neg (by simpa [Ne.symm same] using later), List.cons_append]

theorem Distinct.set (distinct : Distinct map) (key : String) (value : α) :
    Distinct (set map key value) := by
  unfold Distinct at distinct ⊢
  rw [keys_set]
  split
  · exact distinct
  · rename_i isNew
    rw [List.nodup_append]
    refine ⟨distinct, by simp, ?_⟩
    intro old isOld other added same
    rw [List.mem_singleton.mp added] at same
    exact isNew (same ▸ isOld)

theorem Distinct.erase (distinct : Distinct map) (key : String) : Distinct (erase map key) :=
  distinct.sublist (List.filter_sublist.map Prod.fst)

theorem Distinct.setAll (distinct : Distinct map) (values : Assoc α) :
    Distinct (setAll map values) := by
  unfold Assoc.setAll
  induction values generalizing map with
  | nil => exact distinct
  | cons entry values ih => exact ih (distinct.set entry.1 entry.2)

/-- **Setting the keys of a second map**: its values come first. -/
theorem get?_setAll (map : Assoc α) {values : Assoc α} (distinct : Distinct values) (key : String) :
    get? (setAll map values) key = (get? values key).or (get? map key) := by
  unfold Assoc.setAll
  induction values generalizing map with
  | nil => simp
  | cons entry values ih =>
    obtain ⟨apart, later⟩ := List.nodup_cons.mp distinct
    rw [List.foldl_cons, ih _ later, get?_set, get?_cons]
    by_cases same : entry.1 = key
    · have noSecond : get? values key = none := by
        rw [← Option.not_isSome_iff_eq_none, ← mem_keys_iff, ← same]
        exact apart
      rw [if_pos same, if_pos same, noSecond, Option.none_or, Option.some_or]
    · rw [if_neg same, if_neg same]

/-- **The members of a map are the values of its keys.** -/
theorem mem_iff_get? (distinct : Distinct map) (key : String) (value : α) :
    (key, value) ∈ map ↔ get? map key = some value := by
  induction map with
  | nil => simp
  | cons entry map ih =>
    obtain ⟨apart, later⟩ := List.nodup_cons.mp distinct
    rw [List.mem_cons, get?_cons, ih later]
    by_cases same : entry.1 = key
    · have noSecond : get? map key = none := by
        rw [← Option.not_isSome_iff_eq_none, ← mem_keys_iff, ← same]
        exact apart
      rw [if_pos same, noSecond, ← same, Option.some.injEq]
      constructor
      · rintro (here | wrong)
        · rw [← here]
        · cases wrong
      · intro here
        exact Or.inl (by rw [← here])
    · rw [if_neg same]
      constructor
      · rintro (here | here)
        · exact absurd (congrArg Prod.fst here).symm same
        · exact here
      · exact Or.inr

theorem set_of_notMem {key : String} (isNew : key ∉ keys map) (value : α) :
    set map key value = map ++ [(key, value)] := by
  induction map with
  | nil => rfl
  | cons entry map ih =>
    rw [keys, List.map_cons, List.mem_cons, not_or] at isNew
    rw [set, if_neg (Ne.symm isNew.1), ih isNew.2, List.cons_append]

/-- Pairs without a key twice are a map. -/
theorem ofPairs_of_distinct {pairs : Assoc α} (distinct : Distinct pairs) : ofPairs pairs = pairs := by
  have behind (early late : Assoc α) (distinct : Distinct (early ++ late)) :
      setAll early late = early ++ late := by
    induction late generalizing early with
    | nil => simp [setAll]
    | cons entry late ih =>
      have isNew : entry.1 ∉ keys early := by
        unfold Distinct keys at distinct
        rw [List.map_append, List.nodup_append] at distinct
        exact fun isOld => distinct.2.2 _ isOld _ List.mem_cons_self rfl
      have isNext : early ++ entry :: late = (early ++ [entry]) ++ late := by simp
      rw [isNext] at distinct ⊢
      rw [← ih _ distinct, ← set_of_notMem isNew entry.2]
      rfl
  exact behind [] pairs distinct

end PromptChain.Assoc
