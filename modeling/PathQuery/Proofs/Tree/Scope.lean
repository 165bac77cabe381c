import Mathlib.Data.List.Induction
import Mathlib.Data.List.Nodup
import PathQuery.Tree.Scope

/-! What is found in assigned entries, and in the namespaces that heads declare one inside the
other: the innermost declaration of a qualifier, except for an empty default namespace.
-/

namespace PathQuery

-----------------------------------------------------------------------------------------
-- Entries with keys
-----------------------------------------------------------------------------------------

theorem lookup_cons_eq_ite {α β : Type} [BEq α] (first : α × β) (rest : List (α × β)) (key : α)
    : (first :: rest).lookup key = if key == first.1 then some first.2 else rest.lookup key := by
  rw [List.lookup_cons]
  cases key == first.1 <;> rfl

section

variable {α β : Type} [BEq α] [LawfulBEq α] {entries more : List (α × β)} {key : α} {value : β}

/-- The first entry with a key is the one that the key finds. -/
theorem map_find?_eq_lookup (entries : List (α × β)) (key : α)
    : (entries.find? (·.1 == key)).map Prod.snd = entries.lookup key := by
  induction entries with
  | nil => rfl
  | cons first rest ih =>
      rw [List.find?_cons, lookup_cons_eq_ite, BEq.comm, ← ih]
      cases key == first.1 <;> rfl

theorem mem_of_lookup_eq (found : entries.lookup key = some value) : (key, value) ∈ entries := by
  obtain ⟨before, after, rfl, -⟩ := List.lookup_eq_some_iff.mp found
  simp

/-- Among different keys, each entry is the one that its key finds. -/
theorem lookup_eq_of_mem (distinct : (entries.map Prod.fst).Nodup) (member : (key, value) ∈ entries)
    : entries.lookup key = some value := by
  obtain ⟨before, after, rfl⟩ := List.append_of_mem member
  refine List.lookup_eq_some_iff.mpr ⟨before, after, rfl, fun entry earlier => ?_⟩
  rw [List.map_append, List.map_cons] at distinct
  have apart := (List.nodup_append.mp distinct).2.2
  exact bne_iff_ne.mpr (apart _ (List.mem_map_of_mem earlier) _ List.mem_cons_self).symm

theorem lookup_eq_none_of_not_mem (absent : key ∉ entries.map Prod.fst)
    : entries.lookup key = none :=
  List.lookup_eq_none_iff.mpr fun entry member =>
    bne_iff_ne.mpr fun same => absent (List.mem_map.mpr ⟨entry, member, same.symm⟩)

/-- Dropping entries of different keys drops what their keys find. -/
theorem lookup_filter (distinct : (entries.map Prod.fst).Nodup) (keep : α × β → Bool) (key : α)
    : (entries.filter keep).lookup key
      = (entries.lookup key).filter fun value => keep (key, value) := by
  refine Option.ext fun value => ?_
  have distinctToo : ((entries.filter keep).map Prod.fst).Nodup :=
    distinct.sublist (List.filter_sublist.map _)
  rw [Option.filter_eq_some_iff]
  constructor
  · intro found
    obtain ⟨member, kept⟩ := List.mem_filter.mp (mem_of_lookup_eq found)
    exact ⟨lookup_eq_of_mem distinct member, kept⟩
  · rintro ⟨found, kept⟩
    exact lookup_eq_of_mem distinctToo (List.mem_filter.mpr ⟨mem_of_lookup_eq found, kept⟩)

theorem lookup_replace (entries : List (α × β)) (key other : α) (value : β)
    : (entries.map fun entry => if entry.1 == key then (key, value) else entry).lookup other
      = if other == key then (entries.lookup key).map fun _ => value else entries.lookup other := by
  induction entries with
  | nil => simp
  | cons first rest ih =>
      rw [List.map_cons, lookup_cons_eq_ite, lookup_cons_eq_ite, lookup_cons_eq_ite, ih]
      by_cases here : first.1 = key
      · rw [if_pos (beq_iff_eq.mpr here), here]
        by_cases sought : other = key <;> simp [sought]
      · rw [if_neg (here ∘ beq_iff_eq.mp)]
        by_cases sought : other = key
        · simp [sought, Ne.symm here]
        · simp [sought]

theorem lookup_assign (entries : List (α × β)) (key other : α) (value : β)
    : (assign entries key value).lookup other
      = if other == key then some value else entries.lookup other := by
  rw [assign]
  split
  case isTrue present =>
      obtain ⟨entry, member, same⟩ := List.any_eq_true.mp present
      obtain ⟨old, found⟩ : ∃ old, entries.lookup key = some old :=
        Option.isSome_iff_exists.mp
          (List.lookup_isSome_iff.mpr ⟨entry, member, BEq.symm same⟩)
      rw [lookup_replace, found]
      rfl
  case isFalse absent =>
      have absent : entries.lookup key = none := lookup_eq_none_of_not_mem (by simpa using absent)
      rw [List.lookup_append, lookup_cons_eq_ite]
      by_cases same : other = key
      · simp [same, absent]
      · simp [same]

theorem map_fst_assign (entries : List (α × β)) (key : α) (value : β)
    : (assign entries key value).map Prod.fst
      = entries.map Prod.fst ++ if entries.any (·.1 == key) then [] else [key] := by
  rw [assign]
  split
  case isTrue =>
      rw [List.append_nil, List.map_map]
      refine List.map_congr_left fun entry _ => ?_
      dsimp only [Function.comp]
      split
      case isTrue same => exact (eq_of_beq same).symm
      case isFalse => rfl
  case isFalse => rw [List.map_append]; rfl

theorem nodup_assign (distinct : (entries.map Prod.fst).Nodup) (key : α) (value : β)
    : ((assign entries key value).map Prod.fst).Nodup := by
  rw [map_fst_assign]
  split
  case isTrue => rwa [List.append_nil]
  case isFalse absent =>
      exact distinct.append (List.nodup_singleton key) (by simpa using absent)

/-- Keys stay where entries are assigned. -/
theorem mem_map_fst_assignAll (member : key ∈ entries.map Prod.fst) (more : List (α × β))
    : key ∈ (assignAll entries more).map Prod.fst := by
  induction more generalizing entries with
  | nil => exact member
  | cons first rest ih =>
      refine ih ?_
      rw [map_fst_assign]
      exact List.mem_append_left _ member

/-- Later entries count, if their own keys are different. -/
theorem lookup_assignAll (entries : List (α × β)) (distinct : (more.map Prod.fst).Nodup) (key : α)
    : (assignAll entries more).lookup key = (more.lookup key).or (entries.lookup key) := by
  induction more generalizing entries with
  | nil => rfl
  | cons first rest ih =>
      obtain ⟨absent, distinct⟩ := List.nodup_cons.mp distinct
      rw [assignAll, List.foldl_cons, ← assignAll, ih _ distinct, lookup_assign,
        lookup_cons_eq_ite]
      split
      case isTrue same =>
          rw [eq_of_beq same, lookup_eq_none_of_not_mem absent, Option.none_or, Option.some_or]
      case isFalse => rfl

theorem nodup_assignAll (distinct : (entries.map Prod.fst).Nodup) (more : List (α × β))
    : ((assignAll entries more).map Prod.fst).Nodup := by
  induction more generalizing entries with
  | nil => exact distinct
  | cons first rest ih => exact ih (nodup_assign distinct first.1 first.2)

end

-----------------------------------------------------------------------------------------
-- Declarations of several heads
-----------------------------------------------------------------------------------------

/-- The declarations below the given heads, the outermost of which comes first. An empty default
namespace still is among them.
-/
def declaredBy (heads : List Head) : List (String × String) :=
  heads.foldl (fun scope head => assignAll scope head.declarations) [(xmlQualifier, xmlUri)]

theorem declaredBy_concat (heads : List Head) (head : Head)
    : declaredBy (heads ++ [head]) = assignAll (declaredBy heads) head.declarations :=
  List.foldl_concat ..

theorem nodup_declaredBy (heads : List Head) : ((declaredBy heads).map Prod.fst).Nodup := by
  induction heads using List.reverseRecOn with
  | nil => exact List.nodup_singleton xmlQualifier
  | append_singleton heads head ih =>
      rw [declaredBy_concat]
      exact nodup_assignAll ih head.declarations

theorem nodup_scopeOf (heads : List Head) : ((scopeOf heads).map Prod.fst).Nodup :=
  (nodup_declaredBy heads).sublist (List.filter_sublist.map Prod.fst)

theorem lookup_scopeOf (heads : List Head) (qualifier : String)
    : (scopeOf heads).lookup qualifier
      = ((declaredBy heads).lookup qualifier).filter fun uri =>
          !(qualifier.isEmpty && uri.isEmpty) :=
  lookup_filter (nodup_declaredBy heads) _ qualifier

end PathQuery
