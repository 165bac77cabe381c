import Mathlib.Data.List.Forall2
import PathQuery.Function.Core
import PathQuery.Proofs.Evaluation.Discipline

/-! The core functions accept all arguments that fit their signatures. They return no
node-sets, apart from the function that selects elements by their identifiers, which returns
a set in document order.
-/

namespace PathQuery

-----------------------------------------------------------------------------------------
-- Fitting arguments
-----------------------------------------------------------------------------------------

namespace Value

theorem HasType.exists_nodes {value : Value} (typed : value.HasType (some .nodes))
    : ∃ set, value = .nodes set := by
  have same := typed _ rfl
  cases value with
  | nodes set => exact ⟨set, rfl⟩
  | string | number | boolean => cases same

theorem HasType.exists_string {value : Value} (typed : value.HasType (some .string))
    : ∃ text, value = .string text := by
  have same := typed _ rfl
  cases value with
  | string text => exact ⟨text, rfl⟩
  | nodes | number | boolean => cases same

theorem HasType.exists_number {value : Value} (typed : value.HasType (some .number))
    : ∃ it, value = .number it := by
  have same := typed _ rfl
  cases value with
  | number it => exact ⟨it, rfl⟩
  | nodes | string | boolean => cases same

theorem HasType.exists_boolean {value : Value} (typed : value.HasType (some .boolean))
    : ∃ truth, value = .boolean truth := by
  have same := typed _ rfl
  cases value with
  | boolean truth => exact ⟨truth, rfl⟩
  | nodes | string | number => cases same

end Value

theorem Arity.accepts_iff (least greatest count : Nat)
    : (Arity.mk least (some greatest)).accepts count ↔ least ≤ count ∧ count ≤ greatest := by
  simp [accepts]

namespace Signature

variable {types : List (Option ArgumentType)} {arguments : List Value}

/-- Fitting arguments have the types of a list if the signature declares those at their
indexes.
-/
theorem Fits.forall₂ {signature : Signature} (fits : signature.Fits arguments)
    (length : arguments.length = types.length)
    (declares : ∀ index (inside : index < types.length), signature.typeOf index = types[index])
    : List.Forall₂ Value.HasType arguments types := by
  refine List.forall₂_iff_get.mpr ⟨length, fun index inside insideTypes => ?_⟩
  have typed := fits.2 index arguments[index] (List.getElem?_eq_getElem inside)
  rwa [declares index insideTypes] at typed

theorem fits_required (fits : (required types).Fits arguments)
    : List.Forall₂ Value.HasType arguments types := by
  have length : arguments.length = types.length := by
    have accepted := (Arity.accepts_iff _ _ _).mp fits.1
    omega
  refine fits.forall₂ length fun index inside => ?_
  simp [typeOf, required, inside]

/-- The last argument may be left out where it is optional. -/
theorem fits_withOptional {last : Option ArgumentType}
    (fits : (withOptional types last).Fits arguments)
    : List.Forall₂ Value.HasType arguments types
      ∨ List.Forall₂ Value.HasType arguments (types ++ [last]) := by
  have declares (index : Nat) (inside : index < (types ++ [last]).length)
      : (withOptional types last).typeOf index = (types ++ [last])[index] := by
    simp only [typeOf, withOptional, List.getElem?_eq_getElem inside, Option.getD_some]
  have accepted := (Arity.accepts_iff _ _ _).mp fits.1
  rcases Nat.eq_or_lt_of_le accepted.1 with few | all
  · refine .inl (fits.forall₂ few.symm fun index inside => ?_)
    rw [declares index (by simp; omega), List.getElem_append_left inside]
  · exact .inr (fits.forall₂ (by simp; omega) declares)

end Signature

-----------------------------------------------------------------------------------------
-- Functions without node-sets
-----------------------------------------------------------------------------------------

namespace Core

/-- A function that returns no node-set for arguments that fit a signature. -/
def IsScalar (signature : Signature) (run : Context → List Value → Except Fault Value) : Prop :=
  ∀ context arguments, signature.Fits arguments →
    ∃ value, run context arguments = .ok value ∧ value.type ≠ .nodes

open Signature

theorem isScalar_nameText (read : View → String)
    : IsScalar (withOptional [] (some .nodes)) (nameText read) := by
  intro context arguments fits
  rcases fits_withOptional fits with (_ | _) | (_ | ⟨typed, _ | _⟩)
  · exact ⟨_, rfl, by simp⟩
  · obtain ⟨set, rfl⟩ := typed.exists_nodes
    exact ⟨_, rfl, by simp⟩

/-- A function of one value, which may be left out, is without node-sets if both its uses are. -/
theorem isScalar_ofAny {run : Context → List Value → Except Fault Value}
    (left : ∀ context, ∃ value, run context [] = .ok value ∧ value.type ≠ .nodes)
    (given : ∀ context argument, ∃ value, run context [argument] = .ok value
      ∧ value.type ≠ .nodes)
    : IsScalar (withOptional [] none) run := by
  intro context arguments fits
  rcases fits_withOptional fits with (_ | _) | (_ | ⟨-, _ | _⟩)
  · exact left context
  · exact given context _

theorem isScalar_concat
    : IsScalar (withMore [some .string, some .string] (some .string)) concat := by
  intro context arguments fits
  have typed : ∀ value ∈ arguments, value.HasType (some .string) := by
    intro value member
    obtain ⟨index, found⟩ := List.mem_iff_getElem?.mp member
    have declared := fits.2 index value found
    rcases index with _ | _ | index <;> exact declared
  have texts : ∃ texts, texts? arguments = some texts := by
    clear fits
    induction arguments with
    | nil => exact ⟨[], rfl⟩
    | cons value rest ih =>
        obtain ⟨text, rfl⟩ := (typed value (by simp)).exists_string
        obtain ⟨texts, found⟩ := ih fun value member => typed value (List.mem_cons_of_mem _ member)
        exact ⟨text :: texts, by rw [texts?, found]; rfl⟩
  obtain ⟨texts, found⟩ := texts
  exact ⟨_, by rw [concat, found], by simp⟩

theorem isScalar_onTwoTexts {f : String → String → Value}
    (scalar : ∀ left right, (f left right).type ≠ .nodes)
    : IsScalar (required [some .string, some .string]) (onTwoTexts f) := by
  intro context arguments fits
  obtain _ | ⟨left, _ | ⟨right, _ | _⟩⟩ := fits_required fits
  obtain ⟨left, rfl⟩ := left.exists_string
  obtain ⟨right, rfl⟩ := right.exists_string
  exact ⟨_, rfl, scalar _ _⟩

theorem isScalar_substring
    : IsScalar (withOptional [some .string, some .number] (some .number)) substring := by
  intro context arguments fits
  rcases fits_withOptional fits with
    (_ | ⟨text, _ | ⟨start, _ | _⟩⟩) | (_ | ⟨text, _ | ⟨start, _ | ⟨length, _ | _⟩⟩⟩)
  · obtain ⟨text, rfl⟩ := text.exists_string
    obtain ⟨start, rfl⟩ := start.exists_number
    exact ⟨_, rfl, by simp⟩
  · obtain ⟨text, rfl⟩ := text.exists_string
    obtain ⟨start, rfl⟩ := start.exists_number
    obtain ⟨length, rfl⟩ := length.exists_number
    exact ⟨_, rfl, by simp⟩

theorem isScalar_onText {f : String → Value} (scalar : ∀ text, (f text).type ≠ .nodes)
    : IsScalar (withOptional [] (some .string)) (onText f) := by
  intro context arguments fits
  rcases fits_withOptional fits with (_ | _) | (_ | ⟨text, _ | _⟩)
  · exact ⟨_, rfl, scalar _⟩
  · obtain ⟨text, rfl⟩ := text.exists_string
    exact ⟨_, rfl, scalar _⟩

theorem isScalar_translate
    : IsScalar (required [some .string, some .string, some .string]) translate := by
  intro context arguments fits
  obtain _ | ⟨text, _ | ⟨old, _ | ⟨new, _ | _⟩⟩⟩ := fits_required fits
  obtain ⟨text, rfl⟩ := text.exists_string
  obtain ⟨old, rfl⟩ := old.exists_string
  obtain ⟨new, rfl⟩ := new.exists_string
  exact ⟨_, rfl, by simp⟩

theorem isScalar_not : IsScalar (required [some .boolean]) not := by
  intro context arguments fits
  obtain _ | ⟨truth, _ | _⟩ := fits_required fits
  obtain ⟨truth, rfl⟩ := truth.exists_boolean
  exact ⟨_, rfl, by simp⟩

theorem isScalar_lang : IsScalar (required [some .string]) lang := by
  intro context arguments fits
  obtain _ | ⟨wanted, _ | _⟩ := fits_required fits
  obtain ⟨wanted, rfl⟩ := wanted.exists_string
  exact ⟨_, rfl, by simp⟩

theorem isScalar_onNumber (f : Number → Number)
    : IsScalar (required [some .number]) (onNumber f) := by
  intro context arguments fits
  obtain _ | ⟨it, _ | _⟩ := fits_required fits
  obtain ⟨it, rfl⟩ := it.exists_number
  exact ⟨_, rfl, by simp⟩

theorem isScalar_ofNodes {run : Context → List Value → Except Fault Value}
    (given : ∀ context set, ∃ value, run context [.nodes set] = .ok value ∧ value.type ≠ .nodes)
    : IsScalar (required [some .nodes]) run := by
  intro context arguments fits
  obtain _ | ⟨set, _ | _⟩ := fits_required fits
  obtain ⟨set, rfl⟩ := set.exists_nodes
  exact given context _

theorem isScalar_constant {f : Context → Value} (scalar : ∀ context, (f context).type ≠ .nodes)
    : IsScalar (required []) (constant f) := by
  intro context arguments fits
  obtain _ | _ := fits_required fits
  exact ⟨_, rfl, scalar context⟩

end Core

-----------------------------------------------------------------------------------------
-- The library
-----------------------------------------------------------------------------------------

theorem Library.mem_of_find? {library : Library} {name : String} {function : Function}
    (found : library.find? name = some function)
    : (name, function) ∈ library.entries := by
  obtain ⟨entry, looked, rfl⟩ := Option.map_eq_some_iff.mp found
  have same := List.find?_some looked
  have sameName : entry.1 = name := by simpa using same
  exact sameName ▸ List.mem_of_find?_eq_some looked

/-- A function that returns a value is called for it. -/
theorem Function.call_ofValue (signature : Signature)
    (run : Context → List Value → Except Fault Value) (context : Context) (arguments : List Value)
    : (Function.ofValue signature run).call context arguments = run context arguments := by
  cases outcome : run context arguments with
  | error fault =>
      simp only [call, ofValue, outcome]
      rfl
  | ok value =>
      simp only [call, ofValue, outcome]
      cases value <;> rfl

open PathQuery.Core in
/-- A core function returns no node-sets, or is the one that selects by identifiers. -/
theorem Library.core_cases {name : String} {function : Function}
    (found : Library.core.find? name = some function)
    : (∃ signature run, function = .ofValue signature run ∧ Core.IsScalar signature run)
      ∨ function = .ofValue (.required [none]) Core.id := by
  have scalar {signature : Signature} {run : Context → List Value → Except Fault Value}
      (scalar : IsScalar signature run)
      : (∃ further other, Function.ofValue signature run = .ofValue further other
          ∧ IsScalar further other)
        ∨ Function.ofValue signature run = .ofValue (.required [none]) Core.id :=
    .inl ⟨signature, run, rfl, scalar⟩
  have all : ∀ entry ∈ Library.core.entries,
      (∃ signature run, entry.2 = .ofValue signature run ∧ IsScalar signature run)
        ∨ entry.2 = .ofValue (.required [none]) Core.id := by
    simp only [Library.core, List.forall_mem_cons, List.not_mem_nil, false_implies, implies_true,
      and_true]
    exact ⟨scalar (isScalar_constant (by simp)), scalar (isScalar_constant (by simp)),
      scalar (isScalar_ofNodes fun _ _ => ⟨_, rfl, by simp⟩), .inr trivial,
      scalar (isScalar_nameText _), scalar (isScalar_nameText _), scalar (isScalar_nameText _),
      scalar (isScalar_ofAny (fun _ => ⟨_, rfl, by simp⟩) fun _ _ => ⟨_, rfl, by simp⟩),
      scalar isScalar_concat, scalar (isScalar_onTwoTexts (by simp)),
      scalar (isScalar_onTwoTexts (by simp)), scalar (isScalar_onTwoTexts (by simp)),
      scalar (isScalar_onTwoTexts (by simp)), scalar isScalar_substring,
      scalar (isScalar_onText (by simp)), scalar (isScalar_onText (by simp)),
      scalar isScalar_translate,
      scalar (isScalar_ofAny (fun _ => ⟨_, rfl, by simp⟩) fun _ _ => ⟨_, rfl, by simp⟩),
      scalar isScalar_not, scalar (isScalar_constant (by simp)),
      scalar (isScalar_constant (by simp)), scalar isScalar_lang,
      scalar (isScalar_ofAny (fun _ => ⟨_, rfl, by simp⟩) fun _ _ => ⟨_, rfl, by simp⟩),
      scalar (isScalar_ofNodes fun _ _ => ⟨_, rfl, by simp⟩), scalar (isScalar_onNumber _),
      scalar (isScalar_onNumber _), scalar (isScalar_onNumber _)⟩
  exact all _ (Library.mem_of_find? found)

/-- A core function has a value for arguments that fit its signature. -/
theorem Library.exists_call_core {name : String} {function : Function}
    (found : Library.core.find? name = some function) (context : Context) {arguments : List Value}
    (fits : function.signature.Fits arguments)
    : ∃ value, function.call context arguments = .ok value := by
  rcases Library.core_cases found with ⟨signature, run, rfl, scalar⟩ | rfl
  · obtain ⟨value, returned, -⟩ := scalar context arguments fits
    exact ⟨value, by rw [Function.call_ofValue, returned]⟩
  · obtain _ | ⟨-, _ | _⟩ := Signature.fits_required fits
    rw [Function.call_ofValue, Core.id]
    dsimp only
    split <;> exact ⟨_, rfl⟩

namespace Discipline

variable {forest : Forest} {stamp : Nat} (discipline : Discipline forest stamp)

/-- A function without node-sets keeps to any discipline. -/
theorem serves_of_isScalar {signature : Signature}
    {run : Context → List Value → Except Fault Value} (scalar : Core.IsScalar signature run)
    : discipline.Serves (.ofValue signature run) := by
  intro context arguments suits fits good
  obtain ⟨value, returned, noNodes⟩ := scalar context arguments fits
  rw [Function.call_ofValue, returned]
  exact discipline.good_of_type noNodes

/-- The function that selects by identifiers returns a set. -/
theorem serves_id : discipline.Serves (.ofValue (.required [none]) Core.id) := by
  intro context arguments suits fits good
  obtain _ | ⟨-, _ | _⟩ := Signature.fits_required fits
  rw [Function.call_ofValue, Core.id]
  have below : discipline.IsSet (context.forest.descendants (context.rootOf context.node)) := by
    rw [Context.rootOf, suits.forest_eq, suits.stamp_eq]
    exact discipline.descendants (discipline.rootOf suits.node)
  split
  · exact discipline.sublist below (List.nil_sublist _)
  · exact discipline.sublist below List.filter_sublist

/-- All core functions keep to any discipline. -/
theorem serves_core {name : String} {function : Function}
    (found : Library.core.find? name = some function)
    : discipline.Serves function := by
  rcases Library.core_cases found with ⟨signature, run, rfl, scalar⟩ | rfl
  · exact discipline.serves_of_isScalar scalar
  · exact discipline.serves_id

end Discipline

end PathQuery
