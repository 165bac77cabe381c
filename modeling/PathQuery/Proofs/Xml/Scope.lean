import PathQuery.Proofs.Tree.Scope
import PathQuery.Xml.Tree

/-! Scopes of documents and declarations that amount to them. Of a scope, elements of a tree only
declare what differs from the scope around them.
-/

namespace PathQuery.Xml

-----------------------------------------------------------------------------------------
-- What qualifiers stand for
-----------------------------------------------------------------------------------------

/-- What documents grant: a qualifier is declared once at most, only the default namespace can be
empty, and `xml` stands for its own namespace.
-/
structure Scope.IsRegular (scope : Scope) : Prop where
  distinct : (scope.map Prod.fst).Nodup
  ne_empty {qualifier uri : String} (member : (some qualifier, uri) ∈ scope)
    : qualifier ≠ "" ∧ uri ≠ ""
  xml {uri : String} (member : (some xmlQualifier, uri) ∈ scope) : uri = xmlUri

/-- What a qualifier stands for in a scope, where the empty one stands for the default namespace,
if that is not empty itself.
-/
def Scope.binding? (scope : Scope) (qualifier : String) : Option String :=
  if qualifier = xmlQualifier then some xmlUri
  else if qualifier = "" then (scope.lookup none).bind uriOf
  else scope.lookup (some qualifier)

namespace Scope

variable {scope own outer : Scope} {declared : List (String × String)}

/-- The innermost declaration of a qualifier counts. -/
theorem lookup_below (distinct : (outer.map Prod.fst).Nodup) (qualifier : Option String)
    : (below own outer).lookup qualifier = (own.lookup qualifier).or (outer.lookup qualifier) := by
  rw [below, List.lookup_append, lookup_filter distinct]
  cases found : own.lookup qualifier with
  | some uri => rfl
  | none =>
      have kept : own.all (fun it => it.1 != qualifier) = true :=
        List.all_eq_true.mpr fun it member =>
          bne_iff_ne.mpr (bne_iff_ne.mp (List.lookup_eq_none_iff.mp found it member)).symm
      simp only [kept]
      cases outer.lookup qualifier <;> rfl

namespace IsRegular

theorem nil : IsRegular [] := by
  constructor <;> simp

theorem below (ownRegular : own.IsRegular) (regular : outer.IsRegular)
    : (below own outer).IsRegular where
  distinct := by
    rw [Scope.below, List.map_append]
    refine ownRegular.distinct.append (regular.distinct.sublist (List.filter_sublist.map _)) ?_
    intro qualifier member again
    obtain ⟨it, inside, rfl⟩ := List.mem_map.mp member
    obtain ⟨entry, kept, same⟩ := List.mem_map.mp again
    have apart := List.all_eq_true.mp (List.mem_filter.mp kept).2 it inside
    exact bne_iff_ne.mp apart same.symm
  ne_empty member := by
    rcases List.mem_append.mp member with inside | around
    · exact ownRegular.ne_empty inside
    · exact regular.ne_empty (List.mem_of_mem_filter around)
  xml member := by
    rcases List.mem_append.mp member with inside | around
    · exact ownRegular.xml inside
    · exact regular.xml (List.mem_of_mem_filter around)

end IsRegular

-----------------------------------------------------------------------------------------
-- Names
-----------------------------------------------------------------------------------------

/-- The qualifier of an element stands for its namespace, if it stands for anything. -/
theorem IsRegular.binding?_getD (regular : scope.IsRegular) {qualifier : Option String}
    (bound : scope.binds qualifier)
    : scope.binding? (qualifier.getD "") = scope.uri? qualifier := by
  cases qualifier with
  | none => rfl
  | some qualifier =>
      rw [Option.getD_some, binding?, uri?]
      by_cases same : qualifier = xmlQualifier
      · simp [same]
      · obtain ⟨uri, found⟩ : ∃ uri, scope.lookup (some qualifier) = some uri := by
          simpa [binds, same, Option.isSome_iff_exists] using bound
        obtain ⟨filled, stands⟩ := regular.ne_empty (mem_of_lookup_eq found)
        simp [same, filled, found, uriOf, stands]

theorem IsRegular.binding?_of_mem (regular : scope.IsRegular) {qualifier uri : String}
    (member : (some qualifier, uri) ∈ scope)
    : scope.binding? qualifier = some uri := by
  rw [binding?]
  split
  case isTrue same =>
      subst same
      rw [regular.xml member]
  case isFalse =>
      rw [if_neg (regular.ne_empty member).1, lookup_eq_of_mem regular.distinct member]

/-- The namespace of an attribute has a qualifier, since the default one is not for attributes. -/
theorem attributeName_uri {name : SpelledName} {uri : String}
    (names : (scope.attributeName name).uri = some uri)
    : uri = xmlUri ∨ ∃ qualifier, (some qualifier, uri) ∈ scope := by
  obtain ⟨qualifier, localPart⟩ := name
  cases qualifier with
  | none => cases names
  | some qualifier =>
      have names : scope.uri? (some qualifier) = some uri := names
      rw [uri?] at names
      split at names
      case isTrue => exact .inl (Option.some.inj names).symm
      case isFalse =>
          obtain ⟨other, found, stands⟩ := Option.bind_eq_some_iff.mp names
          obtain rfl : other = uri := by
            rw [uriOf] at stands
            split at stands
            · cases stands
            · exact Option.some.inj stands
          exact .inr ⟨qualifier, mem_of_lookup_eq found⟩

/-- Whatever qualifier an attribute is given for its namespace, it stands for that. -/
theorem IsRegular.binding?_toAttribute (regular : scope.IsRegular) (it : WrittenAttribute)
    {uri : String} (names : (it.toAttribute scope).name.uri = some uri)
    : ∃ qualifier, (it.toAttribute scope).qualifier = some qualifier
      ∧ scope.binding? qualifier = some uri := by
  have names : (scope.attributeName it.name).uri = some uri := names
  have same : (it.toAttribute scope).qualifier
      = (scope.qualifierOf? uri).or (if uri = xmlUri then some xmlQualifier else none) := by
    rw [WrittenAttribute.toAttribute]
    dsimp only
    rw [names]
  rw [same, qualifierOf?]
  cases found : scope.find? fun entry => entry.1.isSome && entry.2 == uri with
  | some entry =>
      obtain ⟨qualifier, other⟩ := entry
      have member := List.mem_of_find?_eq_some found
      have meant := List.find?_some found
      obtain ⟨qualifier, rfl⟩ : ∃ it, qualifier = some it := by
        simpa [Option.isSome_iff_exists] using (Bool.and_eq_true_iff.mp meant).1
      obtain rfl : other = uri := eq_of_beq (Bool.and_eq_true_iff.mp meant).2
      exact ⟨qualifier, rfl, regular.binding?_of_mem member⟩
  | none =>
      -- Only the namespace of xml needs no entry that stands for it.
      rcases attributeName_uri names with rfl | ⟨qualifier, member⟩
      · exact ⟨xmlQualifier, rfl, rfl⟩
      · simpa using List.find?_eq_none.mp found _ member

-----------------------------------------------------------------------------------------
-- Declarations
-----------------------------------------------------------------------------------------

/-- How a qualifier, which is empty for the default namespace, is looked up in a scope. -/
def key (qualifier : String) : Option String :=
  if qualifier = "" then none else some qualifier

theorem key_eq_iff {qualifier : String} {it : Option String} (named : it ≠ some "")
    : key qualifier = it ↔ qualifier = it.getD "" := by
  rw [key]
  cases it with
  | none => split <;> simp_all
  | some other =>
      have other_ne : other ≠ "" := fun same => named (same ▸ rfl)
      split <;> simp_all [Ne.symm]

/-- Entries with an empty qualifier for the default namespace find what a scope finds. -/
theorem lookup_map_getD (named : some "" ∉ scope.map Prod.fst) (qualifier : String)
    : (scope.map fun entry => (entry.1.getD "", entry.2)).lookup qualifier
      = scope.lookup (key qualifier) := by
  induction scope with
  | nil => rfl
  | cons first rest ih =>
      obtain ⟨here, later⟩ := not_or.mp (List.mem_cons.not.mp named)
      rw [List.map_cons, lookup_cons_eq_ite, lookup_cons_eq_ite, ih later]
      simp only [beq_iff_eq, key_eq_iff (Ne.symm here)]

/-- Declarations that amount to a scope, up to `xml`, which needs no declaration. An empty default
namespace still is an entry of both.
-/
def AmountsTo (declared : List (String × String)) (scope : Scope) : Prop :=
  ∀ qualifier, declared.lookup qualifier
    = if qualifier = xmlQualifier then some xmlUri else scope.lookup (key qualifier)

theorem IsRegular.named (regular : scope.IsRegular) : some "" ∉ scope.map Prod.fst := by
  intro member
  obtain ⟨⟨_, uri⟩, inside, rfl⟩ := List.mem_map.mp member
  exact (regular.ne_empty inside).1 rfl

theorem amountsTo_declaredBy_nil : AmountsTo (declaredBy []) [] := by
  intro qualifier
  rw [declaredBy, List.foldl_nil, lookup_cons_eq_ite]
  simp

/-- What differs from an outer scope is what has to be declared inside it. -/
theorem AmountsTo.assignAll_changes (amounts : AmountsTo declared outer)
    (regular : scope.IsRegular)
    (inherits : ∀ qualifier, scope.lookup qualifier = none → outer.lookup qualifier = none)
    : AmountsTo (assignAll declared (scope.changes outer)) scope := by
  let changed := scope.filter fun entry => outer.lookup entry.1 != some entry.2
  have keys : (changed.map Prod.fst).Sublist (scope.map Prod.fst) := List.filter_sublist.map _
  have named : some "" ∉ changed.map Prod.fst := fun member => regular.named (keys.subset member)
  -- No default namespace gets lost, so that none is declared as empty.
  have changes_eq
      : scope.changes outer = changed.map fun entry => (entry.1.getD "", entry.2) := by
    rw [changes, if_neg]
    cases found : scope.lookup none with
    | none => simp [inherits none found]
    | some uri => simp
  have distinct : ((scope.changes outer).map Prod.fst).Nodup := by
    have same : (scope.changes outer).map Prod.fst = (changed.map Prod.fst).map (·.getD "") := by
      rw [changes_eq, List.map_map, List.map_map]
      rfl
    rw [same]
    refine (regular.distinct.sublist keys).map_on fun it member other again same => ?_
    rw [← (key_eq_iff (fun same => named (same ▸ member))).mpr rfl, same]
    exact (key_eq_iff (fun same => named (same ▸ again))).mpr rfl
  intro qualifier
  rw [lookup_assignAll _ distinct, changes_eq, lookup_map_getD named, lookup_filter regular.distinct,
    amounts qualifier]
  cases found : scope.lookup (key qualifier) with
  | none => simp [inherits _ found]
  | some uri =>
      by_cases same : qualifier = xmlQualifier
      · subst same
        obtain rfl : uri = xmlUri := regular.xml (mem_of_lookup_eq found)
        rw [if_pos rfl, Option.filter_some]
        split <;> rfl
      · by_cases inForce : outer.lookup (key qualifier) = some uri
        · simp [same, inForce, Option.filter_some]
        · simp [same, inForce, Option.filter_some]

end Scope

end PathQuery.Xml
