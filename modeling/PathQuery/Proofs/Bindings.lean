import PathQuery.Bindings
import PathQuery.Proofs.Tree.Scope

/-! What comes of the declarations of a mapping. They are refused for both keys of the default
namespace together, else for the first entry that is refused by itself. Otherwise each key is bound
to its value, and `xml` to its own namespace in any case.
-/

namespace PathQuery.Bindings

variable {bindings result : Bindings} {key : Option String} {datum : Datum} {fault : BindingsFault}
  {declarations : List (Option String × Datum)} {qualifier : String}

-----------------------------------------------------------------------------------------
-- Single entries
-----------------------------------------------------------------------------------------

/-- A key is not reserved. -/
def IsFree (key : Option String) : Prop :=
  key ≠ some xmlQualifier ∧ key ≠ some "xmlns"

/-- An entry is refused: a reserved key for another value than the one that is fixed for it, and a
free key for what is no text.
-/
inductive Refused : Option String × Datum → BindingsFault → Prop
  | xml {datum : Datum} (differs : datum ≠ .text xmlUri)
    : Refused (some xmlQualifier, datum) (.reserved xmlQualifier)
  | xmlns {datum : Datum} (given : datum ≠ .null)
    : Refused (some "xmlns", datum) (.reserved "xmlns")
  | noText {key : Option String} {datum : Datum} (free : IsFree key)
    (other : ∀ uri, datum ≠ .text uri)
    : Refused (key, datum) (.noText key)

/-- The binding that an entry makes: a free one that is a text makes one. -/
def made? : Option String × Datum → Option (String × String)
  | (key, .text uri) =>
      if key = some xmlQualifier ∨ key = some "xmlns" then none
      else some (key.getD defaultKey, uri)
  | _ => none

theorem made?_eq_some_iff {made : String × String}
    : made? (key, datum) = some made
      ↔ IsFree key ∧ datum = .text made.2 ∧ key.getD defaultKey = made.1 := by
  obtain ⟨qualifier, uri⟩ := made
  cases datum with
  | text other =>
      simp only [made?, Option.ite_none_left_eq_some, not_or, Option.some.injEq, Prod.mk.injEq,
        Datum.text.injEq, IsFree]
      exact and_congr_right fun _ => And.comm
  | _ => simp [made?]

theorem not_refused_iff
    : (∀ fault, ¬ Refused (key, datum) fault)
      ↔ (key = some "xmlns" → datum = .null) ∧ (key = some xmlQualifier → datum = .text xmlUri)
        ∧ (key ≠ some "xmlns" → ∃ uri, datum = .text uri) := by
  constructor
  · intro accepted
    have xmlns (same : key = some "xmlns") : datum = .null := by
      subst same
      exact not_not.mp fun given => accepted _ (.xmlns given)
    have xml (same : key = some xmlQualifier) : datum = .text xmlUri := by
      subst same
      exact not_not.mp fun differs => accepted _ (.xml differs)
    refine ⟨xmlns, xml, fun differs => ?_⟩
    by_cases same : key = some xmlQualifier
    · exact ⟨_, xml same⟩
    · by_contra! other
      exact accepted _ (.noText ⟨same, differs⟩ other)
  · rintro ⟨xmlns, xml, text⟩ fault refused
    cases refused with
    | xml differs => exact differs (xml rfl)
    | xmlns given => exact given (xmlns rfl)
    | noText free other =>
        obtain ⟨uri, same⟩ := text free.2
        exact other uri same

theorem repeats_text_iff {content : String}
    : repeats (.text content) datum ↔ datum = .text content := by
  cases datum with
  | text other => rw [repeats, beq_iff_eq, Datum.text.injEq, eq_comm]
  | _ => exact iff_of_false Bool.false_ne_true (by rintro ⟨⟩)

theorem repeats_null_iff : repeats .null datum ↔ datum = .null := by
  cases datum <;> simp [repeats]

/-- What an entry comes to: it is refused, or it adds the binding that it makes, if any. -/
theorem declare_cases (bindings : Bindings) (key : Option String) (datum : Datum)
    : (∃ fault, Refused (key, datum) fault ∧ bindings.declare key datum = .error fault)
      ∨ (∀ fault, ¬ Refused (key, datum) fault)
        ∧ bindings.declare key datum
          = .ok ⟨assignAll bindings.entries (made? (key, datum)).toList⟩ := by
  by_cases xml : key = some xmlQualifier
  · subst xml
    have step : bindings.declare (some xmlQualifier) datum
        = if repeats (.text xmlUri) datum then .ok bindings
          else .error (.reserved xmlQualifier) := rfl
    rw [step]
    split
    case isFalse differs =>
        rw [repeats_text_iff] at differs
        exact .inl ⟨_, .xml differs, rfl⟩
    case isTrue same =>
        rw [repeats_text_iff] at same
        subst same
        refine .inr ⟨not_refused_iff.mpr ⟨by simp [xmlQualifier], fun _ => rfl, ?_⟩, rfl⟩
        exact fun _ => ⟨_, rfl⟩
  by_cases xmlns : key = some "xmlns"
  · subst xmlns
    have step : bindings.declare (some "xmlns") datum
        = if repeats .null datum then .ok bindings else .error (.reserved "xmlns") := rfl
    rw [step]
    split
    case isFalse given =>
        rw [repeats_null_iff] at given
        exact .inl ⟨_, .xmlns given, rfl⟩
    case isTrue same =>
        rw [repeats_null_iff] at same
        subst same
        exact .inr ⟨not_refused_iff.mpr ⟨fun _ => rfl, by simp [xmlQualifier], by simp⟩, rfl⟩
  · have unlisted : reserved.find? (fun entry => some entry.1 == key) = none := by
      simp [reserved, Ne.symm xml, Ne.symm xmlns]
    rw [declare.eq_def, unlisted]
    cases datum with
    | text uri =>
        refine .inr ⟨not_refused_iff.mpr ?_, ?_⟩
        · exact ⟨fun same => absurd same xmlns, fun same => absurd same xml, fun _ => ⟨uri, rfl⟩⟩
        · rw [made?, if_neg (by simp [xml, xmlns])]
          rfl
    | _ => exact .inl ⟨_, .noText ⟨xml, xmlns⟩ (by simp), rfl⟩

-----------------------------------------------------------------------------------------
-- All entries
-----------------------------------------------------------------------------------------

/-- The entries are refused for the first one that is, which all those before are not. -/
def FirstRefused (declarations : List (Option String × Datum)) (fault : BindingsFault) : Prop :=
  ∃ before entry after, declarations = before ++ entry :: after
    ∧ (∀ earlier ∈ before, ∀ other, ¬ Refused earlier other) ∧ Refused entry fault

theorem firstRefused_cons_of_refused {entry : Option String × Datum} (refused : Refused entry fault)
    (rest : List (Option String × Datum))
    : FirstRefused (entry :: rest) fault :=
  ⟨[], entry, rest, rfl, by simp, refused⟩

theorem firstRefused_cons_of_not_refused {entry : Option String × Datum}
    (accepted : ∀ other, ¬ Refused entry other) (later : FirstRefused declarations fault)
    : FirstRefused (entry :: declarations) fault := by
  obtain ⟨before, refused, after, rfl, earlier, here⟩ := later
  exact ⟨entry :: before, refused, after, rfl, List.forall_mem_cons.mpr ⟨accepted, earlier⟩, here⟩

/-- What entries come to one after the other, by induction on them. -/
theorem declareAll_cases (bindings : Bindings) (declarations : List (Option String × Datum))
    : (∃ fault, FirstRefused declarations fault
        ∧ bindings.declareAll declarations = .error fault)
      ∨ (∀ entry ∈ declarations, ∀ fault, ¬ Refused entry fault)
        ∧ bindings.declareAll declarations
          = .ok ⟨assignAll bindings.entries (declarations.filterMap made?)⟩ := by
  induction declarations generalizing bindings with
  | nil => exact .inr ⟨by simp, rfl⟩
  | cons entry rest ih =>
      obtain ⟨key, datum⟩ := entry
      rw [declareAll]
      rcases bindings.declare_cases key datum with ⟨fault, refused, fails⟩ | ⟨accepted, adds⟩
      · exact .inl ⟨fault, firstRefused_cons_of_refused refused rest, by rw [fails]; rfl⟩
      · rw [adds]
        rcases ih ⟨_⟩ with ⟨fault, later, fails⟩ | ⟨others, binds⟩
        · exact .inl ⟨fault, firstRefused_cons_of_not_refused accepted later, fails⟩
        · refine .inr ⟨List.forall_mem_cons.mpr ⟨accepted, others⟩, binds.trans ?_⟩
          rw [List.filterMap_cons, assignAll, assignAll, assignAll, ← List.foldl_append]
          cases made? (key, datum) <;> rfl

-----------------------------------------------------------------------------------------
-- Mappings
-----------------------------------------------------------------------------------------

/-- Both keys of the default namespace are among the declarations. -/
def IsRedundant (declarations : List (Option String × Datum)) : Prop :=
  none ∈ declarations.map Prod.fst ∧ some defaultKey ∈ declarations.map Prod.fst

theorem isRedundant_iff
    : (declarations.any (·.1 == none) && declarations.any (·.1 == some defaultKey)) = true
      ↔ IsRedundant declarations := by
  simp [IsRedundant]

theorem mem_made_iff {made : String × String}
    : made ∈ declarations.filterMap made?
      ↔ ∃ key, IsFree key ∧ (key, .text made.2) ∈ declarations ∧ key.getD defaultKey = made.1 := by
  rw [List.mem_filterMap]
  constructor
  · rintro ⟨⟨key, datum⟩, member, makes⟩
    obtain ⟨free, rfl, same⟩ := made?_eq_some_iff.mp makes
    exact ⟨key, free, member, same⟩
  · rintro ⟨key, free, member, same⟩
    exact ⟨(key, .text made.2), member, made?_eq_some_iff.mpr ⟨free, rfl, same⟩⟩

theorem map_fst_made_sublist (declarations : List (Option String × Datum))
    : ((declarations.filterMap made?).map Prod.fst).Sublist
        ((declarations.map Prod.fst).map (·.getD defaultKey)) := by
  induction declarations with
  | nil => exact .slnil
  | cons entry rest ih =>
      rw [List.filterMap_cons]
      cases makes : made? entry with
      | none => exact ih.cons _
      | some made =>
          obtain ⟨-, -, same⟩ := made?_eq_some_iff.mp makes
          rw [List.map_cons, List.map_cons, List.map_cons, same]
          exact ih.cons_cons _

/-- Different keys make bindings of different qualifiers, unless both are for the default
namespace.
-/
theorem nodup_made (distinct : (declarations.map Prod.fst).Nodup)
    (single : ¬ IsRedundant declarations)
    : ((declarations.filterMap made?).map Prod.fst).Nodup := by
  refine (distinct.map_on fun key member other also same => ?_).sublist
    (map_fst_made_sublist declarations)
  cases key with
  | none =>
      cases other with
      | none => rfl
      | some other =>
          obtain rfl : defaultKey = other := same
          exact absurd ⟨member, also⟩ single
  | some key =>
      cases other with
      | some other => exact congrArg some same
      | none =>
          obtain rfl : key = defaultKey := same
          exact absurd ⟨also, member⟩ single

theorem get?_eq_lookup (bindings : Bindings) (qualifier : String)
    : bindings.get? qualifier = bindings.entries.lookup qualifier :=
  map_find?_eq_lookup bindings.entries qualifier

theorem contains_iff : bindings.contains qualifier ↔ qualifier ∈ bindings.entries.map Prod.fst := by
  simp [contains]

/-- Whatever is declared, `xml` is bound. -/
theorem contains_xml (binds : ofDeclarations? declarations = .ok bindings)
    : bindings.contains xmlQualifier := by
  rw [ofDeclarations?] at binds
  split at binds
  case isTrue => cases binds
  case isFalse =>
      rcases initial.declareAll_cases declarations with ⟨fault, -, fails⟩ | ⟨-, succeeds⟩
      · rw [fails] at binds
        cases binds
      · rw [succeeds] at binds
        cases binds
        have member : xmlQualifier ∈ initial.entries.map Prod.fst := List.mem_singleton_self _
        exact contains_iff.mpr (mem_map_fst_assignAll member _)

theorem get?_eq_none_of_not_contains (absent : ¬ bindings.contains qualifier)
    : bindings.get? qualifier = none := by
  rw [get?_eq_lookup]
  exact lookup_eq_none_of_not_mem (absent ∘ contains_iff.mpr)

/-- What is bound after declarations of which none was refused. -/
theorem get?_made_iff (distinct : (declarations.map Prod.fst).Nodup)
    (single : ¬ IsRedundant declarations)
    (accepted : ∀ entry ∈ declarations, ∀ fault, ¬ Refused entry fault) (qualifier uri : String)
    : (Bindings.mk (assignAll initial.entries (declarations.filterMap made?))).get? qualifier
          = some uri
        ↔ qualifier = xmlQualifier ∧ uri = xmlUri
          ∨ ∃ key, (key, .text uri) ∈ declarations ∧ key.getD defaultKey = qualifier := by
  have made_distinct := nodup_made distinct single
  have first {uri : String} (made : (declarations.filterMap made?).lookup qualifier = some uri)
      : ∃ key, IsFree key ∧ (key, .text uri) ∈ declarations ∧ key.getD defaultKey = qualifier :=
    mem_made_iff.mp (mem_of_lookup_eq made)
  have xml {uri : String} : initial.entries.lookup qualifier = some uri
      ↔ qualifier = xmlQualifier ∧ uri = xmlUri := by
    rw [initial, lookup_cons_eq_ite, List.lookup_nil, Option.ite_none_right_eq_some, beq_iff_eq,
      Option.some.injEq]
    exact and_congr_right fun _ => eq_comm
  have unmade (same : qualifier = xmlQualifier)
      : (declarations.filterMap made?).lookup qualifier = none := by
    rw [Option.eq_none_iff_forall_ne_some]
    intro uri made
    obtain ⟨key, free, -, sameKey⟩ := first made
    cases key with
    | none => exact absurd (sameKey.trans same) (by simp [defaultKey, xmlQualifier])
    | some key => exact free.1 (congrArg some (sameKey.trans same))
  rw [get?_eq_lookup, lookup_assignAll _ made_distinct, Option.or_eq_some_iff, xml]
  constructor
  · rintro (made | ⟨-, same⟩)
    · obtain ⟨key, -, member, same⟩ := first made
      exact .inr ⟨key, member, same⟩
    · exact .inl same
  · rintro (⟨same, isXml⟩ | ⟨key, member, same⟩)
    · exact .inr ⟨unmade same, same, isXml⟩
    · obtain ⟨xmlns, fixed, -⟩ := not_refused_iff.mp (accepted _ member)
      by_cases isXml : key = some xmlQualifier
      · subst isXml
        obtain rfl : xmlQualifier = qualifier := same
        exact .inr ⟨unmade rfl, rfl, Datum.text.inj (fixed rfl)⟩
      · have free : IsFree key := ⟨isXml, fun same => by cases xmlns same⟩
        exact .inl (lookup_eq_of_mem made_distinct (mem_made_iff.mpr ⟨key, free, member, same⟩))

/-- The declarations of a mapping bind something unless they have both keys of the default
namespace, `xmlns` with a value other than nothing, `xml` with another one than its namespace, or
what is no text for any key but `xmlns`. Then `xml` is bound to its namespace, each key to its
value and nothing else. Otherwise redundant keys are the fault, or else the first entry that is
refused.
-/
theorem ofDeclarations?_binds (distinct : (declarations.map Prod.fst).Nodup)
    : ((∃ bindings, ofDeclarations? declarations = .ok bindings)
        ↔ ¬ IsRedundant declarations ∧ ∀ key datum, (key, datum) ∈ declarations →
          (key = some "xmlns" → datum = .null) ∧ (key = some xmlQualifier → datum = .text xmlUri)
            ∧ (key ≠ some "xmlns" → ∃ uri, datum = .text uri))
      ∧ (∀ bindings, ofDeclarations? declarations = .ok bindings →
          (bindings.entries.map Prod.fst).Nodup ∧ ∀ qualifier uri,
            bindings.get? qualifier = some uri ↔ qualifier = xmlQualifier ∧ uri = xmlUri
              ∨ ∃ key, (key, .text uri) ∈ declarations ∧ key.getD defaultKey = qualifier)
      ∧ ∀ fault, ofDeclarations? declarations = .error fault →
          IsRedundant declarations ∧ fault = .redundantDefault
          ∨ ¬ IsRedundant declarations ∧ FirstRefused declarations fault := by
  simp only [← not_refused_iff]
  rw [ofDeclarations?]
  by_cases redundant : IsRedundant declarations
  · rw [if_pos (isRedundant_iff.mpr redundant)]
    refine ⟨iff_of_false (by simp) fun ⟨single, _⟩ => single redundant, by simp, ?_⟩
    rintro fault ⟨⟩
    exact .inl ⟨redundant, rfl⟩
  · rw [if_neg (redundant ∘ isRedundant_iff.mp)]
    rcases initial.declareAll_cases declarations with ⟨fault, first, fails⟩ | ⟨accepted, binds⟩
    · rw [fails]
      refine ⟨iff_of_false (by simp) fun ⟨_, accepted⟩ => ?_, by simp, ?_⟩
      · obtain ⟨before, ⟨key, datum⟩, after, rfl, -, refused⟩ := first
        exact accepted key datum (by simp) fault refused
      · rintro _ ⟨⟩
        exact .inr ⟨redundant, first⟩
    · rw [binds]
      refine ⟨iff_of_true ⟨_, rfl⟩ ⟨redundant, fun _ _ => accepted _⟩, ?_, by simp⟩
      rintro _ ⟨⟩
      have single : (initial.entries.map Prod.fst).Nodup := List.nodup_singleton xmlQualifier
      exact ⟨nodup_assignAll single _, get?_made_iff distinct redundant accepted⟩

/-- The default namespace under its other key, `xmlns` with nothing and `xml` with its namespace. -/
theorem ofDeclarations?_binds_default
    : let declarations : List (Option String × Datum) :=
        [(none, .text "u"), (some "xmlns", .null), (some "p", .text "v"),
          (some "xml", .text xmlUri)]
      (declarations.map Prod.fst).Nodup ∧ ∃ bindings, ofDeclarations? declarations = .ok bindings
        ∧ bindings.get? defaultKey = some "u" := by
  intro declarations
  have distinct : (declarations.map Prod.fst).Nodup := by decide
  obtain ⟨-, binds, -⟩ := ofDeclarations?_binds distinct
  refine ⟨distinct, _, rfl, ?_⟩
  exact ((binds _ rfl).2 _ _).mpr (.inr ⟨none, by simp [declarations], rfl⟩)

/-- A mapping with `xmlns` as a key is not refused if the value is nothing. -/
theorem ofDeclarations?_reservedNull
    : some "xmlns" ∈ [((some "xmlns" : Option String), Datum.null)].map Prod.fst
      ∧ ofDeclarations? [(some "xmlns", .null)] = .ok initial :=
  ⟨by simp, rfl⟩

end PathQuery.Bindings
