import PathQuery.Proofs.Evaluation.Correspondence
import PathQuery.Proofs.Function.Core

/-! The core functions respect correspondences of evaluations. Those of them that return no
node-sets return the same value; the one that selects elements by their identifiers selects
paired ones.
-/

namespace PathQuery

variable {Paired : Node → Node → Prop} {context other : Context}

/-- Related values without node-sets are the same. -/
theorem Value.Related.eq_of_scalars {arguments others : List Value}
    (related : List.Forall₂ (Value.Related Paired) arguments others)
    (scalars : ∀ value ∈ arguments, value.type ≠ .nodes)
    : arguments = others := by
  induction related with
  | nil => rfl
  | cons first _ ih =>
      obtain ⟨noNodes, scalars⟩ := List.forall_mem_cons.mp scalars
      cases first with
      | nodes => exact absurd rfl noNodes
      | scalar => rw [ih scalars]

namespace Core

open Signature

theorem text_eq (parallel : context.Parallel Paired other)
    (focused : context.FocusedAlike Paired other)
    : context.text = other.text :=
  parallel.correspondence.stringValue_eq _ _ focused.node

/-- A function without node-sets respects correspondences if it returns the same for related
arguments.
-/
theorem respects_of_eq {signature : Signature} {run : Context → List Value → Except Fault Value}
    (scalar : IsScalar signature run)
    (same : ∀ (Paired : Node → Node → Prop) (context other : Context) (arguments others : List Value),
      context.Parallel Paired other → context.FocusedAlike Paired other →
      signature.Fits arguments → List.Forall₂ (Value.Related Paired) arguments others →
      run context arguments = run other others)
    : (Function.ofValue signature run).Respects := by
  intro Paired context other arguments others parallel focused fits related
  obtain ⟨value, returned, noNodes⟩ := scalar context arguments fits
  rw [Function.call_ofValue, Function.call_ofValue,
    ← same Paired context other arguments others parallel focused fits related, returned]
  exact .scalar noNodes

/-- Arguments of types other than node-sets are no node-sets. -/
theorem scalars_of_forall₂ {arguments : List Value} {types : List (Option ArgumentType)}
    (typed : List.Forall₂ Value.HasType arguments types)
    (scalars : ∀ declared ∈ types, ∃ type ∈ declared, type ≠ .nodes)
    : ∀ value ∈ arguments, value.type ≠ .nodes := by
  induction typed with
  | nil => simp
  | cons first _ ih =>
      obtain ⟨⟨type, declared, scalar⟩, scalars⟩ := List.forall_mem_cons.mp scalars
      exact List.forall_mem_cons.mpr ⟨first type declared ▸ scalar, ih scalars⟩

/-- A function of scalars that depends on nothing of the context that differs. -/
theorem respects_of_scalars {signature : Signature}
    {run : Context → List Value → Except Fault Value} (scalar : IsScalar signature run)
    (scalars : ∀ arguments, signature.Fits arguments → ∀ value ∈ arguments, value.type ≠ .nodes)
    (same : ∀ (Paired : Node → Node → Prop) (context other : Context),
      context.Parallel Paired other → context.FocusedAlike Paired other → run context = run other)
    : (Function.ofValue signature run).Respects := by
  refine respects_of_eq scalar fun Paired context other arguments others parallel focused fits
    related => ?_
  rw [same Paired context other parallel focused,
    Value.Related.eq_of_scalars related (scalars arguments fits)]

theorem respects_required {types : List (Option ArgumentType)}
    {run : Context → List Value → Except Fault Value} (scalar : IsScalar (required types) run)
    (scalars : ∀ declared ∈ types, ∃ type ∈ declared, type ≠ .nodes)
    (same : ∀ (Paired : Node → Node → Prop) (context other : Context),
      context.Parallel Paired other → context.FocusedAlike Paired other → run context = run other)
    : (Function.ofValue (required types) run).Respects :=
  respects_of_scalars scalar (fun _ fits => scalars_of_forall₂ (fits_required fits) scalars) same

theorem respects_withOptional {types : List (Option ArgumentType)} {last : Option ArgumentType}
    {run : Context → List Value → Except Fault Value} (scalar : IsScalar (withOptional types last) run)
    (scalars : ∀ declared ∈ types ++ [last], ∃ type ∈ declared, type ≠ .nodes)
    (same : ∀ (Paired : Node → Node → Prop) (context other : Context),
      context.Parallel Paired other → context.FocusedAlike Paired other → run context = run other)
    : (Function.ofValue (withOptional types last) run).Respects := by
  refine respects_of_scalars scalar (fun arguments fits => ?_) same
  rcases fits_withOptional fits with typed | typed
  · exact scalars_of_forall₂ typed fun declared member =>
      scalars declared (List.mem_append_left _ member)
  · exact scalars_of_forall₂ typed scalars

theorem respects_concat
    : (Function.ofValue (withMore [some .string, some .string] (some .string)) concat).Respects := by
  refine respects_of_scalars isScalar_concat (fun arguments fits => ?_) fun _ _ _ _ _ => rfl
  intro value member
  obtain ⟨index, found⟩ := List.mem_iff_getElem?.mp member
  have declared := fits.2 index value found
  have typed : value.HasType (some .string) := by
    rcases index with _ | _ | index <;> exact declared
  exact typed _ rfl ▸ by simp

/-- A function of one value, which may be left out, respects correspondences if both its uses
do.
-/
theorem respects_ofAny {run : Context → List Value → Except Fault Value}
    (scalar : IsScalar (withOptional [] none) run)
    (left : ∀ (Paired : Node → Node → Prop) (context other : Context),
      context.Parallel Paired other → context.FocusedAlike Paired other →
      run context [] = run other [])
    (given : ∀ (Paired : Node → Node → Prop) (context other : Context) (value another : Value),
      context.Parallel Paired other → Value.Related Paired value another →
      run context [value] = run other [another])
    : (Function.ofValue (withOptional [] none) run).Respects := by
  refine respects_of_eq scalar fun Paired context other arguments others parallel focused fits
    related => ?_
  rcases fits_withOptional fits with (_ | _) | (_ | ⟨-, _ | _⟩)
  · cases related
    exact left Paired context other parallel focused
  · obtain _ | ⟨first, _ | _⟩ := related
    exact given Paired context other _ _ parallel first

/-- A function of a node-set respects correspondences if paired sets give the same. -/
theorem respects_ofNodes {run : Context → List Value → Except Fault Value}
    (scalar : IsScalar (required [some .nodes]) run)
    (given : ∀ (Paired : Node → Node → Prop) (context other : Context) (set others : NodeSet),
      context.Parallel Paired other → List.Forall₂ Paired set.items others.items →
      run context [.nodes set] = run other [.nodes others])
    : (Function.ofValue (required [some .nodes]) run).Respects := by
  refine respects_of_eq scalar fun Paired context other arguments others parallel focused fits
    related => ?_
  obtain _ | ⟨typed, _ | _⟩ := fits_required fits
  obtain ⟨set, rfl⟩ := typed.exists_nodes
  obtain _ | ⟨first, _ | _⟩ := related
  cases first with
  | nodes paired => exact given Paired context other _ _ parallel paired
  | scalar noNodes => exact absurd rfl noNodes

theorem respects_nameText (read : View → String)
    (roots : ∀ top content, read (.origin top) = read (.document content))
    : (Function.ofValue (withOptional [] (some .nodes)) (nameText read)).Respects := by
  refine respects_of_eq (isScalar_nameText read) fun Paired context other arguments others parallel
    focused fits related => ?_
  have same {node peer : Node} (paired : Paired node peer)
      : (context.forest.view? node).map read = (other.forest.view? peer).map read :=
    parallel.correspondence.read_eq paired fun top content _ => roots top content
  rcases fits_withOptional fits with (_ | _) | (_ | ⟨typed, _ | _⟩)
  · cases related
    rw [nameText, nameText, same focused.node]
  · obtain ⟨⟨items⟩, rfl⟩ := typed.exists_nodes
    obtain _ | ⟨first, _ | _⟩ := related
    cases first with
    | scalar noNodes => exact absurd rfl noNodes
    | @nodes _ others paired =>
        obtain ⟨peers⟩ := others
        cases paired with
        | nil => rfl
        | cons first _ =>
            simp only [nameText, firstView?, NodeSet.first?, List.head?_cons, Option.bind_some,
              same first]

/-- Functions of two texts respect correspondences. -/
theorem respects_onTwoTexts {f : String → String → Value}
    (scalar : ∀ left right, (f left right).type ≠ .nodes)
    : (Function.ofValue (required [some .string, some .string]) (onTwoTexts f)).Respects :=
  respects_required (isScalar_onTwoTexts scalar) (by simp) fun _ _ _ _ _ => rfl

/-- Functions of a text, or of that of the context node, respect correspondences. -/
theorem respects_onText {f : String → Value} (scalar : ∀ text, (f text).type ≠ .nodes)
    : (Function.ofValue (withOptional [] (some .string)) (onText f)).Respects := by
  refine respects_withOptional (isScalar_onText scalar) (by simp)
    fun Paired context other parallel focused => ?_
  unfold onText
  rw [text_eq parallel focused]

theorem respects_onNumber (f : Number → Number)
    : (Function.ofValue (required [some .number]) (onNumber f)).Respects :=
  respects_required (isScalar_onNumber f) (by simp) fun _ _ _ _ _ => rfl

theorem respects_constant {f : Context → Value} (scalar : ∀ context, (f context).type ≠ .nodes)
    (same : ∀ (Paired : Node → Node → Prop) (context other : Context),
      context.FocusedAlike Paired other → f context = f other)
    : (Function.ofValue (required []) (constant f)).Respects := by
  refine respects_required (isScalar_constant scalar) (by simp)
    fun Paired context other _ focused => ?_
  unfold constant
  rw [same Paired context other focused]

theorem respects_lang : (Function.ofValue (required [some .string]) lang).Respects := by
  refine respects_required isScalar_lang (by simp) fun Paired context other parallel focused => ?_
  unfold lang
  simp only [parallel.correspondence.findSome?_above declaredLanguage? focused.node]

theorem respects_string : (Function.ofValue (withOptional [] none) string).Respects := by
  refine respects_ofAny (isScalar_ofAny (fun _ => ⟨_, rfl, by simp⟩) fun _ _ => ⟨_, rfl, by simp⟩)
    (fun Paired context other parallel focused => ?_)
    fun Paired context other value another parallel related => ?_
  · rw [string, string, text_eq parallel focused]
  · rw [string, string, related.toText_eq parallel.correspondence]

theorem respects_boolean : (Function.ofValue (withOptional [] none) boolean).Respects := by
  refine respects_ofAny (isScalar_ofAny (fun _ => ⟨_, rfl, by simp⟩) fun _ _ => ⟨_, rfl, by simp⟩)
    (fun _ _ _ _ _ => rfl) fun Paired context other value another parallel related => ?_
  rw [boolean, boolean, related.toBoolean_eq]

theorem respects_number : (Function.ofValue (withOptional [] none) number).Respects := by
  refine respects_ofAny (isScalar_ofAny (fun _ => ⟨_, rfl, by simp⟩) fun _ _ => ⟨_, rfl, by simp⟩)
    (fun Paired context other parallel focused => ?_)
    fun Paired context other value another parallel related => ?_
  · have alone : Value.Related Paired (.nodes ⟨[context.node]⟩) (.nodes ⟨[other.node]⟩) :=
      .nodes (.cons focused.node .nil)
    rw [number, number, alone.toNumber_eq parallel.correspondence]
  · rw [number, number, related.toNumber_eq parallel.correspondence]

theorem respects_count : (Function.ofValue (required [some .nodes]) count).Respects := by
  refine respects_ofNodes (isScalar_ofNodes fun _ _ => ⟨_, rfl, by simp⟩)
    fun Paired context other set others parallel paired => ?_
  rw [count, count, NodeSet.size, NodeSet.size, paired.length_eq]

theorem respects_sum : (Function.ofValue (required [some .nodes]) sum).Respects := by
  refine respects_ofNodes (isScalar_ofNodes fun _ _ => ⟨_, rfl, by simp⟩)
    fun Paired context other set others parallel paired => ?_
  refine congrArg (fun it => Except.ok (Value.number it))
    (List.rel_foldl (P := Eq) (fun total also same node peer pair => ?_) rfl paired)
  rw [same, parallel.correspondence.stringValue_eq node peer pair]

theorem idWords_eq (parallel : context.Parallel Paired other) {value another : Value}
    (related : Value.Related Paired value another)
    : idWords context value = idWords other another := by
  cases related with
  | nodes paired =>
      rw [idWords, idWords, List.flatMap_def, List.flatMap_def]
      refine congrArg List.flatten (map_eq_of_forall₂ paired fun node peer also => ?_)
      rw [parallel.correspondence.stringValue_eq node peer also]
  | @scalar value noNodes =>
      cases value with
      | nodes => exact absurd rfl noNodes
      | string | number | boolean => rfl

/-- Paired elements are selected by their identifiers. -/
theorem respects_id : (Function.ofValue (required [none]) id).Respects := by
  intro Paired context other arguments others parallel focused fits related
  obtain _ | ⟨-, _ | _⟩ := fits_required fits
  obtain _ | ⟨first, _ | _⟩ := related
  rw [Function.call_ofValue, Function.call_ofValue, id, id]
  dsimp only
  rw [idWords_eq parallel first]
  split
  · exact .nodes .nil
  · have below := parallel.correspondence.descendants
      (parallel.correspondence.rootOf focused.node)
    refine .nodes (List.rel_filter (fun node peer also => ?_) below)
    simp only [isIdentifiedBy, parallel.correspondence.head?_eq node peer also]

end Core

open PathQuery.Core in
/-- All core functions respect correspondences. -/
theorem Library.respects_core : Library.core.Respects := by
  have all : ∀ entry ∈ Library.core.entries, entry.2.Respects := by
    simp only [Library.core, List.forall_mem_cons, List.not_mem_nil, false_implies, implies_true,
      and_true]
    exact ⟨respects_constant (by simp) fun _ _ _ focused => by rw [focused.size_eq],
      respects_constant (by simp) fun _ _ _ focused => by rw [focused.position_eq],
      respects_count, respects_id, respects_nameText _ fun _ _ => rfl,
      respects_nameText _ fun _ _ => rfl, respects_nameText _ fun _ _ => rfl, respects_string,
      respects_concat, respects_onTwoTexts (by simp), respects_onTwoTexts (by simp),
      respects_onTwoTexts (by simp), respects_onTwoTexts (by simp),
      respects_withOptional isScalar_substring (by simp) fun _ _ _ _ _ => rfl,
      respects_onText (by simp), respects_onText (by simp),
      respects_required isScalar_translate (by simp) fun _ _ _ _ _ => rfl, respects_boolean,
      respects_required isScalar_not (by simp) fun _ _ _ _ _ => rfl,
      respects_constant (by simp) fun _ _ _ _ => rfl,
      respects_constant (by simp) fun _ _ _ _ => rfl, respects_lang, respects_number,
      respects_sum, respects_onNumber _, respects_onNumber _, respects_onNumber _⟩
  exact fun name function found => all _ (Library.mem_of_find? found)

end PathQuery
