import PathQuery.Evaluation
import PathQuery.Proofs.Outcome

/-! Arguments of functions have the types that signatures declare. So what a function does
with other arguments never matters: libraries that agree on fitting arguments give the same
values.
-/

namespace PathQuery

-----------------------------------------------------------------------------------------
-- Types
-----------------------------------------------------------------------------------------

@[simp] def Value.type : Value → ArgumentType
  | .nodes _ => .nodes
  | .string _ => .string
  | .number _ => .number
  | .boolean _ => .boolean

/-- A value has the type that is declared, if one is. -/
def Value.HasType (value : Value) (declared : Option ArgumentType) : Prop :=
  ∀ type ∈ declared, value.type = type

/-- Arguments as a signature declares them: as many as it accepts, each of its type. -/
def Signature.Fits (signature : Signature) (arguments : List Value) : Prop :=
  signature.arity.accepts arguments.length
  ∧ ∀ (index : Nat) (value : Value), arguments[index]? = some value →
      value.HasType (signature.typeOf index)

/-- Each type of values other than node-sets can be converted to. -/
theorem exists_conversion (forest : Forest) {type : ArgumentType} (scalar : type ≠ .nodes)
    : ∃ convert, conversion? forest type.name = some convert
      ∧ ∀ value, (convert value).type = type := by
  cases type with
  | nodes => exact absurd rfl scalar
  | string | number | boolean => exact ⟨_, rfl, fun _ => rfl⟩

/-- An argument is a value as it is or no node-set, and has the type that is declared. Only
a missing node-set is refused.
-/
theorem Value.asArgument_meets (forest : Forest) (name : String) (index : Nat) (value : Value)
    (declared : Option ArgumentType)
    : Meets (fun fault => ∃ wanted, fault = .noNodes wanted)
        (fun converted =>
          (converted = value ∨ converted.type ≠ .nodes) ∧ converted.HasType declared)
        (value.asArgument forest name index declared) := by
  have converts {type : ArgumentType} (scalar : type ≠ .nodes)
      : Meets (fun fault => ∃ wanted, fault = .noNodes wanted)
          (fun converted =>
            (converted = value ∨ converted.type ≠ .nodes) ∧ converted.HasType (some type))
          (Table.conversions.expect type.name (conversion? forest type.name) >>= fun convert =>
            Except.ok (convert value)) := by
    obtain ⟨convert, found, typed⟩ := exists_conversion forest scalar
    rw [found]
    refine ⟨.inr (typed value ▸ scalar), ?_⟩
    rintro _ ⟨⟩
    exact typed value
  cases declared with
  | none => exact ⟨.inl rfl, by simp [HasType]⟩
  | some type =>
      cases type with
      | nodes =>
          cases value with
          | nodes set =>
              refine ⟨.inl rfl, ?_⟩
              rintro _ ⟨⟩
              rfl
          | string | number | boolean => exact ⟨_, rfl⟩
      | string | number | boolean => exact converts (by simp)

-----------------------------------------------------------------------------------------
-- Arguments
-----------------------------------------------------------------------------------------

/-- The arguments of a call are as many as are written and have the types of their places. -/
theorem Expr.type_of_arguments {library : Library} {context : Context} {start : List Node}
    {name : String} {signature : Signature} {list : List Expr} {index : Nat} {values : List Value}
    (read : Expr.arguments library context start name signature index list = .ok values)
    : values.length = list.length
      ∧ ∀ (offset : Nat) (value : Value), values[offset]? = some value →
        value.HasType (signature.typeOf (index + offset)) := by
  induction list generalizing index values with
  | nil =>
      cases read
      exact ⟨rfl, by simp⟩
  | cons argument rest ih =>
      rw [Expr.arguments] at read
      obtain ⟨value, -, read⟩ := bind_eq_ok.mp read
      obtain ⟨converted, readConverted, read⟩ := bind_eq_ok.mp read
      obtain ⟨others, readOthers, read⟩ := bind_eq_ok.mp read
      cases read
      have typed := value.asArgument_meets context.forest name index (signature.typeOf index)
      rw [readConverted] at typed
      obtain ⟨length, types⟩ := ih readOthers
      refine ⟨by rw [List.length_cons, List.length_cons, length], ?_⟩
      intro offset value found
      cases offset with
      | zero =>
          cases found
          exact typed.2
      | succ offset =>
          have typed := types offset value found
          rwa [Nat.add_assoc, Nat.add_comm 1] at typed

/-- A function is found where a call is checked. -/
theorem Library.findFor_of_checkCall {library : Library} {name : String} {count : Nat}
    (accepted : checkCall library.arityOf name count = .ok ())
    : ∃ function, library.findFor name count = .ok function := by
  rw [checkCall, arityOf] at accepted
  rw [findFor]
  cases found : library.find? name with
  | none => simp [found] at accepted
  | some function =>
      rw [found] at accepted
      cases accepts : function.signature.arity.accepts count with
      | false => simp [accepts] at accepted
      | true => exact ⟨function, by simp [accepts]⟩

/-- A function that is found for a call is that of the name and accepts as many arguments. -/
theorem Library.of_findFor {library : Library} {name : String} {count : Nat} {function : Function}
    (found : library.findFor name count = .ok function)
    : library.find? name = some function ∧ function.signature.arity.accepts count := by
  rw [findFor] at found
  split at found
  case h_1 => cases found
  case h_2 =>
      split at found
      case isTrue accepts =>
          cases found
          exact ⟨‹_›, accepts⟩
      case isFalse => cases found

/-- The arguments of a call fit the signature of the function. -/
theorem Signature.fits_of_arguments {library : Library} {context : Context} {start : List Node}
    {name : String} {function : Function} {list : List Expr} {values : List Value}
    (found : library.findFor name list.length = .ok function)
    (read : Expr.arguments library context start name function.signature 0 list = .ok values)
    : function.signature.Fits values := by
  obtain ⟨length, types⟩ := Expr.type_of_arguments read
  refine ⟨length ▸ (Library.of_findFor found).2, fun index value inside => ?_⟩
  have typed := types index value inside
  rwa [Nat.zero_add] at typed

-----------------------------------------------------------------------------------------
-- Libraries that agree
-----------------------------------------------------------------------------------------

/-- Functions with one signature that do the same with arguments that fit it. -/
def Function.AgreesWith (function other : Function) : Prop :=
  function.signature = other.signature
  ∧ ∀ context arguments, function.signature.Fits arguments →
      function.run context arguments = other.run context arguments

/-- Libraries with functions of the same names, each of which agree. -/
def Library.AgreesWith (library other : Library) : Prop :=
  ∀ name, Option.Rel Function.AgreesWith (library.find? name) (other.find? name)

/-- Libraries that agree have functions for the same calls. -/
theorem Library.AgreesWith.findFor {library other : Library} (agrees : library.AgreesWith other)
    (name : String) (count : Nat)
    : (∃ fault, library.findFor name count = .error fault ∧ other.findFor name count = .error fault)
      ∨ ∃ function further, library.findFor name count = .ok function
        ∧ other.findFor name count = .ok further ∧ function.AgreesWith further := by
  have related := agrees name
  rw [Library.findFor, Library.findFor]
  cases found : library.find? name with
  | none =>
      rw [found] at related
      cases foundOther : other.find? name with
      | none => exact .inl ⟨_, rfl, rfl⟩
      | some further => simp [foundOther] at related
  | some function =>
      rw [found] at related
      cases foundOther : other.find? name with
      | none => simp [foundOther] at related
      | some further =>
          rw [foundOther, Option.rel_some_some] at related
          simp only [← related.1]
          split
          · exact .inr ⟨_, _, rfl, rfl, related⟩
          · exact .inl ⟨_, rfl, rfl⟩

mutual

/-- Libraries that agree give an expression the same value. -/
theorem Expr.evaluate_agrees {library other : Library} (agrees : library.AgreesWith other)
    (context : Context) (start : List Node) (expression : Expr)
    : expression.evaluate library context start = expression.evaluate other context start := by
  cases expression with
  | path absolute steps => simp only [Expr.evaluate, Step.follow_agrees agrees context steps]
  | binary operator left right =>
      simp only [Expr.evaluate, left.evaluate_agrees agrees, right.evaluate_agrees agrees]
  | negate operand => simp only [Expr.evaluate, operand.evaluate_agrees agrees]
  | number | string | reference => simp only [Expr.evaluate]
  | call name list =>
      simp only [Expr.evaluate]
      rcases agrees.findFor name list.length with
        ⟨fault, missing, missingOther⟩ | ⟨function, further, found, foundOther, same, runs⟩
      · rw [missing, missingOther]
      · simp only [found, foundOther, ← same,
          Expr.arguments_agrees agrees context start name function.signature 0 list]
        cases read : Expr.arguments other context start name function.signature 0 list with
        | error fault => rfl
        | ok values =>
            have fits := Signature.fits_of_arguments foundOther (same ▸ read)
            show function.call context values = further.call context values
            rw [Function.call, Function.call, runs context values (same ▸ fits)]
  | union left right =>
      simp only [Expr.evaluate, left.evaluate_agrees agrees, right.evaluate_agrees agrees]
  | filter primary predicates =>
      simp only [Expr.evaluate, primary.evaluate_agrees agrees,
        Expr.restrict_agrees agrees context predicates]
  | continued first steps =>
      simp only [Expr.evaluate, first.evaluate_agrees agrees,
        Step.follow_agrees agrees context steps]
termination_by sizeOf expression

theorem Expr.arguments_agrees {library other : Library} (agrees : library.AgreesWith other)
    (context : Context) (start : List Node) (name : String) (signature : Signature) (index : Nat)
    (list : List Expr)
    : Expr.arguments library context start name signature index list
      = Expr.arguments other context start name signature index list := by
  cases list with
  | nil => simp only [Expr.arguments]
  | cons argument rest =>
      simp only [Expr.arguments, argument.evaluate_agrees agrees,
        Expr.arguments_agrees agrees context start name signature (index + 1) rest]
termination_by sizeOf list

theorem Expr.restrict_agrees {library other : Library} (agrees : library.AgreesWith other)
    (context : Context) (predicates : List Expr) (nodes : List Node)
    : Expr.restrict library context predicates nodes
      = Expr.restrict other context predicates nodes := by
  cases predicates with
  | nil => simp only [Expr.restrict]
  | cons predicate rest =>
      simp only [Expr.restrict, predicate.evaluate_agrees agrees,
        Expr.restrict_agrees agrees context rest]
termination_by sizeOf predicates

theorem Step.take_agrees {library other : Library} (agrees : library.AgreesWith other)
    (context : Context) (step : Step) (nodes : List Node)
    : step.take library context nodes = step.take other context nodes := by
  cases step with
  | mk axis test predicates =>
      simp only [Step.take, Expr.restrict_agrees agrees context predicates]
termination_by sizeOf step

theorem Step.follow_agrees {library other : Library} (agrees : library.AgreesWith other)
    (context : Context) (steps : List Step) (nodes : List Node)
    : Step.follow library context steps nodes = Step.follow other context steps nodes := by
  cases steps with
  | nil => simp only [Step.follow]
  | cons step rest =>
      simp only [Step.follow, step.take_agrees agrees, Step.follow_agrees agrees context rest]
termination_by sizeOf steps

end

end PathQuery
