import ClassCompiler.Proofs.ClassShape
import ClassCompiler.Proofs.Places

/-! Type parameters of methods in the type tokens of the methods. What the name of one means there is
up to the scope alone, and so is whether it is a type variable. -/

namespace ClassCompiler
open Text

namespace Scope

variable {scope : Scope}

/-- The scope takes the name for a type variable: an alias stands for one, or there is no alias
and the name has the form of one. -/
def IsVariable (scope : Scope) (name : String) : Prop :=
  match scope.aliases.lookup name with
  | some target => ∃ bounds, target = .typeVariable name bounds
  | none => isVariableName name = true

theorem isVariable_iff {name : String} :
    scope.IsVariable name ↔ ∃ bounds, scope.simple name = .typeVariable name bounds := by
  unfold IsVariable simple
  cases scope.aliases.lookup name with
  | some target => rfl
  | none =>
    cases variable_name : isVariableName name with
    | true =>
      obtain ⟨letter, digits, spelled, upper⟩ : ∃ letter digits, name.toList = letter :: digits ∧
          letter.isUpper = true := by
        unfold isVariableName at variable_name
        split at variable_name
        next => cases variable_name
        next letter digits spelled =>
          exact ⟨letter, digits, spelled, (Bool.and_eq_true_iff.mp variable_name).1⟩
      have no_keyword := ofKeyword?_eq_none upper digits
      rw [← spelled, String.ofList_toList] at no_keyword
      simp [no_keyword]
    | false =>
      cases Primitive.ofKeyword? name with
      | some kind => simp
      | none => cases knownPackage? name <;> simp

end Scope

namespace Text

theorem plain_of_isIdentifier {name : String} (identifier : isIdentifier name = true) :
    '.' ∉ name.toList := by
  obtain ⟨first, rest, spelled, starts, continues, -⟩ := exists_of_isIdentifier identifier
  have outside : continuesIdentifier '.' = false := by decide +kernel
  rw [spelled]
  intro dot
  have inside : continuesIdentifier '.' = true := by
    rcases List.mem_cons.mp dot with rfl | behind
    · exact startsIdentifier.continues starts
    · exact continues _ behind
  rw [outside] at inside
  cases inside

end Text

inductive MethodModel.HasToken (model : MethodModel) : String → Prop
  | returnType : HasToken model model.returnType
  | parameter {parameter : ParameterModel} (member : parameter ∈ model.parameters) :
      HasToken model parameter.type
  | argument {token : String} (member : .type token ∈ model.bodyArguments) : HasToken model token

namespace Compiler

variable {compiler : Compiler}

theorem exists_typeName_of_mem {models : List ModelArgument} {arguments : List Argument}
    (resolved : compiler.arguments models = .ok arguments) {token : String}
    (member : .type token ∈ models) : ∃ type, compiler.typeName token = .ok type := by
  induction models generalizing arguments with
  | nil => cases member
  | cons model models ih =>
    obtain ⟨argument, first, rest⟩ := exists_of_bind_eq_ok resolved
    obtain ⟨more, later, -⟩ := exists_of_bind_eq_ok rest
    rcases List.mem_cons.mp member with rfl | behind
    · rw [Compiler.argument] at first
      cases read : compiler.typeName token with
      | ok type => exact ⟨type, rfl⟩
      | error error =>
        rw [read] at first
        cases first
    · exact ih later behind

theorem exists_typeName_of_hasToken {model : MethodModel} {method : MethodDef}
    (shape : MethodShape compiler model method) {token : String} (given : model.HasToken token) :
    ∃ type, compiler.typeName token = .ok type := by
  cases given with
  | returnType =>
    obtain ⟨type, read, -⟩ := shape.returnType
    exact ⟨type, read⟩
  | parameter member =>
    obtain ⟨parameter, -, shaped⟩ := (exists_mem_of_forall₂ shape.parameters).1 _ member
    exact ⟨parameter.type, shaped.type⟩
  | argument member =>
    obtain ⟨arguments, -, resolved, -⟩ := shape.body
    exact exists_typeName_of_mem resolved member

theorem stands_of_written {token : String} {type : TypeName}
    (read : compiler.typeName token = .ok type) {name : String}
    (identifier : isIdentifier name = true) {before after : List Symbol}
    (written : Symbol.Written token.toList (before ++ .name name :: after)) :
    compiler.scope.Stands before after type (compiler.scope.simple name) := by
  obtain ⟨symbols, spelled, denotes⟩ := Scope.typeName_eq_ok_iff.mp (exists_mapError_ok read)
  have scanned := Symbol.ofText_eq_ok_iff.mpr spelled
  rw [Symbol.ofText_eq_ok_iff.mpr written] at scanned
  obtain ⟨_, _, -, -, -, unreserved⟩ := exists_of_isIdentifier identifier
  have no_bound : name ≠ "extends" ∧ name ≠ "super" := by
    constructor <;> rintro rfl <;> exact unreserved (by decide)
  have parted := (Except.ok.inj scanned).symm
  obtain ⟨meaning, means, stands⟩ := Scope.exists_stands no_bound parted denotes
  rwa [means.eq_simple (plain_of_isIdentifier identifier)] at stands

/-- A method knows its type parameters, but its tokens do not: where the name of one stands, there
is what the scope says of it. So it is a type variable exactly if the scope takes it for one. -/
theorem type_parameters_mean_what_the_scope_says {model : MethodModel} {method : MethodDef}
    (accepted : compiler.method model = .ok method)
    (identifiers : ∀ name ∈ model.typeParameters, isIdentifier name = true) :
    MethodShape compiler model method ∧
    ∀ token, model.HasToken token → ∃ type, compiler.typeName token = .ok type ∧
      ∀ name ∈ model.typeParameters, ∀ before after,
        Symbol.Written token.toList (before ++ .name name :: after) →
          compiler.scope.Stands before after type (compiler.scope.simple name) ∧
          ((∃ bounds, compiler.scope.Stands before after type (.typeVariable name bounds)) ↔
            compiler.scope.IsVariable name) := by
  have shape := method_shape accepted
  refine ⟨shape, fun token given => ?_⟩
  obtain ⟨type, read⟩ := exists_typeName_of_hasToken shape given
  refine ⟨type, read, fun name member before after written => ?_⟩
  have stands := stands_of_written read (identifiers name member) written
  refine ⟨stands, ?_⟩
  rw [Scope.isVariable_iff]
  constructor
  · rintro ⟨bounds, variable_stands⟩
    exact ⟨bounds, stands.unique variable_stands⟩
  · rintro ⟨bounds, same⟩
    exact ⟨bounds, same ▸ stands⟩

def pickElement : MethodModel where
  name := "pick"
  returnType := "Element"
  typeParameters := ["Element", "T"]
  parameters := [{ name := "from", type := "Map<T, List<? extends T[]>>" }]
  body := "return ($T) null;\n"
  bodyArguments := [.type "Element"]

theorem pickElement_accepted :
    ∃ method, (forPackage "com.shop").method pickElement = .ok method := by
  have succeeds : ((forPackage "com.shop").method pickElement).isOk = true := by decide +kernel
  cases made : (forPackage "com.shop").method pickElement with
  | ok method => exact ⟨method, rfl⟩
  | error error =>
    rw [made] at succeeds
    cases succeeds

theorem bounds_are_variables :
    ∃ method, (forPackage "com.shop").method pickElement = .ok method ∧
      (∀ name ∈ pickElement.typeParameters, isIdentifier name = true) ∧
      ∃ type, (forPackage "com.shop").typeName "Map<T, List<? extends T[]>>" = .ok type ∧
        ∃ bounds, (forPackage "com.shop").scope.Stands
          [.name "Map", .less, .name "T", .comma, .name "List", .less, .question, .name "extends"]
          [.openBracket, .closeBracket, .greater, .greater] type (.typeVariable "T" bounds) := by
  obtain ⟨method, accepted⟩ := pickElement_accepted
  have identifiers : ∀ name ∈ pickElement.typeParameters, isIdentifier name = true := by
    decide +kernel
  obtain ⟨-, tokens⟩ := type_parameters_mean_what_the_scope_says accepted identifiers
  obtain ⟨type, read, places⟩ := tokens _ (.parameter (List.mem_singleton.mpr rfl))
  have symbols : Symbol.ofText "Map<T, List<? extends T[]>>" =
      .ok ([.name "Map", .less, .name "T", .comma, .name "List", .less, .question,
        .name "extends"] ++ .name "T" :: [.openBracket, .closeBracket, .greater, .greater]) := by
    decide +kernel
  obtain ⟨-, stands⟩ := places "T" (by decide) _ _ (Symbol.ofText_eq_ok_iff.mp symbols)
  have variable_name : (forPackage "com.shop").scope.IsVariable "T" := by
    show Scope.isVariableName "T" = true
    decide +kernel
  exact ⟨method, accepted, identifiers, type, read, stands.mpr variable_name⟩

/-- The type parameter is an identifier and the whole return type, and still it is a class. -/
theorem element_is_a_class :
    ∃ method, (forPackage "com.shop").method pickElement = .ok method ∧
      (∀ name ∈ pickElement.typeParameters, isIdentifier name = true) ∧
      "Element" ∈ pickElement.typeParameters ∧ pickElement.HasToken "Element" ∧
      Symbol.Written "Element".toList ([] ++ .name "Element" :: []) ∧
      (forPackage "com.shop").typeName "Element" = .ok (.named ⟨"com.shop", "Element", []⟩) ∧
      method.returnType = some (.named ⟨"com.shop", "Element", []⟩) ∧
      ∀ bounds, ¬(forPackage "com.shop").scope.Stands [] []
        (.named ⟨"com.shop", "Element", []⟩) (.typeVariable "Element" bounds) := by
  obtain ⟨method, accepted⟩ := pickElement_accepted
  have identifiers : ∀ name ∈ pickElement.typeParameters, isIdentifier name = true := by
    decide +kernel
  have read : (forPackage "com.shop").typeName "Element" =
      .ok (.named ⟨"com.shop", "Element", []⟩) := by decide +kernel
  have symbols : Symbol.ofText "Element" = .ok ([] ++ .name "Element" :: []) := by decide +kernel
  have written := Symbol.ofText_eq_ok_iff.mp symbols
  obtain ⟨type, resolved, returned⟩ := (method_shape accepted).returnType
  obtain rfl := Except.ok.inj (read.symm.trans resolved)
  have listed : "Element" ∈ pickElement.typeParameters := List.mem_cons_self
  refine ⟨method, accepted, identifiers, listed, .returnType, written, read, returned, ?_⟩
  intro bounds variable_stands
  have stands := stands_of_written read (identifiers _ listed) written
  have same := stands.unique variable_stands
  have meaning : (forPackage "com.shop").scope.simple "Element" =
      .named ⟨"com.shop", "Element", []⟩ := by decide +kernel
  rw [meaning] at same
  cases same

end Compiler

end ClassCompiler
