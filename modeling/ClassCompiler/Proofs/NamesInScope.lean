import ClassCompiler.Proofs.Gate
import ClassCompiler.Proofs.TypeParameters
import ClassCompiler.Proofs.TypeText
import ClassCompiler.Proofs.Ways

/-! Generated classes as types of other classes. The compiler makes the name of a class from the
package, the stem and the classes around it, and a type token only has simple names with dots in
between. Where nothing hides the outermost one, both give the same class. -/

namespace ClassCompiler
open Text Compile

namespace Text

theorem IsWord.of_isIdentifier {name : String} (identifier : isIdentifier name = true) :
    IsWord name := by
  obtain ⟨first, rest, spelled, starts, continues, -⟩ := exists_of_isIdentifier identifier
  refine ⟨⟨by simp [spelled], plain_of_isIdentifier identifier⟩, fun c member => ?_⟩
  have letter : continuesIdentifier c = true := by
    rw [spelled] at member
    rcases List.mem_cons.mp member with rfl | behind
    · exact startsIdentifier.continues starts
    · exact continues c behind
  simp only [Symbol.isNameChar, Bool.or_eq_true]
  simp only [continuesIdentifier, Bool.or_eq_true] at letter
  exact .inl letter

end Text

/-- The scope has no other meaning for the simple names of the class: the outermost one is no alias,
keyword, type variable or known class, and if other names follow, its capital letter says that it
is a class. -/
structure Scope.Leaves (scope : Scope) (name : ClassName) : Prop where
  unaliased : scope.aliases.lookup name.outermost = none
  no_keyword : Primitive.ofKeyword? name.outermost = none
  no_variable : Scope.isVariableName name.outermost = false
  unknown : Scope.knownPackage? name.outermost = none
  upper : name.inner ≠ [] → startsUppercase name.outermost.toList = true

/-- As a type token, the simple names of the class lead to the class, if they are identifiers and
the scope leaves them to it. -/
def Compiler.Finds (compiler : Compiler) (name : ClassName) : Prop :=
  (∀ simple ∈ name.names, isIdentifier simple = true) → compiler.scope.Leaves name →
    compiler.typeName (joinDots name.names) = .ok (.named name)

namespace Scope.Leaves

variable {scope : Scope} {name : ClassName}

theorem simple_eq (leaves : scope.Leaves name) :
    scope.simple name.outermost = .named (scope.generatedClass name.outermost) := by
  simp only [simple, leaves.unaliased, leaves.no_keyword, leaves.no_variable, leaves.unknown,
    Bool.false_eq_true, if_false]

theorem means (leaves : scope.Leaves name) (own : name.package = scope.package)
    (words : ∀ simple ∈ name.names, IsWord simple) :
    scope.Means (joinDots name.names) (.named name) := by
  obtain ⟨package, outermost, inner⟩ := name
  obtain rfl : package = scope.package := own
  cases inner with
  | nil =>
    have plain := (words outermost List.mem_cons_self).plain
    rw [ClassName.names, joinDots, String.intercalate_singleton]
    exact leaves.simple_eq ▸ .simple plain
  | cons next rest =>
    have segments (simple : String) (member : simple ∈ outermost :: next :: rest) :
        IsSegment simple := (words simple member).toIsSegment
    exact .nested segments (leaves.upper (List.cons_ne_nil _ _)) leaves.simple_eq

end Scope.Leaves

theorem Compiler.finds_of_package {compiler : Compiler} {name : ClassName}
    (own : name.package = compiler.scope.package) : compiler.Finds name := by
  intro identifiers leaves
  have words (simple : String) (member : simple ∈ name.names) : IsWord simple :=
    .of_isIdentifier (identifiers simple member)
  have nonempty : (joinDots name.names).toList ≠ [] :=
    toList_joinDots_ne_nil (words name.outermost List.mem_cons_self).nonempty name.inner
  have spells : Symbol.Spells (joinDots name.names).toList [.name (joinDots name.names)] :=
    .name nonempty fun c member => isNameChar_of_mem_joinDots words member
  have read := Scope.typeName_eq_ok_iff.mpr
    ⟨_, spells.written, .name (leaves.means own words) 0⟩
  rw [Compiler.typeName, read]
  rfl

def ClassName.within (own : ClassName) (names : List String) : ClassName :=
  { own with inner := own.inner ++ names }

def ClassDef.body (definition : ClassDef) : ClassBody where
  superclass := definition.superclass
  interfaces := definition.interfaces
  nested := definition.nested
  fields := definition.fields
  methods := definition.methods

theorem ClassDef.body_extend_staticClass (name : String) (body : ClassBody) :
    ((Compiler.staticClass name).extend body).body = body := by
  obtain ⟨superclass, interfaces, nested, fields, methods⟩ := body
  cases superclass <;> rfl

namespace ClassBody

inductive Nests : ClassBody → List String → ClassBody → Prop
  | itself (body : ClassBody) : Nests body [] body
  | nested {body part : ClassBody} {inner : ClassDef} {names : List String}
      (member : inner ∈ body.nested) (deeper : Nests inner.body names part) :
      Nests body (inner.name :: names) part

def setters (body : ClassBody) : List MethodDef := body.methods.take body.fields.length

end ClassBody

namespace Compiler

section

variable {compiler : Compiler} {self : TypeName} {own : ClassName} {stem : String}
  {model : ObjectModel} {body part : ClassBody} {names : List String}

def selfAt (self : TypeName) (own : ClassName) (names : List String) : TypeName :=
  if names = [] then self else .named (own.within names)

theorem selfAt_cons (self : TypeName) (own : ClassName) (name : String) (names : List String) :
    selfAt self own (name :: names) = selfAt (.named (own.nested name)) (own.nested name) names := by
  cases names with
  | nil => rfl
  | cons next names => simp [selfAt, ClassName.within, ClassName.nested]

theorem exists_shaped_of_nested {models : List ObjectModel} {definitions : List ClassDef}
    (shaped : ShapedNested compiler self stem models definitions) {inner : ClassDef}
    (member : inner ∈ definitions) (around : self.enclosingClass? = some own) :
    ∃ stem model, Shaped compiler (.named (own.nested inner.name)) stem model inner.body := by
  induction models generalizing definitions with
  | nil =>
    rw [ShapedNested] at shaped
    exact absurd (shaped ▸ member) List.not_mem_nil
  | cons model models ih =>
    rw [ShapedNested] at shaped
    obtain ⟨name, enclosing, body, more, -, found, rfl, first, rest⟩ := shaped
    obtain rfl : own = enclosing := Option.some.inj (around.symm.trans found)
    rcases List.mem_cons.mp member with rfl | later
    · refine ⟨compiler.nestedStem stem name, model, ?_⟩
      rw [ClassDef.body_extend_staticClass]
      exact first
    · exact ih rest later

theorem exists_shaped_of_nests (nests : body.Nests names part)
    (shaped : Shaped compiler self stem model body) (around : self.enclosingClass? = some own) :
    ∃ stem model, Shaped compiler (selfAt self own names) stem model part := by
  induction nests generalizing self own stem model with
  | itself body => exact ⟨stem, model, shaped⟩
  | nested member deeper ih =>
    obtain ⟨_, _, _, models, _, _⟩ := model
    rw [Shaped] at shaped
    obtain ⟨stem, inner, first⟩ := exists_shaped_of_nested shaped.2.2.2.2 member around
    rw [selfAt_cons]
    exact ih first rfl

theorem returnType_of_setters (shaped : Shaped compiler self stem model body) :
    ∀ method ∈ body.setters, method.returnType = some self := by
  obtain ⟨_, _, _, _, properties, _⟩ := model
  rw [Shaped] at shaped
  obtain ⟨-, -, fields, ⟨setters, declared, methods, shapes, -⟩, -⟩ := shaped
  have count : setters.length = body.fields.length := by
    rw [← shapes.length_eq, List.length_zip, fields.length_eq, Nat.min_self]
  have own : body.setters = setters := by
    rw [ClassBody.setters, methods, ← count, List.take_left]
  intro method member
  obtain ⟨_, -, -, -, -, returns, -⟩ := (exists_mem_of_forall₂ shapes).2 method (own ▸ member)
  exact returns

/-- Setters return the type by which their class refers to itself. For a nested class that is the
class, under the name by which type tokens find it. -/
def Locates (compiler : Compiler) (self : TypeName) (own : ClassName) (body : ClassBody) : Prop :=
  ∀ names part, body.Nests names part →
    compiler.Finds (own.within names) ∧
    ∀ method ∈ part.setters, method.returnType = some (selfAt self own names)

theorem exists_locates (unpinned : compiler.pinnedSelf = none) {head definition : ClassDef}
    (shape : ClassShape compiler head stem model definition) :
    ∃ body, definition = head.extend body ∧
      compiler.Locates (compiler.selfType head) (compiler.scope.generatedClass head.name) body := by
  obtain ⟨body, extended, shaped⟩ := shape
  refine ⟨body, extended, fun names part nests => ⟨?_, ?_⟩⟩
  · exact finds_of_package rfl
  · obtain ⟨_, _, inner⟩ := exists_shaped_of_nests nests shaped
      (enclosingClass?_selfType unpinned head)
    exact returnType_of_setters inner

theorem Inlined.package {path : List String} {object : InlineObject}
    (way : compiler.Inlined stem path model object) :
    object.className.package = compiler.scope.package := by
  induction way with
  | nested _ _ _ ih => exact ih
  | within _ _ _ ih => exact ih
  | property => rfl

theorem package_of_sources {call : Call} {source : Source} (member : source ∈ call.sources compiler) :
    source.className.package = compiler.scope.package := by
  rcases Call.exists_of_mem_sources member with ⟨object, way, rfl⟩ | ⟨_, _, _, _, -, rfl⟩
  · exact way.package
  · rfl

/-- Each class that a successful call creates is found under its simple names: the one that the call
hands back, those that it registers, and those nested in one of them. What is found is the name
that the class is registered under or, for a nested one, the class that its setters return. -/
theorem created_classes_are_found {registry after : Registry} (reached : compiler.Reachable registry)
    (unpinned : compiler.pinnedSelf = none) {call : Call} {answer : ClassDef ⊕ ClassName}
    (ran : (call.run compiler).outcome registry = (.ok answer, after)) :
    (∀ definition, answer = .inl definition → ∃ body, definition = call.head.extend body ∧
      compiler.Locates (compiler.selfType call.head)
        (compiler.scope.generatedClass call.head.name) body) ∧
    ∀ position entry, registry.size ≤ position → after.entries[position]? = some entry →
      compiler.Finds entry.1 ∧
      ∃ source ∈ call.sources compiler, entry.1 = source.className ∧
        ∃ body, entry.2 = source.head.extend body ∧
          compiler.Locates (compiler.selfType source.head)
            (compiler.scope.generatedClass source.head.name) body := by
  obtain ⟨consistent, -⟩ := reached.settled
  constructor
  · rintro definition rfl
    have shape := answerShape_of_run consistent ran
    cases call with
    | generate name model stem customize => exact exists_locates unpinned shape
    | register => exact shape.elim
  · intro position entry new stored
    obtain ⟨source, member, gives⟩ :=
      (compiler.compiles_run call).adds consistent ran position entry new stored
    refine ⟨finds_of_package ?_, source, member, gives.1, exists_locates unpinned gives.classShape⟩
    rw [gives.1]
    exact package_of_sources member

end

def boltedWidget : ObjectModel where
  nested := [{
    name := some "Part"
    nested := [{ name := some "Bolt", properties := [{ name := "size", type := some "int" }] }] }]
  properties := [
    { name := "tag", object := some { properties := [{ name := "v", type := some "int" }] } }]

def generatesWidget : Call := .generate "Widget" boltedWidget "Widget" id

theorem bolt_is_found : ∃ definition after body part,
    (generatesWidget.run (forPackage "p")).outcome .empty = (.ok (.inl definition), after) ∧
      definition = (publicClass "Widget").extend body ∧ body.Nests ["Part", "Bolt"] part ∧
      (∀ method ∈ part.setters,
        method.returnType = some (.named ⟨"p", "Widget", ["Part", "Bolt"]⟩)) ∧
      (forPackage "p").typeName "Widget.Part.Bolt" =
        .ok (.named ⟨"p", "Widget", ["Part", "Bolt"]⟩) ∧
      after.names = [⟨"p", "WidgetTag", []⟩] ∧
      (forPackage "p").typeName "WidgetTag" = .ok (.named ⟨"p", "WidgetTag", []⟩) := by
  have nested : ((generatesWidget.run (forPackage "p")).outcome .empty).1.map
      (Sum.elim (·.nested.map fun part => (part.name, part.nested.map (·.name))) fun _ => []) =
        .ok [("Part", ["Bolt"])] := by
    decide +kernel
  have names : ((generatesWidget.run (forPackage "p")).outcome .empty).2.names =
      [⟨"p", "WidgetTag", []⟩] := by
    decide +kernel
  have leaves : (forPackage "p").scope.Leaves ⟨"p", "Widget", ["Part", "Bolt"]⟩ :=
    ⟨rfl, by decide +kernel, by decide +kernel, by decide +kernel, fun _ => by decide +kernel⟩
  have leaves_tag : (forPackage "p").scope.Leaves ⟨"p", "WidgetTag", []⟩ :=
    ⟨rfl, by decide +kernel, by decide +kernel, by decide +kernel, fun _ => by decide +kernel⟩
  cases ran : (generatesWidget.run (forPackage "p")).outcome .empty with
  | mk result after =>
    rw [ran] at nested names
    rcases result with error | definition | className
    · cases nested
    · obtain ⟨answered, registered⟩ := created_classes_are_found .empty rfl ran
      obtain ⟨body, rfl, locates⟩ := answered definition rfl
      obtain ⟨part, parts, same⟩ := List.map_eq_singleton_iff.mp (Except.ok.inj nested)
      obtain ⟨called, inside⟩ := Prod.mk.inj same
      obtain ⟨bolt, bolts, named⟩ := List.map_eq_singleton_iff.mp inside
      have nests : body.Nests ["Part", "Bolt"] bolt.body := by
        have member : part ∈ (generatesWidget.head.extend body).nested := by
          rw [parts]
          exact List.mem_singleton.mpr rfl
        have deeper : bolt ∈ part.nested := by
          rw [bolts]
          exact List.mem_singleton.mpr rfl
        exact called ▸ named ▸ .nested member (.nested deeper (.itself _))
      obtain ⟨found, setters⟩ := locates _ _ nests
      obtain ⟨entry, entries, tag⟩ := List.map_eq_singleton_iff.mp names
      have stored : after.entries[0]? = some entry := by rw [entries]; rfl
      have found_tag := (registered 0 entry (Nat.zero_le 0) stored).1
      rw [tag] at found_tag
      exact ⟨_, after, body, bolt.body, rfl, rfl, nests, setters,
        found (by decide +kernel) leaves, names, found_tag (by decide +kernel) leaves_tag⟩
    · cases nested

end Compiler
end ClassCompiler
