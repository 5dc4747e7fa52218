import ClassCompiler.Compiler.Error
import ClassCompiler.Definition.ClassDef

/-! The registry of generated classes. Each name is defined once; entries keep the order in which
their definitions were finished, and only a rollback removes any. -/

namespace ClassCompiler

/-- `index` gives the position of each name among the entries; `pending` are the names whose
definition is under way. -/
structure Registry where
  entries : List (ClassName × ClassDef) := []
  index : List (ClassName × Nat) := []
  pending : List ClassName := []
  deriving DecidableEq

structure Checkpoint where
  size : Nat
  deriving DecidableEq

namespace Registry

def empty : Registry := {}

def size (registry : Registry) : Nat := registry.entries.length

def isEmpty (registry : Registry) : Bool := registry.entries.isEmpty

def names (registry : Registry) : List ClassName := registry.entries.map (·.1)

def contains (registry : Registry) (name : ClassName) : Bool :=
  (registry.index.lookup name).isSome

def get? (registry : Registry) (name : ClassName) : Option ClassDef := do
  let position ← registry.index.lookup name
  let entry ← registry.entries[position]?
  return entry.2

def checkpoint (registry : Registry) : Checkpoint := ⟨registry.size⟩

def sizeSince (registry : Registry) (checkpoint : Checkpoint) : Nat :=
  registry.size - checkpoint.size

def rollback (registry : Registry) (checkpoint : Checkpoint) : Registry :=
  let removed := (registry.entries.drop checkpoint.size).map (·.1)
  { registry with
    entries := registry.entries.take checkpoint.size
    index := registry.index.filter (!removed.contains ·.1) }

/-- Marks a definition as under way. A name that is under way cannot be started again. -/
def start (registry : Registry) (name : ClassName) : Except CompileError Registry :=
  if registry.pending.contains name then .error (.cyclic name)
  else .ok { registry with pending := name :: registry.pending }

def settle (registry : Registry) (name : ClassName) : Registry :=
  { registry with pending := registry.pending.erase name }

def insert (registry : Registry) (name : ClassName) (definition : ClassDef) : Registry :=
  { registry with
    entries := registry.entries ++ [(name, definition)]
    index := (name, registry.size) :: registry.index }

/-- Stores the outcome of a definition that was started. A failure removes what was registered
since the checkpoint. -/
def finish (registry : Registry) (name : ClassName) (checkpoint : Checkpoint) :
    Except CompileError ClassDef → Except CompileError ClassDef × Registry
  | .ok definition => (.ok definition, (registry.settle name).insert name definition)
  | .error error => (.error error, (registry.settle name).rollback checkpoint)

theorem names_insert (registry : Registry) (name : ClassName) (definition : ClassDef) :
    (registry.insert name definition).names = registry.names ++ [name] := by
  simp [names, insert]

theorem entries_rollback (registry : Registry) (checkpoint : Checkpoint) :
    (registry.rollback checkpoint).entries = registry.entries.take checkpoint.size := rfl

end Registry

end ClassCompiler
