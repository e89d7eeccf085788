import ReflectCheck.Fault

/-!
# Object spaces

An object space is an arena of entities: classes, each with at most one superclass,
instances of classes, and singleton classes, each attached to one entity. Every entity
sits in a slot of the arena, and a handle names the slot, so identity is the slot: two
entities that look alike are still two.

A fresh space holds the nine built-in classes in slots 0 to 8 (`Space.initial`):
`BasicObject`, the root of the hierarchy, then `Object`, `Module`, `Class` and the classes
of `nil`, `true`, `false`, integers and strings, all below `Object` but `Class`, which is
below `Module`. Later entities take the next free slot, so every link from an entity to
its superclass, class or attached entity points to an earlier slot, and the link to its
singleton class points to a later one. A space gives out at most 2^32 slots.

Operations that can fail run in `SpaceM`, which keeps the space as it stands when a
fault is raised.
-/

namespace ReflectCheck

/-- What an entity is. -/
inductive Kind where
  /-- A class, with its superclass; only the root class has none. -/
  | cls (superclass : Option Handle)
  /-- An instance of a class. -/
  | inst (cls : Handle)
  /-- The singleton class of the entity it is attached to. -/
  | single (attached : Handle)
  deriving DecidableEq, Inhabited

/-- An entity of an object space. -/
structure Entity where
  /-- Class, instance or singleton class. -/
  kind : Kind
  /-- The name of a class, once it has one. -/
  name : Option String
  /-- The singleton class of the entity, once it has been asked for. -/
  singleton : Option Handle
  deriving DecidableEq, Inhabited

/-- An arena of entities; the handle of an entity is its index. -/
structure Space where
  /-- The entities, in the order they were allocated. -/
  entities : Array Entity
  deriving Inhabited

/-- Computations on an object space that may raise a fault. -/
abbrev SpaceM := EStateM Fault Space

namespace Handle

/-- The root class `BasicObject`. -/
def basicObject : Handle := ⟨0⟩
/-- The class `Object`, default superclass of new classes. -/
def object : Handle := ⟨1⟩
/-- The class `Module`. -/
def module : Handle := ⟨2⟩
/-- The class `Class`, the class of every class. -/
def classClass : Handle := ⟨3⟩
/-- The class of `nil`. -/
def nilClass : Handle := ⟨4⟩
/-- The class of `true`. -/
def trueClass : Handle := ⟨5⟩
/-- The class of `false`. -/
def falseClass : Handle := ⟨6⟩
/-- The class of integers. -/
def integer : Handle := ⟨7⟩
/-- The class of strings. -/
def string : Handle := ⟨8⟩

end Handle

namespace Space

/-- The built-in classes: name and superclass, in slot order. -/
def builtinClasses : List (String × Option Handle) :=
  [("BasicObject", none), ("Object", some Handle.basicObject), ("Module", some Handle.object),
   ("Class", some Handle.module), ("NilClass", some Handle.object),
   ("TrueClass", some Handle.object), ("FalseClass", some Handle.object),
   ("Integer", some Handle.object), ("String", some Handle.object)]

/-- The number of built-in classes. -/
def builtinCount : Nat := builtinClasses.length

/-- A fresh space: the built-in classes and nothing else. -/
def initial : Space :=
  ⟨(builtinClasses.map fun (name, superclass) =>
    { kind := .cls superclass, name := some name, singleton := none }).toArray⟩

/-- The number of slots in use. -/
def size (s : Space) : Nat := s.entities.size

/-- The built-in classes and their handles, in slot order. -/
def builtinConstants : List (String × Handle) :=
  (builtinClasses.zipIdx).map fun ((name, _), slot) => (name, ⟨slot⟩)

/-- The entity in slot `h`, if the slot is in use. -/
def get? (s : Space) (h : Handle) : Option Entity := s.entities[h.slot]?

/-- Whether the handle names an entity of the space. -/
def Live (s : Space) (h : Handle) : Prop := h.slot < s.size

/-- The most slots a space gives out. -/
def capacity : Nat := Nat.pow 2 32

/-- Replace the entity in slot `h` by `f` of it. -/
def modify (s : Space) (h : Handle) (f : Entity → Entity) : Space :=
  ⟨s.entities.modify h.slot f⟩

/-- How an entity is shown when it is inspected. Links that do not point to an earlier
    slot never occur in a space built by the operations; they are shown as dangling. -/
def inspectHandle (s : Space) (h : Handle) : String :=
  match s.get? h with
  | none => "#<dangling " ++ h.text ++ ">"
  | some e =>
    match e.kind with
    | .cls _ => e.name.getD ("#<Class:" ++ h.text ++ ">")
    | .inst c =>
      if c.slot < h.slot then "#<" ++ s.inspectHandle c ++ ":" ++ h.text ++ ">"
      else "#<#<dangling " ++ c.text ++ ">:" ++ h.text ++ ">"
    | .single a =>
      if a.slot < h.slot then "#<Class:" ++ s.inspectHandle a ++ ">"
      else "#<Class:#<dangling " ++ a.text ++ ">>"
termination_by h.slot

/-- How a value is shown when it is inspected: an entity as `inspectHandle` shows it, a
    primitive as its text. -/
def inspect (s : Space) : Value → String
  | .object h => s.inspectHandle h
  | v => v.display

/-- The class of a primitive value. -/
def primitiveClass? : Value → Option Handle
  | .nil => some Handle.nilClass
  | .bool true => some Handle.trueClass
  | .bool false => some Handle.falseClass
  | .int _ => some Handle.integer
  | .str _ => some Handle.string
  | .object _ => none

end Space

end ReflectCheck
