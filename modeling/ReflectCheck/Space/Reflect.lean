import ReflectCheck.Space.Basic

/-!
# Reflective operations on an object space

The operations a fixture may apply to a value: its class, its superclass, its singleton
class (the identity descriptor of an entity), a new instance of it, and its name, and
the operations that build a space: defining a class, naming a class after the constant
it is bound to, and allocating an instance.

Singleton classes are made on first request and kept, so asking twice gives the same
handle. The superclass of a singleton class is the class of the entity it is attached
to, for an instance, and otherwise the singleton class of the superclass of that entity,
which may have to be made on the way; the singleton class of `BasicObject` has `Class`
as its superclass.
-/

namespace ReflectCheck

namespace Space

/-- The entity in slot `h`, or a fault if the slot is not in use. -/
def entity (h : Handle) : SpaceM Entity := do
  match (← get).get? h with
  | some e => pure e
  | none => throw (.dangling h.slot)

/-- The fault for a method that the receiver does not support. -/
def unsupported {α : Type} (method : String) (receiver : Value) : SpaceM α := do
  throw (.unsupported method ((← get).inspect receiver))

/-- Put a new entity in the next free slot. -/
def allocate (kind : Kind) (name : Option String) : SpaceM Handle := do
  let s ← get
  if s.size < capacity then
    set (⟨s.entities.push { kind, name, singleton := none }⟩ : Space)
    pure ⟨s.size⟩
  else throw .exhausted

/-- Define a class below `superclass`, or below `Object` when none is given. The
    superclass must be a class other than `Class`. -/
def defineClass (name : Option String) (superclass : Option Handle) : SpaceM Handle := do
  let parent := superclass.getD Handle.object
  let e ← entity parent
  match e.kind with
  | .cls _ =>
    if parent = Handle.classClass then
      throw (.typeMismatch "subclassable class" ((← get).inspectHandle parent))
    else allocate (.cls (some parent)) name
  | _ => throw (.typeMismatch "subclassable class" ((← get).inspectHandle parent))

/-- Give an anonymous class the name of the constant it is bound to. A class keeps its
    first name, and other entities are left as they are. -/
def nameConstant (h : Handle) (name : String) : SpaceM Unit := do
  let e ← entity h
  match e.kind, e.name with
  | .cls _, none => modifyGet fun s => ((), s.modify h fun e => { e with name := some name })
  | _, _ => pure ()

/-- A new instance of a class; a new instance of `Class` is a new anonymous class. -/
def newInstance (c : Handle) : SpaceM Handle := do
  if c = Handle.classClass then defineClass none none
  else
    let e ← entity c
    match e.kind with
    | .cls _ => allocate (.inst c) none
    | _ => unsupported "new" (.object c)

/-- The singleton class of an entity, made on first request. -/
def singletonClass (h : Handle) : SpaceM Handle := do
  let e ← entity h
  match e.singleton with
  | some existing => pure existing
  | none =>
    let single ← allocate (.single h) none
    let _ ← entity h
    modifyGet fun s => (single, s.modify h fun e => { e with singleton := some single })

/-- The superclass of an entity, `none` for the root class. Links that do not point to
    an earlier slot never occur in a space built by these operations; they count as
    dangling. -/
def superclassOfHandle (h : Handle) : SpaceM (Option Handle) := do
  let e ← entity h
  match e.kind with
  | .cls superclass => pure superclass
  | .inst _ => unsupported "superclass" (.object h)
  | .single a =>
    let attached ← entity a
    match attached.kind with
    | .inst c => pure (some c)
    | _ =>
      if a.slot < h.slot then
        match ← superclassOfHandle a with
        | some parent => some <$> singletonClass parent
        | none => pure (some Handle.classClass)
      else throw (.dangling a.slot)
termination_by h.slot

/-- The class of a value: `Class` for classes and singleton classes. -/
def classOf (v : Value) : SpaceM Value := do
  match v with
  | .object h =>
    let e ← entity h
    match e.kind with
    | .inst c => pure (.object c)
    | _ => pure (.object Handle.classClass)
  | _ =>
    match primitiveClass? v with
    | some c => pure (.object c)
    | none => unsupported "class" v

/-- The superclass of a value, `nil` for the root class; primitives have none. -/
def superclassOf (v : Value) : SpaceM Value := do
  match v with
  | .object h => pure ((← superclassOfHandle h).elim .nil .object)
  | _ => unsupported "superclass" v

/-- The singleton class of an entity; `nil`, `true` and `false` answer with their own
    class, and integers and strings have none. -/
def identityDescriptor (v : Value) : SpaceM Value := do
  match v with
  | .object h => .object <$> singletonClass h
  | .nil | .bool _ =>
    match primitiveClass? v with
    | some c => pure (.object c)
    | none => unsupported "singleton_class" v
  | _ => unsupported "singleton_class" v

/-- A new instance of a class value. -/
def instantiate (v : Value) : SpaceM Value := do
  match v with
  | .object h => .object <$> newInstance h
  | _ => unsupported "new" v

/-- The name of a class as a string, `nil` for an anonymous class or a singleton class;
    instances and primitives have no name. -/
def nameOf (v : Value) : SpaceM Value := do
  match v with
  | .object h =>
    let e ← entity h
    match e.kind with
    | .cls _ => pure (e.name.elim .nil .str)
    | .single _ => pure .nil
    | .inst _ => unsupported "name" v
  | _ => unsupported "name" v

end Space

end ReflectCheck
