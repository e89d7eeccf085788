import ReflectCheck.Registry
import ReflectCheck.Namespace
import ReflectCheck.Space.Reflect

/-!
# The class family fixture

A fixture built directly in an object space rather than read from a file: in the module
`ClassPEFixtures`, a class `A`, its subclass `B`, and an instance `AInstance` of `A`.
Its three examples check that `B`'s superclass is `A`, that a new `A`'s class is `A`, and
that the singleton class of `AInstance` is the one made when the examples are
registered.

In a fresh space `A`, `B` and `AInstance` take slots 9, 10 and 11, and registering the
examples makes the singleton class in slot 12. Every run of the examples makes one new
instance of `A`.
-/

namespace ReflectCheck.Fixture

/-- The module the family is declared in. -/
def familyModule : String := "ClassPEFixtures"

/-- The class family: its object space and the handles of its three objects. -/
structure ClassFamily where
  /-- The object space holding the family. -/
  space : Space
  /-- The class `A`. -/
  classA : Handle
  /-- The class `B`, a subclass of `A`. -/
  classB : Handle
  /-- The instance `AInstance` of `A`. -/
  aInstance : Handle

namespace ClassFamily

/-- Declare the family in a fresh object space. -/
def setup : Except Fault ClassFamily :=
  let build : SpaceM ClassFamily := do
    let a ← Space.defineClass (some (familyModule ++ "::A")) none
    let b ← Space.defineClass (some (familyModule ++ "::B")) (some a)
    let i ← Space.newInstance a
    pure ⟨Space.initial, a, b, i⟩
  match build.run Space.initial with
  | .ok fam s => .ok { fam with space := s }
  | .error f _ => .error f

/-- The three examples, registered over object spaces; making the singleton class of
    `AInstance` moves the family's space on. -/
def registerExamples (fam : ClassFamily) : Except Fault (Registry Space × ClassFamily) :=
  let classA := Value.object fam.classA
  let classB := Value.object fam.classB
  let member := Value.object fam.aInstance
  let lift (m : SpaceM Value) (s : Space) : Produced × Space :=
    match m.run s with
    | .ok v s' => (.value v, s')
    | .error f s' => (.fault f, s')
  match (Space.identityDescriptor member).run fam.space with
  | .error f _ => .error f
  | .ok singleton s =>
    let r : Registry Space := (((Registry.empty.register
      ⟨familyModule ++ "::B.superclass", classA, lift (Space.superclassOf classB)⟩).register
      ⟨familyModule ++ "::A.new.class", classA,
        lift (do Space.classOf (← Space.instantiate classA))⟩).register
      ⟨familyModule ++ "::AInstance.singleton_class", singleton,
        lift (Space.identityDescriptor member)⟩)
    .ok (r, { fam with space := s })

/-- The namespace of the family: the built-in classes and the three constants. -/
def names (fam : ClassFamily) : Namespace :=
  let ns := Namespace.withBuiltins (some familyModule)
  let ns := (ns.define (familyModule ++ "::A") (.object fam.classA)).2
  let ns := (ns.define (familyModule ++ "::B") (.object fam.classB)).2
  (ns.define (familyModule ++ "::AInstance") (.object fam.aInstance)).2

/-- The family as a scope for evaluating expressions. -/
def toScope (fam : ClassFamily) : Scope := ⟨fam.space, fam.names⟩

end ClassFamily

end ReflectCheck.Fixture
