import ViewTemplate.Syntax.Shape
import ViewTemplate.VariableMap

/-!
# Destructuring

What the names of a pattern stand for: each name reads the value along the path that leads to it in the pattern, a
default value becoming a conditional. Without a value every name stands for itself. The rest of a value is not
rebuilt, so names under it are left out when there is a value.

Reading goes no deeper than `maxPatternDepth`. The limit is an assertion, checked in debug builds: `Pattern.variableMap`
fails where it does. A build without assertions checks nothing and reads deeper patterns like all others, which gives
the map of the `readings`.
-/

namespace ViewTemplate

/-- How many patterns may lie within each other: what the assertion checks, and the limit of the findings unless they are
given another one. -/
def maxPatternDepth : Nat := 256

/-- Why a pattern cannot be read: an assertion of debug builds. -/
inductive PatternError where
  | tooDeep
  deriving DecidableEq

/-- The message of the assertion. -/
def PatternError.message : PatternError → String
  | .tooDeep => "binding pattern nested too deeply"

/-- The expression that reads the property `key` of `base`. -/
def Expr.readKey (base : Expr) (key : String) : Expr :=
  if Text.isName key then .property base key false else .element base (.string key)

/-- The expression that reads the position `index` of `base`. -/
def Expr.readIndex (base : Expr) (index : Nat) : Expr :=
  .element base (.number (toString index))

/-- The expression `value`, or `fallback` where it is undefined. -/
def Expr.orElse (value : Expr) : Option Expr → Expr
  | none => value
  | some fallback => .conditional (.binary value "!==" (.ident "undefined")) value fallback

namespace Binding

/-- A binding that reads its own part of the value: not the rest, and known by a key in an object. -/
def isRead (kind : PatternKind) (b : Binding) : Bool :=
  !b.rest && (kind = .array || b.source?.isSome)

/-- The expression that a binding at `index` reads from `base`. -/
def read? (kind : PatternKind) (index : Nat) (base : Expr) (b : Binding) : Option Expr :=
  if b.rest then none
  else
    match kind with
    | .array => some ((base.readIndex index).orElse b.fallback)
    | .object => b.source?.map fun key => (base.readKey key).orElse b.fallback

end Binding

/-- The value as it is handed to a target: a pattern reads on from all of a conditional. -/
def Target.baseOf (t : Target) (value : Expr) : Expr :=
  match t with
  | .name _ => value
  | .pattern _ => if value.isConditional then .paren value else value

mutual

/-- What the names of a pattern stand for, in source order and with repetitions. -/
def Pattern.readings (base : Option Expr) : Pattern → List (String × Expr)
  | ⟨kind, elements⟩ => bindingReadings kind base 0 elements
termination_by structural p => p

/-- What the names of the bindings from `index` on stand for. -/
def bindingReadings (kind : PatternKind) (base : Option Expr) (index : Nat) : List Binding → List (String × Expr)
  | [] => []
  | b :: bs => b.readings kind base index ++ bindingReadings kind base (index + 1) bs
termination_by structural bs => bs

/-- What the names of the binding at `index` stand for. -/
def Binding.readings (kind : PatternKind) (base : Option Expr) (index : Nat) : Binding → List (String × Expr)
  | ⟨rest, key, target, fallback⟩ =>
    match base with
    | none => target.readings none
    | some base =>
      match Binding.read? kind index base ⟨rest, key, target, fallback⟩ with
      | none => []
      | some value => target.readings (some (target.baseOf value))
termination_by structural b => b

/-- What the names of a target stand for. -/
def Target.readings (base : Option Expr) : Target → List (String × Expr)
  | .name x => [(x, base.getD (.ident x))]
  | .pattern p => p.readings base
termination_by structural t => t

end

mutual

/-- How many patterns within each other are gone through, with or without a value. -/
def Pattern.readDepth (hasBase : Bool) : Pattern → Nat
  | ⟨kind, elements⟩ => 1 + bindingReadDepth kind hasBase elements

/-- The greatest depth that is gone through among a list of bindings. -/
def bindingReadDepth (kind : PatternKind) (hasBase : Bool) : List Binding → Nat
  | [] => 0
  | b :: bs => max (b.readDepth kind hasBase) (bindingReadDepth kind hasBase bs)

/-- The depth that is gone through in a binding: none in one that is not read. -/
def Binding.readDepth (kind : PatternKind) (hasBase : Bool) : Binding → Nat
  | ⟨rest, key, target, fallback⟩ =>
    if hasBase && !Binding.isRead kind ⟨rest, key, target, fallback⟩ then 0 else target.readDepth hasBase

/-- The depth that is gone through in a target. -/
def Target.readDepth (hasBase : Bool) : Target → Nat
  | .name _ => 0
  | .pattern p => p.readDepth hasBase

end

namespace Target

/-- A target whose reading passes the assertion on its depth. -/
def isReadable (t : Target) (base : Option Expr) : Bool :=
  t.readDepth base.isSome ≤ maxPatternDepth

/-- What the names of a target stand for, or the failed assertion. Without assertions it is the map of the readings for
every target. -/
def variableMap (t : Target) (base : Option Expr) : Except PatternError VariableMap :=
  if t.isReadable base then .ok (.ofList (t.readings base)) else .error .tooDeep

end Target

/-- What the names of a pattern stand for. It fails where the assertion of debug builds does; without assertions a
pattern of any depth has the map of its readings. -/
def Pattern.variableMap (p : Pattern) (base : Option Expr) : Except PatternError VariableMap :=
  (Target.pattern p).variableMap base

/-- What the names of a declaration stand for, or the failed assertion: the declared value is the one that is read. -/
def Declaration.variableMap (d : Declaration) : Except PatternError VariableMap :=
  d.target.variableMap d.value

namespace Declarations

/-- What the names of all declarations stand for, in source order and with repetitions. -/
def readings (d : Declarations) : List (String × Expr) :=
  d.items.flatMap fun item => item.target.readings item.value

/-- Declarations whose reading passes the assertion. -/
def isReadable (d : Declarations) : Bool :=
  d.items.all fun item => item.target.isReadable item.value

/-- What the names of all declarations stand for, or the failed assertion on one that is too deep. -/
def variableMap (d : Declarations) : Except PatternError VariableMap :=
  if d.isReadable then .ok (.ofList d.readings) else .error .tooDeep

end Declarations

namespace Statement

/-- What the names declared by a statement stand for. -/
def readings : Statement → List (String × Expr)
  | .declare _ declarations => declarations.readings
  | _ => []

/-- A statement whose declarations pass the assertion. -/
def isReadable : Statement → Bool
  | .declare _ declarations => declarations.isReadable
  | _ => true

end Statement

end ViewTemplate
