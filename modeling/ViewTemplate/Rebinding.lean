import ViewTemplate.Registry
import ViewTemplate.Scope

/-!
# Rebinding slots and templates

A function whose first parameter is typed as a component may take the component's properties apart under names of
its own. The scope for such a function holds copies of the component's slots and templates: a slot that is taken out
is read under the component's own name for it, a template that is taken out under another name is known by that
name, and both are local bindings from then on.
-/

namespace ViewTemplate

/-- The member as it is known once the binding `b` has taken it out. -/
def Member.rebound (m : Member) (b : Binding) : Member :=
  if m.isSlot then m.asLocal
  else
    match b.key, b.target.name? with
    | some _, some x => m.asLocal.withExternalName x
    | _, _ => m.asLocal

/-- The binding as it is written once it takes out `m`: a slot is read under its own name. -/
def Binding.redirected (b : Binding) (m : Member) : Binding :=
  if m.isSlot then { b with key := some m.name } else b

/-- The members with the first one that callers reach by `name` replaced. -/
def updateNamed (name : String) (f : Member → Member) : List Member → List Member
  | [] => []
  | m :: ms => if m.externalName = name then f m :: ms else m :: updateNamed name f ms

/-- The member that the binding `b` takes out. -/
def Binding.taken? (members : List Member) (b : Binding) : Option Member :=
  if b.rest then none else b.source?.bind (memberNamed? members)

/-- A binding and the members, once the binding has taken out its member. -/
def rebindOne (members : List Member) (b : Binding) : Binding × List Member :=
  match b.taken? members with
  | none => (b, members)
  | some m => (b.redirected m, updateNamed m.externalName (·.rebound b) members)

/-- Bindings and members, once the bindings have taken out their members one after the other. -/
def rebindAll (members : List Member) : List Binding → List Binding × List Member
  | [] => ([], members)
  | b :: bs =>
    let (b', members) := rebindOne members b
    let (bs', members) := rebindAll members bs
    (b' :: bs', members)

/-- The bindings of a component parameter and the members, once the properties were taken apart under the first key
`props`. -/
def rebindProps (members : List Member) : List Binding → List Binding × List Member
  | [] => ([], members)
  | b :: bs =>
    if b.key = some "props" then
      match b.target with
      | .name _ => (b :: bs, members)
      | .pattern p =>
        let (elements, members) := rebindAll members p.elements
        ({ b with target := .pattern { p with elements } } :: bs, members)
    else
      let (bs', members) := rebindProps members bs
      (b :: bs', members)

/-- The scope for a function that begins with the parameter `p`, typed as the component `c`. -/
def Component.scopeFor (c : Component) (p : Parameter) : Scope :=
  match p.target with
  | .name x => ⟨x, some x, ∅, rebindable c.members, some ⟨p, p⟩⟩
  | .pattern pattern =>
    let (elements, members) := rebindProps (rebindable c.members) pattern.elements
    ⟨"", some "", ∅, members, some ⟨p, { p with target := .pattern { pattern with elements } }⟩⟩

/-- The component that the first parameter of `f` is typed as. -/
def Registry.componentOf? (r : Registry) (f : Function) : Option Component :=
  (f.parameters.head?.bind Parameter.typeName?).bind r.component?

/-- The scope for `f`, if its first parameter is typed as a registered component. -/
def Registry.scopeFor? (r : Registry) (f : Function) : Option Scope :=
  f.parameters.head?.bind fun p => (r.componentOf? f).map fun c => c.scopeFor p

end ViewTemplate
