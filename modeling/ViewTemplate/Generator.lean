import ViewTemplate.Node
import ViewTemplate.Rebinding
import ViewTemplate.Resolution
import ViewTemplate.Settings.Basic

/-!
# Generators

A generator writes the templates of functions for its platform. It may change a template between finding it and
printing it; everything else is the same for all generators.
-/

namespace ViewTemplate

/-- A generator: its settings, and what it makes of a template before it is printed. -/
structure Generator where
  settings : Settings
  process : Option Markup → Option Markup

namespace Generator

/-- The generator that prints templates as they are, with its settings in normal form. -/
def ofSettings (settings : Settings) : Generator :=
  ⟨settings.normalized, id⟩

instance : Inhabited Generator := ⟨ofSettings default⟩

/-- The platform of a generator. -/
def platform (g : Generator) : Platform :=
  g.settings.platform

/-- The text of the template of `f`, empty if there is nothing to print, and the scope it was printed in. -/
def templateText (g : Generator) (r : Registry) (f : Function) (s : Option Scope) (keepContext : Bool) :
    Except PatternError (String × Option Scope) :=
  match f.resolve s keepContext r.globals with
  | .error e => .error e
  | .ok (template, s) =>
    match g.process template with
    | none => .ok ("", s)
    | some m => .ok (m.render s, s)

end Generator

/-- The function with `p` in place of its first parameter. -/
def Function.withFirstParameter (f : Function) (p : Parameter) : Function :=
  match f.parameters with
  | [] => f
  | _ :: rest => { f with parameters := p :: rest }

/-- The function with its first parameter as the scope has rewritten it. -/
def Function.rewrittenIn (f : Function) (s : Scope) : Function :=
  match f.rewrittenParameter? s with
  | some p => f.withFirstParameter p
  | none => f

/-- The text of a whole function, in the scope for its component or else in the given one. -/
def Registry.renderFunction (r : Registry) (f : Function) (s : Option Scope) : String :=
  match r.scopeFor? f <|> s with
  | none => f.render none
  | some s => (f.rewrittenIn s).render (some s)

/-- A function with its template. -/
structure Compiled where
  name : Option String
  /-- the text of the template, empty if there is none -/
  template : String
  /-- the scope the template was printed in -/
  scope : Scope
  freeNames : List String

/-- Whether there is a template. -/
def Compiled.hasTemplate (c : Compiled) : Bool :=
  !c.template.isEmpty

/-- The function `f` with its template, in the scope for its component or else in an empty one. -/
def Generator.compile (g : Generator) (r : Registry) (f : Function) : Except PatternError Compiled :=
  let start := (r.scopeFor? f).getD default
  match g.templateText r f (some start) false with
  | .error e => .error e
  | .ok (template, s) => .ok ⟨f.name?, template, s.getD start, f.freeNames⟩

/-- All functions with their templates. -/
def Generator.compileAll (g : Generator) (r : Registry) (functions : List Function) :
    Except PatternError (List Compiled) :=
  functions.mapM (g.compile r)

end ViewTemplate
