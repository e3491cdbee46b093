import ViewTemplate.Proofs.Destructuring
import ViewTemplate.Proofs.Syntax.Same
import ViewTemplate.Resolution

/-!
# The scope of a template

What resolving a function does to a scope (`Function.resolve_spec`): nothing when the function returns nothing, and
otherwise only the context and the variables change.  A name then stands for what the component parameter, the
locals, the globals or the old scope say, in this order, and the names of the old scope keep their places.
-/

namespace ViewTemplate

/-! ### The component parameter -/

/-- The parameter that stands for the component instance: the first one, or its rewritten form if the scope holds
one for just this parameter. -/
def Function.instanceParameter? (f : Function) (s : Scope) : Option Parameter :=
  f.parameters.head?.map fun p =>
    match s.parameter with
    | some r => if r.source = p then r.rewritten else p
    | none => p

theorem Function.componentParameter?_eq (f : Function) (s : Scope) :
    f.componentParameter? s = f.instanceParameter? s := by
  unfold Function.componentParameter? Function.rewrittenParameter? Function.instanceParameter? Scope.rewriteOf?
  cases hp : f.parameters.head? with
  | none => rfl
  | some p =>
    cases hr : s.parameter with
    | none => rfl
    | some r =>
      by_cases h : r.source = p
      · have hs : r.source.same p = true := (Parameter.same_iff _ _).2 h
        subst h
        simp [hs]
      · have hs : ¬ r.source.same p = true := fun hs => h ((Parameter.same_iff _ _).1 hs)
        simp [h, hs]

/-- The pattern that takes the component instance apart, if the component parameter is one. -/
def Function.instancePattern? (f : Function) (s : Scope) : Option Pattern :=
  (f.instanceParameter? s).bind (·.target.pattern?)

/-- The text a pattern reads the component instance from. -/
def Scope.instanceBase (s : Scope) (keepContext : Bool) : String :=
  if keepContext && !s.context.isEmpty then s.context else "this"

/-! ### Locals -/

/-- The declarations of a statement. -/
def Statement.declarations : Statement → List Declaration
  | .declare _ declarations => declarations.items
  | _ => []

/-- The declarations at the top of the body, in source order. -/
def Function.declarations (f : Function) : List Declaration :=
  f.body.statements.flatMap Statement.declarations

/-- What a declaration makes of the name `x`. -/
def Declaration.value? (d : Declaration) (x : String) : Option Expr :=
  d.variableMap.toOption.bind (·.get? x)

/-- The names a declaration gives a meaning, in source order. -/
def Declaration.readNames (d : Declaration) : List String :=
  d.target.readNames d.value.isSome

theorem Function.localReadings_eq (f : Function) :
    f.localReadings = f.declarations.flatMap fun d => d.target.readings d.value := by
  unfold Function.localReadings Function.declarations
  rw [List.flatMap_assoc]
  congr 1
  funext t
  cases t <;> rfl

theorem Declaration.value?_of_depth_le {d : Declaration} (h : d.target.depth ≤ maxPatternDepth) (x : String) :
    d.value? x = (VariableMap.ofList (d.target.readings d.value)).get? x := by
  rw [Declaration.value?, Declaration.variableMap, Target.variableMap_of_depth_le h]; rfl

/-! ### What a name stands for -/

namespace Function

/-- What the component parameter makes of the name `x`, if it is a pattern. -/
def patternValue? (f : Function) (s : Scope) (keepContext : Bool) (x : String) : Option Expr :=
  (f.instancePattern? s).bind fun p =>
    (p.variableMap (some (.verbatim (s.instanceBase keepContext)))).toOption.bind (·.get? x)

/-- What the declarations at the top of the body make of the name `x`: the last one that yields it counts. -/
def localValue? (f : Function) (x : String) : Option Expr :=
  f.declarations.reverse.findSome? (·.value? x)

/-- The names the declarations at the top of the body give a meaning, in source order. -/
def localNames (f : Function) : List String :=
  f.declarations.flatMap Declaration.readNames

/-- The names the component parameter gives a meaning, in source order. -/
def patternNames (f : Function) (s : Scope) : List String :=
  ((f.instancePattern? s).map (·.readNames true)).getD []

/-- The name of the component instance in the template. -/
def contextAfter (f : Function) (s : Scope) (keepContext : Bool) : String :=
  match (f.instanceParameter? s).map Parameter.target with
  | some (.name x) => if keepContext then s.context else x
  | some (.pattern _) => ""
  | none => s.context

/-- No pattern that resolving goes through is nested too deeply. -/
structure Shallow (f : Function) (s : Scope) : Prop where
  parameter : ∀ p, f.instanceParameter? s = some p → p.target.depth ≤ maxPatternDepth
  locals : ∀ d ∈ f.declarations, d.target.depth ≤ maxPatternDepth

instance (f : Function) (s : Scope) : Decidable (f.Shallow s) :=
  decidable_of_iff
    ((∀ p ∈ (f.instanceParameter? s).toList, p.target.depth ≤ maxPatternDepth) ∧
      ∀ d ∈ f.declarations, d.target.depth ≤ maxPatternDepth)
    ⟨fun h => ⟨fun p hp => h.1 p (by simp [hp]), h.2⟩,
      fun h => ⟨fun p hp => h.parameter p (by simpa using hp), h.locals⟩⟩

/-- The scope `t` is what resolving `f` makes of the scope `s`. -/
structure Resolved (f : Function) (s : Scope) (keepContext : Bool) (globals : VariableMap) (t : Scope) : Prop where
  frame : t = { s with context := t.context, vars := t.vars }
  context : t.context = f.contextAfter s keepContext
  value : ∀ x, t.value? x =
    (f.patternValue? s keepContext x <|> f.localValue? x <|> globals.get? x <|> s.value? x)
  names : t.vars.keys = (s.vars.keys ++ globals.keys ++ f.localNames ++ f.patternNames s).eraseDups
  kept : s.vars.keys <+: t.vars.keys

variable {f : Function} {s : Scope} {keep : Bool} {globals : VariableMap}

/-! ### The steps of resolving -/

theorem instanceTarget?_eq (f : Function) (s : Scope) :
    f.instanceTarget? s = (f.instanceParameter? s).map Parameter.target := by
  rw [instanceTarget?, componentParameter?_eq]

theorem templateContext_eq (f : Function) (s : Scope) (keep : Bool) :
    f.templateContext s keep = f.contextAfter s keep := by
  rw [templateContext, contextAfter, instanceText, instanceTarget?_eq]
  rcases (f.instanceParameter? s).map Parameter.target with _ | ⟨x⟩ | ⟨p⟩ <;> rfl

/-- The component parameter adds nothing if it is a name. -/
theorem parameterReadings_eq (f : Function) (s : Scope) (keep : Bool) :
    f.parameterReadings s keep =
      ((f.instancePattern? s).map (·.readings (some (.verbatim (s.instanceBase keep))))).getD [] := by
  have ht := instanceTarget?_eq f s
  unfold parameterReadings instanceText instancePattern? Scope.instanceBase
  rcases hp : f.instanceParameter? s with _ | p
  · simp [ht, hp]
  · rcases h : p.target with x | q <;> simp [ht, hp, h, Target.pattern?]

theorem instancePattern_depth_le (h : f.Shallow s) {p : Pattern} (hp : f.instancePattern? s = some p) :
    (Target.pattern p).depth ≤ maxPatternDepth := by
  obtain ⟨q, hq, hqp⟩ := Option.bind_eq_some_iff.1 hp
  have hd := h.parameter q hq
  cases ht : q.target with
  | name x => simp [ht, Target.pattern?] at hqp
  | pattern r =>
    simp only [ht, Target.pattern?, Option.some.injEq] at hqp
    rw [← hqp, ← ht]
    exact hd

/-- A component parameter that can be gone through gives a name the meaning that its pattern reads for it. -/
theorem lookup_parameterReadings (hr : f.isReadable s = true) (x : String) :
    (f.parameterReadings s keep).reverse.lookup x = f.patternValue? s keep x := by
  rw [parameterReadings_eq, patternValue?]
  unfold instancePattern?
  cases hp : f.instanceParameter? s with
  | none => rfl
  | some p =>
    cases ht : p.target with
    | name y => simp [ht, Target.pattern?]
    | pattern q =>
      have hread : (Target.pattern q).isReadable (some (.verbatim (s.instanceBase keep))) = true := by
        rw [isReadable, Bool.and_eq_true, instanceTarget?_eq, hp, Option.map_some, ht] at hr
        exact hr.2
      simp [ht, Target.pattern?, Pattern.variableMap, Target.variableMap, hread, Except.toOption,
        VariableMap.get?_ofList, Target.readings]

theorem parameterReadings_names (f : Function) (s : Scope) (keep : Bool) :
    (f.parameterReadings s keep).map (·.1) = f.patternNames s := by
  rw [parameterReadings_eq, patternNames]
  cases f.instancePattern? s with
  | none => rfl
  | some p => exact p.map_fst_readings (some (.verbatim (s.instanceBase keep)))

private theorem findSome?_congr_mem {α β : Type} {g h : α → Option β} {l : List α} (hl : ∀ a ∈ l, g a = h a) :
    l.findSome? g = l.findSome? h := by
  induction l with
  | nil => rfl
  | cons a l ih =>
    rw [List.findSome?_cons, List.findSome?_cons, hl a (by simp), ih fun b hb => hl b (by simp [hb])]

private theorem lookup_localReadings (h : f.Shallow s) (x : String) :
    f.localReadings.reverse.lookup x = f.localValue? x := by
  have hl : ∀ d ∈ f.declarations.reverse,
      d.value? x = (VariableMap.ofList (d.target.readings d.value)).get? x :=
    fun d hd => Declaration.value?_of_depth_le (h.locals d (List.mem_reverse.1 hd)) x
  rw [localValue?, findSome?_congr_mem hl, localReadings_eq, ← VariableMap.get?_ofList, VariableMap.ofList,
    VariableMap.insertAll_flatMap, VariableMap.get?_mergeAll, ← List.map_reverse, List.findSome?_map]
  simp [Function.comp_def]

theorem localReadings_names (f : Function) : f.localReadings.map (·.1) = f.localNames := by
  rw [localReadings_eq, localNames, List.map_flatMap]
  congr 1
  funext d
  exact d.target.map_fst_readings d.value

private theorem isReadable_of_shallow (h : f.Shallow s) : f.isReadable s = true := by
  rw [isReadable, Bool.and_eq_true]
  constructor
  · rw [List.all_eq_true]
    intro t ht
    cases t with
    | declare modifiers declarations =>
      apply List.all_eq_true.2
      intro d hd
      apply Target.isReadable_of_depth_le
      exact h.locals d (List.mem_flatMap.2 ⟨_, ht, hd⟩)
    | _ => rfl
  · rw [instanceTarget?_eq]
    split
    · next p hp =>
      obtain ⟨q, hq, hqp⟩ := Option.map_eq_some_iff.1 hp
      have hd := h.parameter q hq
      have := p.readDepth_le_depth true
      rw [hqp, Target.depth] at hd
      simp only [decide_eq_true_eq]
      omega
    · rfl

private theorem keys_templateScope (f : Function) (s : Scope) (keep : Bool) (globals : VariableMap) :
    (f.templateScope s keep globals).vars.keys =
      (s.vars.keys ++ globals.keys ++ f.localNames ++ f.patternNames s).eraseDups := by
  rw [templateScope, VariableMap.keys_insertAll, VariableMap.keys_insertAll, VariableMap.keys_merge,
    parameterReadings_names, localReadings_names, eraseDups_append_left, List.append_assoc, eraseDups_append_left,
    ← List.append_assoc]

/-- The scope of a template, name by name. -/
theorem resolved_templateScope (h : f.Shallow s) : f.Resolved s keep globals (f.templateScope s keep globals) where
  frame := rfl
  context := templateContext_eq f s keep
  value x := by
    rw [Scope.value?, templateScope, VariableMap.get?_insertAll, VariableMap.get?_insertAll, VariableMap.get?_merge,
      lookup_parameterReadings (isReadable_of_shallow h), lookup_localReadings h]
    rfl
  names := keys_templateScope f s keep globals
  kept := by
    rw [keys_templateScope, List.append_assoc, List.append_assoc, List.eraseDups_append,
      eraseDups_eq_self s.vars.nodup_keys]
    exact List.prefix_append _ _

theorem resolve_of_shallow {e : Expr} (he : f.body.result? = some e) (h : f.Shallow s) :
    f.resolve (some s) keep globals = .ok (some (.ofExpr e), some (f.templateScope s keep globals)) := by
  simp [resolve, he, isReadable_of_shallow h]

/-- A function that returns nothing has no template and leaves the scope alone.  Any other has its result as the
template, and a scope in which only the context and the variables have changed. -/
theorem resolve_spec (f : Function) (s : Scope) (keep : Bool) (globals : VariableMap) :
    (f.body.result? = none → f.resolve (some s) keep globals = .ok (none, some s)) ∧
      ∀ e, f.body.result? = some e → f.Shallow s →
        ∃ t, f.resolve (some s) keep globals = .ok (some (.ofExpr e), some t) ∧ f.Resolved s keep globals t := by
  constructor
  · intro he
    rw [resolve, he]
  · intro e he h
    exact ⟨_, resolve_of_shallow he h, resolved_templateScope h⟩

/-- A function whose locals, globals and parameter speak about the same names, and one that returns nothing. -/
theorem resolve_spec_overlapping :
    let f := Function.named "Card" [.ofTarget (.pattern ⟨.object, [.ofName "a", .aliased "key" "b"]⟩)]
      ⟨[.constant (.name "a") (.number "1"), .constant (.name "c") (.string "x"), .ret (some (.ident "c"))]⟩
    let g := Function.named "Empty" [] ⟨[]⟩
    let s := (Scope.ofContext "model").withVars (.ofList [("z", .ident "y"), ("c", .ident "old")])
    let globals := VariableMap.ofList [("d", .ident "outer"), ("c", .ident "global")]
    (g.body.result? = none ∧ f.body.result? = some (.ident "c") ∧ f.Shallow s) ∧
      g.resolve (some s) true globals = .ok (none, some s) ∧
      ∃ t, f.resolve (some s) true globals = .ok (some (.container (some (.ident "c"))), some t) ∧
        t.context = "" ∧ t.vars.keys = ["z", "c", "d", "a", "b"] ∧ t.value? "c" = some (.string "x") ∧
        t.value? "a" = some (.property (.verbatim "model") "a" false) := by
  intro f g s globals
  have hg : g.body.result? = none := rfl
  have hf : f.body.result? = some (.ident "c") := rfl
  have h : f.Shallow s := by decide
  obtain ⟨t, ht, hr⟩ := (resolve_spec f s true globals).2 _ hf h
  refine ⟨⟨hg, hf, h⟩, (resolve_spec g s true globals).1 hg, t, ht, hr.context, ?_, ?_, ?_⟩
  · rw [hr.names]
    decide
  · exact hr.value "c"
  · exact hr.value "a"

end Function

end ViewTemplate
