import ViewTemplate.Diagnostic.Function
import ViewTemplate.Proofs.Globals
import ViewTemplate.Registry

/-!
# Globals that are hidden and globals that are reported

A finding is reported for the globals that are declared again at the top of the body, and for no others
(`Function.shadowedGlobal_mem_diagnose_iff`).  Resolving a function puts what its component parameter takes apart on
top of the globals as well.  So without such findings every global keeps its expression, up to the names that the
component parameter reads (`Function.resolve_globals_of_diagnose`), and these are hidden without being reported
(`Function.destructured_global_not_reported`).
-/

namespace ViewTemplate

namespace Function

variable {f : Function} {s : Scope} {keep : Bool} {globals : VariableMap} {c : Option Component} {checks : Checks}
  {x : String}

/-! ### What is reported -/

/-- The globals that are declared again at the top of the body are reported as hidden, and no others. -/
theorem shadowedGlobal_mem_diagnose_iff :
    .shadowedGlobal x ∈ f.diagnose c checks ↔ x ∈ f.body.declaredNames ∧ x ∈ checks.globals := by
  have hreturns : .shadowedGlobal x ∉ f.diagnoseReturns checks := by
    unfold diagnoseReturns
    split <;> simp [-List.map_tail]
  have hpatterns : ∀ ps : List Pattern, .shadowedGlobal x ∉ ps.flatMap (·.diagnose checks) := by
    intro ps hmem
    obtain ⟨p, -, hp⟩ := List.mem_flatMap.1 hmem
    unfold Pattern.diagnose at hp
    split at hp <;> simp at hp
  have hprops : ∀ (p : Pattern) (c : Component), .shadowedGlobal x ∉ p.diagnoseProps c := by
    simp [Pattern.diagnoseProps]
  have hfound : .shadowedGlobal x ∈ f.diagnose c checks ↔ .shadowedGlobal x ∈ f.diagnoseGlobals checks := by
    unfold diagnose
    rw [List.mem_append, List.mem_append, List.mem_append, or_iff_left, or_iff_left (hpatterns _),
      or_iff_right hreturns]
    split
    · split
      · exact hprops _ _
      · exact List.not_mem_nil
    · exact List.not_mem_nil
  rw [hfound]
  simp [diagnoseGlobals]

/-! ### What is read -/

/-- The locals are declared at the top of the body. -/
theorem localNames_subset_declaredNames (f : Function) : f.localNames ⊆ f.body.declaredNames := by
  intro x hx
  obtain ⟨d, hd, hx⟩ := List.mem_flatMap.1 hx
  obtain ⟨t, ht, hd⟩ := List.mem_flatMap.1 hd
  cases hb : f.body with
  | expr value => simp [hb, Body.statements] at ht
  | block b =>
    rw [hb, Body.statements] at ht
    cases t with
    | declare modifiers declarations =>
      have hbound : x ∈ d.target.boundNames := d.target.readNames_subset _ hx
      exact List.mem_flatMap.2 ⟨_, ht, List.mem_flatMap.2 ⟨d, hd, hbound⟩⟩
    | _ => simp [Statement.declarations] at hd

/-- A global that is not declared at the top of the body stands for what the component parameter reads under its name,
or else for its own expression. -/
theorem value?_of_not_mem_declaredNames (hr : f.isReadable s = true) {v : Expr} (hg : globals.get? x = some v)
    (hx : x ∉ f.body.declaredNames) :
    (f.templateScope s keep globals).value? x = (f.patternValue? s keep x <|> some v) := by
  have hlocal : f.localReadings.reverse.lookup x = none :=
    lookup_reverse_eq_none (localReadings_names f) fun hx' => hx (f.localNames_subset_declaredNames hx')
  rw [Scope.value?, templateScope, VariableMap.get?_insertAll, VariableMap.get?_insertAll, VariableMap.get?_merge,
    lookup_parameterReadings hr, hlocal, hg]
  rfl

theorem patternValue?_of_not_mem (hr : f.isReadable s = true) (hx : x ∉ f.patternNames s) :
    f.patternValue? s keep x = none := by
  rw [← lookup_parameterReadings hr]
  exact lookup_reverse_eq_none (parameterReadings_names f s keep) hx

/-! ### Globals in the scope of the template -/

/-- A function for which no hidden global is found.  Resolving it fails exactly when it cannot be gone through;
otherwise a global stands for its own expression, unless the component parameter reads a property under its name. -/
theorem resolve_globals_of_diagnose {r : Registry} {e : Expr} (he : f.body.result? = some e)
    (hg : checks.globals = r.globals.keys) (hd : ∀ d ∈ f.diagnose c checks, d.code ≠ "shadowed-global") :
    (f.isReadable s = false → f.resolve (some s) keep r.globals = .error .tooDeep) ∧
      (f.isReadable s = true → ∃ t, f.resolve (some s) keep r.globals = .ok (some (.ofExpr e), some t) ∧
        ∀ x v, r.global? x = some v →
          t.value? x = (f.patternValue? s keep x <|> some v) ∧ (x ∉ f.patternNames s → t.value? x = some v)) := by
  refine ⟨fun hr => by simp [resolve, he, hr], fun hr => ?_⟩
  refine ⟨f.templateScope s keep r.globals, by simp [resolve, he, hr], fun x v hx => ?_⟩
  have hdeclared : x ∉ f.body.declaredNames := by
    intro hx'
    have hkey : x ∈ checks.globals := by
      rw [hg, ← VariableMap.isSome_get?_iff]
      exact Option.isSome_of_eq_some hx
    exact hd _ (shadowedGlobal_mem_diagnose_iff.2 ⟨hx', hkey⟩) rfl
  have hvalue : (f.templateScope s keep r.globals).value? x = (f.patternValue? s keep x <|> some v) :=
    value?_of_not_mem_declaredNames hr hx hdeclared
  exact ⟨hvalue, fun hread => by rw [hvalue, patternValue?_of_not_mem hr hread]; rfl⟩

/-- A function that declares a name of its own, and reads one of two globals out of the rewritten component
parameter. -/
theorem resolve_globals_of_diagnose_rewritten :
    let p := Parameter.ofTarget (.pattern ⟨.object, [.aliased "color" "theme", .restOf "icon"]⟩)
    let f := Function.named "view" [p] ⟨[.constant (.name "a") (.ident "icon"), .ret (some (.ident "theme"))]⟩
    let q := Parameter.ofTarget (.pattern ⟨.object, [.aliased "shade" "theme", .restOf "icon"]⟩)
    let s : Scope := ⟨"model", none, .ofList [("icon", .ident "old")], [], some ⟨p, q⟩⟩
    let r := (Registry.registerGlobal ∅ "theme" (.string "dark")).registerGlobal "icon" (.string "icon.svg")
    let checks : Checks := { (default : Checks) with globals := r.globals.keys }
    (f.body.result? = some (.ident "theme") ∧ checks.globals = r.globals.keys ∧
      (∀ d ∈ f.diagnose none checks, d.code ≠ "shadowed-global") ∧ f.isReadable s = true) ∧
      ∃ t, f.resolve (some s) true r.globals = .ok (some (.container (some (.ident "theme"))), some t) ∧
        t.value? "icon" = some (.string "icon.svg") ∧
        t.value? "theme" = some (.property (.verbatim "model") "shade" false) := by
  intro p f q s r checks
  have he : f.body.result? = some (.ident "theme") := rfl
  have hd : ∀ d ∈ f.diagnose none checks, d.code ≠ "shadowed-global" := by decide
  have hparameter : f.instanceParameter? s = some q := by simp [instanceParameter?, f, s, named]
  have hpattern : f.instancePattern? s = some ⟨.object, [.aliased "shade" "theme", .restOf "icon"]⟩ := by
    rw [instancePattern?, hparameter]
    rfl
  have hr : f.isReadable s = true := by
    rw [isReadable, instanceTarget?_eq, hparameter]
    rfl
  obtain ⟨t, ht, hvalue⟩ : ∃ t, f.resolve (some s) true r.globals = .ok (some (.ofExpr (.ident "theme")), some t) ∧
      ∀ x v, r.global? x = some v →
        t.value? x = (f.patternValue? s true x <|> some v) ∧ (x ∉ f.patternNames s → t.value? x = some v) :=
    (resolve_globals_of_diagnose he rfl hd).2 hr
  refine ⟨⟨he, rfl, hd, hr⟩, t, ht, (hvalue "icon" _ rfl).2 ?_, ?_⟩
  · rw [patternNames, hpattern]
    decide
  · rw [(hvalue "theme" _ rfl).1, patternValue?, hpattern]
    rfl

/-- A property that is taken out of the component parameter under the name of a global hides the global, and nothing
is found. -/
theorem destructured_global_not_reported :
    let f := Function.named "view" [.ofTarget (.pattern ⟨.object, [.ofName "theme"]⟩)] ⟨[.ret (some (.ident "theme"))]⟩
    let r := Registry.registerGlobal ∅ "theme" (.string "dark")
    let checks : Checks := { (default : Checks) with globals := r.globals.keys }
    f.diagnose none checks = [] ∧ r.global? "theme" = some (.string "dark") ∧
      ∃ m t, f.resolve (some default) false r.globals = .ok (some m, some t) ∧
        t.value? "theme" = some (.property (.verbatim "this") "theme" false) := by
  intro f r checks
  exact ⟨rfl, rfl, _, _, rfl, rfl⟩

end Function

end ViewTemplate
