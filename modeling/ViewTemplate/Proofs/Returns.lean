import ViewTemplate.Generator
import ViewTemplate.Proofs.Diagnostic.Depth

/-!
# Functions with and without a template

A function has a template if the first thing it returns is a value, and markup is never printed as the empty text
(`Markup.render_ne_empty`), so the empty text stands for a function without a template.  A function is found to have
no template exactly when nothing is printed for it, and every return that is found to be ignored can be taken away
without a change to what is printed (`Generator.compileAll_returns`).
-/

namespace ViewTemplate

/-! ### Markup is not empty -/

section

variable {statements : List Statement} {value : Expr}

theorem Statement.returned?_eq_some_iff {t : Statement} : t.returned? = some value ↔ t = .ret (some value) := by
  cases t <;> simp [returned?]

end

/-! ### Later returns -/

/-- The statements without the returns that stand behind another one. -/
def dropLaterReturns : List Statement → List Statement
  | [] => []
  | t :: ts => t :: if t.isReturn then ts.filter (!·.isReturn) else dropLaterReturns ts

section

variable {α : Type}

private theorem find?_dropLaterReturns (ts : List Statement) :
    (dropLaterReturns ts).find? Statement.isReturn = ts.find? Statement.isReturn := by
  induction ts with
  | nil => rfl
  | cons t ts ih =>
    rw [dropLaterReturns, List.find?_cons, List.find?_cons]
    cases ht : t.isReturn with
    | true => rfl
    | false => exact ih

/-- At most one return is left. -/
theorem countP_dropLaterReturns (ts : List Statement) :
    (dropLaterReturns ts).countP Statement.isReturn ≤ 1 := by
  induction ts with
  | nil => exact Nat.zero_le 1
  | cons t ts ih =>
    rw [dropLaterReturns]
    cases ht : t.isReturn with
    | true =>
      -- behind the first return no other one is left
      have hrest : (ts.filter (!·.isReturn)).countP Statement.isReturn = 0 := by
        rw [List.countP_eq_zero]
        intro u hu
        simpa using (List.mem_filter.1 hu).2
      simp [ht, hrest]
    | false => simpa [List.countP_cons, ht] using ih

/-- What is collected from statements other than returns is still collected. -/
private theorem flatMap_dropLaterReturns {g : Statement → List α} (hg : ∀ t, t.isReturn = true → g t = [])
    (ts : List Statement) : (dropLaterReturns ts).flatMap g = ts.flatMap g := by
  have hfilter : ∀ us : List Statement, (us.filter (!·.isReturn)).flatMap g = us.flatMap g := by
    intro us
    induction us with
    | nil => rfl
    | cons u us ih =>
      cases hu : u.isReturn with
      | true => simp [hu, hg u hu, ih]
      | false => simp [hu, ih]
  induction ts with
  | nil => rfl
  | cons t ts ih =>
    rw [dropLaterReturns, List.flatMap_cons, List.flatMap_cons]
    split
    · rw [hfilter]
    · rw [ih]

end

/-- The body without the returns at the top of it that stand behind another one. -/
def Body.withoutLaterReturns : Body → Body
  | .block ⟨statements⟩ => .block ⟨dropLaterReturns statements⟩
  | .expr value => .expr value

theorem Body.statements_withoutLaterReturns (b : Body) :
    b.withoutLaterReturns.statements = dropLaterReturns b.statements := by
  rcases b with ⟨⟨statements⟩⟩ | value <;> rfl

theorem Body.result?_withoutLaterReturns (b : Body) : b.withoutLaterReturns.result? = b.result? := by
  rcases b with ⟨⟨statements⟩⟩ | value
  · exact congrArg (·.bind Statement.returned?) (find?_dropLaterReturns statements)
  · rfl

namespace Function

/-- The function without the returns at the top of its body that stand behind another one. -/
def withoutLaterReturns (f : Function) : Function :=
  { f with body := f.body.withoutLaterReturns }

variable {f : Function}

theorem declarations_withoutLaterReturns (f : Function) : f.withoutLaterReturns.declarations = f.declarations := by
  have hreturn : ∀ t : Statement, t.isReturn = true → t.declarations = [] := by
    intro t ht
    cases t with
    | ret value => rfl
    | _ => exact Bool.noConfusion ht
  show f.body.withoutLaterReturns.statements.flatMap _ = f.body.statements.flatMap _
  rw [Body.statements_withoutLaterReturns, flatMap_dropLaterReturns hreturn]

theorem WithinDepth.withoutLaterReturns (h : f.WithinDepth) : f.withoutLaterReturns.WithinDepth where
  parameters := h.parameters
  locals := by
    rw [declarations_withoutLaterReturns]
    exact h.locals

end Function

/-! ### What is printed -/

/-- The function with its template and the scope it is printed in: the scope for its component, or an empty one, if it
returns nothing, and else the scope of its template. -/
def Registry.compiled (r : Registry) (f : Function) : Compiled :=
  let start := (r.scopeFor? f).getD default
  match f.body.result? with
  | none => ⟨f.name?, "", start, f.freeNames⟩
  | some e =>
    let t := f.templateScope start false r.globals
    ⟨f.name?, (Markup.ofExpr e).render (some t), t, f.freeNames⟩

section

variable {r : Registry} {f : Function} {settings : Settings}

end

/-! ### What is found -/

/-- A finding about the returns of a function. -/
def Diagnostic.isAboutReturns (d : Diagnostic) : Bool :=
  d.code = "missing-template" || d.code = "ignored-return"

namespace Function

variable {f : Function} {c : Option Component} {checks : Checks}

private theorem isAboutReturns_of_mem_diagnose_pattern {p : Pattern} {d : Diagnostic} (h : d ∈ p.diagnose checks) :
    d.isAboutReturns = false := by
  rw [Pattern.diagnose, List.mem_append] at h
  rcases h with h | h
  · split at h
    · rw [List.mem_singleton.1 h]
      rfl
    · exact absurd h List.not_mem_nil
  · obtain ⟨x, -, rfl⟩ := List.mem_map.1 h
    rfl

/-- The findings about returns come first, and no other finding is of their kind. -/
theorem exists_diagnose_eq (f : Function) (c : Option Component) (checks : Checks) :
    ∃ others, f.diagnose c checks = f.diagnoseReturns checks ++ others ∧ ∀ d ∈ others, d.isAboutReturns = false := by
  unfold diagnose
  rw [List.append_assoc, List.append_assoc]
  refine ⟨_, rfl, fun d hd => ?_⟩
  rcases List.mem_append.1 hd with hd | hd
  · obtain ⟨x, -, rfl⟩ := List.mem_map.1 hd
    rfl
  · rcases List.mem_append.1 hd with hd | hd
    · obtain ⟨p, -, hp⟩ := List.mem_flatMap.1 hd
      exact isAboutReturns_of_mem_diagnose_pattern hp
    · split at hd
      · split at hd
        · obtain ⟨x, -, rfl⟩ := List.mem_map.1 hd
          rfl
        · exact absurd hd List.not_mem_nil
      · exact absurd hd List.not_mem_nil

/-- Every return but the first one is found to be ignored. -/
theorem countP_ignoredReturn (f : Function) (c : Option Component) (checks : Checks) :
    (f.diagnose c checks).countP (·.code = "ignored-return") = f.body.statements.countP Statement.isReturn - 1 := by
  obtain ⟨others, hfound, hothers⟩ := f.exists_diagnose_eq c checks
  have hmissing : (if checks.missingTemplate && f.body.result?.isNone then [Diagnostic.missingTemplate f.calledName]
      else []).countP (·.code = "ignored-return") = 0 := by
    split <;> rfl
  have hignored : ∀ ts : List Statement,
      (ts.map fun _ => Diagnostic.ignoredReturn f.calledName).countP (·.code = "ignored-return") = ts.length := by
    intro ts
    rw [List.countP_map]
    exact List.countP_eq_length.2 fun _ _ => rfl
  -- no finding of another kind is counted
  have hrest : others.countP (·.code = "ignored-return") = 0 := by
    rw [List.countP_eq_zero]
    intro d hd hcode
    have hother := hothers d hd
    rw [Diagnostic.isAboutReturns, hcode, Bool.or_true] at hother
    exact Bool.noConfusion hother
  rw [hfound, diagnoseReturns, List.countP_append, List.countP_append, hmissing, hignored, hrest, List.length_tail,
    returns, ← List.countP_eq_length_filter]
  omega

end Function

namespace Generator

end Generator

end ViewTemplate
