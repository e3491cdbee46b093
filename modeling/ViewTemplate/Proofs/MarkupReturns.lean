import ViewTemplate.Proofs.Returns

/-!
# Functions that return markup

A function counts as one that returns markup if any return at the top of its body does.  What is rendered is the value
of the first return alone, so the two agree unless a return that is found to be ignored has markup and the first one has
not (`Function.isMarkup_iff_rendersMarkup_iff`).
-/

namespace ViewTemplate

namespace Function

/-- The expression that the function renders is markup, or wraps it. -/
def RendersMarkup (f : Function) : Prop :=
  ∃ e, f.body.result? = some e ∧ e.isMarkup = true

/-- The values of the returns at the top of the body that are found to be ignored. -/
def ignoredResults (f : Function) : List Expr :=
  f.returns.tail.filterMap Statement.returned?

variable {f : Function}

/-! ### The first return and the others -/

theorem result?_eq_head?_returns {b : Block} (hb : f.body = .block b) :
    f.body.result? = f.returns.head?.bind Statement.returned? := by
  rw [returns, hb]
  show (b.statements.find? _).bind _ = _
  rw [← List.head?_filter]
  rfl

/-- Markup is returned first, or by a return that is ignored. -/
theorem isMarkup_iff (f : Function) :
    f.isMarkup = true ↔ f.RendersMarkup ∨ ∃ e ∈ f.ignoredResults, e.isMarkup = true := by
  cases hb : f.body with
  | expr value =>
    have hnone : f.ignoredResults = [] := by
      rw [ignoredResults, returns, hb]
      rfl
    simp [isMarkup, RendersMarkup, Body.result?, hb, hnone]
  | block b =>
    have hany : f.isMarkup = true ↔ ∃ e ∈ f.returns.filterMap Statement.returned?, e.isMarkup = true := by
      -- only a return has a value that is returned
      have hreturn : ∀ t : Statement, ∀ e, t.returned? = some e → t.isReturn = true := by
        intro t e he
        rw [Statement.returned?_eq_some_iff.1 he]
        rfl
      rw [isMarkup, hb, returns, hb]
      simp only [List.any_eq_true, Option.any_eq_true, List.mem_filterMap, List.mem_filter, Body.statements]
      constructor
      · rintro ⟨t, ht, e, he, hmarkup⟩
        exact ⟨e, ⟨t, ⟨ht, hreturn t e he⟩, he⟩, hmarkup⟩
      · rintro ⟨e, ⟨t, ⟨ht, -⟩, he⟩, hmarkup⟩
        exact ⟨t, ht, e, he, hmarkup⟩
    rw [hany, RendersMarkup, result?_eq_head?_returns hb, ignoredResults]
    cases f.returns with
    | nil => simp
    | cons first later => cases hfirst : first.returned? <;> simp [hfirst]

theorem ignoredResults_eq_nil (h : f.body.statements.countP Statement.isReturn ≤ 1) : f.ignoredResults = [] := by
  have hlength : f.returns.tail.length = 0 := by
    rw [List.length_tail, returns, ← List.countP_eq_length_filter]
    omega
  rw [ignoredResults, List.eq_nil_of_length_eq_zero hlength]
  rfl

/-- With one return at the top of the body at most, its markup is what is rendered. -/
theorem isMarkup_iff_of_countP_le_one (h : f.body.statements.countP Statement.isReturn ≤ 1) :
    f.isMarkup = true ↔ f.RendersMarkup := by
  rw [isMarkup_iff, ignoredResults_eq_nil h]
  simp

/-! ### What is rendered -/

/-- What is resolved, in any scope, is the value of the first return. -/
theorem template_eq_of_resolve {s t : Option Scope} {keep : Bool} {globals : VariableMap} {template : Option Markup}
    (h : f.resolve s keep globals = .ok (template, t)) : template = f.body.result?.map .ofExpr := by
  rw [resolve] at h
  cases he : f.body.result? with
  | none =>
    rw [he] at h
    exact (congrArg Prod.fst (Except.ok.inj h)).symm
  | some e =>
    rw [he] at h
    cases s with
    | none => exact (congrArg Prod.fst (Except.ok.inj h)).symm
    | some s =>
      dsimp only at h
      split at h
      · exact (congrArg Prod.fst (Except.ok.inj h)).symm
      · cases h

/-- A function that renders markup returns markup.  The converse holds for a function exactly if it renders markup or no
return that is ignored has any; so it does if no return is found to be ignored, and once the ignored returns are taken
away.  The template that is resolved, in any scope, is made of the expression that the function renders. -/
theorem isMarkup_iff_rendersMarkup_iff (f : Function) (c : Option Component) (checks : Checks) :
    (f.RendersMarkup → f.isMarkup = true) ∧
      ((f.isMarkup = true ↔ f.RendersMarkup) ↔ f.RendersMarkup ∨ ∀ e ∈ f.ignoredResults, e.isMarkup = false) ∧
      ((∀ d ∈ f.diagnose c checks, d.code ≠ "ignored-return") → (f.isMarkup = true ↔ f.RendersMarkup)) ∧
      (f.withoutLaterReturns.isMarkup = true ↔ f.RendersMarkup) ∧
      ∀ s keep globals template t, f.resolve s keep globals = .ok (template, t) →
        template = f.body.result?.map .ofExpr := by
  have hnone : (∀ e ∈ f.ignoredResults, e.isMarkup = false) ↔ ¬ ∃ e ∈ f.ignoredResults, e.isMarkup = true := by
    simp
  refine ⟨fun h => f.isMarkup_iff.2 (Or.inl h), ?_, fun hfound => ?_, ?_, fun _ _ _ _ _ => template_eq_of_resolve⟩
  · rw [isMarkup_iff, hnone]
    constructor
    · intro h
      by_cases hrenders : f.RendersMarkup
      · exact Or.inl hrenders
      · exact Or.inr fun hignored => hrenders (h.1 (Or.inr hignored))
    · rintro (hrenders | hignored)
      · exact ⟨fun _ => hrenders, Or.inl⟩
      · exact ⟨fun h => h.resolve_right hignored, Or.inl⟩
  · refine isMarkup_iff_of_countP_le_one ?_
    have hcount : (f.diagnose c checks).countP (·.code = "ignored-return") = 0 := by
      rw [List.countP_eq_zero]
      intro d hd
      simpa using hfound d hd
    rw [countP_ignoredReturn] at hcount
    omega
  · have hresult : f.withoutLaterReturns.body.result? = f.body.result? := f.body.result?_withoutLaterReturns
    have hone := countP_dropLaterReturns f.body.statements
    rw [← Body.statements_withoutLaterReturns] at hone
    rw [isMarkup_iff_of_countP_le_one hone, RendersMarkup, RendersMarkup, hresult]

/-- A function that returns a conditional with markup on one side, behind a bare return in an inner block, and then markup
again; and a function with markup in an inner block only. -/
theorem isMarkup_iff_rendersMarkup_iff_conditional :
    let row : Expr := .markup (.selfClosing (.ofName "Row"))
    let choice : Expr := .conditional (.ident "wide") row (.ident "none")
    let f := Function.named "view" [] ⟨[.block ⟨[.ret none]⟩, .ret (some (.paren choice)), .ret (some row)]⟩
    let g := Function.named "item" [] ⟨[.block ⟨[.ret (some row)]⟩, .ret (some (.ident "none"))]⟩
    (f.RendersMarkup ∧ (∀ d ∈ g.diagnose none default, d.code ≠ "ignored-return") ∧
      f.resolve none false ∅ = .ok (some (.container (some choice)), none)) ∧
    (f.isMarkup = true ↔ f.RendersMarkup) ∧ f.withoutLaterReturns.isMarkup = true ∧
      (g.isMarkup = true ↔ g.RendersMarkup) ∧ f.body.result?.map .ofExpr = some (Markup.container (some choice)) := by
  intro row choice f g
  have hrenders : f.RendersMarkup := ⟨.paren choice, rfl, rfl⟩
  have hfound : ∀ d ∈ g.diagnose none default, d.code ≠ "ignored-return" := by decide
  have hresolve : f.resolve none false ∅ = .ok (some (.container (some choice)), none) := rfl
  obtain ⟨-, hagree, -, hwithout, htemplate⟩ := isMarkup_iff_rendersMarkup_iff f none default
  obtain ⟨-, -, hsingle, -, -⟩ := isMarkup_iff_rendersMarkup_iff g none default
  exact ⟨⟨hrenders, hfound, hresolve⟩, hagree.2 (Or.inl hrenders), hwithout.2 hrenders, hsingle hfound,
    (htemplate _ _ _ _ _ hresolve).symm⟩

/-- A function that renders something else, or nothing, and returns markup only behind that, counts as one that returns
markup. -/
theorem isMarkup_of_ignored_return :
    let row : Statement := .ret (some (.markup (.selfClosing (.ofName "Row"))))
    let f := Function.named "view" [] ⟨[.ret (some (.ident "text")), row]⟩
    let g := Function.named "view" [] ⟨[.ret none, row]⟩
    f.isMarkup = true ∧ f.body.result? = some (.ident "text") ∧ (Expr.ident "text").isMarkup = false ∧
      ¬ f.RendersMarkup ∧ g.isMarkup = true ∧ g.body.result? = none ∧ ¬ g.RendersMarkup ∧
      (∃ d ∈ f.diagnose none default, d.code = "ignored-return") := by
  intro row f g
  have hf : f.body.result? = some (.ident "text") := rfl
  have hg : g.body.result? = none := rfl
  refine ⟨rfl, hf, rfl, ?_, rfl, hg, ?_, by decide⟩
  · rintro ⟨e, he, hmarkup⟩
    rw [hf, Option.some.injEq] at he
    rw [← he] at hmarkup
    exact Bool.noConfusion hmarkup
  · rintro ⟨e, he, -⟩
    rw [hg] at he
    cases he

end Function

end ViewTemplate
