import ViewTemplate.Proofs.VariableMap
import ViewTemplate.Render.Expansion

/-!
# Laws of scopes

Taking names out of a scope takes away what they stand for and nothing else (`Scope.value?_without`), and a name that
stood for something leaves fewer variables (`Scope.size_without_lt`), which is what printing values ends by.  A scope
whose instance has no name has no name that is the instance.
-/

namespace ViewTemplate

namespace Scope

variable {s t : Scope} {x : String} {v : Expr}

/-! ### Taking names out -/

theorem value?_without (s : Scope) (names : List String) (x : String) :
    (s.without names).value? x = if x ∈ names then none else s.value? x :=
  VariableMap.get?_eraseAll names

/-- The values of a scope without some names are values of the scope. -/
theorem value?_of_value?_without {names : List String} (h : (s.without names).value? x = some v) :
    x ∉ names ∧ s.value? x = some v := by
  rw [value?_without] at h
  split at h
  · exact absurd h (by simp)
  · next hx => exact ⟨hx, h⟩

theorem without_nil (s : Scope) : s.without [] = s := by
  rw [without, VariableMap.eraseAll_nil]

/-- Names taken out one after the other are all taken out. -/
theorem without_without (s : Scope) (names names' : List String) :
    (s.without names).without names' = s.without (names' ++ names) := by
  simp only [without, VariableMap.eraseAll_eraseAll]

/-- Names that are taken out anyway can be taken out before. -/
theorem without_without_of_subset {names names' : List String} (h : names ⊆ names') (s : Scope) :
    (s.without names).without names' = s.without names' := by
  rw [without_without]
  exact congrArg s.withVars (VariableMap.eraseAll_congr (fun x => by simpa using fun hx => h hx) s.vars)

theorem hiding_nil (s : Option Scope) : Scope.hiding s [] = s := by
  cases s with
  | none => rfl
  | some s => exact congrArg some s.without_nil

theorem hiding_hiding (s : Option Scope) (names names' : List String) :
    Scope.hiding (Scope.hiding s names) names' = Scope.hiding s (names' ++ names) := by
  cases s with
  | none => rfl
  | some s => exact congrArg some (s.without_without names names')

theorem size_without_le (s : Scope) (names : List String) : (s.without names).vars.size ≤ s.vars.size :=
  VariableMap.size_eraseAll_le s.vars names

/-- A value is printed in a scope with fewer variables. -/
theorem size_without_lt (h : s.value? x = some v) : (s.without [x]).vars.size < s.vars.size :=
  VariableMap.size_eraseAll_lt (List.mem_singleton_self x) h

/-! ### The component instance -/

/-- The scopes describe the same component instance. -/
structure SameInstance (s t : Scope) : Prop where
  context : s.context = t.context
  newContext : s.newContext = t.newContext
  members : s.members = t.members

namespace SameInstance

theorem refl (s : Scope) : s.SameInstance s :=
  ⟨rfl, rfl, rfl⟩

theorem without (h : s.SameInstance t) (names : List String) : (s.without names).SameInstance (t.without names) :=
  ⟨h.context, h.newContext, h.members⟩

theorem memberAccess (h : s.SameInstance t) (name : String) : s.memberAccess name = t.memberAccess name := by
  have he : s.effectiveContext = t.effectiveContext := by
    rw [effectiveContext, effectiveContext, h.context, h.newContext]
  rw [Scope.memberAccess, Scope.memberAccess, member?, member?, h.members, he]

/-- A name that stands for the same in both scopes is the instance in both or in neither. -/
theorem isContext (h : s.SameInstance t) (hx : s.value? x = t.value? x) : s.isContext x = t.isContext x := by
  have hc : s.vars.contains x = t.vars.contains x := by
    rw [VariableMap.contains_eq_isSome, VariableMap.contains_eq_isSome]
    exact congrArg Option.isSome hx
  rw [Scope.isContext, Scope.isContext, h.context, hc]

theorem contextText (h : s.SameInstance t) (hx : s.value? x = t.value? x) : s.contextText x = t.contextText x := by
  rw [Scope.contextText, Scope.contextText, h.isContext hx, h.newContext]

end SameInstance

/-- A name that stands for something is not the instance. -/
theorem isContext_eq_false_of_value (hv : s.value? x = some v) : s.isContext x = false := by
  have hc : s.vars.contains x = true := by
    rw [VariableMap.contains_eq_isSome]
    exact Option.isSome_iff_exists.2 ⟨v, hv⟩
  simp [isContext, hc]

theorem context_eq_of_isContext (h : s.isContext x = true) : s.context = x := by
  simp only [isContext, Bool.and_eq_true] at h
  exact eq_of_beq h.1.2

theorem isContext_of_context_eq_empty (hc : s.context = "") (x : String) : s.isContext x = false := by
  simp [isContext, hc]

theorem contextText_of_context_eq_empty (hc : s.context = "") (x : String) : s.contextText x = x := by
  simp [contextText, isContext_of_context_eq_empty hc]

end Scope

/-! ### Properties of a name -/

/-- Only the name of the instance reads a member of it. -/
theorem Expr.propertyText_ident (s : Scope) (x text name : String) (optional : Bool) :
    (Expr.ident x).propertyText (some s) text name optional =
      if s.isContext x then s.memberAccess name else text ++ (if optional then "?." else ".") ++ name := by
  cases h : s.isContext x <;>
    simp [Expr.propertyText, Expr.instance?, Expr.ident?, Option.filter, h, Expr.operandText, Expr.isPrimary]

theorem Expr.propertyText_congr_of_not_isContext {s t : Scope} {x : String} (hs : s.isContext x = false)
    (ht : t.isContext x = false) (text name : String) (optional : Bool) :
    (Expr.ident x).propertyText (some s) text name optional =
      (Expr.ident x).propertyText (some t) text name optional := by
  rw [propertyText_ident, propertyText_ident, hs, ht]
  rfl

end ViewTemplate
