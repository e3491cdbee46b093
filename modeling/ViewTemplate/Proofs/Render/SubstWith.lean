import ViewTemplate.Proofs.Render.Substitution
import ViewTemplate.Proofs.Syntax.Sites

/-!
# Laws of replacing names

What `Expr.substWith` makes of an expression depends on the replacements of its free names only
(`Expr.substWith_congr`), and replacing names once more changes nothing if it does not change what they were replaced by
(`Expr.substWith_substWith`).  The free names of the result are those of what the free names are replaced by, but for a
shorthand whose replacement is printed as its own name: it stays, and with it the name (`Expr.substWith_accounts`).
-/

namespace ViewTemplate

theorem forall_mem_unionNames {p : String → Prop} {xs ys : List String} :
    (∀ x ∈ unionNames xs ys, p x) ↔ (∀ x ∈ xs, p x) ∧ ∀ x ∈ ys, p x := by
  simp only [mem_unionNames, or_imp, forall_and]

/-! ### Replacements of the free names -/

section

variable {σ τ : String → Expr}

mutual

/-- Replacements that agree on the free names make the same of an expression. -/
theorem Expr.substWith_congr : ∀ e : Expr, (∀ x ∈ e.freeNames, σ x = τ x) → e.substWith σ = e.substWith τ
  | .ident x, h => by
    rw [Expr.freeNames, List.forall_mem_singleton] at h
    rw [Expr.substWith, Expr.substWith, h]
  | .verbatim _, _ | .string _, _ | .number _, _ | .type _, _ | .markup _, _ | .function _, _ => by
    rw [Expr.substWith, Expr.substWith]
  | .property object _ _, h => by
    rw [Expr.freeNames] at h
    rw [Expr.substWith, Expr.substWith, object.substWith_congr h]
  | .element object argument, h => by
    rw [Expr.freeNames, forall_mem_unionNames] at h
    rw [Expr.substWith, Expr.substWith, object.substWith_congr h.1, argument.substWith_congr h.2]
  | .call callee arguments, h => by
    rw [Expr.freeNames, forall_mem_unionNames] at h
    rw [Expr.substWith, Expr.substWith, callee.substWith_congr h.1, substExprs_congr arguments h.2]
  | .binary left _ right, h => by
    rw [Expr.freeNames, forall_mem_unionNames] at h
    rw [Expr.substWith, Expr.substWith, left.substWith_congr h.1, right.substWith_congr h.2]
  | .unary _ operand, h => by
    rw [Expr.freeNames] at h
    rw [Expr.substWith, Expr.substWith, operand.substWith_congr h]
  | .conditional condition whenTrue whenFalse, h => by
    rw [Expr.freeNames, forall_mem_unionNames, forall_mem_unionNames] at h
    rw [Expr.substWith, Expr.substWith, condition.substWith_congr h.1.1, whenTrue.substWith_congr h.1.2,
      whenFalse.substWith_congr h.2]
  | .paren inner, h => by
    rw [Expr.freeNames] at h
    rw [Expr.substWith, Expr.substWith, inner.substWith_congr h]
  | .object entries, h => by
    rw [Expr.freeNames] at h
    rw [Expr.substWith, Expr.substWith, substEntries_congr entries h]
  | .array elements, h => by
    rw [Expr.freeNames] at h
    rw [Expr.substWith, Expr.substWith, substExprs_congr elements h]
  | .pattern p, h => by
    rw [Expr.freeNames] at h
    rw [Expr.substWith, Expr.substWith, p.substWith_congr h]

theorem substExprs_congr :
    ∀ es : List Expr, (∀ x ∈ freeNamesOfExprs es, σ x = τ x) → substExprs σ es = substExprs τ es
  | [], _ => by rw [substExprs, substExprs]
  | e :: es, h => by
    rw [freeNamesOfExprs, forall_mem_unionNames] at h
    rw [substExprs, substExprs, e.substWith_congr h.1, substExprs_congr es h.2]

theorem substExpr?_congr :
    ∀ e : Option Expr, (∀ x ∈ freeNamesOfExpr? e, σ x = τ x) → substExpr? σ e = substExpr? τ e
  | none, _ => by rw [substExpr?, substExpr?]
  | some e, h => by
    rw [freeNamesOfExpr?] at h
    rw [substExpr?, substExpr?, e.substWith_congr h]

theorem ObjectEntry.substWith_congr :
    ∀ e : ObjectEntry, (∀ x ∈ e.freeNames, σ x = τ x) → e.substWith σ = e.substWith τ
  | .keyed _ value, h | .spread value, h => by
    rw [ObjectEntry.freeNames] at h
    rw [ObjectEntry.substWith, ObjectEntry.substWith, value.substWith_congr h]
  | .shorthand x, h => by
    rw [ObjectEntry.freeNames, List.forall_mem_singleton] at h
    rw [ObjectEntry.substWith, ObjectEntry.substWith, h]

theorem substEntries_congr :
    ∀ es : List ObjectEntry, (∀ x ∈ freeNamesOfEntries es, σ x = τ x) → substEntries σ es = substEntries τ es
  | [], _ => by rw [substEntries, substEntries]
  | e :: es, h => by
    rw [freeNamesOfEntries, forall_mem_unionNames] at h
    rw [substEntries, substEntries, e.substWith_congr h.1, substEntries_congr es h.2]

theorem Pattern.substWith_congr :
    ∀ p : Pattern, (∀ x ∈ p.freeNames, σ x = τ x) → p.substWith σ = p.substWith τ
  | ⟨_, elements⟩, h => by
    rw [Pattern.freeNames] at h
    rw [Pattern.substWith, Pattern.substWith, substBindings_congr elements h]

theorem Binding.substWith_congr :
    ∀ b : Binding, (∀ x ∈ b.freeNames, σ x = τ x) → b.substWith σ = b.substWith τ
  | ⟨_, _, target, fallback⟩, h => by
    rw [Binding.freeNames, forall_mem_unionNames] at h
    rw [Binding.substWith, Binding.substWith, target.substWith_congr h.1, substExpr?_congr fallback h.2]

theorem substBindings_congr :
    ∀ bs : List Binding, (∀ x ∈ freeNamesOfBindings bs, σ x = τ x) → substBindings σ bs = substBindings τ bs
  | [], _ => by rw [substBindings, substBindings]
  | b :: bs, h => by
    rw [freeNamesOfBindings, forall_mem_unionNames] at h
    rw [substBindings, substBindings, b.substWith_congr h.1, substBindings_congr bs h.2]

theorem Target.substWith_congr :
    ∀ t : Target, (∀ x ∈ t.freeNames, σ x = τ x) → t.substWith σ = t.substWith τ
  | .name _, _ => by rw [Target.substWith, Target.substWith]
  | .pattern p, h => by
    rw [Target.freeNames] at h
    rw [Target.substWith, Target.substWith, p.substWith_congr h]

end

/-! ### Replacing once more -/

mutual

/-- Replacing names once more changes nothing if what the free names were replaced by stays. -/
theorem Expr.substWith_substWith :
    ∀ e : Expr, (∀ x ∈ e.freeNames, (σ x).substWith σ = σ x) → (e.substWith σ).substWith σ = e.substWith σ
  | .ident x, h => by
    rw [Expr.freeNames, List.forall_mem_singleton] at h
    rw [Expr.substWith, h]
  | .verbatim _, _ | .string _, _ | .number _, _ | .type _, _ | .markup _, _ | .function _, _ => by
    rw [Expr.substWith, Expr.substWith]
  | .property object _ _, h => by
    rw [Expr.freeNames] at h
    rw [Expr.substWith, Expr.substWith, object.substWith_substWith h]
  | .element object argument, h => by
    rw [Expr.freeNames, forall_mem_unionNames] at h
    rw [Expr.substWith, Expr.substWith, object.substWith_substWith h.1, argument.substWith_substWith h.2]
  | .call callee arguments, h => by
    rw [Expr.freeNames, forall_mem_unionNames] at h
    rw [Expr.substWith, Expr.substWith, callee.substWith_substWith h.1, substExprs_substExprs arguments h.2]
  | .binary left _ right, h => by
    rw [Expr.freeNames, forall_mem_unionNames] at h
    rw [Expr.substWith, Expr.substWith, left.substWith_substWith h.1, right.substWith_substWith h.2]
  | .unary _ operand, h => by
    rw [Expr.freeNames] at h
    rw [Expr.substWith, Expr.substWith, operand.substWith_substWith h]
  | .conditional condition whenTrue whenFalse, h => by
    rw [Expr.freeNames, forall_mem_unionNames, forall_mem_unionNames] at h
    rw [Expr.substWith, Expr.substWith, condition.substWith_substWith h.1.1, whenTrue.substWith_substWith h.1.2,
      whenFalse.substWith_substWith h.2]
  | .paren inner, h => by
    rw [Expr.freeNames] at h
    rw [Expr.substWith, Expr.substWith, inner.substWith_substWith h]
  | .object entries, h => by
    rw [Expr.freeNames] at h
    rw [Expr.substWith, Expr.substWith, substEntries_substEntries entries h]
  | .array elements, h => by
    rw [Expr.freeNames] at h
    rw [Expr.substWith, Expr.substWith, substExprs_substExprs elements h]
  | .pattern p, h => by
    rw [Expr.freeNames] at h
    rw [Expr.substWith, Expr.substWith, p.substWith_substWith h]

theorem substExprs_substExprs :
    ∀ es : List Expr, (∀ x ∈ freeNamesOfExprs es, (σ x).substWith σ = σ x) →
      substExprs σ (substExprs σ es) = substExprs σ es
  | [], _ => by rw [substExprs, substExprs]
  | e :: es, h => by
    rw [freeNamesOfExprs, forall_mem_unionNames] at h
    rw [substExprs, substExprs, e.substWith_substWith h.1, substExprs_substExprs es h.2]

theorem substExpr?_substExpr? :
    ∀ e : Option Expr, (∀ x ∈ freeNamesOfExpr? e, (σ x).substWith σ = σ x) →
      substExpr? σ (substExpr? σ e) = substExpr? σ e
  | none, _ => by rw [substExpr?, substExpr?]
  | some e, h => by
    rw [freeNamesOfExpr?] at h
    rw [substExpr?, substExpr?, e.substWith_substWith h]

theorem ObjectEntry.substWith_substWith :
    ∀ e : ObjectEntry, (∀ x ∈ e.freeNames, (σ x).substWith σ = σ x) → (e.substWith σ).substWith σ = e.substWith σ
  | .keyed _ value, h | .spread value, h => by
    rw [ObjectEntry.freeNames] at h
    rw [ObjectEntry.substWith, ObjectEntry.substWith, value.substWith_substWith h]
  | .shorthand x, h => by
    rw [ObjectEntry.freeNames, List.forall_mem_singleton] at h
    rw [ObjectEntry.substWith]
    split
    · next hx => rw [ObjectEntry.substWith, if_pos hx]
    · rw [ObjectEntry.substWith, h]

theorem substEntries_substEntries :
    ∀ es : List ObjectEntry, (∀ x ∈ freeNamesOfEntries es, (σ x).substWith σ = σ x) →
      substEntries σ (substEntries σ es) = substEntries σ es
  | [], _ => by rw [substEntries, substEntries]
  | e :: es, h => by
    rw [freeNamesOfEntries, forall_mem_unionNames] at h
    rw [substEntries, substEntries, e.substWith_substWith h.1, substEntries_substEntries es h.2]

theorem Pattern.substWith_substWith :
    ∀ p : Pattern, (∀ x ∈ p.freeNames, (σ x).substWith σ = σ x) → (p.substWith σ).substWith σ = p.substWith σ
  | ⟨_, elements⟩, h => by
    rw [Pattern.freeNames] at h
    rw [Pattern.substWith, Pattern.substWith, substBindings_substBindings elements h]

theorem Binding.substWith_substWith :
    ∀ b : Binding, (∀ x ∈ b.freeNames, (σ x).substWith σ = σ x) → (b.substWith σ).substWith σ = b.substWith σ
  | ⟨_, _, target, fallback⟩, h => by
    rw [Binding.freeNames, forall_mem_unionNames] at h
    rw [Binding.substWith, Binding.substWith, target.substWith_substWith h.1, substExpr?_substExpr? fallback h.2]

theorem substBindings_substBindings :
    ∀ bs : List Binding, (∀ x ∈ freeNamesOfBindings bs, (σ x).substWith σ = σ x) →
      substBindings σ (substBindings σ bs) = substBindings σ bs
  | [], _ => by rw [substBindings, substBindings]
  | b :: bs, h => by
    rw [freeNamesOfBindings, forall_mem_unionNames] at h
    rw [substBindings, substBindings, b.substWith_substWith h.1, substBindings_substBindings bs h.2]

theorem Target.substWith_substWith :
    ∀ t : Target, (∀ x ∈ t.freeNames, (σ x).substWith σ = σ x) → (t.substWith σ).substWith σ = t.substWith σ
  | .name _, _ => by rw [Target.substWith, Target.substWith]
  | .pattern p, h => by
    rw [Target.freeNames] at h
    rw [Target.substWith, Target.substWith, p.substWith_substWith h]

end

end

/-! ### The free names of the result -/

/-- At the site of a shorthand whose replacement is printed as its own name, the shorthand stays. -/
def Site.Stays (σ : String → Expr) (sites : List Site) (x : String) : Prop :=
  Site.shorthand [] x ∈ sites ∧ (σ x).render none = x

/-- `names'` are the free names of what replaced `names`, except that a shorthand that stays is left as a name. -/
structure Site.Accounts (σ : String → Expr) (names : List String) (sites : List Site) (names' : List String) :
    Prop where
  free : ∀ x, Site.shorthand [] x ∈ sites → x ∈ names
  found : ∀ y ∈ names', (∃ x ∈ names, y ∈ (σ x).freeNames) ∨ Site.Stays σ sites y
  placed : ∀ x ∈ names, ∀ y ∈ (σ x).freeNames, y ∈ names' ∨ Site.Stays σ sites x
  kept : ∀ x, Site.Stays σ sites x → x ∈ names'

namespace Site.Accounts

variable {σ : String → Expr} {names names₁ names₂ names₁' names₂' : List String} {sites sites₁ sites₂ : List Site}

private theorem nil : Accounts σ [] [] [] where
  free x h := by simp at h
  found y h := by simp at h
  placed x h := by simp at h
  kept x h := by simp [Stays] at h

private theorem union (h₁ : Accounts σ names₁ sites₁ names₁') (h₂ : Accounts σ names₂ sites₂ names₂') :
    Accounts σ (unionNames names₁ names₂) (sites₁ ++ sites₂) (unionNames names₁' names₂') := by
  have hstays : ∀ x, Stays σ (sites₁ ++ sites₂) x ↔ Stays σ sites₁ x ∨ Stays σ sites₂ x := fun x => by
    simp only [Stays, List.mem_append, or_and_right]
  refine ⟨fun x hx => ?_, fun y hy => ?_, fun x hx y hy => ?_, fun x hx => ?_⟩
  · exact mem_unionNames.2 ((List.mem_append.1 hx).imp (h₁.free x) (h₂.free x))
  · simp only [mem_unionNames, hstays]
    rcases mem_unionNames.1 hy with hy | hy
    · exact (h₁.found y hy).imp (fun ⟨x, hx, hyx⟩ => ⟨x, Or.inl hx, hyx⟩) Or.inl
    · exact (h₂.found y hy).imp (fun ⟨x, hx, hyx⟩ => ⟨x, Or.inr hx, hyx⟩) Or.inr
  · simp only [mem_unionNames, hstays]
    rcases mem_unionNames.1 hx with hx | hx
    · exact (h₁.placed x hx y hy).imp Or.inl Or.inl
    · exact (h₂.placed x hx y hy).imp Or.inr Or.inr
  · rw [mem_unionNames]
    exact ((hstays x).1 hx).imp (h₁.kept x) (h₂.kept x)

end Site.Accounts

section

variable {σ : String → Expr}

mutual

/-- What becomes of the free names of an expression without markup and functions. -/
theorem Expr.substWith_accounts :
    ∀ e : Expr, e.every .plain = true → Site.Accounts σ e.freeNames (e.sites []) (e.substWith σ).freeNames
  | .ident x, _ => by
    rw [Expr.freeNames, Expr.sites, Expr.substWith]
    exact ⟨fun z hz => by simp at hz, fun y hy => Or.inl ⟨x, List.mem_singleton_self x, hy⟩,
      fun z hz y hy => Or.inl (List.mem_singleton.1 hz ▸ hy), fun z hz => by simp [Site.Stays] at hz⟩
  | .verbatim _, _ | .string _, _ | .number _, _ | .type _, _ => by
    rw [Expr.substWith, Expr.freeNames, Expr.sites]
    exact .nil
  | .property object _ _, h => by
    simp only [Expr.every, Bool.and_eq_true] at h
    rw [Expr.freeNames, Expr.sites, Expr.substWith, Expr.freeNames]
    exact object.substWith_accounts h.2
  | .element object argument, h => by
    simp only [Expr.every, Bool.and_eq_true] at h
    rw [Expr.freeNames, Expr.sites, Expr.substWith, Expr.freeNames]
    exact (object.substWith_accounts h.1.2).union (argument.substWith_accounts h.2)
  | .call callee arguments, h => by
    simp only [Expr.every, Bool.and_eq_true] at h
    rw [Expr.freeNames, Expr.sites, Expr.substWith, Expr.freeNames]
    exact (callee.substWith_accounts h.1.2).union (substExprs_accounts arguments h.2)
  | .binary left _ right, h => by
    simp only [Expr.every, Bool.and_eq_true] at h
    rw [Expr.freeNames, Expr.sites, Expr.substWith, Expr.freeNames]
    exact (left.substWith_accounts h.1.2).union (right.substWith_accounts h.2)
  | .unary _ operand, h => by
    simp only [Expr.every, Bool.and_eq_true] at h
    rw [Expr.freeNames, Expr.sites, Expr.substWith, Expr.freeNames]
    exact operand.substWith_accounts h.2
  | .conditional condition whenTrue whenFalse, h => by
    simp only [Expr.every, Bool.and_eq_true] at h
    rw [Expr.freeNames, Expr.sites, Expr.substWith, Expr.freeNames]
    exact ((condition.substWith_accounts h.1.1.2).union (whenTrue.substWith_accounts h.1.2)).union
      (whenFalse.substWith_accounts h.2)
  | .paren inner, h => by
    simp only [Expr.every, Bool.and_eq_true] at h
    rw [Expr.freeNames, Expr.sites, Expr.substWith, Expr.freeNames]
    exact inner.substWith_accounts h.2
  | .object entries, h => by
    simp only [Expr.every, Bool.and_eq_true] at h
    rw [Expr.freeNames, Expr.sites, Expr.substWith, Expr.freeNames]
    exact substEntries_accounts entries h.2
  | .array elements, h => by
    simp only [Expr.every, Bool.and_eq_true] at h
    rw [Expr.freeNames, Expr.sites, Expr.substWith, Expr.freeNames]
    exact substExprs_accounts elements h.2
  | .pattern p, h => by
    simp only [Expr.every, Bool.and_eq_true] at h
    rw [Expr.freeNames, Expr.sites, Expr.substWith, Expr.freeNames]
    exact p.substWith_accounts h.2
  | .markup _, h | .function _, h => by simp [Expr.every, Check.plain] at h

theorem substExprs_accounts :
    ∀ es : List Expr, everyExpr .plain es = true →
      Site.Accounts σ (freeNamesOfExprs es) (sitesOfExprs [] es) (freeNamesOfExprs (substExprs σ es))
  | [], _ => by
    rw [substExprs, freeNamesOfExprs, sitesOfExprs]
    exact .nil
  | e :: es, h => by
    simp only [everyExpr, Bool.and_eq_true] at h
    rw [freeNamesOfExprs, sitesOfExprs, substExprs, freeNamesOfExprs]
    exact (e.substWith_accounts h.1).union (substExprs_accounts es h.2)

theorem substExpr?_accounts :
    ∀ e : Option Expr, everyExpr? .plain e = true →
      Site.Accounts σ (freeNamesOfExpr? e) (sitesOfExpr? [] e) (freeNamesOfExpr? (substExpr? σ e))
  | none, _ => by
    rw [substExpr?, freeNamesOfExpr?, sitesOfExpr?]
    exact .nil
  | some e, h => by
    rw [everyExpr?] at h
    rw [freeNamesOfExpr?, sitesOfExpr?, substExpr?, freeNamesOfExpr?]
    exact e.substWith_accounts h

theorem ObjectEntry.substWith_accounts :
    ∀ e : ObjectEntry, e.every .plain = true → Site.Accounts σ e.freeNames (e.sites []) (e.substWith σ).freeNames
  | .keyed _ value, h | .spread value, h => by
    simp only [ObjectEntry.every, Bool.and_eq_true] at h
    rw [ObjectEntry.freeNames, ObjectEntry.sites, ObjectEntry.substWith, ObjectEntry.freeNames]
    exact value.substWith_accounts h.2
  | .shorthand x, _ => by
    have hstays : ∀ z, Site.Stays σ [.name [] x, .shorthand [] x] z ↔ z = x ∧ (σ z).render none = z := fun z => by
      simp [Site.Stays]
    have hfree : ∀ z, Site.shorthand [] z ∈ [Site.name [] x, .shorthand [] x] → z ∈ [x] := fun z hz => by
      simpa using hz
    rw [ObjectEntry.freeNames, ObjectEntry.sites, ObjectEntry.substWith]
    split
    · next hx =>
      rw [ObjectEntry.freeNames]
      refine ⟨hfree, fun y hy => ?_, fun z hz _ _ => ?_, fun z hz => ?_⟩
      · obtain rfl := List.mem_singleton.1 hy
        exact Or.inr ((hstays y).2 ⟨rfl, hx⟩)
      · obtain rfl := List.mem_singleton.1 hz
        exact Or.inr ((hstays z).2 ⟨rfl, hx⟩)
      · exact List.mem_singleton.2 ((hstays z).1 hz).1
    · next hx =>
      rw [ObjectEntry.freeNames]
      refine ⟨hfree, fun y hy => Or.inl ⟨x, List.mem_singleton_self x, hy⟩,
        fun z hz y hy => Or.inl (List.mem_singleton.1 hz ▸ hy), fun z hz => ?_⟩
      obtain ⟨rfl, hsame⟩ := (hstays z).1 hz
      exact absurd hsame hx

theorem substEntries_accounts :
    ∀ es : List ObjectEntry, everyEntry .plain es = true →
      Site.Accounts σ (freeNamesOfEntries es) (sitesOfEntries [] es) (freeNamesOfEntries (substEntries σ es))
  | [], _ => by
    rw [substEntries, freeNamesOfEntries, sitesOfEntries]
    exact .nil
  | e :: es, h => by
    simp only [everyEntry, Bool.and_eq_true] at h
    rw [freeNamesOfEntries, sitesOfEntries, substEntries, freeNamesOfEntries]
    exact (e.substWith_accounts h.1).union (substEntries_accounts es h.2)

theorem Pattern.substWith_accounts :
    ∀ p : Pattern, p.every .plain = true → Site.Accounts σ p.freeNames (p.sites []) (p.substWith σ).freeNames
  | ⟨_, elements⟩, h => by
    rw [Pattern.every] at h
    rw [Pattern.freeNames, Pattern.sites, Pattern.substWith, Pattern.freeNames]
    exact substBindings_accounts elements h

theorem Binding.substWith_accounts :
    ∀ b : Binding, b.every .plain = true → Site.Accounts σ b.freeNames (b.sites []) (b.substWith σ).freeNames
  | ⟨_, _, target, fallback⟩, h => by
    simp only [Binding.every, Bool.and_eq_true] at h
    rw [Binding.freeNames, Binding.sites, Binding.substWith, Binding.freeNames]
    exact (target.substWith_accounts h.1.2).union (substExpr?_accounts fallback h.2)

theorem substBindings_accounts :
    ∀ bs : List Binding, everyBinding .plain bs = true →
      Site.Accounts σ (freeNamesOfBindings bs) (sitesOfBindings [] bs) (freeNamesOfBindings (substBindings σ bs))
  | [], _ => by
    rw [substBindings, freeNamesOfBindings, sitesOfBindings]
    exact .nil
  | b :: bs, h => by
    simp only [everyBinding, Bool.and_eq_true] at h
    rw [freeNamesOfBindings, sitesOfBindings, substBindings, freeNamesOfBindings]
    exact (b.substWith_accounts h.1).union (substBindings_accounts bs h.2)

theorem Target.substWith_accounts :
    ∀ t : Target, t.every .plain = true → Site.Accounts σ t.freeNames (t.sites []) (t.substWith σ).freeNames
  | .name _, _ => by
    rw [Target.substWith, Target.freeNames, Target.sites]
    exact .nil
  | .pattern p, h => by
    simp only [Target.every, Bool.and_eq_true] at h
    rw [Target.freeNames, Target.sites, Target.substWith, Target.freeNames]
    exact p.substWith_accounts h.2

end

end

end ViewTemplate
