import ViewTemplate.Proofs.Render.Encounters

/-!
# Names that blocks declare

The free names of a block leave out what it declares.  Printing does so only for the block that is the body of a
function: there the function takes the declared names out of the scope (`Function.render_without`).  A block by itself,
and so a block inside another one, is printed in the scope around it, where a name that it declares may still stand for
something.

`Block.render_without_declaredNames` says for which blocks this makes no difference in any scope: at every site of the
block the name is hidden by a function inside, or all declared names are.
-/

namespace ViewTemplate

/-! ### Names that are taken out -/

/-- The name `x` is one of `names` and stands for something. -/
def Scope.Replaces (names : List String) (s : Scope) (x : String) : Prop :=
  x ∈ names ∧ (s.value? x).isSome = true

section

variable {names : List String} {s : Scope} {n : Node} {f : Function}

/-- A scope differs from the scope without some names only where it replaces these. -/
theorem Scope.differOnlyAt_without (names : List String) : DifferOnlyAt (Replaces names)
    fun s t => s.SameInstance t ∧ ∀ x, t.value? x = if x ∈ names then none else s.value? x where
  without {s t} names' h := by
    refine ⟨h.1.without names', fun x => ?_⟩
    rw [value?_without, value?_without, h.2]
    split <;> split <;> rfl
  value {s t x} h hx := by
    rw [h.2]
    split
    · next hn =>
      rw [Replaces, not_and, Bool.not_eq_true, Option.isSome_eq_false_iff, Option.isNone_iff_eq_none] at hx
      exact hx hn
    · rfl
  sameInstance h _ := Or.inl h.1
  erase {s x} _ h := by
    have hx := h.2
    rw [value?_without, if_pos (List.mem_singleton_self x)] at hx
    exact Bool.noConfusion hx

/-- What comes to none of the names as long as they stand for something is printed alike without them. -/
theorem Node.render_without (h : ¬ n.ComesTo (Scope.Replaces names) s) :
    n.render (some s) = n.render (some (s.without names)) :=
  n.render_eq_of_not_comesTo (Scope.differOnlyAt_without names)
    ⟨⟨rfl, rfl, rfl⟩, fun x => s.value?_without names x⟩ h

/-- Where none of the names stands for anything, printing comes to none that does. -/
theorem Scope.not_comesTo_replaces (h : ∀ x ∈ names, s.value? x = none) (x : String) :
    ¬ s.ComesTo (Replaces names) x := by
  intro hx
  induction hx with
  | @here s x hx =>
    have hnone := h x hx.1
    rw [Replaces, hnone] at hx
    exact Bool.noConfusion hx.2
  | @value s x y v inner _ _ _ _ ih =>
    refine ih fun z hz => ?_
    simp only [value?_without, h z hz, ite_self]

/-- A name that stands for nothing comes to no name that is replaced. -/
theorem Scope.not_comesTo_replaces_of_value?_eq_none {x : String} (h : s.value? x = none) :
    ¬ s.ComesTo (Replaces names) x := by
  intro hx
  have hreplaces := (hx.of_value?_eq_none h).2
  rw [h] at hreplaces
  exact Bool.noConfusion hreplaces

/-- A function whose decorators look up nothing is printed alike in the scope without names that it binds. -/
theorem Function.render_without (hf : f.form.lookups = []) (hn : names ⊆ f.boundNames) (s : Scope) :
    f.render (some s) = f.render (some (s.without names)) := by
  refine Eq.trans ?_ ((Node.function f).renderWith_upTo (s.size_without_le names))
  show f.renderWith (.upTo s.vars.size) (some s) = f.renderWith (.upTo s.vars.size) (some (s.without names))
  obtain ⟨form, modifiers, typeParameters, parameters, returnType, body⟩ := f
  rw [Function.renderWith, Function.renderWith]
  simp only [Scope.hiding, Option.map_some, Scope.without_without_of_subset hn]
  rw [← Scope.hiding_nil (some s), ← Scope.hiding_nil (some (s.without names))]
  refine FunctionForm.renderWith_congr_sites [] _ _ _ form fun site hsite => ?_
  cases site with
  | name inner x =>
    -- the name is hidden at a site of a decorator, so it stands for nothing there
    have hx : x ∈ inner := by
      refine Decidable.byContradiction fun hx => ?_
      have hlookup := (form.sites_coveredBy [] inner x hsite hx).1
      rw [hf] at hlookup
      exact List.not_mem_nil hlookup
    have hnone : (s.without inner).value? x = none := by rw [Scope.value?_without, if_pos hx]
    have hdiffer := Scope.differOnlyAt_without names
    have hle := (s.without names).size_without_le inner
    exact hdiffer.correspondence.answersAlike (s.size_without_le inner) (Nat.le_trans hle (s.size_without_le names))
      ⟨hdiffer.without inner ⟨⟨rfl, rfl, rfl⟩, fun x => s.value?_without names x⟩,
        Scope.not_comesTo_replaces_of_value?_eq_none hnone⟩
  | shorthand _ _ => trivial
  | element _ _ _ => trivial

end

/-! ### Names that show in the text -/

section

open Text (Contains)

variable {s : Scope} {x y d w : String} {k : Nat} {n : Node}

/-- A name that stands for a text that is printed as it is shows this text. -/
theorem Scope.shows_verbatim (hv : s.value? x = some (.verbatim w)) (hk : s.vars.size ≤ k) :
    (Expansion.upTo k).Shows (some s) w x := by
  have hlt := size_without_lt hv
  obtain ⟨k, rfl⟩ : ∃ m, k = m + 1 := ⟨k - 1, by omega⟩
  refine ⟨?_, fun text name optional h => ?_, fun text h => ?_⟩
  · simp only [Expansion.identText, hv, Expansion.upTo, Expr.renderWith]
    exact Text.contains_self w
  · rw [Expr.propertyText_ident, isContext_eq_false_of_value hv]
    exact (h.before _).before _
  · rw [ResolvedTag.ofText]
    split
    · exact h
    · simp only [Expr.replacement?, Expr.ident?, Option.bind_some, hv, Option.map_some, Expr.stripParens,
        Expansion.upTo, Expr.renderWith]
      exact Text.contains_self w

/-- The text that a name stands for is part of the text of what comes to the name. -/
theorem Node.contains_verbatim (h : n.ComesTo (fun t x => t.value? x = some (.verbatim w)) s) :
    Contains w (n.render (some s)) :=
  n.contains_of_comesTo h fun _ _ _ hv hk => Scope.shows_verbatim hv hk

/-- The scope without an instance in which the names of the entries stand for something. -/
private def Scope.ofEntries (entries : List (String × Expr)) : Scope :=
  (ofContext "").withVars (.ofList entries)

private theorem Scope.value?_ofEntries (entries : List (String × Expr)) (x : String) :
    (ofEntries entries).value? x = entries.reverse.lookup x :=
  VariableMap.get?_ofList entries

/-- A piece of syntax is not always printed as without some names, if it can show any text and none of it is left
without the names. -/
private theorem Node.exists_render_without_ne {names : List String} {t : Scope} (u : String → Scope)
    (hcomes : ∀ w, n.ComesTo (fun s x => s.value? x = some (.verbatim w)) (u w))
    (hsame : ∀ w, ((u w).without names).SameInstance t)
    (hvalue : ∀ w x, ((u w).without names).value? x = t.value? x) :
    ∃ s, n.render (some s) ≠ n.render (some (s.without names)) := by
  refine Classical.byContradiction fun h => Text.not_forall_contains (n.render (some t)) fun w _ => ?_
  have heq : n.render (some (u w)) = n.render (some ((u w).without names)) :=
    Decidable.byContradiction fun hne => h ⟨u w, hne⟩
  rw [← n.render_congr (hsame w) (hvalue w), ← heq]
  exact n.contains_verbatim (hcomes w)

/-- A name comes to a text through another one, where neither is taken out. -/
private theorem Scope.comesTo_verbatim {inner : List String} (hy : y ∉ inner) (hd : d ∉ inner) (hdy : d ≠ y)
    (w : String) :
    ((ofEntries [(y, .ident d), (d, .verbatim w)]).without inner).ComesTo
      (fun s x => s.value? x = some (.verbatim w)) y := by
  have hv : ((ofEntries [(y, .ident d), (d, .verbatim w)]).without inner).value? y = some (.ident d) := by
    simp [value?_without, value?_ofEntries, lookup_cons_ite, hy, Ne.symm hdy]
  have hself : (Expr.ident d).ident? ≠ some y := by simp [Expr.ident?, hdy]
  have hsite : Site.name [] d ∈ (Expr.ident d).sites [] := by simp [Expr.sites]
  refine .value hv hself hsite (.here ?_)
  simp [value?_without, value?_ofEntries, hd, hdy]

/-- In every scope a piece of syntax is printed as without some names, exactly if wherever a name is asked for and not
hidden, all these names are hidden. -/
theorem Node.render_without_iff {names : List String} (n : Node) :
    (∀ s, n.render (some s) = n.render (some (s.without names))) ↔
      ∀ inner x, Site.name inner x ∈ n.sites → x ∉ inner → names ⊆ inner := by
  constructor
  · intro h inner y hsite hy d hd
    refine Decidable.byContradiction fun hdi => ?_
    suffices hne : ∃ s, n.render (some s) ≠ n.render (some (s.without names)) by
      obtain ⟨s, hne⟩ := hne
      exact hne (h s)
    by_cases hyn : y ∈ names
    · -- the name itself stands for the text
      refine Node.exists_render_without_ne (t := .ofEntries []) (fun w => .ofEntries [(y, .verbatim w)])
        (fun w => ⟨inner, y, hsite, .here ?_⟩) (fun _ => ⟨rfl, rfl, rfl⟩) fun w x => ?_
      · simp [Scope.value?_without, Scope.value?_ofEntries, hy]
      · by_cases hx : x = y <;> simp [Scope.value?_without, Scope.value?_ofEntries, lookup_cons_ite, hx, hyn]
    · -- the name stands for one of the names, and this one for the text
      have hdy : d ≠ y := fun h => hyn (h ▸ hd)
      refine Node.exists_render_without_ne (t := .ofEntries [(y, .ident d)])
        (fun w => .ofEntries [(y, .ident d), (d, .verbatim w)])
        (fun w => ⟨inner, y, hsite, Scope.comesTo_verbatim hy hdi hdy w⟩) (fun _ => ⟨rfl, rfl, rfl⟩) fun w x => ?_
      by_cases hx : x = d
      · simp [Scope.value?_without, Scope.value?_ofEntries, lookup_cons_ite, hx, hd, hdy]
      · by_cases hxy : x = y <;>
          simp [Scope.value?_without, Scope.value?_ofEntries, lookup_cons_ite, hx, hxy, hyn, Ne.symm hdy]
  · intro h s
    apply Node.render_without
    rintro ⟨inner, x, hsite, hcomes⟩
    by_cases hx : x ∈ inner
    · exact Scope.not_comesTo_replaces_of_value?_eq_none (by rw [Scope.value?_without, if_pos hx]) hcomes
    · refine Scope.not_comesTo_replaces (fun y hy => ?_) x hcomes
      rw [Scope.value?_without, if_pos (h inner x hsite hx hy)]

end

/-! ### Blocks -/

namespace Block

/-- A block is printed as without the names that it declares, in every scope, exactly if wherever a name is asked for in
it and not hidden, a function inside the block hides all declared names; in one scope, if printing it comes to none of
them that stands for something; and always, where the block is the body of a function whose decorators look up
nothing. -/
theorem render_without_declaredNames (b : Block) :
    ((∀ s, (Node.block b).render (some s) = (Node.block b).render (some (s.without b.declaredNames))) ↔
      ∀ inner x, Site.name inner x ∈ (Node.block b).sites → x ∉ inner → b.declaredNames ⊆ inner) ∧
    (∀ s, ¬ (Node.block b).ComesTo (Scope.Replaces b.declaredNames) s →
      (Node.block b).render (some s) = (Node.block b).render (some (s.without b.declaredNames))) ∧
    ∀ (f : Function) (s : Scope), f.body = .block b → f.form.lookups = [] →
      f.render (some s) = f.render (some (s.without b.declaredNames)) := by
  refine ⟨(Node.block b).render_without_iff, fun s h => Node.render_without h, fun f s hbody hform => ?_⟩
  refine Function.render_without hform (fun x hx => ?_) s
  rw [Function.boundNames, hbody]
  exact List.mem_append_right _ hx

/-- A declared name in a parameter's place, in a block by itself and in the body of a function. -/
theorem render_without_declaredNames_of_parameter :
    let b : Block := ⟨[.constant (.name "x") (.number "1"),
      .expr (.call (.ident "show") [.function (.arrow [.ofTarget (.name "x")] (.expr (.ident "x")))])]⟩
    let s := (Scope.ofContext "").withVars (.ofList [("x", .ident "outer"), ("show", .ident "render")])
    let f := Function.arrow [] (.block b)
    (¬ (Node.block b).ComesTo (Scope.Replaces b.declaredNames) s ∧ f.body = .block b ∧ f.form.lookups = []) ∧
      (Node.block b).render (some s) = (Node.block b).render (some (s.without b.declaredNames)) ∧
      f.render (some s) = f.render (some (s.without b.declaredNames)) := by
  intro b s f
  have hcomes : ¬ (Node.block b).ComesTo (Scope.Replaces b.declaredNames) s := by
    rintro ⟨inner, x, hsite, hx⟩
    rw [show (Node.block b).sites = [.name [] "show", .name ["x"] "x"] from rfl] at hsite
    obtain ⟨rfl, rfl⟩ | ⟨rfl, rfl⟩ : (inner = [] ∧ x = "show") ∨ (inner = ["x"] ∧ x = "x") := by simpa using hsite
    · cases hx with
      | here h => exact absurd h.1 (by decide)
      | @value _ _ y v inner hv _ hy h =>
        cases (show some (Expr.ident "render") = some v from hv)
        obtain ⟨rfl, rfl⟩ : inner = [] ∧ y = "render" := by simpa [Expr.sites] using hy
        exact Scope.not_comesTo_replaces_of_value?_eq_none rfl h
    · exact Scope.not_comesTo_replaces_of_value?_eq_none rfl hx
  have hparts := render_without_declaredNames b
  exact ⟨⟨hcomes, rfl, rfl⟩, hparts.2.1 s hcomes, hparts.2.2 f s rfl rfl⟩

/-- A name that a block declares is replaced in it. -/
theorem render_declared_name_replaced :
    let b : Block := ⟨[.constant (.name "label") (.number "1"), .expr (.call (.ident "show") [.ident "label"])]⟩
    let s := (Scope.ofContext "").withVars (.ofList [("label", .ident "outer")])
    b.declaredNames = ["label"] ∧
      (Node.block b).render (some s) = Text.braced "\nconst label = 1;\nshow(outer);\n" ∧
      (Node.block b).render (some (s.without b.declaredNames)) = Text.braced "\nconst label = 1;\nshow(label);\n" := by
  intro b s
  exact ⟨rfl, by decide, by decide⟩

end Block

end ViewTemplate
