import ViewTemplate.Proofs.Replaced.Capture
import ViewTemplate.Proofs.Tags.Resolution

/-!
# The names of resolved elements

What a tag resolves to is an element with a name wherever the branches end: a text that is a tag of a component, or the
name that another value is bound to.  `Scope.Hoists` goes along the branches to these values; all that can be wrong
with the names is said in its terms (`Expr.elementNames_resolveTag`).  A branch that is an identifier gives its own name
to its value, even if it is no name of a component or stands for nothing.
-/

namespace ViewTemplate

/-! ### Names and values of a resolved tag -/

/-- The names of the elements in it, those that values are bound to among them. -/
def ResolvedTag.elementNames : ResolvedTag → List String
  | .name text => [text]
  | .choice _ whenTrue whenFalse => whenTrue.elementNames ++ whenFalse.elementNames
  | .hoisted x _ => [x]

/-- No name that a value is bound to is free in the value. -/
def TagTree.BindsFresh : TagTree → Prop
  | .name _ => True
  | .choice _ whenTrue whenFalse => whenTrue.BindsFresh ∧ whenFalse.BindsFresh
  | .hoisted x value => x ∉ value.freeNames

/-- Whether this holds can be decided. -/
def TagTree.decideBindsFresh : (t : TagTree) → Decidable t.BindsFresh
  | .name _ => .isTrue trivial
  | .choice _ whenTrue whenFalse => @instDecidableAnd _ _ whenTrue.decideBindsFresh whenFalse.decideBindsFresh
  | .hoisted x value => inferInstanceAs (Decidable (x ∉ value.freeNames))

instance (t : TagTree) : Decidable t.BindsFresh :=
  t.decideBindsFresh

/-- What a tag resolves to, as syntax with the variables of the scope replaced. -/
def Expr.replacedTag (s : Scope) (tag : Expr) : TagTree :=
  s.replacement.tag [] tag (tag.replaced s)

namespace Expr

variable {s : Scope} {tag : Expr} {x : String} {v condition whenTrue whenFalse : Expr}

theorem replacedTag_eq (s : Scope) (tag : Expr) :
    tag.replacedTag s = Replacement.tagTree Scope.replacement s tag (tag.replaced s) := by
  rw [replacedTag, Scope.replacement_tag, Scope.without_nil]

theorem replacedTag_of_isComponentTag (h : Text.isComponentTag (tag.render (some s)) = true) :
    tag.replacedTag s = .name (tag.replaced s) := by
  rw [replacedTag_eq, Replacement.tagTree, if_pos h]

theorem replacedTag_of_replacement?_eq_none (h : Text.isComponentTag (tag.render (some s)) = false)
    (hr : tag.replacement? (some s) = none) :
    tag.replacedTag s = .hoisted (tag.ident?.getD "Tag") (tag.replaced s) := by
  rw [replacedTag_eq, Replacement.tagTree, h, hr]
  rfl

theorem replacedTag_of_conditional (h : Text.isComponentTag ((Expr.ident x).render (some s)) = false)
    (hv : s.value? x = some v) (hc : v.stripParens = .conditional condition whenTrue whenFalse) :
    (Expr.ident x).replacedTag s = .choice (condition.replaced (s.without [x]))
      (whenTrue.replacedTag (s.without [x])) (whenFalse.replacedTag (s.without [x])) := by
  rw [replacedTag_eq, Replacement.tagTree, h, replacement?_ident hv]
  simp only [hc, Bool.false_eq_true, ↓reduceIte]
  rfl

theorem replacedTag_of_value (h : Text.isComponentTag ((Expr.ident x).render (some s)) = false)
    (hv : s.value? x = some v) (hc : v.stripParens.isConditional = false) :
    (Expr.ident x).replacedTag s = .hoisted x (v.stripParens.replaced (s.without [x])) := by
  rw [replacedTag_eq, Replacement.tagTree, h, replacement?_ident hv]
  cases he : v.stripParens with
  | conditional _ _ _ => simp [he, isConditional] at hc
  | _ => simp only [he, ident?, Option.getD_some, Bool.false_eq_true, ↓reduceIte]; rfl

end Expr

/-! ### The values that are bound to names -/

/-- Resolving `tag` in the scope `s` ends, in some branch, at the tag `e` in the scope `t`, whose value is bound to a
name. -/
inductive Scope.Hoists : Scope → Expr → Scope → Expr → Prop where
  | here {s : Scope} {tag : Expr} (htag : Text.isComponentTag (tag.render (some s)) = false)
    (hv : ∀ v inner, tag.replacement? (some s) = some (v, inner) → v.stripParens.isConditional = false) :
    Hoists s tag s tag
  | branch {s t : Scope} {x : String} {v condition whenTrue whenFalse tag e : Expr}
    (htag : Text.isComponentTag ((Expr.ident x).render (some s)) = false) (hv : s.value? x = some v)
    (hc : v.stripParens = .conditional condition whenTrue whenFalse) (hb : tag = whenTrue ∨ tag = whenFalse)
    (h : Hoists (s.without [x]) tag t e) : Hoists s (.ident x) t e

namespace Scope.Hoists

variable {s t : Scope} {tag e : Expr} {x : String} {v condition whenTrue whenFalse : Expr} {P : Scope → Expr → Prop}

theorem isComponentTag_eq_false (h : s.Hoists tag t e) : Text.isComponentTag (tag.render (some s)) = false := by
  cases h with
  | here htag _ => exact htag
  | branch htag _ _ _ _ => exact htag

/-- Variables are taken out of the scope, and nothing else happens to it. -/
theorem exists_without (h : s.Hoists tag t e) : ∃ names, t = s.without names := by
  induction h with
  | here _ _ => exact ⟨[], (without_nil _).symm⟩
  | branch _ _ _ _ _ ih =>
    obtain ⟨names, rfl⟩ := ih
    exact ⟨names ++ [_], without_without _ _ _⟩

/-- Branches are parts of values. -/
theorem every {c : Check} (h : s.Hoists tag t e) (hs : s.vars.every c = true) (htag : tag.every c = true) :
    e.every c = true := by
  induction h with
  | here _ _ => exact htag
  | branch _ hv hc hb _ ih =>
    have hvalue := Expr.every_stripParens _ (VariableMap.every_of_get? hs hv)
    rw [hc, Expr.every] at hvalue
    simp only [Bool.and_eq_true] at hvalue
    refine ih (VariableMap.every_eraseAll hs _) ?_
    rcases hb with rfl | rfl
    · exact hvalue.1.2
    · exact hvalue.2

theorem forall_of_replacement?_eq_none (htag : Text.isComponentTag (tag.render (some s)) = false)
    (hr : tag.replacement? (some s) = none) : (∀ t e, s.Hoists tag t e → P t e) ↔ P s tag := by
  constructor
  · exact fun h => h s tag (.here htag fun v inner hv => by simp [hr] at hv)
  · intro hP t e h
    cases h with
    | here _ _ => exact hP
    | branch _ hv _ _ _ => simp [Expr.replacement?_ident hv] at hr

theorem forall_of_value (htag : Text.isComponentTag ((Expr.ident x).render (some s)) = false)
    (hv : s.value? x = some v) (hc : v.stripParens.isConditional = false) :
    (∀ t e, s.Hoists (.ident x) t e → P t e) ↔ P s (.ident x) := by
  constructor
  · refine fun h => h s (.ident x) (.here htag fun w inner hw => ?_)
    rw [Expr.replacement?_ident hv, Option.some.injEq, Prod.mk.injEq] at hw
    exact hw.1 ▸ hc
  · intro hP t e h
    cases h with
    | here _ _ => exact hP
    | branch _ hw hc' _ _ =>
      obtain rfl : v = _ := Option.some.inj (hv.symm.trans hw)
      simp [hc', Expr.isConditional] at hc

theorem forall_of_conditional (htag : Text.isComponentTag ((Expr.ident x).render (some s)) = false)
    (hv : s.value? x = some v) (hc : v.stripParens = .conditional condition whenTrue whenFalse) :
    (∀ t e, s.Hoists (.ident x) t e → P t e) ↔
      (∀ t e, (s.without [x]).Hoists whenTrue t e → P t e) ∧ ∀ t e, (s.without [x]).Hoists whenFalse t e → P t e := by
  constructor
  · intro h
    refine ⟨fun t e he => h t e (.branch htag hv hc (Or.inl rfl) he), fun t e he => ?_⟩
    exact h t e (.branch htag hv hc (Or.inr rfl) he)
  · rintro ⟨htrue, hfalse⟩ t e h
    cases h with
    | here _ hv' =>
      have hnot := hv' v _ (Expr.replacement?_ident hv)
      simp [hc, Expr.isConditional] at hnot
    | branch _ hw hc' hb h =>
      obtain rfl : v = _ := Option.some.inj (hv.symm.trans hw)
      rw [hc, Expr.conditional.injEq] at hc'
      obtain ⟨-, rfl, rfl⟩ := hc'
      rcases hb with rfl | rfl
      · exact htrue t e h
      · exact hfalse t e h

end Scope.Hoists

/-- The names of the elements are tags of components, if the names that values are bound to are. -/
theorem Expr.forall_elementNames_resolveTag_iff (s : Scope) (tag : Expr) :
    (∀ name ∈ (tag.resolveTag (some s)).elementNames, Text.isComponentTag name = true) ↔
      ∀ t e, s.Hoists tag t e → Text.isComponentTag (e.ident?.getD "Tag") = true := by
  induction s, tag using resolveTag_induction with
  | component s tag htag =>
    rw [resolveTag_of_isComponentTag htag, ResolvedTag.elementNames, List.forall_mem_singleton]
    exact iff_of_true htag fun t e h => absurd h.isComponentTag_eq_false (by simp [htag])
  | kept s tag htag hr =>
    rw [resolveTag_of_replacement?_eq_none htag hr, ResolvedTag.elementNames, List.forall_mem_singleton,
      Scope.Hoists.forall_of_replacement?_eq_none htag hr]
  | value s x v htag hv hc =>
    rw [resolveTag_of_value htag hv hc, ResolvedTag.elementNames, List.forall_mem_singleton,
      Scope.Hoists.forall_of_value htag hv hc]
    rfl
  | choice s x v condition whenTrue whenFalse htag hv hc ih ih' =>
    rw [resolveTag_of_conditional htag hv hc, ResolvedTag.elementNames, List.forall_mem_append, ih, ih',
      Scope.Hoists.forall_of_conditional htag hv hc]

/-- No name is free in what it is bound to, if this holds for the tags that are bound to names. -/
theorem Expr.bindsFresh_replacedTag_iff (s : Scope) (tag : Expr) :
    (tag.replacedTag s).BindsFresh ↔
      ∀ t e, s.Hoists tag t e → e.ident?.getD "Tag" ∉ (e.replaced t).freeNames := by
  induction s, tag using resolveTag_induction with
  | component s tag htag =>
    rw [replacedTag_of_isComponentTag htag, TagTree.BindsFresh]
    exact iff_of_true trivial fun t e h => absurd h.isComponentTag_eq_false (by simp [htag])
  | kept s tag htag hr =>
    rw [replacedTag_of_replacement?_eq_none htag hr, TagTree.BindsFresh,
      Scope.Hoists.forall_of_replacement?_eq_none htag hr]
  | value s x v htag hv hc =>
    rw [replacedTag_of_value htag hv hc, TagTree.BindsFresh, Scope.Hoists.forall_of_value htag hv hc,
      Scope.freeNames_replaced_ident hv, replaced, freeNames_replaceWith_stripParens]
    rfl
  | choice s x v condition whenTrue whenFalse htag hv hc ih ih' =>
    rw [replacedTag_of_conditional htag hv hc, TagTree.BindsFresh, ih, ih',
      Scope.Hoists.forall_of_conditional htag hv hc]

/-! ### Names without cycles -/

/-- Names are names; other texts may be anything. -/
def Check.named : Check where
  expr
    | .ident x => Text.isName x
    | _ => true
  entry
    | .shorthand x => Text.isName x
    | _ => true

namespace Scope

variable {s : Scope} {x y : String} {e v : Expr}

/-- No value looks up its own variable, directly or through others. -/
def NoCycles (s : Scope) : Prop :=
  ∀ x v, s.value? x = some v → ∀ y ∈ v.lookups, ¬ s.Consults [y] x

/-- A numbering that the names in every value fall below shows that there are no cycles. -/
theorem noCycles_of_rank (rank : String → Nat)
    (h : ∀ entry ∈ s.vars.entries, ∀ y ∈ entry.2.lookups, rank y < rank entry.1) : s.NoCycles := by
  have hlookup : ∀ {x y v}, s.value? x = some v → y ∈ v.lookups → rank y < rank x := by
    intro x y v hv hy
    exact h (x, v) (mem_of_lookup_eq_some hv) y hy
  have hconsults : ∀ {x y}, s.Consults [y] x → rank x ≤ rank y := by
    intro x y hx
    induction hx with
    | start hx => exact Nat.le_of_eq (congrArg rank (List.mem_singleton.1 hx))
    | step _ hv hx ih => exact Nat.le_trans (Nat.le_of_lt (hlookup hv hx)) ih
  intro x v hv y hy hx
  exact absurd (hlookup hv hy) (Nat.not_lt.2 (hconsults hx))

/-- What is free in a replaced expression is come to from a name that the expression looks up. -/
theorem exists_consults_of_mem_freeNames (h : y ∈ (e.replaced s).freeNames) : ∃ z ∈ e.lookups, s.Consults [z] y := by
  obtain ⟨inner, z, hz, hyz, hn⟩ := (e.accounts (keepsTagNames s) []).yields y h List.not_mem_nil
  rw [replacement_name_eq_replaced] at hyz
  exact ⟨z, (e.sites_coveredBy [] inner z hz (not_mem_of_mem_freeNames hyz hn)).1,
    (consults_of_mem_freeNames hyz).of_without⟩

/-- Without cycles a name is free in what stands for it only if it stands for itself. -/
theorem NoCycles.mem_freeNames_replaced_ident_iff {names : List String} (h : s.NoCycles) :
    x ∈ ((Expr.ident x).replaced (s.without names)).freeNames ↔ (s.without names).value? x = none := by
  cases hv : (s.without names).value? x with
  | none =>
    rw [Expr.replaced_ident_of_none hv, Expr.freeNames]
    exact iff_of_true (List.mem_singleton_self x) rfl
  | some v =>
    refine iff_of_false (fun hx => ?_) (by simp)
    rw [freeNames_replaced_ident hv] at hx
    obtain ⟨z, hz, hzx⟩ := exists_consults_of_mem_freeNames hx
    exact h x v (value?_of_value?_without hv).2 z hz hzx.of_without.of_without

end Scope

namespace Expr

/-- A tag that is a name, in a scope whose values have names for names.  All elements it resolves to are components,
exactly if no identifier in its branches whose value is bound to a name begins in lowercase.  If no value comes back to
its variable, the names that values are bound to are not free in them, exactly if these identifiers stand for something,
and no other expression that is bound to a name has `Tag` as a free name.  In a legible scope this is the syntax that is
printed. -/
theorem elementNames_resolveTag {s : Scope} {x : String} (hx : Text.isName x = true)
    (hs : s.vars.every .named = true) :
    ((∀ name ∈ ((Expr.ident x).resolveTag (some s)).elementNames, Text.isComponentTag name = true) ↔
      ∀ t y, s.Hoists (.ident x) t (.ident y) → Text.startsLower y = false) ∧
    (s.NoCycles → (((Expr.ident x).replacedTag s).BindsFresh ↔
      (∀ t y, s.Hoists (.ident x) t (.ident y) → ∃ v, t.value? y = some v) ∧
        ∀ t e, s.Hoists (.ident x) t e → e.ident? = none → "Tag" ∉ (e.replaced t).freeNames)) ∧
    (s.Legible → ((Expr.ident x).replacedTag s).PrintsAs ((Expr.ident x).resolveTag (some s))) := by
  refine ⟨?_, fun hcycles => ?_, fun hl => (hl.prints (Nat.le_refl _)).resolved hx⟩
  · have hname : ∀ {t y}, s.Hoists (.ident x) t (.ident y) → Text.isComponentTag y = !Text.startsLower y :=
      fun h => Text.isComponentTag_eq_of_isName (h.every hs hx)
    rw [forall_elementNames_resolveTag_iff]
    constructor
    · intro h t y hy
      have hcomponent : Text.isComponentTag y = true := h t (.ident y) hy
      rwa [hname hy, Bool.not_eq_true'] at hcomponent
    · intro h t e he
      cases hident : e.ident? with
      | none => exact (by decide : Text.isComponentTag "Tag" = true)
      | some y =>
        obtain rfl := eq_ident_of_ident? hident
        rw [Option.getD_some, hname he, h t y he, Bool.not_false]
  · have hfresh : ∀ {t y}, s.Hoists (.ident x) t (.ident y) →
        (y ∉ ((Expr.ident y).replaced t).freeNames ↔ ∃ v, t.value? y = some v) := by
      intro t y h
      obtain ⟨names, rfl⟩ := h.exists_without
      rw [hcycles.mem_freeNames_replaced_ident_iff, ← Option.isSome_iff_exists, ← ne_eq, Option.ne_none_iff_isSome]
    rw [bindsFresh_replacedTag_iff]
    constructor
    · refine fun h => ⟨fun t y hy => (hfresh hy).1 (h t _ hy), fun t e he hident => ?_⟩
      have htag := h t e he
      rwa [hident] at htag
    · rintro ⟨hidents, hothers⟩ t e he
      cases hident : e.ident? with
      | none => exact hothers t e he hident
      | some y =>
        obtain rfl := eq_ident_of_ident? hident
        exact (hfresh he).2 (hidents t y he)

/-- One branch is an identifier that stands for a call, the other is a call. -/
theorem elementNames_resolveTag_calls :
    let s := (Scope.ofContext "").withVars (.ofList [("Item", .conditional (.ident "wide") (.ident "Cell")
      (.call (.ident "pick") [])), ("Cell", .call (.ident "make") [.ident "wide"])])
    (Text.isName "Item" = true ∧ s.vars.every .named = true ∧ s.NoCycles ∧ s.Legible) ∧
    ((Expr.ident "Item").resolveTag (some s)).elementNames = ["Cell", "Tag"] ∧
    (∀ t y, s.Hoists (.ident "Item") t (.ident y) → Text.startsLower y = false) ∧
    (∀ t y, s.Hoists (.ident "Item") t (.ident y) → ∃ v, t.value? y = some v) ∧
    ((Expr.ident "Item").replacedTag s).PrintsAs ((Expr.ident "Item").resolveTag (some s)) := by
  intro s
  have hcycles : s.NoCycles :=
    Scope.noCycles_of_rank (fun x => if x = "Item" then 2 else if x = "Cell" then 1 else 0) (by decide)
  have hlegible : s.Legible := ⟨rfl, by decide, by decide⟩
  have hs : s.vars.every .named = true := by decide
  have hx : Text.isName "Item" = true := by decide
  have hresolved : ((Expr.ident "Item").resolveTag (some s)).elementNames = ["Cell", "Tag"] ∧
      ((Expr.ident "Item").replacedTag s).BindsFresh := by decide
  -- the rest follows for any scope of which this is true
  clear_value s
  obtain ⟨hnames, hfresh⟩ := hresolved
  obtain ⟨hlower, hbinds, hprints⟩ := elementNames_resolveTag hx hs
  have hcomponents : ∀ name ∈ ["Cell", "Tag"], Text.isComponentTag name = true := by decide
  rw [hnames] at hlower
  exact ⟨⟨hx, hs, hcycles, hlegible⟩, hnames, hlower.1 hcomponents, ((hbinds hcycles).1 hfresh).1, hprints hlegible⟩

/-- A branch is a lowercase name that stands for nothing: the element is one of the page, and the name it is bound to is
what it should stand for. -/
theorem elementNames_resolveTag_lowercase :
    let s := (Scope.ofContext "").withVars (.ofList [("Item", .conditional (.ident "wide") (.ident "row")
      (.ident "Row"))])
    (OpeningTag.isIntrinsic ⟨.ident "Item", []⟩ = false ∧ s.vars.every .named = true ∧ s.NoCycles) ∧
    (Markup.selfClosing ⟨.ident "Item", []⟩).render (some s) =
      "\x7bwide ? (() => \x7b const row = row; return <row />; \x7d)() : <Row />\x7d" ∧
    ((Expr.ident "Item").resolveTag (some s)).elementNames = ["row", "Row"] ∧ Text.isComponentTag "row" = false ∧
    ¬ ((Expr.ident "Item").replacedTag s).BindsFresh := by
  intro s
  have hcycles : s.NoCycles := Scope.noCycles_of_rank (fun x => if x = "Item" then 1 else 0) (by decide)
  exact ⟨⟨by decide, by decide, hcycles⟩, by decide, by decide, by decide, by decide⟩

end Expr

end ViewTemplate
