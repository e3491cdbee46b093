import ViewTemplate.Proofs.Replaced.Agreement
import ViewTemplate.Proofs.Replaced.Legible
import ViewTemplate.Proofs.Replaced.Names

/-!
# Capture

Values are put in place of names as they are, so a function around the name may bind free names of the value.  What is
free in a function with its variables replaced follows from its sites: what stands at a site brings its free names,
less those hidden there (`Function.mem_freeNames_replaced`).  Nothing is captured if no name that printing comes to from
the site is hidden there.
-/

namespace ViewTemplate

/-! ### The free names of tags -/

theorem Expr.freeNames_replaceWith_stripParens (R : Replacement) (hidden : List String) :
    ∀ e : Expr, (e.stripParens.replaceWith R hidden).freeNames = (e.replaceWith R hidden).freeNames
  | .paren inner => by
    rw [stripParens, freeNames_replaceWith_stripParens R hidden inner, replaceWith, freeNames]
  | .ident _ | .verbatim _ | .string _ | .number _ | .property .. | .element .. | .call .. | .binary .. | .unary ..
  | .conditional .. | .object _ | .array _ | .pattern _ | .type _ | .markup _ | .function _ => rfl

namespace Scope

variable {s : Scope} {x y : String} {v : Expr}

/-- A variable brings the free names of its value, replaced in the scope without it. -/
theorem freeNames_replaced_ident (h : s.value? x = some v) :
    ((Expr.ident x).replaced s).freeNames = (v.replaced (s.without [x])).freeNames := by
  by_cases hv : v.ident? = some x
  · obtain rfl := Expr.eq_ident_of_ident? hv
    have hnone : (s.without [x]).value? x = none := by simp [value?_without]
    rw [Expr.replaced_ident_of_self h hv, Expr.replaced_ident_of_none hnone]
  · rw [Expr.replaced_ident_of_some h hv, Expr.freeNames_inPlaceOf]

/-- What a scope makes of a tag has the free names of the tag as a replaced expression. -/
theorem keepsTagNames (s : Scope) : s.replacement.KeepsTagNames := by
  induction hn : s.vars.size using Nat.strongRecOn generalizing s with
  | ind n ih =>
    intro hidden tag y
    rw [replacement_tag, Replacement.tagTree]
    split
    · rfl
    · cases hr : tag.replacement? (some (s.without hidden)) with
      | none => rfl
      | some r =>
        obtain ⟨v, inner⟩ := r
        obtain ⟨x, rfl, hv, rfl⟩ := Expr.replacement?_eq_some hr
        have hlt := size_without_lt hv
        have hle := s.size_without_le hidden
        have htag := ih _ (by omega) ((s.without hidden).without [x]) rfl
        have hvalue : ((Expr.ident x).replaceWith s.replacement hidden).freeNames =
            (v.stripParens.replaceWith ((s.without hidden).without [x]).replacement []).freeNames := by
          rw [Expr.replaceWith, replacement_name_eq_replaced, freeNames_replaced_ident hv, Expr.replaced,
            Expr.freeNames_replaceWith_stripParens]
        rw [hvalue]
        cases he : v.stripParens with
        | conditional condition whenTrue whenFalse =>
          simp only [he, TagTree.names, Expr.replaceWith, Expr.freeNames, mem_unionNames, htag [] whenTrue y,
            htag [] whenFalse y, or_assoc]
        | _ => simp only [he, TagTree.names]

/-! ### Free names are consulted -/

/-- A name that is hidden stands for itself, so that its site brings nothing that is not hidden there. -/
theorem not_mem_of_mem_freeNames {hidden : List String}
    (hy : y ∈ ((Expr.ident x).replaced (s.without hidden)).freeNames) (hn : y ∉ hidden) : x ∉ hidden := by
  intro hx
  rw [Expr.replaced_ident_of_none (by simp [value?_without, hx]), Expr.freeNames, List.mem_singleton] at hy
  exact hn (hy ▸ hx)

theorem Consults.trans {names : List String} {z : String} (h : s.Consults names x) (hz : s.Consults [x] z) :
    s.Consults names z := by
  induction hz with
  | start hz => rwa [List.mem_singleton.1 hz]
  | step _ hv hx ih => exact .step ih hv hx

/-- With more variables printing comes to no fewer names. -/
theorem Consults.of_without {names hidden : List String} (h : (s.without hidden).Consults names x) :
    s.Consults names x := by
  induction h with
  | start hx => exact .start hx
  | step _ hv hx ih => exact .step ih (value?_of_value?_without hv).2 hx

/-- Printing comes to every free name of what a name is replaced by. -/
theorem consults_of_mem_freeNames (hy : y ∈ ((Expr.ident x).replaced s).freeNames) : s.Consults [x] y := by
  induction hn : s.vars.size using Nat.strongRecOn generalizing s x with
  | ind n ih =>
    cases hv : s.value? x with
    | none =>
      rw [Expr.replaced_ident_of_none hv, Expr.freeNames] at hy
      exact .start hy
    | some v =>
      rw [freeNames_replaced_ident hv] at hy
      obtain ⟨inner, z, hz, hyz, hn'⟩ := (v.accounts (keepsTagNames _) []).yields y hy List.not_mem_nil
      rw [replacement_name_eq_replaced] at hyz
      have hlt := size_without_lt hv
      have hle := (s.without [x]).size_without_le inner
      have hzy := ih _ (by omega) hyz rfl
      have hzi : z ∉ inner := not_mem_of_mem_freeNames hyz hn'
      have hxz : s.Consults [x] z := .step (.start (List.mem_singleton_self x)) hv
        (v.sites_coveredBy [] inner z hz hzi).1
      exact hxz.trans hzy.of_without.of_without

/-- Hiding names that printing does not come to from a name changes nothing for that name. -/
theorem replaced_ident_without {hidden : List String} (h : ∀ z, s.Consults [x] z → z ∉ hidden) :
    (Expr.ident x).replaced (s.without hidden) = (Expr.ident x).replaced s := by
  have hvalue : ∀ z, s.Consults [x] z → (s.without hidden).value? z = s.value? z := by
    intro z hz
    rw [value?_without, if_neg (h z hz)]
  have hagrees : (s.without hidden).Agrees (s.Consults [x]) s := by
    refine ⟨⟨rfl, rfl, rfl⟩, fun hz => hvalue _ hz, fun {z v} hz hv y hy => ?_⟩
    exact .step hz ((hvalue z hz).symm.trans hv) hy
  refine hagrees.replaced_eq fun z hz => .start ?_
  rwa [Expr.lookups] at hz

end Scope

/-! ### The free names of replaced functions -/

namespace Function

variable {f : Function} {s : Scope}

/-- A function without decorators and inner blocks whose elements keep the names of what they are made of, in a scope.
The function with its variables replaced is printed as the function is in the scope, but for line breaks.  Free in it is
what is free in the replacement of a name at one of its sites, in the scope there, and not hidden there.  If no name
that printing comes to from a site is hidden there, this is what is free in the replacements of its free names. -/
theorem mem_freeNames_replaced (hf : f.every .flat = true) (hs : ∀ site ∈ f.sites [], site.Faithful s.replacement) :
    (s.Legible → f.every .legible = true → Text.oneLine (f.render (some s)) = Text.oneLine ((f.replaced s).render none) ∧
      ∀ x, Text.isName x = true → Text.oneLine ((Expr.ident x).render (some s)) =
        Text.oneLine (((Expr.ident x).replaced s).render none)) ∧
    (∀ y, y ∈ (f.replaced s).freeNames ↔ ∃ inner x, Site.name inner x ∈ f.sites [] ∧ x ∉ inner ∧
      y ∈ ((Expr.ident x).replaced (s.without inner)).freeNames ∧ y ∉ inner) ∧
    ((∀ inner x, Site.name inner x ∈ f.sites [] → x ∉ inner → ∀ z, s.Consults [x] z → z ∉ inner) →
      ∀ y, y ∈ (f.replaced s).freeNames ↔ ∃ x ∈ f.freeNames, y ∈ ((Expr.ident x).replaced s).freeNames) := by
  have haccounts := f.accounts s.keepsTagNames []
  have hlaw : ∀ y, y ∈ (f.replaced s).freeNames ↔ ∃ inner x, Site.name inner x ∈ f.sites [] ∧ x ∉ inner ∧
      y ∈ ((Expr.ident x).replaced (s.without inner)).freeNames ∧ y ∉ inner := by
    intro y
    simp only [← Scope.replacement_name_eq_replaced]
    constructor
    · intro hy
      obtain ⟨inner, x, hx, hyx, hn⟩ := haccounts.yields y hy List.not_mem_nil
      have hyx' := Scope.replacement_name_eq_replaced s inner x ▸ hyx
      exact ⟨inner, x, hx, Scope.not_mem_of_mem_freeNames hyx' hn, hyx, hn⟩
    · rintro ⟨inner, x, hx, -, hyx, hn⟩
      exact (haccounts.keeps hf hs inner x y hx hyx hn).1
  refine ⟨fun h hl => ⟨oneLine_render_replaced h hl, fun x hx => (h.prints (Nat.le_refl _)).render hx⟩, hlaw,
    fun hfree y => (hlaw y).trans ⟨?_, ?_⟩⟩
  · rintro ⟨inner, x, hx, hxi, hyx, -⟩
    rw [Scope.replaced_ident_without (hfree inner x hx hxi)] at hyx
    exact ⟨x, (mem_freeNames_iff hf).2 ⟨inner, hx, hxi⟩, hyx⟩
  · rintro ⟨x, hx, hyx⟩
    obtain ⟨inner, hsite, hxi⟩ := (mem_freeNames_iff hf).1 hx
    have hyi : y ∉ inner := hfree inner x hsite hxi y (Scope.consults_of_mem_freeNames hyx)
    rw [← Scope.replaced_ident_without (hfree inner x hsite hxi)] at hyx
    exact ⟨inner, x, hsite, hxi, hyx, hyi⟩

/-- A row with a handler inside, whose tag is one of two: the values mention none of the parameters. -/
theorem mem_freeNames_replaced_handler :
    let handler := Function.arrow [.ofTarget (.name "event")]
      (.expr (.call (.ident "send") [.ident "event", .ident "title"]))
    let f := Function.arrow [.ofTarget (.name "item")] (.expr (.markup (.selfClosing ⟨.ident "Row",
      [.value "label" (.ident "item"), .value "onClick" (.function handler)]⟩)))
    let s := (Scope.ofContext "").withVars (.ofList [("title", .property (.ident "props") "title" false),
      ("send", .ident "emit"), ("Row", .conditional (.ident "wide") (.ident "WideRow") (.ident "NarrowRow"))])
    (f.every .flat = true ∧ ∀ site ∈ f.sites [], site.Faithful s.replacement) ∧
      (∀ y, y ∈ (f.replaced s).freeNames ↔ ∃ x ∈ f.freeNames, y ∈ ((Expr.ident x).replaced s).freeNames) ∧
      Text.oneLine (f.render (some s)) = Text.oneLine ((f.replaced s).render none) := by
  intro handler f s
  have hf : f.every .flat = true := by decide
  have hs : ∀ site ∈ f.sites [], site.Faithful s.replacement := by decide
  have hlegible : s.Legible := ⟨rfl, by decide, by decide⟩
  obtain ⟨htext, -, hfree⟩ := mem_freeNames_replaced hf hs
  -- what the values come to, and none of it is a parameter
  let values := ["title", "props", "send", "emit", "Row", "wide", "WideRow", "NarrowRow"]
  have hvalues : ∀ y ∈ values, ∀ v ∈ s.value? y, v.lookups ⊆ values := by decide
  have hsites : ∀ site ∈ f.sites [], site.Meets fun inner x =>
      x ∈ inner ∨ x ∈ values ∧ ∀ z ∈ values, z ∉ inner := by decide
  refine ⟨⟨hf, hs⟩, hfree fun inner x hx hxi z hz => ?_, (htext hlegible (by decide)).1⟩
  obtain ⟨hxv, hout⟩ := (hsites _ hx).resolve_left hxi
  have hmem : z ∈ values := hz.mem_of_closed (List.cons_subset.2 ⟨hxv, List.nil_subset _⟩) hvalues
  exact hout z hmem

/-- The parameter of a handler has the name that occurs in the value of a variable: the reference is captured. -/
theorem parameter_captures_value :
    let f := Function.arrow [.ofTarget (.name "event")] (.expr (.ident "label"))
    let s := (Scope.ofContext "").withVars (.ofList [("label", .property (.ident "event") "text" false)])
    (f.every .flat = true ∧ s.context = "") ∧ f.render (some s) = "(event) => event.text" ∧
      (f.replaced s).render none = "(event) => event.text" ∧ f.freeNames = ["label"] ∧
      ((Expr.ident "label").replaced s).freeNames = ["event"] ∧ (f.replaced s).freeNames = [] := by
  intro f s
  exact ⟨⟨by decide, rfl⟩, rfl, rfl, rfl, rfl, rfl⟩

end Function

end ViewTemplate
