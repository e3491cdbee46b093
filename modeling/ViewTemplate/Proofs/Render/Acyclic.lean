import Mathlib.Logic.Relation
import ViewTemplate.Proofs.Render.Agreement
import ViewTemplate.Proofs.Render.SubstWith

/-!
# Variables without cycles

The variables of a map refer to the free names of their values.  If no variable comes back to itself in this way, the
variables that were taken out of the scope on the way to a name are never needed for the name
(`VariableMap.substName_erase`), so that every variable is replaced by its value under the whole map
(`VariableMap.Acyclic.substName_eq`), and replacing goes on to the end: what is replaced once is not changed by
replacing it again, and what is left are the names that stay (`Expr.subst_of_acyclic`).
-/

namespace ViewTemplate

open Relation (TransGen ReflTransGen)

theorem Expr.subst_inPlaceOf (m : VariableMap) (e v : Expr) :
    (e.inPlaceOf v).subst m = (e.subst m).inPlaceOf v := by
  rw [Expr.inPlaceOf, Expr.inPlaceOf]
  split
  · rfl
  · rw [Expr.subst, Expr.substWith, Expr.subst]

namespace VariableMap

variable {m : VariableMap} {x y z : String} {v : Expr}

/-- `y` is a free name of what `x` stands for; a name that stands for itself refers to nothing. -/
def Refers (m : VariableMap) (x y : String) : Prop :=
  ∃ v, m.get? x = some v ∧ v.ident? ≠ some x ∧ y ∈ v.freeNames

/-- No variable refers to itself, directly or through others. -/
def Acyclic (m : VariableMap) : Prop :=
  ∀ x, ¬ TransGen m.Refers x x

/-- The name stands for nothing, or for itself. -/
def Stays (m : VariableMap) (x : String) : Prop :=
  ∀ v, m.get? x = some v → v.ident? = some x

theorem substName_of_stays (h : m.Stays x) : m.substName x = .ident x := by
  cases hv : m.get? x with
  | none => exact substName_of_none hv
  | some v => exact substName_of_self hv (h v hv)

theorem not_refers_of_stays (h : m.Stays x) : ¬ m.Refers x y :=
  fun ⟨v, hv, hself, _⟩ => hself (h v hv)

theorem exists_of_not_stays (h : ¬ m.Stays x) : ∃ v, m.get? x = some v ∧ v.ident? ≠ some x := by
  simpa [Stays] using h

/-- A numbering that every value falls below shows that there are no cycles. -/
theorem acyclic_of_rank (rank : String → Nat)
    (h : ∀ entry ∈ m.entries, entry.2.ident? ≠ some entry.1 → ∀ y ∈ entry.2.freeNames, rank y < rank entry.1) :
    m.Acyclic := by
  have hrefers : ∀ x y, m.Refers x y → rank y < rank x := by
    rintro x y ⟨v, hv, hself, hy⟩
    exact h (x, v) (mem_of_lookup_eq_some hv) hself y hy
  intro x hx
  have hlt : rank x < rank x := by
    have : ∀ y, TransGen m.Refers x y → rank y < rank x := fun y hy => by
      induction hy with
      | single h => exact hrefers _ _ h
      | tail _ h ih => exact Nat.lt_trans (hrefers _ _ h) ih
    exact this x hx
  omega

/-! ### Smaller maps -/

theorem refers_erase_le (m : VariableMap) (z : String) : (m.erase z).Refers ≤ m.Refers := by
  rintro x y ⟨v, hv, hself, hy⟩
  rw [get?_erase] at hv
  split at hv
  · cases hv
  · exact ⟨v, hv, hself, hy⟩

theorem refers_erase (h : m.Refers x y) (hx : x ≠ z) : (m.erase z).Refers x y := by
  obtain ⟨v, hv, hself, hy⟩ := h
  exact ⟨v, by rw [get?_erase, if_neg hx, hv], hself, hy⟩

theorem erase_comm (m : VariableMap) (x y : String) : (m.erase x).erase y = (m.erase y).erase x := by
  simp only [erase, eraseAll_eraseAll]
  simp [eraseAll, Bool.and_comm]

theorem Acyclic.erase (h : m.Acyclic) (x : String) : (m.erase x).Acyclic :=
  fun y hy => h y (TransGen.mono (m.refers_erase_le x) _ _ hy)

/-- A variable that a name does not come to is not needed for the name. -/
theorem substName_erase {m : VariableMap} {x y : String} (h : ¬ ReflTransGen m.Refers y x) :
    (m.erase x).substName y = m.substName y := by
  have hne : y ≠ x := fun hyx => h (hyx ▸ .refl)
  have hget : (m.erase x).get? y = m.get? y := by rw [get?_erase, if_neg hne]
  cases hv : m.get? y with
  | none => rw [substName_of_none hv, substName_of_none (hget.trans hv)]
  | some v =>
    by_cases hself : v.ident? = some y
    · rw [substName_of_self hv hself, substName_of_self (hget.trans hv) hself]
    · rw [substName_of_some hv hself, substName_of_some (hget.trans hv) hself, erase_comm]
      have hlt : (m.erase y).size < m.size := size_eraseAll_lt (by simp) hv
      have hinner : v.subst ((m.erase y).erase x) = v.subst (m.erase y) := by
        refine v.substWith_congr fun z hz => substName_erase fun hzx => h ?_
        exact .head ⟨v, hv, hself, hz⟩ (ReflTransGen.mono (m.refers_erase_le y) _ _ hzx)
      rw [hinner]
termination_by m.size

/-! ### Replacing goes on to the end -/

theorem Acyclic.not_reaches (h : m.Acyclic) (hxy : m.Refers x y) : ¬ ReflTransGen m.Refers y x :=
  fun hyx => h x (.head' hxy hyx)

/-- A variable is replaced by its value, in which the variables are replaced in turn. -/
theorem Acyclic.substName_eq (h : m.Acyclic) (hv : m.get? x = some v) (hself : v.ident? ≠ some x) :
    m.substName x = (v.subst m).inPlaceOf v := by
  have hinner : v.subst (m.erase x) = v.subst m :=
    v.substWith_congr fun y hy => substName_erase (h.not_reaches ⟨v, hv, hself, hy⟩)
  rw [substName_of_some hv hself, hinner]

/-- Following the references of a variable comes to an end. -/
theorem Acyclic.acc {m : VariableMap} (h : m.Acyclic) (x : String) : Acc (fun b a => m.Refers a b) x := by
  refine ⟨x, fun y hxy => ?_⟩
  have hlt : (m.erase x).size < m.size := by
    obtain ⟨v, hv, -, -⟩ := hxy
    exact size_eraseAll_lt (by simp) hv
  have hinner : Acc (fun b a => (m.erase x).Refers a b) y := (h.erase x).acc y
  have hnot := h.not_reaches hxy
  clear hxy
  -- no name that `y` comes to is `x`
  induction hinner with
  | intro y _ ih =>
    refine ⟨y, fun z hyz => ih z ?_ fun hzx => hnot (.head hyz hzx)⟩
    exact refers_erase hyz fun hyx => hnot (hyx ▸ .refl)
termination_by m.size

theorem Acyclic.wellFounded (h : m.Acyclic) : WellFounded fun b a => m.Refers a b :=
  ⟨h.acc⟩

/-- What replaces a variable is not changed by replacing names once more. -/
theorem Acyclic.subst_substName (h : m.Acyclic) (x : String) : (m.substName x).subst m = m.substName x := by
  induction x using h.wellFounded.induction with
  | _ x ih =>
    by_cases hx : m.Stays x
    · rw [substName_of_stays hx]
      exact substName_of_stays hx
    · obtain ⟨v, hv, hself⟩ := exists_of_not_stays hx
      have hagain : (v.subst m).subst m = v.subst m :=
        v.substWith_substWith fun y hy => ih y ⟨v, hv, hself, hy⟩
      rw [h.substName_eq hv hself, Expr.subst_inPlaceOf, hagain]

/-! ### What is left -/

/-- The name stands for something else that is printed as the name itself. -/
def Masks (m : VariableMap) (x : String) : Prop :=
  ¬ m.Stays x ∧ (m.substName x).render none = x

/-- Where no shorthand is masked, what is left are the names that are left of the free names. -/
theorem mem_freeNames_subst {e : Expr} (he : e.every .plain = true)
    (hmask : ∀ z, Site.shorthand [] z ∈ e.sites [] → ¬ m.Masks z) :
    y ∈ (e.subst m).freeNames ↔ ∃ x ∈ e.freeNames, y ∈ (m.substName x).freeNames := by
  have haccounts : Site.Accounts m.substName e.freeNames (e.sites []) (e.subst m).freeNames := e.substWith_accounts he
  have hstays : ∀ x, Site.Stays m.substName (e.sites []) x → m.substName x = .ident x := fun x hx =>
    substName_of_stays (Classical.byContradiction fun hn => hmask x hx.1 ⟨hn, hx.2⟩)
  constructor
  · intro hy
    refine (haccounts.found y hy).elim id fun hsite => ⟨y, haccounts.free y hsite.1, ?_⟩
    rw [hstays y hsite, Expr.freeNames]
    exact List.mem_singleton_self y
  · rintro ⟨x, hx, hy⟩
    refine (haccounts.placed x hx y hy).elim id fun hsite => ?_
    rw [hstays x hsite, Expr.freeNames, List.mem_singleton] at hy
    exact hy ▸ haccounts.kept x hsite

/-- Without masked shorthands in the values that a name comes to, what is left of the name are the names that it comes
to and that stay. -/
theorem Acyclic.mem_freeNames_substName (h : m.Acyclic) (hm : m.every .plain = true)
    (hmask : ∀ y v, ReflTransGen m.Refers x y → m.get? y = some v →
      ∀ z, Site.shorthand [] z ∈ v.sites [] → ¬ m.Masks z) :
    y ∈ (m.substName x).freeNames ↔ ReflTransGen m.Refers x y ∧ m.Stays y := by
  induction x using h.wellFounded.induction with
  | _ x ih =>
    by_cases hx : m.Stays x
    · rw [substName_of_stays hx, Expr.freeNames, List.mem_singleton]
      constructor
      · rintro rfl
        exact ⟨.refl, hx⟩
      · rintro ⟨hxy, -⟩
        cases hxy.cases_head with
        | inl heq => exact heq.symm
        | inr hstep =>
          obtain ⟨_, hrefers, _⟩ := hstep
          exact absurd hrefers (not_refers_of_stays hx)
    · obtain ⟨v, hv, hself⟩ := exists_of_not_stays hx
      have hinner : ∀ z ∈ v.freeNames, (y ∈ (m.substName z).freeNames ↔ ReflTransGen m.Refers z y ∧ m.Stays y) :=
        fun z hz => ih z ⟨v, hv, hself, hz⟩ fun y' v' hzy => hmask y' v' (.head ⟨v, hv, hself, hz⟩ hzy)
      rw [h.substName_eq hv hself, Expr.freeNames_inPlaceOf,
        mem_freeNames_subst (every_of_get? hm hv) (hmask x v .refl hv)]
      constructor
      · rintro ⟨z, hz, hy⟩
        obtain ⟨hzy, hstays⟩ := (hinner z hz).1 hy
        exact ⟨.head ⟨v, hv, hself, hz⟩ hzy, hstays⟩
      · rintro ⟨hxy, hstays⟩
        cases hxy.cases_head with
        | inl heq => exact absurd (heq ▸ hstays) hx
        | inr hstep =>
          obtain ⟨z, ⟨w, hw, -, hz⟩, hzy⟩ := hstep
          obtain rfl : v = w := by simpa [hv] using hw
          exact ⟨z, hz, (hinner z hz).2 ⟨hzy, hstays⟩⟩

/-- Something is left that does not stay. -/
def Leaves (m : VariableMap) (e : Expr) : Prop :=
  ∃ z ∈ e.freeNames, ¬ m.Stays z

/-- A masked shorthand is left, and does not stay. -/
theorem leaves_of_masks {e : Expr} (he : e.every .plain = true) (hz : Site.shorthand [] z ∈ e.sites [])
    (hmask : m.Masks z) : m.Leaves (e.subst m) :=
  ⟨z, (e.substWith_accounts he).kept z ⟨hz, hmask.2⟩, hmask.1⟩

/-- What is left of a free name without staying, or the name itself, is left of the whole. -/
theorem leaves_subst {e : Expr} (he : e.every .plain = true) (hx : x ∈ e.freeNames)
    (hleft : m.Leaves (m.substName x)) : m.Leaves (e.subst m) := by
  have haccounts : Site.Accounts m.substName e.freeNames (e.sites []) (e.subst m).freeNames := e.substWith_accounts he
  obtain ⟨z, hz, hn⟩ := hleft
  rcases haccounts.placed x hx z hz with hz' | hsite
  · exact ⟨z, hz', hn⟩
  · refine ⟨x, haccounts.kept x hsite, fun hstays => hn ?_⟩
    rw [substName_of_stays hstays, Expr.freeNames, List.mem_singleton] at hz
    exact hz ▸ hstays

/-- What is left of a name is left of every name that comes to it. -/
theorem Acyclic.leaves_substName (h : m.Acyclic) (hm : m.every .plain = true) (hxy : ReflTransGen m.Refers x y)
    (hleft : m.Leaves (m.substName y)) : m.Leaves (m.substName x) := by
  induction hxy using ReflTransGen.head_induction_on with
  | refl => exact hleft
  | head hrefers _ ih =>
    obtain ⟨v, hv, hself, hz⟩ := hrefers
    obtain ⟨z, hz', hn⟩ := leaves_subst (every_of_get? hm hv) hz ih
    rw [h.substName_eq hv hself]
    exact ⟨z, by rwa [Expr.freeNames_inPlaceOf], hn⟩

end VariableMap

namespace Scope

variable {s : Scope} {names : List String} {x y : String}

/-- What printing can come to is what the variables refer to, step by step; a name that stands for itself leads
nowhere else. -/
theorem reaches_iff : s.Reaches names y ↔ ∃ x ∈ names, ReflTransGen s.vars.Refers x y := by
  constructor
  · intro h
    induction h with
    | start hx => exact ⟨_, hx, .refl⟩
    | @step x y v _ hv hx ih =>
      obtain ⟨start, hstart, hy⟩ := ih
      refine ⟨start, hstart, ?_⟩
      by_cases hself : v.ident? = some y
      · obtain rfl := Expr.eq_ident_of_ident? hself
        rw [Expr.freeNames, List.mem_singleton] at hx
        exact hx ▸ hy
      · exact hy.tail ⟨v, hv, hself, hx⟩
  · rintro ⟨x, hx, hxy⟩
    induction hxy with
    | refl => exact .start hx
    | tail _ hrefers ih =>
      obtain ⟨v, hv, -, hy⟩ := hrefers
      exact .step ih hv hy

/-- `z` is a shorthand of `e`, or of what a name stands for that printing `e` can come to. -/
def ReachesShorthand (s : Scope) (e : Expr) (z : String) : Prop :=
  Site.shorthand [] z ∈ e.sites [] ∨
    ∃ y v, s.Reaches e.freeNames y ∧ s.value? y = some v ∧ Site.shorthand [] z ∈ v.sites []

end Scope

/-- Replacing the variables of a map without cycles goes on to the end.  It is what printing does; replacing once more
changes nothing; and the free names that are left are the names that stay among those printing comes to, exactly if no
shorthand on the way is the name of a variable whose replacement is printed like the name. -/
theorem Expr.subst_of_acyclic {s : Scope} {e : Expr} (hc : s.context = "") (he : e.every .plain = true)
    (hs : s.vars.every .plain = true) (ha : s.vars.Acyclic) :
    e.render (some s) = (e.subst s.vars).render none ∧
      (e.subst s.vars).subst s.vars = e.subst s.vars ∧
      ((∀ y, y ∈ (e.subst s.vars).freeNames ↔ s.Reaches e.freeNames y ∧ s.vars.Stays y) ↔
        ∀ z, s.ReachesShorthand e z → ¬ s.vars.Masks z) := by
  refine ⟨?_, ?_, ?_, ?_⟩
  · exact e.renderWith_eq_substWith (Expansion.upTo_follows (Nat.le_refl _) hc hs) he
  · exact e.substWith_substWith fun x _ => ha.subst_substName x
  · -- a masked shorthand leaves a name that does not stay
    intro hleft z hz hmask
    have hnone : ¬ s.vars.Leaves (e.subst s.vars) := fun ⟨y, hy, hn⟩ => hn ((hleft y).1 hy).2
    rcases hz with hz | ⟨y, v, hy, hv, hz⟩
    · exact hnone (VariableMap.leaves_of_masks he hz hmask)
    · obtain ⟨x, hx, hxy⟩ := Scope.reaches_iff.1 hy
      have hself : v.ident? ≠ some y := by
        intro hself
        obtain rfl := Expr.eq_ident_of_ident? hself
        simp [Expr.sites] at hz
      obtain ⟨w, hw, hn⟩ := VariableMap.leaves_of_masks (VariableMap.every_of_get? hs hv) hz hmask
      have hlast : s.vars.Leaves (s.vars.substName y) := by
        rw [ha.substName_eq hv hself]
        exact ⟨w, by rwa [Expr.freeNames_inPlaceOf], hn⟩
      exact hnone (VariableMap.leaves_subst he hx (ha.leaves_substName hs hxy hlast))
  · -- without one, all names are accounted for
    intro hmask y
    rw [VariableMap.mem_freeNames_subst he fun z hz => hmask z (.inl hz), Scope.reaches_iff]
    have hinner : ∀ x ∈ e.freeNames,
        (y ∈ (s.vars.substName x).freeNames ↔ ReflTransGen s.vars.Refers x y ∧ s.vars.Stays y) := fun x hx =>
      ha.mem_freeNames_substName hs fun y' v hxy hv z hz =>
        hmask z (.inr ⟨y', v, Scope.reaches_iff.2 ⟨x, hx, hxy⟩, hv, hz⟩)
    constructor
    · rintro ⟨x, hx, hy⟩
      obtain ⟨hxy, hstays⟩ := (hinner x hx).1 hy
      exact ⟨⟨x, hx, hxy⟩, hstays⟩
    · rintro ⟨⟨x, hx, hxy⟩, hstays⟩
      exact ⟨x, hx, (hinner x hx).2 ⟨hxy, hstays⟩⟩

/-- A chain of three variables, the last of which stands for itself, and a shorthand for the first one. -/
theorem Expr.subst_of_acyclic_chain :
    let s := (Scope.ofContext "").withVars
      ⟨[("a", .binary (.ident "b") "+" (.ident "c")), ("b", .property (.ident "c") "k" false), ("c", .ident "c")],
        by decide⟩
    let e := Expr.call (.ident "f") [.object [.shorthand "a", .keyed "b" (.ident "b")]]
    (s.context = "" ∧ e.every .plain = true ∧ s.vars.every .plain = true ∧ s.vars.Acyclic) ∧
      e.render (some s) = (e.subst s.vars).render none ∧
      (e.subst s.vars).subst s.vars = e.subst s.vars ∧
      ∀ y, y ∈ (e.subst s.vars).freeNames ↔ s.Reaches e.freeNames y ∧ s.vars.Stays y := by
  intro s e
  have hc : s.context = "" := rfl
  have he : e.every .plain = true := by decide
  have hs : s.vars.every .plain = true := by decide
  have ha : s.vars.Acyclic :=
    VariableMap.acyclic_of_rank (fun x => if x = "a" then 2 else if x = "b" then 1 else 0) (by decide)
  have hshorthand : ∀ z, s.ReachesShorthand e z → z = "a" := by
    rintro z (hz | ⟨y, v, -, hv, hz⟩)
    · simpa [e, Expr.sites, sitesOfExprs, sitesOfEntries, ObjectEntry.sites] using hz
    · -- no value has a shorthand
      have hmem : (y, v) ∈ s.vars.entries := mem_of_lookup_eq_some hv
      simp only [s, Scope.withVars, List.mem_cons, Prod.mk.injEq, List.not_mem_nil, or_false] at hmem
      rcases hmem with ⟨rfl, rfl⟩ | ⟨rfl, rfl⟩ | ⟨rfl, rfl⟩ <;> simp [Expr.sites] at hz
  have hmask : ¬ s.vars.Masks "a" := by
    rintro ⟨-, htext⟩
    have hv : s.vars.get? "a" = some (.binary (.ident "b") "+" (.ident "c")) := rfl
    rw [VariableMap.substName_of_some hv (by simp [Expr.ident?]), Expr.render_inPlaceOf] at htext
    -- the value is printed in parentheses
    have hhead := congrArg (fun text => text.toList.head?) htext
    simp [Expr.operandText, Expr.isPrimary, Text.parenthesized] at hhead
  obtain ⟨htext, hagain, hleft⟩ := subst_of_acyclic hc he hs ha
  exact ⟨⟨hc, he, hs, ha⟩, htext, hagain, hleft.2 fun z hz => hshorthand z hz ▸ hmask⟩

/-- The name `x` is left of `{ x }` if it stands for the text `x`: it is neither unmapped nor mapped to itself, but
still the shorthand. -/
theorem Expr.freeNames_subst_masked :
    let s := (Scope.ofContext "").withVars ⟨[("x", .verbatim "x")], by decide⟩
    let e := Expr.object [.shorthand "x"]
    s.context = "" ∧ e.every .plain = true ∧ s.vars.every .plain = true ∧ s.vars.Acyclic ∧
      ¬ ∀ y, y ∈ (e.subst s.vars).freeNames ↔ s.Reaches e.freeNames y ∧ s.vars.Stays y := by
  intro s e
  have he : e.every .plain = true := by decide
  have ha : s.vars.Acyclic := VariableMap.acyclic_of_rank (fun _ => 0) (by decide)
  have hv : s.vars.get? "x" = some (.verbatim "x") := rfl
  have hmask : s.vars.Masks "x" := by
    refine ⟨fun hstays => by simpa [Expr.ident?] using hstays _ hv, ?_⟩
    rw [VariableMap.substName_of_some hv (by simp [Expr.ident?])]
    rfl
  have hsite : Site.shorthand [] "x" ∈ e.sites [] := by simp [e, Expr.sites, sitesOfEntries, ObjectEntry.sites]
  refine ⟨rfl, he, by decide, ha, fun hleft => ?_⟩
  obtain ⟨y, hy, hn⟩ := VariableMap.leaves_of_masks he hsite hmask
  exact hn ((hleft y).1 hy).2

end ViewTemplate
