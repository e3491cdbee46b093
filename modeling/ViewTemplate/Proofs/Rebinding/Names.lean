import Mathlib.Data.List.Nodup
import Mathlib.Data.List.Perm.Basic
import ViewTemplate.Diagnostic.Component
import ViewTemplate.Proofs.Rebinding.Scope

/-!
# External names after rebinding

A component without findings about its members has different names for all of them.  Rebinding gives a template the
name under which an element takes it out, and never asks whether another member has that name already: then callers
reach two members by one name (`Registry.member?_scopeFor?_clash`).

An element clashes if it does so.  One element keeps the names different exactly when it does not clash
(`nodup_rebindOne_iff`), so they stay different from element to element exactly when none clashes
(`nodup_rebindAll_iff`), and each member of the scope is then found by its name
(`Registry.nodup_members_scopeFor?`).  For the scope alone this is sufficient, not necessary: a later element may undo
a clash.
-/

namespace ViewTemplate

/-! ### Members that are found to be duplicates -/

/-- A name is repeated if it was seen before or stands in the list twice. -/
theorem repeatedNames_eq_nil_iff {seen names : List String} :
    repeatedNames seen names = [] ↔ names.Nodup ∧ ∀ x ∈ names, x ∉ seen := by
  induction names generalizing seen with
  | nil => simp [repeatedNames]
  | cons x names ih =>
    by_cases hx : x ∈ seen
    · simp [repeatedNames, hx]
    · have hseen : (∀ y ∈ names, y ∉ x :: seen) ↔ x ∉ names ∧ ∀ y ∈ names, y ∉ seen := by
        simp only [List.mem_cons, not_or, forall_and]
        exact and_congr_left fun _ => ⟨fun h hxn => h x hxn rfl, fun h y hy hyx => h (hyx ▸ hy)⟩
      simp only [repeatedNames, List.contains_iff_mem, hx, if_false, ih, hseen, List.nodup_cons, List.forall_mem_cons,
        not_false_eq_true, true_and, and_assoc, and_left_comm]

/-- If no member is found to be a duplicate, callers reach the members by different names. -/
theorem Component.nodup_of_diagnose {c : Component} (hd : ∀ d ∈ c.diagnose, d.code ≠ "duplicate-member") :
    (c.members.map Member.externalName).Nodup := by
  have hnone : repeatedNames [] (c.members.map Member.externalName) = [] := by
    refine List.eq_nil_iff_forall_not_mem.2 fun x hx => ?_
    have hfound : Diagnostic.duplicateMember c.name x ∈ c.diagnose :=
      List.mem_append_right _ (List.mem_map.2 ⟨x, hx, rfl⟩)
    exact hd _ hfound rfl
  exact (repeatedNames_eq_nil_iff.1 hnone).1

namespace Binding

/-- Whether the binding gives the member that it takes out a name by which callers reach another member. -/
def clashes (members : List Member) (b : Binding) : Bool :=
  match b.place? members with
  | none => false
  | some i => members[i]?.any fun m =>
    ((members.map Member.externalName).eraseIdx i).contains (m.rebound b).externalName

end Binding

/-- No binding gives its member a name that another member has by then. -/
def clashless : List Member → List Binding → Bool
  | _, [] => true
  | members, b :: bs => !b.clashes members && clashless (rebindOne members b).2 bs

/-- The name that a binding gives a template: only a binding with a key of its own gives one. -/
def Binding.given? (b : Binding) : Option String :=
  b.key.bind fun _ => b.target.name?

section

variable {members : List Member} {b : Binding} {bs : List Binding} {m : Member} {i : Nat}

/-! ### One binding -/

theorem externalName_rebound (m : Member) (b : Binding) :
    (m.rebound b).externalName = m.externalName ∨ b.given? = some (m.rebound b).externalName := by
  unfold Member.rebound Binding.given?
  split
  · exact Or.inl rfl
  · split
    · next hkey hname => exact Or.inr (by rw [hkey, hname]; rfl)
    · exact Or.inl rfl

/-- Only the name of the member that is taken out may change. -/
theorem map_externalName_rebindOne (hp : b.place? members = some i) (hi : members[i]? = some m) :
    (rebindOne members b).2.map Member.externalName =
      (members.map Member.externalName).set i (m.rebound b).externalName := by
  obtain ⟨hlt, rfl⟩ := List.getElem?_eq_some_iff.1 hi
  rw [rebindOne_of_place?_eq_some hp hi, List.modify_eq_set_get _ hlt, List.map_set]
  rfl

private theorem nodup_set_iff {l : List String} {x : String} (hi : i < l.length) (hl : l.Nodup) :
    (l.set i x).Nodup ↔ x ∉ l.eraseIdx i := by
  have hrest : (l.eraseIdx i).Nodup := hl.sublist (List.eraseIdx_sublist l i)
  rw [(List.set_perm_cons_eraseIdx hi x).nodup_iff, List.nodup_cons, and_iff_left hrest]

/-- One binding keeps the names different exactly when it does not clash. -/
theorem nodup_rebindOne_iff (hm : (members.map Member.externalName).Nodup) :
    ((rebindOne members b).2.map Member.externalName).Nodup ↔ b.clashes members = false := by
  cases hp : b.place? members with
  | none => simp [rebindOne_of_place?_eq_none hp, Binding.clashes, hp, hm]
  | some i =>
    obtain ⟨m, hi, -, -⟩ := Binding.place?_eq_some_iff.1 hp
    obtain ⟨hlt, -⟩ := List.getElem?_eq_some_iff.1 hi
    rw [map_externalName_rebindOne hp hi, nodup_set_iff (by simpa using hlt) hm]
    simp [Binding.clashes, hp, hi]

/-- A new name that no member has does not clash. -/
theorem clashes_eq_false_of_given (hm : (members.map Member.externalName).Nodup)
    (hgiven : ∀ x ∈ b.given?, x ∉ members.map Member.externalName) : b.clashes members = false := by
  rw [← nodup_rebindOne_iff hm]
  cases hp : b.place? members with
  | none => rwa [rebindOne_of_place?_eq_none hp]
  | some i =>
    obtain ⟨m, hi, -, -⟩ := Binding.place?_eq_some_iff.1 hp
    rw [map_externalName_rebindOne hp hi]
    rcases externalName_rebound m b with hsame | hnew
    · have hname : (members.map Member.externalName)[i]? = some m.externalName := by rw [List.getElem?_map, hi]; rfl
      obtain ⟨hlt, hget⟩ := List.getElem?_eq_some_iff.1 hname
      rwa [hsame, ← hget, List.set_getElem_self]
    · rw [nodup_set_iff (by simpa using (List.getElem?_eq_some_iff.1 hi).1) hm]
      exact fun hmem => hgiven _ hnew (List.mem_of_mem_eraseIdx hmem)

/-! ### All bindings -/

/-- The names stay different from binding to binding exactly when no binding clashes. -/
theorem nodup_rebindAll_iff (hm : (members.map Member.externalName).Nodup) :
    (∀ before, before <+: bs → ((rebindAll members before).2.map Member.externalName).Nodup) ↔
      clashless members bs = true := by
  induction bs generalizing members with
  | nil => simp [clashless, rebindAll, hm]
  | cons b bs ih =>
    rw [clashless, Bool.and_eq_true, Bool.not_eq_true', ← nodup_rebindOne_iff hm]
    constructor
    · intro h
      have hone : ((rebindOne members b).2.map Member.externalName).Nodup := h [b] (by simp)
      refine ⟨hone, (ih hone).1 fun before hbefore => ?_⟩
      exact h (b :: before) (List.cons_prefix_cons.2 ⟨rfl, hbefore⟩)
    · rintro ⟨hone, hrest⟩ before hbefore
      cases before with
      | nil => exact hm
      | cons b' before =>
        obtain ⟨rfl, htail⟩ := List.cons_prefix_cons.1 hbefore
        exact (ih hone).2 hrest before htail

/-- Different new names that no member had before do not clash. -/
theorem clashless_of_given (hm : (members.map Member.externalName).Nodup) (hg : (bs.filterMap Binding.given?).Nodup)
    (hnew : ∀ x ∈ bs.filterMap Binding.given?, x ∉ members.map Member.externalName) : clashless members bs = true := by
  induction bs generalizing members with
  | nil => rfl
  | cons b bs ih =>
    have hsplit : (b :: bs).filterMap Binding.given? = b.given?.toList ++ bs.filterMap Binding.given? := by
      cases h : b.given? <;> simp [h]
    rw [hsplit, List.nodup_append] at hg
    rw [hsplit, List.forall_mem_append] at hnew
    obtain ⟨-, hrest, hdifferent⟩ := hg
    have hb : b.clashes members = false :=
      clashes_eq_false_of_given hm fun x hx => hnew.1 x (Option.mem_toList.2 hx)
    rw [clashless, hb, Bool.not_false, Bool.true_and]
    refine ih ((nodup_rebindOne_iff hm).2 hb) hrest fun x hx hmem => ?_
    -- the names behind `b` are neither old ones nor the one that `b` gives
    cases hp : b.place? members with
    | none =>
      rw [rebindOne_of_place?_eq_none hp] at hmem
      exact hnew.2 x hx hmem
    | some i =>
      obtain ⟨m, hi, -, -⟩ := Binding.place?_eq_some_iff.1 hp
      rw [map_externalName_rebindOne hp hi] at hmem
      rcases List.mem_or_eq_of_mem_set hmem with hold | rfl
      · exact hnew.2 x hx hold
      · rcases externalName_rebound m b with hsame | hgiven
        · rw [hsame] at hx
          exact hnew.2 _ hx (List.mem_map_of_mem (List.mem_of_getElem? hi))
        · exact hdifferent _ (Option.mem_toList.2 hgiven) _ hx rfl

/-- Members with different names are found by them. -/
theorem memberNamed?_of_nodup (hm : (members.map Member.externalName).Nodup) (h : m ∈ members) :
    memberNamed? members m.externalName = some m := by
  unfold memberNamed?
  cases hf : members.find? fun m' => m'.externalName = m.externalName with
  | none => exact absurd (List.find?_eq_none.1 hf m h) (by simp)
  | some m' =>
    have hname : m'.externalName = m.externalName := by simpa using List.find?_some hf
    exact congrArg some (List.inj_on_of_nodup_map hm (List.mem_of_find?_eq_some hf) h hname)

end

/-! ### The members of a scope -/

/-- Bindings that take no properties apart stay as they are, and so do the members. -/
theorem rebindProps_of_none {bs : List Binding} (members : List Member)
    (h : (bs.find? fun b => b.key = some "props").bind (·.target.pattern?) = none) :
    rebindProps members bs = (bs, members) := by
  induction bs with
  | nil => rfl
  | cons b bs ih =>
    rw [List.find?_cons] at h
    by_cases hb : b.key = some "props"
    · simp only [hb, decide_true, Option.bind_some] at h
      cases ht : b.target with
      | name x => simp [rebindProps, hb, ht]
      | pattern q => simp [ht, Target.pattern?] at h
    · simp only [hb, decide_false] at h
      simp [rebindProps, hb, ih h]

/-- What a parameter takes out of the properties. -/
def Parameter.propsElements (p : Parameter) : List Binding :=
  (p.props?.map Pattern.elements).getD []

/-- The members of a scope are the rebindable ones once all elements have taken out theirs. -/
theorem Component.members_scopeFor (c : Component) (p : Parameter) :
    (c.scopeFor p).members = (rebindAll (rebindable c.members) p.propsElements).2 := by
  cases hprops : p.props? with
  | some props =>
    have hscope := c.scopeFor_withProps hprops props.elements
    rw [Parameter.withProps_self hprops] at hscope
    rw [hscope, Parameter.propsElements, hprops]
    rfl
  | none =>
    rw [Parameter.propsElements, hprops, scopeFor]
    cases ht : p.target with
    | name x => rfl
    | pattern q =>
      rw [Parameter.props?, ht] at hprops
      simp only [rebindProps_of_none _ hprops]
      rfl

namespace Registry

/-- A component no member of which is found to be a duplicate, and a function that is typed as it.  The members of its
scope have different names for callers, after each element that takes one out, exactly when no element gives its member
a name that another member has by then; so it is when the new names are different from each other and from the declared
ones.  Each member of the scope is then found by its name.  For the members of the scope, as they are after the last
element, this is sufficient only: a clash that a later element undoes is left out, as in `{ item: head, head: Head }`
with the templates `item` and `head`. -/
theorem nodup_members_scopeFor? {r : Registry} {c : Component} {f : Function} {p : Parameter}
    (hp : f.parameters.head? = some p) (hc : r.componentOf? f = some c)
    (hd : ∀ d ∈ c.diagnose, d.code ≠ "duplicate-member") :
    let declared := rebindable c.members
    let names := fun members : List Member => members.map Member.externalName
    let given := p.propsElements.filterMap Binding.given?
    ((∀ before, before <+: p.propsElements → (names (rebindAll declared before).2).Nodup) ↔
      clashless declared p.propsElements = true) ∧
    (given.Nodup → (∀ x ∈ given, x ∉ names declared) → clashless declared p.propsElements = true) ∧
    ∃ s, r.scopeFor? f = some s ∧ s.members = (rebindAll declared p.propsElements).2 ∧
      (clashless declared p.propsElements = true →
        (names s.members).Nodup ∧ ∀ m ∈ s.members, s.member? m.externalName = some m) := by
  intro declared names given
  have hdeclared : (names declared).Nodup := (List.filter_sublist.map _).nodup (Component.nodup_of_diagnose hd)
  have hstages : (∀ before, before <+: p.propsElements → (names (rebindAll declared before).2).Nodup) ↔
      clashless declared p.propsElements = true := nodup_rebindAll_iff hdeclared
  refine ⟨hstages, clashless_of_given hdeclared, c.scopeFor p, scopeFor?_eq hp hc, c.members_scopeFor p, fun h => ?_⟩
  have hmembers : (names (c.scopeFor p).members).Nodup := by
    rw [c.members_scopeFor p]
    exact hstages.2 h _ (List.prefix_refl _)
  exact ⟨hmembers, fun m hm => memberNamed?_of_nodup hmembers hm⟩

/-- Templates that exchange their names by way of a third one, a slot, and a property that is no member to rebind. -/
theorem nodup_members_scopeFor?_exchanged :
    let c := (((Component.ofName "List").withMember (.ofKind .template "item")).withMember
      (.ofKind .template "head")).withMember ((Member.ofKind .slot "defaultContent").withExternalName "content")
    let r := Registry.register ∅ c
    let elements := [Binding.aliased "item" "spare", .aliased "head" "item", .aliased "spare" "head",
      .aliased "content" "content", .ofName "text"]
    let p := (Parameter.ofTarget (.pattern ⟨.object, [.nested "props" ⟨.object, elements⟩]⟩)).withType
      (.reference "List" [])
    let f := Function.named "view" [p] ⟨[]⟩
    (f.parameters.head? = some p ∧ r.componentOf? f = some c ∧ (∀ d ∈ c.diagnose, d.code ≠ "duplicate-member") ∧
      clashless (rebindable c.members) p.propsElements = true) ∧
    ∃ s, r.scopeFor? f = some s ∧ s.members.map (fun m => (m.name, m.externalName)) =
        [("item", "head"), ("head", "item"), ("defaultContent", "content")] ∧
      ∀ m ∈ s.members, s.member? m.externalName = some m := by
  intro c r elements p f
  have hp : f.parameters.head? = some p := rfl
  have hc : r.componentOf? f = some c := rfl
  have hd : ∀ d ∈ c.diagnose, d.code ≠ "duplicate-member" := by decide
  have hclash : clashless (rebindable c.members) p.propsElements = true := rfl
  obtain ⟨-, -, s, hs, hmembers, hfound⟩ := nodup_members_scopeFor? hp hc hd
  refine ⟨⟨hp, hc, hd, hclash⟩, s, hs, ?_, (hfound hclash).2⟩
  rw [hmembers]
  rfl

/-- A template that is given the name of another template: callers reach both by it, and the second one is not found
by its name. -/
theorem member?_scopeFor?_clash :
    let c := ((Component.ofName "List").withMember (.ofKind .template "item")).withMember (.ofKind .template "head")
    let r := Registry.register ∅ c
    let p := (Parameter.ofTarget (.pattern ⟨.object, [.nested "props" ⟨.object, [.aliased "item" "head"]⟩]⟩)).withType
      (.reference "List" [])
    let f := Function.named "view" [p] ⟨[]⟩
    (r.componentOf? f = some c ∧ c.diagnose = []) ∧
      ∃ s item head, r.scopeFor? f = some s ∧ s.members = [item, head] ∧
        item.externalName = "head" ∧ head.externalName = "head" ∧ item.name ≠ head.name ∧
        s.member? head.externalName = some item := by
  intro c r p f
  exact ⟨⟨rfl, by decide⟩, _, _, _, rfl, rfl, rfl, rfl, by decide, rfl⟩

end Registry

end ViewTemplate
