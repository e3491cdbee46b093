import ViewTemplate.Proofs.Json.Form
import ViewTemplate.Proofs.Lookup

/-!
# What is read after an edit

A decoder that reads a value reads the same from the value after an edit, and layers of decoders that are as many as
the value is deep read what more layers, or fewer, have read. Both are shown at once, for one decoder after the other:
an unknown field may be deeper than all else, so the edited value may be read by other layers than the value itself.
-/

namespace ViewTemplate

namespace Json

variable {α β : Type} {F : Form} {d e : Nat} {D D' : Decoder α}

theorem eq_object_of_fields? {j : Json} {fields : List (String × Json)} (h : j.fields? = some fields) :
    j = .object fields := by
  cases j with
  | object f => exact congrArg _ (Option.some.inj h)
  | _ => cases h

theorem field?_eq_some {key : String} {j : Json} {a : α} (h : field? key D j = some a) :
    ∃ fields value, j = .object fields ∧ fields.lookup key = some value ∧ D value = some a := by
  obtain ⟨fields, hfields, h⟩ := Option.bind_eq_some_iff.1 h
  obtain ⟨value, hvalue, h⟩ := Option.bind_eq_some_iff.1 h
  exact ⟨fields, value, eq_object_of_fields? hfields, hvalue, h⟩

theorem optField?_eq_some {key : String} {j : Json} {o : Option α} (h : optField? key D j = some o) :
    ∃ fields, j = .object fields ∧
      (match fields.lookup key with
        | none => some none
        | some value => nullable? D value) = some o := by
  obtain ⟨fields, hfields, h⟩ := Option.bind_eq_some_iff.1 h
  exact ⟨fields, eq_object_of_fields? hfields, h⟩

theorem nullable?_of_ne_null {j : Json} (h : j ≠ .null) : nullable? D j = (D j).map some := by
  cases j with
  | null => exact absurd rfl h
  | _ => rfl

theorem eq_tagged_of_bind {f : String × Json → Option α} {j : Json} {a : α} (h : j.tagged?.bind f = some a) :
    ∃ tag payload, j = tagged tag payload ∧ f (tag, payload) = some a := by
  obtain ⟨⟨tag, payload⟩, hj, ha⟩ := Option.bind_eq_some_iff.1 h
  unfold tagged? at hj
  split at hj
  · cases hj
    exact ⟨_, _, rfl, ha⟩
  · cases hj

/-! ### Depth -/

theorem depth_lt_of_mem_fields {fields : List (String × Json)} {key : String} {value : Json}
    (h : (key, value) ∈ fields) : value.depth < (Json.object fields).depth := by
  rw [depth]
  induction fields with
  | nil => simp at h
  | cons field fields ih =>
    obtain ⟨k, v⟩ := field
    rw [fieldsDepth]
    rcases List.mem_cons.1 h with h | h
    · obtain ⟨rfl, rfl⟩ := Prod.mk.inj h
      omega
    · have := ih h
      omega

theorem depth_lt_of_mem_items {items : List Json} {item : Json} (h : item ∈ items) :
    item.depth < (Json.array items).depth := by
  rw [depth]
  induction items with
  | nil => simp at h
  | cons i items ih =>
    rw [itemsDepth]
    rcases List.mem_cons.1 h with rfl | h
    · omega
    · have := ih h
      omega

theorem depth_lt_tagged (tag : String) (payload : Json) : payload.depth < (tagged tag payload).depth :=
  depth_lt_of_mem_fields (List.mem_singleton.2 rfl)

/-! ### What an edit does to lists and objects -/

/-- What is found under a known key of an object before an edit of it, and after it. -/
inductive Form.EditFound (F : Form) : Option Json → Option Json → Prop
  | same (found : Option Json) : EditFound F found found
  | dropped (optional : F.isNullable = true) : EditFound F (some .null) none
  | edited {value value' : Json} (edit : F.EditOrSame value value') : EditFound F (some value) (some value')

/-- A known field is found again after an edit of the object, edited itself, or missing if it was null. -/
theorem Form.editFound_lookup {known : List (String × Form)} {fields : List (String × Json)} {j' : Json}
    (h : (Form.record known).EditOrSame (.object fields) j') :
    ∃ fields', j' = .object fields' ∧
      ∀ key F, known.lookup key = some F → F.EditFound (fields.lookup key) (fields'.lookup key) := by
  cases h with
  | refl => exact ⟨fields, rfl, fun key F _ => .same _⟩
  | single h =>
    cases h with
    | @add _ before after k value unknown =>
      refine ⟨_, rfl, fun key F hk => ?_⟩
      have hne : key ≠ k := by
        rintro rfl
        rw [unknown] at hk
        cases hk
      rw [lookup_append_cons_of_ne hne]
      exact .same _
    | reorder nodup perm =>
      refine ⟨_, rfl, fun key F _ => ?_⟩
      rw [lookup_eq_of_perm nodup perm key]
      exact .same _
    | @drop _ before after k content nodup optional =>
      refine ⟨_, rfl, fun key F hk => ?_⟩
      by_cases hkey : key = k
      · subst hkey
        rw [optional] at hk
        cases hk
        have hmissing : (before ++ after).lookup key = none := by
          have hnodup := (List.perm_middle.map Prod.fst).nodup_iff.1 nodup
          rw [List.map_cons, List.nodup_cons] at hnodup
          exact lookup_eq_none_iff_not_mem.2 hnodup.1
        have hnull : (before ++ (key, Json.null) :: after).lookup key = some .null :=
          (lookup_eq_some_iff_mem nodup).2 (by simp)
        rw [hnull, hmissing]
        exact .dropped rfl
      · rw [lookup_append_cons_of_ne hkey]
        exact .same _
    | @inField _ before after k G value value' isField edit =>
      refine ⟨_, rfl, fun key F hk => ?_⟩
      by_cases hkey : key = k
      · subst hkey
        rw [isField] at hk
        cases hk
        rw [List.lookup_append, List.lookup_append, List.lookup_cons_self, List.lookup_cons_self]
        cases before.lookup key with
        | none => exact .edited (.single edit)
        | some found => exact .same _
      · rw [lookup_append_cons_of_ne hkey, lookup_append_cons_of_ne hkey]
        exact .same _

/-- The items of a list are edited or the same. -/
theorem Form.editOrSame_items {items : List Json} {j' : Json} (h : (Form.list F).EditOrSame (.array items) j') :
    ∃ items', j' = .array items' ∧ List.Forall₂ F.EditOrSame items items' := by
  have hsame : ∀ l : List Json, List.Forall₂ F.EditOrSame l l := fun l => List.forall₂_same.2 fun _ _ => .refl
  cases h with
  | refl => exact ⟨items, rfl, hsame items⟩
  | single h =>
    cases h with
    | @inItem _ before after item item' edit =>
      exact ⟨_, rfl, List.rel_append (hsame before) (.cons (.single edit) (hsame after))⟩

/-- The payload of a marked value is edited or the same. -/
theorem Form.editOrSame_payload {tags : List (String × Form)} {tag : String} {payload j' : Json}
    (h : (Form.choice tags).EditOrSame (tagged tag payload) j') (htag : tag ∈ tags.map (·.1)) :
    ∃ payload' G, j' = tagged tag payload' ∧ (tag, G) ∈ tags ∧ G.EditOrSame payload payload' := by
  generalize hj : tagged tag payload = j at h
  cases h with
  | refl =>
    obtain ⟨⟨_, G⟩, hG, rfl⟩ := List.mem_map.1 htag
    exact ⟨payload, G, hj.symm, hG, .refl⟩
  | single h =>
    cases h with
    | @inPayload _ t G p payload' isTag edit =>
      simp only [tagged, object.injEq, List.cons.injEq, Prod.mk.injEq, and_true] at hj
      obtain ⟨rfl, rfl⟩ := hj
      obtain ⟨before, after, rfl, -⟩ := List.lookup_eq_some_iff.1 isTag
      exact ⟨payload', G, rfl, by simp, .single edit⟩

/-! ### Decoders -/

/-- What `D` reads from a value of form `F`, `D'` reads from the value as it is or after one edit, as far as that is
less than `d` deep. -/
def Carries (F : Form) (d : Nat) (D D' : Decoder α) : Prop :=
  ∀ j j' a, F.EditOrSame j j' → j'.depth < d → D j = some a → D' j' = some a

namespace Carries

theorem mono (h : Carries F d D D') (hd : e ≤ d) : Carries F e D D' :=
  fun j j' a hj hj' => h j j' a hj (Nat.lt_of_lt_of_le hj' hd)

theorem within (h : Carries F (d + 1) D D') : Carries F d D D' :=
  h.mono (Nat.le_succ d)

/-- Nothing is edited in plain data. -/
theorem plain : Carries .plain d D D := by
  intro j j' a hj _ ha
  cases hj with
  | refl => exact ha
  | single hj => cases hj

theorem pure (a : α) : Carries F d (fun _ => some a) fun _ => some a :=
  fun _ _ _ _ _ ha => ha

theorem bind {E E' : α → Decoder β} (h : Carries F d D D') (hE : ∀ a, Carries F d (E a) (E' a)) :
    Carries F d (fun j => (D j).bind fun a => E a j) fun j => (D' j).bind fun a => E' a j := by
  intro j j' b hj hd hb
  obtain ⟨a, ha, hb⟩ := Option.bind_eq_some_iff.1 hb
  exact Option.bind_eq_some_iff.2 ⟨a, h j j' a hj hd ha, hE a j j' b hj hd hb⟩

theorem map {f : α → β} (h : Carries F d D D') :
    Carries F d (fun j => (D j).map f) fun j => (D' j).map f := by
  intro j j' b hj hd hb
  obtain ⟨a, ha, rfl⟩ := Option.map_eq_some_iff.1 hb
  exact Option.map_eq_some_iff.2 ⟨a, h j j' a hj hd ha, rfl⟩

theorem list (h : Carries F d D D') : Carries (.list F) d (list? D) (list? D') := by
  intro j j' as hj hd has
  cases j with
  | array items =>
    obtain ⟨items', rfl, hitems⟩ := Form.editOrSame_items hj
    have hdepth : ∀ item ∈ items', item.depth < d := fun item hm =>
      Nat.lt_trans (depth_lt_of_mem_items hm) hd
    simp only [list?] at has ⊢
    clear hj hd
    induction hitems generalizing as with
    | nil => exact has
    | cons hitem _ ih =>
      simp only [List.mapM_cons, Option.bind_eq_bind, Option.bind_eq_some_iff] at has ⊢
      obtain ⟨a, ha, as, has, hcons⟩ := has
      rw [List.forall_mem_cons] at hdepth
      exact ⟨a, h _ _ a hitem hdepth.1 ha, as, ih as has hdepth.2, hcons⟩
  | _ => simp [list?] at has

theorem nullable (h : Carries F d D D') : Carries (.nullable F) d (nullable? D) (nullable? D') := by
  intro j j' o hj hd ho
  by_cases hnull : j = .null
  · subst hnull
    cases hj with
    | refl => exact ho
    | single hj => exact absurd rfl hj.ne_null.1
  · have hsame : F.EditOrSame j j' ∧ j' ≠ .null := by
      cases hj with
      | refl => exact ⟨.refl, hnull⟩
      | single hj =>
        cases hj with
        | inContent hj => exact ⟨.single hj, hj.ne_null.2⟩
    rw [nullable?_of_ne_null hnull] at ho
    rw [nullable?_of_ne_null hsame.2]
    exact h.map j j' o hsame.1 hd ho

theorem ofKind {k : Kind} (h : Carries k.form d D D') : Carries (.kind k) d D D' := by
  intro j j' a hj hd ha
  cases hj with
  | refl => exact h j j a .refl hd ha
  | single hj =>
    cases hj with
    | inKind hj => exact h j j' a (.single hj) hd ha

theorem field {known : List (String × Form)} {key : String} (hk : known.lookup key = some F)
    (hF : F.isNullable = false) (h : Carries F d D D') :
    Carries (.record known) (d + 1) (field? key D) (field? key D') := by
  intro j j' a hj hd hread
  obtain ⟨fields, value, rfl, hvalue, ha⟩ := field?_eq_some hread
  obtain ⟨fields', rfl, hfound⟩ := Form.editFound_lookup hj
  replace hfound := hfound key F hk
  rw [hvalue] at hfound
  obtain ⟨value', hvalue', hedit⟩ : ∃ value', fields'.lookup key = some value' ∧ F.EditOrSame value value' := by
    generalize fields'.lookup key = found at hfound
    cases hfound with
    | same => exact ⟨value, rfl, .refl⟩
    | dropped optional => simp [hF] at optional
    | edited edit => exact ⟨_, rfl, edit⟩
  have hdepth := depth_lt_of_mem_fields (mem_of_lookup_eq_some hvalue')
  simp only [field?, fields?, Option.bind_some, hvalue']
  exact h value value' a hedit (by omega) ha

theorem optField {known : List (String × Form)} {key : String} (hk : known.lookup key = some (.nullable F))
    (h : Carries F d D D') : Carries (.record known) (d + 1) (optField? key D) (optField? key D') := by
  intro j j' o hj hd hread
  obtain ⟨fields, rfl, ho⟩ := optField?_eq_some hread
  obtain ⟨fields', rfl, hfound⟩ := Form.editFound_lookup hj
  replace hfound := hfound key _ hk
  simp only [optField?, fields?, Option.bind_some]
  have hdepth : ∀ value, fields'.lookup key = some value → value.depth < d := fun value hv => by
    have := depth_lt_of_mem_fields (mem_of_lookup_eq_some hv)
    omega
  generalize fields.lookup key = found at hfound ho
  generalize fields'.lookup key = found' at hfound hdepth
  cases hfound with
  | same =>
    cases found with
    | none => exact ho
    | some value => exact h.nullable value value o .refl (hdepth value rfl) ho
  | dropped => exact ho
  | edited edit => exact h.nullable _ _ o edit (hdepth _ rfl) ho

/-- An alternative is read as its tag says; `E` and `E'` read nothing under any other tag. -/
theorem choice {tags : List (String × Form)} {E E' : String × Json → Option α}
    (h : ∀ p ∈ tags, Carries p.2 d (fun payload => E (p.1, payload)) fun payload => E' (p.1, payload))
    (hE : ∀ tag payload a, E (tag, payload) = some a → tag ∈ tags.map (·.1)) :
    Carries (.choice tags) (d + 1) (fun j => j.tagged?.bind E) fun j => j.tagged?.bind E' := by
  intro j j' a hj hd hread
  obtain ⟨tag, payload, rfl, ha⟩ := eq_tagged_of_bind hread
  obtain ⟨payload', G, rfl, hG, hedit⟩ := Form.editOrSame_payload hj (hE tag payload a ha)
  have hdepth := depth_lt_tagged tag payload'
  exact h (tag, G) hG payload payload' a hedit (by omega) ha

end Carries

end Json

open Json

namespace Decoders

/-- Layers of decoders that read what others read, also after an edit. -/
structure Carries (D D' : Decoders) (d : Nat) : Prop where
  type : Json.Carries (.kind .type) d D.type D'.type
  expr : Json.Carries (.kind .expr) d D.expr D'.expr
  markup : Json.Carries (.kind .markup) d D.markup D'.markup
  pattern : Json.Carries (.kind .pattern) d D.pattern D'.pattern
  function : Json.Carries (.kind .function) d D.function D'.function
  block : Json.Carries (.kind .block) d D.block D'.block

namespace Carries

variable {D D' : Decoders} {d : Nat}

/-! ### One lemma for each decoder

They follow the fields and tags that the decoder reads, in its order. What lies within is read one level deeper, by the
decoders of the next layer. -/

theorem signature (h : D.Carries D' d) : Json.Carries .signature (d + 1) D.signature D'.signature :=
  .bind (.field rfl rfl .plain) fun _ => .bind (.field rfl rfl .plain) fun _ =>
    .bind (.optField rfl h.type) fun _ => .pure _

theorem typeOf (h : D.Carries D' d) : Json.Carries .type (d + 1) D.typeOf D'.typeOf := by
  have reference : Json.Carries (.record [("name", .plain), ("type_arguments", .list (.kind .type))]) d
      (fun payload => D.typeOf (.tagged "Reference" payload)) fun payload => D'.typeOf (.tagged "Reference" payload) :=
    .within (.bind (.field rfl rfl .plain) fun _ => .bind (.field rfl rfl h.type.list) fun _ => .pure _)
  refine .choice ?_ fun tag payload a ha => ?_
  · simp only [List.forall_mem_cons]
    exact ⟨reference, h.type.map, h.type.list.map, h.signature.within.list.map, Json.Carries.plain.map, by simp⟩
  · dsimp only at ha
    split at ha <;> simp_all

theorem entry (h : D.Carries D' d) : Json.Carries .entry (d + 1) D.entry D'.entry := by
  have keyed : Json.Carries (.record [("key", .plain), ("value", .kind .expr)]) d
      (fun payload => D.entry (.tagged "KeyValue" payload)) fun payload => D'.entry (.tagged "KeyValue" payload) :=
    .within (.bind (.field rfl rfl .plain) fun _ => .bind (.field rfl rfl h.expr) fun _ => .pure _)
  refine .choice ?_ fun tag payload a ha => ?_
  · simp only [List.forall_mem_cons]
    exact ⟨keyed, Json.Carries.plain.map, h.expr.map, by simp⟩
  · dsimp only at ha
    split at ha <;> simp_all

theorem exprOf (h : D.Carries D' d) : Json.Carries .expr (d + 1) D.exprOf D'.exprOf := by
  have property : Json.Carries (.record [("expression", .kind .expr), ("name", .plain), ("question_dot", .plain)])
      (d + 1) D.property D'.property :=
    .bind (.field rfl rfl h.expr) fun _ => .bind (.field rfl rfl .plain) fun _ =>
      .bind (.field rfl rfl .plain) fun _ => .pure _
  have element : Json.Carries (.record [("expression", .kind .expr), ("argument", .kind .expr)])
      (d + 1) D.element D'.element :=
    .bind (.field rfl rfl h.expr) fun _ => .bind (.field rfl rfl h.expr) fun _ => .pure _
  have call : Json.Carries (.record [("callee", .kind .expr), ("arguments", .list (.kind .expr))])
      (d + 1) D.call D'.call :=
    .bind (.field rfl rfl h.expr) fun _ => .bind (.field rfl rfl h.expr.list) fun _ => .pure _
  have binary : Json.Carries (.record [("left", .kind .expr), ("operator", .plain), ("right", .kind .expr)])
      (d + 1) D.binary D'.binary :=
    .bind (.field rfl rfl h.expr) fun _ => .bind (.field rfl rfl .plain) fun _ =>
      .bind (.field rfl rfl h.expr) fun _ => .pure _
  have unary : Json.Carries (.record [("operator", .plain), ("operand", .kind .expr)])
      (d + 1) D.unary D'.unary :=
    .bind (.field rfl rfl .plain) fun _ => .bind (.field rfl rfl h.expr) fun _ => .pure _
  have conditional : Json.Carries
      (.record [("condition", .kind .expr), ("when_true", .kind .expr), ("when_false", .kind .expr)])
      (d + 1) D.conditional D'.conditional :=
    .bind (.field rfl rfl h.expr) fun _ => .bind (.field rfl rfl h.expr) fun _ =>
      .bind (.field rfl rfl h.expr) fun _ => .pure _
  refine .choice ?_ fun tag payload a ha => ?_
  · simp only [List.forall_mem_cons]
    exact ⟨Json.Carries.plain.map, Json.Carries.plain.map, Json.Carries.plain.map, Json.Carries.plain.map,
      property.within, element.within, call.within, binary.within, unary.within, conditional.within,
      h.expr.map, h.entry.within.list.map, h.expr.list.map, h.pattern.map, h.type.map, h.markup.map,
      h.function.map, by simp⟩
  · dsimp only at ha
    split at ha <;> simp_all

theorem attributeValue (h : D.Carries D' d) (name : String) :
    Json.Carries .attributeValue (d + 1) (D.attributeValue name) (D'.attributeValue name) := by
  refine .choice ?_ fun tag payload a ha => ?_
  · simp only [List.forall_mem_cons]
    exact ⟨Json.Carries.plain.map, h.expr.map, by simp⟩
  · dsimp only at ha
    split at ha <;> simp_all

theorem namedOrSpread (h : D.Carries D' d) :
    Json.Carries .tagAttribute (d + 1) D.namedOrSpread D'.namedOrSpread := by
  have named : Json.Carries (.record [("name", .plain), ("value", .nullable .attributeValue)]) d
      (fun payload => D.namedOrSpread (.tagged "Attribute" payload))
      fun payload => D'.namedOrSpread (.tagged "Attribute" payload) :=
    .within (.bind (.field rfl rfl .plain) fun name => .bind (.optField rfl (h.attributeValue name).within) fun _ =>
      .pure _)
  refine .choice ?_ fun tag payload a ha => ?_
  · simp only [List.forall_mem_cons]
    exact ⟨named, h.expr.map, by simp⟩
  · dsimp only at ha
    split at ha <;> simp_all

theorem opening (h : D.Carries D' d) : Json.Carries .opening (d + 1) D.opening D'.opening :=
  .bind (.field rfl rfl h.expr) fun _ => .bind (.field rfl rfl h.namedOrSpread.within.list) fun _ => .pure _

theorem child (h : D.Carries D' d) : Json.Carries .child (d + 1) D.child D'.child := by
  refine .choice ?_ fun tag payload a ha => ?_
  · simp only [List.forall_mem_cons]
    exact ⟨Json.Carries.plain.map, h.markup.map, by simp⟩
  · dsimp only at ha
    split at ha <;> simp_all

theorem markupOf (h : D.Carries D' d) : Json.Carries .markup (d + 1) D.markupOf D'.markupOf := by
  have element : Json.Carries (.record [("opening", .opening), ("children", .list .child)]) d
      (fun payload => D.markupOf (.tagged "Element" payload))
      fun payload => D'.markupOf (.tagged "Element" payload) :=
    .within (.bind (.field rfl rfl h.opening.within) fun _ => .bind (.field rfl rfl h.child.within.list) fun _ =>
      .pure _)
  refine .choice ?_ fun tag payload a ha => ?_
  · simp only [List.forall_mem_cons]
    exact ⟨element, h.opening.within.map, h.child.within.list.map, h.expr.nullable.map, by simp⟩
  · dsimp only at ha
    split at ha <;> simp_all

theorem target (h : D.Carries D' d) : Json.Carries .target (d + 1) D.target D'.target := by
  refine .choice ?_ fun tag payload a ha => ?_
  · simp only [List.forall_mem_cons]
    exact ⟨Json.Carries.plain.map, h.pattern.map, by simp⟩
  · dsimp only at ha
    split at ha <;> simp_all

theorem binding (h : D.Carries D' d) : Json.Carries .binding (d + 1) D.binding D'.binding :=
  .bind (.field rfl rfl .plain) fun _ => .bind (.optField rfl .plain) fun _ =>
    .bind (.field rfl rfl h.target.within) fun _ => .bind (.optField rfl h.expr) fun _ => .pure _

theorem patternOf (h : D.Carries D' d) : Json.Carries .pattern (d + 1) D.patternOf D'.patternOf :=
  .bind (.field rfl rfl .plain) fun _ => .bind (.field rfl rfl h.binding.within.list) fun _ => .pure _

theorem decorator (h : D.Carries D' d) : Json.Carries .decorator (d + 1) D.decorator D'.decorator :=
  .field rfl rfl h.expr

theorem parameter (h : D.Carries D' d) : Json.Carries .parameter (d + 1) D.parameter D'.parameter :=
  .bind (.field rfl rfl h.decorator.within.list) fun _ => .bind (.field rfl rfl Json.Carries.plain.list) fun _ =>
    .bind (.field rfl rfl .plain) fun _ => .bind (.field rfl rfl h.target.within) fun _ =>
    .bind (.field rfl rfl .plain) fun _ => .bind (.optField rfl h.type) fun _ => .bind (.optField rfl h.expr) fun _ =>
    .pure _

theorem body (h : D.Carries D' d) : Json.Carries .body (d + 1) D.body D'.body := by
  refine .choice ?_ fun tag payload a ha => ?_
  · simp only [List.forall_mem_cons]
    exact ⟨h.block.map, h.expr.map, by simp⟩
  · dsimp only at ha
    split at ha <;> simp_all

theorem parts (h : D.Carries D' d) (form : FunctionForm) :
    Json.Carries .parts (d + 1) (D.parts form) (D'.parts form) :=
  .bind (.field rfl rfl Json.Carries.plain.list) fun _ => .bind (.field rfl rfl Json.Carries.plain.list) fun _ =>
    .bind (.field rfl rfl h.parameter.within.list) fun _ => .bind (.optField rfl h.type) fun _ =>
    .bind (.field rfl rfl h.body.within) fun _ => .pure _

theorem functionOf (h : D.Carries D' d) : Json.Carries .function (d + 1) D.functionOf D'.functionOf := by
  have keyword : Json.Carries
      (.record [("decorators", .list .decorator), ("asterisk_token", .plain), ("name", .nullable .plain),
        ("parts", .parts)]) d
      (fun payload => D.functionOf (.tagged "Function" payload))
      fun payload => D'.functionOf (.tagged "Function" payload) :=
    .within (.bind (.field rfl rfl h.decorator.within.list) fun _ => .bind (.field rfl rfl .plain) fun _ =>
      .bind (.optField rfl .plain) fun _ => .field rfl rfl (h.parts _).within)
  have arrow : Json.Carries (.record [("parts", .parts)]) d
      (fun payload => D.functionOf (.tagged "Arrow" payload))
      fun payload => D'.functionOf (.tagged "Arrow" payload) :=
    .within (.field rfl rfl (h.parts .arrow).within)
  refine .choice ?_ fun tag payload a ha => ?_
  · simp only [List.forall_mem_cons]
    exact ⟨keyword, arrow, by simp⟩
  · dsimp only at ha
    split at ha <;> simp_all

theorem declaration (h : D.Carries D' d) : Json.Carries .declaration (d + 1) D.declaration D'.declaration :=
  .bind (.field rfl rfl h.target.within) fun _ => .bind (.optField rfl h.type) fun _ =>
    .bind (.optField rfl h.expr) fun _ => .pure _

theorem declarations (h : D.Carries D' d) : Json.Carries .declarations (d + 1) D.declarations D'.declarations :=
  .bind (.field rfl rfl .plain) fun _ => .bind (.field rfl rfl h.declaration.within.list) fun _ => .pure _

theorem statement (h : D.Carries D' d) : Json.Carries .statement (d + 1) D.statement D'.statement := by
  have declare : Json.Carries (.record [("modifiers", .list .plain), ("declaration_list", .declarations)]) d
      (fun payload => D.statement (.tagged "Variable" payload))
      fun payload => D'.statement (.tagged "Variable" payload) :=
    .within (.bind (.field rfl rfl Json.Carries.plain.list) fun _ =>
      .bind (.field rfl rfl h.declarations.within) fun _ => .pure _)
  refine .choice ?_ fun tag payload a ha => ?_
  · simp only [List.forall_mem_cons]
    exact ⟨h.expr.nullable.map, declare, h.expr.map, h.block.map, by simp⟩
  · dsimp only at ha
    split at ha <;> simp_all

theorem blockOf (h : D.Carries D' d) : Json.Carries .block (d + 1) D.blockOf D'.blockOf :=
  .map (.field rfl rfl h.statement.within.list)

/-- One more layer on both sides reads one layer deeper. -/
theorem outer (h : D.Carries D' d) : D.outer.Carries D'.outer (d + 1) where
  type := .ofKind h.typeOf
  expr := .ofKind h.exprOf
  markup := .ofKind h.markupOf
  pattern := .ofKind h.patternOf
  function := .ofKind h.functionOf
  block := .ofKind h.blockOf

/-- As many layers as an edited value is deep read what any number of layers has read before the edit. -/
theorem below (n d : Nat) : (Decoders.below n).Carries (Decoders.below d) d := by
  induction n generalizing d with
  | zero => constructor <;> intro j j' a _ _ ha <;> cases ha
  | succ n ih =>
    cases d with
    | zero => constructor <;> intro j j' a _ hd <;> exact absurd hd (Nat.not_lt_zero _)
    | succ d => exact (ih d).outer

end Carries

end Decoders

end ViewTemplate
