import ViewTemplate.Rebinding

/-!
# Members taken out all at once

The bindings of a component's properties take out their members one after the other, and a template that was taken
out is known by another name to the bindings that follow.  The second side here knows no order: `Binding.redirection`
and `Member.reboundBy` look at the declared members alone.

* (one by one) every binding takes out the member that is declared under its key exactly when no binding captures a
  later one: `takenPlaces_eq_iff`;
* (all at once) then the rebound bindings and members are the ones of the second side, `rebindAll_eq`, and these do
  not depend on the order of the bindings, `Member.reboundBy_perm`;
* for a function that takes the properties of its component apart: `Registry.scopeFor?_of_uncaptured`.
-/

namespace ViewTemplate

/-! ### Which member a binding names -/

namespace Binding

/-- The property a binding takes out: none for the rest. -/
def wanted? (b : Binding) : Option String :=
  if b.rest then none else b.source?

/-- Whether the binding takes out the property under which callers reach `m`. -/
def names (b : Binding) (m : Member) : Bool :=
  b.wanted? = some m.externalName

/-- The place of the first of the members that the binding names. -/
def place? (members : List Member) (b : Binding) : Option Nat :=
  members.findIdx? b.names

/-- The binding as it is written once it takes out its member among `declared`. -/
def redirection (declared : List Member) (b : Binding) : Binding :=
  match b.taken? declared with
  | none => b
  | some m => b.redirected m

/-- Whether `b` captures `b'`: `b'` names the member of `b` once `b` has taken it out, and that member stands before
the one declared for `b'`. -/
def captures (declared : List Member) (b b' : Binding) : Bool :=
  match b.place? declared with
  | none => false
  | some i => (declared[i]?.any fun m => b'.names (m.rebound b)) && (b'.place? declared).all (i < ·)

end Binding

/-- The member as it is known once the bindings have taken out their members, all at once. -/
def Member.reboundBy (bs : List Binding) (m : Member) : Member :=
  match bs.find? (·.names m) with
  | none => m
  | some b => m.rebound b

/-- The places of the members that bindings take out, one after the other. -/
def takenPlaces (members : List Member) : List Binding → List (Option Nat)
  | [] => []
  | b :: bs => b.place? members :: takenPlaces (rebindOne members b).2 bs

/-- No two bindings take out the same property. -/
def DistinctKeys (bs : List Binding) : Prop :=
  (bs.filterMap Binding.wanted?).Nodup

/-- No binding captures a later one. -/
def Uncaptured (declared : List Member) (bs : List Binding) : Prop :=
  bs.Pairwise fun b b' => b.captures declared b' = false

instance (bs : List Binding) : Decidable (DistinctKeys bs) :=
  inferInstanceAs (Decidable (List.Nodup _))

instance (declared : List Member) (bs : List Binding) : Decidable (Uncaptured declared bs) :=
  inferInstanceAs (Decidable (List.Pairwise _ _))

section

variable {declared : List Member} {done rest bs : List Binding} {b d : Binding} {m m' : Member} {i j : Nat}

theorem Binding.names_iff : b.names m = true ↔ b.wanted? = some m.externalName := by
  simp [Binding.names]

theorem Binding.taken?_eq_find? (members : List Member) (b : Binding) : b.taken? members = members.find? b.names := by
  have hnone (h : b.wanted? = none) : members.find? b.names = none := by
    rw [List.find?_eq_none]
    intro m _ hm
    simp [Binding.names_iff.1 hm] at h
  unfold Binding.taken?
  cases hr : b.rest with
  | true => simp [hnone, Binding.wanted?, hr]
  | false =>
    cases hs : b.source? with
    | none => simp [hnone, Binding.wanted?, hr, hs]
    | some key =>
      have hnames : b.names = fun m => decide (m.externalName = key) := by
        funext m
        simp [Binding.names, Binding.wanted?, hr, hs, eq_comm]
      simp [hnames, memberNamed?]

theorem Binding.place?_eq_some_iff : b.place? declared = some i ↔
    ∃ m, declared[i]? = some m ∧ b.names m = true ∧ ∀ j < i, ∀ m', declared[j]? = some m' → b.names m' = false := by
  unfold Binding.place?
  rw [List.findIdx?_eq_some_iff_getElem]
  constructor
  · rintro ⟨hi, hn, hfirst⟩
    refine ⟨_, List.getElem?_eq_getElem hi, hn, fun j hj m' hm' => ?_⟩
    obtain ⟨hj', rfl⟩ := List.getElem?_eq_some_iff.1 hm'
    simpa using hfirst j hj
  · rintro ⟨m, hm, hn, hfirst⟩
    obtain ⟨hi, rfl⟩ := List.getElem?_eq_some_iff.1 hm
    refine ⟨hi, hn, fun j hj => ?_⟩
    have hfalse := hfirst j hj _ (List.getElem?_eq_getElem (by omega))
    simp [hfalse]

theorem Binding.place?_eq_none_iff : b.place? declared = none ↔ ∀ m ∈ declared, b.names m = false := by
  rw [Binding.place?, List.findIdx?_eq_none_iff]

theorem Binding.captures_iff : d.captures declared b = true ↔
    ∃ i m, d.place? declared = some i ∧ declared[i]? = some m ∧ b.names (m.rebound d) = true ∧
      ∀ j, b.place? declared = some j → i < j := by
  unfold Binding.captures
  cases hp : d.place? declared with
  | none => simp
  | some i =>
    obtain ⟨m, hm, -, -⟩ := Binding.place?_eq_some_iff.1 hp
    cases hb : b.place? declared <;> simp [hm]

/-! ### Distinct keys -/

theorem DistinctKeys.perm {bs' : List Binding} (h : DistinctKeys bs) (hp : bs'.Perm bs) : DistinctKeys bs' :=
  (hp.filterMap Binding.wanted?).nodup_iff.2 h

theorem DistinctKeys.append_left (h : DistinctKeys (done ++ rest)) : DistinctKeys done := by
  rw [DistinctKeys, List.filterMap_append] at h
  exact (List.nodup_append.1 h).1

theorem DistinctKeys.append_right (h : DistinctKeys (done ++ rest)) : DistinctKeys rest := by
  rw [DistinctKeys, List.filterMap_append] at h
  exact (List.nodup_append.1 h).2.1

/-- What an earlier binding names, no later one names. -/
theorem DistinctKeys.not_both (h : DistinctKeys (done ++ rest)) (hd : d ∈ done) (hb : b ∈ rest)
    (hdm : d.names m = true) : b.names m = false := by
  refine Bool.eq_false_iff.2 fun hbm => ?_
  rw [DistinctKeys, List.filterMap_append] at h
  have hd := List.mem_filterMap.2 ⟨d, hd, Binding.names_iff.1 hdm⟩
  have hb := List.mem_filterMap.2 ⟨b, hb, Binding.names_iff.1 hbm⟩
  exact (List.nodup_append.1 h).2.2 _ hd _ hb rfl

/-- Only one of the bindings names a member. -/
theorem DistinctKeys.eq_of_names (h : DistinctKeys bs) (hb : b ∈ bs) (hd : d ∈ bs) (hbm : b.names m = true)
    (hdm : d.names m = true) : b = d := by
  induction bs with
  | nil => simp at hb
  | cons c bs ih =>
    have hsplit : DistinctKeys ([c] ++ bs) := h
    rw [List.mem_cons] at hb hd
    rcases hb with rfl | hb <;> rcases hd with rfl | hd
    · rfl
    · have hfalse := hsplit.not_both (by simp) hd hbm
      simp [hdm] at hfalse
    · have hfalse := hsplit.not_both (by simp) hb hdm
      simp [hbm] at hfalse
    · exact ih hsplit.append_right hb hd

/-! ### A member among all bindings -/

namespace Member

theorem reboundBy_of_names (h : DistinctKeys bs) (hb : b ∈ bs) (hm : b.names m = true) :
    m.reboundBy bs = m.rebound b := by
  unfold reboundBy
  cases hf : bs.find? (·.names m) with
  | none =>
    rw [List.find?_eq_none] at hf
    exact absurd hm (hf b hb)
  | some d =>
    have hdm : d.names m = true := by simpa using List.find?_some hf
    rw [h.eq_of_names (List.mem_of_find?_eq_some hf) hb hdm hm]

theorem reboundBy_of_not_names (h : ∀ b ∈ bs, b.names m = false) : m.reboundBy bs = m := by
  have hf : bs.find? (·.names m) = none := List.find?_eq_none.2 fun b hb => by simp [h b hb]
  simp [reboundBy, hf]

theorem reboundBy_append_of_not_names (hm : b.names m = false) (done : List Binding) :
    m.reboundBy (done ++ [b]) = m.reboundBy done := by
  simp [reboundBy, List.find?_append, hm]

/-- The order of the bindings does not matter. -/
theorem reboundBy_perm {bs' : List Binding} (h : DistinctKeys bs) (hp : bs'.Perm bs) (m : Member) :
    m.reboundBy bs' = m.reboundBy bs := by
  by_cases hm : ∃ b ∈ bs, b.names m = true
  · obtain ⟨b, hb, hbm⟩ := hm
    rw [reboundBy_of_names h hb hbm, reboundBy_of_names (h.perm hp) (hp.mem_iff.2 hb) hbm]
  · have hnot : ∀ b ∈ bs, b.names m = false := fun b hb => Bool.eq_false_iff.2 fun hbm => hm ⟨b, hb, hbm⟩
    rw [reboundBy_of_not_names hnot, reboundBy_of_not_names fun b hb => hnot b (hp.mem_iff.1 hb)]

end Member

/-- What a later binding names, the earlier ones leave alone. -/
theorem DistinctKeys.reboundBy_eq_self (h : DistinctKeys (done ++ b :: rest)) (hm : b.names m = true) :
    m.reboundBy done = m := by
  refine Member.reboundBy_of_not_names fun d hd => Bool.eq_false_iff.2 fun hdm => ?_
  have hfalse := h.not_both hd (b := b) (by simp) hdm
  simp [hm] at hfalse

private theorem getElem?_reboundBy (declared : List Member) (done : List Binding) (i : Nat) :
    (declared.map (·.reboundBy done))[i]? = (declared[i]?).map (·.reboundBy done) :=
  List.getElem?_map ..

/-! ### One step -/

theorem place?_eq_of_names (hm : (declared.map Member.externalName).Nodup) (hi : declared[i]? = some m)
    (hb : b.names m = true) : b.place? declared = some i := by
  refine Binding.place?_eq_some_iff.2 ⟨m, hi, hb, fun j hj m' hj' => Bool.eq_false_iff.2 fun hb' => ?_⟩
  -- two members of one name would stand at two places
  have hname : m.externalName = m'.externalName :=
    Option.some.inj ((Binding.names_iff.1 hb).symm.trans (Binding.names_iff.1 hb'))
  obtain ⟨hilt, -⟩ := List.getElem?_eq_some_iff.1 hi
  have hij : i = j := by
    refine (List.getElem?_inj (by simpa using hilt) hm).1 ?_
    rw [List.getElem?_map, List.getElem?_map, hi, hj']
    exact congrArg some hname
  omega

/-- After `done`, a binding finds the member declared for it exactly when nothing in `done` captures it. -/
theorem place?_reboundBy_eq_iff (hm : (declared.map Member.externalName).Nodup)
    (hk : DistinctKeys (done ++ b :: rest)) :
    b.place? (declared.map (·.reboundBy done)) = b.place? declared ↔ ∀ d ∈ done, d.captures declared b = false := by
  have hdone : DistinctKeys done := hk.append_left
  constructor
  · intro heq d hd
    refine Bool.eq_false_iff.2 fun hcap => ?_
    obtain ⟨i, m, hi, him, hbm, hlt⟩ := Binding.captures_iff.1 hcap
    obtain ⟨m', hm', hdm, -⟩ := Binding.place?_eq_some_iff.1 hi
    obtain rfl : m = m' := Option.some.inj (him.symm.trans hm')
    -- the member of `d` answers to the name that `b` looks for
    have hnow : (declared.map (·.reboundBy done))[i]? = some (m.rebound d) := by
      rw [getElem?_reboundBy, him, Option.map_some, Member.reboundBy_of_names hdone hd hdm]
    cases hp : b.place? declared with
    | none =>
      rw [hp, Binding.place?_eq_none_iff] at heq
      have hfalse := heq _ (List.mem_of_getElem? hnow)
      simp [hbm] at hfalse
    | some j =>
      rw [hp] at heq
      obtain ⟨-, -, -, hfirst⟩ := Binding.place?_eq_some_iff.1 heq
      have hfalse := hfirst i (hlt j hp) _ hnow
      simp [hbm] at hfalse
  · intro hfree
    -- a member that `done` has changed answers to the binding only behind the declared one
    have hbehind (k : Nat) (m : Member) (hkm : declared[k]? = some m) (hbm : b.names m = false)
        (hlt : ∀ j, b.place? declared = some j → k < j) : b.names (m.reboundBy done) = false := by
      refine Bool.eq_false_iff.2 fun hnow => ?_
      by_cases hd : ∃ d ∈ done, d.names m = true
      · obtain ⟨d, hd, hdm⟩ := hd
        rw [Member.reboundBy_of_names hdone hd hdm] at hnow
        have hcap := Binding.captures_iff.2 ⟨k, m, place?_eq_of_names hm hkm hdm, hkm, hnow, hlt⟩
        simp [hfree d hd] at hcap
      · have hnot : ∀ d ∈ done, d.names m = false := fun d hd' => Bool.eq_false_iff.2 fun hdm => hd ⟨d, hd', hdm⟩
        rw [Member.reboundBy_of_not_names hnot, hbm] at hnow
        exact absurd hnow (by simp)
    cases hp : b.place? declared with
    | none =>
      rw [Binding.place?_eq_none_iff] at hp ⊢
      intro m' hm'
      obtain ⟨m, hmem, rfl⟩ := List.mem_map.1 hm'
      obtain ⟨k, hkm⟩ := List.mem_iff_getElem?.1 hmem
      exact hbehind k m hkm (hp m hmem) fun j hj => by simp [Binding.place?_eq_none_iff.2 hp] at hj
    | some j =>
      obtain ⟨m, hjm, hbm, hfirst⟩ := Binding.place?_eq_some_iff.1 hp
      refine Binding.place?_eq_some_iff.2 ⟨m, ?_, hbm, ?_⟩
      · rw [getElem?_reboundBy, hjm, Option.map_some, hk.reboundBy_eq_self hbm]
      · intro k hk' m' hm'
        rw [getElem?_reboundBy, Option.map_eq_some_iff] at hm'
        obtain ⟨m₀, hkm, rfl⟩ := hm'
        refine hbehind k m₀ hkm (hfirst k hk' m₀ hkm) fun i hi => ?_
        rw [hp, Option.some.injEq] at hi
        omega

private theorem updateNamed_eq_modify {name : String} (f : Member → Member) {members : List Member}
    (h : members.findIdx? (fun m => m.externalName = name) = some i) :
    updateNamed name f members = members.modify i f := by
  induction members generalizing i with
  | nil => simp at h
  | cons m ms ih =>
    rw [List.findIdx?_cons] at h
    by_cases hm : m.externalName = name
    · simp only [hm, decide_true, ↓reduceIte, Option.some.injEq] at h
      subst h
      simp [updateNamed, hm]
    · simp only [hm, decide_false, Bool.false_eq_true, ↓reduceIte, Option.map_eq_some_iff] at h
      obtain ⟨j, hj, rfl⟩ := h
      simp [updateNamed, hm, ih hj]

theorem rebindOne_of_place?_eq_none {members : List Member} (h : b.place? members = none) :
    rebindOne members b = (b, members) := by
  have ht : b.taken? members = none := by
    rw [Binding.taken?_eq_find?, List.find?_eq_none]
    intro m hm
    simp [Binding.place?_eq_none_iff.1 h m hm]
  simp [rebindOne, ht]

private theorem taken?_of_place? {members : List Member} (h : b.place? members = some i)
    (hi : members[i]? = some m) : b.taken? members = some m := by
  obtain ⟨m', hm', hb, hfirst⟩ := Binding.place?_eq_some_iff.1 h
  obtain rfl : m = m' := Option.some.inj (hi.symm.trans hm')
  obtain ⟨hlt, rfl⟩ := List.getElem?_eq_some_iff.1 hi
  rw [Binding.taken?_eq_find?, List.find?_eq_some_iff_getElem]
  refine ⟨hb, i, hlt, rfl, fun j hj => ?_⟩
  have hfalse := hfirst j hj _ (List.getElem?_eq_getElem (by omega))
  simp [hfalse]

theorem rebindOne_of_place?_eq_some {members : List Member} (h : b.place? members = some i)
    (hi : members[i]? = some m) : rebindOne members b = (b.redirected m, members.modify i (·.rebound b)) := by
  have hb : b.names m = true := by
    obtain ⟨m', hm', hb, -⟩ := Binding.place?_eq_some_iff.1 h
    rwa [Option.some.inj (hi.symm.trans hm')]
  have hnames : b.names = fun m' => decide (m'.externalName = m.externalName) := by
    funext m'
    simp [Binding.names, Binding.names_iff.1 hb, eq_comm]
  have hupdate : updateNamed m.externalName (·.rebound b) members = members.modify i (·.rebound b) :=
    updateNamed_eq_modify _ (hnames ▸ h)
  simp [rebindOne, taken?_of_place? h hi, hupdate]

/-- A binding that finds the member declared for it adds itself to what was done. -/
theorem rebindOne_reboundBy (hm : (declared.map Member.externalName).Nodup) (hk : DistinctKeys (done ++ b :: rest))
    (hp : b.place? (declared.map (·.reboundBy done)) = b.place? declared) :
    rebindOne (declared.map (·.reboundBy done)) b =
      (b.redirection declared, declared.map (·.reboundBy (done ++ [b]))) := by
  cases hi : b.place? declared with
  | none =>
    have hnames := Binding.place?_eq_none_iff.1 hi
    have hmembers : declared.map (·.reboundBy (done ++ [b])) = declared.map (·.reboundBy done) :=
      List.map_congr_left fun m hm => Member.reboundBy_append_of_not_names (hnames m hm) done
    have ht : b.taken? declared = none := by
      rw [Binding.taken?_eq_find?, List.find?_eq_none]
      intro m hm
      simp [hnames m hm]
    rw [rebindOne_of_place?_eq_none (hp.trans hi), hmembers, Binding.redirection, ht]
  | some i =>
    obtain ⟨m, him, hbm, -⟩ := Binding.place?_eq_some_iff.1 hi
    have hnow : (declared.map (·.reboundBy done))[i]? = some m := by
      rw [getElem?_reboundBy, him, Option.map_some, hk.reboundBy_eq_self hbm]
    rw [rebindOne_of_place?_eq_some (hp.trans hi) hnow, Binding.redirection, taken?_of_place? hi him]
    congr 1
    apply List.ext_getElem?
    intro k
    rw [List.getElem?_modify, getElem?_reboundBy, getElem?_reboundBy]
    by_cases hik : i = k
    · subst hik
      have hkeys : DistinctKeys ((done ++ [b]) ++ rest) := by simpa using hk
      simp [him, hk.reboundBy_eq_self hbm, Member.reboundBy_of_names hkeys.append_left (by simp) hbm]
    · cases hkm : declared[k]? with
      | none => simp
      | some m' =>
        have hnot : b.names m' = false := by
          refine Bool.eq_false_iff.2 fun hb => hik ?_
          exact Option.some.inj (hi.symm.trans (place?_eq_of_names hm hkm hb))
        simp [hik, Member.reboundBy_append_of_not_names hnot]

/-! ### All bindings -/

/-- From what `done` left, all bindings find the members declared for them exactly when none is captured. -/
theorem takenPlaces_reboundBy_eq_iff (hm : (declared.map Member.externalName).Nodup) (rest : List Binding) :
    ∀ done, DistinctKeys (done ++ rest) →
      (takenPlaces (declared.map (·.reboundBy done)) rest = rest.map (·.place? declared) ↔
        (∀ d ∈ done, ∀ b ∈ rest, d.captures declared b = false) ∧ Uncaptured declared rest) := by
  induction rest with
  | nil => simp [takenPlaces, Uncaptured]
  | cons b rest ih =>
    intro done hk
    have hnext : DistinctKeys ((done ++ [b]) ++ rest) := by simpa using hk
    have hstep := place?_reboundBy_eq_iff hm hk
    rw [takenPlaces, List.map_cons, List.cons.injEq, hstep]
    constructor
    · rintro ⟨hfree, htail⟩
      rw [rebindOne_reboundBy hm hk (hstep.2 hfree), ih _ hnext] at htail
      obtain ⟨hdone, hrest⟩ := htail
      refine ⟨fun d hd c hc => ?_, List.pairwise_cons.2 ⟨fun c hc => hdone b (by simp) c hc, hrest⟩⟩
      rcases List.mem_cons.1 hc with rfl | hc
      · exact hfree d hd
      · exact hdone d (by simp [hd]) c hc
    · rintro ⟨hdone, hrest⟩
      obtain ⟨hb, hrest⟩ := List.pairwise_cons.1 hrest
      have hfree : ∀ d ∈ done, d.captures declared b = false := fun d hd => hdone d hd b (by simp)
      refine ⟨hfree, ?_⟩
      rw [rebindOne_reboundBy hm hk (hstep.2 hfree), ih _ hnext]
      refine ⟨fun d hd c hc => ?_, hrest⟩
      rcases List.mem_append.1 hd with hd | hd
      · exact hdone d hd c (by simp [hc])
      · obtain rfl : d = b := by simpa using hd
        exact hb c hc

/-- One by one, every binding takes out the member declared for it exactly when no binding captures a later one. -/
theorem takenPlaces_eq_iff (hm : (declared.map Member.externalName).Nodup) (hk : DistinctKeys bs) :
    takenPlaces declared bs = bs.map (·.place? declared) ↔ Uncaptured declared bs := by
  have h := takenPlaces_reboundBy_eq_iff hm bs [] hk
  have hstart : declared.map (·.reboundBy []) = declared := List.map_id' declared
  rw [hstart] at h
  simpa using h

private theorem rebindAll_reboundBy (hm : (declared.map Member.externalName).Nodup) (rest : List Binding) :
    ∀ done, DistinctKeys (done ++ rest) →
      takenPlaces (declared.map (·.reboundBy done)) rest = rest.map (·.place? declared) →
      rebindAll (declared.map (·.reboundBy done)) rest =
        (rest.map (·.redirection declared), declared.map (·.reboundBy (done ++ rest))) := by
  induction rest with
  | nil => simp [rebindAll]
  | cons b rest ih =>
    intro done hk htaken
    rw [takenPlaces, List.map_cons, List.cons.injEq] at htaken
    obtain ⟨hp, htail⟩ := htaken
    have hnext : DistinctKeys ((done ++ [b]) ++ rest) := by simpa using hk
    rw [rebindOne_reboundBy hm hk hp] at htail
    simp [rebindAll, rebindOne_reboundBy hm hk hp, ih _ hnext htail]

/-- Bindings that do not capture each other take out their members as if all at once. -/
theorem rebindAll_eq (hm : (declared.map Member.externalName).Nodup) (hk : DistinctKeys bs)
    (hu : Uncaptured declared bs) :
    rebindAll declared bs = (bs.map (·.redirection declared), declared.map (·.reboundBy bs)) := by
  have hstart : declared.map (·.reboundBy []) = declared := List.map_id' declared
  have h := rebindAll_reboundBy hm bs [] hk
  rw [hstart] at h
  exact h ((takenPlaces_eq_iff hm hk).2 hu)

end

end ViewTemplate
