import ViewTemplate.Diagnostic.Component
import ViewTemplate.Proofs.Diagnostic.Repeats

/-!
# Members that cannot be reached

Callers reach the first member under a name.  A member is found to be a duplicate exactly when an earlier one has its
name, so the findings are about the members that cannot be reached, in their order (`Component.duplicates_are_unreached`).
-/

namespace ViewTemplate

/-! ### Repeated names and their places -/

/-- The repeated names, in order, are those behind the first place where they stand.  The names before are the seen
ones. -/
theorem repeatedNames_eq_filter_zipIdx {seen before : List String} (hseen : ∀ x, x ∈ seen ↔ x ∈ before)
    (names : List String) :
    repeatedNames seen names =
      ((names.zipIdx before.length).filter fun p => (before ++ names).findIdx (· = p.1) < p.2).map Prod.fst := by
  induction names generalizing seen before with
  | nil => rfl
  | cons x names ih =>
    have happend : before ++ x :: names = (before ++ [x]) ++ names := by simp
    have hlength : (before ++ [x]).length = before.length + 1 := List.length_append
    have hplace : (before ++ x :: names).findIdx (· = x) < before.length ↔ x ∈ seen := by
      have hfound : before.findIdx (· = x) < before.length ↔ x ∈ before := by
        simp [List.findIdx_lt_length]
      rw [hseen, List.findIdx_append]
      split
      · next hlt => exact iff_of_true hlt (hfound.1 hlt)
      · next hlt => exact iff_of_false (by omega) (mt hfound.2 hlt)
    rw [repeatedNames, List.zipIdx_cons, List.filter_cons]
    by_cases hx : x ∈ seen
    · have hseen' : ∀ y, y ∈ seen ↔ y ∈ before ++ [x] := by
        intro y
        rw [List.mem_append, ← hseen, List.mem_singleton, or_iff_left_of_imp]
        rintro rfl
        exact hx
      rw [if_pos (List.contains_iff_mem.2 hx), if_pos (decide_eq_true (hplace.2 hx)), ih hseen', List.map_cons,
        hlength, happend]
    · have hseen' : ∀ y, y ∈ x :: seen ↔ y ∈ before ++ [x] := by
        intro y
        rw [List.mem_cons, List.mem_append, List.mem_singleton, hseen, or_comm]
      rw [if_neg (by simpa using hx), if_neg (by simpa using mt hplace.1 hx), ih hseen', hlength, happend]

namespace Component

variable {c : Component} {m : Member} {i : Nat}

/-- The place of the first member that callers reach by `name`. -/
def place (c : Component) (name : String) : Nat :=
  c.members.findIdx fun m => m.externalName = name

/-- The findings about members under a name that an earlier member has. -/
def duplicates (c : Component) : List Diagnostic :=
  c.diagnose.filter (·.code = "duplicate-member")

/-! ### Members and their places -/

theorem member?_eq_getElem? (c : Component) (name : String) : c.member? name = c.members[c.place name]? := by
  rw [member?, memberNamed?, place]
  exact List.find?_eq_getElem?_findIdx

/-- No member stands before the one that is reached by its name. -/
theorem place_le (h : c.members[i]? = some m) : c.place m.externalName ≤ i := by
  obtain ⟨hlt, rfl⟩ := List.getElem?_eq_some_iff.1 h
  refine Nat.le_of_not_lt fun hi => ?_
  have hnot := List.not_of_lt_findIdx hi
  simp at hnot

theorem duplicates_eq (c : Component) : c.duplicates = c.diagnoseMembers := by
  have hname : (diagnoseName c.name).toList.filter (·.code = "duplicate-member") = [] := by
    rw [diagnoseName]
    split
    · rfl
    · split
      · rfl
      · split <;> rfl
  have hall : c.diagnoseMembers.filter (·.code = "duplicate-member") = c.diagnoseMembers := by
    rw [List.filter_eq_self, diagnoseMembers]
    intro d hd
    obtain ⟨x, -, rfl⟩ := List.mem_map.1 hd
    rfl
  rw [duplicates, diagnose, List.filter_append, hname, hall, List.nil_append]

/-- The findings are about the members behind the place where their name is found, in their order. -/
theorem duplicates_eq_map_zipIdx (c : Component) :
    c.duplicates = (c.members.zipIdx.filter fun p => c.place p.1.externalName < p.2).map
      fun p => .duplicateMember c.name p.1.externalName := by
  have hplace : ∀ name, (c.members.map (·.externalName)).findIdx (· = name) = c.place name := by
    intro name
    rw [List.findIdx_map]
    rfl
  have hnone : ∀ x : String, x ∈ [] ↔ x ∈ [] := fun _ => Iff.rfl
  rw [duplicates_eq, diagnoseMembers, repeatedNames_eq_filter_zipIdx hnone, List.nil_append, List.zipIdx_map,
    List.filter_map, List.map_map, List.map_map]
  simp only [hplace]
  rfl

/-- Nothing is found exactly when every member is found at its own place. -/
theorem duplicates_eq_nil_iff :
    c.duplicates = [] ↔ ∀ i m, c.members[i]? = some m → c.place m.externalName = i := by
  rw [duplicates_eq_map_zipIdx, List.map_eq_nil_iff, List.filter_eq_nil_iff]
  constructor
  · intro h i m hm
    have hnot := h (m, i) (List.mk_mem_zipIdx_iff_getElem?.2 hm)
    rw [decide_eq_true_eq, Nat.not_lt] at hnot
    exact Nat.le_antisymm (place_le hm) hnot
  · rintro h ⟨m, i⟩ hmem
    rw [decide_eq_true_eq, h i m (List.mk_mem_zipIdx_iff_getElem?.1 hmem)]
    exact Nat.lt_irrefl i

theorem length_duplicates (c : Component) :
    c.duplicates.length + (c.members.map (·.externalName)).eraseDups.length = c.members.length := by
  have hperm := repeatedNames_append_eraseDups_perm (c.members.map (·.externalName))
  rw [duplicates_eq, diagnoseMembers, List.length_map, ← List.length_append, hperm.length_eq, List.length_map]

/-- The members that are found to be duplicates are those that cannot be reached.  Callers reach the member at the first
place where a name stands, at the place of a member or before it; there is one finding, under the member's name, for each
member that is behind the place of its name, in the order of the members.  Nothing is found exactly when each member
stands at the place of its name, and then each is reached by its name.  There are as many findings as there are members
more than different names. -/
theorem duplicates_are_unreached (c : Component) :
    (∀ name, c.member? name = c.members[c.place name]?) ∧
      (∀ i m, c.members[i]? = some m → c.place m.externalName ≤ i) ∧
      c.duplicates = (c.members.zipIdx.filter fun p => c.place p.1.externalName < p.2).map
        (fun p => .duplicateMember c.name p.1.externalName) ∧
      (c.duplicates = [] ↔ ∀ i m, c.members[i]? = some m → c.place m.externalName = i) ∧
      (c.duplicates = [] → ∀ m ∈ c.members, c.member? m.externalName = some m) ∧
      c.duplicates.length + (c.members.map (·.externalName)).eraseDups.length = c.members.length := by
  refine ⟨c.member?_eq_getElem?, fun _ _ => place_le, c.duplicates_eq_map_zipIdx, duplicates_eq_nil_iff, ?_,
    c.length_duplicates⟩
  intro hnone m hm
  obtain ⟨i, hi⟩ := List.mem_iff_getElem?.1 hm
  rw [member?_eq_getElem?, duplicates_eq_nil_iff.1 hnone i m hi, hi]

/-- Three members under one name, two of them alike but for their kind, with another one between them; and a component
in which a name within one member is the name of another one for callers. -/
theorem duplicates_are_unreached_triple :
    let content := Member.ofKind .slot "content"
    let c := (((Component.ofName "Widget").withMember content).withMember (.ofKind .oneWay "text")).withMember
      (.ofKind .template "content") |>.withMember ((Member.ofKind .slot "text").withExternalName "content")
    let d := ((Component.ofName "Widget").withMember (content.withExternalName "text")).withMember content
    d.duplicates = [] ∧
    c.duplicates = [.duplicateMember "Widget" "content", .duplicateMember "Widget" "content"] ∧
      c.member? "content" = some content ∧ c.duplicates.length + 2 = 4 ∧
      ∀ m ∈ d.members, d.member? m.externalName = some m := by
  intro content c d
  have hd : d.duplicates = [] := by decide
  obtain ⟨hreached, -, hfound, -, -, hlength⟩ := duplicates_are_unreached c
  obtain ⟨-, -, -, -, hall, -⟩ := duplicates_are_unreached d
  exact ⟨hd, hfound, hreached "content", hlength, hall hd⟩

end Component

end ViewTemplate
