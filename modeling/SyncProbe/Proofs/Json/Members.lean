import SyncProbe.Json

/-!
# Members of objects

An object is read with its members in the order of their names, and the last of two members of one
name counts. An object whose names are all different therefore keeps its members. `Json.sorted` is
a value as it is read, and `Json.member?` looks a member up.

Results:
1. `lookup_insertMember`: a member that is put in its place is found, and hides no other.
2. `lookup_foldl_insertMember`: of members in any order, the last one of a name is found.
3. `member?_sorted`: members of different names are found in the sorted object.
4. `ordered_insertMember`: a member that is put in its place keeps the order of names.
5. `eq_of_lookup_eq`: members in the order of their names are told by what is found under each name.
-/

namespace SyncProbe.Json

/-! ## Values as they are read -/

mutual

/-- The value as it is read: with the members of objects in the order of their names. -/
def sorted : Json → Json
  | .array elements => .array (sortedElements elements)
  | .object members => .ofMembers (sortedMembers members)
  | json => json

def sortedElements : List Json → List Json
  | [] => []
  | value :: rest => value.sorted :: sortedElements rest

/-- The members in their own order, each with its value sorted. -/
def sortedMembers : List (String × Json) → List (String × Json)
  | [] => []
  | (name, value) :: rest => (name, value.sorted) :: sortedMembers rest

end

theorem sortedElements_eq_map (elements : List Json) :
    sortedElements elements = elements.map sorted := by
  induction elements with
  | nil => rfl
  | cons value rest ih => rw [sortedElements, ih, List.map_cons]

theorem sortedMembers_eq_map (members : List (String × Json)) :
    sortedMembers members = members.map fun member => (member.1, member.2.sorted) := by
  induction members with
  | nil => rfl
  | cons member rest ih => rw [sortedMembers, ih, List.map_cons]

/-! ## Looking members up -/

/-- The member of a name, if the value is an object that has one. -/
def member? (name : String) : Json → Option Json
  | .object members => members.lookup name
  | _ => none

theorem lookup_cons_eq_ite (wanted name : String) (value : Json) (rest : List (String × Json)) :
    ((name, value) :: rest).lookup wanted =
      if wanted = name then some value else rest.lookup wanted := by
  rw [List.lookup_cons]
  by_cases same : wanted = name
  · simp [same]
  · simp [same, beq_eq_false_iff_ne.mpr same]

theorem lookup_sortedMembers (name : String) (members : List (String × Json)) :
    (sortedMembers members).lookup name = (members.lookup name).map sorted := by
  induction members with
  | nil => rfl
  | cons member rest ih =>
    obtain ⟨other, value⟩ := member
    rw [sortedMembers, lookup_cons_eq_ite, lookup_cons_eq_ite, ih]
    split <;> rfl

theorem lookup_insertMember (wanted name : String) (value : Json)
    (members : List (String × Json)) :
    (insertMember name value members).lookup wanted =
      if wanted = name then some value else members.lookup wanted := by
  induction members with
  | nil => rw [insertMember, lookup_cons_eq_ite]
  | cons member rest ih =>
    obtain ⟨other, held⟩ := member
    rw [insertMember]
    split
    · next replaced =>
      subst replaced
      rw [lookup_cons_eq_ite, lookup_cons_eq_ite]
      split <;> rfl
    · next different =>
      split
      · rw [lookup_cons_eq_ite]
      · rw [lookup_cons_eq_ite, ih, lookup_cons_eq_ite]
        by_cases same : wanted = other
        · have new : wanted ≠ name := fun equal => different (equal.symm.trans same)
          rw [if_pos same, if_neg new, if_pos same]
        · rw [if_neg same, if_neg same]

/-- No two members share a name. -/
def Distinct (members : List (String × Json)) : Prop :=
  (members.map Prod.fst).Nodup

instance (members : List (String × Json)) : Decidable (Distinct members) :=
  inferInstanceAs (Decidable (members.map Prod.fst).Nodup)

theorem nodup_of_distinct {members : List (String × Json)} (distinct : Distinct members) :
    members.Nodup :=
  (List.pairwise_map.mp distinct).imp fun different same => different (congrArg Prod.fst same)

theorem lookup_eq_none {name : String} {members : List (String × Json)}
    (new : name ∉ members.map Prod.fst) : members.lookup name = none := by
  refine List.lookup_eq_none_iff.mpr fun member among => bne_iff_ne.mpr ?_
  rintro rfl
  exact new (List.mem_map_of_mem among)

theorem lookup_foldl_insertMember (wanted : String) {members : List (String × Json)}
    (distinct : Distinct members) (before : List (String × Json)) :
    (members.foldl (fun sorted (name, value) => insertMember name value sorted) before).lookup
        wanted = (members.lookup wanted).or (before.lookup wanted) := by
  induction members generalizing before with
  | nil => rfl
  | cons member rest ih =>
    obtain ⟨name, value⟩ := member
    obtain ⟨new, distinct⟩ := List.nodup_cons.mp distinct
    rw [List.foldl_cons, ih distinct, lookup_insertMember, lookup_cons_eq_ite]
    by_cases same : wanted = name
    · rw [if_pos same, if_pos same, same, lookup_eq_none new]
      rfl
    · rw [if_neg same, if_neg same]

/-- Members of different names are found in the sorted object, and no others are. -/
theorem member?_sorted (name : String) {members : List (String × Json)}
    (distinct : Distinct members) :
    (object members).sorted.member? name = (members.lookup name).map sorted := by
  have kept : Distinct (sortedMembers members) := by
    rw [sortedMembers_eq_map, Distinct, List.map_map]
    exact distinct
  rw [sorted, ofMembers, member?, lookup_foldl_insertMember name kept, lookup_sortedMembers]
  exact Option.or_none

theorem mem_of_lookup {name : String} {value : Json} {members : List (String × Json)}
    (found : members.lookup name = some value) : (name, value) ∈ members := by
  obtain ⟨before, behind, rfl, _⟩ := List.lookup_eq_some_iff.mp found
  exact List.mem_append_right before List.mem_cons_self

theorem lookup_eq_some_iff_mem {name : String} {value : Json} {members : List (String × Json)}
    (distinct : Distinct members) :
    members.lookup name = some value ↔ (name, value) ∈ members := by
  refine ⟨mem_of_lookup, fun among => ?_⟩
  induction members with
  | nil => cases among
  | cons member rest ih =>
    obtain ⟨new, distinct⟩ := List.nodup_cons.mp distinct
    rw [lookup_cons_eq_ite]
    rcases List.mem_cons.mp among with rfl | later
    · exact if_pos rfl
    · have other : name ≠ member.1 := by
        rintro rfl
        exact new (List.mem_map.mpr ⟨_, later, rfl⟩)
      rw [if_neg other]
      exact ih distinct later

/-! ## The order of names -/

/-- The members stand in the order of their names, and no two share one. -/
def Ordered (members : List (String × Json)) : Prop :=
  (members.map Prod.fst).Pairwise (· < ·)

theorem nodup_of_pairwise {names : List String} (ordered : names.Pairwise (· < ·)) :
    names.Nodup := by
  refine ordered.imp fun {name other} less => ?_
  rintro rfl
  exact String.lt_irrefl name less

theorem mem_insertMember {name : String} {value : Json} {members : List (String × Json)}
    {member : String × Json} (among : member ∈ insertMember name value members) :
    member = (name, value) ∨ member ∈ members := by
  induction members with
  | nil => exact Or.inl (List.mem_singleton.mp among)
  | cons first rest ih =>
    rw [insertMember] at among
    split at among
    · exact (List.mem_cons.mp among).imp_right (List.mem_cons_of_mem first)
    split at among
    · exact List.mem_cons.mp among
    · rcases List.mem_cons.mp among with rfl | later
      · exact Or.inr List.mem_cons_self
      · exact (ih later).imp_right (List.mem_cons_of_mem first)

theorem ordered_insertMember {name : String} (value : Json) {members : List (String × Json)}
    (ordered : Ordered members) : Ordered (insertMember name value members) := by
  induction members with
  | nil => exact List.pairwise_singleton _ name
  | cons first rest ih =>
    obtain ⟨least, ordered'⟩ := List.pairwise_cons.mp ordered
    rw [insertMember]
    split
    · next replaced =>
      subst replaced
      exact ordered
    split
    · next before =>
      refine List.pairwise_cons.mpr ⟨fun other among => ?_, ordered⟩
      rcases List.mem_cons.mp among with rfl | later
      · exact before
      · exact String.lt_trans before (least other later)
    · next different notBefore =>
      have after : first.1 < name :=
        Std.lt_of_le_of_ne (String.not_lt.mp notBefore) (Ne.symm different)
      refine List.pairwise_cons.mpr ⟨fun other among => ?_, ih ordered'⟩
      obtain ⟨member, inserted, rfl⟩ := List.mem_map.mp among
      rcases mem_insertMember inserted with rfl | later
      · exact after
      · exact least _ (List.mem_map_of_mem later)

/-- Members in order are the same if the same is found under each name. -/
theorem eq_of_lookup_eq {members members' : List (String × Json)} (ordered : Ordered members)
    (ordered' : Ordered members')
    (same : ∀ name, members.lookup name = members'.lookup name) : members = members' := by
  have distinct : Distinct members := nodup_of_pairwise ordered
  have distinct' : Distinct members' := nodup_of_pairwise ordered'
  have shuffled : members.Perm members' := by
    refine (List.perm_ext_iff_of_nodup (nodup_of_distinct distinct)
      (nodup_of_distinct distinct')).mpr fun member => ?_
    rw [← lookup_eq_some_iff_mem distinct, same, lookup_eq_some_iff_mem distinct']
  refine shuffled.eq_of_pairwise ?_ (List.pairwise_map.mp ordered) (List.pairwise_map.mp ordered')
  intro member member' _ _ less greater
  exact absurd greater (String.lt_asymm less)

end SyncProbe.Json
