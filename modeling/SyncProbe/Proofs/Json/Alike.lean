import SyncProbe.Proofs.Json.Members

/-!
# Values that say the same

A member of an object is found by its name, so the order of members says nothing. What a value says
is what stands at its places, where a place is reached from the whole value by elements and members.
Two values are alike if they have the same places and the same stands there. The values with their
members in the order of names stand for all others: each value is like exactly one of them, and that
is what its text is read as.

Results:
1. `alike_array_iff`, `alike_object_iff`: arrays and objects are alike if their parts are.
2. `alike_sorted`, `inOrder_sorted`: a value is like the value that is read, which is in order.
3. `eq_of_alike`: values in order are the same if they are alike.
4. `sorted_eq_iff_alike`: two values are read as the same value exactly if they are alike.
-/

namespace SyncProbe.Json

/-! ## Places -/

/-- A step from an array or object to a part of it. -/
inductive Step where
  | element (index : Nat)
  | member (name : String)
deriving DecidableEq, Repr

/-- A value without its parts. -/
inductive Face where
  | null
  | bool (value : Bool)
  | number (value : JsonNumber)
  | string (value : String)
  | array
  | object
deriving DecidableEq, Repr

def face : Json → Face
  | null => .null
  | bool value => .bool value
  | number value => .number value
  | string value => .string value
  | array _ => .array
  | object _ => .object

/-- What stands at a place, if the value has that place. -/
def view : Json → List Step → Option Face
  | json, [] => some json.face
  | array elements, .element index :: path => elements[index]?.bind fun part => part.view path
  | object members, .member name :: path => (members.lookup name).bind fun part => part.view path
  | _, _ :: _ => none

/-- The values have the same places, and the same stands there. -/
def Alike (json json' : Json) : Prop :=
  ∀ path, json.view path = json'.view path

theorem face_eq_of_alike {json json' : Json} (alike : json.Alike json') :
    json.face = json'.face := by
  have whole := alike []
  rw [view, view] at whole
  exact Option.some.inj whole

/-- Below two parts the same stands everywhere if they are alike, or if both are missing. -/
theorem view_parts_iff {part part' : Option Json} :
    (∀ path, (part.bind fun part => part.view path) = part'.bind fun part => part.view path) ↔
      Option.Rel Alike part part' := by
  constructor
  · intro same
    have front := same []
    cases part with
    | none =>
      cases part' with
      | none => exact .none
      | some json' => cases front
    | some json =>
      cases part' with
      | none => cases front
      | some json' => exact .some same
  · rintro (alike | _) path
    · exact alike path
    · rfl

theorem alike_array_iff {elements elements' : List Json} :
    (array elements).Alike (array elements') ↔
      ∀ index : Nat, Option.Rel Alike elements[index]? elements'[index]? := by
  constructor
  · intro alike index
    exact view_parts_iff.mp fun path => alike (.element index :: path)
  · intro parts path
    cases path with
    | nil => rfl
    | cons step path =>
      cases step with
      | element index => exact view_parts_iff.mpr (parts index) path
      | member name => rfl

theorem alike_object_iff {members members' : List (String × Json)} :
    (object members).Alike (object members') ↔
      ∀ name, Option.Rel Alike (members.lookup name) (members'.lookup name) := by
  constructor
  · intro alike name
    exact view_parts_iff.mp fun path => alike (.member name :: path)
  · intro parts path
    cases path with
    | nil => rfl
    | cons step path =>
      cases step with
      | element index => rfl
      | member name => exact view_parts_iff.mpr (parts name) path

/-! ## Names -/

/-- `Named P json`: in every object of the value, the names of the members are as `P` says. -/
inductive Named (P : List String → Prop) : Json → Prop
  | null : Named P .null
  | bool {value : Bool} : Named P (.bool value)
  | number {value : JsonNumber} : Named P (.number value)
  | string {value : String} : Named P (.string value)
  | array {elements : List Json} :
      (∀ element ∈ elements, Named P element) → Named P (.array elements)
  | object {members : List (String × Json)} : P (members.map Prod.fst) →
      (∀ member ∈ members, Named P member.2) → Named P (.object members)

/-- No object in the value has two members of one name. -/
def Unambiguous : Json → Prop :=
  Named List.Nodup

/-- The members of each object in the value stand in the order of their names. -/
def InOrder : Json → Prop :=
  Named (List.Pairwise (· < ·))

theorem Named.mono {P Q : List String → Prop} (weaker : ∀ names, P names → Q names) {json : Json}
    (named : Named P json) : Named Q json := by
  induction named with
  | null | bool | number | string => constructor
  | array _ ih => exact .array ih
  | object names _ ih => exact .object (weaker _ names) ih

theorem InOrder.unambiguous {json : Json} (inOrder : json.InOrder) : json.Unambiguous :=
  Named.mono (fun _ => nodup_of_pairwise) inOrder

/-! ## Values as they are read -/

/-- A value without ambiguous names is like the value that its text is read as. -/
theorem alike_sorted {json : Json} (unambiguous : json.Unambiguous) :
    json.sorted.Alike json := by
  induction unambiguous with
  | null | bool | number | string => exact fun _ => rfl
  | @array elements _ ih =>
    rw [sorted, sortedElements_eq_map]
    refine alike_array_iff.mpr fun index => ?_
    rw [List.getElem?_map]
    cases found : elements[index]? with
    | none => exact .none
    | some element => exact .some (ih element (List.mem_of_getElem? found))
  | @object members distinct _ ih =>
    -- A member is found under its name in whatever place it was put.
    refine alike_object_iff.mpr fun name => ?_
    show Option.Rel Alike ((object members).sorted.member? name) _
    rw [member?_sorted name distinct]
    cases found : members.lookup name with
    | none => exact .none
    | some value => exact .some (ih (name, value) (mem_of_lookup found))

theorem inOrder_insertMember {name : String} {value : Json} {members : List (String × Json)}
    (inOrder : (object members).InOrder) (inOrder' : value.InOrder) :
    (object (insertMember name value members)).InOrder := by
  cases inOrder with
  | object ordered parts =>
    refine .object (ordered_insertMember value ordered) fun member among => ?_
    rcases mem_insertMember among with rfl | held
    · exact inOrder'
    · exact parts member held

/-- Members that are put in their places one by one come to stand in order. -/
theorem inOrder_foldl {members before : List (String × Json)}
    (parts : ∀ member ∈ members, member.2.InOrder) (inOrder : (object before).InOrder) :
    (object (members.foldl (fun sorted (name, value) => insertMember name value sorted)
      before)).InOrder := by
  induction members generalizing before with
  | nil => exact inOrder
  | cons member rest ih =>
    exact ih (fun part among => parts part (List.mem_cons_of_mem member among))
      (inOrder_insertMember inOrder (parts member List.mem_cons_self))

/-- What is read has its members in order. -/
theorem inOrder_sorted {P : List String → Prop} {json : Json} (named : Named P json) :
    json.sorted.InOrder := by
  induction named with
  | null | bool | number | string => constructor
  | array _ ih =>
    rw [sorted, sortedElements_eq_map]
    refine .array fun element among => ?_
    obtain ⟨part, held, rfl⟩ := List.mem_map.mp among
    exact ih part held
  | object _ _ ih =>
    rw [sorted, sortedMembers_eq_map]
    refine inOrder_foldl (fun member among => ?_) (.object .nil (List.forall_mem_nil _))
    obtain ⟨part, held, rfl⟩ := List.mem_map.mp among
    exact ih part held

/-! ## One value in order -/

theorem eq_of_rel {part part' : Option Json} (rel : Option.Rel Alike part part')
    (same : ∀ json ∈ part, ∀ json' ∈ part', json.Alike json' → json = json') : part = part' := by
  cases rel with
  | none => rfl
  | some alike => rw [same _ rfl _ rfl alike]

/-- Values in order are the same if they are alike. -/
theorem eq_of_alike {json json' : Json} (inOrder : json.InOrder) (inOrder' : json'.InOrder)
    (alike : json.Alike json') : json = json' := by
  -- By induction on the first value. The second one has the same face, and parts that are alike.
  induction inOrder generalizing json' with
  | null | bool | number | string =>
    have same := face_eq_of_alike alike
    cases inOrder' <;> cases same
    rfl
  | @array elements _ ih =>
    cases inOrder' with
    | @array elements' parts' =>
      refine congrArg array (List.ext_getElem? fun index => ?_)
      exact eq_of_rel (alike_array_iff.mp alike index) fun part held part' held' =>
        ih part (List.mem_of_getElem? held) (parts' part' (List.mem_of_getElem? held'))
    | _ => cases face_eq_of_alike alike
  | @object members ordered _ ih =>
    cases inOrder' with
    | @object members' ordered' parts' =>
      refine congrArg object (eq_of_lookup_eq ordered ordered' fun name => ?_)
      exact eq_of_rel (alike_object_iff.mp alike name) fun part held part' held' =>
        ih (name, part) (mem_of_lookup held) (parts' (name, part') (mem_of_lookup held'))
    | _ => cases face_eq_of_alike alike

theorem sorted_of_inOrder {json : Json} (inOrder : json.InOrder) : json.sorted = json :=
  eq_of_alike (inOrder_sorted inOrder) inOrder (alike_sorted inOrder.unambiguous)

/-- Two values are read as the same value exactly if they are alike. -/
theorem sorted_eq_iff_alike {json json' : Json} (unambiguous : json.Unambiguous)
    (unambiguous' : json'.Unambiguous) : json.sorted = json'.sorted ↔ json.Alike json' := by
  have read := alike_sorted unambiguous
  have read' := alike_sorted unambiguous'
  constructor
  · intro same path
    rw [← read path, same, read' path]
  · intro alike
    refine eq_of_alike (inOrder_sorted unambiguous) (inOrder_sorted unambiguous') fun path => ?_
    rw [read path, alike path, read' path]

end SyncProbe.Json
