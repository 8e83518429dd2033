-- SUMMARY: Values as a reader gives them back, and how deep lists and objects are nested in them.
import Exchange.Proofs.Data.Members

/-!
# Values carried by a payload

A payload keeps a value but for two things: objects come back in the order of
their keys, and numbers as the encoding reads them. `Value.carried` says this
once for all encodings; `f` is what becomes of a number.
-/

namespace Exchange.Value

variable {f : Number → Number}

/-- The value as it is read back. -/
def carried (f : Number → Number) : Value → Value
  | .null => .null
  | .bool b => .bool b
  | .number n => .number (f n)
  | .text s => .text s
  | .list items => .list (carriedItems items)
  | .object members => .object (Members.ofList (carriedMembers members))
where
  carriedItems : List Value → List Value
    | [] => []
    | v :: rest => v.carried f :: carriedItems rest
  carriedMembers : List (String × Value) → List (String × Value)
    | [] => []
    | (k, v) :: rest => (k, v.carried f) :: carriedMembers rest

/-- How many lists and objects are open inside one another at the deepest place. -/
def nesting : Value → Nat
  | .null | .bool _ | .number _ | .text _ => 0
  | .list items => 1 + itemsNesting items
  | .object members => 1 + membersNesting members
where
  itemsNesting : List Value → Nat
    | [] => 0
    | v :: rest => max v.nesting (itemsNesting rest)
  membersNesting : List (String × Value) → Nat
    | [] => 0
    | (_, v) :: rest => max v.nesting (membersNesting rest)

theorem membersNesting_lt {members : List (String × Value)} {limit : Nat} :
    nesting.membersNesting members < limit ↔ 0 < limit ∧ ∀ m ∈ members, m.2.nesting < limit := by
  induction members with
  | nil => simp [nesting.membersNesting]
  | cons m rest ih =>
    rw [nesting.membersNesting, Nat.max_lt, ih, List.forall_mem_cons]
    exact and_left_comm

/-- An object is nested one deeper than its members. -/
theorem nesting_object_le {members : List (String × Value)} {limit : Nat} :
    (object members).nesting ≤ limit ↔ 0 < limit ∧ ∀ m ∈ members, m.2.nesting < limit := by
  rw [nesting, Nat.one_add_le_iff, membersNesting_lt]

theorem ordered_of_nesting_eq_zero {v : Value} (h : v.nesting = 0) : v.Ordered := by
  cases v with
  | null => exact .null
  | bool b => exact .bool b
  | number n => exact .number n
  | text s => exact .text s
  | list items => simp [nesting] at h
  | object members => simp [nesting] at h

theorem carriedItems_eq (items : List Value) :
    carried.carriedItems f items = items.map (carried f) := by
  induction items with
  | nil => rfl
  | cons v rest ih => rw [carried.carriedItems, ih, List.map_cons]

theorem carriedMembers_eq (members : List (String × Value)) :
    carried.carriedMembers f members = members.map fun m => (m.1, m.2.carried f) := by
  induction members with
  | nil => rfl
  | cons m rest ih => rw [carried.carriedMembers, ih, List.map_cons]

@[simp] theorem carried_null : Value.null.carried f = .null := rfl

@[simp] theorem carried_bool (b : Bool) : (Value.bool b).carried f = .bool b := rfl

@[simp] theorem carried_number (n : Number) : (Value.number n).carried f = .number (f n) := rfl

@[simp] theorem carried_text (s : String) : (Value.text s).carried f = .text s := rfl

@[simp] theorem carried_list (items : List Value) :
    (Value.list items).carried f = .list (items.map (carried f)) :=
  congrArg Value.list (carriedItems_eq items)

@[simp] theorem carried_object (members : List (String × Value)) :
    (Value.object members).carried f =
      .object (Members.ofList (members.map fun m => (m.1, m.2.carried f))) :=
  congrArg (Value.object ∘ Members.ofList) (carriedMembers_eq members)

/-! ## What is kept -/

/-- The numbers inside a value. -/
def numbers : Value → List Number
  | .null | .bool _ | .text _ => []
  | .number n => [n]
  | .list items => itemsNumbers items
  | .object members => membersNumbers members
where
  itemsNumbers : List Value → List Number
    | [] => []
    | v :: rest => v.numbers ++ itemsNumbers rest
  membersNumbers : List (String × Value) → List Number
    | [] => []
    | (_, v) :: rest => v.numbers ++ membersNumbers rest

theorem itemsNumbers_eq (items : List Value) : numbers.itemsNumbers items = items.flatMap numbers := by
  induction items with
  | nil => rfl
  | cons v rest ih => rw [numbers.itemsNumbers, ih, List.flatMap_cons]

theorem membersNumbers_eq (members : List (String × Value)) :
    numbers.membersNumbers members = members.flatMap fun m => m.2.numbers := by
  induction members with
  | nil => rfl
  | cons m rest ih => rw [numbers.membersNumbers, ih, List.flatMap_cons]

theorem map_carried_eq_self {items : List Value}
    (h : ∀ v ∈ items, v.carried f = v ↔ ∀ n ∈ v.numbers, f n = n) :
    items.map (carried f) = items ↔ ∀ n ∈ items.flatMap numbers, f n = n := by
  induction items with
  | nil => simp
  | cons v rest ih =>
    obtain ⟨hv, hrest⟩ := List.forall_mem_cons.1 h
    rw [List.map_cons, List.cons.injEq, hv, ih hrest, List.flatMap_cons, List.forall_mem_append]

theorem map_carried_members_eq_self {members : List (String × Value)}
    (h : ∀ m ∈ members, m.2.carried f = m.2 ↔ ∀ n ∈ m.2.numbers, f n = n) :
    members.map (fun m => (m.1, m.2.carried f)) = members ↔
      ∀ n ∈ members.flatMap (fun m => m.2.numbers), f n = n := by
  induction members with
  | nil => simp
  | cons m rest ih =>
    obtain ⟨hm, hrest⟩ := List.forall_mem_cons.1 h
    have hpair : (m.1, m.2.carried f) = m ↔ m.2.carried f = m.2 := by
      rw [Prod.ext_iff]
      exact and_iff_right rfl
    rw [List.map_cons, List.cons.injEq, hpair, hm, ih hrest, List.flatMap_cons, List.forall_mem_append]

/-- An ordered value is kept just when all of its numbers are. -/
theorem carried_eq_self_iff {v : Value} (h : Ordered v) :
    v.carried f = v ↔ ∀ n ∈ v.numbers, f n = n := by
  induction h with
  | null | bool | text => simp [numbers]
  | number n => simp [numbers]
  | @list items _ ih =>
    rw [carried_list, Value.list.injEq, numbers, itemsNumbers_eq]
    exact map_carried_eq_self ih
  | @object members hs _ ih =>
    rw [carried_object, Members.ofList_of_sorted (hs.map _), Value.object.injEq, numbers, membersNumbers_eq]
    exact map_carried_members_eq_self ih

end Exchange.Value
