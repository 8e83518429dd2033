-- SUMMARY: Stores of things that are referred to by the number under which they were added.

/-!
# Stores

A `Store k α` holds what was added to it, in order. A `Ref k` refers to one of
its items; the tag `k` keeps references into different stores apart. Items are
never taken out, so a reference stays good.
-/

namespace Exchange

/-- What a reference can refer to. -/
inductive Ref.Tag where
  | channel
  | scope
  | manager
  | service
  | plugin
  | router
  | handler
  | client
  | inbox
  | wire
  | session
  | remote
  | listener
  | program
  | task
  deriving DecidableEq, Repr

structure Ref (tag : Ref.Tag) where
  index : Nat
  deriving DecidableEq, Repr

structure Store (tag : Ref.Tag) (α : Type) where
  items : Array α := #[]

namespace Store

variable {tag : Ref.Tag} {α : Type}

/-- The reference that the next added item will have. -/
def next (s : Store tag α) : Ref tag :=
  ⟨s.items.size⟩

def push (s : Store tag α) (a : α) : Store tag α :=
  ⟨s.items.push a⟩

def get? (s : Store tag α) (r : Ref tag) : Option α :=
  s.items[r.index]?

def modify (s : Store tag α) (r : Ref tag) (f : α → α) : Store tag α :=
  ⟨s.items.modify r.index f⟩

/-- Puts `a` in the place of the item that `r` refers to. -/
def set (s : Store tag α) (r : Ref tag) (a : α) : Store tag α :=
  s.modify r fun _ => a

/-- The references to all items, oldest first. -/
def refs (s : Store tag α) : List (Ref tag) :=
  (List.range s.items.size).map (⟨·⟩)

@[simp] theorem get?_push_next (s : Store tag α) (a : α) : (s.push a).get? s.next = some a := by
  simp [get?, push, next]

theorem get?_push_of_ne {s : Store tag α} {r : Ref tag} (a : α) (h : r ≠ s.next) :
    (s.push a).get? r = s.get? r := by
  have : r.index ≠ s.items.size := fun e => h (by cases r; simp_all [next])
  simp [get?, push, Array.getElem?_push, this]

@[simp] theorem get?_modify_self (s : Store tag α) (r : Ref tag) (f : α → α) :
    (s.modify r f).get? r = (s.get? r).map f := by
  simp [get?, modify, Array.getElem?_modify]

theorem get?_modify_of_ne {s : Store tag α} {r q : Ref tag} (f : α → α) (h : q ≠ r) :
    (s.modify r f).get? q = s.get? q := by
  have : r.index ≠ q.index := fun e => h (by cases r; cases q; simp_all)
  simp [get?, modify, Array.getElem?_modify, this]

end Store

end Exchange
