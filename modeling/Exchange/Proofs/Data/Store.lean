-- SUMMARY: Modifying an item of a store, reading from a channel, and sending several items to it.
import Exchange.Data.Store
import Exchange.Hub.Channel

/-!
# Stores and channels

What `Store.modify` leaves behind depends on the function only at the item that
is there. A channel that is read keeps all that is sent to it, in order.
-/

namespace Exchange

/-- What a number for each member of a list adds up to. -/
def addUp {α : Type} (f : α → Nat) : List α → Nat
  | [] => 0
  | a :: l => f a + addUp f l

theorem addUp_append {α : Type} (f : α → Nat) (l l' : List α) : addUp f (l ++ l') = addUp f l + addUp f l' := by
  induction l with
  | nil => simp [addUp]
  | cons c l ih => simp [addUp, ih, Nat.add_assoc]

theorem addUp_eq_zero {α : Type} {f : α → Nat} {l : List α} (h : ∀ a ∈ l, f a = 0) : addUp f l = 0 := by
  induction l with
  | nil => rfl
  | cons c l ih => rw [addUp, h c (List.mem_cons_self ..), ih fun a ha => h a (List.mem_cons_of_mem _ ha)]

theorem le_addUp {α : Type} (f : α → Nat) {l : List α} {a : α} (h : a ∈ l) : f a ≤ addUp f l := by
  induction l with
  | nil => cases h
  | cons c l ih =>
    rw [addUp]
    rcases List.mem_cons.1 h with rfl | h
    · exact Nat.le_add_right _ _
    · exact Nat.le_trans (ih h) (Nat.le_add_left _ _)

theorem addUp_modify {α : Type} (f : α → Nat) (g : α → α) {l : List α} {i : Nat} {a : α} (h : l[i]? = some a) :
    addUp f (l.modify i g) + f a = addUp f l + f (g a) := by
  induction l generalizing i with
  | nil => simp at h
  | cons c l ih =>
    cases i with
    | zero =>
      obtain rfl : c = a := by simpa using h
      simp only [List.modify_zero_cons, addUp]
      omega
    | succ i =>
      have hrest := ih (i := i) (by simpa using h)
      simp only [List.modify_succ_cons, addUp]
      omega

namespace Store

variable {tag : Ref.Tag} {α : Type}

theorem ext_get? {s t : Store tag α} (h : ∀ r, s.get? r = t.get? r) : s = t := by
  obtain ⟨items⟩ := s
  obtain ⟨items'⟩ := t
  have hitems : items = items' := Array.ext_getElem? fun i => h ⟨i⟩
  rw [hitems]

theorem get?_modify (s : Store tag α) (r q : Ref tag) (f : α → α) :
    (s.modify r f).get? q = if q = r then (s.get? q).map f else s.get? q := by
  split
  · rename_i hq
    rw [hq, get?_modify_self]
  · rename_i hq
    exact get?_modify_of_ne f hq

theorem modify_congr {s : Store tag α} {r : Ref tag} {f g : α → α}
    (h : ∀ a, s.get? r = some a → f a = g a) : s.modify r f = s.modify r g := by
  apply ext_get?
  intro q
  rw [get?_modify, get?_modify]
  split
  · rename_i hq
    subst hq
    exact Option.map_congr h
  · rfl

theorem get?_set_self {s : Store tag α} {r : Ref tag} {a : α} (h : s.get? r = some a) (b : α) :
    (s.set r b).get? r = some b := by
  rw [set, get?_modify_self, h, Option.map_some]

theorem get?_set {s : Store tag α} {r : Ref tag} {a : α} (h : s.get? r = some a) (b : α) (q : Ref tag) :
    (s.set r b).get? q = if q = r then some b else s.get? q := by
  rw [set, get?_modify]
  split
  · rename_i hq
    rw [hq, h, Option.map_some]
  · rfl

theorem modify_modify (s : Store tag α) (r : Ref tag) (f g : α → α) :
    (s.modify r f).modify r g = s.modify r (g ∘ f) := by
  apply ext_get?
  intro q
  rw [get?_modify, get?_modify, get?_modify]
  split
  · rw [Option.map_map]
  · rfl

theorem get?_next (s : Store tag α) : s.get? s.next = none := by
  simp [get?, next]

theorem ne_next_of_get? {s : Store tag α} {r : Ref tag} {a : α} (h : s.get? r = some a) : r ≠ s.next := by
  rintro rfl
  rw [get?_next] at h
  cases h

/-- Changing an item into itself changes nothing. -/
theorem modify_eq_self {s : Store tag α} {r : Ref tag} {f : α → α} (h : ∀ a, s.get? r = some a → f a = a) :
    s.modify r f = s := by
  apply ext_get?
  intro q
  rw [get?_modify]
  split
  · rename_i hq
    subst hq
    exact (Option.map_congr h).trans (congrFun Option.map_id_fun' _)
  · rfl

theorem modify_of_get?_none {s : Store tag α} {r : Ref tag} (h : s.get? r = none) (f : α → α) :
    s.modify r f = s := by
  apply modify_eq_self
  intro a ha
  rw [h] at ha
  cases ha

/-- Changes that commute can be made in either order. -/
theorem modify_comm (s : Store tag α) (r q : Ref tag) {f g : α → α} (h : ∀ a, f (g a) = g (f a)) :
    (s.modify r f).modify q g = (s.modify q g).modify r f := by
  apply ext_get?
  intro p
  simp only [get?_modify]
  split <;> split <;> simp [Function.comp_def, h]

/-! ### Changing all items -/

variable {β : Type}

def map (f : α → β) (s : Store tag α) : Store tag β :=
  ⟨s.items.map f⟩

@[simp] theorem get?_map (f : α → β) (s : Store tag α) (r : Ref tag) : (s.map f).get? r = (s.get? r).map f := by
  simp [get?, map]

@[simp] theorem next_map (f : α → β) (s : Store tag α) : (s.map f).next = s.next := by
  simp [next, map]

theorem push_map (f : α → β) (s : Store tag α) (a : α) : (s.map f).push (f a) = (s.push a).map f := by
  simp [push, map]

theorem set_map (f : α → β) (s : Store tag α) (r : Ref tag) (a : α) : (s.map f).set r (f a) = (s.set r a).map f := by
  apply ext_get?
  intro q
  simp only [set, get?_map, get?_modify]
  split
  · simp only [Option.map_map]
    rfl
  · rfl

/-! ### Adding up -/

/-- What a number for each item adds up to. -/
def total (f : α → Nat) (s : Store tag α) : Nat :=
  addUp f s.items.toList

/-- Another item in the place of one changes the sum by what it is more or less. -/
theorem total_set (f : α → Nat) {s : Store tag α} {r : Ref tag} {a : α} (h : s.get? r = some a) (b : α) :
    (s.set r b).total f + f a = s.total f + f b := by
  rw [total, total, set, modify, Array.toList_modify]
  exact addUp_modify f (fun _ => b) (by rwa [get?, ← Array.getElem?_toList] at h)

theorem le_total (f : α → Nat) {s : Store tag α} {r : Ref tag} {a : α} (h : s.get? r = some a) : f a ≤ s.total f := by
  rw [get?, ← Array.getElem?_toList] at h
  exact le_addUp f (List.mem_of_getElem? h)

end Store

namespace Channel

variable {α : Type}

theorem reading_pull (c : Channel α) : c.pull.1.reading = c.reading := by
  unfold pull
  split <;> rfl

theorem writers_pull (c : Channel α) : c.pull.1.writers = c.writers := by
  unfold pull
  split <;> rfl

theorem queue_pull (c : Channel α) : c.pull.1.queue = c.queue.tail := by
  obtain ⟨queue, writers, reading⟩ := c
  cases queue <;> rfl

theorem foldl_send {c : Channel α} (h : c.reading = true) (items : List α) :
    items.foldl (fun c a => (c.send a).1) c = { c with queue := c.queue ++ items } := by
  induction items generalizing c with
  | nil => simp
  | cons a items ih =>
    have hsend : (c.send a).1 = { c with queue := c.queue ++ [a] } := by
      rw [send, if_pos h]
    rw [List.foldl_cons, hsend, ih (c := { c with queue := c.queue ++ [a] }) h]
    simp

end Channel

end Exchange
