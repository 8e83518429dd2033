-- SUMMARY: Member lists: what inserting does to look-ups and to the order of keys, and lists that keep it.
import Exchange.Data.Value

/-!
# Members in order

A sorted member list is determined by its look-ups (`Sorted.ext`), so what an
object holds can be compared key by key. `ofList` sorts; a list that is in
order already stays as it is.
-/

namespace Exchange.Members

variable {α β : Type}

/-! ## Look-ups -/

@[simp] theorem get?_nil (key : String) : get? key ([] : List (String × α)) = none := rfl

theorem get?_cons (key : String) (m : String × α) (rest : List (String × α)) :
    get? key (m :: rest) = if m.1 = key then some m.2 else get? key rest := rfl

theorem get?_append (key : String) (a b : List (String × α)) :
    get? key (a ++ b) = (get? key a).or (get? key b) := by
  induction a with
  | nil => rfl
  | cons m rest ih =>
    simp only [List.cons_append, get?_cons]
    split
    · rfl
    · exact ih

theorem get?_eq_none_iff {key : String} {l : List (String × α)} :
    get? key l = none ↔ key ∉ keys l := by
  induction l with
  | nil => simp [keys]
  | cons m rest ih =>
    rw [get?_cons]
    split
    · rename_i h
      simp [keys, h]
    · rename_i h
      rw [ih]
      simp [keys, Ne.symm h]

theorem mem_of_get? {key : String} {v : α} {l : List (String × α)} (h : get? key l = some v) :
    (key, v) ∈ l := by
  induction l with
  | nil => cases h
  | cons m rest ih =>
    rw [get?_cons] at h
    split at h
    · rename_i hm
      obtain rfl : m.2 = v := by simpa using h
      subst hm
      exact List.mem_cons_self
    · exact List.mem_cons_of_mem _ (ih h)

/-- A member whose key no other member has is found. -/
theorem get?_of_count {l : List (String × α)} {m : String × α} (hl : (keys l).count m.1 ≤ 1) (hm : m ∈ l) :
    get? m.1 l = some m.2 := by
  induction l with
  | nil => cases hm
  | cons n rest ih =>
    have hcount : (keys (n :: rest)).count m.1 = (keys rest).count m.1 + if n.1 == m.1 then 1 else 0 :=
      List.count_cons
    rw [get?_cons]
    split
    · rename_i hn
      have hrest : m.1 ∉ keys rest := by
        rw [← List.count_eq_zero]
        simp only [hn, BEq.rfl, if_true] at hcount
        omega
      rcases List.mem_cons.1 hm with rfl | hm
      · rfl
      · exact absurd (List.mem_map_of_mem hm) hrest
    · rename_i hn
      rcases List.mem_cons.1 hm with rfl | hm
      · exact absurd rfl hn
      · exact ih (by omega) hm

theorem get?_of_mem {l : List (String × α)} (hl : (keys l).Nodup) {m : String × α} (hm : m ∈ l) :
    get? m.1 l = some m.2 :=
  get?_of_count (List.nodup_iff_count.1 hl m.1) hm

theorem get?_filter (p : String → Bool) (key : String) (l : List (String × α)) :
    get? key (l.filter fun m => p m.1) = if p key then get? key l else none := by
  induction l with
  | nil => simp
  | cons m rest ih =>
    rw [List.filter_cons]
    by_cases hm : m.1 = key
    · subst hm
      by_cases hp : p m.1
      · simp [hp, get?_cons]
      · simp [hp, ih]
    · by_cases hp : p m.1
      · simp [hp, get?_cons, hm, ih]
      · simp [hp, get?_cons, hm, ih]

theorem get?_map (f : α → β) (key : String) (l : List (String × α)) :
    get? key (l.map fun m => (m.1, f m.2)) = (get? key l).map f := by
  induction l with
  | nil => rfl
  | cons m rest ih =>
    simp only [List.map_cons, get?_cons]
    split
    · rfl
    · exact ih

/-! ## Inserting -/

theorem get?_insert (key k : String) (v : α) (l : List (String × α)) :
    get? key (insert k v l) = if k = key then some v else get? key l := by
  induction l with
  | nil => rfl
  | cons m rest ih =>
    simp only [insert]
    split
    · rfl
    · split
      · rename_i hk
        subst hk
        simp only [get?_cons]
        split <;> rfl
      · rename_i hk
        rw [get?_cons, get?_cons, ih]
        by_cases hm : m.1 = key
        · subst hm
          simp [hk]
        · simp [hm]

theorem mem_insert {k : String} {v : α} {l : List (String × α)} {m : String × α}
    (h : m ∈ insert k v l) : m = (k, v) ∨ m ∈ l := by
  induction l with
  | nil => simpa [insert] using h
  | cons n rest ih =>
    simp only [insert] at h
    split at h
    · simpa using h
    · split at h
      · rcases List.mem_cons.1 h with h | h
        · exact .inl h
        · exact .inr (List.mem_cons_of_mem _ h)
      · rcases List.mem_cons.1 h with h | h
        · exact .inr (h ▸ List.mem_cons_self)
        · rcases ih h with h | h
          · exact .inl h
          · exact .inr (List.mem_cons_of_mem _ h)

theorem perm_insert {k : String} {l : List (String × α)} (h : k ∉ keys l) (v : α) : (insert k v l).Perm ((k, v) :: l) := by
  induction l with
  | nil => exact .refl _
  | cons m rest ih =>
    obtain ⟨hne, hrest⟩ : k ≠ m.1 ∧ k ∉ keys rest := by simpa [keys] using h
    simp only [insert, if_neg hne]
    split
    · exact .refl _
    · exact ((ih hrest).cons m).trans (.swap _ _ _)

theorem perm_erase {m : String × α} {l : List (String × α)} (hl : (keys l).Nodup) (hm : m ∈ l) :
    l.Perm (m :: erase m.1 l) := by
  induction l with
  | nil => cases hm
  | cons n rest ih =>
    obtain ⟨hn, hrest⟩ : n.1 ∉ keys rest ∧ (keys rest).Nodup := by simpa [keys] using hl
    unfold erase
    rw [List.filter_cons]
    cases hm with
    | head =>
      have hall : rest.filter (fun n => n.1 ≠ m.1) = rest := by
        rw [List.filter_eq_self]
        intro n hm
        simpa using fun heq : n.1 = m.1 => hn (heq ▸ List.mem_map_of_mem hm)
      rw [hall]
      simp
    | tail _ hm =>
      have hne : n.1 ≠ m.1 := fun heq => hn (heq ▸ List.mem_map_of_mem hm)
      simp only [hne, ne_eq, not_false_eq_true, decide_true, if_true]
      exact ((ih hrest hm).cons n).trans (.swap _ _ _)

theorem insert_map (f : α → β) (k : String) (v : α) (l : List (String × α)) :
    insert k (f v) (l.map fun m => (m.1, f m.2)) = (insert k v l).map fun m => (m.1, f m.2) := by
  induction l with
  | nil => rfl
  | cons m rest ih =>
    simp only [List.map_cons, insert]
    split
    · rfl
    · split
      · rfl
      · simp [ih]

/-! ## Order -/

theorem sorted_nil : Sorted ([] : List (String × α)) := List.Pairwise.nil

theorem sorted_cons {m : String × α} {rest : List (String × α)} :
    Sorted (m :: rest) ↔ (∀ n ∈ rest, m.1 < n.1) ∧ Sorted rest :=
  List.pairwise_cons

theorem Sorted.filter {l : List (String × α)} (h : Sorted l) (p : String × α → Bool) :
    Sorted (l.filter p) :=
  List.Pairwise.filter p h

theorem Sorted.map {l : List (String × α)} (h : Sorted l) (f : α → β) :
    Sorted (l.map fun m => (m.1, f m.2)) :=
  List.Pairwise.map _ (fun _ _ h => h) h

theorem Sorted.nodup {l : List (String × α)} (h : Sorted l) : (keys l).Nodup := by
  refine List.Pairwise.map _ ?_ h
  intro a b hab he
  exact String.lt_irrefl b.1 (he ▸ hab)

theorem sorted_insert {k : String} {v : α} {l : List (String × α)} (h : Sorted l) :
    Sorted (insert k v l) := by
  induction l with
  | nil => exact List.pairwise_singleton _ _
  | cons m rest ih =>
    obtain ⟨hm, hrest⟩ := sorted_cons.1 h
    simp only [insert]
    split
    · rename_i hk
      refine sorted_cons.2 ⟨?_, h⟩
      intro n hn
      rcases List.mem_cons.1 hn with rfl | hn
      · exact hk
      · exact String.lt_trans hk (hm n hn)
    · split
      · rename_i hk
        exact sorted_cons.2 ⟨fun n hn => hk ▸ hm n hn, hrest⟩
      · rename_i hlt hne
        refine sorted_cons.2 ⟨?_, ih hrest⟩
        intro n hn
        rcases mem_insert hn with rfl | hn
        · exact Std.lt_of_le_of_ne (Std.not_lt.1 hlt) (Ne.symm hne)
        · exact hm n hn

/-- Keys below all others are not found. -/
theorem get?_eq_none_of_lt {key : String} {l : List (String × α)} (h : ∀ e ∈ l, key < e.1) :
    get? key l = none := by
  refine get?_eq_none_iff.2 fun hin => ?_
  obtain ⟨e, he, hek⟩ := List.mem_map.1 hin
  exact String.lt_irrefl key (by simpa [hek] using h e he)

/-- Two lists in order that hold the same begin with the same key. -/
theorem Sorted.head_eq {m n : String × α} {as bs : List (String × α)} (ha : Sorted (m :: as))
    (hb : Sorted (n :: bs)) (h : ∀ key, get? key (m :: as) = get? key (n :: bs)) : m.1 = n.1 := by
  have hmem {l : List (String × α)} {k : String} (hl : get? k l ≠ none) : ∃ e ∈ l, e.1 = k := by
    obtain ⟨v, hv⟩ := Option.ne_none_iff_exists'.1 hl
    exact ⟨_, mem_of_get? hv, rfl⟩
  -- either head would lie below the other, being the least key of its list
  refine Classical.byContradiction fun hne => ?_
  have hm : get? m.1 bs ≠ none := by
    have := h m.1
    rw [get?_cons, get?_cons, if_pos rfl, if_neg (Ne.symm hne)] at this
    simp [← this]
  have hn : get? n.1 as ≠ none := by
    have := h n.1
    rw [get?_cons, get?_cons, if_pos rfl, if_neg hne] at this
    simp [this]
  obtain ⟨e, he, hem⟩ := hmem hm
  obtain ⟨e', he', hen⟩ := hmem hn
  have hnm : n.1 < m.1 := hem ▸ (sorted_cons.1 hb).1 e he
  have hmn : m.1 < n.1 := hen ▸ (sorted_cons.1 ha).1 e' he'
  exact String.lt_irrefl m.1 (String.lt_trans hmn hnm)

/-- Look-ups determine a sorted list. -/
theorem Sorted.ext {a b : List (String × α)} (ha : Sorted a) (hb : Sorted b)
    (h : ∀ key, get? key a = get? key b) : a = b := by
  induction a generalizing b with
  | nil =>
    cases b with
    | nil => rfl
    | cons n rest =>
      have := h n.1
      simp [get?_cons] at this
  | cons m as ih =>
    cases b with
    | nil =>
      have := h m.1
      simp [get?_cons] at this
    | cons n bs =>
      have hkey : m.1 = n.1 := ha.head_eq hb h
      obtain ⟨hm, has⟩ := sorted_cons.1 ha
      obtain ⟨hn, hbs⟩ := sorted_cons.1 hb
      have hval : m.2 = n.2 := by
        have := h m.1
        rw [get?_cons, get?_cons, if_pos rfl, if_pos hkey.symm] at this
        simpa using this
      have hrest : as = bs := by
        refine ih has hbs fun key => ?_
        have hthis := h key
        rw [get?_cons, get?_cons, hkey] at hthis
        by_cases hk : n.1 = key
        · subst hk
          rw [get?_eq_none_of_lt fun e he => hkey ▸ hm e he, get?_eq_none_of_lt hn]
        · simpa [hk] using hthis
      rw [show m = n from Prod.ext hkey hval, hrest]

/-- Nothing changes if what is there already is put in. -/
theorem insert_of_get? {key : String} {v : α} {l : List (String × α)} (hl : Sorted l)
    (h : get? key l = some v) : insert key v l = l := by
  refine (sorted_insert hl).ext hl fun k => ?_
  rw [get?_insert]
  split
  · rename_i hk
    rw [← hk, h]
  · rfl

theorem erase_of_get?_none {key : String} {l : List (String × α)} (h : get? key l = none) : erase key l = l := by
  refine List.filter_eq_self.2 fun m hm => decide_eq_true fun hkey => ?_
  exact get?_eq_none_iff.1 h (hkey ▸ List.mem_map_of_mem hm)

/-! ## Sorting -/

theorem sorted_foldl_insert {l sofar : List (String × α)} (h : Sorted sofar) :
    Sorted (l.foldl (fun sorted m => insert m.1 m.2 sorted) sofar) := by
  induction l generalizing sofar with
  | nil => exact h
  | cons m rest ih => exact ih (sorted_insert h)

theorem sorted_ofList (l : List (String × α)) : Sorted (ofList l) :=
  sorted_foldl_insert sorted_nil

theorem get?_foldl_insert (key : String) (l sofar : List (String × α)) :
    get? key (l.foldl (fun sorted m => insert m.1 m.2 sorted) sofar) =
      (get? key l.reverse).or (get? key sofar) := by
  induction l generalizing sofar with
  | nil => rfl
  | cons m rest ih =>
    rw [List.foldl_cons, ih, List.reverse_cons, get?_append, get?_insert, get?_cons, get?_nil]
    cases get? key rest.reverse with
    | some v => rfl
    | none =>
      by_cases h : m.1 = key
      · simp [h]
      · simp [h]

theorem get?_reverse {l : List (String × α)} (hl : (keys l).Nodup) (key : String) :
    get? key l.reverse = get? key l := by
  have hr : (keys l.reverse).Nodup := by
    rw [keys, List.map_reverse]
    exact (List.reverse_perm _).nodup_iff.2 hl
  cases h : get? key l with
  | some v => exact get?_of_mem (m := (key, v)) hr (List.mem_reverse.2 (mem_of_get? h))
  | none =>
    rw [get?_eq_none_iff] at h ⊢
    rwa [keys, List.map_reverse, List.mem_reverse]

/-- Of several members with one key the last is found. -/
theorem get?_ofList_reverse (key : String) (l : List (String × α)) :
    get? key (ofList l) = get? key l.reverse := by
  rw [ofList, get?_foldl_insert, get?_nil, Option.or_none]

theorem get?_ofList {l : List (String × α)} (hl : (keys l).Nodup) (key : String) :
    get? key (ofList l) = get? key l := by
  rw [get?_ofList_reverse, get?_reverse hl]

theorem mem_keys_ofList {key : String} {l : List (String × α)} : key ∈ keys (ofList l) ↔ key ∈ keys l := by
  rw [← Decidable.not_iff_not, ← get?_eq_none_iff, get?_ofList_reverse, get?_eq_none_iff, keys, keys, List.map_reverse,
    List.mem_reverse]

theorem filter_ofList (p : String → Bool) (l : List (String × α)) :
    (ofList l).filter (fun m => p m.1) = ofList (l.filter fun m => p m.1) := by
  refine ((sorted_ofList l).filter _).ext (sorted_ofList _) fun key => ?_
  rw [get?_filter, get?_ofList_reverse, get?_ofList_reverse, ← List.filter_reverse, get?_filter]

theorem mem_foldl_insert {l sofar : List (String × α)} {m : String × α}
    (h : m ∈ l.foldl (fun sorted m => insert m.1 m.2 sorted) sofar) : m ∈ l ∨ m ∈ sofar := by
  induction l generalizing sofar with
  | nil => exact .inr h
  | cons n rest ih =>
    rcases ih h with h | h
    · exact .inl (List.mem_cons_of_mem _ h)
    · rcases mem_insert h with rfl | h
      · exact .inl List.mem_cons_self
      · exact .inr h

theorem mem_ofList {l : List (String × α)} {m : String × α} (h : m ∈ ofList l) : m ∈ l := by
  simpa using mem_foldl_insert h

theorem ofList_of_sorted {l : List (String × α)} (h : Sorted l) : ofList l = l :=
  (sorted_ofList l).ext h (get?_ofList h.nodup)

theorem ofList_map (f : α → β) (l : List (String × α)) :
    ofList (l.map fun m => (m.1, f m.2)) = (ofList l).map fun m => (m.1, f m.2) := by
  have key (l sofar : List (String × α)) :
      (l.map fun m => (m.1, f m.2)).foldl (fun sorted m => insert m.1 m.2 sorted)
        (sofar.map fun m => (m.1, f m.2)) =
      (l.foldl (fun sorted m => insert m.1 m.2 sorted) sofar).map fun m => (m.1, f m.2) := by
    induction l generalizing sofar with
    | nil => rfl
    | cons m rest ih =>
      simp only [List.map_cons, List.foldl_cons]
      rw [insert_map, ih]
  exact key l []

end Exchange.Members
