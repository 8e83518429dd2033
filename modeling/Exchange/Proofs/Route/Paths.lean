-- SUMMARY: The segments of a path: what they are, and that a path put together from segments has just these.
import Mathlib.Data.List.Basic
import Exchange.Route.Pattern

/-!
# Paths and their segments

A path may have empty parts anywhere; they do not count. What is left are texts
that are not empty and have no slash, and every list of such texts is the list
of segments of a path.
-/

namespace Exchange

/-! ## Cutting -/

theorem cutAt_ne_nil (sep : Char) (l : List Char) : cutAt sep l ≠ [] := by
  cases l with
  | nil => simp [cutAt]
  | cons c l =>
    rw [cutAt]
    split
    · simp
    · split <;> simp

theorem cutAt_append_sep (sep : Char) (l r : List Char) :
    cutAt sep (l ++ sep :: r) = cutAt sep l ++ cutAt sep r := by
  induction l with
  | nil => simp [cutAt]
  | cons c l ih =>
    by_cases hc : c = sep
    · simp [cutAt, hc, ih]
    · obtain ⟨part, parts, hcut⟩ := List.exists_cons_of_ne_nil (cutAt_ne_nil sep l)
      simp [cutAt, hc, ih, hcut]

theorem cutAt_of_not_mem {sep : Char} {l : List Char} (h : sep ∉ l) : cutAt sep l = [l] := by
  induction l with
  | nil => rfl
  | cons c l ih =>
    obtain ⟨hc, hl⟩ := List.ne_and_not_mem_of_not_mem_cons h
    rw [cutAt, if_neg (Ne.symm hc), ih hl]

theorem not_mem_of_mem_cutAt {sep : Char} {l part : List Char} (h : part ∈ cutAt sep l) : sep ∉ part := by
  induction l generalizing part with
  | nil => simp_all [cutAt]
  | cons c l ih =>
    obtain ⟨first, parts, hcut⟩ := List.exists_cons_of_ne_nil (cutAt_ne_nil sep l)
    have hfirst : sep ∉ first := ih (hcut ▸ List.mem_cons_self)
    have hparts (p : List Char) (hp : p ∈ parts) : sep ∉ p := ih (hcut ▸ List.mem_cons_of_mem first hp)
    by_cases hc : c = sep
    · rw [cutAt, if_pos hc, hcut] at h
      rcases List.mem_cons.mp h with rfl | h
      · exact List.not_mem_nil
      · rcases List.mem_cons.mp h with rfl | h
        · exact hfirst
        · exact hparts part h
    · rw [cutAt, if_neg hc, hcut] at h
      rcases List.mem_cons.mp h with rfl | h
      · exact List.not_mem_cons_of_ne_of_not_mem (Ne.symm hc) hfirst
      · exact hparts part h

theorem mem_of_mem_cutAt {sep c : Char} {l part : List Char} (h : part ∈ cutAt sep l) (hc : c ∈ part) : c ∈ l := by
  induction l generalizing part with
  | nil => simp_all [cutAt]
  | cons d l ih =>
    obtain ⟨first, parts, hcut⟩ := List.exists_cons_of_ne_nil (cutAt_ne_nil sep l)
    have hfirst {p : List Char} (hp : p ∈ first :: parts) (hc : c ∈ p) : c ∈ d :: l :=
      List.mem_cons_of_mem d (ih (hcut ▸ hp) hc)
    by_cases hd : d = sep
    · rw [cutAt, if_pos hd, hcut] at h
      rcases List.mem_cons.mp h with rfl | h
      · cases hc
      · exact hfirst h hc
    · rw [cutAt, if_neg hd, hcut] at h
      rcases List.mem_cons.mp h with rfl | h
      · rcases List.mem_cons.mp hc with rfl | hc
        · exact List.mem_cons_self
        · exact hfirst List.mem_cons_self hc
      · exact hfirst (List.mem_cons_of_mem first h) hc

namespace Path

/-! ## Segments -/

/-- A text that can be a segment of a path. -/
structure IsPart (part : String) : Prop where
  ne_empty : part ≠ ""
  no_slash : '/' ∉ part.toList

/-- The parts, each after a slash. -/
def slashed (parts : List String) : String :=
  String.join (parts.map ("/" ++ ·))

theorem slashed_cons (part : String) (parts : List String) : slashed (part :: parts) = "/" ++ part ++ slashed parts := by
  simp [slashed, String.join_cons]

@[simp] theorem split_empty : split "" = [] :=
  rfl

theorem split_append_slash (a b : String) : split (a ++ "/" ++ b) = split a ++ split b := by
  simp [split, cutAt_append_sep]

theorem IsPart.split_eq {part : String} (h : IsPart part) : split part = [part] := by
  have hne : part.toList ≠ [] := mt String.toList_eq_nil_iff.mp h.ne_empty
  simp [split, cutAt_of_not_mem h.no_slash, hne]

theorem isPart_of_mem_split {path part : String} (h : part ∈ split path) : IsPart part := by
  obtain ⟨cs, hcs, rfl⟩ := List.mem_map.mp h
  obtain ⟨hmem, hne⟩ := List.mem_filter.mp hcs
  constructor
  · intro hempty
    have : cs = [] := by simpa using congrArg String.toList hempty
    simp [this] at hne
  · simpa using not_mem_of_mem_cutAt hmem

theorem split_slash_append (part : String) : split ("/" ++ part) = split part := by
  simpa using split_append_slash "" part

/-- Segments that are put together are found again. -/
theorem split_ofSegments {parts : List String} (h : ∀ part ∈ parts, IsPart part) :
    split (ofSegments parts) = parts := by
  induction parts with
  | nil => rfl
  | cons part parts ih =>
    have hrest : split (join parts) = parts := by
      have := ih fun p hp => h p (List.mem_cons_of_mem part hp)
      rwa [ofSegments, split_slash_append] at this
    have hpart : split part = [part] := (h part List.mem_cons_self).split_eq
    rw [ofSegments, split_slash_append]
    cases parts with
    | nil => simpa [join] using hpart
    | cons next parts =>
      rw [join, String.intercalate_cons_of_ne_nil (List.cons_ne_nil next parts), split_append_slash, hpart]
      exact congrArg (part :: ·) hrest

theorem slashed_eq_ofSegments {parts : List String} (h : parts ≠ []) : slashed parts = ofSegments parts := by
  induction parts with
  | nil => exact absurd rfl h
  | cons part parts ih =>
    cases parts with
    | nil => simp [slashed, ofSegments, join, String.join_cons]
    | cons next parts =>
      rw [slashed_cons, ih (List.cons_ne_nil next parts), ofSegments, ofSegments, join, join,
        String.intercalate_cons_of_ne_nil (List.cons_ne_nil next parts)]
      simp only [String.append_assoc]

end Path

end Exchange
