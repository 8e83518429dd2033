-- SUMMARY: Which paths a pattern matches, what it captures of them, and that path and captures determine each other.
import Mathlib.Data.List.Basic
import Exchange.Proofs.Data.Members
import Exchange.Proofs.Route.Grammar

/-!
# Captures

The matcher walks a pattern and a path together and puts what it captures into
one set of bindings. `Captures` says what is captured without the bindings: a
list of names and values in the order of the segments. Whether there are
captures is a matter of lengths and literals alone (`Fits`), and the captures
spell the path again as long as no name is used twice.

The parser sees to it that two parameters have two names, but a parameter may
have the name under which the capture of the wildcard is stored. Then the
wildcard, which comes last, overwrites what the parameter captured.
-/

namespace Exchange

/-- The name under which a segment stores its capture. -/
def Segment.name? : Segment → Option String
  | .literal _ => none
  | .parameter name => some name
  | .wildcard => some Pattern.wildcardName

theorem Segment.ofPart_declared (name : String) : ofPart (":" ++ name) = .parameter name := by
  have hne : ":" ++ name ≠ Pattern.wildcardName := by
    intro heq
    simpa [Pattern.wildcardName] using congrArg String.toList heq
  have hdeclared : Pattern.declared? (":" ++ name) = some name := Pattern.declared?_eq_some_iff.mpr rfl
  rw [ofPart, if_neg hne, hdeclared]

/-- What stands for a segment in a path with the given captures. -/
def Segment.filled (bindings : Bindings) : Segment → List String
  | .literal text => [text]
  | .parameter name => (Members.get? name bindings).toList
  | .wildcard => ((Members.get? Pattern.wildcardName bindings).map Path.split).getD []

namespace Pattern

/-! ## Wildcards come last -/

def WildcardLast (segments : List Segment) : Prop :=
  ∀ before after, segments = before ++ .wildcard :: after → after = []

theorem WildcardLast.tail {s : Segment} {rest : List Segment} (h : WildcardLast (s :: rest)) : WildcardLast rest :=
  fun before after heq => h (s :: before) after (by rw [heq, List.cons_append])

theorem WildcardLast.eq_nil {rest : List Segment} (h : WildcardLast (.wildcard :: rest)) : rest = [] :=
  h [] rest rfl

theorem wildcardLast_of_parse {raw : String} {p : Pattern} (hp : parse raw = .ok p) : WildcardLast p.segments := by
  obtain ⟨-, hparts, -⟩ := parse_eq_ok_iff.mp hp
  intro before after heq
  have htexts : Path.split raw = before.map Segment.text ++ wildcardName :: after.map Segment.text := by
    rw [← map_text_of_parse hp, heq, List.map_append, List.map_cons]
    rfl
  exact List.map_eq_nil_iff.mp (hparts.wildcard_last _ _ htexts)

/-! ## What is captured -/

/-- The captures of segments from a path that they match as a whole, in the order of the segments. -/
inductive Captures : List Segment → List String → List (String × String) → Prop where
  | nil : Captures [] [] []
  | literal {rest : List Segment} {path : List String} {found : List (String × String)} (text : String) :
      Captures rest path found → Captures (.literal text :: rest) (text :: path) found
  | parameter {rest : List Segment} {path : List String} {found : List (String × String)} (name part : String) :
      Captures rest path found → Captures (.parameter name :: rest) (part :: path) ((name, part) :: found)
  | wildcard (path : List String) : Captures [.wildcard] path [(wildcardName, Path.join path)]

/-- The matcher puts the captures into the bindings one after the other. -/
theorem capture_eq_some_iff {segments : List Segment} (h : WildcardLast segments) {path : List String}
    {sofar bindings : Bindings} :
    capture segments path sofar = some bindings ↔
      ∃ found, Captures segments path found ∧ found.foldl (fun b m => Members.insert m.1 m.2 b) sofar = bindings := by
  -- the bindings grow with each capture, so the claim is for any that there are so far
  induction segments generalizing path sofar with
  | nil =>
    cases path with
    | nil =>
      constructor
      · rintro ⟨⟩
        exact ⟨[], .nil, rfl⟩
      · rintro ⟨found, ⟨⟩, rfl⟩
        rfl
    | cons part path =>
      constructor
      · rintro ⟨⟩
      · rintro ⟨found, ⟨⟩, -⟩
  | cons s rest ih =>
    cases s with
    | wildcard =>
      obtain rfl := h.eq_nil
      constructor
      · rintro ⟨⟩
        exact ⟨_, .wildcard path, rfl⟩
      · rintro ⟨found, ⟨⟩, rfl⟩
        rfl
    | literal text =>
      cases path with
      | nil =>
        constructor
        · rintro ⟨⟩
        · rintro ⟨found, ⟨⟩, -⟩
      | cons part path =>
        rw [capture]
        split
        · rename_i hpart
          subst hpart
          rw [ih h.tail]
          constructor
          · rintro ⟨found, hfound, heq⟩
            exact ⟨found, .literal part hfound, heq⟩
          · rintro ⟨found, ⟨⟩, heq⟩
            exact ⟨found, ‹_›, heq⟩
        · rename_i hpart
          constructor
          · rintro ⟨⟩
          · rintro ⟨found, ⟨⟩, -⟩
            exact absurd rfl hpart
    | parameter name =>
      cases path with
      | nil =>
        constructor
        · rintro ⟨⟩
        · rintro ⟨found, ⟨⟩, -⟩
      | cons part path =>
        rw [capture, ih h.tail]
        constructor
        · rintro ⟨found, hfound, heq⟩
          exact ⟨(name, part) :: found, .parameter name part hfound, heq⟩
        · rintro ⟨found, ⟨⟩, heq⟩
          exact ⟨_, ‹_›, heq⟩

theorem matchPath_eq_some_iff {p : Pattern} (h : WildcardLast p.segments) {path : List String} {bindings : Bindings} :
    p.matchPath path = some bindings ↔ ∃ found, Captures p.segments path found ∧ Members.ofList found = bindings :=
  capture_eq_some_iff h

namespace Captures

variable {segments : List Segment} {path : List String} {found : List (String × String)}

/-- Each capture is stored under the name of its segment. -/
theorem keys_eq (h : Captures segments path found) : Members.keys found = segments.filterMap Segment.name? := by
  induction h with
  | nil => rfl
  | literal text _ ih => exact ih
  | parameter name part _ ih => exact congrArg (name :: ·) ih
  | wildcard path => rfl

theorem parameter_mem (h : Captures segments path found) {i : Nat} {name : String}
    (hi : segments[i]? = some (.parameter name)) : ∃ part, path[i]? = some part ∧ (name, part) ∈ found := by
  induction h generalizing i with
  | nil => cases hi
  | literal text _ ih =>
    cases i with
    | zero => cases hi
    | succ i => exact ih hi
  | parameter other part _ ih =>
    cases i with
    | zero =>
      cases hi
      exact ⟨part, rfl, List.mem_cons_self⟩
    | succ i =>
      obtain ⟨value, hvalue, hmem⟩ := ih hi
      exact ⟨value, hvalue, List.mem_cons_of_mem _ hmem⟩
  | wildcard path =>
    cases i with
    | zero => cases hi
    | succ i => cases hi

/-- The capture of a wildcard comes after all others. -/
theorem get?_wildcard (h : Captures segments path found) {i : Nat} (hi : segments[i]? = some .wildcard) :
    Members.get? wildcardName found.reverse = some (Path.join (path.drop i)) := by
  induction h generalizing i with
  | nil => cases hi
  | literal text _ ih =>
    cases i with
    | zero => cases hi
    | succ i => exact ih hi
  | parameter name part _ ih =>
    cases i with
    | zero => cases hi
    | succ i =>
      rw [List.reverse_cons, Members.get?_append, ih hi]
      rfl
  | wildcard path =>
    cases i with
    | zero => rfl
    | succ i => cases hi

/-- A path is spelled by the segments with the captures in their places. -/
theorem flatMap_filled (h : Captures segments path found) (hpath : ∀ part ∈ path, Path.IsPart part) {b : Bindings}
    (hb : ∀ m ∈ found, Members.get? m.1 b = some m.2) : segments.flatMap (Segment.filled b) = path := by
  induction h with
  | nil => rfl
  | literal text _ ih =>
    rw [List.flatMap_cons, ih (fun part hpart => hpath part (List.mem_cons_of_mem _ hpart)) hb]
    rfl
  | parameter name part _ ih =>
    have hvalue : Members.get? name b = some part := hb (name, part) List.mem_cons_self
    rw [List.flatMap_cons, ih (fun q hq => hpath q (List.mem_cons_of_mem _ hq)) fun m hm => hb m (List.mem_cons_of_mem _ hm),
      Segment.filled, hvalue]
    rfl
  | wildcard path =>
    have hvalue : Members.get? wildcardName b = some (Path.join path) := hb _ List.mem_cons_self
    have hsplit : Path.split (Path.join path) = path := by
      rw [← Path.split_slash_append]
      exact Path.split_ofSegments hpath
    simp [Segment.filled, hvalue, hsplit]

theorem length_eq (h : Captures segments path found) (hwild : .wildcard ∉ segments) : path.length = segments.length := by
  induction h with
  | nil => rfl
  | literal text _ ih => exact congrArg (· + 1) (ih (List.not_mem_of_not_mem_cons hwild))
  | parameter name part _ ih => exact congrArg (· + 1) (ih (List.not_mem_of_not_mem_cons hwild))
  | wildcard path => exact absurd List.mem_cons_self hwild

/-- Segments without a wildcard take as many parts of the path as they are. -/
theorem append_iff {before after : List Segment} (hwild : .wildcard ∉ before) :
    Captures (before ++ after) path found ↔
      ∃ first last, Captures before (path.take before.length) first ∧ Captures after (path.drop before.length) last ∧
        found = first ++ last := by
  induction before generalizing path found with
  | nil =>
    constructor
    · exact fun h => ⟨[], found, .nil, h, rfl⟩
    · rintro ⟨first, last, ⟨⟩, h, rfl⟩
      exact h
  | cons s before ih =>
    obtain ⟨hs, hbefore⟩ := List.ne_and_not_mem_of_not_mem_cons hwild
    have ih {path : List String} {found : List (String × String)} := @ih path found hbefore
    cases s with
    | wildcard => exact absurd rfl hs
    | literal text =>
      cases path with
      | nil =>
        constructor
        · rintro ⟨⟩
        · rintro ⟨first, last, ⟨⟩, -⟩
      | cons part path =>
        constructor
        · rintro ⟨⟩
          obtain ⟨first, last, hfirst, hlast, rfl⟩ := ih.mp ‹_›
          exact ⟨first, last, .literal text hfirst, hlast, rfl⟩
        · rintro ⟨first, last, ⟨⟩, hlast, rfl⟩
          exact .literal text (ih.mpr ⟨first, last, ‹_›, hlast, rfl⟩)
    | parameter name =>
      cases path with
      | nil =>
        constructor
        · rintro ⟨⟩
        · rintro ⟨first, last, ⟨⟩, -⟩
      | cons part path =>
        constructor
        · rintro ⟨⟩
          obtain ⟨first, last, hfirst, hlast, rfl⟩ := ih.mp ‹_›
          exact ⟨_, last, .parameter name part hfirst, hlast, rfl⟩
        · rintro ⟨first, last, ⟨⟩, hlast, rfl⟩
          exact .parameter name part (ih.mpr ⟨_, last, ‹_›, hlast, rfl⟩)

end Captures

/-! ## When there are captures -/

/-- The path is as long as the segments, or at least as long as those before a wildcard, and the literals are in their
places. -/
structure Fits (segments : List Segment) (path : List String) : Prop where
  length : if .wildcard ∈ segments then segments.length - 1 ≤ path.length else path.length = segments.length
  literals : ∀ (i : Nat) (text : String), segments[i]? = some (.literal text) → path[i]? = some text

theorem fits_cons_iff {s : Segment} {rest : List Segment} {path : List String} (hs : s ≠ .wildcard) :
    Fits (s :: rest) path ↔
      ∃ part tail, path = part :: tail ∧ (∀ text, s = .literal text → part = text) ∧ Fits rest tail := by
  have hwild : .wildcard ∈ s :: rest ↔ .wildcard ∈ rest := by simp [hs.symm]
  have hpos : .wildcard ∈ rest → 0 < rest.length := List.length_pos_of_mem
  constructor
  · rintro ⟨hlength, hliterals⟩
    simp only [hwild, List.length_cons] at hlength
    cases path with
    | nil =>
      split at hlength
      · have := hpos ‹_›
        simp only [List.length_nil] at hlength
        omega
      · cases hlength
    | cons part tail =>
      refine ⟨part, tail, rfl, fun text hs => ?_, ?_, fun i => hliterals (i + 1)⟩
      · exact Option.some.inj (hliterals 0 text (congrArg some hs))
      · simp only [List.length_cons] at hlength
        split at hlength
        · rw [if_pos ‹_›]
          omega
        · rw [if_neg ‹_›]
          omega
  · rintro ⟨part, tail, rfl, hpart, hlength, hliterals⟩
    refine ⟨?_, fun i text hi => ?_⟩
    · simp only [hwild, List.length_cons]
      split at hlength
      · have := hpos ‹_›
        rw [if_pos ‹_›]
        omega
      · rw [if_neg ‹_›]
        omega
    · cases i with
      | zero => exact congrArg some (hpart text (Option.some.inj hi))
      | succ i => exact hliterals i text hi

theorem exists_captures_iff {segments : List Segment} (h : WildcardLast segments) {path : List String} :
    (∃ found, Captures segments path found) ↔ Fits segments path := by
  induction segments generalizing path with
  | nil =>
    constructor
    · rintro ⟨found, ⟨⟩⟩
      exact ⟨by simp, fun i text hi => by simp at hi⟩
    · rintro ⟨hlength, -⟩
      obtain rfl : path = [] := List.eq_nil_of_length_eq_zero (by simpa using hlength)
      exact ⟨[], .nil⟩
  | cons s rest ih =>
    cases s with
    | literal text =>
      rw [fits_cons_iff (by simp)]
      constructor
      · rintro ⟨found, ⟨⟩⟩
        exact ⟨text, _, rfl, by simp, (ih h.tail).mp ⟨_, ‹_›⟩⟩
      · rintro ⟨part, tail, rfl, hpart, htail⟩
        obtain ⟨found, hfound⟩ := (ih h.tail).mpr htail
        obtain rfl := hpart text rfl
        exact ⟨found, .literal part hfound⟩
    | parameter name =>
      rw [fits_cons_iff (by simp)]
      constructor
      · rintro ⟨found, ⟨⟩⟩
        exact ⟨_, _, rfl, by simp, (ih h.tail).mp ⟨_, ‹_›⟩⟩
      · rintro ⟨part, tail, rfl, -, htail⟩
        obtain ⟨found, hfound⟩ := (ih h.tail).mpr htail
        exact ⟨_, .parameter name part hfound⟩
    | wildcard =>
      obtain rfl := h.eq_nil
      refine ⟨fun _ => ⟨by simp, fun i text hi => ?_⟩, fun _ => ⟨_, .wildcard path⟩⟩
      cases i with
      | zero => simp at hi
      | succ i => simp at hi

/-! ## Names -/

/-- The names under which the captures of a pattern are stored. -/
def names (p : Pattern) : List String :=
  p.segments.filterMap Segment.name?

/-- A parameter has the name under which the capture of the wildcard is stored. -/
def Clashes (p : Pattern) : Prop :=
  .wildcard ∈ p.segments ∧ .parameter wildcardName ∈ p.segments

theorem mem_names_iff {p : Pattern} {name : String} :
    name ∈ p.names ↔ .parameter name ∈ p.segments ∨ name = wildcardName ∧ .wildcard ∈ p.segments := by
  rw [names, List.mem_filterMap]
  constructor
  · rintro ⟨s, hs, hname⟩
    cases s with
    | literal text => cases hname
    | parameter other =>
      cases hname
      exact .inl hs
    | wildcard =>
      cases hname
      exact .inr ⟨rfl, hs⟩
  · rintro (hs | ⟨rfl, hs⟩)
    · exact ⟨.parameter name, hs, rfl⟩
    · exact ⟨.wildcard, hs, rfl⟩

theorem count_filterMap_name? (segments : List Segment) (name : String) :
    (segments.filterMap Segment.name?).count name =
      segments.count (.parameter name) + if name = wildcardName then segments.count .wildcard else 0 := by
  induction segments with
  | nil => simp
  | cons s rest ih =>
    cases s with
    | literal text =>
      rw [List.filterMap_cons_none rfl, ih, List.count_cons_of_ne (by simp), List.count_cons_of_ne (by simp)]
    | parameter other =>
      have hcount : (Segment.parameter other :: rest).count (.parameter name) =
          rest.count (.parameter name) + if other = name then 1 else 0 := by simp [List.count_cons]
      rw [List.filterMap_cons_some (by rfl), List.count_cons, ih, hcount, List.count_cons_of_ne (by simp)]
      simp only [beq_iff_eq]
      omega
    | wildcard =>
      rw [List.filterMap_cons_some (by rfl), List.count_cons, ih, List.count_cons_of_ne (by simp), List.count_cons_self]
      simp only [beq_iff_eq, eq_comm (a := wildcardName)]
      split <;> omega

theorem WildcardLast.count_le_one {segments : List Segment} (h : WildcardLast segments) :
    segments.count .wildcard ≤ 1 := by
  induction segments with
  | nil => simp
  | cons s rest ih =>
    by_cases hs : s = .wildcard
    · subst hs
      simp [h.eq_nil]
    · rw [List.count_cons_of_ne hs]
      exact ih h.tail

section Accepted

variable {raw : String} {p : Pattern} (hp : parse raw = .ok p)

include hp

theorem count_parameter_le_one (name : String) : p.segments.count (.parameter name) ≤ 1 := by
  obtain ⟨-, hparts, -⟩ := parse_eq_ok_iff.mp hp
  rw [segments_of_parse hp, ← Segment.ofPart_declared, List.count_map_of_injective _ _ Segment.ofPart_injective]
  exact hparts.declared_once name

/-- No other segment has the name of a parameter, unless the wildcard has. -/
theorem count_names_le_one {name : String} (hname : name = wildcardName → ¬ p.Clashes) : p.names.count name ≤ 1 := by
  have hparameter := count_parameter_le_one hp name
  rw [names, count_filterMap_name?]
  split
  · rename_i hwild
    have hclash := hname hwild
    have hcount := (wildcardLast_of_parse hp).count_le_one
    subst hwild
    rw [Clashes, not_and_or] at hclash
    rcases hclash with hnone | hnone
    · rw [List.count_eq_zero.mpr hnone]
      omega
    · rw [List.count_eq_zero.mpr hnone]
      omega
  · exact hparameter

theorem nodup_names_iff : p.names.Nodup ↔ ¬ p.Clashes := by
  constructor
  · rintro hnodup ⟨hwild, hparameter⟩
    have hcount := List.nodup_iff_count.mp hnodup wildcardName
    have hwild : 0 < p.segments.count .wildcard := List.count_pos_iff.mpr hwild
    have hparameter : 0 < p.segments.count (.parameter wildcardName) := List.count_pos_iff.mpr hparameter
    rw [names, count_filterMap_name?, if_pos rfl] at hcount
    omega
  · exact fun h => List.nodup_iff_count.mpr fun name => count_names_le_one hp fun _ => h

/-- A capture whose name no other segment has is found under it. -/
theorem get?_of_captures {path : List String} {found : List (String × String)} (h : Captures p.segments path found)
    {m : String × String} (hm : m ∈ found) (hname : m.1 = wildcardName → ¬ p.Clashes) :
    Members.get? m.1 (Members.ofList found) = some m.2 := by
  rw [Members.get?_ofList_reverse]
  refine Members.get?_of_count ?_ (List.mem_reverse.mpr hm)
  rw [Members.keys, List.map_reverse, List.count_reverse, ← Members.keys, h.keys_eq]
  exact count_names_le_one hp hname

/-! ## Matching -/

/-- What a pattern matches, and that the captures and the path determine each other. A path is matched if it has the
right length and the literals in their places; the names captured are those of the segments; and the segments with the
captures in their places spell the path. -/
theorem matchPath_reconstructs (hname : .parameter wildcardName ∉ p.segments) {path : List String}
    (hpath : ∀ part ∈ path, Path.IsPart part) :
    ((∃ bindings, p.matchPath path = some bindings) ↔ Fits p.segments path) ∧
    ∀ bindings, p.matchPath path = some bindings →
      (∀ name, name ∈ Members.keys bindings ↔
        .parameter name ∈ p.segments ∨ name = wildcardName ∧ .wildcard ∈ p.segments) ∧
      (Members.keys bindings).Nodup ∧
      p.segments.flatMap (Segment.filled bindings) = path := by
  have hlast := wildcardLast_of_parse hp
  constructor
  · simp only [matchPath_eq_some_iff hlast]
    rw [← exists_captures_iff hlast]
    constructor
    · rintro ⟨bindings, found, hfound, -⟩
      exact ⟨found, hfound⟩
    · rintro ⟨found, hfound⟩
      exact ⟨_, found, hfound, rfl⟩
  · intro bindings hmatch
    obtain ⟨found, hfound, rfl⟩ := (matchPath_eq_some_iff hlast).mp hmatch
    refine ⟨fun name => ?_, (Members.sorted_ofList found).nodup, hfound.flatMap_filled hpath fun m hm => ?_⟩
    · rw [Members.mem_keys_ofList, hfound.keys_eq]
      exact mem_names_iff
    · exact get?_of_captures hp hfound hm fun _ hclash => hname hclash.2

omit hp

/-- A parameter, a literal and a wildcard for which the path leaves nothing. -/
theorem matchPath_reconstructs_empty_rest :
    ∃ p, parse "/:op/in/*" = .ok p ∧ .parameter wildcardName ∉ p.segments ∧
      (∀ part ∈ ["ls", "in"], Path.IsPart part) ∧
      p.matchPath ["ls", "in"] = some [("*", ""), ("op", "ls")] ∧
      p.segments.flatMap (Segment.filled [("*", ""), ("op", "ls")]) = ["ls", "in"] := by
  have hp : parse "/:op/in/*" = .ok ⟨"/:op/in/*", [.parameter "op", .literal "in", .wildcard]⟩ := by decide
  have hname : .parameter wildcardName ∉ [.parameter "op", .literal "in", Segment.wildcard] := by decide
  have hsplit : Path.split "/ls/in" = ["ls", "in"] := by decide
  have hpath : ∀ part ∈ ["ls", "in"], Path.IsPart part := fun part hpart => Path.isPart_of_mem_split (hsplit ▸ hpart)
  have hmatch : matchPath ⟨"/:op/in/*", [.parameter "op", .literal "in", .wildcard]⟩ ["ls", "in"] =
      some [("*", ""), ("op", "ls")] := by decide
  exact ⟨_, hp, hname, hpath, hmatch, ((matchPath_reconstructs hp hname hpath).2 _ hmatch).2.2⟩

/-! ## Captures that are kept -/

/-- Each capture is found under the name of its segment. -/
structure Keeps (p : Pattern) (path : List String) (bindings : Bindings) : Prop where
  parameters : ∀ (i : Nat) (name : String), p.segments[i]? = some (.parameter name) →
    ∃ part, path[i]? = some part ∧ Members.get? name bindings = some part
  wildcard : ∀ i : Nat, p.segments[i]? = some .wildcard →
    Members.get? wildcardName bindings = some (Path.join (path.drop i))

/-- Segments fit their own texts. -/
theorem fits_texts (segments : List Segment) : Fits segments (segments.map Segment.text) := by
  refine ⟨by simp, fun i text hi => ?_⟩
  rw [List.getElem?_map, hi]
  rfl

include hp

/-- The capture of the wildcard is kept, and so is that of every parameter that does not have its name. -/
theorem kept_of_captures {path : List String} {found : List (String × String)} (h : Captures p.segments path found) :
    (∀ i : Nat, p.segments[i]? = some .wildcard →
      Members.get? wildcardName (Members.ofList found) = some (Path.join (path.drop i))) ∧
    ∀ (i : Nat) (name : String), p.segments[i]? = some (.parameter name) → (name = wildcardName → ¬ p.Clashes) →
      ∃ part, path[i]? = some part ∧ Members.get? name (Members.ofList found) = some part := by
  constructor
  · intro i hi
    rw [Members.get?_ofList_reverse]
    exact h.get?_wildcard hi
  · intro i name hi hname
    obtain ⟨part, hpart, hmem⟩ := h.parameter_mem hi
    exact ⟨part, hpart, get?_of_captures hp h hmem hname⟩

/-- Of its own texts, a pattern whose names clash does not keep what the parameter captures. -/
theorem Clashes.exists_not_keeps (h : p.Clashes) :
    ∃ path bindings, p.matchPath path = some bindings ∧ ¬ p.Keeps path bindings := by
  obtain ⟨hwild, hparameter⟩ := h
  have hlast := wildcardLast_of_parse hp
  obtain ⟨found, hfound⟩ := (exists_captures_iff hlast).mpr (fits_texts p.segments)
  refine ⟨_, _, (matchPath_eq_some_iff hlast).mpr ⟨found, hfound, rfl⟩, fun hkeeps => ?_⟩
  obtain ⟨i, hi⟩ := List.mem_iff_getElem?.mp hparameter
  obtain ⟨part, hpart, hfirst⟩ := hkeeps.parameters i _ hi
  obtain rfl : ":" ++ wildcardName = part := by simpa [hi, Segment.text] using hpart
  obtain ⟨before, after, hbefore⟩ := List.append_of_mem hwild
  obtain rfl := hlast before after hbefore
  have hsecond := hkeeps.wildcard before.length (by simp [hbefore])
  have hrest : (p.segments.map Segment.text).drop before.length = ["*"] := by
    rw [hbefore, List.map_append, List.drop_left' (List.length_map _)]
    rfl
  -- one name cannot have both captures, `:*` and `*`
  rw [hfirst, hrest] at hsecond
  exact absurd hsecond (by decide)

/-- The names of a pattern are distinct, and every match keeps every capture, unless a parameter has the name of the
wildcard beside a wildcard. Then that parameter alone loses its capture to the wildcard. -/
theorem keeps_iff_not_clashes :
    (p.names.Nodup ↔ ¬ p.Clashes) ∧
    ((∀ path bindings, p.matchPath path = some bindings → p.Keeps path bindings) ↔ ¬ p.Clashes) ∧
    ∀ path bindings, p.matchPath path = some bindings →
      (∀ i : Nat, p.segments[i]? = some .wildcard →
        Members.get? wildcardName bindings = some (Path.join (path.drop i))) ∧
      ∀ (i : Nat) (name : String), p.segments[i]? = some (.parameter name) → name ≠ wildcardName →
        ∃ part, path[i]? = some part ∧ Members.get? name bindings = some part := by
  have hlast := wildcardLast_of_parse hp
  refine ⟨nodup_names_iff hp, ⟨fun hall hclash => ?_, fun hnone path bindings hmatch => ?_⟩, fun path bindings hmatch => ?_⟩
  · obtain ⟨path, bindings, hmatch, hnot⟩ := hclash.exists_not_keeps hp
    exact hnot (hall path bindings hmatch)
  · obtain ⟨found, hfound, rfl⟩ := (matchPath_eq_some_iff hlast).mp hmatch
    obtain ⟨hwildcard, hparameters⟩ := kept_of_captures hp hfound
    exact ⟨fun i name hi => hparameters i name hi fun _ => hnone, hwildcard⟩
  · obtain ⟨found, hfound, rfl⟩ := (matchPath_eq_some_iff hlast).mp hmatch
    obtain ⟨hwildcard, hparameters⟩ := kept_of_captures hp hfound
    exact ⟨hwildcard, fun i name hi hne => hparameters i name hi fun hname => absurd hname hne⟩

omit hp

/-- A parameter with the name of the wildcard, in front of it: what it captures is lost. -/
theorem clashing_loses_capture :
    ∃ p, parse "/:*/*" = .ok p ∧ p.Clashes ∧ p.matchPath ["a", "b"] = some [("*", "b")] ∧ ¬ p.names.Nodup ∧
      ∃ path bindings, p.matchPath path = some bindings ∧ ¬ p.Keeps path bindings := by
  have hp : parse "/:*/*" = .ok ⟨"/:*/*", [.parameter "*", .wildcard]⟩ := by decide
  have hclash : Clashes ⟨"/:*/*", [.parameter "*", .wildcard]⟩ := ⟨by decide, by decide⟩
  obtain ⟨hnames, hkeeps, -⟩ := keeps_iff_not_clashes hp
  have hlost := mt hkeeps.mp (not_not.mpr hclash)
  simp only [not_forall] at hlost
  obtain ⟨path, bindings, hmatch, hnot⟩ := hlost
  exact ⟨_, hp, hclash, by decide, mt hnames.mp (not_not.mpr hclash), path, bindings, hmatch, hnot⟩

end Accepted

end Pattern

end Exchange
