-- SUMMARY: Mounting is transparent: what is matched below a prefix is what prefix and pattern match together.
import Exchange.Proofs.Route.Captures

/-!
# Patterns below prefixes

A mounted table sees of a path what the prefix leaves, put together as a path
again. Nothing is lost on the way: the segments that the prefix has not matched
are found in the suffix, so that a prefix and a pattern below it match the paths
that their segments in a row match, and capture the same.
-/

namespace Exchange

namespace Members

variable {α : Type}

/-- The members of `outer` and `inner`; where both have a key, `inner` counts. -/
def override (outer inner : List (String × α)) : List (String × α) :=
  inner.foldl (fun sofar m => insert m.1 m.2 sofar) outer

theorem get?_override {outer inner : List (String × α)} (h : (keys inner).Nodup) (key : String) :
    get? key (override outer inner) = (get? key inner).or (get? key outer) := by
  rw [override, get?_foldl_insert, get?_reverse h]

theorem ofList_append (a b : List (String × α)) : ofList (a ++ b) = override (ofList a) (ofList b) := by
  refine (sorted_ofList _).ext (sorted_foldl_insert (sorted_ofList a)) fun key => ?_
  rw [get?_override (sorted_ofList b).nodup, get?_ofList_reverse, get?_ofList_reverse, get?_ofList_reverse,
    List.reverse_append, get?_append]

end Members

/-- A suffix is a slash alone if there is nothing in it. -/
theorem Path.ofSegments_eq_slash_iff {parts : List String} (h : ∀ part ∈ parts, IsPart part) :
    ofSegments parts = "/" ↔ parts = [] := by
  constructor
  · intro heq
    have hsplit : split "/" = [] := by decide
    rw [← split_ofSegments h, heq, hsplit]
  · rintro rfl
    rfl

namespace Pattern

/-- The pattern with the segments of both. -/
def followedBy (p q : Pattern) : Pattern :=
  ⟨p.raw ++ q.raw, p.segments ++ q.segments⟩

/-- Where the two texts written one after the other are accepted, they are accepted as this pattern. -/
theorem parse_followedBy {raw raw' : String} {p q r : Pattern} (hp : parse raw = .ok p) (hq : parse raw' = .ok q)
    (hr : parse (raw ++ raw') = .ok r) : r = p.followedBy q := by
  obtain ⟨-, -, rfl⟩ := parse_eq_ok_iff.mp hp
  obtain ⟨⟨rest, rfl⟩, -, rfl⟩ := parse_eq_ok_iff.mp hq
  obtain ⟨-, -, rfl⟩ := parse_eq_ok_iff.mp hr
  rw [followedBy, ← List.map_append, Path.split_slash_append, ← Path.split_append_slash, String.append_assoc]

theorem WildcardLast.append {before after : List Segment} (hbefore : .wildcard ∉ before) (hafter : WildcardLast after) :
    WildcardLast (before ++ after) := by
  induction before with
  | nil => exact hafter
  | cons s before ih =>
    obtain ⟨hs, hrest⟩ := List.ne_and_not_mem_of_not_mem_cons hbefore
    intro front back heq
    cases front with
    | nil =>
      rw [List.cons_append, List.nil_append, List.cons.injEq] at heq
      exact absurd heq.1.symm hs
    | cons f front =>
      rw [List.cons_append, List.cons_append, List.cons.injEq] at heq
      exact ih hrest front back heq.2

section Prefixes

variable {p : Pattern} (hwild : .wildcard ∉ p.segments) {path : List String} {bindings : Bindings}

include hwild

theorem wildcardLast_of_not_mem : WildcardLast p.segments := by
  have hnil : WildcardLast [] := fun before after heq => by simp at heq
  simpa using WildcardLast.append hwild hnil

theorem matchPrefix_eq_some_iff {suffix : String} :
    p.matchPrefix path = some (bindings, suffix) ↔
      p.matchPath (path.take p.segments.length) = some bindings ∧
        Path.ofSegments (path.drop p.segments.length) = suffix := by
  have hlast := wildcardLast_of_not_mem hwild
  unfold matchPrefix
  dsimp only
  split
  · rename_i hshort
    constructor
    · rintro ⟨⟩
    · rintro ⟨hmatch, -⟩
      obtain ⟨found, hfound, -⟩ := (matchPath_eq_some_iff hlast).mp hmatch
      have hlength := hfound.length_eq hwild
      rw [List.length_take] at hlength
      omega
  · simp [Option.map_eq_some_iff]

theorem matchPath_followedBy {q : Pattern} (hlast : WildcardLast q.segments) :
    (p.followedBy q).matchPath path = some bindings ↔
      ∃ outer inner, p.matchPath (path.take p.segments.length) = some outer ∧
        q.matchPath (path.drop p.segments.length) = some inner ∧ bindings = Members.override outer inner := by
  have hboth : WildcardLast (p.followedBy q).segments := .append hwild hlast
  simp only [matchPath_eq_some_iff hboth, matchPath_eq_some_iff (wildcardLast_of_not_mem hwild),
    matchPath_eq_some_iff hlast]
  constructor
  · rintro ⟨found, hfound, rfl⟩
    obtain ⟨first, last, hfirst, hlast, rfl⟩ := (Captures.append_iff hwild).mp hfound
    exact ⟨_, _, ⟨first, hfirst, rfl⟩, ⟨last, hlast, rfl⟩, Members.ofList_append first last⟩
  · rintro ⟨outer, inner, ⟨first, hfirst, rfl⟩, ⟨last, hlast, rfl⟩, rfl⟩
    exact ⟨_, (Captures.append_iff hwild).mpr ⟨first, last, hfirst, hlast, rfl⟩, Members.ofList_append first last⟩

variable (hpath : ∀ part ∈ path, Path.IsPart part)

include hpath

/-- The suffix is a path with the segments that are left. -/
theorem split_of_matchPrefix {suffix : String} (h : p.matchPrefix path = some (bindings, suffix)) :
    Path.split suffix = path.drop p.segments.length := by
  obtain ⟨-, rfl⟩ := (matchPrefix_eq_some_iff hwild).mp h
  exact Path.split_ofSegments fun part hpart => hpath part (List.mem_of_mem_drop hpart)

theorem suffix_eq_slash_iff {suffix : String} (h : p.matchPrefix path = some (bindings, suffix)) :
    suffix = "/" ↔ path.length = p.segments.length := by
  obtain ⟨hmatch, rfl⟩ := (matchPrefix_eq_some_iff hwild).mp h
  obtain ⟨found, hfound, -⟩ := (matchPath_eq_some_iff (wildcardLast_of_not_mem hwild)).mp hmatch
  have hlength := hfound.length_eq hwild
  rw [List.length_take] at hlength
  rw [Path.ofSegments_eq_slash_iff fun part hpart => hpath part (List.mem_of_mem_drop hpart), List.drop_eq_nil_iff]
  omega

/-- Two prefixes, one below the other, leave what both in a row leave. -/
theorem matchPrefix_followedBy {r : Pattern} (hwild' : .wildcard ∉ r.segments) {suffix : String} :
    (p.followedBy r).matchPrefix path = some (bindings, suffix) ↔
      ∃ outer between inner, p.matchPrefix path = some (outer, between) ∧
        r.matchPrefix (Path.split between) = some (inner, suffix) ∧ bindings = Members.override outer inner := by
  have hboth : .wildcard ∉ (p.followedBy r).segments := by simp [followedBy, hwild, hwild']
  have hlength : (p.followedBy r).segments.length = p.segments.length + r.segments.length := List.length_append
  -- what the inner prefix is matched with stands between the outer one's segments and the suffix
  have hinner : (path.take (p.segments.length + r.segments.length)).drop p.segments.length =
      (path.drop p.segments.length).take r.segments.length := by
    rw [List.drop_take, Nat.add_sub_cancel_left]
  rw [matchPrefix_eq_some_iff hboth, matchPath_followedBy hwild (wildcardLast_of_not_mem hwild'), hlength,
    List.take_take, Nat.min_eq_left (Nat.le_add_right _ _), hinner, ← List.drop_drop]
  constructor
  · rintro ⟨⟨outer, inner, houter, hinner, rfl⟩, hsuffix⟩
    have hprefix : p.matchPrefix path = some (outer, _) := (matchPrefix_eq_some_iff hwild).mpr ⟨houter, rfl⟩
    refine ⟨outer, _, inner, hprefix, ?_, rfl⟩
    rw [split_of_matchPrefix hwild hpath hprefix]
    exact (matchPrefix_eq_some_iff hwild').mpr ⟨hinner, hsuffix⟩
  · rintro ⟨outer, between, inner, hprefix, hrest, rfl⟩
    rw [split_of_matchPrefix hwild hpath hprefix] at hrest
    obtain ⟨hinner, hsuffix⟩ := (matchPrefix_eq_some_iff hwild').mp hrest
    exact ⟨⟨outer, inner, ((matchPrefix_eq_some_iff hwild).mp hprefix).1, hinner, rfl⟩, hsuffix⟩

end Prefixes

/-- A prefix and a pattern below it match what their segments in a row match, and so do two prefixes; the captures of
the inner one count. The suffix between them is a path with the segments that the prefix has left, and a slash alone if
there are none. -/
theorem matchPrefix_composes {raw raw' raw'' : String} {p q r : Pattern} (hp : parsePrefix raw = .ok p)
    (hq : parse raw' = .ok q) (hr : parsePrefix raw'' = .ok r) {path : List String}
    (hpath : ∀ part ∈ path, Path.IsPart part) :
    (∀ bindings, (p.followedBy q).matchPath path = some bindings ↔
      ∃ outer suffix inner, p.matchPrefix path = some (outer, suffix) ∧
        q.matchPath (Path.split suffix) = some inner ∧ bindings = Members.override outer inner) ∧
    (∀ outer suffix, p.matchPrefix path = some (outer, suffix) →
      (∃ rest, suffix = "/" ++ rest) ∧ Path.split suffix = path.drop p.segments.length ∧
        (suffix = "/" ↔ path.length = p.segments.length)) ∧
    ∀ bindings suffix, (p.followedBy r).matchPrefix path = some (bindings, suffix) ↔
      ∃ outer between inner, p.matchPrefix path = some (outer, between) ∧
        r.matchPrefix (Path.split between) = some (inner, suffix) ∧ bindings = Members.override outer inner := by
  obtain ⟨-, hwild⟩ := parsePrefix_eq_ok_iff.mp hp
  obtain ⟨-, hwild'⟩ := parsePrefix_eq_ok_iff.mp hr
  have hlast := wildcardLast_of_parse hq
  refine ⟨fun bindings => ?_, fun outer suffix hprefix => ?_, fun bindings suffix => matchPrefix_followedBy hwild hpath hwild'⟩
  · rw [matchPath_followedBy hwild hlast]
    constructor
    · rintro ⟨outer, inner, houter, hinner, heq⟩
      have hprefix : p.matchPrefix path = some (outer, _) := (matchPrefix_eq_some_iff hwild).mpr ⟨houter, rfl⟩
      refine ⟨outer, _, inner, hprefix, ?_, heq⟩
      rwa [split_of_matchPrefix hwild hpath hprefix]
    · rintro ⟨outer, suffix, inner, hprefix, hinner, heq⟩
      rw [split_of_matchPrefix hwild hpath hprefix] at hinner
      exact ⟨outer, inner, ((matchPrefix_eq_some_iff hwild).mp hprefix).1, hinner, heq⟩
  · refine ⟨?_, split_of_matchPrefix hwild hpath hprefix, suffix_eq_slash_iff hwild hpath hprefix⟩
    obtain ⟨-, rfl⟩ := (matchPrefix_eq_some_iff hwild).mp hprefix
    exact ⟨_, rfl⟩

/-- The prefix and the patterns below it declare the same parameter: the inner capture counts, and the suffixes agree. -/
theorem matchPrefix_composes_shared_name :
    ∃ p q r, parsePrefix "/:name" = .ok p ∧ parse "/:name/*" = .ok q ∧ parsePrefix "/b/:name" = .ok r ∧
      (∀ part ∈ ["a", "b", "c"], Path.IsPart part) ∧
      p.matchPrefix ["a", "b", "c"] = some ([("name", "a")], "/b/c") ∧
      (p.followedBy q).matchPath ["a", "b", "c"] = some [("*", "c"), ("name", "b")] ∧
      Path.split "/b/c" = ["b", "c"] ∧
      (p.followedBy r).matchPrefix ["a", "b", "c"] = some ([("name", "c")], "/") := by
  have hp : parsePrefix "/:name" = .ok ⟨"/:name", [.parameter "name"]⟩ := by decide
  have hq : parse "/:name/*" = .ok ⟨"/:name/*", [.parameter "name", .wildcard]⟩ := by decide
  have hr : parsePrefix "/b/:name" = .ok ⟨"/b/:name", [.literal "b", .parameter "name"]⟩ := by decide
  have hsplit : Path.split "/a/b/c" = ["a", "b", "c"] := by decide
  have hpath : ∀ part ∈ ["a", "b", "c"], Path.IsPart part := fun part hpart => Path.isPart_of_mem_split (hsplit ▸ hpart)
  have hprefix : matchPrefix ⟨"/:name", [.parameter "name"]⟩ ["a", "b", "c"] = some ([("name", "a")], "/b/c") := by decide
  obtain ⟨hboth, hsuffix, hnested⟩ := matchPrefix_composes hp hq hr hpath
  refine ⟨_, _, _, hp, hq, hr, hpath, hprefix, ?_, (hsuffix _ _ hprefix).2.1, ?_⟩
  · exact (hboth _).mpr ⟨_, _, [("*", "c"), ("name", "b")], hprefix, by decide, by decide⟩
  · exact (hnested _ _).mpr ⟨_, _, [("name", "c")], hprefix, by decide, by decide⟩

end Pattern

end Exchange
