-- SUMMARY: The grammar of route patterns: what is accepted, which error a text outside it has, and when two patterns are the same.
import Mathlib.Data.List.Count
import Mathlib.Data.Nat.Find
import Exchange.Proofs.Route.Paths

/-!
# The grammar of patterns

A pattern is a path whose parts spell segments. The parser goes through the
parts once and stops at the first that may not stand where it does. What it
makes of the others loses nothing: a segment gives its part back, so that a
pattern is determined by the parts, and the slashes between them do not matter.
-/

namespace Exchange

/-! ## Parts and segments -/

theorem Pattern.declared?_eq_some_iff {part name : String} : declared? part = some name ↔ part = ":" ++ name := by
  have hcolon : (":" ++ name).toList = ':' :: name.toList := by simp
  constructor
  · intro h
    unfold declared? at h
    split at h
    · rename_i cs hcs
      have hname : String.ofList cs = name := Option.some.inj h
      rw [← String.toList_inj, hcolon, hcs, ← hname, String.toList_ofList]
    · cases h
  · rintro rfl
    simp [declared?]

namespace Segment

/-- The segment that a part spells. -/
def ofPart (part : String) : Segment :=
  if part = Pattern.wildcardName then .wildcard
  else
    match Pattern.declared? part with
    | some name => .parameter name
    | none => .literal part

/-- The part that spells a segment. -/
def text : Segment → String
  | .literal text => text
  | .parameter name => ":" ++ name
  | .wildcard => Pattern.wildcardName

theorem text_ofPart (part : String) : (ofPart part).text = part := by
  unfold ofPart
  split
  · rename_i h
    exact h.symm
  · cases hname : Pattern.declared? part with
    | none => rfl
    | some name => exact (Pattern.declared?_eq_some_iff.mp hname).symm

theorem ofPart_injective : Function.Injective ofPart :=
  Function.LeftInverse.injective text_ofPart

theorem map_text_map_ofPart (parts : List String) : (parts.map ofPart).map text = parts := by
  simp [Function.comp_def, text_ofPart]

theorem ofPart_wildcard : ofPart Pattern.wildcardName = .wildcard :=
  rfl

theorem ofPart_eq_wildcard_iff {part : String} : ofPart part = .wildcard ↔ part = Pattern.wildcardName :=
  ofPart_injective.eq_iff' ofPart_wildcard

end Segment

namespace Pattern

/-! ## The first part that offends -/

/-- What is wrong with a part of `raw`, between the parts that stand before and after it. -/
inductive Offends (raw : String) (before : List String) (part : String) (after : List String) : Error → Prop where
  | wildcard : part = wildcardName → after ≠ [] → Offends raw before part after (.wildcardNotLast raw)
  | nameless : part = ":" → Offends raw before part after (.emptyParameter raw)
  | repeated {name : String} : part = ":" ++ name → name ≠ "" → part ∈ before →
      Offends raw before part after (.duplicateParameter raw name)

/-- `e` is what is wrong with the first of the parts with which something is wrong. -/
def FirstOffence (raw : String) (parts : List String) (e : Error) : Prop :=
  ∃ before part after, parts = before ++ part :: after ∧ Offends raw before part after e ∧
    ∀ before' part' after', parts = before' ++ part' :: after' → before'.length < before.length →
      ∀ e', ¬ Offends raw before' part' after' e'

/-- Wildcards come last only, and the parameters have names, each its own. -/
structure Grammatical (parts : List String) : Prop where
  wildcard_last : ∀ before after, parts = before ++ wildcardName :: after → after = []
  named : ":" ∉ parts
  declared_once : ∀ name, parts.count (":" ++ name) ≤ 1

theorem Grammatical.not_offends {raw : String} {before after : List String} {part : String}
    (h : Grammatical (before ++ part :: after)) (e : Error) : ¬ Offends raw before part after e := by
  rintro (⟨rfl, hafter⟩ | ⟨rfl⟩ | @⟨name, rfl, -, hbefore⟩)
  · exact hafter (h.wildcard_last before after rfl)
  · exact h.named (List.mem_append_right before List.mem_cons_self)
  · have hcount : 0 < before.count (":" ++ name) := List.count_pos_iff.mpr hbefore
    have := h.declared_once name
    rw [List.count_append, List.count_cons_self] at this
    omega

theorem grammatical_of_not_offends (raw : String) {parts : List String}
    (h : ∀ before part after, parts = before ++ part :: after → ∀ e, ¬ Offends raw before part after e) :
    Grammatical parts := by
  have hnamed : ":" ∉ parts := by
    intro hmem
    obtain ⟨before, after, heq⟩ := List.append_of_mem hmem
    exact h before ":" after heq _ (.nameless rfl)
  refine ⟨fun before after heq => ?_, hnamed, fun name => ?_⟩
  · by_contra hafter
    exact h before wildcardName after heq _ (.wildcard rfl hafter)
  · by_contra hcount
    have hmem : ":" ++ name ∈ parts := List.count_pos_iff.mp (by omega)
    have hname : name ≠ "" := by
      rintro rfl
      exact hnamed hmem
    obtain ⟨before, after, heq⟩ := List.append_of_mem hmem
    rw [heq, List.count_append, List.count_cons_self] at hcount
    rcases Nat.eq_zero_or_pos (before.count (":" ++ name)) with hbefore | hbefore
    · have hafter : ":" ++ name ∈ after := List.count_pos_iff.mp (by omega)
      obtain ⟨between, rest, rfl⟩ := List.append_of_mem hafter
      refine h (before ++ (":" ++ name) :: between) (":" ++ name) rest (by simp [heq]) _ (.repeated rfl hname ?_)
      simp
    · exact h before (":" ++ name) after heq _ (.repeated rfl hname (List.count_pos_iff.mp hbefore))

/-! ## Parsing -/

/-- `names` are the parameters that `parts` declare. -/
def Declares (parts names : List String) : Prop :=
  ∀ name, name ∈ names ↔ ":" ++ name ∈ parts

section Steps

variable {raw : String} {names before : List String} (hnames : Declares before names)

include hnames

/-- The parser stops at a part that offends. -/
theorem parseParts_of_offends {part : String} {after : List String} {e : Error} (h : Offends raw before part after e) :
    parseParts raw names (part :: after) = .error e := by
  have hcolon (name : String) : ":" ++ name ≠ wildcardName := by
    intro heq
    simpa [wildcardName] using congrArg String.toList heq
  rcases h with ⟨rfl, hafter⟩ | ⟨rfl⟩ | @⟨name, rfl, hname, hbefore⟩
  · simp [parseParts, hafter]
  · rfl
  · have hdeclared : declared? (":" ++ name) = some name := declared?_eq_some_iff.mpr rfl
    rw [parseParts, if_neg (hcolon name), hdeclared]
    simp only
    rw [if_neg (by simpa using hname), if_pos ((hnames name).mpr hbefore)]

/-- The parser goes on behind a part that does not offend. -/
theorem parseParts_of_not_offends {part : String} {after : List String} (h : ∀ e, ¬ Offends raw before part after e) :
    ∃ names', Declares (before ++ [part]) names' ∧
      parseParts raw names (part :: after) = (parseParts raw names' after).map (Segment.ofPart part :: ·) := by
  have hother (hpart : ∀ name, part ≠ ":" ++ name) : Declares (before ++ [part]) names := fun name => by
    simp [hnames name, (hpart name).symm]
  by_cases hwild : part = wildcardName
  · have hafter : after = [] := by
      by_contra hne
      exact h _ (.wildcard hwild hne)
    refine ⟨names, hother ?_, ?_⟩
    · intro name heq
      simpa [wildcardName] using congrArg String.toList (hwild.symm.trans heq)
    · rw [hwild, hafter]
      rfl
  · cases hdeclared : declared? part with
    | none =>
      refine ⟨names, hother ?_, ?_⟩
      · intro name heq
        rw [declared?_eq_some_iff.mpr heq] at hdeclared
        cases hdeclared
      · simp [parseParts, Segment.ofPart, hwild, hdeclared]
    | some name =>
      have hpart : part = ":" ++ name := declared?_eq_some_iff.mp hdeclared
      have hname : name ≠ "" := by
        rintro rfl
        exact h _ (.nameless hpart)
      have hnew : name ∉ names := fun hmem => h _ (.repeated hpart hname (hpart ▸ (hnames name).mp hmem))
      refine ⟨name :: names, fun other => ?_, ?_⟩
      · rw [List.mem_cons, List.mem_append, List.mem_singleton, hnames other, hpart]
        have hinj : ":" ++ other = ":" ++ name ↔ other = name := by
          rw [← String.toList_inj, ← String.toList_inj]
          simp
        rw [hinj, or_comm]
      · simp [parseParts, Segment.ofPart, hwild, hdeclared, hname, hnew]

end Steps

theorem parseParts_of_faultless {raw : String} {names before : List String} {parts : List String}
    (hnames : Declares before names)
    (h : ∀ b part a, parts = b ++ part :: a → ∀ e, ¬ Offends raw (before ++ b) part a e) :
    parseParts raw names parts = .ok (parts.map Segment.ofPart) := by
  induction parts generalizing names before with
  | nil => rfl
  | cons part after ih =>
    have hpart : ∀ e, ¬ Offends raw before part after e := by simpa using h [] part after rfl
    obtain ⟨names', hnames', heq⟩ := parseParts_of_not_offends hnames hpart
    have hafter := ih hnames' fun b q a hq e => by simpa using h (part :: b) q a (by simp [hq]) e
    rw [heq, hafter]
    rfl

theorem parseParts_of_firstOffence {raw : String} {names before : List String} {e : Error} (b : List String)
    {part : String} {a : List String} (hnames : Declares before names) (he : Offends raw (before ++ b) part a e)
    (h : ∀ b' part' a', b ++ part :: a = b' ++ part' :: a' → b'.length < b.length →
      ∀ e', ¬ Offends raw (before ++ b') part' a' e') :
    parseParts raw names (b ++ part :: a) = .error e := by
  induction b generalizing names before with
  | nil => exact parseParts_of_offends hnames (by simpa using he)
  | cons q b ih =>
    have hq : ∀ e', ¬ Offends raw before q (b ++ part :: a) e' := by
      simpa using h [] q (b ++ part :: a) rfl (by simp)
    obtain ⟨names', hnames', heq⟩ := parseParts_of_not_offends hnames hq
    have hrest : parseParts raw names' (b ++ part :: a) = .error e := by
      refine ih hnames' (by simpa using he) fun b' part' a' hsplit hlt e' => ?_
      simpa using h (q :: b') part' a' (by simp [hsplit]) (by simpa using hlt) e'
    rw [List.cons_append, heq, hrest]
    rfl

theorem grammatical_or_firstOffence (raw : String) (parts : List String) :
    Grammatical parts ∨ ∃ e, FirstOffence raw parts e := by
  classical
  by_cases hfault : ∃ n before part after e, before.length = n ∧ parts = before ++ part :: after ∧
      Offends raw before part after e
  · obtain ⟨before, part, after, e, hlen, heq, he⟩ := Nat.find_spec hfault
    refine .inr ⟨e, before, part, after, heq, he, fun before' part' after' heq' hlt e' he' => ?_⟩
    exact Nat.find_min hfault (hlen ▸ hlt) ⟨before', part', after', e', rfl, heq', he'⟩
  · refine .inl (grammatical_of_not_offends raw fun before part after heq e he => ?_)
    exact hfault ⟨_, before, part, after, e, rfl, heq, he⟩

theorem declares_nil : Declares [] [] := fun _ => by simp

theorem FirstOffence.not_grammatical {raw : String} {parts : List String} {e : Error} (h : FirstOffence raw parts e) :
    ¬ Grammatical parts := by
  obtain ⟨before, part, after, rfl, he, -⟩ := h
  exact fun hparts => hparts.not_offends e he

theorem FirstOffence.parseParts_eq {raw : String} {parts : List String} {e : Error} (h : FirstOffence raw parts e) :
    parseParts raw [] parts = .error e := by
  obtain ⟨before, part, after, rfl, he, hfirst⟩ := h
  exact parseParts_of_firstOffence before declares_nil he hfirst

/-- The parser accepts the grammar and reads the parts one by one; of other parts it reports the first offence. -/
theorem parseParts_cases (raw : String) (parts : List String) :
    (Grammatical parts ∧ parseParts raw [] parts = .ok (parts.map Segment.ofPart)) ∨
      ∃ e, FirstOffence raw parts e ∧ parseParts raw [] parts = .error e := by
  rcases grammatical_or_firstOffence raw parts with hparts | ⟨e, he⟩
  · refine .inl ⟨hparts, parseParts_of_faultless declares_nil fun b q a heq e => ?_⟩
    subst heq
    exact hparts.not_offends e
  · exact .inr ⟨e, he, he.parseParts_eq⟩

theorem parse_slash (rest : String) :
    parse ("/" ++ rest) = (parseParts ("/" ++ rest) [] (Path.split ("/" ++ rest))).map (⟨"/" ++ rest, ·⟩) := by
  simp [parse]

theorem parse_of_no_slash {raw : String} (h : ¬ ∃ rest, raw = "/" ++ rest) :
    parse raw = .error (.missingLeadingSlash raw) := by
  unfold parse
  split
  · rename_i cs hcs
    refine absurd ⟨String.ofList cs, ?_⟩ h
    rw [← String.toList_inj, hcs]
    simp
  · rfl

theorem parse_eq_ok_iff {raw : String} {p : Pattern} :
    parse raw = .ok p ↔
      (∃ rest, raw = "/" ++ rest) ∧ Grammatical (Path.split raw) ∧ p = ⟨raw, (Path.split raw).map Segment.ofPart⟩ := by
  by_cases hslash : ∃ rest, raw = "/" ++ rest
  · obtain ⟨rest, rfl⟩ := hslash
    rw [parse_slash]
    rcases parseParts_cases ("/" ++ rest) (Path.split ("/" ++ rest)) with ⟨hparts, heq⟩ | ⟨e, he, heq⟩
    · rw [heq]
      simp [Except.map, hparts, eq_comm]
    · rw [heq]
      simp [Except.map, he.not_grammatical]
  · simp [parse_of_no_slash hslash, hslash]

theorem parse_eq_error_iff {raw : String} {e : Error} :
    parse raw = .error e ↔
      (¬ (∃ rest, raw = "/" ++ rest) ∧ e = .missingLeadingSlash raw) ∨
      ((∃ rest, raw = "/" ++ rest) ∧ FirstOffence raw (Path.split raw) e) := by
  by_cases hslash : ∃ rest, raw = "/" ++ rest
  · obtain ⟨rest, rfl⟩ := hslash
    rw [parse_slash]
    rcases parseParts_cases ("/" ++ rest) (Path.split ("/" ++ rest)) with ⟨hparts, heq⟩ | ⟨e', he', heq⟩
    · have hnone : ¬ FirstOffence ("/" ++ rest) (Path.split ("/" ++ rest)) e := fun he => he.not_grammatical hparts
      rw [heq]
      simp [Except.map, hnone]
    · rw [heq]
      constructor
      · rintro ⟨⟩
        exact .inr ⟨⟨rest, rfl⟩, he'⟩
      · rintro (⟨hnot, -⟩ | ⟨-, he⟩)
        · exact absurd ⟨rest, rfl⟩ hnot
        · rw [← heq, he.parseParts_eq]
          rfl
  · simp [parse_of_no_slash hslash, hslash, eq_comm]

/-! ## Patterns and their parts -/

section Accepted

variable {raw raw' : String} {p q : Pattern} (hp : parse raw = .ok p)

include hp

theorem segments_of_parse : p.segments = (Path.split raw).map Segment.ofPart := by
  obtain ⟨-, -, rfl⟩ := parse_eq_ok_iff.mp hp
  rfl

theorem map_text_of_parse : p.segments.map Segment.text = Path.split raw := by
  rw [segments_of_parse hp, Segment.map_text_map_ofPart]

theorem isPart_of_literal {text : String} (h : .literal text ∈ p.segments) : Path.IsPart text := by
  have hmem : text ∈ Path.split raw := by
    rw [← map_text_of_parse hp]
    exact List.mem_map_of_mem (f := Segment.text) h
  exact Path.isPart_of_mem_split hmem

theorem same_iff_of_parse (hq : parse raw' = .ok q) : p.same q ↔ Path.split raw = Path.split raw' := by
  have hinj := List.map_injective_iff.mpr Segment.ofPart_injective
  rw [same, decide_eq_true_iff, segments_of_parse hp, segments_of_parse hq, hinj.eq_iff]

/-- A text with the same parts is read as the same pattern. -/
theorem parse_of_split_eq (rest : String) (h : Path.split ("/" ++ rest) = Path.split raw) :
    ∃ q, parse ("/" ++ rest) = .ok q ∧ p.same q := by
  obtain ⟨-, hparts, -⟩ := parse_eq_ok_iff.mp hp
  have hq : parse ("/" ++ rest) = .ok ⟨"/" ++ rest, (Path.split ("/" ++ rest)).map Segment.ofPart⟩ :=
    parse_eq_ok_iff.mpr ⟨⟨rest, rfl⟩, h ▸ hparts, rfl⟩
  exact ⟨_, hq, (same_iff_of_parse hp hq).mpr h.symm⟩

theorem hasWildcard_iff_of_parse : p.hasWildcard ↔ .wildcard ∈ p.segments := by
  obtain ⟨-, hparts, -⟩ := parse_eq_ok_iff.mp hp
  rw [hasWildcard, decide_eq_true_iff]
  refine ⟨List.mem_of_getLast?, fun hmem => ?_⟩
  rw [segments_of_parse hp] at hmem ⊢
  obtain ⟨part, hpart, hwild⟩ := List.mem_map.mp hmem
  obtain rfl := Segment.ofPart_eq_wildcard_iff.mp hwild
  obtain ⟨before, after, heq⟩ := List.append_of_mem hpart
  obtain rfl := hparts.wildcard_last before after heq
  simp [heq, Segment.ofPart_wildcard]

end Accepted

theorem parsePrefix_eq_ok_iff {raw : String} {p : Pattern} :
    parsePrefix raw = .ok p ↔ parse raw = .ok p ∧ .wildcard ∉ p.segments := by
  cases hp : parse raw with
  | error e => simp [parsePrefix, hp, bind, Except.bind]
  | ok q =>
    have hwild := hasWildcard_iff_of_parse hp
    by_cases hq : q.hasWildcard
    · have hmem := hwild.mp hq
      simp only [parsePrefix, hp, bind, Except.bind, if_pos hq, Except.ok.injEq, reduceCtorEq, false_iff, not_and,
        not_not]
      rintro rfl
      exact hmem
    · have hmem := mt hwild.mpr hq
      simp only [parsePrefix, hp, bind, Except.bind, if_neg hq, Except.ok.injEq, iff_self_and]
      rintro rfl
      exact hmem

/-! ## Writing a pattern back -/

/-- The segments of a pattern as they are spelled, each after a slash. -/
def spelled (p : Pattern) : String :=
  Path.slashed (p.segments.map Segment.text)

/-- A pattern is read again from its segments, or from a slash alone if it has none. -/
theorem parse_spelled {raw : String} {p : Pattern} (hp : parse raw = .ok p) :
    ∃ q, parse (if p.segments = [] then "/" else p.spelled) = .ok q ∧ p.same q := by
  have htext := map_text_of_parse hp
  by_cases hnil : p.segments = []
  · have hsplit : Path.split raw = [] := by rw [← htext, hnil, List.map_nil]
    rw [if_pos hnil]
    exact parse_of_split_eq hp "" hsplit.symm
  · have hparts : Path.split raw ≠ [] := by
      rw [← htext]
      exact mt List.map_eq_nil_iff.mp hnil
    have hspelled : p.spelled = "/" ++ Path.join (Path.split raw) := by
      rw [spelled, htext, Path.slashed_eq_ofSegments hparts, Path.ofSegments]
    rw [if_neg hnil, hspelled]
    exact parse_of_split_eq hp _ (Path.split_ofSegments fun _ => Path.isPart_of_mem_split)

/-- The grammar that the parser accepts, the error of every other text, and that a pattern is no more than its parts:
it is read again from them, two patterns are the same when they have the same, and only a wildcard among them keeps
a pattern from being mounted at. -/
theorem parse_canonical (raw : String) :
    (∀ p, parse raw = .ok p ↔
      (∃ rest, raw = "/" ++ rest) ∧ Grammatical (Path.split raw) ∧ p = ⟨raw, (Path.split raw).map Segment.ofPart⟩) ∧
    (∀ e, parse raw = .error e ↔
      (¬ (∃ rest, raw = "/" ++ rest) ∧ e = .missingLeadingSlash raw) ∨
      ((∃ rest, raw = "/" ++ rest) ∧ FirstOffence raw (Path.split raw) e)) ∧
    (∀ p, parse raw = .ok p →
      p.segments.map Segment.text = Path.split raw ∧
      (∀ text, .literal text ∈ p.segments → text ≠ "" ∧ '/' ∉ text.toList) ∧
      (∃ q, parse (if p.segments = [] then "/" else p.spelled) = .ok q ∧ p.same q) ∧
      ∀ raw' q, parse raw' = .ok q → (p.same q ↔ Path.split raw = Path.split raw')) ∧
    ∀ p, parsePrefix raw = .ok p ↔ parse raw = .ok p ∧ .wildcard ∉ p.segments := by
  refine ⟨fun p => parse_eq_ok_iff, fun e => parse_eq_error_iff, fun p hp => ?_, fun p => parsePrefix_eq_ok_iff⟩
  refine ⟨map_text_of_parse hp, fun text hmem => ?_, parse_spelled hp, fun raw' q hq => same_iff_of_parse hp hq⟩
  have hpart := isPart_of_literal hp hmem
  exact ⟨hpart.ne_empty, hpart.no_slash⟩

/-- The parts of `/:a//b/*/` in turn, and that they are read again from the segments. -/
theorem parse_canonical_parameter_literal_wildcard :
    parse "/:a//b/*/" = .ok ⟨"/:a//b/*/", [.parameter "a", .literal "b", .wildcard]⟩ ∧
    ∃ q, parse "/:a/b/*" = .ok q ∧ (⟨"/:a//b/*/", [.parameter "a", .literal "b", .wildcard]⟩ : Pattern).same q := by
  have hp : parse "/:a//b/*/" = .ok ⟨"/:a//b/*/", [.parameter "a", .literal "b", .wildcard]⟩ := by decide
  exact ⟨hp, ((parse_canonical "/:a//b/*/").2.2.1 _ hp).2.2.1⟩

/-- The pattern of a slash alone has no segments, and nothing is no pattern. -/
theorem parse_spelled_slash : ∃ p, parse "/" = .ok p ∧ ∀ q, parse p.spelled ≠ .ok q := by
  refine ⟨⟨"/", []⟩, by decide, fun q => ?_⟩
  have hnone : parse (spelled ⟨"/", []⟩) = .error (.missingLeadingSlash "") := by decide
  simp [hnone]

end Pattern

end Exchange
