-- SUMMARY: Percent-encoding changes nothing that is encoded already, and a normalised path is read back as it is.
import Mathlib.Data.Bool.AllAny
import Mathlib.Data.List.TakeWhile
import Exchange.Proofs.Data.Utf8
import Exchange.Proofs.Route.Paths
import Exchange.Url.Parse

/-!
# Normal paths

Reading a path percent-encodes it, cuts it into segments and resolves those that
are dots. Each of the three leaves alone what it has produced: encoded text has
only characters that are not encoded (`Plain`), and no dots are left over
(`IsNormal`). So the text of a path that has been read is read as that path.
-/

namespace Exchange.Url

/-! ## Percent-encoding -/

/-- A character that percent-encoding leaves as it is. -/
structure Plain (also : List Char) (c : Char) : Prop where
  space_le : 0x20 ≤ c.toNat
  lt_delete : c.toNat < 0x7f
  not_also : c ∉ also

theorem Plain.space_lt {also : List Char} {c : Char} (h : Plain also c) (hspace : c ≠ ' ') : 0x20 < c.toNat :=
  Nat.lt_of_le_of_ne h.space_le fun heq => hspace (Char.toNat_inj.mp heq.symm)

/-- The characters of encoded bytes. -/
def escapes : List Char :=
  "%0123456789ABCDEF".toList

theorem upperHex_mem : ∀ n < 16, upperHex n ∈ escapes := by
  decide

theorem mem_escapes_of_mem_percentByte {b : UInt8} {c : Char} (h : c ∈ percentByte b) : c ∈ escapes := by
  have hb : b.toNat < 256 := b.toNat_lt
  simp only [percentByte, List.mem_cons, List.not_mem_nil, or_false] at h
  rcases h with rfl | rfl | rfl
  · decide
  · exact upperHex_mem _ (by omega)
  · exact upperHex_mem _ (Nat.mod_lt _ (by decide))

theorem percentEncode_of_plain {also cs : List Char} (h : ∀ c ∈ cs, Plain also c) : percentEncode also cs = cs := by
  induction cs with
  | nil => rfl
  | cons c cs ih =>
    obtain ⟨hc, hcs⟩ := List.forall_mem_cons.mp h
    have hkept : ¬ (c.toNat < 0x20 ∨ 0x7f ≤ c.toNat ∨ c ∈ also) := by
      rintro (hlow | hhigh | halso)
      · exact Nat.not_lt.mpr hc.space_le hlow
      · exact Nat.not_le.mpr hc.lt_delete hhigh
      · exact hc.not_also halso
    have hrest : percentEncode also cs = cs := ih hcs
    rw [percentEncode, List.flatMap_cons, if_neg hkept]
    exact congrArg (c :: ·) hrest

/-- Encoded text starts with the first character of the text, or with an escape. -/
theorem exists_percentEncode_cons (also : List Char) (c : Char) (cs : List Char) :
    ∃ d rest, percentEncode also (c :: cs) = d :: rest ∧ (d = c ∨ d = '%') := by
  rw [percentEncode, List.flatMap_cons]
  split
  · obtain ⟨b, bytes, hb⟩ := List.exists_cons_of_ne_nil (Utf8.encodeChar_ne_nil c)
    rw [hb]
    exact ⟨'%', _, rfl, .inr rfl⟩
  · exact ⟨c, _, rfl, .inl rfl⟩

theorem percentEncode_ne_nil (also : List Char) {cs : List Char} (h : cs ≠ []) : percentEncode also cs ≠ [] := by
  obtain ⟨c, cs, rfl⟩ := List.exists_cons_of_ne_nil h
  obtain ⟨d, rest, hencoded, -⟩ := exists_percentEncode_cons also c cs
  exact hencoded ▸ List.cons_ne_nil d rest

/-- Encoded text has characters of the text that need not be encoded, and escapes. -/
theorem mem_percentEncode {also cs : List Char} {c : Char} (h : c ∈ percentEncode also cs) :
    c ∈ cs ∧ Plain also c ∨ c ∈ escapes := by
  obtain ⟨d, hd, hc⟩ := List.mem_flatMap.mp h
  split at hc
  · obtain ⟨b, -, hb⟩ := List.mem_flatMap.mp hc
    exact .inr (mem_escapes_of_mem_percentByte hb)
  · rename_i hkept
    obtain rfl := List.mem_singleton.mp hc
    simp only [not_or, Nat.not_lt, Nat.not_le] at hkept
    exact .inl ⟨hd, hkept.1, hkept.2.1, hkept.2.2⟩

section Escapes

variable {also : List Char} (halso : ∀ c ∈ escapes, c ∉ also)

include halso

theorem plain_of_mem_escapes {c : Char} (h : c ∈ escapes) : Plain also c := by
  have hrange : ∀ d ∈ escapes, 0x20 ≤ d.toNat ∧ d.toNat < 0x7f := List.all_iff_forall_prop.mp (by decide)
  exact ⟨(hrange c h).1, (hrange c h).2, halso c h⟩

theorem plain_of_mem_percentEncode {cs : List Char} {c : Char} (h : c ∈ percentEncode also cs) : Plain also c := by
  rcases mem_percentEncode h with h | h
  · exact h.2
  · exact plain_of_mem_escapes halso h

end Escapes

theorem escapes_not_encodedInPath : ∀ c ∈ escapes, c ∉ encodedInPath :=
  List.all_iff_forall_prop.mp (by decide)

/-! ## Segments -/

/-- A segment that reading leaves as it is. -/
structure IsNormal (segment : List Char) : Prop where
  plain : ∀ c ∈ segment, Plain encodedInPath c
  no_slash : '/' ∉ segment
  not_dot : isDot segment = false
  not_dotDot : isDotDot segment = false

theorem isNormal_nil : IsNormal [] :=
  ⟨by simp, by simp, by decide, by decide⟩

theorem mem_of_mem_leave {above : List (List Char)} {s : List Char} (h : s ∈ leave above) : s ∈ above := by
  unfold leave at h
  split at h
  · cases h
  · split at h
    · exact h
    · exact List.mem_cons_of_mem _ h

theorem resolve_cons_cons (above : List (List Char)) (segment next : List Char) (rest : List (List Char)) :
    resolve above (segment :: next :: rest) =
      if isDotDot segment then resolve (leave above) (next :: rest)
      else if isDot segment then resolve above (next :: rest)
      else resolve (segment :: above) (next :: rest) :=
  rfl

/-- No dots are left when they have been resolved. -/
theorem isNormal_resolve {above segments : List (List Char)} (habove : ∀ s ∈ above, IsNormal s)
    (hsegments : ∀ s ∈ segments, (∀ c ∈ s, Plain encodedInPath c) ∧ '/' ∉ s) :
    ∀ s ∈ resolve above segments, IsNormal s := by
  -- what is left of the segments above is some of them, so nothing but the empty segment at the end is new
  have hleave {above : List (List Char)} (h : ∀ s ∈ above, IsNormal s) : ∀ s ∈ leave above, IsNormal s :=
    fun s hs => h s (mem_of_mem_leave hs)
  induction segments generalizing above with
  | nil => exact fun s hs => habove s (List.mem_reverse.mp hs)
  | cons segment rest ih =>
    obtain ⟨⟨hplain, hslash⟩, hrest⟩ := List.forall_mem_cons.mp hsegments
    have hkept (hdot : ¬ isDot segment = true) (hdots : ¬ isDotDot segment = true) :
        ∀ s ∈ segment :: above, IsNormal s :=
      List.forall_mem_cons.mpr
        ⟨⟨hplain, hslash, Bool.eq_false_iff.mpr hdot, Bool.eq_false_iff.mpr hdots⟩, habove⟩
    cases rest with
    | nil =>
      rw [resolve]
      split
      · exact fun s hs => List.forall_mem_cons.mpr ⟨isNormal_nil, hleave habove⟩ s (List.mem_reverse.mp hs)
      · split
        · exact fun s hs => List.forall_mem_cons.mpr ⟨isNormal_nil, habove⟩ s (List.mem_reverse.mp hs)
        · exact fun s hs => hkept ‹_› ‹_› s (List.mem_reverse.mp hs)
    | cons next rest =>
      rw [resolve_cons_cons]
      split
      · exact ih (hleave habove) hrest
      · split
        · exact ih habove hrest
        · exact ih (hkept ‹_› ‹_›) hrest

theorem resolve_ne_nil (above : List (List Char)) {segments : List (List Char)} (h : segments ≠ []) :
    resolve above segments ≠ [] := by
  induction segments generalizing above with
  | nil => exact absurd rfl h
  | cons segment rest ih =>
    cases rest with
    | nil =>
      rw [resolve]
      split
      · simp
      · split <;> simp
    | cons next rest =>
      rw [resolve_cons_cons]
      split
      · exact ih _ (List.cons_ne_nil next rest)
      · split
        · exact ih _ (List.cons_ne_nil next rest)
        · exact ih _ (List.cons_ne_nil next rest)

/-- There is nothing to resolve in normal segments. -/
theorem resolve_of_normal {above segments : List (List Char)} (h : ∀ s ∈ segments, IsNormal s) :
    resolve above segments = above.reverse ++ segments := by
  induction segments generalizing above with
  | nil => simp [resolve]
  | cons segment rest ih =>
    obtain ⟨hsegment, hrest⟩ := List.forall_mem_cons.mp h
    cases rest with
    | nil => simp [resolve, hsegment.not_dot, hsegment.not_dotDot]
    | cons next rest =>
      rw [resolve_cons_cons, if_neg (by simp [hsegment.not_dotDot]), if_neg (by simp [hsegment.not_dot]), ih hrest]
      simp

/-! ## Paths -/

/-- A path is cut where its segments meet. -/
theorem cutAt_append_pathText {s : List Char} {segments : List (List Char)} (hs : '/' ∉ s)
    (h : ∀ t ∈ segments, '/' ∉ t) : cutAt '/' (s ++ pathText segments) = s :: segments := by
  induction segments generalizing s with
  | nil => simpa [pathText] using cutAt_of_not_mem hs
  | cons t segments ih =>
    obtain ⟨ht, hrest⟩ := List.forall_mem_cons.mp h
    have htext : pathText (t :: segments) = '/' :: (t ++ pathText segments) := rfl
    rw [htext, cutAt_append_sep, cutAt_of_not_mem hs, ih ht hrest, List.singleton_append]

/-- What is read as a path consists of normal segments. -/
theorem exists_readPath (cs : List Char) :
    ∃ s segments, readPath cs = pathText (s :: segments) ∧ ∀ t ∈ s :: segments, IsNormal t := by
  have hparts : ∀ t ∈ cutAt '/' (percentEncode encodedInPath (cs.takeWhile fun c => c ≠ '?' ∧ c ≠ '#')),
      (∀ c ∈ t, Plain encodedInPath c) ∧ '/' ∉ t :=
    fun t ht => ⟨fun c hc => plain_of_mem_percentEncode escapes_not_encodedInPath (mem_of_mem_cutAt ht hc),
      not_mem_of_mem_cutAt ht⟩
  have hnormal : ∀ t ∈ resolve [] (cutAt '/' _), IsNormal t := isNormal_resolve (by simp) hparts
  obtain ⟨s, segments, heq⟩ := List.exists_cons_of_ne_nil (resolve_ne_nil [] (cutAt_ne_nil '/' _))
  exact ⟨s, segments, congrArg pathText heq, heq ▸ hnormal⟩

theorem plain_pathText {segments : List (List Char)} (h : ∀ t ∈ segments, IsNormal t) :
    ∀ c ∈ pathText segments, Plain encodedInPath c := by
  intro c hc
  obtain ⟨t, ht, hc⟩ := List.mem_flatMap.mp hc
  rcases List.mem_cons.mp hc with rfl | hc
  · exact ⟨by decide, by decide, by decide⟩
  · exact (h t ht).plain c hc

/-- A normal path is read as it is. -/
theorem readPath_of_normal {s : List Char} {segments : List (List Char)} (h : ∀ t ∈ s :: segments, IsNormal t) :
    readPath (s ++ pathText segments) = pathText (s :: segments) := by
  obtain ⟨hs, hsegments⟩ := List.forall_mem_cons.mp h
  have hplain : ∀ c ∈ s ++ pathText segments, Plain encodedInPath c :=
    List.forall_mem_append.mpr ⟨hs.plain, plain_pathText hsegments⟩
  have htake : (s ++ pathText segments).takeWhile (fun c => c ≠ '?' ∧ c ≠ '#') = s ++ pathText segments := by
    refine List.takeWhile_eq_self_iff.mpr fun c hc => ?_
    have hkept := (hplain c hc).not_also
    simp only [decide_eq_true_eq]
    constructor
    · rintro rfl
      exact hkept (by decide)
    · rintro rfl
      exact hkept (by decide)
  have hcut := cutAt_append_pathText hs.no_slash fun t ht => (hsegments t ht).no_slash
  unfold readPath
  simp only [htake, percentEncode_of_plain hplain, hcut, resolve_of_normal h]
  rfl

/-- A path is read as itself behind its first slash. -/
theorem exists_readPath_eq (cs : List Char) : ∃ rest, readPath cs = '/' :: rest ∧ readPath rest = readPath cs := by
  obtain ⟨s, segments, heq, hnormal⟩ := exists_readPath cs
  exact ⟨s ++ pathText segments, heq, (readPath_of_normal hnormal).trans heq.symm⟩

/-- An opaque path does not start with a slash. -/
theorem head?_opaquePath {cs : List Char} (h : cs.head? ≠ some '/') : (opaquePath cs).head? ≠ some '/' := by
  cases cs with
  | nil => exact fun hnil => by cases hnil
  | cons c cs =>
    unfold opaquePath
    rw [List.takeWhile_cons]
    split
    · obtain ⟨d, rest, hencoded, hd⟩ := exists_percentEncode_cons [] c (cs.takeWhile fun c => c ≠ '?' ∧ c ≠ '#')
      rw [hencoded, List.head?_cons]
      rintro ⟨⟩
      rcases hd with rfl | hd
      · exact h rfl
      · exact absurd hd (by decide)
    · exact fun hnil => by cases hnil

end Exchange.Url
