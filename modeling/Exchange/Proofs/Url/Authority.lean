-- SUMMARY: Hosts are read again from their texts, and an authority of a host and a port is read as these.
import Exchange.Proofs.Url.Address
import Exchange.Proofs.Url.Normal

/-!
# Authorities

A host that has been read is a name whose characters need no encoding, or an
address. Its text in a URL, in brackets if it is an address, is taken off the
front of an authority up to the colon of the port, and read as the same host
(`readAuthority_urlText`).
-/

namespace Exchange.Url

/-! ## Clean text -/

/-- No control characters and no spaces. -/
def Visible (cs : List Char) : Prop :=
  ∀ c ∈ cs, 0x20 < c.toNat

theorem visible_append {a b : List Char} : Visible (a ++ b) ↔ Visible a ∧ Visible b :=
  List.forall_mem_append

theorem not_isControlOrSpace_of_visible {cs : List Char} (h : Visible cs) : ∀ c ∈ cs, isControlOrSpace c = false :=
  fun c hc => decide_eq_false (Nat.not_le.mpr (h c hc))

theorem dropWhile_of_visible {cs : List Char} (h : Visible cs) : cs.dropWhile isControlOrSpace = cs := by
  cases cs with
  | nil => rfl
  | cons c cs => exact List.dropWhile_cons_of_neg (by simp [not_isControlOrSpace_of_visible h c List.mem_cons_self])

theorem filter_of_visible {cs : List Char} (h : Visible cs) : cs.filter (fun c => !isTabOrNewline c) = cs := by
  refine List.filter_eq_self.mpr fun c hc => ?_
  have hc : 0x20 < c.toNat := h c hc
  simp only [isTabOrNewline, Bool.not_or, Bool.and_eq_true, Bool.not_eq_true', decide_eq_false_iff_not]
  refine ⟨⟨?_, ?_⟩, ?_⟩
  all_goals
    rintro rfl
    exact absurd hc (by decide)

/-- Nothing is taken off the front of text that starts with visible characters. -/
theorem clean_append {front : List Char} (hne : front ≠ []) (h : Visible front) (cs : List Char) :
    ∃ rest, clean (front ++ cs) = front ++ rest := by
  obtain ⟨c, front, rfl⟩ := List.exists_cons_of_ne_nil hne
  have hfirst : (c :: front ++ cs).dropWhile isControlOrSpace = c :: front ++ cs :=
    List.dropWhile_cons_of_neg (by simp [not_isControlOrSpace_of_visible h c List.mem_cons_self])
  have hreverse : Visible (c :: front).reverse := fun d hd => h d (List.mem_reverse.mp hd)
  unfold clean
  rw [hfirst, List.reverse_append, List.dropWhile_append]
  split
  · rw [dropWhile_of_visible hreverse, List.reverse_reverse, filter_of_visible h]
    exact ⟨[], (List.append_nil _).symm⟩
  · rw [List.reverse_append, List.reverse_reverse, List.filter_append, filter_of_visible h]
    exact ⟨_, rfl⟩

theorem clean_of_visible {cs : List Char} (h : Visible cs) : clean cs = cs := by
  have hreverse : Visible cs.reverse := fun d hd => h d (List.mem_reverse.mp hd)
  rw [clean, dropWhile_of_visible h, dropWhile_of_visible hreverse, List.reverse_reverse, filter_of_visible h]

/-! ## Hosts -/

/-- The characters of names: they need no encoding and are not forbidden. -/
structure InName (c : Char) : Prop where
  plain : Plain [] c
  not_forbidden : c ∉ forbiddenInHost

/-- What reading makes of a host. -/
def Host.Valid : Host → Prop
  | .name text => text ≠ [] ∧ ∀ c ∈ text, InName c
  | .address pieces => IsAddress pieces

/-- The text of a host in a URL. -/
def Host.urlText : Host → List Char
  | .name text => text
  | .address pieces => '[' :: (addressText pieces ++ [']'])

theorem inName_of_mem_percentEncode {cs : List Char} (h : cs.any (· ∈ forbiddenInHost) = false) :
    ∀ c ∈ percentEncode [] cs, InName c := by
  have hescapes : ∀ c ∈ escapes, c ∉ forbiddenInHost := List.all_iff_forall_prop.mp (by decide)
  have hcs : ∀ c ∈ cs, c ∉ forbiddenInHost := by simpa using h
  intro c hc
  refine ⟨plain_of_mem_percentEncode (by simp) hc, ?_⟩
  rcases mem_percentEncode hc with ⟨hc, -⟩ | hc
  · exact hcs c hc
  · exact hescapes c hc

/-- A host that is read is valid. -/
theorem valid_of_opaqueHost? {cs : List Char} {host : Host} (h : opaqueHost? cs = some (some host)) : host.Valid := by
  unfold opaqueHost? at h
  split at h
  · obtain ⟨inside, -, h⟩ := Option.bind_eq_some_iff.mp h
    obtain ⟨pieces, hpieces, h⟩ := Option.bind_eq_some_iff.mp h
    cases h
    exact isAddress_of_readAddress hpieces
  · split at h
    · cases h
    · rename_i hallowed
      split at h
      · cases h
      · rename_i hne
        cases h
        exact ⟨percentEncode_ne_nil [] (by simpa using hne),
          inName_of_mem_percentEncode (Bool.eq_false_iff.mpr hallowed)⟩

/-- A host is read again from its text. -/
theorem opaqueHost?_urlText {host : Host} (h : host.Valid) : opaqueHost? host.urlText = some (some host) := by
  cases host with
  | name text =>
    obtain ⟨hne, hname⟩ := h
    have hbracket : ¬ text.head? = some '[' := fun hhead =>
      (hname '[' (List.mem_of_head? hhead)).not_forbidden (by decide)
    have hallowed : ¬ text.any (· ∈ forbiddenInHost) = true := by
      simpa using fun c hc => (hname c hc).not_forbidden
    rw [Host.urlText, opaqueHost?, if_neg hbracket, if_neg hallowed, if_neg (by simpa using hne),
      percentEncode_of_plain fun c hc => (hname c hc).plain]
  | address pieces =>
    have hinside : bracketed? ('[' :: (addressText pieces ++ [']'])) = some (addressText pieces) := by
      simp [bracketed?]
    rw [Host.urlText, opaqueHost?, if_pos List.head?_cons, hinside]
    simp [readAddress_addressText h]

theorem not_inAddress : ∀ c ∈ ['/', '?', '#', '@', '[', ']'], ¬ InAddress c := by
  unfold InAddress
  exact List.all_iff_forall_prop.mp (by decide)

theorem InName.ne {c d : Char} (h : InName c) (hd : d ∈ forbiddenInHost) : c ≠ d := by
  rintro rfl
  exact h.not_forbidden hd

theorem InAddress.ne {c d : Char} (h : InAddress c) (hd : d ∈ ['/', '?', '#', '@', '[', ']']) : c ≠ d := by
  rintro rfl
  exact not_inAddress c hd h

theorem InName.space_lt {c : Char} (h : InName c) : 0x20 < c.toNat :=
  h.plain.space_lt (h.ne (by decide))

theorem InAddress.space_lt {c : Char} (h : InAddress c) : 0x20 < c.toNat := by
  rcases h with rfl | rfl | h
  · decide
  · decide
  · exact space_lt_of_isSome_hexDigit? h

theorem visible_urlText {host : Host} (h : host.Valid) : Visible host.urlText := by
  cases host with
  | name text => exact fun c hc => (h.2 c hc).space_lt
  | address pieces =>
    have hinside : Visible (addressText pieces) := fun c hc => (inAddress_of_mem_addressText hc).space_lt
    have hclose : Visible [']'] := List.forall_mem_singleton.mpr (by decide)
    exact List.forall_mem_cons.mpr ⟨by decide, visible_append.mpr ⟨hinside, hclose⟩⟩

theorem at_not_mem_urlText {host : Host} (h : host.Valid) : '@' ∉ host.urlText := by
  cases host with
  | name text => exact fun hmem => (h.2 '@' hmem).ne (by decide) rfl
  | address pieces =>
    have hinside : '@' ∉ addressText pieces := fun hmem => (inAddress_of_mem_addressText hmem).ne (by decide) rfl
    simp [Host.urlText, hinside]

/-! ## Authorities -/

theorem endsAuthority_eq_false {c : Char} (hslash : c ≠ '/') (hquery : c ≠ '?') (hfragment : c ≠ '#') :
    endsAuthority false c = false := by
  simp [endsAuthority, hslash, hquery, hfragment]

/-- The part of a host where no bracket opens or closes; a colon is taken inside of brackets. -/
theorem takeHost_append {web inBrackets : Bool} {cs : List Char}
    (h : ∀ c ∈ cs, endsAuthority web c = false ∧ (c = ':' → inBrackets = true) ∧ c ≠ '[' ∧ c ≠ ']')
    (rest : List Char) :
    takeHost web inBrackets (cs ++ rest) =
      (cs ++ (takeHost web inBrackets rest).1, (takeHost web inBrackets rest).2) := by
  induction cs with
  | nil => rfl
  | cons c cs ih =>
    obtain ⟨⟨hends, hcolon, hopen, hclose⟩, hcs⟩ := List.forall_mem_cons.mp h
    have hgoes : ¬ (endsAuthority web c || (c = ':' && !inBrackets)) = true := by
      simp only [hends, Bool.false_or, Bool.and_eq_true, decide_eq_true_eq, Bool.not_eq_true', not_and]
      exact fun hc => by simp [hcolon hc]
    rw [List.cons_append, takeHost, if_neg hgoes]
    simp only [if_neg hopen, if_neg hclose, ih hcs]
    rfl

/-- The host is taken up to the colon of the port. -/
theorem takeHost_urlText {host : Host} (h : host.Valid) (rest : List Char) :
    takeHost false false (host.urlText ++ ':' :: rest) = (host.urlText, ':' :: rest) := by
  cases host with
  | name text =>
    have hname : ∀ c ∈ text, endsAuthority false c = false ∧ (c = ':' → false = true) ∧ c ≠ '[' ∧ c ≠ ']' := by
      intro c hc
      have hne {d : Char} (hd : d ∈ forbiddenInHost) : c ≠ d := (h.2 c hc).ne hd
      exact ⟨endsAuthority_eq_false (hne (by decide)) (hne (by decide)) (hne (by decide)),
        fun hcolon => absurd hcolon (hne (by decide)), hne (by decide), hne (by decide)⟩
    have hcolon : takeHost false false (':' :: rest) = ([], ':' :: rest) := rfl
    rw [Host.urlText, takeHost_append hname, hcolon, List.append_nil]
  | address pieces =>
    have haddress : ∀ c ∈ addressText pieces,
        endsAuthority false c = false ∧ (c = ':' → true = true) ∧ c ≠ '[' ∧ c ≠ ']' := by
      intro c hc
      have hne {d : Char} (hd : d ∈ ['/', '?', '#', '@', '[', ']']) : c ≠ d := (inAddress_of_mem_addressText hc).ne hd
      exact ⟨endsAuthority_eq_false (hne (by decide)) (hne (by decide)) (hne (by decide)),
        fun _ => rfl, hne (by decide), hne (by decide)⟩
    have hopen (cs : List Char) : takeHost false false ('[' :: cs) =
        ('[' :: (takeHost false true cs).1, (takeHost false true cs).2) := rfl
    have hclose : takeHost false true (']' :: ':' :: rest) = ([']'], ':' :: rest) := rfl
    have htext : Host.urlText (.address pieces) ++ ':' :: rest =
        '[' :: (addressText pieces ++ (']' :: ':' :: rest)) := by
      simp [Host.urlText]
    rw [htext, hopen, takeHost_append haddress, hclose]
    rfl

theorem cutUser_of_not_mem {cs : List Char} (h : '@' ∉ cs) : cutUser cs = (none, cs) := by
  induction cs with
  | nil => rfl
  | cons c cs ih =>
    rw [List.mem_cons, not_or] at h
    obtain ⟨hc, hcs⟩ := h
    rw [cutUser, ih hcs]
    exact if_neg fun heq => hc heq.symm

theorem readUser_of_not_mem (web : Bool) {cs : List Char} (h : '@' ∉ cs) : readUser web cs = some (false, cs) := by
  have hauthority : '@' ∉ cs.takeWhile fun c => !endsAuthority web c :=
    fun hmem => h ((List.takeWhile_sublist _).mem hmem)
  rw [readUser]
  simp only [cutUser_of_not_mem hauthority, List.takeWhile_append_dropWhile]

theorem visible_toDigits (n : Nat) : Visible (Nat.toDigits 10 n) :=
  fun c hc => space_lt_of_isSome_hexDigit? (isSome_hexDigit?_of_isDigit (Digits.isDigit_toDigits c hc))

/-- The digits of a port are read as the port. -/
theorem readPort_toDigits {n : Nat} (h : n < 65536) : readPort (':' :: Nat.toDigits 10 n) = some (some n, []) := by
  have htake : (Nat.toDigits 10 n).takeWhile Char.isDigit = Nat.toDigits 10 n :=
    List.takeWhile_eq_self_iff.mpr Digits.isDigit_toDigits
  have hdrop : (Nat.toDigits 10 n).dropWhile Char.isDigit = [] :=
    List.dropWhile_eq_nil_iff.mpr Digits.isDigit_toDigits
  have hvalue : (Nat.toDigits 10 n).foldl (fun n c => 10 * n + (c.toNat - 48)) 0 = n := Nat.ofDigitChars_ten_toDigits
  have hport : portOf? (Nat.toDigits 10 n) = some (some n) := by
    rw [portOf?, if_neg (by simp [Nat.toDigits_ne_nil]), hvalue]
    exact if_pos h
  rw [readPort, htake, hport, hdrop]
  rfl

/-- The text of a host and a port is read as these. -/
theorem readAuthority_urlText (scheme : String) {host : Host} (h : host.Valid) {n : Nat} (hn : n < 65536) :
    readAuthority scheme (host.urlText ++ ':' :: Nat.toDigits 10 n) =
      some { scheme, host := some host, port := some n } := by
  have hat : '@' ∉ host.urlText ++ ':' :: Nat.toDigits 10 n := by
    have hdigits : '@' ∉ Nat.toDigits 10 n := fun hmem => absurd (Digits.isDigit_toDigits _ hmem) (by decide)
    simp [at_not_mem_urlText h, hdigits]
  rw [readAuthority, readUser_of_not_mem false hat]
  simp [takeHost_urlText h, opaqueHost?_urlText h, readPort_toDigits hn, pathAfterAuthority]

/-- Where no host is, the path starts. -/
theorem readAuthority_slash (scheme : String) (cs : List Char) :
    readAuthority scheme ('/' :: cs) = some { scheme, path := readPath cs } :=
  rfl

theorem pathAfterAuthority_cases (cs : List Char) :
    pathAfterAuthority cs = [] ∨ ∃ after, pathAfterAuthority cs = readPath after := by
  cases cs with
  | nil => exact .inl rfl
  | cons c cs =>
    rw [pathAfterAuthority]
    split
    · exact .inl rfl
    · split
      · exact .inr ⟨cs, rfl⟩
      · exact .inr ⟨c :: cs, rfl⟩

/-- What is read where a slash comes after the scheme. -/
structure Hierarchical (scheme : String) (url : Url) : Prop where
  scheme_eq : url.scheme = scheme
  valid : ∀ host, url.host = some host → host.Valid
  path : url.path = [] ∨ ∃ after, url.path = readPath after

theorem hierarchical_of_readAuthority {scheme : String} {cs : List Char} {url : Url}
    (h : readAuthority scheme cs = some url) : Hierarchical scheme url := by
  obtain ⟨⟨hasUser, afterUser⟩, -, h⟩ := Option.bind_eq_some_iff.mp h
  obtain ⟨host, hhost, h⟩ := Option.bind_eq_some_iff.mp h
  split at h
  · cases h
  · obtain ⟨⟨port, afterPort⟩, -, h⟩ := Option.bind_eq_some_iff.mp h
    cases h
    refine ⟨rfl, ?_, pathAfterAuthority_cases afterPort⟩
    rintro host rfl
    exact valid_of_opaqueHost? hhost

/-! ## Whole URLs -/

/-- Of the schemes with rules of their own nothing is kept. Elsewhere a path without a slash in front is opaque. -/
theorem parse?_cases {text : String} {url : Url} (h : parse? text = some url) :
    url.host = none ∧ url.path = [] ∨
      ∃ rest, readScheme (clean text.toList) = some (url.scheme, rest) ∧
        (rest.head? = some '/' ∧ Hierarchical url.scheme url ∨
          rest.head? ≠ some '/' ∧ url.host = none ∧ url.path = opaquePath rest) := by
  obtain ⟨⟨scheme, rest⟩, hscheme, h⟩ := Option.bind_eq_some_iff.mp h
  simp only at h
  split at h
  · split at h
    · cases h
      exact .inl ⟨rfl, rfl⟩
    · cases h
  split at h
  · split at h
    · cases h
      exact .inl ⟨rfl, rfl⟩
    · cases h
  right
  split at h
  · obtain ⟨rfl, hvalid, hpath⟩ := hierarchical_of_readAuthority h
    exact ⟨_, hscheme, .inl ⟨rfl, rfl, hvalid, hpath⟩⟩
  · cases h
    exact ⟨_, hscheme, .inl ⟨rfl, rfl, by simp, .inr ⟨_, rfl⟩⟩⟩
  · rename_i hslash
    cases h
    refine ⟨_, hscheme, .inr ⟨?_, rfl, rfl⟩⟩
    intro hhead
    obtain ⟨rest, rfl⟩ := List.head?_eq_some_iff.mp hhead
    exact hslash rest rfl

theorem visible_readPath (cs : List Char) : Visible (readPath cs) := by
  obtain ⟨s, segments, heq, hnormal⟩ := exists_readPath cs
  intro c hc
  have hplain : Plain encodedInPath c := plain_pathText hnormal c (heq ▸ hc)
  refine hplain.space_lt ?_
  rintro rfl
  exact hplain.not_also (by decide)

end Exchange.Url
