-- SUMMARY: The text of an endpoint is read back as the endpoint, but for relative paths of Unix sockets.
import Exchange.Endpoint
import Exchange.Proofs.Url.Authority

/-!
# Endpoints and their texts

An endpoint keeps the path of its URL, or the host and the port, and its text is
a URL made of these. A host and a port, and a path with a slash in front, are
read back as they are. A path without one was opaque in its URL; in the text two
slashes come before it, so it is read as a host and a path, or not at all.
-/

namespace Exchange.Endpoint

open Url (clean readScheme readPath Visible)

/-- The path of a Unix socket starts at the root. -/
def Rooted : Endpoint → Prop
  | .unix path => ∃ rest, path = "/" ++ rest
  | .tcp _ _ => True

/-- The text names a Unix socket, with no slash behind the colon of the scheme. -/
def NamesRelative (input : String) : Prop :=
  ∃ rest, readScheme (clean input.toList) = some ("unix", rest) ∧ rest.head? ≠ some '/'

theorem not_namesRelative {input scheme : String} {rest : List Char}
    (hread : readScheme (clean input.toList) = some (scheme, rest))
    (hrest : scheme ≠ "unix" ∨ rest.head? = some '/') : ¬ NamesRelative input := by
  rintro ⟨rest', hread', hrest'⟩
  rw [hread] at hread'
  cases hread'
  exact hrest.elim (absurd rfl) hrest'

/-! ## What is read -/

/-- The endpoints that are read from a text. -/
inductive ReadFrom (input : String) : Endpoint → Prop where
  | tcp {host : Url.Host} {port : UInt16} (hhost : host.Valid) (hinput : ¬ NamesRelative input) :
      ReadFrom input (.tcp (hostText host) port)
  | rooted {cs : List Char} (hpath : readPath cs ≠ ['/']) (hinput : ¬ NamesRelative input) :
      ReadFrom input (.unix (String.ofList (readPath cs)))
  | relative {path : List Char} (hpath : path.head? ≠ some '/') (hinput : NamesRelative input) :
      ReadFrom input (.unix (String.ofList path))

theorem readFrom_of_parse {input : String} {e : Endpoint} (h : parse input = .ok e) : ReadFrom input e := by
  unfold parse at h
  split at h
  · rename_i url hurl
    unfold ofUrl at h
    split at h
    · rename_i hscheme
      split at h
      · cases h
      rename_i hpath
      rw [not_or, List.isEmpty_iff] at hpath
      cases h
      -- the path is there, so it comes from behind a slash or is opaque
      rcases Url.parse?_cases hurl with ⟨-, hnil⟩ | ⟨rest, hread, ⟨hslash, hurl⟩ | ⟨hslash, -, hkept⟩⟩
      · exact absurd hnil hpath.1
      · rcases hurl.path with hnil | ⟨after, hafter⟩
        · exact absurd hnil hpath.1
        · rw [hafter] at hpath ⊢
          exact .rooted hpath.2 (not_namesRelative hread (.inr hslash))
      · rw [hkept]
        exact .relative (Url.head?_opaquePath hslash) ⟨rest, hscheme ▸ hread, hslash⟩
    · rename_i hunix
      split at h
      · split at h
        · rename_i host port hhost hport
          cases h
          rcases Url.parse?_cases hurl with ⟨hnone, -⟩ | ⟨rest, hread, ⟨-, hurl⟩ | ⟨-, hnone, -⟩⟩
          · exact absurd (hhost.symm.trans hnone) (by simp)
          · exact .tcp (hurl.valid host hhost) (not_namesRelative hread (.inl hunix))
          · exact absurd (hhost.symm.trans hnone) (by simp)
        · cases h
      · cases h
  · cases h

/-- A path lacks the root exactly where no slash comes after the scheme. -/
theorem rooted_iff {input : String} {e : Endpoint} (h : ReadFrom input e) : e.Rooted ↔ ¬ NamesRelative input := by
  cases h with
  | tcp _ hinput => exact iff_of_true trivial hinput
  | rooted hpath hinput =>
    rename_i cs
    obtain ⟨rest, heq, -⟩ := Url.exists_readPath_eq cs
    exact iff_of_true ⟨String.ofList rest, String.toList_injective (by simp [heq])⟩ hinput
  | relative hpath hinput =>
    refine iff_of_false ?_ (not_not_intro hinput)
    rintro ⟨rest, heq⟩
    have hlist := congrArg String.toList heq
    rw [String.toList_ofList, String.toList_append] at hlist
    exact hpath (hlist ▸ rfl)

/-! ## Texts -/

/-- The texts of endpoints have one of two schemes. -/
def IsScheme (scheme : String) : Prop :=
  scheme = "unix" ∨ scheme = "tcp"

/-- A scheme, and the mark of an authority. -/
def front (scheme : String) : List Char :=
  scheme.toList ++ "://".toList

section Front

variable {scheme : String} (hscheme : IsScheme scheme)

include hscheme

theorem visible_front : Visible (front scheme) := by
  rcases hscheme with rfl | rfl
  · exact List.all_iff_forall_prop.mp (by decide)
  · exact List.all_iff_forall_prop.mp (by decide)

theorem readScheme_front (rest : List Char) :
    readScheme (front scheme ++ rest) = some (scheme, '/' :: '/' :: rest) := by
  rcases hscheme with rfl | rfl
  · rfl
  · rfl

theorem parse?_front {input : String} {rest : List Char} (h : clean input.toList = front scheme ++ rest) :
    Url.parse? input = Url.readAuthority scheme rest := by
  rw [Url.parse?, h, readScheme_front hscheme]
  rcases hscheme with rfl | rfl
  · rfl
  · rfl

end Front

theorem toList_text_unix (path : String) : (text (.unix path)).toList = front "unix" ++ path.toList := by
  simp [Endpoint.text, front]

theorem exists_front (e : Endpoint) : ∃ scheme rest, IsScheme scheme ∧ e.text.toList = front scheme ++ rest := by
  cases e with
  | unix path => exact ⟨"unix", path.toList, .inl rfl, toList_text_unix path⟩
  | tcp host port =>
    rw [Endpoint.text]
    split
    · exact ⟨"tcp", '[' :: (host ++ ("]:" ++ toString port.toNat)).toList, .inr rfl, by simp [front]⟩
    · exact ⟨"tcp", (host ++ (":" ++ toString port.toNat)).toList, .inr rfl, by simp [front]⟩

/-- Whatever the path, two slashes come before it. -/
theorem not_namesRelative_text (e : Endpoint) : ¬ NamesRelative e.text := by
  obtain ⟨scheme, after, hscheme, htext⟩ := exists_front e
  have hne : front scheme ≠ [] := by simp [front]
  obtain ⟨rest, hclean⟩ := Url.clean_append hne (visible_front hscheme) after
  rw [← htext] at hclean
  exact not_namesRelative (hclean ▸ readScheme_front hscheme rest) (.inr rfl)

/-- The text of an endpoint is read from its authority on if there is nothing to clean. -/
theorem parse?_text {e : Endpoint} {scheme : String} {rest : List Char} (hscheme : IsScheme scheme)
    (htext : e.text.toList = front scheme ++ rest) (hrest : Visible rest) :
    Url.parse? e.text = Url.readAuthority scheme rest := by
  refine parse?_front hscheme ?_
  rw [htext]
  exact Url.clean_of_visible (Url.visible_append.mpr ⟨visible_front hscheme, hrest⟩)

theorem toList_text_tcp {host : Url.Host} (h : host.Valid) (port : UInt16) :
    (text (.tcp (hostText host) port)).toList = front "tcp" ++ (host.urlText ++ ':' :: Nat.toDigits 10 port.toNat) := by
  cases host with
  | name text =>
    have hcolon : ':' ∉ text := fun hmem => (h.2 ':' hmem).ne (by decide) rfl
    simp [Endpoint.text, front, hostText, Url.Host.urlText, hcolon]
  | address pieces =>
    have hcolon : ':' ∈ Url.addressText pieces := Url.colon_mem_addressText h
    simp [Endpoint.text, front, hostText, Url.Host.urlText, hcolon]

theorem parse_text_tcp {host : Url.Host} (h : host.Valid) (port : UInt16) :
    parse (text (.tcp (hostText host) port)) = .ok (.tcp (hostText host) port) := by
  have hport : Visible (':' :: Nat.toDigits 10 port.toNat) :=
    List.forall_mem_cons.mpr ⟨by decide, Url.visible_toDigits _⟩
  have hvisible : Visible (host.urlText ++ ':' :: Nat.toDigits 10 port.toNat) :=
    Url.visible_append.mpr ⟨Url.visible_urlText h, hport⟩
  rw [parse, parse?_text (.inr rfl) (toList_text_tcp h port) hvisible, Url.readAuthority_urlText "tcp" h port.toNat_lt]
  simp [ofUrl]

theorem parse_text_unix {cs : List Char} (h : readPath cs ≠ ['/']) :
    parse (text (.unix (String.ofList (readPath cs)))) = .ok (.unix (String.ofList (readPath cs))) := by
  obtain ⟨rest, heq, hback⟩ := Url.exists_readPath_eq cs
  have hpath : (String.ofList (readPath cs)).toList = '/' :: rest := String.toList_ofList.trans heq
  have htext : (text (.unix (String.ofList (readPath cs)))).toList = front "unix" ++ '/' :: rest := by
    rw [toList_text_unix, hpath]
  have hvisible : Visible ('/' :: rest) := heq ▸ Url.visible_readPath cs
  have hne : readPath cs ≠ [] := by simp [heq]
  rw [parse, parse?_text (.inl rfl) htext hvisible, Url.readAuthority_slash, hback]
  simp [ofUrl, h, hne]

/-- An endpoint is read back from its text exactly if its path, where it has one, starts at the root. This is so unless
the path came right after the scheme in the URL. -/
theorem parse_text_iff {input : String} {e : Endpoint} (h : parse input = .ok e) :
    (parse e.text = .ok e ↔ e.Rooted) ∧ (e.Rooted ↔ ¬ NamesRelative input) := by
  have hread := readFrom_of_parse h
  refine ⟨⟨fun hback => ?_, fun hrooted => ?_⟩, rooted_iff hread⟩
  · -- whatever is read from the text of an endpoint is rooted
    exact (rooted_iff (readFrom_of_parse hback)).mpr (not_namesRelative_text e)
  · cases hread with
    | tcp hhost _ => exact parse_text_tcp hhost _
    | rooted hpath _ => exact parse_text_unix hpath
    | relative hpath hinput => exact absurd hinput ((rooted_iff (.relative hpath hinput)).mp hrooted)

/-- A relative path is taken for a host and a path behind it. -/
theorem parse_text_relative :
    parse "unix:tmp/x" = .ok (.unix "tmp/x") ∧ text (.unix "tmp/x") = "unix://tmp/x" ∧
      parse "unix://tmp/x" = .ok (.unix "/x") ∧ parse "unix://tmp/x" ≠ .ok (.unix "tmp/x") := by
  have hread : parse "unix:tmp/x" = .ok (.unix "tmp/x") := by decide
  have htext : text (.unix "tmp/x") = "unix://tmp/x" := by decide
  have hrelative : NamesRelative "unix:tmp/x" := ⟨"tmp/x".toList, by decide⟩
  obtain ⟨hback, hrooted⟩ := parse_text_iff hread
  exact ⟨hread, htext, by decide, htext ▸ fun h => hrooted.mp (hback.mp h) hrelative⟩

end Exchange.Endpoint
