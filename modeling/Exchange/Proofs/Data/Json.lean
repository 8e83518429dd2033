-- SUMMARY: The compact text of a value reads back as the value carried, whatever follows it.
import Exchange.Proofs.Data.Carried
import Exchange.Proofs.Data.Number
import Exchange.Proofs.Data.Utf8

/-!
# JSON text reads back

Each reader takes exactly what the printer wrote off the front of a text. A
value, the items of a list and the members of an object are read together, by
induction on the supply of steps, which the length of the text bounds; the
depth is bounded by `Value.nesting`.
-/

namespace Exchange.Json

/-! ## Strings -/

theorem hexValue?_hexDigit : ∀ n < 16, Bytes.hexValue? (Bytes.hexDigit n) = some n := by
  decide

theorem readEscapedUnit_control {c : Char} (h : c.toNat < 0x20) (rest : List Char) :
    readEscapedUnit ('0' :: '0' :: Bytes.hexDigit (c.toNat / 16) :: Bytes.hexDigit (c.toNat % 16) :: rest) =
      some (c, rest) := by
  have hhi := hexValue?_hexDigit (c.toNat / 16) (by omega)
  have hlo := hexValue?_hexDigit (c.toNat % 16) (by omega)
  have hzero : Bytes.hexValue? '0' = some 0 := rfl
  have hunit : 4096 * 0 + 256 * 0 + 16 * (c.toNat / 16) + c.toNat % 16 = c.toNat := by omega
  simp only [readEscapedUnit, readUnit, hzero, hhi, hlo, Option.bind_eq_bind, Option.bind_some, hunit]
  rw [if_pos (.inl (by omega)), Char.ofNat_toNat]

/-- A character as it stands inside a string takes one step to read. -/
theorem readChars_escape (fuel : Nat) (seen : List Char) (c : Char) (rest : List Char) :
    readChars (fuel + 1) seen (escape c ++ rest) = readChars fuel (c :: seen) rest := by
  have hescaped (e : Char) (cs : List Char) (h : readEscape (e :: cs) = some (c, rest)) :
      readChars (fuel + 1) seen ('\\' :: e :: cs) = readChars fuel (c :: seen) rest := by
    rw [readChars, if_neg (by decide), if_pos rfl, h]
    rfl
  unfold escape
  split
  · rename_i hc
    subst hc
    exact hescaped '"' rest rfl
  split
  · rename_i hc
    subst hc
    exact hescaped '\\' rest rfl
  split
  · rename_i hc
    subst hc
    exact hescaped 'b' rest rfl
  split
  · rename_i hc
    subst hc
    exact hescaped 'f' rest rfl
  split
  · rename_i hc
    subst hc
    exact hescaped 'n' rest rfl
  split
  · rename_i hc
    subst hc
    exact hescaped 'r' rest rfl
  split
  · rename_i hc
    subst hc
    exact hescaped 't' rest rfl
  split
  · rename_i hc
    exact hescaped 'u' _ (readEscapedUnit_control hc rest)
  · rename_i hquote hslash _ _ _ _ _ hcontrol
    rw [List.singleton_append, readChars, if_neg hquote, if_neg hslash, if_neg hcontrol]

theorem readChars_flatMap_escape (s rest seen : List Char) {fuel : Nat} (h : s.length < fuel) :
    readChars fuel seen (s.flatMap escape ++ '"' :: rest) = some (seen.reverse ++ s, rest) := by
  induction s generalizing seen fuel with
  | nil =>
    obtain ⟨fuel, rfl⟩ := Nat.exists_eq_succ_of_ne_zero (Nat.ne_of_gt h)
    simp [readChars]
  | cons c s ih =>
    cases fuel with
    | zero => exact absurd h (Nat.not_lt_zero _)
    | succ fuel =>
      rw [List.flatMap_cons, List.append_assoc, readChars_escape, ih _ (Nat.lt_of_succ_lt_succ h)]
      simp

theorem escape_ne_nil (c : Char) : escape c ≠ [] := by
  unfold escape
  repeat' split
  all_goals exact List.cons_ne_nil _ _

theorem length_le_flatMap_escape (s : List Char) : s.length ≤ (s.flatMap escape).length := by
  induction s with
  | nil => exact Nat.zero_le _
  | cons c s ih =>
    have := List.length_pos_iff.2 (escape_ne_nil c)
    simp only [List.flatMap_cons, List.length_cons, List.length_append]
    omega

theorem readText_printText (s : String) (rest : List Char) :
    readText (s.toList.flatMap escape ++ '"' :: rest) = some (s, rest) := by
  have hlen := length_le_flatMap_escape s.toList
  unfold readText
  rw [readChars_flatMap_escape s.toList rest [] (by simp only [List.length_append, List.length_cons]; omega)]
  simp

theorem printText_append (s : String) (rest : List Char) :
    printText s ++ rest = '"' :: (s.toList.flatMap escape ++ '"' :: rest) := by
  simp [printText, quote]

/-! ## The front of a text -/

theorem skipBlanks_cons {c : Char} (h : isBlank c = false) (cs : List Char) :
    skipBlanks (c :: cs) = c :: cs := by
  simp [skipBlanks, h]

theorem stops_cons {c : Char} (cs : List Char)
    (h : c.isDigit = false ∧ c ≠ '.' ∧ c ≠ 'e' ∧ c ≠ 'E') : Stops (c :: cs) := by
  intro d hd
  cases hd
  exact h

/-- A character that a number can start with. -/
def Leading (c : Char) : Prop :=
  c.isDigit = true ∨ c = '-'

theorem Leading.ne {c d : Char} (hc : Leading c) (hd : d.isDigit = false) (hminus : d ≠ '-') :
    c ≠ d := by
  rintro rfl
  rcases hc with hc | hc
  · rw [hd] at hc
    cases hc
  · exact hminus hc

theorem Leading.isBlank {c : Char} (hc : Leading c) : isBlank c = false := by
  have h1 : c ≠ ' ' := hc.ne rfl (by decide)
  have h2 : c ≠ '\n' := hc.ne rfl (by decide)
  have h3 : c ≠ '\t' := hc.ne rfl (by decide)
  have h4 : c ≠ '\r' := hc.ne rfl (by decide)
  simp [Json.isBlank, h1, h2, h3, h4]

theorem signed_head {l : Literal} (hl : l.Proper) (negative : Bool) :
    ∃ c cs, l.signed negative = c :: cs ∧ Leading c := by
  cases negative with
  | true => exact ⟨'-', l.chars, rfl, .inr rfl⟩
  | false =>
    cases hw : l.whole with
    | nil => exact absurd hw hl.whole_ne_nil
    | cons d ds =>
      refine ⟨d, l.chars.tail, ?_, .inl (hl.whole d (hw ▸ List.mem_cons_self))⟩
      simp [Literal.signed, Literal.chars, hw]

theorem printNumber_head (n : Number) : ∃ c cs, printNumber n = c :: cs ∧ Leading c := by
  cases n with
  | int n =>
    rw [printNumber, toList_toString]
    exact signed_head (integerLiteral_proper n) _
  | double x =>
    rw [printNumber, Double.toList_text]
    exact signed_head x.literal_proper _

/-- No value starts with a blank or with what closes a list. -/
theorem print_head (v : Value) : ∃ c cs, print v = c :: cs ∧ isBlank c = false ∧ c ≠ ']' := by
  cases v with
  | null => exact ⟨'n', _, rfl, by decide⟩
  | bool b =>
    cases b with
    | true => exact ⟨'t', _, rfl, by decide⟩
    | false => exact ⟨'f', _, rfl, by decide⟩
  | number n =>
    obtain ⟨c, cs, h, hc⟩ := printNumber_head n
    exact ⟨c, cs, h, hc.isBlank, hc.ne rfl (by decide)⟩
  | text s => exact ⟨'"', _, rfl, by decide⟩
  | list items => exact ⟨'[', _, rfl, by decide⟩
  | object members => exact ⟨'\x7b', _, rfl, by decide⟩

theorem printItems_head (v : Value) (items : List Value) :
    ∃ c cs, printItems (v :: items) = c :: cs ∧ isBlank c = false ∧ c ≠ ']' := by
  obtain ⟨c, cs, hv, hc⟩ := print_head v
  cases items with
  | nil => exact ⟨c, cs, hv, hc⟩
  | cons w items =>
    refine ⟨c, cs ++ ',' :: printItems (w :: items), ?_, hc⟩
    rw [printItems, hv]
    rfl

theorem printMembers_head (m : String × Value) (members : List (String × Value)) :
    ∃ cs, printMembers (m :: members) = '"' :: cs := by
  cases members with
  | nil => exact ⟨_, rfl⟩
  | cons _ _ => exact ⟨_, rfl⟩

theorem readValue_of_leading (fuel depth : Nat) {c : Char} (hc : Leading c) (cs : List Char) :
    readValue (fuel + 1) depth (c :: cs) = (readNumber (c :: cs)).map fun r => (.number r.1, r.2) := by
  have hne {d : Char} {ds : List Char} (h : c :: cs = d :: ds) (hd : d.isDigit = false)
      (hminus : d ≠ '-') : False :=
    hc.ne hd hminus (List.cons.inj h).1
  rw [readValue, skipBlanks_cons hc.isBlank]
  split
  · rename_i heq
    cases heq
  · rename_i heq
    exact (hne heq rfl (by decide)).elim
  · rename_i heq
    exact (hne heq rfl (by decide)).elim
  · rename_i heq
    exact (hne heq rfl (by decide)).elim
  · rename_i heq
    exact (hne heq rfl (by decide)).elim
  · rename_i heq
    exact (hne heq rfl (by decide)).elim
  · rename_i heq
    exact (hne heq rfl (by decide)).elim
  · rename_i heq
    cases heq
    cases readNumber (c :: cs) <;> rfl

/-! ## Values -/

theorem readValue_printNumber (fuel depth : Nat) (n : Number) {rest : List Char} (hr : Stops rest) :
    readValue (fuel + 1) depth (printNumber n ++ rest) = some (.number (respelled n), rest) := by
  have hread := readNumber_printNumber n hr
  obtain ⟨c, cs, h, hc⟩ := printNumber_head n
  rw [h, List.cons_append] at hread ⊢
  rw [readValue_of_leading fuel depth hc, hread]
  rfl

section Steps

variable {fuel depth : Nat} {cs more rest : List Char} {v : Value}

theorem readItems_last (h : readValue fuel depth cs = some (v, ']' :: rest)) :
    readItems (fuel + 1) depth cs = some ([v], rest) := by
  have hskip : skipBlanks (']' :: rest) = ']' :: rest := skipBlanks_cons rfl _
  rw [readItems, h]
  simp only [Option.bind_eq_bind, Option.bind_some, hskip]

theorem readItems_more (h : readValue fuel depth cs = some (v, ',' :: more)) :
    readItems (fuel + 1) depth cs = (readItems fuel depth more).map fun r => (v :: r.1, r.2) := by
  have hskip : skipBlanks (',' :: more) = ',' :: more := skipBlanks_cons rfl _
  rw [readItems, h]
  simp only [Option.bind_eq_bind, Option.bind_some, hskip]
  cases readItems fuel depth more <;> rfl

theorem readMembers_last (seen : List (String × Value)) (k : String)
    (h : readValue fuel depth cs = some (v, '\x7d' :: rest)) :
    readMembers (fuel + 1) depth seen (printText k ++ ':' :: cs) =
      some (Members.insert k v seen, rest) := by
  have hkey (cs : List Char) : skipBlanks ('"' :: cs) = '"' :: cs := skipBlanks_cons rfl cs
  have hcolon : skipBlanks (':' :: cs) = ':' :: cs := skipBlanks_cons rfl cs
  have hskip : skipBlanks ('\x7d' :: rest) = '\x7d' :: rest := skipBlanks_cons rfl rest
  rw [printText_append, readMembers, hkey]
  simp only [readText_printText, Option.bind_eq_bind, Option.bind_some, hcolon, h, hskip]

theorem readMembers_more (seen : List (String × Value)) (k : String)
    (h : readValue fuel depth cs = some (v, ',' :: more)) :
    readMembers (fuel + 1) depth seen (printText k ++ ':' :: cs) =
      readMembers fuel depth (Members.insert k v seen) more := by
  have hkey (cs : List Char) : skipBlanks ('"' :: cs) = '"' :: cs := skipBlanks_cons rfl cs
  have hcolon : skipBlanks (':' :: cs) = ':' :: cs := skipBlanks_cons rfl cs
  have hskip : skipBlanks (',' :: more) = ',' :: more := skipBlanks_cons rfl more
  rw [printText_append, readMembers, hkey]
  simp only [readText_printText, Option.bind_eq_bind, Option.bind_some, hcolon, h, hskip]

theorem readValue_bracket {c : Char} {text : List Char} (hcs : cs = c :: text)
    (hblank : isBlank c = false) (hc : c ≠ ']') :
    readValue (fuel + 1) (depth + 1) ('[' :: cs) =
      (readItems fuel depth cs).map fun r => (.list r.1, r.2) := by
  have hskip : skipBlanks ('[' :: cs) = '[' :: cs := skipBlanks_cons rfl _
  have hskip' : skipBlanks cs = cs := hcs ▸ skipBlanks_cons hblank text
  rw [readValue, hskip]
  simp only [hskip']
  split
  · exact absurd (List.cons.inj hcs).1.symm hc
  · cases readItems fuel depth cs <;> rfl

theorem readValue_brace {text : List Char} (hcs : cs = '"' :: text) :
    readValue (fuel + 1) (depth + 1) ('\x7b' :: cs) =
      (readMembers fuel depth [] cs).map fun r => (.object r.1, r.2) := by
  have hskip : skipBlanks ('\x7b' :: cs) = '\x7b' :: cs := skipBlanks_cons rfl _
  have hskip' : skipBlanks cs = cs := hcs ▸ skipBlanks_cons rfl text
  rw [readValue, hskip]
  simp only [hskip']
  split
  · cases hcs
  · cases readMembers fuel depth [] cs <;> rfl

end Steps

mutual

theorem readValue_print (v : Value) {fuel depth : Nat} {rest : List Char}
    (hf : (print v).length ≤ fuel) (hd : v.nesting ≤ depth) (hr : Stops rest) :
    readValue fuel depth (print v ++ rest) = some (v.carried respelled, rest) := by
  cases fuel with
  | zero =>
    obtain ⟨c, cs, h, -⟩ := print_head v
    rw [h] at hf
    exact absurd hf (Nat.not_succ_le_zero _)
  | succ fuel =>
    match v with
    | .null => rfl
    | .bool true => rfl
    | .bool false => rfl
    | .number n => exact readValue_printNumber fuel depth n hr
    | .text s =>
      have hskip (cs : List Char) : skipBlanks ('"' :: cs) = '"' :: cs := skipBlanks_cons rfl cs
      rw [print, printText_append, readValue, hskip]
      simp only [readText_printText, Option.bind_eq_bind, Option.bind_some, Value.carried_text]
    | .list items =>
      simp only [print, List.cons_append, List.append_assoc, List.nil_append, List.length_cons,
        List.length_append, List.length_nil] at hf ⊢
      simp only [Value.nesting] at hd
      obtain ⟨depth, rfl⟩ := Nat.exists_eq_add_of_le hd
      rw [Nat.add_assoc 1, Nat.add_comm 1]
      match items with
      | [] => rfl
      | w :: items =>
        have hitems := readItems_print w items fuel rest (by omega) (Nat.le_add_right _ depth)
        obtain ⟨c, cs, htext, hblank, hc⟩ := printItems_head w items
        have hcs : printItems (w :: items) ++ ']' :: rest = c :: (cs ++ ']' :: rest) := by
          rw [htext]
          rfl
        rw [readValue_bracket hcs hblank hc, hitems]
        rfl
    | .object members =>
      simp only [print, List.cons_append, List.append_assoc, List.nil_append, List.length_cons,
        List.length_append, List.length_nil] at hf ⊢
      simp only [Value.nesting] at hd
      obtain ⟨depth, rfl⟩ := Nat.exists_eq_add_of_le hd
      rw [Nat.add_assoc 1, Nat.add_comm 1]
      match members with
      | [] => rfl
      | m :: members =>
        have hmembers := readMembers_print m members fuel [] rest (by omega)
          (Nat.le_add_right _ depth)
        obtain ⟨cs, htext⟩ := printMembers_head m members
        have hcs : printMembers (m :: members) ++ '\x7d' :: rest = '"' :: (cs ++ '\x7d' :: rest) := by
          rw [htext]
          rfl
        rw [readValue_brace hcs, hmembers]
        rfl
termination_by fuel

theorem readItems_print (v : Value) (items : List Value) (fuel : Nat) {depth : Nat} (rest : List Char)
    (hf : (printItems (v :: items)).length < fuel)
    (hd : Value.nesting.itemsNesting (v :: items) ≤ depth) :
    readItems fuel depth (printItems (v :: items) ++ ']' :: rest) =
      some (Value.carried.carriedItems respelled (v :: items), rest) := by
  cases fuel with
  | zero => exact absurd hf (Nat.not_lt_zero _)
  | succ fuel =>
    have hv : v.nesting ≤ depth := Nat.le_trans (Nat.le_max_left _ _) hd
    match items with
    | [] =>
      exact readItems_last (readValue_print v (Nat.le_of_lt_succ hf) hv (stops_cons rest (by decide)))
    | w :: items =>
      have hitems : Value.nesting.itemsNesting (w :: items) ≤ depth :=
        Nat.le_trans (Nat.le_max_right _ _) hd
      simp only [printItems, List.length_append, List.length_cons] at hf
      simp only [printItems, List.append_assoc, List.cons_append]
      rw [readItems_more (readValue_print v (by omega) hv (stops_cons _ (by decide))),
        readItems_print w items _ rest (by omega) hitems]
      rfl
termination_by fuel

theorem readMembers_print (m : String × Value) (members : List (String × Value)) (fuel : Nat) {depth : Nat}
    (seen : List (String × Value)) (rest : List Char)
    (hf : (printMembers (m :: members)).length < fuel)
    (hd : Value.nesting.membersNesting (m :: members) ≤ depth) :
    readMembers fuel depth seen (printMembers (m :: members) ++ '\x7d' :: rest) =
      some ((Value.carried.carriedMembers respelled (m :: members)).foldl
        (fun sorted m => Members.insert m.1 m.2 sorted) seen, rest) := by
  obtain ⟨k, v⟩ := m
  cases fuel with
  | zero => exact absurd hf (Nat.not_lt_zero _)
  | succ fuel =>
    have hv : v.nesting ≤ depth := Nat.le_trans (Nat.le_max_left _ _) hd
    match members with
    | [] =>
      simp only [printMembers, List.length_append, List.length_cons] at hf
      simp only [printMembers, List.append_assoc, List.cons_append]
      exact readMembers_last seen k (readValue_print v (by omega) hv (stops_cons rest (by decide)))
    | n :: members =>
      have hmembers : Value.nesting.membersNesting (n :: members) ≤ depth :=
        Nat.le_trans (Nat.le_max_right _ _) hd
      simp only [printMembers, List.length_append, List.length_cons] at hf
      simp only [printMembers, List.append_assoc, List.cons_append]
      rw [readMembers_more seen k (readValue_print v (by omega) hv (stops_cons _ (by decide)))]
      exact readMembers_print n members _ _ rest (by omega) hmembers
termination_by fuel

end

/-- The text of a value is read as the value carried. -/
theorem parseChars?_print {v : Value} (h : v.nesting ≤ maxDepth) :
    parseChars? (print v) = some (v.carried respelled) := by
  have hread := readValue_print v (Nat.le_succ (print v).length) h stops_nil
  rw [List.append_nil] at hread
  rw [parseChars?, hread]
  rfl

theorem ofBytes?_encode_print {v : Value} (h : v.nesting ≤ maxDepth) :
    ofBytes? (Utf8.encode (print v)) = some (v.carried respelled) := by
  rw [ofBytes?, Utf8.decode?_encode]
  exact parseChars?_print h

end Exchange.Json
