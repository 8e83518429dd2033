-- SUMMARY: Values that are nested too deep are written, and cannot be read.
import Exchange.Proofs.Data.Json
import Exchange.Proofs.Data.Protobuf

/-!
# Values too deep to be read

Printers have no limit, and readers stop at a depth. A value that is nested
deeper than the reader goes is refused, wherever its deepest place lies: what
stands before that place is read, and the refusal is handed up from there.
-/

namespace Exchange

/-! ## In text -/

namespace Json

section Steps

variable {fuel depth : Nat} {cs : List Char}

theorem readValue_bracket_zero : readValue (fuel + 1) 0 ('[' :: cs) = none := by
  rw [readValue, skipBlanks_cons rfl]
  rfl

theorem readValue_brace_zero : readValue (fuel + 1) 0 ('\x7b' :: cs) = none := by
  rw [readValue, skipBlanks_cons rfl]
  rfl

theorem readItems_none (h : readValue fuel depth cs = none) : readItems (fuel + 1) depth cs = none := by
  rw [readItems, h]
  rfl

theorem readMembers_none (seen : List (String × Value)) (k : String) (h : readValue fuel depth cs = none) :
    readMembers (fuel + 1) depth seen (printText k ++ ':' :: cs) = none := by
  have hkey (cs : List Char) : skipBlanks ('"' :: cs) = '"' :: cs := skipBlanks_cons rfl cs
  have hcolon : skipBlanks (':' :: cs) = ':' :: cs := skipBlanks_cons rfl cs
  rw [printText_append, readMembers, hkey]
  simp only [readText_printText, Option.bind_eq_bind, Option.bind_some, hcolon, h, Option.bind_none]

end Steps

mutual

theorem readValue_too_deep (v : Value) {fuel depth : Nat} (rest : List Char)
    (hf : (print v).length ≤ fuel) (hd : depth < v.nesting) :
    readValue fuel depth (print v ++ rest) = none := by
  cases fuel with
  | zero => rw [readValue]
  | succ fuel =>
    match v with
    | .null | .bool _ | .number _ | .text _ => exact absurd hd (Nat.not_lt_zero _)
    | .list items =>
      simp only [print, List.cons_append, List.append_assoc, List.nil_append, List.length_cons,
        List.length_append, List.length_nil] at hf ⊢
      simp only [Value.nesting] at hd
      cases depth with
      | zero => exact readValue_bracket_zero
      | succ depth =>
        match items with
        | [] => exact absurd hd (by simp [Value.nesting.itemsNesting])
        | w :: items =>
          obtain ⟨c, cs, htext, hblank, hc⟩ := printItems_head w items
          have hcs : printItems (w :: items) ++ ']' :: rest = c :: (cs ++ ']' :: rest) := by
            rw [htext]
            rfl
          have hitems : readItems fuel depth (printItems (w :: items) ++ ']' :: rest) = none :=
            readItems_too_deep w items fuel rest (by omega) (by omega)
          rw [readValue_bracket hcs hblank hc, hitems]
          rfl
    | .object members =>
      simp only [print, List.cons_append, List.append_assoc, List.nil_append, List.length_cons,
        List.length_append, List.length_nil] at hf ⊢
      simp only [Value.nesting] at hd
      cases depth with
      | zero => exact readValue_brace_zero
      | succ depth =>
        match members with
        | [] => exact absurd hd (by simp [Value.nesting.membersNesting])
        | m :: members =>
          obtain ⟨cs, htext⟩ := printMembers_head m members
          have hcs : printMembers (m :: members) ++ '\x7d' :: rest = '"' :: (cs ++ '\x7d' :: rest) := by
            rw [htext]
            rfl
          have hmembers : readMembers fuel depth [] (printMembers (m :: members) ++ '\x7d' :: rest) = none :=
            readMembers_too_deep m members fuel [] rest (by omega) (by omega)
          rw [readValue_brace hcs, hmembers]
          rfl
termination_by fuel

/-- Either the first item is too deep, or it is read and one of the others is too deep. -/
theorem readItems_too_deep (v : Value) (items : List Value) (fuel : Nat) {depth : Nat} (rest : List Char)
    (hf : (printItems (v :: items)).length < fuel)
    (hd : depth < Value.nesting.itemsNesting (v :: items)) :
    readItems fuel depth (printItems (v :: items) ++ ']' :: rest) = none := by
  cases fuel with
  | zero => exact absurd hf (Nat.not_lt_zero _)
  | succ fuel =>
    simp only [Value.nesting.itemsNesting] at hd
    match items with
    | [] =>
      simp only [printItems] at hf ⊢
      simp only [Value.nesting.itemsNesting, Nat.max_zero] at hd
      exact readItems_none (readValue_too_deep v _ (by omega) hd)
    | w :: items =>
      simp only [printItems, List.length_append, List.length_cons] at hf
      simp only [printItems, List.append_assoc, List.cons_append]
      by_cases hv : v.nesting ≤ depth
      · rw [readItems_more (readValue_print v (by omega) hv (stops_cons _ (by decide))),
          readItems_too_deep w items fuel rest (by omega) (by omega)]
        rfl
      · exact readItems_none (readValue_too_deep v _ (by omega) (Nat.lt_of_not_le hv))
termination_by fuel

theorem readMembers_too_deep (m : String × Value) (members : List (String × Value)) (fuel : Nat) {depth : Nat}
    (seen : List (String × Value)) (rest : List Char)
    (hf : (printMembers (m :: members)).length < fuel)
    (hd : depth < Value.nesting.membersNesting (m :: members)) :
    readMembers fuel depth seen (printMembers (m :: members) ++ '\x7d' :: rest) = none := by
  obtain ⟨k, v⟩ := m
  cases fuel with
  | zero => exact absurd hf (Nat.not_lt_zero _)
  | succ fuel =>
    simp only [Value.nesting.membersNesting] at hd
    match members with
    | [] =>
      simp only [printMembers, List.length_append, List.length_cons] at hf
      simp only [printMembers, List.append_assoc, List.cons_append]
      simp only [Value.nesting.membersNesting, Nat.max_zero] at hd
      exact readMembers_none seen k (readValue_too_deep v _ (by omega) hd)
    | n :: members =>
      simp only [printMembers, List.length_append, List.length_cons] at hf
      simp only [printMembers, List.append_assoc, List.cons_append]
      by_cases hv : v.nesting ≤ depth
      · rw [readMembers_more seen k (readValue_print v (by omega) hv (stops_cons _ (by decide)))]
        exact readMembers_too_deep n members fuel _ rest (by omega) (by omega)
      · exact readMembers_none seen k (readValue_too_deep v _ (by omega) (Nat.lt_of_not_le hv))
termination_by fuel

end

/-- A value is read from its text just when it is not nested too deep. -/
theorem ofBytes?_encode_print_isSome (v : Value) :
    (ofBytes? (Utf8.encode (print v))).isSome ↔ v.nesting ≤ maxDepth := by
  constructor
  · intro hread
    apply Decidable.byContradiction
    intro hdeep
    have hnone := readValue_too_deep v [] (Nat.le_succ (print v).length) (Nat.lt_of_not_le hdeep)
    rw [List.append_nil] at hnone
    simp [ofBytes?, Utf8.decode?_encode, parseChars?, hnone] at hread
  · intro hnest
    rw [ofBytes?_encode_print hnest]
    rfl

end Json

/-! ## In binary -/

namespace Protobuf

section Fields

variable {fuel : Nat} {sofar : Value} {body rest : Bytes}

theorem mergeValue_null_zero : mergeValue (fuel + 1) 0 sofar (block 1 [] ++ rest) = none := by
  rw [block_append, mergeValue]
  · simp [readKey_key 1 .length (by decide) (by decide)]
  · exact key_append_ne_nil _ _ _

theorem mergeValue_list_zero : mergeValue (fuel + 1) 0 sofar (block 7 body ++ rest) = none := by
  rw [block_append, mergeValue]
  · simp [readKey_key 7 .length (by decide) (by decide)]
  · exact key_append_ne_nil _ _ _

theorem mergeValue_object_zero : mergeValue (fuel + 1) 0 sofar (block 8 body ++ rest) = none := by
  rw [block_append, mergeValue]
  · simp [readKey_key 8 .length (by decide) (by decide)]
  · exact key_append_ne_nil _ _ _

theorem mergeItems_zero : mergeItems (fuel + 1) 0 (block 1 body ++ rest) = none := by
  rw [block_append, mergeItems]
  · simp [readKey_key 1 .length (by decide) (by decide)]
  · exact key_append_ne_nil _ _ _

theorem mergeMembers_zero (members : List (String × Value)) :
    mergeMembers (fuel + 1) 0 members (block 1 body ++ rest) = none := by
  rw [block_append, mergeMembers]
  · simp [readKey_key 1 .length (by decide) (by decide)]
  · exact key_append_ne_nil _ _ _

theorem mergeEntry_zero (name : String) : mergeEntry (fuel + 1) 0 name sofar (block 2 body ++ rest) = none := by
  rw [block_append, mergeEntry]
  · simp [readKey_key 2 .length (by decide) (by decide)]
  · exact key_append_ne_nil _ _ _

end Fields

mutual

theorem mergeValue_too_deep (v : Value) {fuel depth : Nat} (hf : (write v).length ≤ fuel)
    (hd : depth < v.messageDepth) (hlen : (write v).length < 2 ^ 64) :
    mergeValue fuel depth .null (write v) = none := by
  have hpos := write_length_pos v
  cases fuel with
  | zero => exact absurd hf (Nat.not_le_of_lt hpos)
  | succ fuel =>
    rw [← List.append_nil (write v)]
    match v with
    | .bool _ | .number _ | .text _ => exact absurd hd (Nat.not_lt_zero _)
    | .null =>
      obtain rfl : depth = 0 := Nat.lt_one_iff.1 hd
      exact mergeValue_null_zero
    | .list items =>
      have hblock := length_block 7 (writeItems items)
      rw [write] at hlen hf
      rw [Value.messageDepth] at hd
      cases depth with
      | zero => exact mergeValue_list_zero
      | succ depth =>
        rw [write, mergeValue_list (by omega), mergeItems_too_deep items (by omega) hd (by omega)]
        rfl
    | .object members =>
      have hblock := length_block 8 (writeMembers members)
      rw [write] at hlen hf
      rw [Value.messageDepth] at hd
      cases depth with
      | zero => exact mergeValue_object_zero
      | succ depth =>
        rw [write, mergeValue_object (by omega), mergeMembers_too_deep members _ (by omega) hd (by omega)]
        rfl
termination_by fuel

theorem mergeItems_too_deep (items : List Value) {fuel depth : Nat}
    (hf : (writeItems items).length ≤ fuel) (hd : depth + 1 < Value.messageDepth.itemsDepth items)
    (hlen : (writeItems items).length < 2 ^ 64) :
    mergeItems fuel depth (writeItems items) = none := by
  match items with
  | [] => exact absurd hd (by simp [Value.messageDepth.itemsDepth])
  | v :: items =>
    have hblock := length_block 1 (write v)
    simp only [writeItems, List.length_append] at hf hlen
    simp only [Value.messageDepth.itemsDepth] at hd
    cases fuel with
    | zero => omega
    | succ fuel =>
      rw [writeItems]
      cases depth with
      | zero => exact mergeItems_zero
      | succ depth =>
        rw [mergeItems_block (by omega)]
        by_cases hv : v.messageDepth ≤ depth
        · rw [mergeItems_too_deep items (by omega) (by omega) (by omega)]
          exact Option.bind_fun_none _
        · rw [mergeValue_too_deep v (by omega) (Nat.lt_of_not_le hv) (by omega)]
          rfl
termination_by fuel

theorem mergeMembers_too_deep (members sofar : List (String × Value)) {fuel depth : Nat}
    (hf : (writeMembers members).length ≤ fuel)
    (hd : depth + 1 < Value.messageDepth.membersDepth members)
    (hlen : (writeMembers members).length < 2 ^ 64) :
    mergeMembers fuel depth sofar (writeMembers members) = none := by
  match members with
  | [] => exact absurd hd (by simp [Value.messageDepth.membersDepth])
  | (k, v) :: members =>
    have hblock := length_block 1 (keyField k ++ block 2 (write v))
    have hvalue := length_block 2 (write v)
    simp only [writeMembers, List.length_append] at hf hlen hblock
    simp only [Value.messageDepth.membersDepth] at hd
    cases fuel with
    | zero => omega
    | succ fuel =>
      rw [writeMembers]
      cases depth with
      | zero => exact mergeMembers_zero sofar
      | succ depth =>
        obtain ⟨fuel', hle, hle', hkey⟩ := mergeEntry_keyField fuel depth k
          (block 2 (write v)) (by omega) (by omega)
        rw [mergeMembers_block (by simp only [List.length_append]; omega), hkey]
        cases fuel' with
        | zero => omega
        | succ fuel' =>
          rw [← List.append_nil (block 2 (write v))]
          cases depth with
          | zero =>
            rw [mergeEntry_zero]
            rfl
          | succ depth =>
            rw [mergeEntry_value (by omega)]
            by_cases hv : v.messageDepth ≤ depth
            · rw [mergeValue_write v (by omega) hv (by omega), Option.bind_some, mergeEntry_nil]
              exact mergeMembers_too_deep members _ (by omega) (by omega) (by omega)
            · rw [mergeValue_too_deep v (by omega) (Nat.lt_of_not_le hv) (by omega)]
              rfl
termination_by fuel

end

/-- A value is read from its message just when no message in it is open too deep. -/
theorem read?_write_isSome {v : Value} (hlen : (write v).length < 2 ^ 64) :
    (read? (write v)).isSome ↔ v.messageDepth ≤ maxDepth := by
  constructor
  · intro hread
    apply Decidable.byContradiction
    intro hdeep
    rw [read?, mergeValue_too_deep v (Nat.le_succ _) (Nat.lt_of_not_le hdeep) hlen] at hread
    cases hread
  · intro hdepth
    rw [read?_write hdepth hlen]
    rfl

end Protobuf

end Exchange
