import ContainerCert.Proofs.JsonTokens
import Mathlib.Data.List.DropRight

/-!
# Reading documents back

What a value is read as is laid down by its `tree`. A row of characters spells a value when the
reader takes exactly this row and makes the tree of the value of it, given enough fuel. Spellings
are put together as the forms of documents put them together: blanks may stand around items and
fields, and only a number needs what follows it to be no part of a number.
-/

namespace ContainerCert.Json

open Data (Tree)

mutual

/-- What a value is read as. -/
def tree : Json → Tree
  | .null => .null
  | .boolean value => .boolean value
  | .natural value => .natural value
  | .decimal _ _ => .garbled
  | .text value => .text value
  | .array items => .sequence (treeItems items)
  | .object fields => .map (treeFields fields) none

/-- What items are read as. -/
def treeItems : List Json → List Tree
  | [] => []
  | item :: items => item.tree :: treeItems items

/-- What fields are read as. -/
def treeFields : List (String × Json) → List (String × Tree)
  | [] => []
  | (name, value) :: fields => (name, value.tree) :: treeFields fields

end

mutual

/-- Whether all numbers of a value are natural numbers of 64 bits. -/
def Whole : Json → Prop
  | .natural value => value < UInt64.size
  | .decimal _ _ => False
  | .array items => WholeItems items
  | .object fields => WholeFields fields
  | _ => True

/-- Whether all numbers of items are natural numbers of 64 bits. -/
def WholeItems : List Json → Prop
  | [] => True
  | item :: items => item.Whole ∧ WholeItems items

/-- Whether all numbers of fields are natural numbers of 64 bits. -/
def WholeFields : List (String × Json) → Prop
  | [] => True
  | (_, value) :: fields => value.Whole ∧ WholeFields fields

end

mutual

/-- How many steps deep the reader goes for a value. -/
def cost : Json → Nat
  | .array items => 1 + costItems items
  | .object fields => 1 + costFields fields
  | _ => 1

/-- How many steps deep the reader goes for items. -/
def costItems : List Json → Nat
  | [] => 0
  | item :: items => 1 + item.cost + costItems items

/-- How many steps deep the reader goes for fields. -/
def costFields : List (String × Json) → Nat
  | [] => 0
  | (_, value) :: fields => 2 + value.cost + costFields fields

end

/-- A row of blanks. -/
def Blanks (chars : List Char) : Prop :=
  ∀ c ∈ chars, isBlank c = true

theorem blanks_nil : Blanks [] := fun _ h => nomatch h

theorem skipBlanks_append {blanks : List Char} (h : Blanks blanks) (chars : List Char) :
    skipBlanks (blanks ++ chars) = skipBlanks chars :=
  List.dropWhile_append_of_pos h

theorem skipBlanks_cons {c : Char} (h : isBlank c = false) (chars : List Char) :
    skipBlanks (c :: chars) = c :: chars := by
  rw [skipBlanks, List.dropWhile_cons_of_neg (by simp [h])]

theorem skipBlanks_skipBlanks (chars : List Char) :
    skipBlanks (skipBlanks chars) = skipBlanks chars :=
  List.dropWhile_idempotent _ _

/-- Blanks before a value do not matter. -/
theorem readValue_skipBlanks (fuel : Nat) (chars : List Char) :
    readValue fuel (skipBlanks chars) = readValue fuel chars := by
  cases fuel with
  | zero => rfl
  | succ fuel => simp only [readValue, skipBlanks_skipBlanks]

theorem readItems_skipBlanks (fuel : Nat) (chars : List Char) :
    readItems fuel (skipBlanks chars) = readItems fuel chars := by
  cases fuel with
  | zero => rfl
  | succ fuel => simp only [readItems, readValue_skipBlanks]

theorem readEntries_skipBlanks (fuel : Nat) (chars : List Char) :
    readEntries fuel (skipBlanks chars) = readEntries fuel chars := by
  cases fuel with
  | zero => rfl
  | succ fuel => simp only [readEntries, skipBlanks_skipBlanks]

/-- A row of characters that is read as a value. -/
def Spells (value : Json) (chars : List Char) : Prop :=
  ∀ fuel rest, value.cost ≤ fuel → EndsNumber rest →
    readValue fuel (chars ++ rest) = (value.tree, some rest)

/-- A row of characters that is read as the items of a sequence. -/
def SpellsItems (items : List Json) (chars : List Char) : Prop :=
  ∀ fuel rest, costItems items ≤ fuel →
    readItems fuel (chars ++ ']' :: rest) = (treeItems items, some rest)

/-- A row of characters that is read as the entries of a map. -/
def SpellsFields (fields : List (String × Json)) (chars : List Char) : Prop :=
  ∀ fuel rest, costFields fields ≤ fuel →
    readEntries fuel (chars ++ '\x7d' :: rest) = (treeFields fields, none, some rest)

/-- Every value takes a step. -/
theorem exists_fuel {value : Json} {fuel : Nat} (h : value.cost ≤ fuel) :
    ∃ less, fuel = less + 1 := by
  have hpos : 0 < value.cost := by
    cases value <;> simp only [cost] <;> omega
  exact Nat.exists_eq_succ_of_ne_zero (by omega)

theorem spells_null : Spells .null (scalar .null) := by
  intro fuel rest hfuel _
  obtain ⟨fuel, rfl⟩ := exists_fuel hfuel
  rfl

theorem spells_boolean (value : Bool) : Spells (.boolean value) (scalar (.boolean value)) := by
  intro fuel rest hfuel _
  obtain ⟨fuel, rfl⟩ := exists_fuel hfuel
  cases value <;> rfl

theorem spells_text (value : String) : Spells (.text value) (string value) := by
  intro fuel rest hfuel _
  obtain ⟨fuel, rfl⟩ := exists_fuel hfuel
  obtain ⟨body, pieces, hbody, hpieces, htext⟩ := exists_pieces_string value rest
  rw [hbody, readValue, skipBlanks_cons (by decide)]
  simp only [hpieces, htext, tree]

/-- A value that starts with a digit is read as a number. -/
theorem readValue_of_isDigit {first : Char} (h : first.isDigit = true) (fuel : Nat)
    (chars : List Char) :
    readValue (fuel + 1) (first :: chars) = match Numeral.read? (first :: chars) with
      | some (number, rest) => (number.tree, some rest)
      | none => (.unreadable, none) := by
  have hne {c : Char} (hc : c.isDigit = false) : first ≠ c := by
    rintro rfl
    rw [h] at hc
    cases hc
  have hblank : isBlank first = false := by
    simp [isBlank, hne (show Char.isDigit ' ' = false from rfl),
      hne (show Char.isDigit '\t' = false from rfl), hne (show Char.isDigit '\n' = false from rfl),
      hne (show Char.isDigit '\r' = false from rfl)]
  rw [readValue, skipBlanks_cons hblank]
  split
  case h_7 => rfl
  all_goals
    rename_i heq
    exact absurd (List.cons.inj heq).1 (hne rfl)

theorem spells_natural {value : Nat} (h : value < UInt64.size) :
    Spells (.natural value) (digits value) := by
  intro fuel rest hfuel hrest
  obtain ⟨fuel, rfl⟩ := exists_fuel hfuel
  obtain ⟨first, row, hrow⟩ := List.exists_cons_of_ne_nil (@Nat.toDigits_ne_nil value 10)
  have hread := Numeral.read?_digits value hrest
  rw [digits, hrow, List.cons_append] at hread ⊢
  rw [readValue_of_isDigit (isDigit_of_mem_digits (n := value) (by rw [digits, hrow]; simp)), hread,
    ← hrow]
  exact congrArg (·, some rest) (Numeral.tree_digits h)

/-- Blanks may stand before a value. -/
theorem Spells.after_blanks {value : Json} {chars : List Char} (h : Spells value chars)
    {blanks : List Char} (hblanks : Blanks blanks) : Spells value (blanks ++ chars) := by
  intro fuel rest hfuel hrest
  rw [List.append_assoc, ← readValue_skipBlanks, skipBlanks_append hblanks, readValue_skipBlanks]
  exact h fuel rest hfuel hrest

/-- No blank and no mark between values is a part of a number. -/
theorem endsNumber_of_head {rest : List Char}
    (h : ∀ c ∈ rest.head?, isBlank c = true ∨ c ∈ [',', ']', '\x7d']) : EndsNumber rest := by
  intro c hc
  have hends := h c hc
  simp only [isBlank, Bool.or_eq_true, beq_iff_eq, List.mem_cons, List.not_mem_nil, or_false]
    at hends
  rcases hends with (((rfl | rfl) | rfl) | rfl) | rfl | rfl | rfl <;> decide

/-- What ends an item or a field ends a number. -/
theorem endsNumber_of_mark {blanks : List Char} (hblanks : Blanks blanks) {mark : Char}
    (hmark : mark ∈ [',', ']', '\x7d']) (rest : List Char) :
    EndsNumber (blanks ++ mark :: rest) := by
  refine endsNumber_of_head fun c hc => ?_
  cases blanks with
  | nil =>
    obtain rfl : mark = c := by simpa using hc
    exact Or.inr hmark
  | cons blank blanks =>
    obtain rfl : blank = c := by simpa using hc
    exact Or.inl (hblanks blank List.mem_cons_self)

/-- A last item, with blanks behind it. -/
theorem Spells.last {item : Json} {chars : List Char} (h : Spells item chars) {blanks : List Char}
    (hblanks : Blanks blanks) : SpellsItems [item] (chars ++ blanks) := by
  intro fuel rest hfuel
  simp only [costItems] at hfuel
  obtain ⟨fuel, rfl⟩ := Nat.exists_eq_succ_of_ne_zero (n := fuel) (by omega)
  have hitem := h fuel (blanks ++ ']' :: rest) (by omega)
    (endsNumber_of_mark hblanks (by decide) rest)
  rw [List.append_assoc, readItems, hitem]
  simp only [skipBlanks_append hblanks, skipBlanks_cons (show isBlank ']' = false from rfl)]
  rfl

/-- An item before others. -/
theorem SpellsItems.cons {item : Json} {chars : List Char} (h : Spells item chars)
    {items : List Json} {others : List Char} (hothers : SpellsItems items others) :
    SpellsItems (item :: items) (chars ++ ',' :: others) := by
  intro fuel rest hfuel
  simp only [costItems] at hfuel
  obtain ⟨fuel, rfl⟩ := Nat.exists_eq_succ_of_ne_zero (n := fuel) (by omega)
  have hitem := h fuel (',' :: (others ++ ']' :: rest)) (by omega)
    (endsNumber_of_mark blanks_nil (by decide) _)
  rw [List.append_assoc, List.cons_append, readItems, hitem]
  simp only [skipBlanks_cons (show isBlank ',' = false from rfl), hothers fuel rest (by omega)]
  rfl

/-- No item starts with the end of a sequence. -/
theorem readItems_of_closing (fuel : Nat) (chars : List Char) :
    (readItems fuel (']' :: chars)).2 = none := by
  rcases fuel with _ | _ | fuel <;> rfl

/-- No entry starts with the end of a map. -/
theorem readEntries_of_closing (fuel : Nat) (chars : List Char) :
    (readEntries fuel ('\x7d' :: chars)).2.2 = none := by
  cases fuel <;> rfl

/-- Items with brackets around them. -/
theorem SpellsItems.array {items : List Json} {chars : List Char} (h : SpellsItems items chars) :
    Spells (.array items) ('[' :: chars ++ [']']) := by
  intro fuel rest hfuel _
  simp only [cost] at hfuel
  obtain ⟨fuel, rfl⟩ := Nat.exists_eq_succ_of_ne_zero (n := fuel) (by omega)
  have hitems := h fuel rest (by omega)
  rw [← readItems_skipBlanks] at hitems
  simp only [List.cons_append, List.append_assoc, List.nil_append]
  rw [readValue, skipBlanks_cons (by decide)]
  simp only
  split
  · next close hclose =>
    rw [hclose] at hitems
    have hnone := readItems_of_closing fuel close
    simp [hitems] at hnone
  · simp only [hitems, tree]

/-- Blanks and a name are read as a key, and what follows as its entry. -/
theorem readEntries_name {before : List Char} (hbefore : Blanks before) (name : String)
    (fuel : Nat) (rest : List Char) :
    readEntries (fuel + 1) (before ++ string name ++ rest) =
      ((name, (readEntry fuel rest).1) :: (readEntry fuel rest).2.1,
        (readEntry fuel rest).2.2) := by
  obtain ⟨body, pieces, hbody, hpieces, htext⟩ := exists_pieces_string name rest
  rw [List.append_assoc, hbody, readEntries, skipBlanks_append hbefore, skipBlanks_cons (by decide)]
  simp only [hpieces, htext]

/-- A last field, with blanks before it and behind it. -/
theorem Spells.lastField {value : Json} {chars : List Char} (h : Spells value chars)
    {before blanks : List Char} (hbefore : Blanks before) (hblanks : Blanks blanks)
    (name : String) :
    SpellsFields [(name, value)] (before ++ string name ++ ':' :: chars ++ blanks) := by
  intro fuel rest hfuel
  simp only [costFields] at hfuel
  obtain ⟨fuel, rfl⟩ := Nat.exists_eq_add_of_le' (show 2 ≤ fuel by omega)
  have hvalue := h fuel (blanks ++ '\x7d' :: rest) (by omega)
    (endsNumber_of_mark hblanks (by decide) rest)
  have hentry : readEntry (fuel + 1) (':' :: (chars ++ (blanks ++ '\x7d' :: rest))) =
      (value.tree, [], none, some rest) := by
    rw [readEntry, skipBlanks_cons (by decide)]
    simp only [hvalue, skipBlanks_append hblanks,
      skipBlanks_cons (show isBlank '\x7d' = false from rfl)]
  rw [List.append_assoc, List.append_assoc (before ++ string name), List.cons_append,
    readEntries_name hbefore, hentry]
  rfl

/-- A field before others, with blanks before it. -/
theorem SpellsFields.cons {value : Json} {chars : List Char} (h : Spells value chars)
    {before : List Char} (hbefore : Blanks before) (name : String)
    {fields : List (String × Json)} {others : List Char} (hothers : SpellsFields fields others) :
    SpellsFields ((name, value) :: fields)
      (before ++ string name ++ ':' :: chars ++ ',' :: others) := by
  intro fuel rest hfuel
  simp only [costFields] at hfuel
  obtain ⟨fuel, rfl⟩ := Nat.exists_eq_add_of_le' (show 2 ≤ fuel by omega)
  have hvalue := h fuel (',' :: (others ++ '\x7d' :: rest)) (by omega)
    (endsNumber_of_mark blanks_nil (by decide) _)
  have hentry : readEntry (fuel + 1) (':' :: (chars ++ ',' :: (others ++ '\x7d' :: rest))) =
      (value.tree, treeFields fields, none, some rest) := by
    rw [readEntry, skipBlanks_cons (by decide)]
    simp only [hvalue, skipBlanks_cons (show isBlank ',' = false from rfl),
      hothers fuel rest (by omega)]
  rw [List.append_assoc, List.append_assoc (before ++ string name), List.cons_append,
    List.cons_append, readEntries_name hbefore, hentry]
  rfl

/-- Fields with braces around them. -/
theorem SpellsFields.object {fields : List (String × Json)} {chars : List Char}
    (h : SpellsFields fields chars) : Spells (.object fields) ('\x7b' :: chars ++ ['\x7d']) := by
  intro fuel rest hfuel _
  simp only [cost] at hfuel
  obtain ⟨fuel, rfl⟩ := Nat.exists_eq_succ_of_ne_zero (n := fuel) (by omega)
  have hfields := h fuel rest (by omega)
  rw [← readEntries_skipBlanks] at hfields
  simp only [List.cons_append, List.append_assoc, List.nil_append]
  rw [readValue, skipBlanks_cons (by decide)]
  simp only
  split
  · next close hclose =>
    rw [hclose] at hfields
    have hnone := readEntries_of_closing fuel close
    simp [hfields] at hnone
  · simp only [hfields, tree]

theorem spells_array_nil : Spells (.array []) ['[', ']'] := by
  intro fuel rest hfuel _
  obtain ⟨fuel, rfl⟩ := exists_fuel hfuel
  rfl

theorem spells_object_nil : Spells (.object []) ['\x7b', '\x7d'] := by
  intro fuel rest hfuel _
  obtain ⟨fuel, rfl⟩ := exists_fuel hfuel
  rfl

theorem blanks_space : Blanks [' '] := by
  simp [Blanks, isBlank]

theorem blanks_newLine (level : Nat) : Blanks (newLine level) := by
  intro c hc
  rcases List.mem_cons.mp hc with rfl | hc
  · rfl
  · rw [(List.mem_replicate.mp hc).2]
    rfl

mutual

/-- The pretty form of a value spells it, at any level. -/
theorem spells_prettyAt (level : Nat) : ∀ value : Json, value.Whole →
    Spells value (prettyAt level value)
  | .null, _ => spells_null
  | .boolean value, _ => spells_boolean value
  | .natural _, h => spells_natural h
  | .decimal _ _, h => h.elim
  | .text value, _ => spells_text value
  | .array [], _ => spells_array_nil
  | .array (item :: items), h =>
    (spellsItems_prettyItems (level + 1) (item :: items) (List.cons_ne_nil _ _) h
      (blanks_newLine level)).array
  | .object [], _ => spells_object_nil
  | .object (field :: fields), h =>
    (spellsFields_prettyFields (level + 1) (field :: fields) (List.cons_ne_nil _ _) h
      (blanks_newLine level)).object

/-- Items in pretty form, with blanks behind them. -/
theorem spellsItems_prettyItems (level : Nat) : ∀ items : List Json, items ≠ [] →
    WholeItems items → ∀ {blanks : List Char}, Blanks blanks →
      SpellsItems items (prettyItems level items ++ blanks)
  | [], hne, _, _, _ => (hne rfl).elim
  | [item], _, h, _, hblanks =>
    ((spells_prettyAt level item h.1).after_blanks (blanks_newLine level)).last hblanks
  | item :: other :: items, _, h, _, hblanks => by
    have hitem := (spells_prettyAt level item h.1).after_blanks (blanks_newLine level)
    have hothers := spellsItems_prettyItems level (other :: items) (List.cons_ne_nil _ _) h.2
      hblanks
    rw [prettyItems, List.append_assoc, List.cons_append]
    · exact .cons hitem hothers
    · exact List.cons_ne_nil _ _

/-- Fields in pretty form, with blanks behind them. -/
theorem spellsFields_prettyFields (level : Nat) : ∀ fields : List (String × Json), fields ≠ [] →
    WholeFields fields → ∀ {blanks : List Char}, Blanks blanks →
      SpellsFields fields (prettyFields level fields ++ blanks)
  | [], hne, _, _, _ => (hne rfl).elim
  | [(name, value)], _, h, _, hblanks =>
    ((spells_prettyAt level value h.1).after_blanks blanks_space).lastField (blanks_newLine level)
      hblanks name
  | (name, value) :: other :: fields, _, h, _, hblanks => by
    have hvalue := (spells_prettyAt level value h.1).after_blanks blanks_space
    have hothers := spellsFields_prettyFields level (other :: fields) (List.cons_ne_nil _ _) h.2
      hblanks
    rw [prettyFields, List.append_assoc, List.cons_append]
    · exact .cons hvalue (blanks_newLine level) name hothers
    · exact List.cons_ne_nil _ _

end

/-- A value without parts has a character for its one step. -/
theorem one_le_scalar (value : Json) : 1 ≤ 3 * (scalar value).length := by
  have hpos : 0 < (scalar value).length := by
    cases value with
    | boolean value => cases value <;> simp [scalar]
    | natural value => exact Nat.length_toDigits_pos
    | decimal mantissa places =>
      simp only [scalar, decimalText, List.length_append, List.length_cons]
      omega
    | _ => simp [scalar, string]
  omega

mutual

/-- The reader goes no deeper than three steps for each character of the pretty form. -/
theorem cost_le_prettyAt (level : Nat) : ∀ value : Json,
    value.cost ≤ 3 * (prettyAt level value).length
  | .null => one_le_scalar .null
  | .boolean value => one_le_scalar (.boolean value)
  | .natural value => one_le_scalar (.natural value)
  | .decimal mantissa places => one_le_scalar (.decimal mantissa places)
  | .text value => one_le_scalar (.text value)
  | .array [] => by simp [cost, costItems, prettyAt]
  | .array (item :: items) => by
    have hitems := costItems_le_prettyItems (level + 1) (item :: items)
    simp only [cost, prettyAt, List.length_append, List.length_cons] at hitems ⊢
    omega
  | .object [] => by simp [cost, costFields, prettyAt]
  | .object (field :: fields) => by
    have hfields := costFields_le_prettyFields (level + 1) (field :: fields)
    simp only [cost, prettyAt, List.length_append, List.length_cons] at hfields ⊢
    omega

theorem costItems_le_prettyItems (level : Nat) : ∀ items : List Json,
    costItems items ≤ 3 * (prettyItems level items).length
  | [] => by simp [costItems]
  | [item] => by
    have hitem := cost_le_prettyAt level item
    simp only [costItems, prettyItems, newLine, List.length_append, List.length_cons]
    omega
  | item :: other :: items => by
    have hitem := cost_le_prettyAt level item
    have hothers := costItems_le_prettyItems level (other :: items)
    rw [costItems, prettyItems]
    · simp only [newLine, List.length_append, List.length_cons]
      omega
    · exact List.cons_ne_nil _ _

theorem costFields_le_prettyFields (level : Nat) : ∀ fields : List (String × Json),
    costFields fields ≤ 3 * (prettyFields level fields).length
  | [] => by simp [costFields]
  | [(name, value)] => by
    have hvalue := cost_le_prettyAt level value
    simp only [costFields, prettyFields, newLine, List.length_append, List.length_cons]
    omega
  | (name, value) :: other :: fields => by
    have hvalue := cost_le_prettyAt level value
    have hothers := costFields_le_prettyFields level (other :: fields)
    rw [costFields, prettyFields]
    · simp only [newLine, List.length_append, List.length_cons]
      omega
    · exact List.cons_ne_nil _ _

end

mutual

/-- The compact form of a value spells it. -/
theorem spells_compact : ∀ value : Json, value.Whole → Spells value (compact value)
  | .null, _ => spells_null
  | .boolean value, _ => spells_boolean value
  | .natural _, h => spells_natural h
  | .decimal _ _, h => h.elim
  | .text value, _ => spells_text value
  | .array [], _ => spells_array_nil
  | .array (item :: items), h =>
    (spellsItems_compactItems (item :: items) (List.cons_ne_nil _ _) h).array
  | .object [], _ => spells_object_nil
  | .object (field :: fields), h =>
    (spellsFields_compactFields (field :: fields) (List.cons_ne_nil _ _) h).object

/-- Items in compact form. -/
theorem spellsItems_compactItems : ∀ items : List Json, items ≠ [] → WholeItems items →
    SpellsItems items (compactItems items)
  | [], hne, _ => (hne rfl).elim
  | [item], _, h => by
    simpa only [compactItems, List.append_nil] using (spells_compact item h.1).last blanks_nil
  | item :: other :: items, _, h => by
    have hothers := spellsItems_compactItems (other :: items) (List.cons_ne_nil _ _) h.2
    rw [compactItems]
    · exact .cons (spells_compact item h.1) hothers
    · exact List.cons_ne_nil _ _

/-- Fields in compact form. -/
theorem spellsFields_compactFields : ∀ fields : List (String × Json), fields ≠ [] →
    WholeFields fields → SpellsFields fields (compactFields fields)
  | [], hne, _ => (hne rfl).elim
  | [(name, value)], _, h => by
    simpa only [compactFields, List.nil_append, List.append_nil] using
      (spells_compact value h.1).lastField blanks_nil blanks_nil name
  | (name, value) :: other :: fields, _, h => by
    have hothers := spellsFields_compactFields (other :: fields) (List.cons_ne_nil _ _) h.2
    rw [compactFields]
    · simpa only [List.nil_append] using
        SpellsFields.cons (spells_compact value h.1) blanks_nil name hothers
    · exact List.cons_ne_nil _ _

end

mutual

/-- The reader goes no deeper than three steps for each character of the compact form. -/
theorem cost_le_compact : ∀ value : Json, value.cost ≤ 3 * (compact value).length
  | .null => one_le_scalar .null
  | .boolean value => one_le_scalar (.boolean value)
  | .natural value => one_le_scalar (.natural value)
  | .decimal mantissa places => one_le_scalar (.decimal mantissa places)
  | .text value => one_le_scalar (.text value)
  | .array items => by
    have hitems := costItems_le_compactItems items
    simp only [cost, compact, List.length_append, List.length_cons]
    omega
  | .object fields => by
    have hfields := costFields_le_compactFields fields
    simp only [cost, compact, List.length_append, List.length_cons]
    omega

/-- The step for a last item is paid for by the bracket behind it. -/
theorem costItems_le_compactItems : ∀ items : List Json,
    costItems items ≤ 3 * (compactItems items).length + 1
  | [] => by simp [costItems]
  | [item] => by
    have hitem := cost_le_compact item
    simp only [costItems, compactItems]
    omega
  | item :: other :: items => by
    have hitem := cost_le_compact item
    have hothers := costItems_le_compactItems (other :: items)
    rw [costItems, compactItems]
    · simp only [List.length_append, List.length_cons]
      omega
    · exact List.cons_ne_nil _ _

theorem costFields_le_compactFields : ∀ fields : List (String × Json),
    costFields fields ≤ 3 * (compactFields fields).length
  | [] => by simp [costFields]
  | [(name, value)] => by
    have hvalue := cost_le_compact value
    simp only [costFields, compactFields, List.length_append, List.length_cons]
    omega
  | (name, value) :: other :: fields => by
    have hvalue := cost_le_compact value
    have hothers := costFields_le_compactFields (other :: fields)
    rw [costFields, compactFields]
    · simp only [List.length_append, List.length_cons]
      omega
    · exact List.cons_ne_nil _ _

end

/-- A value is read back from a row that spells it and is long enough for the fuel, whatever
blanks follow. -/
theorem Spells.ofChars {value : Json} {chars : List Char} (h : Spells value chars)
    (hcost : value.cost ≤ 3 * chars.length) {blanks : List Char} (hblanks : Blanks blanks) :
    Document.ofChars (chars ++ blanks) = ⟨value.tree, true⟩ := by
  have hends : EndsNumber blanks :=
    endsNumber_of_head fun c hc => Or.inl (hblanks c (List.mem_of_mem_head? hc))
  have hskip : skipBlanks blanks = [] := List.dropWhile_eq_nil_iff.mpr hblanks
  rw [Document.ofChars, h _ _ _ hends]
  · simp only [hskip, List.isEmpty_nil]
  · rw [List.length_append]
    omega

/-- A value is read back from its pretty form, whatever blanks follow. -/
theorem Document.ofChars_pretty {value : Json} (h : value.Whole) {blanks : List Char}
    (hblanks : Blanks blanks) : Document.ofChars (pretty value ++ blanks) = ⟨value.tree, true⟩ :=
  (spells_prettyAt 0 value h).ofChars (cost_le_prettyAt 0 value) hblanks

/-- A value is read back from its compact form, whatever blanks follow. -/
theorem Document.ofChars_compact {value : Json} (h : value.Whole) {blanks : List Char}
    (hblanks : Blanks blanks) : Document.ofChars (compact value ++ blanks) = ⟨value.tree, true⟩ :=
  (spells_compact value h).ofChars (cost_le_compact value) hblanks

end ContainerCert.Json
