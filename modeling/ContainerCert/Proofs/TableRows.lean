import ContainerCert.Proofs.EngineRuns
import ContainerCert.Proofs.JunitReading
import ContainerCert.Report.Table

/-!
# The rows of the table

The table is read line by line, and a line is cut into cells at the bars that are not escaped. What
was written for a check is read back as the outcome, the name, the time and the details, as long as
the row stands on one line and no text in it brings a bar of its own. Escaping takes care of bars
and backquotes, but it leaves line ends and backslashes as they are. So a name or details with a
line end take up several lines, and a backslash before a bar escapes the backslash of the bar where
backslashes come in pairs.
-/

namespace ContainerCert.Report.Table

/-- Which bars of a line are escaped by the backslashes before them. -/
inductive Escaping where
  /-- Every bar right behind a backslash. -/
  | adjacent
  /-- A backslash escapes what is behind it, so of two backslashes the second escapes nothing. -/
  | paired

/-- Whether the next character is escaped, behind a character that is escaped or not. -/
def Escaping.next : Escaping → Bool → Char → Bool
  | .adjacent, _, c => c == '\\'
  | .paired, escaped, c => c == '\\' && !escaped

/-- The cells of a line, cut at the bars that are not escaped. -/
def cells (escaping : Escaping) : Bool → List Char → List (List Char)
  | _, [] => [[]]
  | escaped, c :: rest =>
    if c = '|' ∧ escaped = false then [] :: cells escaping false rest
    else match cells escaping (escaping.next escaped c) rest with
      | cell :: others => (c :: cell) :: others
      | [] => [[c]]

/-- What stands between two marks. -/
def between? (mark : Char) : List Char → Option (List Char)
  | [] => none
  | first :: rest =>
    match rest.reverse with
    | last :: inner => if first = mark ∧ last = mark then some inner.reverse else none
    | [] => none

/-- Take away the backslashes in front of bars and backquotes. -/
def unescape : List Char → List Char
  | [] => []
  | '\\' :: '|' :: rest => '|' :: unescape rest
  | '\\' :: '\x60' :: rest => '\x60' :: unescape rest
  | c :: rest => c :: unescape rest

/-- The milliseconds of a time. -/
def milliseconds? (time : List Char) : Option Nat :=
  match time.reverse with
  | 's' :: 'm' :: row => Junit.number? row.reverse
  | _ => none

/-- What a row says. -/
structure Row where
  outcome : String
  name : String
  elapsed : Nat
  details : String

/-- Read a line as a row: a bar, and four cells with a bar behind each. -/
def Row.ofLine? (escaping : Escaping) (line : List Char) : Option Row :=
  match cells escaping false line with
  | [[], outcome, name, elapsed, details, []] => do
    let outcome ← between? ' ' outcome
    let name ← (between? ' ' name).bind (between? '\x60')
    let elapsed ← (between? ' ' elapsed).bind milliseconds?
    let details ← between? ' ' details
    return ⟨.ofList outcome, .ofList (unescape name), elapsed, .ofList (unescape details)⟩
  | _ => none

/-- What the details of a check show: its reason, or its description where there is no reason. -/
def shownDetails (entry : Entry) : String :=
  if entry.reason.isEmpty then entry.description else entry.reason

/-- What the row of a check is to say, with a word for its outcome. -/
def Row.ofEntry (word : String) (entry : Entry) : Row :=
  ⟨word, entry.name, entry.elapsed.toNat, shownDetails entry⟩

/-- What the rows of all checks are to say. -/
def Row.ofGroups (groups : Groups) : List Row :=
  groups.passed.map (.ofEntry "PASSED") ++ groups.failed.map (.ofEntry "FAILED") ++
    groups.errors.map (.ofEntry "ERROR")

/-- The lines of a text say the same as the rows, one line for each row. -/
def Lists (escaping : Escaping) (shown : List Row) (text : String) : Prop :=
  ∃ lines, Text.splitAt '\n' text.toList = lines ++ [[]] ∧
    lines.map (Row.ofLine? escaping) = shown.map some

/-- The number of backslashes at the end of a text. -/
def trailing (text : List Char) : Nat :=
  (text.reverse.takeWhile (· == '\\')).length

/-- A text stays on its line and in its cell: it holds no line end and, where backslashes come in
pairs, no bar behind an odd number of backslashes. -/
def Fits (escaping : Escaping) (text : String) : Prop :=
  '\n' ∉ text.toList ∧
    (escaping = .paired →
      ∀ before after, text.toList = before ++ '|' :: after → trailing before % 2 = 0)

/-! ### Bars -/

/-- The number of bars that are not escaped. -/
def bars (escaping : Escaping) : Bool → List Char → Nat
  | _, [] => 0
  | escaped, c :: rest =>
    (if c = '|' ∧ escaped = false then 1 else 0) + bars escaping (escaping.next escaped c) rest

variable {escaping : Escaping} {escaped : Bool} {cell rest : List Char}

theorem next_bar (escaping : Escaping) (escaped : Bool) : escaping.next escaped '|' = false := by
  cases escaping <;> rfl

theorem length_cells (escaping : Escaping) (escaped : Bool) (line : List Char) :
    (cells escaping escaped line).length = bars escaping escaped line + 1 := by
  induction line generalizing escaped with
  | nil => rfl
  | cons c rest ih =>
    rw [cells, bars]
    split
    · next hbar =>
      rw [List.length_cons, ih, hbar.1, next_bar]
      omega
    · have hrest := ih (escaping.next escaped c)
      cases hcells : cells escaping (escaping.next escaped c) rest with
      | nil => rw [hcells] at hrest; cases hrest
      | cons cell others => rw [hcells] at hrest; simpa using hrest

/-- Whether the character behind a text is escaped. -/
def behind (escaping : Escaping) (escaped : Bool) (text : List Char) : Bool :=
  text.foldl escaping.next escaped

theorem bars_append (first second : List Char) :
    bars escaping escaped (first ++ second) =
      bars escaping escaped first + bars escaping (behind escaping escaped first) second := by
  induction first generalizing escaped with
  | nil => simp [bars, behind]
  | cons c first ih =>
    rw [List.cons_append, bars, bars, ih]
    simp only [behind, List.foldl_cons]
    omega

theorem bars_of_not_mem (h : '|' ∉ cell) : bars escaping escaped cell = 0 := by
  induction cell generalizing escaped with
  | nil => rfl
  | cons c cell ih =>
    rw [List.mem_cons, not_or] at h
    rw [bars, if_neg fun hbar => h.1 hbar.1.symm, ih h.2]

/-- Behind a character other than a backslash nothing is escaped. -/
theorem behind_concat {c : Char} (hne : c ≠ '\\') (text : List Char) :
    behind escaping escaped (text ++ [c]) = false := by
  rw [behind, List.foldl_append, List.foldl_cons, List.foldl_nil]
  cases escaping <;> simp [Escaping.next, hne]

/-- A cell without bars that are not escaped goes up to the next bar. -/
theorem cells_append (hbars : bars escaping escaped cell = 0)
    (hbehind : behind escaping escaped cell = false) :
    cells escaping escaped (cell ++ '|' :: rest) = cell :: cells escaping false rest := by
  induction cell generalizing escaped with
  | nil =>
    obtain rfl : escaped = false := hbehind
    rw [List.nil_append, cells, if_pos ⟨rfl, rfl⟩]
  | cons c cell ih =>
    rw [bars] at hbars
    have hplain : ¬(c = '|' ∧ escaped = false) := by
      intro hbar
      rw [if_pos hbar] at hbars
      omega
    rw [if_neg hplain] at hbars
    rw [List.cons_append, cells, if_neg hplain, ih (by omega) hbehind]

/-! ### Escaped texts -/

theorem trailing_concat (text : List Char) (c : Char) :
    trailing (text ++ [c]) = if c = '\\' then trailing text + 1 else 0 := by
  by_cases hc : c = '\\'
  · simp [trailing, hc]
  · simp [trailing, hc]

/-- A condition on the bars of a text, from its first character on. -/
theorem forall_bars_cons {c : Char} {text : List Char} {holds : List Char → Prop} :
    (∀ before after, c :: text = before ++ '|' :: after → holds before) ↔
      (c = '|' → holds []) ∧
        ∀ before after, text = before ++ '|' :: after → holds (c :: before) := by
  constructor
  · intro h
    refine ⟨?_, fun before after htext => h (c :: before) after (by rw [htext, List.cons_append])⟩
    rintro rfl
    exact h [] text rfl
  · rintro ⟨hfirst, hrest⟩ before after htext
    cases before with
    | nil => exact hfirst (List.cons.inj htext).1
    | cons d before =>
      obtain ⟨rfl, hbefore⟩ := List.cons.inj htext
      exact hrest before after hbefore

/-- A character in a cell is a bar or a backquote behind a backslash, or stands for itself. -/
theorem escapeChar_cases (c : Char) :
    (c = '|' ∨ c = '\x60') ∧ escapeChar c = ['\\', c] ∨
      c ≠ '|' ∧ c ≠ '\x60' ∧ escapeChar c = [c] := by
  unfold escapeChar
  split
  · exact .inl ⟨.inl rfl, rfl⟩
  · exact .inl ⟨.inr rfl, rfl⟩
  · next hbar hquote => exact .inr ⟨hbar, hquote, rfl⟩

/-- Where every bar behind a backslash is escaped, escaping leaves no other bar. -/
theorem bars_adjacent (escaped : Bool) (text : List Char) :
    bars .adjacent escaped (text.flatMap escapeChar) = 0 := by
  induction text generalizing escaped with
  | nil => rfl
  | cons c text ih =>
    rw [List.flatMap_cons, bars_append, ih, Nat.add_zero]
    obtain ⟨rfl | rfl, hescape⟩ | ⟨hbar, -, hescape⟩ := escapeChar_cases c
    · rw [hescape]
      rfl
    · rw [hescape]
      rfl
    · rw [hescape]
      exact bars_of_not_mem (by simpa using hbar.symm)

theorem bars_escapeChar_iff (escaped : Bool) (c : Char) :
    bars .paired escaped (escapeChar c) = 0 ↔ (c = '|' → escaped = false) := by
  obtain ⟨rfl | rfl, hescape⟩ | ⟨hbar, -, hescape⟩ := escapeChar_cases c
  · cases escaped <;> simp [hescape, bars, Escaping.next]
  · cases escaped <;> simp [hescape, bars, Escaping.next]
  · simp [hescape, bars, hbar]

theorem behind_escapeChar (seen : List Char) (c : Char) :
    behind .paired (decide (trailing seen % 2 = 1)) (escapeChar c) =
      decide (trailing (seen ++ [c]) % 2 = 1) := by
  rw [trailing_concat]
  obtain ⟨rfl | rfl, hescape⟩ | ⟨-, -, hescape⟩ := escapeChar_cases c
  · simp [hescape, behind, Escaping.next]
  · simp [hescape, behind, Escaping.next]
  · by_cases hc : c = '\\'
    · subst hc
      simp only [hescape, behind, List.foldl_cons, List.foldl_nil, Escaping.next, beq_self_eq_true,
        Bool.true_and, if_true, ← decide_not]
      exact decide_eq_decide.mpr (by omega)
    · simp [hescape, behind, Escaping.next, hc]

/-- Where backslashes come in pairs, a bar stays escaped behind an even number of them. -/
theorem bars_paired_iff (seen text : List Char) :
    bars .paired (decide (trailing seen % 2 = 1)) (text.flatMap escapeChar) = 0 ↔
      ∀ before after, text = before ++ '|' :: after → trailing (seen ++ before) % 2 = 0 := by
  -- What was seen says whether the next character is escaped, so the induction carries it along.
  induction text generalizing seen with
  | nil => simp [bars]
  | cons c text ih =>
    have hrest := ih (seen ++ [c])
    simp only [List.append_assoc, List.singleton_append] at hrest
    rw [forall_bars_cons, List.append_nil, List.flatMap_cons, bars_append, Nat.add_eq_zero_iff,
      behind_escapeChar, hrest, bars_escapeChar_iff, decide_eq_false_iff_not]
    have hparity : ¬trailing seen % 2 = 1 ↔ trailing seen % 2 = 0 := by omega
    rw [hparity]

/-- The bars of an escaped text are all escaped exactly where it fits into a cell. -/
theorem bars_escape_iff (escaping : Escaping) (text : String) :
    bars escaping false (escape text).toList = 0 ↔
      (escaping = .paired →
        ∀ before after, text.toList = before ++ '|' :: after → trailing before % 2 = 0) := by
  rw [escape, String.toList_ofList]
  cases escaping with
  | adjacent => exact iff_of_true (bars_adjacent false _) nofun
  | paired => simpa [trailing] using bars_paired_iff [] text.toList

/-- An escaped text does not begin with a bar or a backquote. -/
theorem head_escape {c : Char} {text : List Char} (h : c ∈ (text.flatMap escapeChar).head?) :
    c ≠ '|' ∧ c ≠ '\x60' := by
  cases text with
  | nil => cases h
  | cons d text =>
    rw [List.flatMap_cons] at h
    obtain ⟨-, hescape⟩ | ⟨hbar, hquote, hescape⟩ := escapeChar_cases d
    · rw [hescape] at h
      obtain rfl : '\\' = c := by simpa using h
      decide
    · rw [hescape] at h
      obtain rfl : d = c := by simpa using h
      exact ⟨hbar, hquote⟩

/-- What is escaped is read back. -/
theorem unescape_escape (text : List Char) : unescape (text.flatMap escapeChar) = text := by
  induction text with
  | nil => rfl
  | cons c text ih =>
    rw [List.flatMap_cons]
    obtain ⟨rfl | rfl, hescape⟩ | ⟨-, -, hescape⟩ := escapeChar_cases c
    · simp [hescape, unescape, ih]
    · simp [hescape, unescape, ih]
    · rw [hescape, List.singleton_append, unescape, ih]
      · rintro rest - hrest
        exact (head_escape (by rw [hrest]; rfl)).1 rfl
      · rintro rest - hrest
        exact (head_escape (by rw [hrest]; rfl)).2 rfl

/-- Escaping brings in no characters but backslashes. -/
theorem mem_escape_iff {c : Char} (hne : c ≠ '\\') {text : String} :
    c ∈ (escape text).toList ↔ c ∈ text.toList := by
  have hchar (d : Char) : c ∈ escapeChar d ↔ c = d := by
    obtain ⟨-, hescape⟩ | ⟨-, -, hescape⟩ := escapeChar_cases d <;> simp [hescape, hne]
  simp [escape, hchar]

/-! ### Rows -/

/-- A text between two marks. -/
def marked (mark : Char) (inner : List Char) : List Char :=
  [mark] ++ inner ++ [mark]

theorem between?_marked (mark : Char) (inner : List Char) :
    between? mark (marked mark inner) = some inner := by
  simp [between?, marked]

theorem mem_marked {c mark : Char} {inner : List Char} :
    c ∈ marked mark inner ↔ c = mark ∨ c ∈ inner := by
  simp only [marked, List.mem_append, List.mem_singleton]
  tauto

theorem behind_marked {mark : Char} (hslash : mark ≠ '\\') (inner : List Char) :
    behind escaping false (marked mark inner) = false :=
  behind_concat hslash _

/-- Marks bring in no bars. -/
theorem bars_marked {mark : Char} (hbar : mark ≠ '|') (hslash : mark ≠ '\\') (inner : List Char) :
    bars escaping false (marked mark inner) = bars escaping false inner := by
  have hmark : '|' ∉ [mark] := by simpa using hbar.symm
  have hbehind : behind escaping false [mark] = false := behind_concat hslash []
  rw [marked, bars_append, bars_append, hbehind, bars_of_not_mem hmark, bars_of_not_mem hmark]
  omega

/-- What the cells of a row hold between blanks. -/
def contents (outcome : Outcome) (entry : Entry) : List (List Char) :=
  [(outcomeWord outcome).toList, marked '\x60' (escape entry.name).toList,
    (toString entry.elapsed.toNat).toList ++ ['m', 's'], (escape (shownDetails entry)).toList]

/-- The row of a check without the end of its line. -/
def rowLine (outcome : Outcome) (entry : Entry) : List Char :=
  '|' :: (contents outcome entry).flatMap fun content => marked ' ' content ++ ['|']

theorem toList_row (outcome : Outcome) (entry : Entry) :
    (row outcome entry).toList = rowLine outcome entry ++ ['\n'] := by
  simp [row, rowLine, code, contents, marked, details, shownDetails]

/-- A line end in a row is one in the name or in the details. -/
theorem newline_mem_rowLine (outcome : Outcome) (entry : Entry) :
    '\n' ∈ rowLine outcome entry ↔
      '\n' ∈ entry.name.toList ∨ '\n' ∈ (shownDetails entry).toList := by
  have hword : '\n' ∉ (outcomeWord outcome).toList := by cases outcome <;> decide
  have hdigits : '\n' ∉ (toString entry.elapsed.toNat).toList := fun hmem =>
    absurd (Junit.isDigit_of_mem_toString hmem) (by decide)
  simp [rowLine, contents, mem_marked, mem_escape_iff, hword, hdigits, -Nat.toString_eq_repr]

/-- The number of bars that contents bring in themselves. -/
def ownBars (escaping : Escaping) : List (List Char) → Nat
  | [] => 0
  | content :: contents => bars escaping false content + ownBars escaping contents

/-- There is a bar behind each of the contents, besides their own. -/
theorem bars_contents (contents : List (List Char)) :
    bars escaping false (contents.flatMap fun content => marked ' ' content ++ ['|']) =
      contents.length + ownBars escaping contents := by
  induction contents with
  | nil => rfl
  | cons content contents ih =>
    have hblank : bars escaping false (marked ' ' content) = bars escaping false content :=
      bars_marked (by decide) (by decide) content
    rw [List.flatMap_cons, List.append_assoc, List.singleton_append, bars_append,
      behind_marked (by decide), bars, if_pos ⟨rfl, rfl⟩, next_bar, ih, hblank, List.length_cons,
      ownBars]
    omega

/-- Contents without bars of their own are the cells. -/
theorem cells_contents {contents : List (List Char)}
    (h : ownBars escaping contents = 0) :
    cells escaping false (contents.flatMap fun content => marked ' ' content ++ ['|']) =
      contents.map (marked ' ') ++ [[]] := by
  induction contents with
  | nil => rfl
  | cons content contents ih =>
    rw [ownBars, Nat.add_eq_zero_iff] at h
    obtain ⟨hcontent, hcontents⟩ := h
    have hbars : bars escaping false (marked ' ' content) = 0 := by
      rw [bars_marked (by decide) (by decide), hcontent]
    rw [List.flatMap_cons, List.append_assoc, List.singleton_append,
      cells_append hbars (behind_marked (by decide) content), ih hcontents]
    rfl

/-- The bars that the contents of a row have themselves are those of its name and its details. -/
theorem ownBars_contents (outcome : Outcome) (entry : Entry) :
    ownBars escaping (contents outcome entry) =
      bars escaping false (escape entry.name).toList +
        bars escaping false (escape (shownDetails entry)).toList := by
  have hword : '|' ∉ (outcomeWord outcome).toList := by cases outcome <;> decide
  have hdigits : '|' ∉ (toString entry.elapsed.toNat).toList := fun hmem =>
    absurd (Junit.isDigit_of_mem_toString hmem) (by decide)
  have helapsed : '|' ∉ (toString entry.elapsed.toNat).toList ++ ['m', 's'] := by
    rw [List.mem_append, not_or]
    exact ⟨hdigits, by decide⟩
  simp only [contents, ownBars, bars_of_not_mem hword, bars_of_not_mem helapsed,
    bars_marked (show '\x60' ≠ '|' by decide) (by decide)]
  omega

theorem milliseconds?_toString (n : Nat) :
    milliseconds? ((toString n).toList ++ ['m', 's']) = some n := by
  simp [milliseconds?, -Nat.toString_eq_repr, Junit.number?_toString]

theorem length_cells_of_ofLine? {line : List Char} {shown : Row}
    (h : Row.ofLine? escaping line = some shown) : (cells escaping false line).length = 6 := by
  unfold Row.ofLine? at h
  split at h
  · next hcells => rw [hcells]; rfl
  · cases h

/-- The row of a check is read back exactly where its texts bring in no bars. -/
theorem ofLine?_rowLine_iff (outcome : Outcome) (entry : Entry) :
    Row.ofLine? escaping (rowLine outcome entry) = some (.ofEntry (outcomeWord outcome) entry) ↔
      bars escaping false (escape entry.name).toList = 0 ∧
        bars escaping false (escape (shownDetails entry)).toList = 0 := by
  rw [← Nat.add_eq_zero_iff, ← ownBars_contents outcome entry]
  constructor
  · intro hread
    have hlength := length_cells_of_ofLine? hread
    rw [length_cells, rowLine, bars, if_pos ⟨rfl, rfl⟩, next_bar, bars_contents] at hlength
    simp only [contents, List.length_cons, List.length_nil] at hlength ⊢
    omega
  · intro hsum
    have hcells : cells escaping false (rowLine outcome entry) =
        [] :: ((contents outcome entry).map (marked ' ') ++ [[]]) := by
      rw [rowLine, cells, if_pos ⟨rfl, rfl⟩, cells_contents hsum]
    rw [Row.ofLine?, hcells]
    simp only [contents, List.map_cons, List.map_nil, List.cons_append, List.nil_append,
      between?_marked, Option.bind_eq_bind, Option.bind_some, milliseconds?_toString, escape,
      String.toList_ofList, unescape_escape, String.ofList_toList]
    rfl

/-! ### Lines -/

/-- The rows of checks, each on a line that ends. -/
def rows (tagged : List (Outcome × Entry)) : String :=
  String.join (tagged.map fun (outcome, entry) => row outcome entry)

/-- The lines of the rows are those of each row. -/
theorem splitAt_rows (tagged : List (Outcome × Entry)) :
    Text.splitAt '\n' (rows tagged).toList =
      tagged.flatMap (fun (outcome, entry) => Text.splitAt '\n' (rowLine outcome entry)) ++
        [[]] := by
  induction tagged with
  | nil => rfl
  | cons first tagged ih =>
    have hrows : (rows (first :: tagged)).toList =
        rowLine first.1 first.2 ++ '\n' :: (rows tagged).toList := by
      simp [rows, String.toList_join, toList_row]
    rw [hrows, Text.splitAt_append, ih, List.flatMap_cons, List.append_assoc]

/-- As many lines as checks are one line for each check. -/
theorem not_mem_of_length (tagged : List (Outcome × Entry))
    (h : (tagged.flatMap fun (outcome, entry) =>
      Text.splitAt '\n' (rowLine outcome entry)).length = tagged.length) :
    ∀ check ∈ tagged, '\n' ∉ rowLine check.1 check.2 := by
  have hmin (tagged : List (Outcome × Entry)) : tagged.length ≤ (tagged.flatMap fun
      (outcome, entry) => Text.splitAt '\n' (rowLine outcome entry)).length := by
    induction tagged with
    | nil => exact Nat.le_refl _
    | cons first tagged ih =>
      rw [List.flatMap_cons, List.length_append, Text.length_splitAt, List.length_cons]
      omega
  induction tagged with
  | nil => exact List.forall_mem_nil _
  | cons first tagged ih =>
    rw [List.flatMap_cons, List.length_append, Text.length_splitAt, List.length_cons] at h
    have hothers := hmin tagged
    rw [List.forall_mem_cons]
    exact ⟨List.count_eq_zero.mp (by omega), ih (by omega)⟩

/-- The texts of a check fit exactly where its row is one line that is read back. -/
theorem fits_iff (outcome : Outcome) (entry : Entry) :
    Fits escaping entry.name ∧ Fits escaping (shownDetails entry) ↔
      '\n' ∉ rowLine outcome entry ∧
        Row.ofLine? escaping (rowLine outcome entry) =
          some (.ofEntry (outcomeWord outcome) entry) := by
  rw [newline_mem_rowLine, ofLine?_rowLine_iff, bars_escape_iff, bars_escape_iff, Fits, Fits]
  tauto

/-- The lines of the rows are one row for each check exactly where all names and details fit. -/
theorem lists_rows_iff (escaping : Escaping) (tagged : List (Outcome × Entry)) :
    Lists escaping (tagged.map fun (outcome, entry) => .ofEntry (outcomeWord outcome) entry)
        (rows tagged) ↔
      ∀ check ∈ tagged, Fits escaping check.2.name ∧ Fits escaping (shownDetails check.2) := by
  have hlines (hplain : ∀ check ∈ tagged, '\n' ∉ rowLine check.1 check.2) :
      (tagged.flatMap fun (outcome, entry) => Text.splitAt '\n' (rowLine outcome entry)) =
        tagged.map fun (outcome, entry) => rowLine outcome entry := by
    rw [List.map_eq_flatMap]
    exact List.flatMap_congr fun check hmem => Text.splitAt_of_not_mem (hplain check hmem)
  constructor
  · rintro ⟨lines, hsplit, hread⟩
    rw [splitAt_rows, List.append_cancel_right_eq] at hsplit
    have hlength : lines.length = tagged.length := by
      simpa using congrArg List.length hread
    have hplain := not_mem_of_length tagged (by rw [hsplit, hlength])
    rw [← hsplit, hlines hplain, List.map_map, List.map_map, List.map_inj_left] at hread
    exact fun check hmem =>
      (fits_iff check.1 check.2).mpr ⟨hplain check hmem, hread check hmem⟩
  · intro hfits
    have hrows check hmem := (fits_iff check.1 check.2).mp (hfits check hmem)
    refine ⟨_, splitAt_rows tagged, ?_⟩
    rw [hlines fun check hmem => (hrows check hmem).1, List.map_map, List.map_map,
      List.map_inj_left]
    exact fun check hmem => (hrows check hmem).2

/-- The rows that are written are to say what the checks gave, in the order passed, failed,
errors. -/
theorem lists_tagged_iff (escaping : Escaping) (groups : Groups) :
    Lists escaping (Row.ofGroups groups) (rows groups.tagged) ↔
      ∀ entry ∈ groups.passed ++ groups.failed ++ groups.errors,
        Fits escaping entry.name ∧ Fits escaping (shownDetails entry) := by
  have hrows : Row.ofGroups groups =
      groups.tagged.map fun (outcome, entry) => .ofEntry (outcomeWord outcome) entry := by
    simp only [Row.ofGroups, Groups.tagged, List.map_append, List.map_map]
    rfl
  have hentries : groups.passed ++ groups.failed ++ groups.errors =
      groups.tagged.map Prod.snd := by
    simp [Groups.tagged, Function.comp_def]
  rw [hrows, lists_rows_iff, hentries, List.forall_mem_map]

/-- A text without line ends and backslashes fits. -/
theorem fits_of_not_mem {text : String} (hline : '\n' ∉ text.toList)
    (hslash : '\\' ∉ text.toList) : Fits escaping text := by
  refine ⟨hline, fun _ before after htext => ?_⟩
  have hbefore : '\\' ∉ before := by
    intro hmem
    rw [htext] at hslash
    exact hslash (List.mem_append_left _ hmem)
  have hrun : before.reverse.takeWhile (· == '\\') = [] := by
    cases hlast : before.reverse with
    | nil => rfl
    | cons c rest =>
      refine List.takeWhile_cons_of_neg fun hc => hbefore ?_
      rw [← beq_iff_eq.mp hc, ← List.mem_reverse, hlast]
      exact List.mem_cons_self
  rw [trailing, hrun]
  rfl

/-- What stands before the table. -/
def heading (results : Results) : String :=
  "## preflight: " ++ (if results.passed then "PASSED" else "FAILED") ++ "\n\n" ++
    "Image " ++ code results.image ++ " (platform: " ++ code results.platform ++ ", tested on: " ++
    results.testedOn ++ ")\n\n"

/-- The header of the table and the line that separates it from the rows. -/
def header : String :=
  "| Result | Check | Elapsed | Details |\n" ++ "|---|---|---|---|\n"

theorem render_eq {results : Results}
    (hsome : results.groups.passed ++ results.groups.failed ++ results.groups.errors ≠ []) :
    render results = heading results ++ header ++ rows results.groups.tagged ++ "\n" := by
  have htotal : results.groups.total ≠ 0 := by
    simpa [Groups.total, Nat.add_eq_zero_iff] using hsome
  unfold render table heading header rows
  rw [if_neg htotal]
  simp only [String.append_assoc]

/-- The summary of results with a check has the header and behind it the rows of all checks in the
order passed, failed, errors. These are one line for each check, with four cells that say the
outcome, the name, the time and the details, exactly where all names and details fit into a line and
a cell. -/
theorem rows_of_render (results : Results)
    (hsome : results.groups.passed ++ results.groups.failed ++ results.groups.errors ≠ []) :
    ∃ body, render results = heading results ++ header ++ body ++ "\n" ∧
      ∀ escaping, Lists escaping (Row.ofGroups results.groups) body ↔
        ∀ entry ∈ results.groups.passed ++ results.groups.failed ++ results.groups.errors,
          Fits escaping entry.name ∧ Fits escaping (shownDetails entry) :=
  ⟨rows results.groups.tagged, render_eq hsome,
    fun escaping => lists_tagged_iff escaping results.groups⟩

/-- The table of checks of every outcome, one of them failed for a reason with bars and
backquotes. -/
theorem rows_of_render_of_failed_check :
    let passed : Entry := ⟨"Digest", "pinned", "", 3, ""⟩
    let failed : Entry := ⟨"Labels", "", "", 1500, "no label \x60name\x60 | \x60vendor\x60"⟩
    let errored : Entry := ⟨"Layers", "few", "", 0, "no manifest"⟩
    let results : Results := ⟨Results.schemaName, "quay.io/example/app:1", "amd64", "", false,
      ⟨[passed], [failed], [errored]⟩⟩
    results.groups.passed ++ results.groups.failed ++ results.groups.errors ≠ [] ∧
      ∃ body, render results = heading results ++ header ++ body ++ "\n" ∧
        ∀ escaping, Lists escaping
          [⟨"PASSED", "Digest", 3, "pinned"⟩,
            ⟨"FAILED", "Labels", 1500, "no label \x60name\x60 | \x60vendor\x60"⟩,
            ⟨"ERROR", "Layers", 0, "no manifest"⟩] body := by
  intro passed failed errored results
  have hsome : results.groups.passed ++ results.groups.failed ++ results.groups.errors ≠ [] := by
    decide
  obtain ⟨body, hrender, hlists⟩ := rows_of_render results hsome
  refine ⟨hsome, body, hrender, fun escaping => (hlists escaping).mpr ?_⟩
  intro entry hmem
  replace hmem : entry ∈ [passed, failed, errored] := hmem
  simp only [List.mem_cons, List.not_mem_nil, or_false] at hmem
  rcases hmem with rfl | rfl | rfl
  all_goals
    exact ⟨fits_of_not_mem (by decide) (by decide), fits_of_not_mem (by decide) (by decide)⟩

/-- A line end in the name of the platform is in the details of a check of the engine, which take
up two lines. -/
theorem line_end_in_platform :
    ∃ results, Check.engine ⟨pure "", pure 0⟩ "quay.io/example/app:1"
        { Check.EngineSettings.initial with platform := "s390\nx" } Check.builtin
        ⟨pure false, some ⟨"artifacts", fun _ _ => pure "artifacts/image-reference.json"⟩⟩ () =
          (.ok results, ()) ∧
      results.groups.passed ++ results.groups.failed ++ results.groups.errors ≠ [] ∧
      ∃ body, render results = heading results ++ header ++ body ++ "\n" ∧
        ∀ escaping, ¬ Lists escaping (Row.ofGroups results.groups) body := by
  have hparse : Image.Reference.parse "quay.io/example/app:1" =
      .ok ⟨"quay.io", "example/app", some "1", none⟩ := by decide +kernel
  refine ⟨_, Check.engine_unhindered hparse _ _ _, by decide, _, render_eq (by decide), ?_⟩
  intro escaping hlists
  obtain ⟨-, hdetails⟩ := (lists_tagged_iff escaping _).mp hlists _ (List.mem_append_left _
    (List.mem_append_right _ List.mem_cons_self))
  exact hdetails.1 (by decide)

end ContainerCert.Report.Table
