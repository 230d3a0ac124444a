import ContainerCert.Text.Cut
import ContainerCert.Text.Hex
import ContainerCert.Text.Summary

/-!
# Taking summaries apart

Where the summary of a value ends is seen from the summary itself, whatever follows it: a quoted
text ends with the first quote that is not escaped, and what has parts ends with its bracket. So two
summaries that are equal, or only go on to be equal, show the same parts.
-/

namespace ContainerCert.Text

/-- What is written of two values tells them apart, whatever follows it: where the texts go on to be
equal, the values are the same, and so is what follows. -/
def ToldApart {α : Type} (write : α → String) (first second : α) : Prop :=
  ∀ rest other : List Char, (write first).toList ++ rest = (write second).toList ++ other →
    first = second ∧ rest = other

namespace ToldApart

variable {α : Type} {write : α → String} {first second : α}

theorem refl (write : α → String) (value : α) : ToldApart write value value :=
  fun _ _ h => ⟨rfl, List.append_cancel_left h⟩

theorem eq_iff (h : ToldApart write first second) : write first = write second ↔ first = second :=
  ⟨fun heq => (h [] [] (by rw [heq])).1, congrArg write⟩

/-- What is written of values that are told apart is told apart as a text. -/
theorem shown (h : ToldApart write first second) : ToldApart id (write first) (write second) := by
  intro rest other heq
  obtain ⟨rfl, hrest⟩ := h rest other heq
  exact ⟨rfl, hrest⟩

end ToldApart

/-! ### Quoted texts -/

theorem Hex.value?_digitChar {n : Nat} (h : n < 16) : Hex.value? n.digitChar = some n := by
  have hall : ∀ n < 16, Hex.value? (Nat.digitChar n) = some n := by decide
  exact hall n h

/-- The digits of a number are read back. -/
theorem Hex.number?_hexDigits (n : Nat) : Hex.number? (hexDigits n) = some n := by
  induction n using Nat.strongRecOn with
  | ind n ih =>
    rw [hexDigits, Nat.toDigits_eq_if (by omega)]
    split
    · next hsmall => simp [number?, value?_digitChar hsmall]
    · next hlarge =>
      have hfront : number? (Nat.toDigits 16 (n / 16)) = some (n / 16) := ih (n / 16) (by omega)
      have hlast : value? (n % 16).digitChar = some (n % 16) := value?_digitChar (by omega)
      rw [number?] at hfront
      rw [number?, List.foldl_append, hfront]
      simp only [List.foldl_cons, List.foldl_nil, hlast, Option.bind_eq_bind, Option.bind_some]
      exact congrArg some (Nat.div_add_mod' n 16)

theorem closing_brace_not_mem_hexDigits (n : Nat) : '\x7d' ∉ hexDigits n := by
  induction n using Nat.strongRecOn with
  | ind n ih =>
    have hdigit (d : Nat) (hd : d < 16) : '\x7d' ≠ d.digitChar := by
      intro h
      have hvalue := Hex.value?_digitChar hd
      rw [← h] at hvalue
      cases hvalue
    rw [hexDigits, Nat.toDigits_eq_if (by omega)]
    split
    · next hsmall =>
      rw [List.mem_singleton]
      exact hdigit n hsmall
    · next hlarge =>
      rw [List.mem_append, List.mem_singleton, not_or]
      exact ⟨ih (n / 16) (by omega), hdigit _ (by omega)⟩

/-- The characters with a short escape, with the marks behind the backslash. -/
def shortEscapes : List (Char × Char) :=
  [('\x00', '0'), ('\t', 't'), ('\n', 'n'), ('\r', 'r'), ('"', '"'), ('\\', '\\')]

/-- The first character that a quoted text says, and the rest. -/
def unquoteChar? : List Char → Option (Char × List Char)
  | '\\' :: 'u' :: '\x7b' :: rest => do
    let (row, rest) ← cutFirst? '\x7d' rest
    let n ← Hex.number? row
    return (Char.ofNat n, rest)
  | '\\' :: mark :: rest => (shortEscapes.find? (·.2 == mark)).map fun (c, _) => (c, rest)
  | '"' :: _ => none
  | c :: rest => some (c, rest)
  | [] => none

theorem unquoteChar?_quoteChar (c : Char) (rest : List Char) :
    unquoteChar? (quoteChar c ++ rest) = some (c, rest) := by
  unfold quoteChar
  split
  · rfl
  · rfl
  · rfl
  · rfl
  · rfl
  · rfl
  · next hquote hslash =>
    split
    · have hcut := cutFirst?_append (closing_brace_not_mem_hexDigits c.toNat) rest
      simp [unquoteChar?, hcut, Hex.number?_hexDigits]
    · rw [List.singleton_append, unquoteChar?]
      · exact fun _ hc => absurd hc hslash
      · exact fun _ _ hc => absurd hc hslash
      · exact hquote

/-- What stands between two quotes tells the text. -/
theorem flatMap_quoteChar_inj {first second rest other : List Char}
    (h : first.flatMap quoteChar ++ '"' :: rest = second.flatMap quoteChar ++ '"' :: other) :
    first = second ∧ rest = other := by
  have hread := congrArg unquoteChar? h
  induction first generalizing second with
  | nil =>
    cases second with
    | nil => simpa using h
    | cons d second =>
      rw [List.flatMap_cons, List.append_assoc, unquoteChar?_quoteChar] at hread
      cases hread
  | cons c first ih =>
    cases second with
    | nil =>
      rw [List.flatMap_cons, List.append_assoc, unquoteChar?_quoteChar] at hread
      cases hread
    | cons d second =>
      simp only [List.flatMap_cons, List.append_assoc, unquoteChar?_quoteChar, Option.some.injEq,
        Prod.mk.injEq] at hread
      obtain ⟨rfl, hrest⟩ := hread
      obtain ⟨rfl, rfl⟩ := ih hrest (congrArg unquoteChar? hrest)
      exact ⟨rfl, rfl⟩

theorem toldApart_quote (first second : String) : ToldApart quote first second := by
  intro rest other h
  simp only [quote, String.toList_ofList, List.cons_append, List.append_assoc, List.nil_append,
    List.cons.injEq, true_and] at h
  obtain ⟨htext, hrest⟩ := flatMap_quoteChar_inj h
  exact ⟨String.toList_inj.mp htext, hrest⟩

theorem quote_inj {first second : String} : quote first = quote second ↔ first = second :=
  (toldApart_quote first second).eq_iff

/-! ### Values without parts by name -/

theorem toldApart_summaryBool (first second : Bool) : ToldApart summaryBool first second := by
  cases first <;> cases second
  case false.false => exact .refl _ _
  case true.true => exact .refl _ _
  all_goals
    intro rest other h
    cases h

theorem summaryBool_inj {first second : Bool} :
    summaryBool first = summaryBool second ↔ first = second :=
  (toldApart_summaryBool first second).eq_iff

theorem toldApart_wrapped {α : Type} {write : α → String} {first second : α}
    (h : ToldApart write first second) (name : String) :
    ToldApart (fun value => wrapped name (write value)) first second := by
  intro rest other heq
  simp only [wrapped, String.toList_append, List.append_assoc, List.append_cancel_left_eq] at heq
  obtain ⟨hsame, hrest⟩ := h _ _ heq
  exact ⟨hsame, List.append_cancel_left hrest⟩

/-! ### Lists and named parts -/

/-- The text begins with another character than the mark. -/
def BeginsOff (mark : Char) (text : String) : Prop :=
  text.toList.head?.any (· != mark) = true

instance (mark : Char) (text : String) : Decidable (BeginsOff mark text) :=
  inferInstanceAs (Decidable (_ = true))

theorem BeginsOff.exists_cons {mark : Char} {text : String} (h : BeginsOff mark text) :
    ∃ c rest, text.toList = c :: rest ∧ c ≠ mark := by
  unfold BeginsOff at h
  cases htext : text.toList with
  | nil => simp [htext] at h
  | cons c rest => exact ⟨c, rest, rfl, by simpa [htext] using h⟩

theorem toList_intercalate_cons (item : String) (items : List String) :
    (", ".intercalate (item :: items)).toList =
      item.toList ++ items.flatMap fun item => ',' :: ' ' :: item.toList := by
  induction items generalizing item with
  | nil => simp
  | cons next items ih =>
    rw [String.intercalate_cons_cons, String.toList_append, ih]
    simp

section
variable {α : Type} {write : α → String} {items others : List α} {ends : Char}
  {rest other : List Char}

/-- Where items stand behind commas, neither the items nor what follows them can be mistaken. -/
theorem flatMap_comma_inj (hends : ends ≠ ',')
    (hpairs : ∀ pair ∈ items.zip others, ToldApart write pair.1 pair.2)
    (h : (items.flatMap fun item => ',' :: ' ' :: (write item).toList) ++ ends :: rest =
      (others.flatMap fun item => ',' :: ' ' :: (write item).toList) ++ ends :: other) :
    items = others ∧ rest = other := by
  induction items generalizing others with
  | nil =>
    cases others with
    | nil => simpa using h
    | cons second others => exact absurd (List.cons.inj h).1 hends
  | cons first items ih =>
    cases others with
    | nil => exact absurd (List.cons.inj h).1.symm hends
    | cons second others =>
      rw [List.zip_cons_cons, List.forall_mem_cons] at hpairs
      simp only [List.flatMap_cons, List.cons_append, List.append_assoc, List.cons.injEq,
        true_and] at h
      obtain ⟨rfl, hbehind⟩ : first = second ∧ _ := hpairs.1 _ _ h
      obtain ⟨rfl, hrest⟩ := ih hpairs.2 hbehind
      exact ⟨rfl, hrest⟩

/-- Items between commas are told apart one by one where they begin off what ends them. -/
theorem intercalate_inj (hends : ends ≠ ',')
    (hpairs : ∀ pair ∈ items.zip others, ToldApart write pair.1 pair.2)
    (hitems : ∀ item ∈ items, BeginsOff ends (write item))
    (hothers : ∀ item ∈ others, BeginsOff ends (write item))
    (h : (", ".intercalate (items.map write)).toList ++ ends :: rest =
      (", ".intercalate (others.map write)).toList ++ ends :: other) :
    items = others ∧ rest = other := by
  -- A list without items ends where the other one has its first item.
  have hfirst {item : α} (hitem : BeginsOff ends (write item)) (items : List α)
      (rest other : List Char) : (", ".intercalate ((item :: items).map write)).toList ++ rest ≠
        ends :: other := by
    obtain ⟨c, front, hfront, hne⟩ := hitem.exists_cons
    rw [List.map_cons, toList_intercalate_cons, hfront]
    exact fun heq => hne (List.cons.inj heq).1
  cases items with
  | nil =>
    cases others with
    | nil => simpa using h
    | cons second others => exact absurd h.symm (hfirst (hothers _ List.mem_cons_self) _ _ _)
  | cons first items =>
    cases others with
    | nil => exact absurd h (hfirst (hitems _ List.mem_cons_self) _ _ _)
    | cons second others =>
      rw [List.zip_cons_cons, List.forall_mem_cons] at hpairs
      rw [List.map_cons, List.map_cons, toList_intercalate_cons, toList_intercalate_cons,
        List.append_assoc, List.append_assoc, List.flatMap_map, List.flatMap_map] at h
      obtain ⟨rfl, hbehind⟩ : first = second ∧ _ := hpairs.1 _ _ h
      obtain ⟨rfl, hrest⟩ := flatMap_comma_inj hends hpairs.2 hbehind
      exact ⟨rfl, hrest⟩

end

/-- A key with what is shown for it. -/
def keyed (entry : String × String) : String :=
  entry.1 ++ ": " ++ entry.2

/-- A key ends with the first colon, and begins off what ends the entries. -/
def IsKey (ends : Char) (key : String) : Prop :=
  ':' ∉ key.toList ∧ BeginsOff ends key

instance (ends : Char) (key : String) : Decidable (IsKey ends key) :=
  inferInstanceAs (Decidable (_ ∧ _))

section
variable {ends : Char} {first second : String × String} {entries others : List (String × String)}
  {rest other : List Char}

theorem beginsOff_keyed (h : IsKey ends first.1) : BeginsOff ends (keyed first) := by
  obtain ⟨c, front, hfront, hne⟩ := h.2.exists_cons
  simp [BeginsOff, keyed, hfront, hne]

/-- Entries are told apart where what they show for the same key is. -/
theorem toldApart_keyed (hfirst : IsKey ends first.1) (hsecond : IsKey ends second.1)
    (hshown : first.1 = second.1 → ToldApart id first.2 second.2) :
    ToldApart keyed first second := by
  intro rest other h
  have htoList (entry : String × String) (rest : List Char) : (keyed entry).toList ++ rest =
      entry.1.toList ++ ':' :: (' ' :: entry.2.toList ++ rest) := by
    simp [keyed]
  have hcut := congrArg (cutFirst? ':') h
  rw [htoList, htoList, cutFirst?_append hfirst.1, cutFirst?_append hsecond.1] at hcut
  simp only [Option.some.injEq, Prod.mk.injEq, List.cons_append, List.cons.injEq, true_and] at hcut
  have hkey : first.1 = second.1 := String.toList_inj.mp hcut.1
  obtain ⟨hsame, hrest⟩ := hshown hkey rest other hcut.2
  exact ⟨Prod.ext hkey hsame, hrest⟩

/-- Entries between commas are told apart one by one. -/
theorem entries_inj (hends : ends ≠ ',') (hentries : ∀ entry ∈ entries, IsKey ends entry.1)
    (hothers : ∀ entry ∈ others, IsKey ends entry.1)
    (hshown : ∀ pair ∈ entries.zip others,
      pair.1.1 = pair.2.1 → ToldApart id pair.1.2 pair.2.2)
    (h : (", ".intercalate (entries.map keyed)).toList ++ ends :: rest =
      (", ".intercalate (others.map keyed)).toList ++ ends :: other) :
    entries = others ∧ rest = other := by
  refine intercalate_inj hends (fun pair hpair => ?_)
    (fun entry hentry => beginsOff_keyed (hentries entry hentry))
    (fun entry hentry => beginsOff_keyed (hothers entry hentry)) h
  have hmem := List.of_mem_zip hpair
  exact toldApart_keyed (hentries _ hmem.1) (hothers _ hmem.2) (hshown pair hpair)

/-- Keyed values are told apart where what they show for the same keys is. -/
theorem toldApart_summaryMap (hentries : ∀ entry ∈ entries, IsKey '\x7d' entry.1)
    (hothers : ∀ entry ∈ others, IsKey '\x7d' entry.1)
    (hshown : ∀ pair ∈ entries.zip others,
      pair.1.1 = pair.2.1 → ToldApart id pair.1.2 pair.2.2) :
    ToldApart summaryMap entries others := by
  intro rest other h
  simp only [summaryMap, String.toList_append, List.append_assoc, List.append_cancel_left_eq] at h
  exact entries_inj (by decide) hentries hothers hshown h

/-- Values of a type are told apart where their parts are. -/
theorem toldApart_summary {name : String} (names : List String)
    (hnames : ∀ key ∈ names, IsKey ' ' key) (hentries : entries.map Prod.fst = names)
    (hothers : others.map Prod.fst = names)
    (hshown : ∀ pair ∈ entries.zip others, ToldApart id pair.1.2 pair.2.2) :
    ToldApart (summary name) entries others := by
  intro rest other h
  have hkeys {entries : List (String × String)} (heq : entries.map Prod.fst = names) :
      ∀ entry ∈ entries, IsKey ' ' entry.1 :=
    fun entry hentry => hnames _ (heq ▸ List.mem_map_of_mem hentry)
  simp only [summary, String.toList_append, List.append_assoc, List.append_cancel_left_eq] at h
  obtain ⟨hsame, hrest⟩ := entries_inj (by decide) (hkeys hentries) (hkeys hothers)
    (fun pair hpair _ => hshown pair hpair) h
  exact ⟨hsame, (List.cons.inj hrest).2⟩

end

/-- Lists are told apart where their items are. -/
theorem toldApart_summaryList {items others : List String}
    (hpairs : ∀ pair ∈ items.zip others, ToldApart id pair.1 pair.2)
    (hitems : ∀ item ∈ items, BeginsOff ']' item) (hothers : ∀ item ∈ others, BeginsOff ']' item) :
    ToldApart summaryList items others := by
  intro rest other h
  simp only [summaryList, String.toList_append, List.append_assoc, List.append_cancel_left_eq] at h
  exact intercalate_inj (by decide) hpairs hitems hothers (by simpa using h)

end ContainerCert.Text
