import ContainerCert.Proofs.XmlGrammar

/-!
# Reading XML documents

The reader goes through a document tag by tag, with the elements that are still open, and undoes the
references in values and texts. It takes every row of characters of the grammar for the nodes that
the row spells, so no row spells two different things.
-/

namespace ContainerCert.Xml

open Text (cutFirst? cutFirst?_append cutFirst?_eq_some)

/-- What written characters stand for; none where an ampersand does not begin a reference. -/
def unescape? : List Char → Option (List Char)
  | [] => some []
  | '&' :: 'a' :: 'm' :: 'p' :: ';' :: rest => (unescape? rest).map ('&' :: ·)
  | '&' :: 'l' :: 't' :: ';' :: rest => (unescape? rest).map ('<' :: ·)
  | '&' :: 'g' :: 't' :: ';' :: rest => (unescape? rest).map ('>' :: ·)
  | '&' :: 'q' :: 'u' :: 'o' :: 't' :: ';' :: rest => (unescape? rest).map ('"' :: ·)
  | '&' :: 'a' :: 'p' :: 'o' :: 's' :: ';' :: rest => (unescape? rest).map ('\'' :: ·)
  | c :: rest => if c = '&' then none else (unescape? rest).map (c :: ·)

/-- The name and value at the start of a text, and what follows them. -/
def attribute? (chars : List Char) : Option ((String × String) × List Char) := do
  let (name, rest) ← cutFirst? '=' chars
  match rest with
  | '"' :: rest =>
    let (written, rest) ← cutFirst? '"' rest
    let value ← unescape? written
    if isName name then return ((String.ofList name, String.ofList value), rest) else none
  | _ => none

theorem attribute?_shorter {chars rest : List Char} {first : String × String}
    (h : attribute? chars = some (first, rest)) : rest.length < chars.length := by
  simp only [attribute?, Option.bind_eq_bind, Option.bind_eq_some_iff] at h
  obtain ⟨⟨name, after⟩, hname, h⟩ := h
  obtain ⟨rfl, -⟩ := cutFirst?_eq_some hname
  split at h
  · next hafter =>
    obtain rfl : after = _ := hafter
    simp only [Option.bind_eq_some_iff] at h
    obtain ⟨⟨written, behind⟩, hwritten, value, -, h⟩ := h
    obtain ⟨rfl, -⟩ := cutFirst?_eq_some hwritten
    split at h
    · obtain ⟨-, rfl⟩ : _ ∧ behind = rest := by simpa using h
      simp only [List.length_append, List.length_cons]
      omega
    · cases h
  · cases h

/-- The attributes up to the end of a tag, and what follows them. -/
def attributes? (chars : List Char) : Option (List (String × String) × List Char) :=
  match chars with
  | ' ' :: after =>
    match _ : attribute? after with
    | some (first, rest) =>
      (attributes? rest).map fun (attributes, rest) => (first :: attributes, rest)
    | none => none
  | _ => some ([], chars)
termination_by chars.length
decreasing_by
  have := attribute?_shorter ‹_›
  simp only [List.length_cons]
  omega

theorem attributes?_shorter {chars rest : List Char} {attributes : List (String × String)}
    (h : attributes? chars = some (attributes, rest)) : rest.length ≤ chars.length := by
  fun_induction attributes? chars generalizing attributes with
  | case1 after first between hfirst ih =>
    obtain ⟨⟨others, behind⟩, hothers, hbehind⟩ := Option.map_eq_some_iff.mp h
    obtain ⟨-, rfl⟩ := Prod.mk.inj hbehind
    have hshorter := attribute?_shorter hfirst
    have hrest := ih hothers
    simp only [List.length_cons]
    omega
  | case2 => cases h
  | case3 =>
    obtain ⟨-, rfl⟩ := Prod.mk.inj (Option.some.inj h)
    exact Nat.le_refl _

/-- A tag. -/
inductive Tag where
  | opening (name : String) (attributes : List (String × String))
  | single (name : String) (attributes : List (String × String))
  | closing (name : String)

/-- The tag of which the opening bracket has been read, and what follows it. -/
def tag? : List Char → Option (Tag × List Char)
  | '/' :: chars => do
    let (name, rest) ← cutFirst? '>' chars
    return (.closing (String.ofList name), rest)
  | chars => do
    let name := String.ofList (chars.takeWhile isNameChar)
    let (attributes, rest) ← attributes? (chars.dropWhile isNameChar)
    match rest with
    | '>' :: rest => return (.opening name attributes, rest)
    | '/' :: '>' :: rest => return (.single name attributes, rest)
    | _ => none

theorem tag?_shorter {chars rest : List Char} {tag : Tag} (h : tag? chars = some (tag, rest)) :
    rest.length < chars.length := by
  unfold tag? at h
  split at h
  · next chars =>
    simp only [Option.bind_eq_bind, Option.bind_eq_some_iff] at h
    obtain ⟨⟨name, behind⟩, hname, h⟩ := h
    obtain ⟨rfl, -⟩ := cutFirst?_eq_some hname
    obtain ⟨-, rfl⟩ := Prod.mk.inj (Option.some.inj h)
    simp only [List.length_append, List.length_cons]
    omega
  · simp only [Option.bind_eq_bind, Option.bind_eq_some_iff] at h
    obtain ⟨⟨attributes, behind⟩, hattributes, h⟩ := h
    have hname := (List.dropWhile_sublist (l := chars) isNameChar).length_le
    have hshorter := attributes?_shorter hattributes
    split at h
    · next hbehind =>
      obtain rfl : behind = _ := hbehind
      obtain ⟨-, rfl⟩ := Prod.mk.inj (Option.some.inj h)
      simp only [List.length_cons] at hshorter
      omega
    · next hbehind =>
      obtain rfl : behind = _ := hbehind
      obtain ⟨-, rfl⟩ := Prod.mk.inj (Option.some.inj h)
      simp only [List.length_cons] at hshorter
      omega
    · cases h

/-- An element that is still open, with the nodes that came before it, the last one first. -/
structure Opened where
  name : String
  attributes : List (String × String)
  before : List Node

/-- Read nodes, given the elements that are open and the nodes read in the innermost one, the last
one first. -/
def readNodes (opened : List Opened) (nodes : List Node) (chars : List Char) :
    Option (List Node) :=
  match chars with
  | [] => if opened.isEmpty then some nodes.reverse else none
  | '<' :: after =>
    match _ : tag? after with
    | some (.opening name attributes, rest) =>
      readNodes (⟨name, attributes, nodes⟩ :: opened) [] rest
    | some (.single name attributes, rest) =>
      readNodes opened (.element name attributes [] :: nodes) rest
    | some (.closing name, rest) =>
      match opened with
      | innermost :: opened =>
        if innermost.name = name then
          readNodes opened
            (.element name innermost.attributes nodes.reverse :: innermost.before) rest
        else none
      | [] => none
    | none => none
  | c :: after =>
    match unescape? (c :: after.takeWhile (· != '<')) with
    | some content =>
      readNodes opened (.text (String.ofList content) :: nodes) (after.dropWhile (· != '<'))
    | none => none
termination_by chars.length
decreasing_by
  · have := tag?_shorter ‹_›
    simp only [List.length_cons]
    omega
  · have := tag?_shorter ‹_›
    simp only [List.length_cons]
    omega
  · have := tag?_shorter ‹_›
    simp only [List.length_cons]
    omega
  · have := (List.dropWhile_sublist (l := after) (· != '<')).length_le
    simp only [List.length_cons]
    omega

/-- The element of a document. -/
def root? (text : String) : Option Node :=
  if declaration.isPrefixOf text.toList then
    (readNodes [] [] (text.toList.drop declaration.length)).bind rootOf?
  else none

variable {stops value written rest chars : List Char} {attributes : List (String × String)}
  {name : String} {nodes : List Node}

/-- A character that stands for itself is not the beginning of a reference. -/
theorem unescape?_cons {c : Char} (hne : c ≠ '&') (chars : List Char) :
    unescape? (c :: chars) = (unescape? chars).map (c :: ·) := by
  rw [unescape?, if_neg hne]
  all_goals
    intro _ hc
    exact absurd hc hne

/-- What is written is read back as what it stands for. -/
theorem unescape?_of_writes (hamp : '&' ∈ stops) (h : Writes stops value written) :
    unescape? written = some value := by
  induction h with
  | nil => rfl
  | plain hplain hrest ih =>
    rw [unescape?_cons (by rintro rfl; exact hplain hamp), ih]
    rfl
  | reference hentity hrest ih =>
    simp only [entities, List.mem_cons, Prod.mk.injEq, List.not_mem_nil, or_false] at hentity
    obtain ⟨rfl, rfl⟩ | ⟨rfl, rfl⟩ | ⟨rfl, rfl⟩ | ⟨rfl, rfl⟩ | ⟨rfl, rfl⟩ := hentity <;>
      simp [unescape?, ih]

/-- Something is written for everything that is not empty. -/
theorem ne_nil_of_writes (h : Writes stops value written) (hne : value ≠ []) : written ≠ [] := by
  cases h with
  | nil => exact absurd rfl hne
  | plain => simp
  | reference => simp

/-- The characters of references. -/
theorem entity_ne_mark : ∀ entity ∈ entities, '"' ∉ entity.2.toList ∧ '<' ∉ entity.2.toList := by
  decide

/-- What ends a value or a text is not written in it. -/
theorem not_mem_of_writes {mark : Char} (hmark : mark ∈ ['"', '<']) (hstop : mark ∈ stops)
    (h : Writes stops value written) : mark ∉ written := by
  have hmarks : mark ≠ '&' ∧ mark ≠ ';' := by
    constructor <;> (rintro rfl; exact absurd hmark (by decide))
  induction h with
  | nil => exact List.not_mem_nil
  | plain hplain hrest ih =>
    rw [List.mem_cons, not_or]
    exact ⟨by rintro rfl; exact hplain hstop, ih⟩
  | reference hentity hrest ih =>
    have hname := entity_ne_mark _ hentity
    simp only [List.mem_cons, List.not_mem_nil, or_false] at hmark
    rcases hmark with rfl | rfl <;> simp_all

/-- All characters of a name can stand in one. -/
theorem isNameChar_of_mem (h : isName chars = true) {c : Char} (hmem : c ∈ chars) :
    isNameChar c = true := by
  cases chars with
  | nil => cases hmem
  | cons first chars =>
    obtain ⟨hfirst, hchars⟩ := Bool.and_eq_true_iff.mp h
    rcases List.mem_cons.mp hmem with rfl | hmem
    · simp [isNameChar, hfirst]
    · exact List.all_eq_true.mp hchars c hmem

/-- A character that cannot stand in a name is not in one. -/
theorem not_mem_of_isName {mark : Char} (hmark : isNameChar mark = false)
    (h : isName chars = true) : mark ∉ chars := by
  intro hmem
  rw [isNameChar_of_mem h hmem] at hmark
  cases hmark

/-- A row of characters of a kind goes on up to the next character of another kind. -/
theorem takeWhile_append_of_stop {kind : Char → Bool} (hall : ∀ c ∈ chars, kind c = true)
    (hrest : ∀ c ∈ rest.head?, kind c = false) :
    (chars ++ rest).takeWhile kind = chars ∧ (chars ++ rest).dropWhile kind = rest := by
  have hstop : rest.takeWhile kind = [] ∧ rest.dropWhile kind = rest := by
    cases rest with
    | nil => exact ⟨rfl, rfl⟩
    | cons c rest => simp [hrest c rfl]
  rw [List.takeWhile_append_of_pos hall, List.dropWhile_append_of_pos hall, hstop.1, hstop.2,
    List.append_nil]
  exact ⟨rfl, rfl⟩

/-- Attributes are read back, where no blank follows them. -/
theorem attributes?_of_writes (h : WritesAttributes attributes written)
    (hrest : ∀ c ∈ rest.head?, c ≠ ' ') :
    attributes? (written ++ rest) = some (attributes, rest) := by
  induction h with
  | nil =>
    rw [List.nil_append, attributes?]
    rintro after rfl
    exact hrest ' ' rfl rfl
  | @cons name value written others attributes hname hvalue hothers ih =>
    have hfirst : attribute? (name.toList ++ '=' :: '"' :: written ++ '"' :: (others ++ rest)) =
        some ((name, value), others ++ rest) := by
      have hequals := not_mem_of_isName (show isNameChar '=' = false by decide) hname
      have hquote : '"' ∉ written := not_mem_of_writes (by decide) (by decide) hvalue
      simp [attribute?, List.append_assoc, cutFirst?_append hequals, cutFirst?_append hquote,
        unescape?_of_writes (by decide) hvalue, hname]
    have hchars : (' ' :: name.toList ++ '=' :: '"' :: written ++ '"' :: others) ++ rest =
        ' ' :: (name.toList ++ '=' :: '"' :: written ++ '"' :: (others ++ rest)) := by
      simp [List.append_assoc]
    rw [hchars, attributes?]
    split
    · next first behind hread =>
      rw [hfirst] at hread
      obtain ⟨rfl, rfl⟩ := Prod.mk.inj (Option.some.inj hread)
      rw [ih]
      rfl
    · next hread =>
      rw [hfirst] at hread
      cases hread

/-- The name and the attributes of a tag are read back up to its end. -/
theorem parts_of_writesTag (h : WritesTag name attributes written) (rest : List Char)
    (hends : ∀ c ∈ rest.head?, c ≠ ' ' ∧ isNameChar c = false) :
    (written ++ rest).takeWhile isNameChar = name.toList ∧
      attributes? ((written ++ rest).dropWhile isNameChar) = some (attributes, rest) ∧
      ∀ others, written ++ rest ≠ '/' :: others := by
  obtain ⟨hname, -, hattributes⟩ := h
  next written =>
  -- The name ends where the attributes begin, or at the end of the tag where there are none.
  have hmark : ∀ c ∈ (written ++ rest).head?, isNameChar c = false := by
    cases hattributes with
    | nil => exact fun c hc => (hends c hc).2
    | cons => rintro _ ⟨⟩; decide
  obtain ⟨htake, hdrop⟩ := takeWhile_append_of_stop (fun c => isNameChar_of_mem hname) hmark
  rw [List.append_assoc, htake, hdrop]
  refine ⟨rfl, attributes?_of_writes hattributes fun c hc => (hends c hc).1, fun others heq => ?_⟩
  cases hfirst : name.toList with
  | nil => rw [hfirst] at hname; cases hname
  | cons first letters =>
    have hslash := not_mem_of_isName (show isNameChar '/' = false by decide) hname
    rw [hfirst, List.cons_append, List.cons.injEq] at heq
    rw [hfirst, heq.1] at hslash
    exact hslash List.mem_cons_self

/-- The tags of an element are read back. -/
theorem tag?_of_writesTag (h : WritesTag name attributes written) (rest : List Char) :
    tag? (written ++ '>' :: rest) = some (.opening name attributes, rest) ∧
      tag? (written ++ '/' :: '>' :: rest) = some (.single name attributes, rest) := by
  constructor
  · obtain ⟨htake, hdrop, hslash⟩ := parts_of_writesTag h ('>' :: rest) (by rintro _ ⟨⟩; decide)
    rw [tag?]
    · simp only [htake, hdrop, String.ofList_toList]
      rfl
    · exact hslash
  · obtain ⟨htake, hdrop, hslash⟩ := parts_of_writesTag h ('/' :: '>' :: rest)
      (by rintro _ ⟨⟩; decide)
    rw [tag?]
    · simp only [htake, hdrop, String.ofList_toList]
      rfl
    · exact hslash

theorem tag?_closing (hname : isName name.toList = true) (rest : List Char) :
    tag? ('/' :: name.toList ++ '>' :: rest) = some (.closing name, rest) := by
  have hbracket := not_mem_of_isName (show isNameChar '>' = false by decide) hname
  rw [List.cons_append, tag?, cutFirst?_append hbracket]
  simp

/-- What reading does with each kind of tag. -/
theorem readNodes_tag {after : List Char} {tag : Tag} (h : tag? after = some (tag, rest))
    (opened : List Opened) (nodes : List Node) :
    readNodes opened nodes ('<' :: after) = match tag, opened with
      | .opening name attributes, opened => readNodes (⟨name, attributes, nodes⟩ :: opened) [] rest
      | .single name attributes, opened =>
        readNodes opened (.element name attributes [] :: nodes) rest
      | .closing name, innermost :: opened =>
        if innermost.name = name then
          readNodes opened
            (.element name innermost.attributes nodes.reverse :: innermost.before) rest
        else none
      | .closing _, [] => none := by
  rw [readNodes]
  split
  all_goals
    rename_i hread
    rw [h] at hread
    cases hread
  · rfl
  · rfl
  · cases opened <;> rfl

/-- Nodes are read back from what spells them, whatever is open around them and behind them. -/
theorem readNodes_of_spells (h : Spells nodes chars) (opened : List Opened) (before : List Node)
    (rest : List Char) (hrest : ∀ c ∈ rest.head?, c = '<') :
    readNodes opened before (chars ++ rest) = readNodes opened (nodes.reverse ++ before) rest := by
  induction h generalizing opened before rest with
  | nil => rfl
  | @text content written others nodes hne hcontent hends hothers ih =>
    obtain ⟨c, letters, rfl⟩ := List.exists_cons_of_ne_nil (ne_nil_of_writes hcontent (by simpa))
    have hmem : '<' ∉ c :: letters := not_mem_of_writes (by decide) (by decide) hcontent
    rw [List.mem_cons, not_or] at hmem
    have hnext : ∀ next ∈ (others ++ rest).head?, next = '<' := by
      cases others with
      | nil => exact hrest
      | cons => exact hends
    have hletters : ∀ letter ∈ letters, (letter != '<') = true := by
      intro letter hletter
      exact bne_iff_ne.mpr (by rintro rfl; exact hmem.2 hletter)
    have hstop : ∀ next ∈ (others ++ rest).head?, (next != '<') = false := by
      intro next hhead
      rw [hnext next hhead]
      rfl
    obtain ⟨htake, hdrop⟩ := takeWhile_append_of_stop hletters hstop
    rw [List.append_assoc, List.cons_append, readNodes, htake, hdrop,
      unescape?_of_writes (by decide) hcontent]
    · simp only [ih opened _ rest hrest, String.ofList_toList, List.reverse_cons, List.append_assoc,
        List.singleton_append]
    · exact fun hc => hmem.1 hc.symm
  | @single name attributes written others nodes htag hothers ih =>
    have hchars : ('<' :: written ++ '/' :: '>' :: others) ++ rest =
      '<' :: (written ++ '/' :: '>' :: (others ++ rest)) := by simp
    rw [hchars, readNodes_tag (tag?_of_writesTag htag (others ++ rest)).2]
    simp only [ih opened _ rest hrest, List.reverse_cons, List.append_assoc, List.singleton_append]
  | @element name attributes written inner others content nodes htag hcontent hothers ihcontent
      ih =>
    have hname : isName name.toList = true := by
      obtain ⟨hname, -, -⟩ := htag
      exact hname
    have hchars : ('<' :: written ++ '>' :: inner ++ '<' :: '/' :: name.toList ++ '>' :: others) ++
        rest = '<' :: (written ++ '>' :: (inner ++ '<' :: ('/' :: name.toList ++ '>' ::
          (others ++ rest)))) := by simp
    rw [hchars, readNodes_tag (tag?_of_writesTag htag _).1]
    simp only
    rw [ihcontent _ _ _ (by simp), readNodes_tag (tag?_closing hname _)]
    simp only [if_true, ih opened _ rest hrest, List.reverse_reverse, List.reverse_cons,
      List.append_assoc, List.singleton_append, List.append_nil]

/-- The element of a document is read back from what spells it. -/
theorem root?_of_spells {text : String} (htext : text.toList = declaration ++ written)
    (h : Spells nodes written) : root? text = rootOf? nodes := by
  have hread : readNodes [] [] written = some nodes := by
    have hnodes := readNodes_of_spells h [] [] [] (by simp)
    rw [List.append_nil, List.append_nil] at hnodes
    rw [hnodes, readNodes, List.isEmpty_nil, if_pos rfl, List.reverse_reverse]
  have hprefix : declaration.isPrefixOf (declaration ++ written) = true :=
    List.isPrefixOf_iff_prefix.mpr (List.prefix_append _ _)
  rw [root?, htext, if_pos hprefix, List.drop_left, hread, Option.bind_some]

end ContainerCert.Xml
