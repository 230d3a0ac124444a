import ContainerCert.Files.Path
import Mathlib.Data.List.DropRight

/-!
# The parents of paths

The parent of a path that ends with a name stands for the segments before the name, less segments
at their end that lead nowhere. A relative path that follows a base has the segments of the base and
then its own, and starts where the base does.
-/

namespace ContainerCert.Files

open Text (splitAt joinWith)

namespace Path

/-- A relative path stands behind the segments of its base. -/
theorem toList_join {listed : String} (hrelative : isAbsolute listed = false) (base : String) :
    (join base listed).toList =
      if base.toList = [] then listed.toList
      else if base.toList.getLast? = some '/' then base.toList ++ listed.toList
      else base.toList ++ '/' :: listed.toList := by
  unfold join
  rw [hrelative]
  simp only [Bool.false_eq_true, if_false]
  split
  · next hnone => rw [if_pos (List.getLast?_eq_none_iff.mp hnone)]
  · next hslash =>
    have hne : base.toList ≠ [] := fun h => by simp [h] at hslash
    rw [if_neg hne, if_pos hslash, String.toList_append]
  · next c hsome hother =>
    have hne : base.toList ≠ [] := fun h => by simp [h] at hother
    have hslash : base.toList.getLast? ≠ some '/' := by
      rw [hother]
      simpa using hsome
    rw [if_neg hne, if_neg hslash, String.toList_append, String.toList_append,
      List.append_assoc]
    rfl

/-- The parent of a path that ends with a name: where the path starts, and the segments before the
name less idle ones behind them. -/
theorem parent?_eq {path : String} {name : List Char} {names : List (List Char)}
    (hbody : splitAt '/' (start path.toList).2 = names ++ [name]) (hname : isIdle name = false) :
    parent? path = some (String.ofList
      ((start path.toList).1 ++ joinWith '/' (names.rdropWhile isIdle))) := by
  have hback : segmentsBack (start path.toList).2 = name :: names.reverse := by
    rw [segmentsBack, hbody, List.reverse_append, List.reverse_singleton, List.singleton_append,
      List.dropWhile_cons_of_neg (by simp [hname])]
  unfold parent?
  simp only [hback]
  rfl

/-- How a path starts: at the root, at a point, or with the segments themselves. -/
theorem start_cases (path : List Char) :
    (∃ body, path = '/' :: body ∧ start path = (['/'], body)) ∨
      (path = ['.'] ∧ start path = (['.'], [])) ∨
      (∃ body, path = '.' :: '/' :: body ∧ start path = (['.'], '/' :: body)) ∨
      (path.head? ≠ some '/' ∧ start path = ([], path)) := by
  fun_cases start path with
  | case1 rest => exact Or.inl ⟨rest, rfl, rfl⟩
  | case2 => exact Or.inr (Or.inl ⟨rfl, rfl⟩)
  | case3 rest => exact Or.inr (Or.inr (Or.inl ⟨rest, rfl, rfl⟩))
  | case4 path hroot hpoint hslash =>
    refine Or.inr (Or.inr (Or.inr ⟨?_, rfl⟩))
    cases path with
    | nil => simp
    | cons c rest =>
      simp only [List.head?_cons, ne_eq, Option.some.injEq]
      rintro rfl
      exact hroot rest rfl

/-- A base that segments are the segments of: nothing, the root, or a text that ends in no slash. -/
def Spells (base : List Char) (kept : List (List Char)) : Prop :=
  (base = [] ∧ kept = []) ∨ (base = ['/'] ∧ kept = [[]]) ∨
    (base = joinWith '/' kept ∧ splitAt '/' base = kept ∧ base ≠ [] ∧ base.getLast? ≠ some '/')

/-- Segments that end with one that is not idle are spelled by joining them. -/
theorem spells_joinWith {kept : List (List Char)} {last : List Char}
    (hslash : ∀ segment ∈ kept ++ [last], '/' ∉ segment) (hlast : isIdle last = false) :
    Spells (joinWith '/' (kept ++ [last])) (kept ++ [last]) := by
  have hends : ∃ before, joinWith '/' (kept ++ [last]) = before ++ last := by
    by_cases hkept : kept = []
    · subst hkept
      exact ⟨[], rfl⟩
    · refine ⟨joinWith '/' kept ++ ['/'], ?_⟩
      rw [Text.joinWith_append '/' hkept (by simp), List.append_assoc]
      rfl
  obtain ⟨before, hbefore⟩ := hends
  obtain rfl | ⟨front, c, rfl⟩ := List.eq_nil_or_concat' last
  · cases hlast
  · refine Or.inr (Or.inr ⟨rfl, Text.splitAt_joinWith (by simp) hslash, by simp [hbefore], ?_⟩)
    rw [hbefore, ← List.append_assoc, List.getLast?_concat]
    rintro heq
    obtain rfl := Option.some.inj heq
    exact hslash (front ++ ['/']) (by simp) (by simp)

/-- A relative path that follows a base has the segments of the base and then its own. -/
theorem splitAt_join {base listed : String} {kept : List (List Char)}
    (hbase : Spells base.toList kept) (hrelative : isAbsolute listed = false) :
    splitAt '/' (join base listed).toList = kept ++ splitAt '/' listed.toList := by
  rw [toList_join hrelative]
  obtain ⟨hnone, rfl⟩ | ⟨hroot, rfl⟩ | ⟨-, hsplit, hne, hlast⟩ := hbase
  · rw [if_pos hnone]
    rfl
  · rw [hroot]
    rfl
  · rw [if_neg hne, if_neg hlast, Text.splitAt_append, hsplit]

/-- It starts at the root where the base does. -/
theorem isAbsolute_join {base listed : String} (hrelative : isAbsolute listed = false) :
    isAbsolute (join base listed) = isAbsolute base := by
  unfold isAbsolute at *
  have hhead : (join base listed).toList.head? =
      if base.toList = [] then listed.toList.head? else base.toList.head? := by
    rw [toList_join hrelative]
    cases base.toList with
    | nil => rfl
    | cons c rest =>
      simp only [reduceCtorEq, if_false, List.cons_append]
      split <;> rfl
  rw [hhead]
  split
  · next hnone => rw [hrelative, hnone]; rfl
  · rfl

/-- A row of segments less idle ones at its end is nothing, or ends with one that is not idle. -/
theorem rdropWhile_cases (segments : List (List Char)) :
    segments.rdropWhile isIdle = [] ∨
      ∃ front last, segments.rdropWhile isIdle = front ++ [last] ∧ isIdle last = false := by
  obtain hnone | ⟨front, last, hsome⟩ := List.eq_nil_or_concat' (segments.rdropWhile isIdle)
  · exact Or.inl hnone
  · have hlast := List.rdropWhile_last_not isIdle segments (by simp [hsome])
    simp only [hsome, List.getLast_concat, Bool.not_eq_true] at hlast
    exact Or.inr ⟨front, last, hsome, hlast⟩

/-- A base in place of the segments before the last one of a path: it spells them less idle ones
at their end, and starts where the path does. -/
structure StandsFor (base path : String) (names kept : List (List Char)) : Prop where
  spells : Spells base.toList kept
  idles : ∃ idles, names = kept ++ idles ∧ ∀ segment ∈ idles, isIdle segment = true
  starts : isAbsolute base = isAbsolute path

section Parents

variable {path : String} {body name first : List Char} {names : List (List Char)}

theorem exists_idles (names : List (List Char)) :
    ∃ idles, names = names.rdropWhile isIdle ++ idles ∧ ∀ segment ∈ idles, isIdle segment = true :=
  ⟨names.rtakeWhile isIdle, List.rdropWhile_append_rtakeWhile.symm, fun _ => List.mem_rtakeWhile_imp⟩

/-- Segments less idle ones at their end are spelled by joining them, unless none is left. -/
theorem spells_rdropWhile (hslash : ∀ segment ∈ names, '/' ∉ segment)
    (hne : names.rdropWhile isIdle ≠ []) :
    Spells (joinWith '/' (names.rdropWhile isIdle)) (names.rdropWhile isIdle) := by
  obtain ⟨idles, hnames, -⟩ := exists_idles names
  rw [hnames] at hslash
  have hkeptSlash (segment : List Char) (hmem : segment ∈ names.rdropWhile isIdle) :
      '/' ∉ segment := hslash segment (List.mem_append_left _ hmem)
  obtain hnone | ⟨front, last, hkept, hlast⟩ := rdropWhile_cases names
  · exact absurd hnone hne
  · rw [hkept] at hkeptSlash ⊢
    exact spells_joinWith hkeptSlash hlast

/-- A segment in front of others stays where one of the others is not idle. -/
theorem rdropWhile_cons_of_ne (hne : names.rdropWhile isIdle ≠ []) :
    (first :: names).rdropWhile isIdle = first :: names.rdropWhile isIdle := by
  have hdropped : (names.reverse.dropWhile isIdle).isEmpty = false := by
    simpa [List.rdropWhile] using hne
  rw [List.rdropWhile, List.reverse_cons, List.dropWhile_append, hdropped, List.rdropWhile]
  simp

theorem exists_parent?_of_root (hroot : path.toList = '/' :: body)
    (hslash : ∀ segment ∈ names, '/' ∉ segment) (hbody : splitAt '/' body = names ++ [name])
    (hname : isIdle name = false) :
    ∃ base kept, parent? path = some base ∧ StandsFor base path ([] :: names) kept := by
  have hstart : start path.toList = (['/'], body) := by rw [hroot]; rfl
  have hparent := parent?_eq (by rw [hstart]; exact hbody) hname
  rw [hstart, List.singleton_append] at hparent
  obtain ⟨idles, hnames, hidle⟩ := exists_idles names
  refine ⟨_, [] :: names.rdropWhile isIdle, hparent, ?_, ⟨idles, congrArg _ hnames, hidle⟩, ?_⟩
  · rw [String.toList_ofList]
    by_cases hnone : names.rdropWhile isIdle = []
    · rw [hnone]
      exact Or.inr (Or.inl ⟨rfl, rfl⟩)
    · have hspells : Spells (joinWith '/' (([] :: names).rdropWhile isIdle)) _ :=
        spells_rdropWhile (by simpa using hslash) (by simp [rdropWhile_cons_of_ne hnone])
      rwa [rdropWhile_cons_of_ne hnone, Text.joinWith_cons '/' [] hnone] at hspells
  · simp [isAbsolute, hroot]

theorem exists_parent?_of_point (hpoint : path.toList = '.' :: '/' :: body)
    (hslash : ∀ segment ∈ names, '/' ∉ segment) (hbody : splitAt '/' body = names ++ [name])
    (hname : isIdle name = false) :
    ∃ base kept, parent? path = some base ∧ StandsFor base path (['.'] :: names) kept := by
  have hstart : start path.toList = (['.'], '/' :: body) := by rw [hpoint]; rfl
  have hsplit : splitAt '/' ('/' :: body) = ([] :: names) ++ [name] := by
    rw [List.cons_append, ← hbody]
    rfl
  have hparent := parent?_eq (by rw [hstart]; exact hsplit) hname
  rw [hstart, List.singleton_append] at hparent
  obtain ⟨idles, hnames, hidle⟩ := exists_idles names
  refine ⟨_, ['.'] :: names.rdropWhile isIdle, hparent, ?_, ⟨idles, congrArg _ hnames, hidle⟩, ?_⟩
  · rw [String.toList_ofList]
    by_cases hnone : names.rdropWhile isIdle = []
    · have hall : ([] :: names).rdropWhile isIdle = [] := by
        rw [List.rdropWhile_eq_nil_iff] at hnone ⊢
        simpa [isIdle] using hnone
      rw [hnone, hall]
      exact Or.inr (Or.inr ⟨rfl, rfl, by simp, by simp [joinWith]⟩)
    · have hspells : Spells (joinWith '/' ((['.'] :: names).rdropWhile isIdle)) _ :=
        spells_rdropWhile (by simpa using hslash) (by simp [rdropWhile_cons_of_ne hnone])
      rwa [rdropWhile_cons_of_ne hnone, Text.joinWith_cons '/' ['.'] hnone,
        List.singleton_append, ← List.nil_append ('/' :: _), ← Text.joinWith_cons '/' [] hnone,
        ← rdropWhile_cons_of_ne hnone] at hspells
  · simp [isAbsolute, hpoint]

theorem exists_parent?_of_relative (hhead : path.toList.head? ≠ some '/')
    (hstart : start path.toList = ([], path.toList))
    (hslash : ∀ segment ∈ names, '/' ∉ segment)
    (hpath : splitAt '/' path.toList = names ++ [name]) (hname : isIdle name = false) :
    ∃ base kept, parent? path = some base ∧ StandsFor base path names kept := by
  have hparent := parent?_eq (by rw [hstart]; exact hpath) hname
  rw [hstart, List.nil_append] at hparent
  obtain ⟨idles, hnames, hidle⟩ := exists_idles names
  refine ⟨_, names.rdropWhile isIdle, hparent, ?_, ⟨idles, hnames, hidle⟩, ?_⟩
  · rw [String.toList_ofList]
    by_cases hnone : names.rdropWhile isIdle = []
    · rw [hnone]
      exact Or.inl ⟨rfl, rfl⟩
    · exact spells_rdropWhile hslash hnone
  · have hrelative : isAbsolute path = false := by simpa [isAbsolute] using hhead
    rw [hrelative, isAbsolute, String.toList_ofList]
    cases hbase : joinWith '/' (names.rdropWhile isIdle) with
    | nil => rfl
    | cons c rest =>
      have hne : names.rdropWhile isIdle ≠ [] := fun h => by simp [h, joinWith] at hbase
      have htext := Text.joinWith_splitAt '/' path.toList
      rw [hpath, hnames, List.append_assoc, Text.joinWith_append '/' hne (by simp), hbase] at htext
      rw [← htext] at hhead
      simpa using hhead

/-- The parent of a path that ends with a name stands for the segments before the name. -/
theorem exists_parent? (hpath : splitAt '/' path.toList = names ++ [name])
    (hname : isIdle name = false) :
    ∃ base kept, parent? path = some base ∧ StandsFor base path names kept := by
  have hslash (segment : List Char) (h : segment ∈ names) : '/' ∉ segment :=
    Text.not_mem_of_mem_splitAt (hpath ▸ List.mem_append_left _ h)
  have hbehind (first body : List Char)
      (hfirst : splitAt '/' path.toList = first :: splitAt '/' body) :
      ∃ rest, names = first :: rest ∧ splitAt '/' body = rest ++ [name] := by
    rw [hpath] at hfirst
    cases names with
    | nil => exact absurd (List.cons.inj hfirst).2.symm (Text.splitAt_ne_nil '/' body)
    | cons segment rest =>
      obtain ⟨rfl, hbody⟩ := List.cons.inj hfirst
      exact ⟨rest, rfl, hbody.symm⟩
  obtain ⟨body, hroot, -⟩ | ⟨hpoint, -⟩ | ⟨body, hpoint, -⟩ | ⟨hhead, hstart⟩ :=
    start_cases path.toList
  · obtain ⟨rest, rfl, hbody⟩ := hbehind [] body (by rw [hroot]; rfl)
    exact exists_parent?_of_root hroot (fun s h => hslash s (List.mem_cons_of_mem _ h)) hbody hname
  · rw [hpoint] at hpath
    cases names with
    | nil => cases hpath; cases hname
    | cons segment rest => simp [splitAt] at hpath
  · obtain ⟨rest, rfl, hbody⟩ := hbehind ['.'] body (by rw [hpoint]; rfl)
    exact exists_parent?_of_point hpoint (fun s h => hslash s (List.mem_cons_of_mem _ h)) hbody
      hname
  · exact exists_parent?_of_relative hhead hstart hslash hpath hname

end Parents

end Path

end ContainerCert.Files
