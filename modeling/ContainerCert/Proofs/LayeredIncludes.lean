import ContainerCert.Proofs.IncludePaths
import ContainerCert.Proofs.IncludeRoutes

/-!
# What a configuration with includes says

A load puts files over one another in post-order: what a file includes lies below it, in the order
in which it lists it. What the load says about a key is therefore what the last file in that order
says that sets it.
-/

namespace ContainerCert.Config.File

open Files

/-- The files at paths and all they include in post-order: the files that one includes come before
it, in the order in which it lists them. -/
inductive InPostOrder (files : FileTree) (lookup : String → Option String) :
    List String → List File → Prop
  | nil : InPostOrder files lookup [] []
  | cons {path : String} {paths : List String} {file : File} {below others : List File} :
      readAt files lookup path = .ok file →
      InPostOrder files lookup (file.includes.map (includePath path)) below →
      InPostOrder files lookup paths others →
      InPostOrder files lookup (path :: paths) (below ++ file :: others)

/-- What the last of the files says about a key that sets it. -/
def lastValue? (order : List File) (key : Key) : Option Value :=
  order.reverse.findSome? fun file => file.value? key

variable {files : FileTree} {lookup : String → Option String} {levels : Nat}
  {path reached : String} {paths : List String} {loaded after : List Location}
  {file result : File} {order other : List File} {key : Key} {value : Value}

/-- A file that is laid over another decides the keys it sets. -/
theorem value?_laidOver (upper lower : File) (key : Key) :
    (upper.laidOver lower).value? key = (upper.value? key).or (lower.value? key) := by
  cases key <;> simp [value?, laidOver, Option.map_or]

theorem lastValue?_append (first rest : List File) (key : Key) :
    lastValue? (first ++ rest) key = (lastValue? rest key).or (lastValue? first key) := by
  rw [lastValue?, List.reverse_append, List.findSome?_append]
  rfl

theorem lastValue?_singleton (file : File) (key : Key) :
    lastValue? [file] key = file.value? key := by
  rw [lastValue?, List.reverse_singleton, List.findSome?_singleton]

theorem lastValue?_eq_some_iff : lastValue? order key = some value ↔
    ∃ before file later, order = before ++ file :: later ∧ file.value? key = some value ∧
      ∀ other ∈ later, other.value? key = none := by
  rw [lastValue?, List.findSome?_eq_some_iff]
  constructor
  · rintro ⟨later, file, before, horder, hfile, hlater⟩
    refine ⟨before.reverse, file, later.reverse, ?_, hfile, ?_⟩
    · rw [← List.reverse_inj, horder]
      simp
    · intro other hmem
      exact hlater other (List.mem_reverse.mp hmem)
  · rintro ⟨before, file, later, rfl, hfile, hlater⟩
    refine ⟨later.reverse, file, before.reverse, by simp, hfile, ?_⟩
    intro other hmem
    exact hlater other (List.mem_reverse.mp hmem)

theorem lastValue?_eq_none_iff :
    lastValue? order key = none ↔ ∀ file ∈ order, file.value? key = none := by
  simp [lastValue?]

/-- There is one post-order. -/
theorem InPostOrder.unique (h : InPostOrder files lookup paths order)
    (hother : InPostOrder files lookup paths other) : order = other := by
  induction h generalizing other with
  | nil =>
    cases hother
    rfl
  | cons hread _ _ ihbelow ihothers =>
    cases hother with
    | cons hread' hbelow' hothers' =>
      rw [hread] at hread'
      cases hread'
      rw [ihbelow hbelow', ihothers hothers']

/-- The post-order has the files that routes lead to. -/
theorem InPostOrder.mem_iff (h : InPostOrder files lookup paths order) :
    file ∈ order ↔ ∃ path ∈ paths, ∃ route reached, Leads files lookup path route reached ∧
      readAt files lookup reached = .ok file := by
  induction h with
  | nil => simp
  | @cons path paths top below others hread _ _ ihbelow ihothers =>
    have hthrough : file ∈ below ↔ ∃ route reached,
        LeadsThrough files lookup path top.includes route reached ∧
          readAt files lookup reached = .ok file := by
      rw [ihbelow]
      constructor
      · rintro ⟨_, hmem, route, reached, hleads, hreached⟩
        obtain ⟨listed, hlisted, rfl⟩ := List.mem_map.mp hmem
        obtain ⟨position, hposition⟩ := List.mem_iff_getElem?.mp hlisted
        exact ⟨position :: route, reached, ⟨position, listed, route, rfl, hposition, hleads⟩,
          hreached⟩
      · rintro ⟨_, reached, ⟨position, listed, rest, rfl, hposition, hleads⟩, hreached⟩
        have hlisted := List.mem_of_getElem? hposition
        exact ⟨_, List.mem_map_of_mem hlisted, rest, reached, hleads, hreached⟩
    have hfirst : (∃ route reached, Leads files lookup path route reached ∧
        readAt files lookup reached = .ok file) ↔ file ∈ below ∨ file = top := by
      rw [hthrough]
      constructor
      · rintro ⟨route, reached, hleads, hreached⟩
        obtain ⟨rfl, rfl⟩ | hleads := (leads_iff_of_read hread).mp hleads
        · rw [hread] at hreached
          exact Or.inr (Except.ok.inj hreached).symm
        · exact Or.inl ⟨route, reached, hleads, hreached⟩
      · rintro (⟨route, reached, hleads, hreached⟩ | rfl)
        · exact ⟨route, reached, (leads_iff_of_read hread).mpr (.inr hleads), hreached⟩
        · exact ⟨[], path, .here, hread⟩
    rw [List.mem_append, List.mem_cons, ihothers, List.exists_mem_cons_iff, hfirst, or_assoc]

/-- Paths behind others come behind them in the post-order. -/
theorem InPostOrder.cons_append (h : InPostOrder files lookup [path] order)
    (hother : InPostOrder files lookup paths other) :
    InPostOrder files lookup (path :: paths) (order ++ other) := by
  cases h with
  | cons hread hbelow hnone =>
    cases hnone
    rw [List.append_assoc]
    exact .cons hread hbelow hother

theorem value?_empty (key : Key) : empty.value? key = none := by
  cases key <;> rfl

/-- A load that succeeds says of each key what the last file in post-order says that sets it. -/
theorem exists_inPostOrder_of_loadAt
    (h : loadAt files lookup levels path loaded = .ok (result, after)) :
    ∃ order, InPostOrder files lookup [path] order ∧
      ∀ key, result.value? key = lastValue? order key := by
  -- what is loaded of the listed files lies over what was there before them
  refine loadAt_induction
    (p := fun _ path _ result _ => ∃ order, InPostOrder files lookup [path] order ∧
      ∀ key, result.value? key = lastValue? order key)
    (q := fun _ path includes lower included =>
      ∃ order, InPostOrder files lookup (includes.map (includePath path)) order ∧
        ∀ key, included.1.value? key = (lastValue? order key).or (lower.1.value? key))
    ?_ ?_ ?_ h
  · intro levels path state
    exact ⟨[], .nil, fun key => rfl⟩
  · intro levels path listed includes lower loaded upper between state
    rintro ⟨first, hfirst, hupper⟩ ⟨rest, hrest, hincluded⟩
    refine ⟨first ++ rest, hfirst.cons_append hrest, fun key => ?_⟩
    rw [hincluded, value?_laidOver, hupper, lastValue?_append, Option.or_assoc]
  · intro levels path location loaded file included after _ _ hread
    rintro ⟨below, hbelow, hincluded⟩
    refine ⟨below ++ [file], .cons hread hbelow .nil, fun key => ?_⟩
    rw [value?_laidOver, hincluded, value?_empty, Option.or_none, lastValue?_append,
      lastValue?_singleton]

/-- What a load gives includes nothing. -/
theorem includes_of_loadAt (h : loadAt files lookup levels path loaded = .ok (result, after)) :
    result.includes = [] := by
  cases levels with
  | zero => cases h
  | succ levels =>
    obtain ⟨location, file, included, -, -, -, -, rfl⟩ := loadAt_succ_eq_ok_iff.mp h
    rfl

/-- A file that a load comes to is read, and what it lists is found from its directory. -/
theorem Explores.resolved {route : List Nat}
    (h : Explores files lookup levels loaded after (Leads files lookup path))
    (hleads : Leads files lookup path route reached) :
    ∃ location content file, files.find reached = .ok (location, .file content) ∧
      readAt files lookup reached = .ok file ∧
      ∀ listed ∈ file.includes, ∃ found,
        files.find (includePath reached listed) = .ok found ∧
        files.findFrom (if Path.isAbsolute listed then [] else location.dropLast) listed =
          .ok found := by
  obtain ⟨file, hread⟩ := h.reads hleads
  obtain ⟨location, content, hfind⟩ := exists_find_of_readAt hread
  refine ⟨location, content, file, hfind, hread, fun listed hlisted => ?_⟩
  obtain ⟨position, hposition⟩ := List.mem_iff_getElem?.mp hlisted
  have hnext : Leads files lookup path (route ++ [position]) (includePath reached listed) :=
    leads_append_iff.mpr ⟨reached, hleads, .next hread hposition .here⟩
  obtain ⟨included, hincluded⟩ := h.reads hnext
  obtain ⟨place, held, hfound⟩ := exists_find_of_readAt hincluded
  exact ⟨_, hfound, FileTree.findFrom_of_find_includePath hfind hfound⟩

/-- A configuration that loads includes nothing any more. It says of each key what the last file
says that sets it, in post-order, and nothing exactly when no file that is reached sets the key.
Each file that is reached lists paths that lead from its own directory. -/
theorem last_in_postOrder_decides (h : loadWithIncludes files lookup path = .ok result) :
    result.includes = [] ∧
    (∃ order, InPostOrder files lookup [path] order) ∧
    (∀ order, InPostOrder files lookup [path] order → ∀ key value,
      result.value? key = some value ↔ ∃ before file later, order = before ++ file :: later ∧
        file.value? key = some value ∧ ∀ other ∈ later, other.value? key = none) ∧
    (∀ key, result.value? key = none ↔ ∀ route reached file,
      Leads files lookup path route reached → readAt files lookup reached = .ok file →
        file.value? key = none) ∧
    ∀ route reached, Leads files lookup path route reached →
      ∃ location content file, files.find reached = .ok (location, .file content) ∧
        readAt files lookup reached = .ok file ∧
        ∀ listed ∈ file.includes, ∃ found,
          files.find (includePath reached listed) = .ok found ∧
          files.findFrom (if Path.isAbsolute listed then [] else location.dropLast) listed =
            .ok found := by
  obtain ⟨after, hload⟩ := loadWithIncludes_eq_ok_iff.mp h
  obtain ⟨order, horder, hvalue⟩ := exists_inPostOrder_of_loadAt hload
  refine ⟨includes_of_loadAt hload, ⟨order, horder⟩, ?_, ?_, ?_⟩
  · intro other hother key value
    rw [hother.unique horder, hvalue, lastValue?_eq_some_iff]
  · intro key
    rw [hvalue, lastValue?_eq_none_iff]
    constructor
    · intro hnone route reached file hleads hread
      exact hnone file (horder.mem_iff.mpr ⟨path, List.mem_singleton_self path, route, reached,
        hleads, hread⟩)
    · intro hnone file hmem
      obtain ⟨_, hpath, route, reached, hleads, hread⟩ := horder.mem_iff.mp hmem
      obtain rfl := List.mem_singleton.mp hpath
      exact hnone route reached file hleads hread
  · intro route reached hleads
    exact (explores_of_loadAt hload).resolved hleads

/-- A file that includes one in a directory, which includes one beside it, and then another. -/
def layered : FileTree where
  entries := [
    (["preflight.toml"],
      .file "includes = [\"shared/base.toml\", \"local.toml\"]\nsubmit = true".toUTF8),
    (["shared"], .directory),
    (["shared", "base.toml"],
      .file "includes = [\"hosts.toml\"]\nplatform = \"$\x7bPLATFORM:-arm64\x7d\"".toUTF8),
    (["shared", "hosts.toml"],
      .file "pyxis_host = \"localhost\"\nplatform = \"s390x\"\nsubmit = false".toUTF8),
    (["local.toml"], .file "platform = \"ppc64le\"\nloglevel = \"debug\"".toUTF8)]
  workingDirectory := []

/-- What the file with the others below it says: the submission is its own, the platform is that of
the last file it includes, and the host comes from the file that is included from below. -/
def layeredResult : File :=
  { empty with
    submit := some true
    host := some "localhost"
    platform := some "ppc64le"
    logLevel := some "debug" }

theorem last_in_postOrder_decides_layered :
    let lookup : String → Option String := fun _ => none
    loadWithIncludes layered lookup "preflight.toml" = .ok layeredResult ∧
      (∃ order, InPostOrder layered lookup ["preflight.toml"] order) ∧
      (∀ order, InPostOrder layered lookup ["preflight.toml"] order →
        ∃ before file later, order = before ++ file :: later ∧
          file.value? .platform = some (.text "ppc64le") ∧
            ∀ other ∈ later, other.value? .platform = none) ∧
      ∀ route reached file, Leads layered lookup "preflight.toml" route reached →
        readAt layered lookup reached = .ok file → file.value? .insecure = none := by
  intro lookup
  have hload : loadWithIncludes layered lookup "preflight.toml" = .ok layeredResult := by
    decide +kernel
  obtain ⟨-, horder, hdecides, hunset, -⟩ := last_in_postOrder_decides hload
  have hplatform : layeredResult.value? .platform = some (.text "ppc64le") := rfl
  have hinsecure : layeredResult.value? .insecure = none := rfl
  refine ⟨hload, horder, ?_, (hunset .insecure).mp hinsecure⟩
  intro order h
  exact (hdecides order h .platform _).mp hplatform

end ContainerCert.Config.File
