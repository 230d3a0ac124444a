import ContainerCert.Config.File
import ContainerCert.Proofs.ReportDocuments
import ContainerCert.Pyxis.Environment

/-!
# Writing documents and reading them again

Every value of every kind of document is read back from both of its written forms, and a text that
has been read and written anew does not change when that is done once more. A reader and a writer
that undo each other on trees do so on texts, as the written forms are read as the tree of what was
written; so each kind of document needs no more than its own fields. Configuration files are the
one kind whose fields may all be missing: their entries are read key by key, and what has been read
so far agrees with the file on the keys behind.
-/

namespace ContainerCert

namespace Json

open Data (Decoder Fault)

/-- The written forms of a value. -/
inductive Form where
  | compact
  | pretty

/-- A value as a text of a form. -/
def Form.write : Form → Json → String
  | .compact, value => value.compactText
  | .pretty, value => value.prettyText

variable {α : Type}

/-- Each form of a value is read as the value. -/
theorem Form.ofText_write {value : Json} (hwhole : value.Whole) (form : Form) :
    Document.ofText (form.write value) = ⟨value.tree, true⟩ := by
  cases form with
  | compact =>
    rw [write, compactText, Document.ofText, String.toList_ofList]
    simpa only [List.append_nil] using Document.ofChars_compact hwhole blanks_nil
  | pretty =>
    rw [write, prettyText, Document.ofText, String.toList_ofList]
    simpa only [List.append_nil] using Document.ofChars_pretty hwhole blanks_nil

/-- A text, read and written anew. -/
def rewritten (toJson : α → Json) (decode : Decoder α) (form : Form) (text : String) :
    Except Fault String :=
  (decodeText decode text).map fun content => form.write (toJson content)

/-- A kind of documents that loses nothing in writing and reading. -/
structure RoundTrips (toJson : α → Json) (decode : Decoder α) : Prop where
  /-- What is written is read back. -/
  read_write : ∀ (form : Form) (content : α),
    decodeText decode (form.write (toJson content)) = .ok content
  /-- What a text is written anew as says the same as the text, and is settled. -/
  rewritten_again : ∀ (form : Form) (text again : String),
    rewritten toJson decode form text = .ok again →
      decodeText decode again = decodeText decode text ∧
        rewritten toJson decode form again = .ok again

/-- Documents whose values are taken out of their own trees lose nothing. -/
theorem RoundTrips.of_tree {toJson : α → Json} {decode : Decoder α}
    (hwhole : ∀ content, (toJson content).Whole)
    (hdecode : ∀ content, decode (toJson content).tree = .ok content) :
    RoundTrips toJson decode := by
  have hread (form : Form) (content : α) :
      decodeText decode (form.write (toJson content)) = .ok content :=
    decodeText_of_ofText (hdecode content) (form.ofText_write (hwhole content))
  refine ⟨hread, fun form text again hagain => ?_⟩
  cases htext : decodeText decode text with
  | error fault =>
    rw [rewritten, htext] at hagain
    cases hagain
  | ok content =>
    rw [rewritten, htext] at hagain
    obtain rfl : form.write (toJson content) = again := Except.ok.inj hagain
    rw [rewritten, hread form content]
    exact ⟨rfl, rfl⟩

end Json

namespace Config

open Data (Decoder Record)

theorem Key.name_injective : Function.Injective Key.name := by
  intro key other h
  cases key <;> cases other <;> first | rfl | exact absurd h (by decide)

namespace File

/-- Files that include the same files and say the same about every key are the same. -/
theorem ext_value? {file other : File} (hincludes : file.includes = other.includes)
    (hvalues : ∀ key, file.value? key = other.value? key) : file = other := by
  have hswitch {a b : Option Bool} (h : a.map Value.switch = b.map .switch) : a = b :=
    Option.map_injective (fun _ _ => Value.switch.inj) h
  have htext {a b : Option String} (h : a.map Value.text = b.map .text) : a = b :=
    Option.map_injective (fun _ _ => Value.text.inj) h
  cases file
  cases other
  rw [File.mk.injEq]
  exact ⟨hincludes, hswitch (hvalues .submit), hswitch (hvalues .insecure),
    htext (hvalues .apiToken), htext (hvalues .host), htext (hvalues .environment),
    htext (hvalues .projectId), htext (hvalues .platform), htext (hvalues .dockerConfig),
    htext (hvalues .artifacts), htext (hvalues .logFile), htext (hvalues .logLevel),
    hswitch (hvalues .junit), htext (hvalues .responseFormat)⟩

/-- The field of a key puts what a file says about the key in its place, and nothing else. -/
theorem exists_field_of_value? (key : Key) {file : File} {value : Value}
    (hvalue : file.value? key = some value) :
    ∃ field put, record.fields.find? (·.name == key.name) = some field ∧
      field.read (valueJson value).tree = .ok put ∧
      ∀ other : File, (put other).includes = other.includes ∧
        ∀ k, (put other).value? k = if k = key then some value else other.value? k := by
  cases key
  all_goals
    obtain ⟨content, -, rfl⟩ := Option.map_eq_some_iff.mp hvalue
    exact ⟨_, _, rfl, rfl, fun other => ⟨rfl, fun k => by cases k <;> rfl⟩⟩

/-- The entries that a file has for keys. -/
def keyFields (file : File) (keys : List Key) : List (String × Json) :=
  keys.filterMap fun key => (file.value? key).map fun value => (key.name, valueJson value)

/-- Reading the entries for the keys that are still to come makes the file of a value that agrees
with it on all others. -/
theorem readEntries_keyFields (file : File) {keys : List Key} (hkeys : keys.Nodup)
    {given : List String} (hgiven : ∀ key ∈ keys, key.name ∉ given) {value : File}
    (hincludes : value.includes = file.includes)
    (hvalues : ∀ key, value.value? key = if key ∈ keys then none else file.value? key) :
    ∃ given', record.readEntries (Json.treeFields (file.keyFields keys)) given value =
      .ok (file, given') := by
  induction keys generalizing given value with
  | nil =>
    obtain rfl : value = file := ext_value? hincludes (by simpa using hvalues)
    exact ⟨given, rfl⟩
  | cons key keys ih =>
    obtain ⟨hkey, hkeys⟩ := List.nodup_cons.mp hkeys
    cases hvalue : file.value? key with
    | none =>
      -- A key that is not set has no entry, and the value read so far is right about it already.
      rw [keyFields, List.filterMap_cons_none (by rw [hvalue]; rfl)]
      refine ih hkeys (fun k hk => hgiven k (.tail _ hk)) hincludes fun k => ?_
      rw [hvalues k]
      by_cases hk : k = key
      · simp [hk, hvalue, hkey]
      · simp [hk]
    | some content =>
      obtain ⟨field, put, hfield, hread, hput⟩ := exists_field_of_value? key hvalue
      rw [keyFields, List.filterMap_cons_some (by rw [hvalue]; rfl), Json.treeFields,
        Record.readEntries_of_read hfield hread (hgiven key List.mem_cons_self)]
      refine ih hkeys (fun k hk hmem => ?_) ((hput value).1.trans hincludes) fun k => ?_
      · rcases List.mem_cons.mp hmem with hname | hmem
        · exact hkey (Key.name_injective hname ▸ hk)
        · exact hgiven k (.tail _ hk) hmem
      · rw [(hput value).2 k, hvalues k]
        by_cases hk : k = key
        · simp [hk, hvalue, hkey]
        · simp [hk]

/-- The entry for the files that a file includes. -/
def includeFields (names : List String) : List (String × Json) :=
  if names.isEmpty then [] else [("includes", .array (names.map .text))]

/-- The file that includes others and sets no key. -/
def including (names : List String) : File :=
  { empty with includes := names }

theorem value?_including (names : List String) (key : Key) :
    (including names).value? key = none := by
  cases key <;> rfl

/-- The field of the included files puts their names into the file. -/
theorem exists_field_of_includes (names : List String) :
    ∃ field put, record.fields.find? (·.name == "includes") = some field ∧
      field.read (Json.array (names.map .text)).tree = .ok put ∧ put empty = including names := by
  have hnames : Decoder.list Decoder.text (Json.array (names.map .text)).tree = .ok names := by
    rw [Json.tree, Json.treeItems_eq_map, List.map_map]
    exact @Decoder.all_map _ Decoder.text .text (fun _ => rfl) names
  exact ⟨_, _, rfl, congrArg (Except.map _) hnames, rfl⟩

/-- The entry for the included files is read before the others, or it is missing and there are no
such files. -/
theorem readEntries_includeFields (names : List String) (fields : List (String × Json)) :
    ∃ given, (∀ key : Key, key.name ∉ given) ∧
      record.readEntries (Json.treeFields (includeFields names ++ fields)) [] empty =
        record.readEntries (Json.treeFields fields) given (including names) := by
  cases names with
  | nil => exact ⟨[], fun _ => List.not_mem_nil, rfl⟩
  | cons name names =>
    obtain ⟨field, put, hfield, hread, hput⟩ := exists_field_of_includes (name :: names)
    refine ⟨["includes"], fun key => by cases key <;> decide, ?_⟩
    rw [← hput]
    exact Record.readEntries_of_read hfield hread List.not_mem_nil _ _

theorem toJson_eq (file : File) :
    file.toJson = .object (includeFields file.includes ++ file.keyFields Key.all) := rfl

/-- A configuration file is taken out of its own JSON form. -/
theorem decode_toJson (file : File) : decode file.toJson.tree = .ok file := by
  obtain ⟨given, hgiven, hincludes⟩ :=
    readEntries_includeFields file.includes (file.keyFields Key.all)
  obtain ⟨given', hkeys⟩ := readEntries_keyFields file (show Key.all.Nodup by decide)
    (fun key _ => hgiven key) (show (including file.includes).includes = _ from rfl) fun key => by
      rw [if_pos key.mem_all, value?_including]
  rw [hkeys] at hincludes
  rw [toJson_eq, Json.tree, decode, Record.decode_map, Record.readMap,
    show record.initial = empty from rfl, hincludes]
  rfl

/-- There are no numbers in a configuration file. -/
theorem whole_toJson (file : File) : file.toJson.Whole := by
  refine Json.wholeFields_iff.mpr fun field hfield => ?_
  rcases List.mem_append.mp hfield with hfield | hfield
  · obtain ⟨-, rfl⟩ : _ ∧ field = ("includes", .array (file.includes.map .text)) := by
      simpa using hfield
    refine Json.wholeItems_iff.mpr fun item hitem => ?_
    obtain ⟨name, -, rfl⟩ := List.mem_map.mp hitem
    trivial
  · obtain ⟨key, -, hkey⟩ := List.mem_filterMap.mp hfield
    obtain ⟨value, -, rfl⟩ := Option.map_eq_some_iff.mp hkey
    cases value <;> trivial

end File
end Config

namespace Pyxis

/-- An environment is taken out of its own JSON form. -/
theorem Environment.decode_toJson (environment : Environment) :
    decode environment.toJson.tree = .ok environment := by
  rw [toJson, Json.tree, decode, ofText, ofName?_name]

end Pyxis

namespace Json

/-- Configuration files, results, the document for users with all its parts, and the names of
environments lose nothing in writing and reading. -/
theorem documents_roundTrip :
    RoundTrips Config.File.toJson Config.File.decode ∧
    RoundTrips Report.Entry.toJson Report.Entry.record.decode ∧
    RoundTrips Report.Results.toJson Report.Results.record.decode ∧
    RoundTrips Report.Library.toJson Report.Library.record.decode ∧
    RoundTrips Report.Groups.toJson Report.Groups.record.decode ∧
    RoundTrips Report.Response.toJson Report.Response.decode ∧
    RoundTrips Pyxis.Environment.toJson Pyxis.Environment.decode :=
  ⟨.of_tree Config.File.whole_toJson Config.File.decode_toJson,
    .of_tree Report.Entry.whole_toJson Report.Entry.decode_toJson,
    .of_tree Report.Results.whole_toJson Report.Results.decode_toJson,
    .of_tree Report.Library.whole_toJson Report.Library.decode_toJson,
    .of_tree Report.Groups.whole_toJson Report.Groups.decode_toJson,
    .of_tree Report.Response.whole_toJson Report.Response.decode_toJson,
    .of_tree (fun _ => trivial) Pyxis.Environment.decode_toJson⟩

/-- A library that is given as an array of its fields is settled as an object. -/
example : rewritten Report.Library.toJson Report.Library.record.decode .compact
    "[\"preflight\", \"0.1.0\"]" =
      .ok "\x7b\"name\":\"preflight\",\"version\":\"0.1.0\"\x7d" := by
  decide +kernel

end Json
end ContainerCert
