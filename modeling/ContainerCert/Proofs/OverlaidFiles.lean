import ContainerCert.Proofs.DocumentRoundTrips
import ContainerCert.Proofs.LayeredIncludes
import ContainerCert.Proofs.SettingsSources

/-!
# Files that are laid over one another

A file says one thing about each key at most, and a file that is laid over another says what the
upper one says, or else the lower one. On the keys, laying files over one another is therefore
choosing the first that says something, which is associative and has the empty file as its unit; and
reading files into settings one after the other is choosing the last that says something, which is
the same. What a file says about a key is what the field of a document that has the name of the key
puts into it.
-/

namespace ContainerCert.Config

namespace File

open Data (RecordField)

/-- The field of a name holds a value in a file: the value can be read for it, and to put it there
changes nothing. -/
def Holds (file : File) (name : String) (value : Value) : Prop :=
  ∃ field put, record.fields.find? (·.name == name) = some field ∧
    field.read (valueJson value).tree = .ok put ∧ put file = file

variable {file : File} {key : Key} {value : Value}

theorem laidOver_laidOver (upper middle lower : File) :
    upper.laidOver (middle.laidOver lower) = (upper.laidOver middle).laidOver lower := by
  refine ext_value? rfl fun key => ?_
  rw [value?_laidOver, value?_laidOver, value?_laidOver, value?_laidOver, Option.or_assoc]

/-- A file says the same without the files that it includes. -/
theorem value?_with_includes (file : File) (includes : List String) (key : Key) :
    { file with includes := includes }.value? key = file.value? key := by
  cases key <;> rfl

theorem laidOver_empty (file : File) : file.laidOver empty = { file with includes := [] } := by
  refine ext_value? rfl fun key => ?_
  rw [value?_laidOver, value?_empty, Option.or_none]
  exact (value?_with_includes file [] key).symm

theorem empty_laidOver (file : File) : empty.laidOver file = { file with includes := [] } := by
  refine ext_value? rfl fun key => ?_
  rw [value?_laidOver, value?_empty, Option.none_or]
  exact (value?_with_includes file [] key).symm

/-- The entries of a file are what it says about the keys. -/
theorem mem_entries_iff : (key, value) ∈ file.entries ↔ file.value? key = some value := by
  rw [entries, List.mem_filterMap]
  constructor
  · rintro ⟨other, -, hother⟩
    obtain ⟨content, hcontent, hsame⟩ := Option.map_eq_some_iff.mp hother
    cases hsame
    exact hcontent
  · intro hvalue
    exact ⟨key, Settings.mem_entryOrder key, by rw [hvalue]; rfl⟩

/-- No key stands twice among the entries. -/
theorem entries_keys_nodup (file : File) : (file.entries.map Prod.fst).Nodup := by
  have horder : entryOrder.Nodup := by decide
  rw [entries, List.map_filterMap]
  refine List.Nodup.filterMap (fun key other found hkey hother => ?_) horder
  rw [Option.mem_def, Option.map_map, Option.map_eq_some_iff] at hkey hother
  obtain ⟨_, _, rfl⟩ := hkey
  obtain ⟨_, _, hsame⟩ := hother
  exact hsame.symm

/-- What is read for the field of a key is what the file then says about the key. -/
theorem exists_field_of_key (key : Key) :
    ∃ field, record.fields.find? (·.name == key.name) = some field ∧
      ∀ value put, field.read (valueJson value).tree = .ok put →
        ∀ file : File, (put file).value? key = some value := by
  cases key
  all_goals
    refine ⟨_, rfl, ?_⟩
    rintro (on | content) put hread file
  -- A value of the other kind is not read.
  all_goals cases hread
  all_goals rfl

/-- The field with the name of a key holds what the file says about the key. -/
theorem holds_name_iff : file.Holds key.name value ↔ file.value? key = some value := by
  constructor
  · rintro ⟨field, put, hfield, hread, hput⟩
    obtain ⟨other, hother, hreads⟩ := exists_field_of_key key
    obtain rfl : field = other := Option.some.inj (hfield.symm.trans hother)
    rw [← hput]
    exact hreads value put hread file
  · intro hvalue
    obtain ⟨field, put, hfield, hread, hput⟩ := exists_field_of_value? key hvalue
    refine ⟨field, put, hfield, hread, ext_value? (hput file).1 fun k => ?_⟩
    rw [(hput file).2 k]
    split
    · next hk => rw [hk, hvalue]
    · rfl

end File

/-- Reading a file that was laid over another is reading the two one after the other. -/
theorem Settings.loadFile_laidOver (settings : Settings) (lower upper : File) :
    settings.loadFile (upper.laidOver lower) = (settings.loadFile lower).loadFile upper := by
  have hgiven (source : Source) (key : Key) :
      (settings.loadFile (upper.laidOver lower)).given source key =
        ((settings.loadFile lower).loadFile upper).given source key := by
    rw [loadFile_given, loadFile_given, loadFile_given, File.value?_laidOver]
    split
    · simp only [Option.orElse_eq_orElse, Option.orElse_eq_or, Option.or_assoc]
    · rfl
  exact congrArg Settings.mk (funext₂ hgiven)

/-- To lay files over one another is associative, and the empty file above or below another changes
nothing, but that the result includes no files. To read a file that was laid over another is to read
the two one after the other, into any settings. A key stands among the entries of a file once at
most, and with the value that the field of the same name holds. -/
theorem laidOver_laws_and_entries :
    (∀ a b c : File, c.laidOver (b.laidOver a) = (c.laidOver b).laidOver a) ∧
    (∀ a : File, a.laidOver .empty = { a with includes := [] } ∧
      File.empty.laidOver a = { a with includes := [] }) ∧
    (∀ (settings : Settings) (a b : File),
      settings.loadFile (b.laidOver a) = (settings.loadFile a).loadFile b) ∧
    ∀ file : File, (file.entries.map Prod.fst).Nodup ∧
      ∀ key value, (key, value) ∈ file.entries ↔ file.Holds key.name value :=
  ⟨fun a b c => File.laidOver_laidOver c b a,
    fun a => ⟨a.laidOver_empty, a.empty_laidOver⟩,
    fun settings a b => settings.loadFile_laidOver a b,
    fun file => ⟨file.entries_keys_nodup,
      fun _ _ => File.mem_entries_iff.trans File.holds_name_iff.symm⟩⟩

end ContainerCert.Config
