import ContainerCert.Proofs.JsonReading
import ContainerCert.Report.Format
import ContainerCert.Run.Submission

/-!
# Reading reports back

Results and the document for users say all that they are made from: taken out of what their JSON
form is read as, they are the same again, whatever the texts of their entries hold and whichever
of them are empty and so left out. The same holds for the bytes of the file that the document is
saved in.
-/

namespace ContainerCert

/-- The bytes of a text are those of that text. -/
theorem Text.fromUTF8?_toUTF8 (text : String) : String.fromUTF8? text.toUTF8 = some text := by
  have hvalid : text.toUTF8.IsValidUTF8 := text.isValidUTF8
  rw [String.fromUTF8?, dif_pos hvalid]
  rfl

namespace Data

variable {α : Type}

theorem Record.decode_map (record : Record α) (entries : List (String × Tree))
    (stray : Option Tree) :
    record.decode (.map entries stray) = record.readMap entries stray := rfl

/-- An entry whose key has not been given yet is put into the structure. -/
theorem Record.readEntries_of_read {record : Record α} {key : String} {field : RecordField α}
    (hfield : record.fields.find? (·.name == key) = some field) {tree : Tree} {put : α → α}
    (hread : field.read tree = .ok put) {given : List String} (hgiven : key ∉ given)
    (entries : List (String × Tree)) (value : α) :
    record.readEntries ((key, tree) :: entries) given value =
      record.readEntries entries (key :: given) (put value) := by
  rw [readEntries, hfield]
  simp only [if_neg hgiven, hread]
  rfl

theorem Decoder.unsigned_natural (value : UInt64) :
    unsigned (.natural value.toNat) = .ok value := by
  rw [unsigned, if_pos value.toNat_lt, UInt64.ofNat_toNat]

/-- The values of a list are taken out of their trees when each of them is. -/
theorem Decoder.all_map {decode : Decoder α} {write : α → Tree}
    (h : ∀ value, decode (write value) = .ok value) (values : List α) :
    all decode (values.map write) = .ok values := by
  induction values with
  | nil => rfl
  | cons value values ih =>
    rw [List.map_cons, all, h, ih]
    rfl

end Data

namespace Json

/-- What items are read as, one by one. -/
theorem treeItems_eq_map (items : List Json) : treeItems items = items.map tree := by
  induction items with
  | nil => rfl
  | cons item items ih => rw [treeItems, ih, List.map_cons]

theorem wholeItems_iff {items : List Json} : WholeItems items ↔ ∀ item ∈ items, item.Whole := by
  induction items with
  | nil => simp [WholeItems]
  | cons item items ih => rw [WholeItems, ih, List.forall_mem_cons]

theorem wholeFields_iff {fields : List (String × Json)} :
    WholeFields fields ↔ ∀ field ∈ fields, field.2.Whole := by
  induction fields with
  | nil => simp [WholeFields]
  | cons field fields ih => rw [WholeFields, ih, List.forall_mem_cons]

/-- A text that is read as a value gives what is taken out of that value. -/
theorem decodeText_of_ofText {α : Type} {decode : Data.Decoder α} {value : Json} {content : α}
    (hdecode : decode value.tree = .ok content) {text : String}
    (hread : Document.ofText text = ⟨value.tree, true⟩) : decodeText decode text = .ok content := by
  rw [decodeText, hread, Document.decode, hdecode]
  rfl

end Json

namespace Report

open Data (Decoder Record RecordField)
open Json (tree treeItems treeFields Whole WholeItems WholeFields)

/-- The numbers of an entry are natural numbers of 64 bits. -/
theorem Entry.whole_toJson (entry : Entry) : entry.toJson.Whole := by
  have helapsed : entry.elapsed.toNat < UInt64.size := entry.elapsed.toNat_lt
  by_cases hhelp : entry.help.isEmpty = true <;> by_cases hreason : entry.reason.isEmpty = true <;>
    simp [toJson, hhelp, hreason, Whole, WholeFields, helapsed]

/-- An entry is taken out of its own JSON form. -/
theorem Entry.decode_toJson (entry : Entry) :
    Entry.record.decode entry.toJson.tree = .ok entry := by
  obtain ⟨name, description, help, elapsed, reason⟩ := entry
  have helapsed := Decoder.unsigned_natural elapsed
  by_cases hhelp : help = "" <;> by_cases hreason : reason = "" <;>
    simp [toJson, hhelp, hreason, tree, treeFields, Record.decode_map, Record.readMap,
      Record.readEntries, record, RecordField.must, RecordField.may, Decoder.text, helapsed,
      Except.map, bind, Except.bind, pure, Except.pure]

namespace Groups

theorem whole_listJson (entries : List Entry) : (listJson entries).Whole := by
  refine Json.wholeItems_iff.mpr fun item hitem => ?_
  obtain ⟨entry, -, rfl⟩ := List.mem_map.mp hitem
  exact entry.whole_toJson

/-- A list of entries is taken out of its own JSON form. -/
theorem decodeList_listJson (entries : List Entry) :
    decodeList (listJson entries).tree = .ok entries := by
  rw [listJson, tree, Json.treeItems_eq_map, List.map_map]
  exact Decoder.all_map Entry.decode_toJson entries

/-- The three lists are taken out of their own JSON form. -/
theorem decode_toJson (groups : Groups) : record.decode groups.toJson.tree = .ok groups := by
  simp [toJson, fields, tree, treeFields, Record.decode_map, Record.readMap, Record.readEntries,
    record, recordFields, RecordField.must, decodeList_listJson, Except.map, bind, Except.bind,
    pure, Except.pure]

theorem whole_toJson (groups : Groups) : groups.toJson.Whole := by
  simp [toJson, fields, Whole, WholeFields, whole_listJson]

end Groups

namespace Results

/-- Results are taken out of their own JSON form. -/
theorem decode_toJson (results : Results) : record.decode results.toJson.tree = .ok results := by
  simp [toJson, Groups.fields, tree, treeFields, Record.decode_map, Record.readMap,
    Record.readEntries, record, Groups.recordFields, RecordField.must, Decoder.text,
    Decoder.boolean, Groups.decodeList_listJson, Except.map, bind, Except.bind, pure, Except.pure]

theorem whole_toJson (results : Results) : results.toJson.Whole := by
  simp [toJson, Groups.fields, Whole, WholeFields, Groups.whole_listJson]

end Results

/-- A library is taken out of its own JSON form. -/
theorem Library.decode_toJson (library : Library) :
    record.decode library.toJson.tree = .ok library := by
  simp [toJson, tree, treeFields, Record.decode_map, Record.readMap, Record.readEntries, record,
    RecordField.must, Decoder.text, Except.map, bind, Except.bind, pure, Except.pure]

theorem Library.whole_toJson (library : Library) : library.toJson.Whole := by
  simp [toJson, Whole, WholeFields]

namespace Response

/-- A response is taken out of its own JSON form. -/
theorem decode_toJson (response : Response) : decode response.toJson.tree = .ok response := by
  simp [toJson, fields, tree, treeFields, decode, Record.decode_map, Record.readMap,
    Record.readEntries, record, RecordField.must, Decoder.text, Decoder.boolean,
    Library.decode_toJson, Groups.decode_toJson, Except.map, bind, Except.bind, pure, Except.pure]

theorem whole_toJson (response : Response) : response.toJson.Whole := by
  simp [toJson, fields, Whole, WholeFields, Library.whole_toJson, Groups.whole_toJson]

end Response

/-- The document for users is read as the response it is made from. -/
theorem ofText_renderJson (results : Results) :
    Json.Document.ofText (Format.renderJson results) =
      ⟨(Response.ofResults results .this).toJson.tree, true⟩ := by
  have hline : (Format.renderJson results).toList =
      (Response.ofResults results .this).toJson.pretty ++ ['\n'] := by
    rw [Format.renderJson, String.toList_append, Json.prettyText, String.toList_ofList]
    rfl
  rw [Json.Document.ofText, hline]
  exact Json.Document.ofChars_pretty (Response.whole_toJson _) (by simp [Json.Blanks, Json.isBlank])

/-- The document for users says all of the response. -/
theorem decodeText_renderJson (results : Results) :
    Json.decodeText Response.decode (Format.renderJson results) =
      .ok (Response.ofResults results .this) :=
  Json.decodeText_of_ofText (Response.decode_toJson _) (ofText_renderJson results)

end Report

namespace Run

/-- The bytes of a text are read as that text. -/
theorem documentText_toUTF8 (text : String) : documentText text.toUTF8 = text := by
  rw [documentText, Text.fromUTF8?_toUTF8]

end Run
end ContainerCert
