import ContainerCert.Image.Reference
import ContainerCert.Proofs.DocumentRoundTrips

/-!
# Reading image references back

The artifact that holds an image reference is a JSON object with four fields, of which the tag and
the digest may be missing. It says all of the reference: what is read from the file is the reference
that was written.
-/

namespace ContainerCert.Image.Reference

open Data (Decoder Record RecordField)
open Json (Whole WholeFields tree treeFields)

/-- The fields of a reference in a document; there are no others. -/
def record : Record Reference where
  name := "ImageReference"
  initial := ⟨"", "", none, none⟩
  closed := true
  fields := [
    .must "registry" Decoder.text fun v reference => { reference with registry := v },
    .must "repository" Decoder.text fun v reference => { reference with repository := v },
    .may "tag" Decoder.text fun v reference => { reference with tag := some v },
    .may "digest" Decoder.text fun v reference => { reference with digest := some v }]

/-- The reference that a file with this content holds. -/
def ofFile? (content : ByteArray) : Option Reference := do
  let text ← String.fromUTF8? content
  (Json.decodeText record.decode text).toOption

theorem whole_toJson (reference : Reference) : reference.toJson.Whole := by
  obtain ⟨registry, repository, tag, digest⟩ := reference
  cases tag <;> cases digest <;> simp [toJson, Whole, WholeFields]

/-- A reference is taken out of its own JSON form. -/
theorem decode_toJson (reference : Reference) :
    record.decode reference.toJson.tree = .ok reference := by
  obtain ⟨registry, repository, tag, digest⟩ := reference
  cases tag <;> cases digest <;>
    simp [toJson, tree, treeFields, Record.decode_map, Record.readMap, Record.readEntries, record,
      RecordField.must, RecordField.may, Decoder.text, Except.map, bind, Except.bind, pure,
      Except.pure]

/-- References lose nothing in writing and reading. -/
theorem roundTrips : Json.RoundTrips toJson record.decode :=
  .of_tree whole_toJson decode_toJson

/-- The file that a reference is written to holds the reference. -/
theorem ofFile?_prettyText (reference : Reference) :
    ofFile? reference.toJson.prettyText.toUTF8 = some reference := by
  have hread : Json.decodeText record.decode reference.toJson.prettyText = .ok reference :=
    roundTrips.read_write .pretty reference
  rw [ofFile?, Text.fromUTF8?_toUTF8, Option.bind_eq_bind, Option.bind_some, hread]
  rfl

end ContainerCert.Image.Reference
