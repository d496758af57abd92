/-
The summary of a schema as a data value: its declarations, the names of its records, and its
diagnostics with their counts.
-/
import SampleTypes.Schema

namespace SampleTypes.Report.Summary

/-- A field with the description of its type. -/
def ofField (field : String × FieldType) : Value :=
  .object [("name", .string field.1), ("type", .string field.2.describe)]

/-- A declaration with the descriptions of its types. -/
def ofDeclaration : Declaration FieldType → Value
  | .record r =>
    .object [("kind", .string "record"), ("name", .string r.name),
      ("fields", .array (r.fields.map ofField))]
  | .alias a =>
    .object [("kind", .string "alias"), ("name", .string a.name),
      ("type", .string a.element.describe)]

/-- A diagnostic with its level. -/
def ofDiagnostic (d : Diagnostic) : Value :=
  .object [("level", .string d.level.word), ("message", .string d.message)]

/-- The number of diagnostics of every level. -/
def ofCounts (diagnostics : List Diagnostic) : Value :=
  .object ((Diagnostic.counts diagnostics).map (fun (level, n) => (level.word, .int n)))

/-- The summary of a schema. -/
def ofSchema (s : Schema) : Value :=
  .object [
    ("declarations", .array (s.declarations.map ofDeclaration)),
    ("record_names", .array (s.recordNames.map .string)),
    ("diagnostics", .array (s.diagnostics.map ofDiagnostic)),
    ("diagnostic_counts", ofCounts s.diagnostics)]

end SampleTypes.Report.Summary
