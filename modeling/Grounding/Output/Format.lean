import Grounding.Json.Writer
import Grounding.Ontology
import Grounding.Concept.Document
import Grounding.Output.Palette
import Grounding.Output.Table

/-! Output formats: JSON on one line or indented, and tables. -/

namespace Grounding

inductive OutputFormat
  | json
  | pretty
  | table
  deriving DecidableEq

namespace OutputFormat

/-- The format with a name in any case. -/
def ofName (name : String) : Except Failure OutputFormat :=
  match Text.lowercase name with
  | "json" => .ok json
  | "pretty" | "json-pretty" => .ok pretty
  | "table" => .ok table
  | other =>
    .error (.ofReport (.system .outputFormat
      s!"Unknown output format '{other}', expected json, pretty or table" none))

/-- The format that is asked for, and indented JSON when none is. -/
def ofRequest (name? : Option String) : Except Failure OutputFormat :=
  match name? with
  | some name => ofName name
  | none => .ok pretty

/-- A value inside a cell: strings stand without quotes. -/
def plainText : Json → String
  | .string s => s
  | v => v.write .compact

/-- The text of a cell: items are separated by commas. -/
def cellText : Json → String
  | .array items => ", ".intercalate (items.map plainText)
  | v => plainText v

/-- The members of an object as a table; no other value has one. -/
def tableOf? : Json → Option String
  | .object members =>
    some (Table.render (["Key", "Value"] :: members.map fun m => [m.1, cellText m.2]))
  | _ => none

/-- The text of a value. What has no table is written as indented JSON. -/
def render (format : OutputFormat) (v : Json) : String :=
  match format with
  | json => v.write .compact
  | pretty => v.write .pretty
  | table => (tableOf? v).getD (v.write .pretty)

end OutputFormat

namespace Ontology

/-- The entries as a document, each with its name. -/
def listing (o : Ontology) : Json :=
  .array (o.entries.map fun entry =>
    .object [("name", .string entry.1), ("concept", entry.2.toJson)])

/-- The entries in an output format. -/
def renderListing (o : Ontology) (format : OutputFormat) : String :=
  match format with
  | .table =>
    Table.render (["Name", "Type", "Selection"] ::
      o.entries.map fun entry => [entry.1, entry.2.kind.tag, entry.2.display])
  | format => format.render o.listing

end Ontology

end Grounding
