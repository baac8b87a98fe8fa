import RegistryStorage.Json.Writer
import RegistryStorage.Table
import RegistryStorage.Yaml.Writer

/-!
Reports of results.

A result is a listing, with rows of texts under the same columns, or a single value. Either is
reported in one of three formats: for people as a framed table, or for other programs as JSON
or YAML. A single value is reported to people as YAML.
-/

set_option autoImplicit false

namespace RegistryStorage

/-- The form of a report. -/
inductive Format
  | text
  | json
  | yaml
deriving DecidableEq, Repr, Inhabited

/-- The format of a name. -/
def Format.ofName? : String → Option Format
  | "text" => some .text
  | "json" => some .json
  | "yaml" => some .yaml
  | _ => none

/-- A column of a listing. -/
structure Column where
  /-- The heading in a table. -/
  heading : String
  /-- The key in a record. -/
  key : String
deriving DecidableEq, Repr, Inhabited

/-- Rows of texts under columns. -/
structure Listing where
  columns : List Column
  rows : List (List String)
deriving DecidableEq, Repr, Inhabited

/-- The table of a listing. -/
def Listing.table (l : Listing) : Table := ⟨l.columns.map (·.heading), l.rows⟩

/-- The records of a listing, their members in the order of the columns. -/
def Listing.value (l : Listing) : Json.Value :=
  .list <| l.rows.map fun row =>
    .object (List.zipWith (fun column cell => (column.key, .text cell)) l.columns row)

/-- What is reported to people of a listing without rows. -/
def Listing.emptyText : String := "No data to display"

/-- The report of a listing. -/
def Listing.report (l : Listing) : Format → String
  | .text => if l.rows.isEmpty then Listing.emptyText else l.table.drawn
  | .json => l.value.pretty
  | .yaml => Yaml.render l.value

/-- The report of a value. -/
def Json.Value.report (v : Json.Value) : Format → String
  | .json => v.pretty
  | .text | .yaml => Yaml.render v

end RegistryStorage
