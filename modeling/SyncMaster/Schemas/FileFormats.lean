import SyncMaster.Schemas.Values

/-!
# File Formats

The formats of the files that a transfer reads or writes, with their dumps and
what validates them.

The compressions are one enumeration here, and every format lists those it has.
Excel files have none. JSON is a format of sources only.

## Main definitions

* `FormatType`, `Compression`: The formats, and the compressions of each.
* `FileFormat`: The schemas.
* `FileFormat.modelDump`: What is stored.
* `FileFormat.validate`: What accepts them.
-/

namespace SyncMaster

open Validated

inductive FormatType where
  | csv | jsonline | json | excel | xml | orc | parquet
  deriving DecidableEq, Repr

def FormatType.value : FormatType → String
  | .csv => "csv"
  | .jsonline => "jsonline"
  | .json => "json"
  | .excel => "excel"
  | .xml => "xml"
  | .orc => "orc"
  | .parquet => "parquet"

/-- `TARGET_FILE_FORMAT`. JSON format is not supported for writing. -/
def targetFileFormat : List FormatType :=
  [.csv, .jsonline, .excel, .xml, .orc, .parquet]

/-- `SOURCE_FILE_FORMAT`. -/
def sourceFileFormat : List FormatType :=
  targetFileFormat ++ [.json]

inductive Compression where
  | none | bzip2 | gzip | lz4 | snappy | deflate | zlib
  deriving DecidableEq, Repr

def Compression.value : Compression → String
  | .none => "none"
  | .bzip2 => "bzip2"
  | .gzip => "gzip"
  | .lz4 => "lz4"
  | .snappy => "snappy"
  | .deflate => "deflate"
  | .zlib => "zlib"

/-- The members of the compression enumerations. -/
def FormatType.compressions : FormatType → List Compression
  | .csv | .jsonline | .json => [.none, .bzip2, .gzip, .lz4, .snappy, .deflate]
  | .xml => [.none, .bzip2, .gzip, .lz4, .snappy]
  | .orc => [.none, .snappy, .zlib, .lz4]
  | .parquet => [.none, .snappy, .gzip, .lz4]
  | .excel => []

/-- A compression that the format has. -/
abbrev CompressionOf (type : FormatType) := { c : Compression // c ∈ type.compressions }

inductive FileFormat where
  | csv (delimiter encoding quote escape : String) (includeHeader : Bool) (lineSep : String)
      (compression : CompressionOf .csv)
  | jsonline (encoding lineSep : String) (compression : CompressionOf .jsonline)
  | json (encoding lineSep : String) (compression : CompressionOf .json)
  | excel (includeHeader : Bool) (startCell : Option String)
  | xml (rootTag rowTag : String) (compression : CompressionOf .xml)
  | orc (compression : CompressionOf .orc)
  | parquet (compression : CompressionOf .parquet)

namespace FileFormat

def type : FileFormat → FormatType
  | csv .. => .csv
  | jsonline .. => .jsonline
  | json .. => .json
  | excel .. => .excel
  | xml .. => .xml
  | orc .. => .orc
  | parquet .. => .parquet

/-- The fields behind the type in `model_dump(mode="json")`. -/
def fields : FileFormat → Dict
  | csv delimiter encoding quote escape includeHeader lineSep compression =>
      [("delimiter", .str delimiter), ("encoding", .str encoding), ("quote", .str quote),
        ("escape", .str escape), ("include_header", .bool includeHeader),
        ("line_sep", .str lineSep), ("compression", .str compression.val.value)]
  | jsonline encoding lineSep compression =>
      [("encoding", .str encoding), ("line_sep", .str lineSep),
        ("compression", .str compression.val.value)]
  | json encoding lineSep compression =>
      [("encoding", .str encoding), ("line_sep", .str lineSep),
        ("compression", .str compression.val.value)]
  | excel includeHeader startCell =>
      [("include_header", .bool includeHeader),
        ("start_cell", (startCell.map Json.str).getD .null)]
  | xml rootTag rowTag compression =>
      [("root_tag", .str rootTag), ("row_tag", .str rowTag),
        ("compression", .str compression.val.value)]
  | orc compression => [("compression", .str compression.val.value)]
  | parquet compression => [("compression", .str compression.val.value)]

/-- `model_dump(mode="json")`. -/
def modelDump (fileFormat : FileFormat) : Dict :=
  ("type", .str fileFormat.type.value) :: fileFormat.fields

/-! ## Validation -/

/-- A member of the compression enumeration of the format. -/
def compression (type : FormatType) (default : CompressionOf type) (d : Dict) :
    Checked (CompressionOf type) :=
  fieldOr d "compression" default (member (fun c => c.val.value) type.compressions.attach)

/-- The schema of the format, with its defaults. -/
def ofType (pydantic : Pydantic) (d : Dict) : FormatType → Checked FileFormat
  | .csv =>
      FileFormat.csv <$> fieldOr d "delimiter" "," str <*> fieldOr d "encoding" "utf-8" str <*>
        fieldOr d "quote" "\"" str <*> fieldOr d "escape" "\\" str <*>
        fieldOr d "include_header" false pydantic.boolean <*> fieldOr d "line_sep" "\n" str <*>
        compression .csv ⟨.gzip, by decide⟩ d
  | .jsonline =>
      FileFormat.jsonline <$> fieldOr d "encoding" "utf-8" str <*> fieldOr d "line_sep" "\n" str <*>
        compression .jsonline ⟨.gzip, by decide⟩ d
  | .json =>
      FileFormat.json <$> fieldOr d "encoding" "utf-8" str <*> fieldOr d "line_sep" "\n" str <*>
        compression .json ⟨.gzip, by decide⟩ d
  | .excel =>
      FileFormat.excel <$> fieldOr d "include_header" false pydantic.boolean <*>
        fieldOr d "start_cell" none (nullable str)
  | .xml =>
      FileFormat.xml <$> field d "root_tag" str <*> field d "row_tag" str <*>
        compression .xml ⟨.gzip, by decide⟩ d
  | .orc => FileFormat.orc <$> compression .orc ⟨.zlib, by decide⟩ d
  | .parquet => FileFormat.parquet <$> compression .parquet ⟨.snappy, by decide⟩ d

/-- A file format, one of those allowed. -/
def validate (pydantic : Pydantic) (allowed : List FormatType) : Json → Checked FileFormat :=
  tagged FormatType.value allowed (fun type d => ofType pydantic d type)

/-! ## Exceptions -/

theorem not_raises_compression (type : FormatType) (default : CompressionOf type) (d : Dict) :
    ¬ (compression type default d).Raises :=
  not_raises_fieldOr (not_raises_member _ _)

/-- The validation of a file format raises nothing. -/
theorem not_raises_validate (pydantic : Pydantic) (allowed : List FormatType) (j : Json) :
    ¬ (validate pydantic allowed j).Raises := by
  unfold validate
  rw [raises_tagged]
  intro h
  rcases h with ⟨type, d, _, h⟩
  have hstr : ∀ key default, ¬ (fieldOr d key default str).Raises :=
    fun key default => not_raises_fieldOr not_raises_str
  have hbool : ∀ key default, ¬ (fieldOr d key default pydantic.boolean).Raises :=
    fun key default => not_raises_fieldOr pydantic.not_raises_boolean
  have hnull : ∀ key default, ¬ (fieldOr d key default (nullable str)).Raises :=
    fun key default => not_raises_fieldOr (fun j => not_raises_nullable not_raises_str)
  have hrequired : ∀ key, ¬ (field d key str).Raises := fun key => not_raises_field not_raises_str
  cases type <;>
    simp only [ofType, raises_seq, raises_map, hstr, hbool, hnull, hrequired,
      not_raises_compression, or_self] at h

end FileFormat

end SyncMaster
