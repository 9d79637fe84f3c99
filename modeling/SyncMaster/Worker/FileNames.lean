import SyncMaster.Library.Assoc
import SyncMaster.Library.Templates
import SyncMaster.Worker.Controller

/-!
# Names of Files

A transfer gives the files it has written names of its own. The name is the
template of the transfer, formatted with the number of the file, its extension
and two values of the run.

The validator of a template looks for the placeholders as substrings, and then
formats the template with empty strings. The handler formats it with numbers
for two of the arguments. This leaves two gaps. A placeholder inside doubled
braces is a substring, but it is not replaced. And an attribute that strings
have may be one that numbers do not have.

## Main definitions

* `Datetime`, `Datetime.strftime`: A timestamp, and the text of it.
* `FileHandler.getFileExtension`, `FileHandler.getFileName`: The two methods.
* `FileHandler.newNames`: The names that `_rename_files` gives.
* `NamesApart`: Every file gets a name, and no other file gets it.
* `TellsParts`: The template formats, and shows the number of the file.

## Theorems

* `read_isOk_iff`: When an accepted template formats.
* `argument_mem_read`: Which arguments it shows.
* `namesApart_iff`: The names are apart just when the template tells the parts.
-/

namespace SyncMaster

/-! ## The methods -/

/-- A point of time on the calendar, at which a row can be created. The years before 1000
    are left out, since not every platform writes them with four digits. -/
structure Datetime where
  year : Nat
  month : Nat
  day : Nat
  hour : Nat
  minute : Nat
  second : Nat
  microsecond : Nat
  valid : 1000 ≤ year ∧ year ≤ 9999 ∧ 1 ≤ month ∧ month ≤ 12 ∧ 1 ≤ day ∧ day ≤ 31 ∧ hour ≤ 23 ∧
    minute ≤ 59 ∧ second ≤ 59 ∧ microsecond ≤ 999999

/-- A number with zeros in front. -/
def zeroPadded (width n : Nat) : String :=
  String.ofList (List.leftpad width '0' (Nat.toDigits 10 n))

/-- `strftime("%Y_%m_%d_%H_%M_%S")` -/
def Datetime.strftime (t : Datetime) : String :=
  zeroPadded 4 t.year ++ "_" ++ zeroPadded 2 t.month ++ "_" ++ zeroPadded 2 t.day ++ "_" ++
    zeroPadded 2 t.hour ++ "_" ++ zeroPadded 2 t.minute ++ "_" ++ zeroPadded 2 t.second

/-- The attribute `compression`. Excel files have none. -/
def FileFormat.compressionOf : FileFormat → Option Compression
  | .csv _ _ _ _ _ _ compression => some compression.val
  | .jsonline _ _ compression | .json _ _ compression => some compression.val
  | .excel _ _ => none
  | .xml _ _ compression => some compression.val
  | .orc compression => some compression.val
  | .parquet compression => some compression.val

namespace FileHandler

/-- `COLUMN_FORMATS` -/
def columnFormats : List String := ["parquet", "orc"]

/-- `_compression_to_file_suffix` -/
def compressionToFileSuffix : Compression → Option String
  | .none => none
  | .gzip => some "gz"
  | .snappy => some "snappy"
  | .zlib => some "zlib"
  | .lz4 => some "lz4"
  | .bzip2 => some "bz2"
  | .deflate => some "deflate"

/-- `_file_format_to_file_suffix` -/
def fileFormatToFileSuffix : FormatType → String
  | .json => "json"
  | .jsonline => "jsonl"
  | .csv => "csv"
  | .xml => "xml"
  | .excel => "xlsx"
  | .parquet => "parquet"
  | .orc => "orc"

/-- What `_get_file_extension` makes of the class of a format and its compression. -/
def fileExtension (type : FormatType) (compression : Option Compression) : String :=
  let extensionSuffix := fileFormatToFileSuffix type
  match compression.bind compressionToFileSuffix with
  | none => extensionSuffix
  | some compressionSuffix =>
      -- What the library of the format calls its codec.
      if extensionSuffix = "parquet" ∧ compressionSuffix = "lz4" then "lz4hadoop.parquet"
      else if columnFormats.contains extensionSuffix then compressionSuffix ++ "." ++ extensionSuffix
      else extensionSuffix ++ "." ++ compressionSuffix

/-- `_get_file_extension` -/
def getFileExtension (fileFormat : FileFormat) : String :=
  fileExtension fileFormat.type fileFormat.compressionOf

/-- The arguments that the handler formats a template with. -/
def fileNameArguments (calendar : Time → Datetime) (run : RunDTO) (index : Nat)
    (extension : String) : List (String × Argument) :=
  [("index", ⟨.int, toString index⟩), ("extension", ⟨.str, extension⟩),
    ("run_id", ⟨.int, toString run.id⟩),
    ("run_created_at", ⟨.str, (calendar run.createdAt).strftime⟩)]

section Names

variable (py : Interpreter) (calendar : Time → Datetime) (template : String) (run : RunDTO)

/-- `_get_file_name` -/
def getFileName (addresses : Nat → Nat) (index : Nat) (extension : String) :
    Except FormatError String :=
  py.formatArguments (fileNameArguments calendar run index extension) addresses template

/-- The names that `_rename_files` gives to `n` files. -/
def newNames (fileFormat : FileFormat) (addresses : Nat → Nat → Nat) (n : Nat) :
    Except FormatError (List String) :=
  (List.range n).mapM (fun index =>
    getFileName py calendar template run (addresses index) index (getFileExtension fileFormat))

end Names

end FileHandler

/-! ## What a template has to do -/

/-- The types of the arguments. -/
def fileNameTypes : List (String × ArgumentType) :=
  [("index", .int), ("extension", .str), ("run_id", .int), ("run_created_at", .str)]

/-- The arguments of a name. -/
theorem argument_cases {argument : String} {type : ArgumentType}
    (h : fileNameTypes.lookup argument = some type) :
    argument = "index" ∨ argument = "extension" ∨ argument = "run_id" ∨
      argument = "run_created_at" := by
  have hmem := Assoc.mem_of_lookup h
  simp only [fileNameTypes, List.mem_cons, Prod.mk.injEq, List.not_mem_nil, or_false] at hmem
  rcases hmem with ⟨rfl, _⟩ | ⟨rfl, _⟩ | ⟨rfl, _⟩ | ⟨rfl, _⟩
  · exact Or.inl rfl
  · exact Or.inr (Or.inl rfl)
  · exact Or.inr (Or.inr (Or.inl rfl))
  · exact Or.inr (Or.inr (Or.inr rfl))

section Templates

variable (py : Interpreter) (template : String)

/-- Every file of every run gets a name, and no two files of a run get the same. -/
def NamesApart : Prop :=
  ∀ (calendar : Time → Datetime) (run : RunDTO) (fileFormat : FileFormat)
    (addresses : Nat → Nat → Nat) (n : Nat), ∃ names,
      FileHandler.newNames py calendar template run fileFormat addresses n = .ok names ∧
        names.Nodup

/-- The attributes that the template asks of numbers are attributes of numbers. -/
def SuitsNumbers : Prop :=
  ∀ name, .field name ∈ pieces template →
    fileNameTypes.lookup (String.ofList (splitDots name).1) = some .int →
      Found (py.attributeOf .int) [] (splitDots name).2

/-- A field of the template is replaced by the argument. -/
def Shows (argument : String) : Prop :=
  ∃ name type, .field name ∈ pieces template ∧ String.ofList (splitDots name).1 = argument ∧
    fileNameTypes.lookup argument = some type ∧
      ((splitDots name).2 = [] ∨
        py.attributeOf type ((splitDots name).2.map String.ofList) = some .itself)

/-- The template formats, and shows the number of the file. -/
structure TellsParts : Prop where
  suitsNumbers : SuitsNumbers py template
  index : Shows py template "index"

/-- The fields of a template. -/
def fieldNames : List (List Char) :=
  (pieces template).filterMap (fun piece =>
    match piece with
    | .field name => some name
    | _ => none)

theorem mem_fieldNames {template : String} {name : List Char} :
    name ∈ fieldNames template ↔ .field name ∈ pieces template := by
  rw [fieldNames, List.mem_filterMap]
  constructor
  · intro h
    rcases h with ⟨piece, hpiece, hname⟩
    cases piece with
    | field other =>
        rw [← Option.some.inj hname]
        exact hpiece
    | literal c => cases hname
    | malformed => cases hname
  · exact fun h => ⟨_, h, rfl⟩

instance : Decidable (SuitsNumbers py template) :=
  decidable_of_iff (∀ name ∈ fieldNames template,
      fileNameTypes.lookup (String.ofList (splitDots name).1) = some .int →
        Found (py.attributeOf .int) [] (splitDots name).2)
    (forall_congr' (fun _ => imp_congr_left mem_fieldNames))

instance (argument : String) : Decidable (Shows py template argument) :=
  decidable_of_iff (∃ name ∈ fieldNames template, String.ofList (splitDots name).1 = argument ∧
      ∃ type ∈ [ArgumentType.int, ArgumentType.str], fileNameTypes.lookup argument = some type ∧
        ((splitDots name).2 = [] ∨
          py.attributeOf type ((splitDots name).2.map String.ofList) = some .itself))
    ⟨fun ⟨name, hname, hfirst, type, _, htype⟩ => ⟨name, type, mem_fieldNames.mp hname, hfirst, htype⟩,
      fun ⟨name, type, hname, hfirst, htype⟩ =>
        ⟨name, mem_fieldNames.mpr hname, hfirst, type, by cases type <;> simp, htype⟩⟩

instance : Decidable (TellsParts py template) :=
  decidable_of_iff (SuitsNumbers py template ∧ Shows py template "index")
    ⟨fun h => ⟨h.1, h.2⟩, fun h => ⟨h.suitsNumbers, h.index⟩⟩

end Templates

/-! ## Accepted templates -/

section Accepted

variable {py : Interpreter} {template : String}

theorem mem_emptyPlaceholders {argument value : String}
    (h : emptyPlaceholders.lookup argument = some value) :
    value = "" ∧ ∃ type, fileNameTypes.lookup argument = some type := by
  have hmem := Assoc.mem_of_lookup h
  simp only [emptyPlaceholders, List.mem_cons, Prod.mk.injEq, List.not_mem_nil, or_false] at hmem
  rcases hmem with ⟨rfl, rfl⟩ | ⟨rfl, rfl⟩ | ⟨rfl, rfl⟩ | ⟨rfl, rfl⟩
  · exact ⟨rfl, .int, rfl⟩
  · exact ⟨rfl, .str, rfl⟩
  · exact ⟨rfl, .str, rfl⟩
  · exact ⟨rfl, .int, rfl⟩

/-- Every piece of an accepted template is a character, or a field of one of the
    arguments with attributes that strings have. -/
theorem accepted_piece
    (haccepted : validateFileNameTemplate py.toPython template = .ok template) {piece : Piece}
    (hpiece : piece ∈ pieces template) :
    (∃ c, piece = .literal c) ∨ ∃ name, piece = .field name ∧ (splitDots name).1 ≠ [] ∧
      py.toPython.integer 0 (splitDots name).1 = .ok none ∧
        (∃ type, fileNameTypes.lookup (String.ofList (splitDots name).1) = some type) ∧
          Found (py.attributeOf .str) [] (splitDots name).2 := by
  rcases format_of_accepted haccepted with ⟨empty, hformat⟩
  rcases Python.pieceText_of_renderPieces hformat hpiece with ⟨text, htext⟩
  cases piece with
  | literal c => exact Or.inl ⟨c, rfl⟩
  | malformed => cases htext
  | field name =>
      rcases mapped_eq_ok.mp htext with ⟨result, hresult, _⟩
      rcases Python.fieldText_eq_ok.mp hresult with ⟨hne, hinteger, value, hvalue, hattributes⟩
      rcases mem_emptyPlaceholders hvalue with ⟨rfl, htype⟩
      have hfound := attributeText_isOk_iff.mp ⟨result, hattributes⟩
      exact Or.inr ⟨name, rfl, hne, hinteger, htype, (found_congr (py.getattr_isSome "")).mp hfound⟩

/-- An accepted template formats just when it suits numbers. -/
theorem read_isOk_iff (haccepted : validateFileNameTemplate py.toPython template = .ok template) :
    (∃ symbols, py.read fileNameTypes template = .ok symbols) ↔ SuitsNumbers py template := by
  refine Interpreter.readPieces_isOk_iff.trans ?_
  constructor
  · intro h name hname htype
    rcases h _ hname with ⟨symbols, hsymbols⟩
    rcases Interpreter.fieldSymbols_eq_ok.mp hsymbols with ⟨_, _, type, found, hlookup, hfound, _⟩
    rw [htype] at hlookup
    rw [← Option.some.inj hlookup] at hfound
    exact Interpreter.attributeAt_isOk_iff.mp ⟨found, hfound⟩
  · intro hsuits piece hpiece
    rcases accepted_piece haccepted hpiece with ⟨c, rfl⟩ | ⟨name, rfl, hne, hinteger, htype, hstr⟩
    · exact ⟨[.char c], rfl⟩
    · rcases htype with ⟨type, htype⟩
      have hfound : Found (py.attributeOf type) [] (splitDots name).2 := by
        cases type with
        | int => exact hsuits name hpiece htype
        | str => exact hstr
      rcases Interpreter.attributeAt_isOk_iff.mpr hfound with ⟨found, hat⟩
      exact ⟨_, Interpreter.fieldSymbols_eq_ok.mpr ⟨hne, hinteger, type, found, htype, hat, rfl⟩⟩

theorem argument_mem_symbols {name argument : String} {found : Attribute} :
    Symbol.argument argument ∈ found.symbols name ↔ found = .itself ∧ name = argument := by
  cases found with
  | itself => simp [Attribute.symbols, eq_comm]
  | constant text => simp [Attribute.symbols]
  | addressed text => simp [Attribute.symbols]

/-- The path of a field leads back to the argument. -/
theorem attributeAt_eq_itself {type : ArgumentType} {names : List (List Char)} {found : Attribute}
    (h : py.attributeAt type [] .itself names = .ok found) :
    found = .itself ↔ names = [] ∨ py.attributeOf type (names.map String.ofList) = some .itself := by
  by_cases hnames : names = []
  · rw [hnames] at h
    exact iff_of_true (Except.ok.inj h).symm (Or.inl hnames)
  · have hlast := Interpreter.attributeAt_eq h hnames
    rw [List.nil_append] at hlast
    rw [hlast, Option.some.injEq, or_iff_right hnames]

/-- What an accepted template shows of its arguments is what is in its symbols. -/
theorem argument_mem_read {symbols : List Symbol} {argument : String}
    (hread : py.read fileNameTypes template = .ok symbols) :
    Symbol.argument argument ∈ symbols ↔ Shows py template argument := by
  rw [Interpreter.mem_readPieces hread]
  constructor
  · intro h
    rcases h with ⟨piece, hpiece, own, hown, hmem⟩
    cases piece with
    | literal c =>
        rw [← Except.ok.inj hown, List.mem_singleton] at hmem
        cases hmem
    | malformed => cases hown
    | field name =>
        rcases Interpreter.fieldSymbols_eq_ok.mp hown with ⟨_, _, type, found, htype, hat, rfl⟩
        rcases argument_mem_symbols.mp hmem with ⟨hitself, hname⟩
        rw [hname] at htype
        exact ⟨name, type, hpiece, hname, htype, (attributeAt_eq_itself hat).mp hitself⟩
  · intro h
    rcases h with ⟨name, type, hpiece, hname, htype, hpath⟩
    rcases Interpreter.readPieces_isOk_iff.mp ⟨symbols, hread⟩ _ hpiece with ⟨own, hown⟩
    refine ⟨_, hpiece, own, hown, ?_⟩
    rcases Interpreter.fieldSymbols_eq_ok.mp hown with ⟨_, _, type', found, htype', hat, rfl⟩
    rw [hname, htype] at htype'
    rw [← Option.some.inj htype'] at hat
    exact argument_mem_symbols.mpr ⟨(attributeAt_eq_itself hat).mpr hpath, hname⟩

end Accepted

/-! ## The names of the files of a run -/

section Distinct

open FileHandler

variable {py : Interpreter} {calendar : Time → Datetime} {template : String} {run : RunDTO}

/-- What the arguments of a name print as. -/
def argumentTexts (calendar : Time → Datetime) (run : RunDTO) (index : Nat) (extension : String)
    (name : String) : String :=
  (((fileNameArguments calendar run index extension).lookup name).map Argument.text).getD ""

/-- A name is what the symbols of the template are written as. -/
theorem getFileName_eq_ok {addresses : Nat → Nat} {index : Nat} {extension name : String} :
    getFileName py calendar template run addresses index extension = .ok name ↔
      ∃ symbols, py.read fileNameTypes template = .ok symbols ∧
        String.ofList (write (argumentTexts calendar run index extension) addresses symbols) = name :=
  mapped_eq_ok

theorem mapM_eq_ok {ε α β : Type} {f : α → Except ε β} {g : α → β} {s : List α}
    (h : ∀ a ∈ s, f a = .ok (g a)) : s.mapM f = .ok (s.map g) := by
  induction s with
  | nil => rfl
  | cons a s ih =>
      rw [List.mapM_cons, h a List.mem_cons_self, ih (fun b hb => h b (List.mem_cons_of_mem a hb))]
      rfl

theorem isOk_of_mapM {ε α β : Type} {f : α → Except ε β} {s : List α} {results : List β}
    (h : s.mapM f = .ok results) {a : α} (ha : a ∈ s) : ∃ b, f a = .ok b := by
  induction s generalizing results with
  | nil => exact absurd ha List.not_mem_nil
  | cons c s ih =>
      rw [List.mapM_cons] at h
      cases hc : f c with
      | error e =>
          rw [hc] at h
          cases h
      | ok d =>
          rw [hc] at h
          rcases List.mem_cons.mp ha with rfl | ha
          · exact ⟨d, hc⟩
          · cases hrest : s.mapM f with
            | error e =>
                rw [hrest] at h
                cases h
            | ok rest => exact ih hrest ha

/-- Of the arguments of a name, the number of the file is the only one that
    differs between the files of a run. -/
theorem argumentTexts_of_ne {i j : Nat} {extension name : String} (hne : name ≠ "index") :
    argumentTexts calendar run i extension name = argumentTexts calendar run j extension name := by
  have hbeq : (name == "index") = false := beq_eq_false_iff_ne.mpr hne
  simp only [argumentTexts, fileNameArguments, List.lookup_cons, hbeq]

theorem argumentTexts_index (index : Nat) (extension : String) :
    argumentTexts calendar run index extension "index" = toString index :=
  rfl

theorem differAt_index (calendar : Time → Datetime) (run : RunDTO) (i j : Nat) (extension : String) :
    DifferAt "index" (argumentTexts calendar run i extension) (argumentTexts calendar run j extension) where
  same := fun _ hne => argumentTexts_of_ne hne
  bracket := fun h => absurd (isDigit_of_mem_toString h) (by decide)
  bracket' := fun h => absurd (isDigit_of_mem_toString h) (by decide)

theorem newNames_eq {symbols : List Symbol} (hread : py.read fileNameTypes template = .ok symbols)
    (fileFormat : FileFormat) (addresses : Nat → Nat → Nat) (n : Nat) :
    newNames py calendar template run fileFormat addresses n = .ok ((List.range n).map (fun index =>
      String.ofList (write (argumentTexts calendar run index (getFileExtension fileFormat))
        (addresses index) symbols))) :=
  mapM_eq_ok (fun _ _ => getFileName_eq_ok.mpr ⟨symbols, hread, rfl⟩)

theorem newNames_nodup {symbols : List Symbol} (hread : py.read fileNameTypes template = .ok symbols)
    (hindex : Symbol.argument "index" ∈ symbols) (fileFormat : FileFormat)
    (addresses : Nat → Nat → Nat) (n : Nat) :
    ∃ names, newNames py calendar template run fileFormat addresses n = .ok names ∧ names.Nodup := by
  refine ⟨_, newNames_eq hread fileFormat addresses n, List.Nodup.map_on ?_ List.nodup_range⟩
  intro i _ j _ hname
  have htexts := String.ofList_injective hname
  exact toString_injective (write_injective (differAt_index calendar run i j _) hindex htexts)

/-- The first run. -/
def sampleRunDTO : RunDTO where
  id := 1
  createdAt := 0

/-- A clock that stands still. -/
def sampleCalendar (_ : Time) : Datetime :=
  ⟨2024, 1, 1, 0, 0, 0, 0, by decide⟩

/-- A template that tells the parts keeps the names apart. -/
theorem namesApart_of_tellsParts
    (haccepted : validateFileNameTemplate py.toPython template = .ok template)
    (htells : TellsParts py template) : NamesApart py template := by
  intro calendar run fileFormat addresses n
  rcases (read_isOk_iff haccepted).mpr htells.suitsNumbers with ⟨symbols, hread⟩
  have hindex := (argument_mem_read hread).mpr htells.index
  exact newNames_nodup hread hindex fileFormat addresses n

/-- For every accepted template: the names are apart just when the template
    formats and shows the number of the file. -/
theorem namesApart_iff (haccepted : validateFileNameTemplate py.toPython template = .ok template) :
    NamesApart py template ↔ TellsParts py template := by
  constructor
  · intro h
    have hnames := h sampleCalendar sampleRunDTO (.excel false none) (fun _ _ => 0)
    -- The first file gets a name, so the template formats.
    rcases hnames 1 with ⟨first, hfirst, _⟩
    rcases isOk_of_mapM hfirst (List.mem_range.mpr one_pos) with ⟨name, hname⟩
    rcases getFileName_eq_ok.mp hname with ⟨symbols, hread, _⟩
    refine ⟨(read_isOk_iff haccepted).mp ⟨symbols, hread⟩, (argument_mem_read hread).mp ?_⟩
    by_contra hindex
    -- The second file gets the same name as the first.
    rcases hnames 2 with ⟨names, htwo, hnodup⟩
    rw [newNames_eq hread] at htwo
    rw [← Except.ok.inj htwo] at hnodup
    have hdiffer := differAt_index sampleCalendar sampleRunDTO 0 1 (getFileExtension (.excel false none))
    have hsame := write_eq_of_notMem hdiffer.same hindex (fun _ => 0)
    have hzero := List.inj_on_of_nodup_map hnodup (List.mem_range.mpr two_pos)
      (List.mem_range.mpr one_lt_two) (congrArg String.ofList hsame)
    exact absurd hzero zero_ne_one
  · exact namesApart_of_tellsParts haccepted

/-- An interpreter that knows the characters of ASCII and no attributes. -/
def asciiInterpreter : Interpreter where
  toPython := asciiPython
  attributeOf := fun _ _ => none
  getattr_isSome := fun _ _ => rfl

theorem namesApart_default : NamesApart asciiInterpreter defaultFileNameTemplate :=
  (namesApart_iff (by decide +kernel)).mpr (by decide +kernel)

/-- The placeholder of the number is inside doubled braces, where it is text. All
    files of a run get one name. -/
theorem not_namesApart_doubledBraces :
    ¬ ∀ (py : Interpreter) (template : String),
      validateFileNameTemplate py.toPython template = .ok template → NamesApart py template := by
  intro h
  have hapart := h asciiInterpreter "{{index}}-{run_id}.{extension}" (by decide +kernel)
  rcases hapart sampleCalendar sampleRunDTO (.excel false none) (fun _ _ => 0) 2 with ⟨names, hnames, hnodup⟩
  have hsame : newNames asciiInterpreter sampleCalendar "{{index}}-{run_id}.{extension}"
      sampleRunDTO (.excel false none) (fun _ _ => 0) 2 = .ok ["{index}-1.xlsx", "{index}-1.xlsx"] := by
    decide +kernel
  rw [← Except.ok.inj (hsame.symm.trans hnames)] at hnodup
  exact absurd hnodup (by decide)

end Distinct

end SyncMaster
