import SyncMaster.Schemas.Transfers

/-!
# Reading a Transfer Back

A response is made of a row by validating its columns once more, with the
schemas that the body went through before it was stored. That this refuses
nothing has to do with how values are dumped: whatever a schema accepts it can
dump, and then it accepts the dump, as the same value.

Numbers and truth values take part in this as far as the library takes them for
themselves. That is what `Pydantic.Exact` says.

## Main definitions

* `Pydantic.Exact`: Numbers and truth values are taken for themselves.
* `RoundTrips`: What is accepted is accepted again when it has been dumped.
* `ReadTransferSchema`: The response.
* `StoredColumns`: A row with the columns of a body.

## Theorems

* `roundTrips_source`, `roundTrips_target`, `roundTrips_transformation` and the
  others: The schemas of a transfer.
* `modelValidate_ok`: A row with the columns of an accepted body can be read.
-/

namespace SyncMaster

open Validated

/-- Numbers and truth values are taken for themselves, and so are sizes, none of which is
    negative. -/
structure Pydantic.Exact (pydantic : Pydantic) : Prop where
  int : ∀ n, pydantic.int (.num n) = some n
  bool : ∀ b, pydantic.bool (.bool b) = some b
  byteSize : ∀ n, 0 ≤ n → pydantic.byteSize (.num n) = .ok n
  nonneg : ∀ j n, pydantic.byteSize j = .ok n → 0 ≤ n

theorem exact_plainPydantic : plainPydantic.Exact where
  int := fun _ => rfl
  bool := fun _ => rfl
  byteSize := fun _ hn => if_pos hn
  nonneg := by
    intro j n h
    cases j with
    | num m =>
        rcases ite_eq_ok.mp h with ⟨hm, heq⟩
        rwa [← heq]
    | _ => cases h

theorem Pydantic.Exact.integer {pydantic : Pydantic} (h : pydantic.Exact) (n : Int) :
    pydantic.integer (.num n) = .ok n := by
  rw [Pydantic.integer, h.int]
  rfl

theorem Pydantic.Exact.boolean {pydantic : Pydantic} (h : pydantic.Exact) (b : Bool) :
    pydantic.boolean (.bool b) = .ok b := by
  rw [Pydantic.boolean, h.bool]
  rfl

/-- What is accepted is accepted again when it has been dumped, as itself. -/
def RoundTrips {α : Type} (check : Json → Checked α) (dump : α → Json) : Prop :=
  ∀ j a, check j = .ok a → check (dump a) = .ok a

section Combinators

variable {α β : Type} {check : Json → Checked α} {dump : α → Json} {d : Dict} {key : String}
  {default a : α}

/-- The value of a field that was accepted. -/
theorem accepted_field (hround : RoundTrips check dump) (h : field d key check = .ok a) :
    check (dump a) = .ok a := by
  rcases field_eq_ok.mp h with ⟨j, _, hj⟩
  exact hround j a hj

/-- A default is not validated, so it has to be fit by itself. -/
theorem accepted_fieldOr (hround : RoundTrips check dump)
    (hdefault : check (dump default) = .ok default) (h : fieldOr d key default check = .ok a) :
    check (dump a) = .ok a := by
  unfold fieldOr at h
  cases hlookup : d.lookup key with
  | none =>
      rw [hlookup] at h
      rw [← Validated.ok.inj h]
      exact hdefault
  | some j =>
      rw [hlookup] at h
      exact hround j a h

/-- The items of a list that was accepted were accepted one by one. -/
theorem exists_of_list_eq_ok {items : List Json} {values : List α}
    (h : list check items = .ok values) : ∀ value ∈ values, ∃ j, check j = .ok value := by
  have hall := list_eq_ok.mp h
  clear h
  induction hall with
  | nil => exact fun value hvalue => absurd hvalue List.not_mem_nil
  | cons hitem _ ih =>
      intro value hvalue
      rcases List.mem_cons.mp hvalue with heq | hmem
      · exact ⟨_, heq ▸ hitem⟩
      · exact ih value hmem

theorem roundTrips_array (hround : RoundTrips check dump) :
    RoundTrips (array check) (fun values => .arr (values.map dump)) := by
  intro j values h
  cases j with
  | arr items =>
      have hall : ∀ value ∈ values, check (dump value) = .ok value := by
        intro value hvalue
        rcases exists_of_list_eq_ok h value hvalue with ⟨j, hj⟩
        exact hround j value hj
      refine list_eq_ok.mpr ?_
      rw [List.forall₂_map_left_iff, List.forall₂_same]
      exact hall
  | _ => cases h

/-- A validator that lets text through as it is. -/
theorem roundTrips_text {check : Json → Checked String}
    (h : ∀ j s, check j = .ok s → j = .str s) : RoundTrips check Json.str := by
  intro j s hs
  have hj := h j s hs
  rwa [hj] at hs

/-- Values by which the members can be found are all different. -/
theorem injective_of_find {value : β → String} (members : List β)
    (h : ∀ b, members.find? (fun m => value m == value b) = some b) :
    Function.Injective value := by
  intro b c heq
  have hb := h b
  rw [heq, h c] at hb
  exact (Option.some.inj hb).symm

/-- The member of an enumeration whose values are all different. -/
theorem find_value {value : β → String} (hvalue : Function.Injective value) {members : List β}
    {b : β} (hb : b ∈ members) : members.find? (fun m => value m == value b) = some b := by
  cases hfind : members.find? (fun m => value m == value b) with
  | none =>
      have hnot := List.find?_eq_none.mp hfind b hb
      exact absurd (beq_self_eq_true _) hnot
  | some m =>
      have hsame := List.find?_some hfind
      rw [hvalue (beq_iff_eq.mp hsame)]

/-- The discriminator of a schema that was accepted. -/
theorem tagged_eq_ok {value : β → String} {members : List β} {choose : β → Dict → Checked α}
    {j : Json} (h : tagged value members choose j = .ok a) :
    ∃ tag ∈ members, ∃ d, choose tag d = .ok a := by
  unfold tagged at h
  rcases andThen_eq_ok.mp h with ⟨d, _, h⟩
  rcases andThen_eq_ok.mp h with ⟨tag, htag, h⟩
  rcases field_eq_ok.mp htag with ⟨v, _, hv⟩
  rcases member_eq_ok.mp hv with ⟨s, _, hfind⟩
  exact ⟨tag, List.mem_of_find?_eq_some hfind, d, h⟩

/-- The schema that the discriminator of a dump chooses. -/
theorem tagged_dump {value : β → String} (hvalue : Function.Injective value) {members : List β}
    {choose : β → Dict → Checked α} {tag : β} (htag : tag ∈ members)
    (hlookup : d.lookup "type" = some (.str (value tag))) :
    tagged value members choose (.obj d) = choose tag d := by
  have hmember : field d "type" (member value members) = .ok tag :=
    field_eq_ok.mpr ⟨_, hlookup, member_eq_ok.mpr ⟨_, rfl, find_value hvalue htag⟩⟩
  change (field d "type" (member value members)).andThen (fun tag => choose tag d) = _
  rw [hmember]
  rfl

end Combinators

/-! ## File formats -/

theorem formatType_value_injective : Function.Injective FormatType.value := by
  refine injective_of_find sourceFileFormat (fun type => ?_)
  cases type <;> rfl

theorem compression_value_injective : Function.Injective Compression.value := by
  refine injective_of_find [.none, .bzip2, .gzip, .lz4, .snappy, .deflate, .zlib] (fun c => ?_)
  cases c <;> rfl

theorem connectionType_value_injective : Function.Injective ConnectionType.value := by
  refine injective_of_find connectionTypes (fun type => ?_)
  cases type <;> rfl

namespace FileFormat

variable {pydantic : Pydantic}

/-- The compression of a dump. -/
theorem compression_dump {type : FormatType} {default c : CompressionOf type} {d : Dict}
    (h : d.lookup "compression" = some (.str c.val.value)) : compression type default d = .ok c := by
  have hvalue : Function.Injective (fun c : CompressionOf type => c.val.value) :=
    compression_value_injective.comp Subtype.val_injective
  unfold compression fieldOr
  rw [h]
  exact member_eq_ok.mpr ⟨_, rfl, find_value hvalue (List.mem_attach _ c)⟩

/-- The schema of the format reads its dump. -/
theorem ofType_modelDump (hexact : pydantic.Exact) (fileFormat : FileFormat) :
    ofType pydantic fileFormat.modelDump fileFormat.type = .ok fileFormat := by
  cases fileFormat with
  | csv delimiter encoding quote escape includeHeader lineSep c =>
      -- The header is the field that pydantic reads; the others are literals.
      have hheader : fieldOr (csv delimiter encoding quote escape includeHeader lineSep c).modelDump
          "include_header" false pydantic.boolean = .ok includeHeader := hexact.boolean includeHeader
      unfold ofType
      rw [compression_dump (c := c) rfl, hheader]
      rfl
  | excel includeHeader startCell =>
      have hheader : fieldOr (excel includeHeader startCell).modelDump "include_header" false
          pydantic.boolean = .ok includeHeader := hexact.boolean includeHeader
      unfold ofType
      rw [hheader]
      cases startCell with
      | none => rfl
      | some startCell => rfl
  | jsonline encoding lineSep c | json encoding lineSep c =>
      unfold ofType
      rw [compression_dump (c := c) rfl]
      rfl
  | xml rootTag rowTag c =>
      unfold ofType
      rw [compression_dump (c := c) rfl]
      rfl
  | orc c | parquet c =>
      unfold ofType
      rw [compression_dump (c := c) rfl]
      rfl

/-- The format that a schema makes is the one that the discriminator chose. -/
theorem type_of_ofType (d : Dict) (type : FormatType) :
    Yields (fun fileFormat => fileFormat.type = type) (ofType pydantic d type) := by
  cases type <;> unfold ofType
  all_goals
    repeat refine yields_seq ?_
    refine yields_map ?_
    intros
    rfl

theorem roundTrips_validate (hexact : pydantic.Exact) (allowed : List FormatType) :
    RoundTrips (validate pydantic allowed) (fun fileFormat => .obj fileFormat.modelDump) := by
  intro j fileFormat h
  rcases tagged_eq_ok h with ⟨type, htype, d, hd⟩
  have hsame : fileFormat.type = type := type_of_ofType d type fileFormat hd
  rw [← hsame] at htype
  unfold validate
  rw [tagged_dump formatType_value_injective htype rfl]
  exact ofType_modelDump hexact fileFormat

end FileFormat

/-! ## Parameters -/

section Params

variable {py : Python} {pydantic : Pydantic}

theorem roundTrips_tableName (type : ConnectionType) :
    RoundTrips (tableNameIsQualified py type) Json.str := by
  refine roundTrips_text (fun j s h => ?_)
  cases j with
  | str value => rw [(ite_eq_ok.mp h).2]
  | _ => cases h

theorem roundTrips_directoryPath : RoundTrips directoryPathIsValidPath Json.str := by
  refine roundTrips_text (fun j s h => ?_)
  cases j with
  | str value => rw [(ite_eq_ok.mp h).2]
  | _ => cases h

theorem roundTrips_template :
    RoundTrips (fun j => (str j).andThen (validateFileNameTemplate py)) Json.str := by
  refine roundTrips_text (fun j s h => ?_)
  rcases andThen_eq_ok.mp h with ⟨value, hvalue, htemplate⟩
  have hsame : value = s := by
    unfold validateFileNameTemplate at htemplate
    split at htemplate
    · unfold tryFormat at htemplate
      split at htemplate
      · exact Validated.ok.inj htemplate
      all_goals cases htemplate
    · cases htemplate
  rw [str_eq_ok.mp hvalue, hsame]

/-- The default template has what it needs. -/
theorem template_default :
    validateFileNameTemplate py defaultFileNameTemplate = .ok defaultFileNameTemplate := by
  rfl

/-- The parameters that a schema makes are of its type, and it reads their dump. -/
theorem source_ofType (hexact : pydantic.Exact) (d : Dict) (type : ConnectionType) :
    Yields (fun source => source.modelDump.type = type ∧
      TransferSource.ofType py pydantic source.modelDump.modelDump type = .ok source)
      (TransferSource.ofType py pydantic d type) := by
  unfold TransferSource.ofType
  by_cases hfile : type.isFile = true
  · rw [dif_pos hfile]
    refine yields_seq (yields_seq (yields_map
      (fun path hpath fileFormat hformat options _ => ⟨rfl, ?_⟩)))
    -- What is stored is read back field by field.
    let dump := (TransferSource.file ⟨type, hfile⟩ path fileFormat options).modelDump.modelDump
    have hpath : field dump "directory_path" directoryPathIsValidPath = .ok path :=
      accepted_field roundTrips_directoryPath hpath
    have hformat : field dump "file_format" (FileFormat.validate pydantic sourceFileFormat) =
        .ok fileFormat :=
      accepted_field (FileFormat.roundTrips_validate hexact _) hformat
    rw [dif_pos hfile, hpath, hformat]
    rfl
  · rw [dif_neg hfile]
    refine yields_map (fun tableName htable => ⟨rfl, ?_⟩)
    let dump := (TransferSource.db ⟨type, Bool.eq_false_iff.mpr hfile⟩ tableName).modelDump.modelDump
    have htable : field dump "table_name" (tableNameIsQualified py type) = .ok tableName :=
      accepted_field (roundTrips_tableName type) htable
    rw [dif_neg hfile, htable]
    rfl

theorem roundTrips_source (hexact : pydantic.Exact) :
    RoundTrips (TransferSource.validate py pydantic) (fun s => .obj s.modelDump.modelDump) := by
  intro j source h
  rcases tagged_eq_ok h with ⟨type, htype, d, hd⟩
  rcases source_ofType hexact d type source hd with ⟨hsame, hread⟩
  have hlookup : source.modelDump.modelDump.lookup "type" = some (.str type.value) := by
    rw [← hsame]
    cases source <;> rfl
  unfold TransferSource.validate
  rw [tagged_dump connectionType_value_injective htype hlookup]
  exact hread

theorem target_ofType (hexact : pydantic.Exact) (d : Dict) (type : ConnectionType) :
    Yields (fun target => target.modelDump.type = type ∧
      TransferTarget.ofType py pydantic target.modelDump.modelDump type = .ok target)
      (TransferTarget.ofType py pydantic d type) := by
  unfold TransferTarget.ofType
  by_cases hfile : type.isFile = true
  · rw [dif_pos hfile]
    refine yields_seq (yields_seq (yields_seq (yields_map
      (fun path hpath fileFormat hformat template htemplate options _ => ⟨rfl, ?_⟩))))
    let dump :=
      (TransferTarget.file ⟨type, hfile⟩ path fileFormat template options).modelDump.modelDump
    have hpath : field dump "directory_path" directoryPathIsValidPath = .ok path :=
      accepted_field roundTrips_directoryPath hpath
    have hformat : field dump "file_format" (FileFormat.validate pydantic targetFileFormat) =
        .ok fileFormat :=
      accepted_field (FileFormat.roundTrips_validate hexact _) hformat
    have htemplate : fieldOr dump "file_name_template" defaultFileNameTemplate
        (fun j => (str j).andThen (validateFileNameTemplate py)) = .ok template :=
      accepted_fieldOr roundTrips_template template_default htemplate
    rw [dif_pos hfile, hpath, hformat, htemplate]
    rfl
  · rw [dif_neg hfile]
    refine yields_map (fun tableName htable => ⟨rfl, ?_⟩)
    let dump := (TransferTarget.db ⟨type, Bool.eq_false_iff.mpr hfile⟩ tableName).modelDump.modelDump
    have htable : field dump "table_name" (tableNameIsQualified py type) = .ok tableName :=
      accepted_field (roundTrips_tableName type) htable
    rw [dif_neg hfile, htable]
    rfl

theorem roundTrips_target (hexact : pydantic.Exact) :
    RoundTrips (TransferTarget.validate py pydantic) (fun t => .obj t.modelDump.modelDump) := by
  intro j target h
  rcases tagged_eq_ok h with ⟨type, htype, d, hd⟩
  rcases target_ofType hexact d type target hd with ⟨hsame, hread⟩
  have hlookup : target.modelDump.modelDump.lookup "type" = some (.str type.value) := by
    rw [← hsame]
    cases target <;> rfl
  unfold TransferTarget.validate
  rw [tagged_dump connectionType_value_injective htype hlookup]
  exact hread

end Params

/-! ## Transformations -/

section Transformations

variable {py : Python} {pydantic : Pydantic}

theorem rowsFilterType_tag_injective : Function.Injective RowsFilterType.tag := by
  refine injective_of_find RowsFilterType.all (fun type => ?_)
  cases type <;> rfl

theorem metadataFilterType_tag_injective : Function.Injective MetadataFilterType.tag := by
  refine injective_of_find MetadataFilterType.all (fun type => ?_)
  cases type <;> rfl

theorem transformationType_tag_injective : Function.Injective TransformationType.tag := by
  refine injective_of_find TransformationType.all (fun type => ?_)
  cases type <;> rfl

/-- A filter has a value when its type asks for one. -/
theorem rowsFilter_ofType (type : RowsFilterType) (d : Dict) :
    Yields (fun filter => filter.type = type ∧ filter.value.isSome = type.hasValue)
      (RowsFilter.mk type <$> field d "field" str <*>
        (if type.hasValue then some <$> field d "value" str else pure none)) := by
  refine yields_seq (yields_map (fun name _ value hvalue => ⟨rfl, ?_⟩))
  by_cases h : type.hasValue = true
  · rw [if_pos h] at hvalue
    rcases (map_eq_ok some).mp hvalue with ⟨text, _, heq⟩
    rw [← heq, h]
    rfl
  · rw [if_neg h] at hvalue
    rw [← Validated.ok.inj hvalue, Bool.eq_false_iff.mpr h]
    rfl

theorem roundTrips_rowsFilter : RoundTrips RowsFilter.validate RowsFilter.modelDump := by
  intro j filter h
  rcases tagged_eq_ok h with ⟨type, htype, d, hd⟩
  rcases rowsFilter_ofType type d filter hd with ⟨hsame, hvalue⟩
  rcases filter with ⟨kind, name, value⟩
  cases hsame
  unfold RowsFilter.validate RowsFilter.modelDump
  cases value with
  | none =>
      rw [tagged_dump rowsFilterType_tag_injective htype rfl, ← hvalue]
      rfl
  | some value =>
      rw [tagged_dump rowsFilterType_tag_injective htype rfl, ← hvalue]
      rfl

theorem roundTrips_columnsFilter :
    RoundTrips ColumnsFilter.validate ColumnsFilter.modelDump := by
  intro j filter _
  cases filter <;> rfl

theorem roundTrips_validatePattern (accepts : String → Checked Unit) :
    RoundTrips (validatePattern accepts) Json.str := by
  refine roundTrips_text (fun j s h => ?_)
  cases j with
  | str value =>
      rcases andThen_eq_ok.mp h with ⟨_, _, heq⟩
      rw [Validated.ok.inj heq]
  | _ => cases h

/-- A metadata filter is dumped with a value that makes it again. -/
theorem metadataFilter_ofValue (hexact : pydantic.Exact) {v : Json} {type : MetadataFilterType}
    {filter : MetadataFilter} (h : MetadataFilter.ofValue py pydantic v type = .ok filter) :
    ∃ value, filter.modelDump = .obj [("type", .str type.tag), ("value", value)] ∧
      MetadataFilter.ofValue py pydantic value type = .ok filter := by
  cases type with
  | nameGlob | nameRegexp =>
      rcases (map_eq_ok _).mp h with ⟨value, hvalue, rfl⟩
      have hagain := roundTrips_validatePattern _ v value hvalue
      exact ⟨.str value, rfl, (map_eq_ok _).mpr ⟨value, hagain, rfl⟩⟩
  | fileSizeMin | fileSizeMax =>
      rcases (map_eq_ok _).mp h with ⟨value, hvalue, rfl⟩
      have hagain := hexact.byteSize value (hexact.nonneg v value hvalue)
      exact ⟨.num value, rfl, (map_eq_ok _).mpr ⟨value, hagain, rfl⟩⟩

theorem roundTrips_metadataFilter (hexact : pydantic.Exact) :
    RoundTrips (MetadataFilter.validate py pydantic) MetadataFilter.modelDump := by
  intro j filter h
  rcases tagged_eq_ok h with ⟨type, htype, d, hd⟩
  rcases field_eq_ok.mp hd with ⟨v, _, hv⟩
  rcases metadataFilter_ofValue hexact hv with ⟨value, hdump, hagain⟩
  unfold MetadataFilter.validate
  rw [hdump, tagged_dump metadataFilterType_tag_injective htype rfl]
  exact hagain

theorem roundTrips_query :
    RoundTrips (fun j => (str j).andThen (validateQuery py)) Json.str := by
  refine roundTrips_text (fun j s h => ?_)
  rcases andThen_eq_ok.mp h with ⟨value, hvalue, hquery⟩
  have hsame : value = s := by
    unfold validateQuery at hquery
    split at hquery
    · cases hquery
    · split at hquery
      · cases hquery
      · exact Validated.ok.inj hquery
  rw [str_eq_ok.mp hvalue, hsame]

namespace TransformationSchema

/-- A transformation is dumped with fields that make it again. -/
theorem ofType_dump (hexact : pydantic.Exact) {d : Dict} {type : TransformationType}
    {transformation : TransformationSchema} (h : ofType py pydantic d type = .ok transformation) :
    ∃ fields, transformation.modelDump = .obj (("type", .str type.tag) :: fields) ∧
      ofType py pydantic (("type", .str type.tag) :: fields) type = .ok transformation := by
  cases type with
  | dataframeRowsFilter =>
      rcases (map_eq_ok _).mp h with ⟨filters, hfilters, rfl⟩
      -- A list is dumped item by item, so its items round trip or none of it does.
      have hagain := accepted_fieldOr (roundTrips_array roundTrips_rowsFilter) rfl hfilters
      exact ⟨_, rfl, (map_eq_ok _).mpr ⟨filters, hagain, rfl⟩⟩
  | dataframeColumnsFilter =>
      rcases (map_eq_ok _).mp h with ⟨filters, hfilters, rfl⟩
      have hagain := accepted_fieldOr (roundTrips_array roundTrips_columnsFilter) rfl hfilters
      exact ⟨_, rfl, (map_eq_ok _).mpr ⟨filters, hagain, rfl⟩⟩
  | fileMetadataFilter =>
      rcases (map_eq_ok _).mp h with ⟨filters, hfilters, rfl⟩
      have hfilter : RoundTrips (MetadataFilter.validate py pydantic) MetadataFilter.modelDump :=
        roundTrips_metadataFilter hexact
      have hagain := accepted_fieldOr (roundTrips_array hfilter) rfl hfilters
      exact ⟨_, rfl, (map_eq_ok _).mpr ⟨filters, hagain, rfl⟩⟩
  | sql =>
      rcases seq_eq_ok.mp h with ⟨_, dialect, hquery, hdialect, rfl⟩
      rcases (map_eq_ok _).mp hquery with ⟨query, htext, rfl⟩
      have hagain := accepted_field roundTrips_query htext
      -- `spark` is the only dialect, so the field is what it was.
      refine ⟨_, rfl, seq_eq_ok.mpr ⟨_, "spark", (map_eq_ok _).mpr ⟨query, hagain, rfl⟩, ?_, rfl⟩⟩
      rfl

end TransformationSchema

theorem roundTrips_transformation (hexact : pydantic.Exact) :
    RoundTrips (TransformationSchema.validate py pydantic) TransformationSchema.modelDump := by
  intro j transformation h
  rcases tagged_eq_ok h with ⟨type, htype, d, hd⟩
  rcases TransformationSchema.ofType_dump hexact hd with ⟨fields, hdump, hagain⟩
  unfold TransformationSchema.validate
  rw [hdump, tagged_dump transformationType_tag_injective htype rfl]
  exact hagain

end Transformations

/-! ## Strategies and resources -/

/-- A strategy has no conditions on its own. -/
theorem strategy_validate_modelDump (strategy : Strategy) :
    Strategy.validate (.obj strategy.modelDump) = .ok strategy := by
  cases strategy <;> rfl

theorem bounded_self {low high : Nat} {n : Int} {m : Nat} (h : bounded low high n = .ok m) :
    bounded low high m = .ok m := by
  unfold bounded at h ⊢
  rcases ite_eq_ok.mp h with ⟨hbounds, hm⟩
  refine ite_eq_ok.mpr ⟨?_, rfl⟩
  omega

theorem roundTrips_bounded {convert : Json → Checked Int}
    (hconvert : ∀ n : Nat, convert (.num n) = .ok n) (low high : Nat) :
    RoundTrips (fun j => (convert j).andThen (bounded low high)) (fun n : Nat => .num n) := by
  intro j m h
  rcases andThen_eq_ok.mp h with ⟨n, _, hn⟩
  exact andThen_eq_ok.mpr ⟨m, hconvert m, bounded_self hn⟩

theorem roundTrips_resources {pydantic : Pydantic} (hexact : pydantic.Exact) :
    RoundTrips (Resources.validate pydantic) (fun r => .obj r.modelDump) := by
  have hround : ∀ low high, RoundTrips
      (fun j => (pydantic.integer j).andThen (bounded low high)) (fun n : Nat => .num n) :=
    roundTrips_bounded (fun n => hexact.integer n)
  have hbytes : RoundTrips (fun j => (pydantic.byteSize j).andThen
      (bounded (512 * oneMb) (64 * oneGb))) (fun n : Nat => .num n) :=
    roundTrips_bounded (fun n => hexact.byteSize n (Int.natCast_nonneg n)) _ _
  -- A field that is left out takes its default, which passes its own check.
  have hone : ∀ high, 1 ≤ high →
      (pydantic.integer (.num 1)).andThen (bounded 1 high) = .ok 1 := by
    intro high hhigh
    refine andThen_eq_ok.mpr ⟨1, hexact.integer 1, ite_eq_ok.mpr ⟨?_, rfl⟩⟩
    omega
  have hgb : (pydantic.byteSize (.num (oneGb : Nat))).andThen
      (bounded (512 * oneMb) (64 * oneGb)) = .ok oneGb :=
    andThen_eq_ok.mpr ⟨_, hexact.byteSize _ (Int.natCast_nonneg oneGb), by decide⟩
  intro j resources h
  rcases andThen_eq_ok.mp h with ⟨d, _, hd⟩
  rcases seq_eq_ok.mp hd with ⟨_, bytes, hpair, hram, rfl⟩
  rcases seq_eq_ok.mp hpair with ⟨_, cores, hfirst, hcores, rfl⟩
  rcases (map_eq_ok _).mp hfirst with ⟨tasks, htasks, rfl⟩
  have htasks := accepted_fieldOr (hround 1 100) (hone 100 (by decide)) htasks
  have hcores := accepted_fieldOr (hround 1 32) (hone 32 (by decide)) hcores
  have hram := accepted_fieldOr hbytes hgb hram
  refine andThen_eq_ok.mpr ⟨_, rfl, ?_⟩
  refine seq_eq_ok.mpr ⟨_, bytes, seq_eq_ok.mpr ⟨_, cores, ?_, hcores, rfl⟩, hram, rfl⟩
  exact (map_eq_ok _).mpr ⟨tasks, htasks, rfl⟩

/-! ## The response -/

/-- `ReadTransferSchema`. -/
structure ReadTransferSchema extends TransferFields where
  id : Int

/-- `ReadTransferSchema.model_validate`, of the columns of a row. -/
def ReadTransferSchema.modelValidate (py : Python) (pydantic : Pydantic) (t : Transfer) :
    Checked ReadTransferSchema :=
  ReadTransferSchema.mk <$>
    (TransferFields.mk <$> pydantic.integer (.num t.groupId) <*>
      pydantic.integer (.num t.queueId) <*>
      pydantic.integer (.num t.sourceConnectionId) <*>
      pydantic.integer (.num t.targetConnectionId) <*>
      (str (.str t.name)).andThen (constrained (fun s => validName s = true)) <*>
      str (.str t.description) <*>
      TransferSource.validate py pydantic (.obj t.sourceParams.modelDump) <*>
      TransferTarget.validate py pydantic (.obj t.targetParams.modelDump) <*>
      Strategy.validate (.obj t.strategyParams.modelDump) <*>
      array (TransformationSchema.validate py pydantic) (.arr t.transformations) <*>
      Resources.validate pydantic (.obj t.resources.modelDump) <*>
      pydantic.boolean (.bool t.isScheduled) <*>
      nullable str (.str t.schedule)) <*>
    pydantic.integer (.num t.id)

/-- The row has the columns of the body that are validated again. -/
structure StoredColumns (t : Transfer) (schema : CreateTransferSchema) : Prop where
  name : t.name = schema.name.val
  sourceParams : t.sourceParams = schema.sourceParams
  targetParams : t.targetParams = schema.targetParams
  strategyParams : t.strategyParams = schema.strategyParams
  transformations : t.transformations = schema.transformations
  resources : t.resources = schema.resources

section Response

variable {py : Python} {pydantic : Pydantic} {d : Dict} {f : TransferFields}

/-- The nested schemas of accepted fields read what is stored of them. -/
structure Readable (py : Python) (pydantic : Pydantic) (f : TransferFields) : Prop where
  sourceParams : TransferSource.validate py pydantic (.obj f.sourceParams.modelDump.modelDump) =
    .ok f.sourceParams
  targetParams : TransferTarget.validate py pydantic (.obj f.targetParams.modelDump.modelDump) =
    .ok f.targetParams
  transformations : array (TransformationSchema.validate py pydantic)
    (.arr (f.transformations.map TransformationSchema.modelDump)) = .ok f.transformations
  resources : Resources.validate pydantic (.obj f.resources.modelDump) = .ok f.resources

theorem readable_of_accepted (hexact : pydantic.Exact) (h : transferFields py pydantic d = .ok f) :
    Readable py pydantic f := by
  have hrelated := relatedFields h
  have hdefault : Resources.validate pydantic (.obj (Resources.modelDump {})) = .ok {} :=
    roundTrips_resources hexact (.obj []) {} rfl
  exact ⟨accepted_field (roundTrips_source hexact) hrelated.sourceParams,
    accepted_field (roundTrips_target hexact) hrelated.targetParams,
    accepted_fieldOr (roundTrips_array (roundTrips_transformation hexact)) rfl
      hrelated.transformations,
    accepted_fieldOr (roundTrips_resources hexact) hdefault hrelated.resources⟩

/-- A row with the columns of an accepted body can be read. -/
theorem modelValidate_ok (hexact : pydantic.Exact) (h : transferFields py pydantic d = .ok f)
    {t : Transfer} (ht : StoredColumns t (f.toSchema (validators_passed h))) :
    ReadTransferSchema.modelValidate py pydantic t =
      .ok ⟨{ f with
        description := t.description
        groupId := t.groupId
        queueId := t.queueId
        sourceConnectionId := t.sourceConnectionId
        targetConnectionId := t.targetConnectionId
        isScheduled := t.isScheduled
        schedule := some t.schedule }, t.id⟩ := by
  have hread := readable_of_accepted hexact h
  let schema := f.toSchema (validators_passed h)
  -- Each column holds the dump of what was validated, and reads back as that.
  have hname : (str (.str schema.name.val)).andThen (constrained (fun s => validName s = true)) =
      .ok f.name := dif_pos f.name.property
  have hsource : TransferSource.validate py pydantic (.obj schema.sourceParams.modelDump) =
      .ok f.sourceParams := hread.sourceParams
  have htarget : TransferTarget.validate py pydantic (.obj schema.targetParams.modelDump) =
      .ok f.targetParams := hread.targetParams
  have hstrategy : Strategy.validate (.obj schema.strategyParams.modelDump) =
      .ok f.strategyParams := strategy_validate_modelDump f.strategyParams
  have htransformations : array (TransformationSchema.validate py pydantic)
      (.arr schema.transformations) = .ok f.transformations := hread.transformations
  have hresources : Resources.validate pydantic (.obj schema.resources.modelDump) =
      .ok f.resources := hread.resources
  unfold ReadTransferSchema.modelValidate
  rw [ht.name, ht.sourceParams, ht.targetParams, ht.strategyParams,
    ht.transformations, ht.resources]
  simp only [hexact.integer, hexact.boolean]
  rw [hname, hsource, htarget, hstrategy, htransformations, hresources]
  rfl

end Response

end SyncMaster
