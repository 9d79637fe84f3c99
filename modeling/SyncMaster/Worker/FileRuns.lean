import SyncMaster.Library.Stretches
import SyncMaster.Worker.FileMoves

/-!
# Files of Different Runs

All runs of a transfer write to one directory. Whether a later run replaces a
file of an earlier one is decided by the template of the names, which has to
show the number of the run or the time at which it was created, or so the
validator means.

The time is shown to the second. It is written with a fixed number of digits and
with an underscore between them, so it can be read off the name wherever it
stands. But runs of the same second share it, and so do runs an hour apart when the
clocks are put back. The number of the run has no fixed length. It can be read off
the name when it is told apart from the number of the file: next to each other the
two are one number.

## Main definitions

* `RunsApart`: No file of the one run gets the name of a file of the other.
* `separatesNumbers`: What in a template separates numbers.
* `TellsRunIds`: The template tells the number of the run from that of the file.
* `TellsRuns`: What keeps two runs apart.

## Theorems

* `strftime_eq_of_write`: Equal names show equal times.
* `runId_eq_of_write`: Equal names show equal numbers of runs.
* `runsApart_of_tellsRuns`: Files of runs that are told apart never collide.
* `runsApart_iff`: Which templates keep every two runs apart.
-/

namespace SyncMaster

open FileHandler

/-- No file of the one run gets the name of a file of the other. -/
def RunsApart (py : Interpreter) (calendar : Time → Datetime) (template : String)
    (run run' : RunDTO) : Prop :=
  ∀ (fileFormat : FileFormat) (addresses addresses' : Nat → Nat) (i j : Nat) (name name' : String),
    getFileName py calendar template run addresses i (getFileExtension fileFormat) = .ok name →
      getFileName py calendar template run' addresses' j (getFileExtension fileFormat) = .ok name' →
        name ≠ name'

/-- Everything separates numbers that brings a character which is no digit. -/
def separatesNumbers : Symbol → Bool
  | .char c => !c.isDigit
  | .argument name => name != "run_id" && name != "index"
  | .address _ => true

/-- The template tells the number of the run from the number of the file. Some
    stretch between separators has the first without the second, or two stretches
    have them in different proportions. -/
def TellsRunIds (py : Interpreter) (template : String) : Prop :=
  ∃ symbols, py.read fileNameTypes template = .ok symbols ∧
    TellsApart "run_id" "index" (stretches separatesNumbers symbols)

instance (py : Interpreter) (template : String) : Decidable (TellsRunIds py template) :=
  match h : py.read fileNameTypes template with
  | .ok symbols =>
      decidable_of_iff (TellsApart "run_id" "index" (stretches separatesNumbers symbols))
        ⟨fun htells => ⟨symbols, h, htells⟩,
          fun ⟨_, hread, htells⟩ => by cases h.symm.trans hread; exact htells⟩
  | .error _ => isFalse (fun ⟨_, hread, _⟩ => nomatch h.symm.trans hread)

/-- What keeps two runs apart. The template shows the time and their times are written
    differently, or it shows the number of the run, and tells it from the number of the
    file or is asked for two numbers of the same length. -/
def TellsRuns (py : Interpreter) (calendar : Time → Datetime) (template : String)
    (run run' : RunDTO) : Prop :=
  (Shows py template "run_created_at" ∧
      (calendar run.createdAt).strftime ≠ (calendar run'.createdAt).strftime) ∨
    (Shows py template "run_id" ∧
      (TellsRunIds py template ∨ (toString run.id).length = (toString run'.id).length))

instance (py : Interpreter) (calendar : Time → Datetime) (template : String) (run run' : RunDTO) :
    Decidable (TellsRuns py calendar template run run') :=
  inferInstanceAs (Decidable (_ ∨ _))

/-! ## The time of a run -/

section Time

theorem isDigit_of_mem_zeroPadded {width n : Nat} {c : Char} (h : c ∈ (zeroPadded width n).toList) :
    c.isDigit = true := by
  rw [zeroPadded, String.toList_ofList, List.leftpad] at h
  rcases List.mem_append.mp h with h | h
  · rw [List.eq_of_mem_replicate h]
    rfl
  · exact Nat.isDigit_of_mem_toDigits (by decide) (by decide) h

theorem length_zeroPadded {width n : Nat} (hwidth : 0 < width) (hn : n < 10 ^ width) :
    (zeroPadded width n).toList.length = width := by
  have hle := (Nat.length_toDigits_le_iff (by decide : 1 < 10) hwidth).mpr hn
  rw [zeroPadded, String.toList_ofList, List.length_leftpad]
  exact max_eq_left hle

theorem count_underscore_zeroPadded (width n : Nat) : (zeroPadded width n).toList.count '_' = 0 := by
  refine List.count_eq_zero.mpr (fun hmem => ?_)
  exact absurd (isDigit_of_mem_zeroPadded hmem) (by decide)

/-- The six numbers of a time, with underscores between them. -/
theorem toList_strftime (t : Datetime) :
    t.strftime.toList = (zeroPadded 4 t.year).toList ++ '_' :: ((zeroPadded 2 t.month).toList ++
      '_' :: ((zeroPadded 2 t.day).toList ++ '_' :: ((zeroPadded 2 t.hour).toList ++
        '_' :: ((zeroPadded 2 t.minute).toList ++ '_' :: (zeroPadded 2 t.second).toList)))) := by
  simp [Datetime.strftime, String.toList_append]

theorem count_underscore_strftime (t : Datetime) : t.strftime.toList.count '_' = 5 := by
  rw [toList_strftime]
  simp [List.count_append, count_underscore_zeroPadded]

/-- Numbers without underscores, cut at the underscore behind them. -/
theorem zeroPadded_cut {width n n' : Nat} {r r' : List Char}
    (h : (zeroPadded width n).toList ++ '_' :: r = (zeroPadded width n').toList ++ '_' :: r') :
    zeroPadded width n = zeroPadded width n' ∧ r = r' := by
  have hcut := cut_eq h ((count_underscore_zeroPadded width n).trans
    (count_underscore_zeroPadded width n').symm)
  exact ⟨String.toList_inj.mp hcut.1, hcut.2⟩

/-- A time can be read off a text, whatever is in front of it and behind it, if
    there are as many underscores in front. -/
theorem strftime_cut {t t' : Datetime} {u u' r r' : List Char}
    (hcount : u.count '_' = u'.count '_')
    (h : u ++ (t.strftime.toList ++ r) = u' ++ (t'.strftime.toList ++ r')) :
    t.strftime = t'.strftime := by
  rcases t.valid with ⟨_, hyear, _, hmonth, _, hday, hhour, hminute, hsecond, _⟩
  rcases t'.valid with ⟨_, hyear', _, hmonth', _, hday', hhour', hminute', hsecond', _⟩
  simp only [toList_strftime, List.append_assoc, List.cons_append] at h
  rw [← List.append_assoc, ← List.append_assoc] at h
  have hfirst : (u ++ (zeroPadded 4 t.year).toList).count '_' =
      (u' ++ (zeroPadded 4 t'.year).toList).count '_' := by
    rw [List.count_append, List.count_append, hcount, count_underscore_zeroPadded,
      count_underscore_zeroPadded]
  rcases cut_eq h hfirst with ⟨hfront, h⟩
  -- The year is the last four characters of what is in front of the underscore.
  have hlength : (zeroPadded 4 t.year).toList.length = (zeroPadded 4 t'.year).toList.length := by
    rw [length_zeroPadded (by decide) (by omega), length_zeroPadded (by decide) (by omega)]
  have hyears := (List.append_inj' hfront hlength).2
  rcases zeroPadded_cut h with ⟨hmonths, h⟩
  rcases zeroPadded_cut h with ⟨hdays, h⟩
  rcases zeroPadded_cut h with ⟨hhours, h⟩
  rcases zeroPadded_cut h with ⟨hminutes, h⟩
  -- The second is the first two of what is behind the last.
  have hseconds := (List.append_inj h (by
    rw [length_zeroPadded (by decide) (by omega), length_zeroPadded (by decide) (by omega)])).1
  rw [Datetime.strftime, Datetime.strftime, hmonths, hdays, hhours, hminutes,
    String.toList_inj.mp hyears, String.toList_inj.mp hseconds]

end Time

/-! ## The texts of two runs -/

section TwoRuns

variable {py : Interpreter} {calendar : Time → Datetime} {template : String} {run run' : RunDTO}
  {i j : Nat} {extension : String} {addresses addresses' : Nat → Nat} {symbols : List Symbol}

theorem underscore_notMem_toDigits {base : Nat} (hbase : 1 < base) (hle : base ≤ 16) (n : Nat) :
    '_' ∉ Nat.toDigits base n :=
  notMem_toDigits hbase hle (by decide) n

theorem count_underscore_toString (i : Int) : (toString i).toList.count '_' = 0 := by
  refine List.count_eq_zero.mpr (fun hmem => ?_)
  rw [Int.toString_eq_repr, Int.repr_eq_if] at hmem
  by_cases hi : 0 ≤ i
  · rw [if_pos hi, Nat.toList_repr] at hmem
    exact underscore_notMem_toDigits (by decide) (by decide) _ hmem
  · rw [if_neg hi, String.toList_append, Nat.toList_repr] at hmem
    rcases List.mem_append.mp hmem with h | h
    · exact absurd h (by decide)
    · exact underscore_notMem_toDigits (by decide) (by decide) _ h

/-- The arguments of two runs have as many underscores each. -/
theorem count_underscore_argument {argument : String} {type : ArgumentType}
    (htype : fileNameTypes.lookup argument = some type) :
    (argumentTexts calendar run i extension argument).toList.count '_' =
      (argumentTexts calendar run' j extension argument).toList.count '_' := by
  rcases argument_cases htype with rfl | rfl | rfl | rfl
  · exact (count_underscore_toString i).trans (count_underscore_toString j).symm
  · rfl
  · exact (count_underscore_toString run.id).trans (count_underscore_toString run'.id).symm
  · exact (count_underscore_strftime _).trans (count_underscore_strftime _).symm

theorem count_underscore_write
    (hknown : ∀ argument, .argument argument ∈ symbols →
      ∃ type, fileNameTypes.lookup argument = some type) :
    (write (argumentTexts calendar run i extension) addresses symbols).count '_' =
      (write (argumentTexts calendar run' j extension) addresses' symbols).count '_' := by
  induction symbols generalizing addresses addresses' with
  | nil => rfl
  | cons symbol symbols ih =>
      have hsymbol : (symbol.text (argumentTexts calendar run i extension) (addresses 0)).count '_' =
          (symbol.text (argumentTexts calendar run' j extension) (addresses' 0)).count '_' := by
        cases symbol with
        | char c => rfl
        | argument argument =>
            rcases hknown argument List.mem_cons_self with ⟨type, htype⟩
            exact count_underscore_argument htype
        | address text =>
            have hdigits : ∀ n, (Nat.toDigits 16 n).count '_' = 0 := fun n =>
              List.count_eq_zero.mpr (underscore_notMem_toDigits (by decide) (by decide) n)
            simp [Symbol.text, List.count_append, hdigits]
      rw [write, write, List.count_append, List.count_append, hsymbol]
      exact congrArg _ (ih (fun argument hmem => hknown argument (List.mem_cons_of_mem symbol hmem)))

/-- Equal names show equal times. -/
theorem strftime_eq_of_write
    (hknown : ∀ argument, .argument argument ∈ symbols →
      ∃ type, fileNameTypes.lookup argument = some type)
    (hmem : Symbol.argument "run_created_at" ∈ symbols)
    (h : write (argumentTexts calendar run i extension) addresses symbols =
      write (argumentTexts calendar run' j extension) addresses' symbols) :
    (calendar run.createdAt).strftime = (calendar run'.createdAt).strftime := by
  rcases List.append_of_mem hmem with ⟨front, behind, rfl⟩
  rw [write_append, write_append, write, write] at h
  exact strftime_cut (count_underscore_write
    (fun argument hargument => hknown argument (List.mem_append_left _ hargument))) h

theorem isDigit_of_mem_id {n : Int} (hn : 0 ≤ n) {c : Char} (h : c ∈ (toString n).toList) :
    c.isDigit = true := by
  rw [toString_of_nonneg hn] at h
  exact isDigit_of_mem_toString h

/-- An extension has a letter. -/
theorem exists_letter_fileExtension (type : FormatType) (compression : Option Compression) :
    ∃ c ∈ (fileExtension type compression).toList, c.isDigit = false := by
  refine ⟨(fileExtension type compression).toList.headD '0', ?_, ?_⟩
  · cases type <;> rcases compression with _ | compression <;> try cases compression
    all_goals decide
  · cases type <;> rcases compression with _ | compression <;> try cases compression
    all_goals decide

/-- An argument that separates is the extension or the time. -/
theorem separator_cases {argument : String} (hseparates : separatesNumbers (.argument argument) = true)
    (hknown : ∃ type, fileNameTypes.lookup argument = some type) :
    argument = "extension" ∨ argument = "run_created_at" := by
  rcases hknown with ⟨type, htype⟩
  rcases argument_cases htype with rfl | rfl | rfl | rfl
  · exact absurd hseparates (by decide)
  · exact Or.inl rfl
  · exact absurd hseparates (by decide)
  · exact Or.inr rfl

/-- What does not separate brings digits only: a digit or one of the two numbers. -/
theorem isDigit_of_not_separates (hid : 0 ≤ run.id) {symbol : Symbol}
    (hseparates : separatesNumbers symbol = false) {c : Char}
    (hc : c ∈ symbol.text (argumentTexts calendar run i extension) 0) : c.isDigit = true := by
  cases symbol with
  | char d =>
      rw [List.mem_singleton.mp hc]
      exact (Bool.not_eq_false' d.isDigit).mp hseparates
  | address text => cases hseparates
  | argument argument =>
      have hname : argument = "run_id" ∨ argument = "index" := by
        by_contra hneither
        rw [not_or] at hneither
        rw [separatesNumbers, bne_iff_ne.mpr hneither.1, bne_iff_ne.mpr hneither.2] at hseparates
        cases hseparates
      rcases hname with rfl | rfl
      · exact isDigit_of_mem_id hid hc
      · exact isDigit_of_mem_toString hc

theorem underscore_mem_strftime (datetime : Datetime) : '_' ∈ datetime.strftime.toList := by
  have hcount : datetime.strftime.toList.count '_' = 5 := count_underscore_strftime _
  exact List.count_pos_iff.mp (hcount ▸ Nat.succ_pos 4)

/-- What separates numbers in a template does so in the names of two runs, if they
    show the same time. -/
theorem separates_numbers (fileFormat : FileFormat) (hrun : 0 ≤ run.id) (hrun' : 0 ≤ run'.id)
    (hknown : ∀ argument, .argument argument ∈ symbols →
      ∃ type, fileNameTypes.lookup argument = some type)
    (htime : Symbol.argument "run_created_at" ∈ symbols →
      (calendar run.createdAt).strftime = (calendar run'.createdAt).strftime) :
    Separates separatesNumbers
      (argumentTexts calendar run i (getFileExtension fileFormat))
      (argumentTexts calendar run' j (getFileExtension fileFormat)) symbols where
  address _ := rfl
  same := by
    intro symbol hmem hseparates hne
    cases symbol with
    | char c => rfl
    | address text => exact absurd rfl (hne text)
    | argument argument =>
        rcases separator_cases hseparates (hknown argument hmem) with rfl | rfl
        · rfl
        · exact congrArg String.toList (htime hmem)
  -- Every separator has a symbol that is no digit.
  breaks := by
    intro symbol hmem hseparates hne
    cases symbol with
    | char c => exact ⟨c, List.mem_singleton_self c, (Bool.not_eq_true' c.isDigit).mp hseparates⟩
    | address text => exact absurd rfl (hne text)
    | argument argument =>
        rcases separator_cases hseparates (hknown argument hmem) with rfl | rfl
        · exact exists_letter_fileExtension _ _
        · exact ⟨'_', underscore_mem_strftime _, rfl⟩
  digits _ _ hseparates _ hc := isDigit_of_not_separates hrun hseparates hc
  digits' _ _ hseparates _ hc := isDigit_of_not_separates hrun' hseparates hc

/-- Two runs that show the same time write everything alike but the two numbers. -/
theorem agreeBut_numbers (hknown : ∀ argument, .argument argument ∈ symbols →
      ∃ type, fileNameTypes.lookup argument = some type)
    (htime : Symbol.argument "run_created_at" ∈ symbols →
      (calendar run.createdAt).strftime = (calendar run'.createdAt).strftime) :
    AgreeBut "run_id" "index" (argumentTexts calendar run i extension)
      (argumentTexts calendar run' j extension) symbols := by
  intro symbol hmem hid hindex
  cases symbol with
  | char c => rfl
  | address text => rfl
  | argument argument =>
      rcases hknown argument hmem with ⟨type, htype⟩
      rcases argument_cases htype with rfl | rfl | rfl | rfl
      · exact absurd rfl hindex
      · rfl
      · exact absurd rfl hid
      · exact congrArg String.toList (htime hmem)

/-- Equal names show equal numbers of runs, if the template tells them or they have
    the same length. -/
theorem runId_eq_of_write (fileFormat : FileFormat) (hrun : 0 ≤ run.id) (hrun' : 0 ≤ run'.id)
    (hread : py.read fileNameTypes template = .ok symbols)
    (hmem : Symbol.argument "run_id" ∈ symbols)
    (htells : TellsRunIds py template ∨ (toString run.id).length = (toString run'.id).length)
    (h : write (argumentTexts calendar run i (getFileExtension fileFormat)) addresses symbols =
      write (argumentTexts calendar run' j (getFileExtension fileFormat)) addresses' symbols) :
    run.id = run'.id := by
  have hknown : ∀ argument, .argument argument ∈ symbols →
      ∃ type, fileNameTypes.lookup argument = some type :=
    fun argument hargument => known_of_read hread hargument
  have htime : Symbol.argument "run_created_at" ∈ symbols →
      (calendar run.createdAt).strftime = (calendar run'.createdAt).strftime :=
    fun hcreated => strftime_eq_of_write hknown hcreated h
  have hseparates := separates_numbers (i := i) (j := j) fileFormat hrun hrun' hknown htime
  -- Between two separators the names differ in the two numbers at most.
  have hagree : ∀ s ∈ stretches separatesNumbers symbols, AgreeBut "run_id" "index"
      (argumentTexts calendar run i (getFileExtension fileFormat))
      (argumentTexts calendar run' j (getFileExtension fileFormat)) s := by
    intro s hs symbol hsymbol
    exact agreeBut_numbers hknown htime symbol (mem_of_mem_stretch hs hsymbol).1
  refine toString_int_injective ?_
  rcases htells with ⟨symbols', hread', htells⟩ | hlength
  · rw [← Except.ok.inj (hread.symm.trans hread')] at htells
    exact eq_of_tellsApart (by decide) hseparates hagree htells h
  · refine eq_of_length_eq (by decide) hseparates hagree hmem rfl ?_ h
    rw [← String.length_toList, ← String.length_toList] at hlength
    exact hlength

/-- Two equal names are two texts of one template. -/
theorem exists_write_eq {name : String} {addresses addresses' : Nat → Nat}
    (h : getFileName py calendar template run addresses i extension = .ok name)
    (h' : getFileName py calendar template run' addresses' j extension = .ok name) :
    ∃ symbols, py.read fileNameTypes template = .ok symbols ∧
      write (argumentTexts calendar run i extension) addresses symbols =
        write (argumentTexts calendar run' j extension) addresses' symbols := by
  rcases getFileName_eq_ok.mp h with ⟨symbols, hread, htext⟩
  rcases getFileName_eq_ok.mp h' with ⟨symbols', hread', htext'⟩
  rw [← Except.ok.inj (hread.symm.trans hread')] at htext'
  exact ⟨symbols, hread, String.ofList_injective (htext.trans htext'.symm)⟩

theorem runsApart_of_times (hshows : Shows py template "run_created_at")
    (htime : (calendar run.createdAt).strftime ≠ (calendar run'.createdAt).strftime) :
    RunsApart py calendar template run run' := by
  intro fileFormat addresses addresses' i j name name' hname hname' heq
  subst heq
  rcases exists_write_eq hname hname' with ⟨symbols, hread, hwrite⟩
  have hmem := (argument_mem_read hread).mpr hshows
  exact htime (strftime_eq_of_write (fun argument => known_of_read hread) hmem hwrite)

theorem runsApart_of_runIds (hid : run.id ≠ run'.id) (hrun : 0 ≤ run.id) (hrun' : 0 ≤ run'.id)
    (hshows : Shows py template "run_id")
    (htells : TellsRunIds py template ∨ (toString run.id).length = (toString run'.id).length) :
    RunsApart py calendar template run run' := by
  intro fileFormat addresses addresses' i j name name' hname hname' heq
  subst heq
  rcases exists_write_eq hname hname' with ⟨symbols, hread, hwrite⟩
  have hmem := (argument_mem_read hread).mpr hshows
  exact hid (runId_eq_of_write fileFormat hrun hrun' hread hmem htells hwrite)

/-- Files of two runs never collide if the template tells the runs apart, whatever
    the numbers and the format of the files are. -/
theorem runsApart_of_tellsRuns (hid : run.id ≠ run'.id) (hrun : 0 ≤ run.id) (hrun' : 0 ≤ run'.id)
    (h : TellsRuns py calendar template run run') : RunsApart py calendar template run run' := by
  rcases h with ⟨hshows, htime⟩ | ⟨hshows, htells⟩
  · exact runsApart_of_times hshows htime
  · exact runsApart_of_runIds hid hrun hrun' hshows htells

/-- A name that begins with the number of the run and a dash. -/
theorem runsApart_dash :
    RunsApart asciiInterpreter sampleCalendar "{run_id}-{index}.{extension}" ⟨1, 0⟩ ⟨11, 0⟩ :=
  runsApart_of_tellsRuns (by decide) (by decide) (by decide) (by decide +kernel)

/-- With the default template, two runs of the same second give their first files the
    same name. -/
theorem not_runsApart_default :
    ¬ ∀ (py : Interpreter) (calendar : Time → Datetime) (template : String) (run run' : RunDTO),
      validateFileNameTemplate py.toPython template = .ok template → run.id ≠ run'.id →
        RunsApart py calendar template run run' := by
  intro h
  have hname : getFileName asciiInterpreter sampleCalendar defaultFileNameTemplate ⟨1, 0⟩
      (fun _ => 0) 0 (getFileExtension (.excel false none)) = .ok "2024_01_01_00_00_00-0.xlsx" := by
    decide +kernel
  have hname' : getFileName asciiInterpreter sampleCalendar defaultFileNameTemplate ⟨2, 0⟩
      (fun _ => 0) 0 (getFileExtension (.excel false none)) = .ok "2024_01_01_00_00_00-0.xlsx" := by
    decide +kernel
  exact h asciiInterpreter sampleCalendar defaultFileNameTemplate ⟨1, 0⟩ ⟨2, 0⟩ (by decide +kernel)
    (by decide) (.excel false none) (fun _ => 0) (fun _ => 0) 0 0 _ _ hname hname' rfl

/-! ## Runs that collide -/

/-- A template that shows neither the number of the run nor a time that differs
    gives the same names to both runs. -/
theorem not_runsApart_of_not_shown (hread : py.read fileNameTypes template = .ok symbols)
    (hid : ¬ Shows py template "run_id")
    (htime : Shows py template "run_created_at" →
      (calendar run.createdAt).strftime = (calendar run'.createdAt).strftime) :
    ¬ RunsApart py calendar template run run' := by
  intro h
  have hwrite : write (argumentTexts calendar run 0 (getFileExtension (.excel false none)))
      (fun _ => 0) symbols = write (argumentTexts calendar run' 0
        (getFileExtension (.excel false none))) (fun _ => 0) symbols := by
    refine write_congr (fun argument hargument => ?_) _
    rcases known_of_read hread hargument with ⟨type, htype⟩
    rcases argument_cases htype with rfl | rfl | rfl | rfl
    · rfl
    · rfl
    · exact absurd ((argument_mem_read hread).mp hargument) hid
    · exact htime ((argument_mem_read hread).mp hargument)
  exact h (.excel false none) (fun _ => 0) (fun _ => 0) 0 0 _ _
    (getFileName_eq_ok.mpr ⟨symbols, hread, rfl⟩)
    (getFileName_eq_ok.mpr ⟨symbols, hread, rfl⟩) (congrArg String.ofList hwrite)

/-- The numbers stand in stretches without digits of their own. -/
def BareNumbers (py : Interpreter) (template : String) : Prop :=
  ∀ symbols, py.read fileNameTypes template = .ok symbols →
    Bare "run_id" "index" (stretches separatesNumbers symbols)

theorem toList_natCast (n : Nat) : (toString (n : Int)).toList = Nat.toDigits 10 n := by
  rw [Int.toString_eq_repr, Int.repr_eq_if, if_pos (Int.natCast_nonneg n), Nat.toList_repr]
  rfl

theorem toList_nat (n : Nat) : (toString n).toList = Nat.toDigits 10 n := by
  rw [Nat.toString_eq_repr, Nat.toList_repr]

theorem argumentTexts_runId (run : RunDTO) (i : Nat) (extension : String) :
    argumentTexts calendar run i extension "run_id" = toString run.id :=
  rfl

/-- The number of a run that is written with ones. -/
theorem toList_runId {run : RunDTO} {k : Nat} (hid : run.id = (repunit (1 + k) : Nat)) :
    (argumentTexts calendar run i extension "run_id").toList = List.replicate (1 + k) '1' := by
  rw [argumentTexts_runId, hid, toList_natCast, toDigits_repunit_one_add]

theorem toList_index {k : Nat} (hi : i = repunit (1 + k)) :
    (argumentTexts calendar run i extension "index").toList = List.replicate (1 + k) '1' := by
  rw [argumentTexts_index, hi, toList_nat, toDigits_repunit_one_add]

/-- A template that does not tell the runs gives a name of one run to another. -/
theorem exists_collision (createdAt : Time) (hread : py.read fileNameTypes template = .ok symbols)
    (hmem : Symbol.argument "run_id" ∈ symbols) (hbare : BareNumbers py template)
    (hnot : ¬ TellsRunIds py template) :
    ∃ run run' : RunDTO, 0 ≤ run.id ∧ 0 ≤ run'.id ∧ run.id ≠ run'.id ∧
      run.createdAt = run'.createdAt ∧ ¬ RunsApart py calendar template run run' := by
  have hnot' : ¬ TellsApart "run_id" "index" (stretches separatesNumbers symbols) :=
    fun h => hnot ⟨symbols, hread, h⟩
  have hstretch : ∃ s ∈ stretches separatesNumbers symbols, Symbol.argument "run_id" ∈ s :=
    exists_stretch hmem rfl
  rcases hstretch with ⟨s₀, hs₀, hmem₀⟩
  have hrun : s₀.count (.argument "run_id") ≠ 0 :=
    Nat.pos_iff_ne_zero.mp (List.count_pos_iff.mpr hmem₀)
  -- The number of the run is not alone in its stretch.
  have hindex : s₀.count (.argument "index") ≠ 0 :=
    fun hzero => hnot' (Or.inl ⟨s₀, hs₀, hrun, hzero⟩)
  have hknown : ∀ argument, .argument argument ∈ symbols →
      ∃ type, fileNameTypes.lookup argument = some type :=
    fun argument hargument => known_of_read hread hargument
  obtain ⟨run, hid, hcreated⟩ : ∃ run : RunDTO,
      run.id = (repunit (1 + s₀.count (.argument "index")) : Nat) ∧ run.createdAt = createdAt :=
    ⟨⟨_, createdAt⟩, rfl, rfl⟩
  obtain ⟨run', hid', hcreated'⟩ : ∃ run' : RunDTO,
      run'.id = (repunit (1 + 0) : Nat) ∧ run'.createdAt = createdAt :=
    ⟨⟨_, createdAt⟩, rfl, rfl⟩
  have hrun0 : 0 ≤ run.id := hid ▸ Int.natCast_nonneg _
  have hrun0' : 0 ≤ run'.id := hid' ▸ Int.natCast_nonneg _
  have htime : Symbol.argument "run_created_at" ∈ symbols →
      (calendar run.createdAt).strftime = (calendar run'.createdAt).strftime :=
    fun _ => by rw [hcreated, hcreated']
  refine ⟨run, run', hrun0, hrun0', ?_, hcreated.trans hcreated'.symm, fun h => ?_⟩
  · rw [hid, hid']
    exact fun heq => repunit_ne hindex (Int.ofNat.inj heq)
  have hwrite : write (argumentTexts calendar run (repunit (1 + 0))
        (getFileExtension (.excel false none))) (fun _ => 0) symbols =
      write (argumentTexts calendar run' (repunit (1 + s₀.count (.argument "run_id")))
        (getFileExtension (.excel false none))) (fun _ => 0) symbols := by
    refine write_eq_of_not_tellsApart (by decide)
      (separates_numbers (.excel false none) hrun0 hrun0' hknown htime) (fun s hs symbol hsymbol => ?_)
      (hbare symbols hread) hnot' hs₀ (toList_runId hid) (toList_index rfl) (toList_runId hid')
      (toList_index rfl)
    exact agreeBut_numbers hknown htime symbol (mem_of_mem_stretch hs hsymbol).1
  exact h (.excel false none) (fun _ => 0) (fun _ => 0) _ _ _ _
    (getFileName_eq_ok.mpr ⟨symbols, hread, rfl⟩)
    (getFileName_eq_ok.mpr ⟨symbols, hread, rfl⟩) (congrArg String.ofList hwrite)

/-- Where numbers stand without digits of their own, nothing else keeps every two
    runs apart: the template shows the number of the run, and tells it from the
    number of the file. -/
theorem runsApart_iff (hread : py.read fileNameTypes template = .ok symbols)
    (hbare : BareNumbers py template) :
    (∀ run run' : RunDTO, 0 ≤ run.id → 0 ≤ run'.id → run.id ≠ run'.id →
        RunsApart py calendar template run run') ↔
      Shows py template "run_id" ∧ TellsRunIds py template := by
  constructor
  · intro h
    have hshows : Shows py template "run_id" := by
      by_contra hno
      have hapart := h ⟨1, 0⟩ ⟨2, 0⟩ (by decide) (by decide) (by decide)
      refine not_runsApart_of_not_shown hread hno ?_ hapart
      exact fun _ => rfl
    refine ⟨hshows, ?_⟩
    by_contra hnot
    rcases exists_collision 0 hread ((argument_mem_read hread).mpr hshows) hbare hnot with
      ⟨run, run', hrun, hrun', hid, _, hcollide⟩
    exact hcollide (h run run' hrun hrun' hid)
  · intro h run run' hrun hrun' hid
    exact runsApart_of_runIds hid hrun hrun' h.1 (Or.inl h.2)

/-- Run 1 with its file 11 and run 11 with its file 1. -/
example : ¬ TellsRunIds asciiInterpreter "{run_id}{index}.{extension}" := by
  decide +kernel

end TwoRuns

end SyncMaster
