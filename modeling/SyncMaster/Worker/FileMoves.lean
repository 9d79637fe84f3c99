import SyncMaster.Library.Program
import SyncMaster.Worker.FileNames

/-!
# Delivery of Files

The handlers of S3 and HDFS let Spark write into a temporary directory, give the
files their names there, and move them to the directory of the transfer. What is
left is removed with the temporary directory.

The files are moved by a pattern, which is the extension of the format. A name
has the extension where its template puts it. Names that do not end with it are
not moved, and the data is removed.

The storage is that of a library. Renaming refuses to replace a file.

## Main definitions

* `Storage`: The two directories.
* `fnmatch`: The pattern.
* `RemoteDFFileHandler.write`: The method.
* `DeliversParts`: Every file that Spark wrote arrives.
* `EndsInExtension`: The template ends with the extension.

## Theorems

* `fnmatch_star`: What the pattern of an extension matches.
* `renameFrom_keeps`: Renaming loses no file.
* `endsInExtension_of_suffix`: When the names end with every extension.
* `deliversParts_iff`: The files arrive just when the template ends with the
  extension.
-/

namespace SyncMaster

open Program

/-! ## The handler -/

/-- The temporary directory of the run and the directory of the transfer: files
    with their contents. -/
structure Storage (Content : Type) where
  tmp : List (String × Content)
  target : List (String × Content)

/-- The files that Spark leaves. They have different names. -/
abbrev Parts (Content : Type) := { files : List (String × Content) // (files.map Prod.fst).Nodup }

inductive WriteError where
  | format (error : FormatError)
  | fileNotFound (path : String)
  | fileExists (path : String)

/-- `Glob`, for patterns with no other wildcard than the asterisk. -/
def fnmatch : List Char → List Char → Bool
  | [], name => name.isEmpty
  | '*' :: pattern, name => name.tails.any (fnmatch pattern)
  | _ :: _, [] => false
  | c :: pattern, d :: name => c == d && fnmatch pattern name

namespace RemoteDFFileHandler

section Definitions

variable {Content : Type}

/-- `rename_file`, which does not replace files. -/
def renameFile (oldPath newPath : String) : Program (Storage Content) WriteError Unit := do
  query (fun s =>
    if oldPath ∉ s.tmp.map Prod.fst then .error (.fileNotFound oldPath)
    else if newPath ∈ s.tmp.map Prod.fst then .error (.fileExists newPath)
    else .ok ())
  execute (fun s =>
    { s with tmp := s.tmp.map (fun file => if file.1 = oldPath then (newPath, file.2) else file) })

variable (py : Interpreter) (calendar : Time → Datetime) (template : String) (run : RunDTO)
  (fileFormat : FileFormat) (addresses : Nat → Nat → Nat)

/-- The loop of `_rename_files`. -/
def renameFrom : Nat → List String → Program (Storage Content) WriteError Unit
  | _, [] => return ()
  | index, oldPath :: files => do
      let extension := FileHandler.getFileExtension fileFormat
      let newName ← query (fun _ =>
        (FileHandler.getFileName py calendar template run (addresses index) index
          extension).mapError .format)
      renameFile oldPath newName
      renameFrom (index + 1) files

/-- `_rename_files` -/
def renameFiles : Program (Storage Content) WriteError Unit := do
  let files ← query (fun s => .ok (s.tmp.map Prod.fst))
  renameFrom py calendar template run fileFormat addresses 0 files

/-- `FileMover.run`, with the filter that `write` gives it. -/
def moveFiles : Program (Storage Content) WriteError Unit :=
  let pattern := '*' :: '.' :: (FileHandler.getFileExtension fileFormat).toList
  execute (fun s =>
    let moved := s.tmp.filter (fun file => fnmatch pattern file.1.toList)
    { tmp := s.tmp.filter (fun file => !fnmatch pattern file.1.toList)
      target := moved ++ s.target.filter (fun file => decide (file.1 ∉ moved.map Prod.fst)) })

/-- `write`, with the files that Spark leaves in the temporary directory. -/
def write (parts : Parts Content) : Program (Storage Content) WriteError Unit :=
  ensuring (fun s => { s with tmp := [] }) (do
    execute (fun s => { s with tmp := parts.val })
    renameFiles py calendar template run fileFormat addresses
    moveFiles fileFormat)

end Definitions

end RemoteDFFileHandler

/-! ## What is asked of a template -/

section Templates

variable (py : Interpreter) (template : String)

/-- After `write` has returned, every file that Spark wrote is in the directory of
    the transfer, under its new name. -/
def DeliversParts : Prop :=
  ∀ (calendar : Time → Datetime) (run : RunDTO) (fileFormat : FileFormat)
    (addresses : Nat → Nat → Nat) (Content : Type) (parts : Parts Content)
    (s s' : Storage Content),
    Returns (RemoteDFFileHandler.write py calendar template run fileFormat addresses parts) s () s' →
      ∀ index part, parts.val[index]? = some part → ∃ name,
        FileHandler.getFileName py calendar template run (addresses index) index
          (FileHandler.getFileExtension fileFormat) = .ok name ∧ (name, part.2) ∈ s'.target

/-- The last two symbols of the template are a dot and the extension. -/
def EndsInExtension : Prop :=
  ∃ front, py.read fileNameTypes template = .ok (front ++ [.char '.', .argument "extension"])

end Templates

/-! ## The pattern -/

theorem fnmatch_cons {c : Char} (hc : c ≠ '*') (pattern : List Char) (d : Char)
    (name : List Char) : fnmatch (c :: pattern) (d :: name) = (c == d && fnmatch pattern name) := by
  rw [fnmatch]
  exact hc

theorem fnmatch_literal {pattern name : List Char} (hpattern : '*' ∉ pattern) :
    fnmatch pattern name = true ↔ pattern = name := by
  induction pattern generalizing name with
  | nil =>
      unfold fnmatch
      rw [List.isEmpty_iff, eq_comm]
  | cons c pattern ih =>
      rw [List.mem_cons, not_or] at hpattern
      have hc : c ≠ '*' := Ne.symm hpattern.1
      cases name with
      | nil =>
          unfold fnmatch
          simp
      | cons d name =>
          rw [fnmatch_cons hc, Bool.and_eq_true, beq_iff_eq, ih hpattern.2, List.cons.injEq]

/-- An asterisk in front leaves the end of the name to the pattern. -/
theorem fnmatch_star {pattern name : List Char} (hpattern : '*' ∉ pattern) :
    fnmatch ('*' :: pattern) name = true ↔ pattern <:+ name := by
  rw [fnmatch, List.any_eq_true]
  constructor
  · intro h
    rcases h with ⟨rest, hrest, hmatch⟩
    rw [(fnmatch_literal hpattern).mp hmatch]
    exact (List.mem_tails rest name).mp hrest
  · intro h
    exact ⟨pattern, (List.mem_tails pattern name).mpr h, (fnmatch_literal hpattern).mpr rfl⟩

theorem star_notMem_fileExtension (type : FormatType) (compression : Option Compression) :
    '*' ∉ (FileHandler.fileExtension type compression).toList := by
  cases compression with
  | none => cases type <;> decide
  | some compression => cases type <;> cases compression <;> decide

/-- The names that are moved are those that end with a dot and the extension. -/
theorem fnmatch_extension (fileFormat : FileFormat) (name : List Char) :
    fnmatch ('*' :: '.' :: (FileHandler.getFileExtension fileFormat).toList) name = true ↔
      '.' :: (FileHandler.getFileExtension fileFormat).toList <:+ name := by
  refine fnmatch_star (fun h => ?_)
  rcases List.mem_cons.mp h with h | h
  · exact absurd h (by decide)
  · exact star_notMem_fileExtension _ _ h

/-! ## Renaming and moving -/

namespace RemoteDFFileHandler

section Runs

variable {Content : Type} {py : Interpreter} {calendar : Time → Datetime} {template : String}
  {run : RunDTO} {fileFormat : FileFormat} {addresses : Nat → Nat → Nat} {s s' : Storage Content}

theorem returns_renameFile {oldPath newPath : String}
    (h : Returns (renameFile oldPath newPath) s () s') :
    newPath ∉ s.tmp.map Prod.fst ∧ s' = { s with
      tmp := s.tmp.map (fun file => if file.1 = oldPath then (newPath, file.2) else file) } := by
  rcases returns_bind.mp h with ⟨_, s₁, hcheck, hchange⟩
  rcases returns_query.mp hcheck with ⟨hvalue, rfl⟩
  have hs' := returns_execute.mp hchange
  refine ⟨fun hmem => ?_, hs'.symm⟩
  by_cases hold : oldPath ∉ s.tmp.map Prod.fst
  · rw [if_pos hold] at hvalue
    cases hvalue
  · rw [if_neg hold, if_pos hmem] at hvalue
    cases hvalue

/-- A file that no other has the name of is the only one that is renamed. -/
theorem rename_middle {front back : List (String × Content)} {file : String × Content}
    (hdistinct : ((front ++ file :: back).map Prod.fst).Nodup) (newPath : String) :
    (front ++ file :: back).map (fun f => if f.1 = file.1 then (newPath, f.2) else f) =
      front ++ (newPath, file.2) :: back := by
  rw [List.map_append, List.map_cons, List.nodup_append, List.nodup_cons] at hdistinct
  have hfront : ∀ f ∈ front, f.1 ≠ file.1 := fun f hf =>
    hdistinct.2.2 f.1 (List.mem_map_of_mem hf) file.1 List.mem_cons_self
  have hback : ∀ f ∈ back, f.1 ≠ file.1 := fun f hf heq =>
    hdistinct.2.1.1 (heq ▸ List.mem_map_of_mem hf)
  have hkeep : ∀ files : List (String × Content), (∀ f ∈ files, f.1 ≠ file.1) →
      files.map (fun f => if f.1 = file.1 then (newPath, f.2) else f) = files :=
    fun files hne => (List.map_congr_left (fun f hf => if_neg (hne f hf))).trans (List.map_id files)
  rw [List.map_append, List.map_cons, if_pos rfl, hkeep front hfront, hkeep back hback]

/-- Renaming loses no file. The files before `rest` have been renamed. -/
theorem renameFrom_keeps {front rest : List (String × Content)} {index : Nat}
    (htmp : s.tmp = front ++ rest) (hdistinct : (s.tmp.map Prod.fst).Nodup)
    (h : Returns (renameFrom py calendar template run fileFormat addresses index
      (rest.map Prod.fst)) s () s') :
    (∀ file ∈ front, file ∈ s'.tmp) ∧ ∀ k part, rest[k]? = some part → ∃ name,
      FileHandler.getFileName py calendar template run (addresses (index + k)) (index + k)
        (FileHandler.getFileExtension fileFormat) = .ok name ∧ (name, part.2) ∈ s'.tmp := by
  induction rest generalizing s front index with
  | nil =>
      rw [← (returns_pure.mp h).2, htmp, List.append_nil]
      exact ⟨fun _ hfile => hfile, fun k part hpart => nomatch hpart⟩
  | cons file rest ih =>
      rcases returns_bind.mp h with ⟨name, s₁, hname, h⟩
      -- Naming the file writes nothing; `renameFile` fails where the name is taken.
      rcases returns_query.mp hname with ⟨hvalue, rfl⟩
      rcases returns_bind.mp h with ⟨_, s₂, hrename, hrest⟩
      rcases returns_renameFile hrename with ⟨hfresh, rfl⟩
      rw [htmp] at hdistinct
      have hrenamed := rename_middle hdistinct name
      -- The renamed file joins those before the rest, in its place.
      have hmoved : s.tmp.map (fun f => if f.1 = file.1 then (name, f.2) else f) =
          (front ++ [(name, file.2)]) ++ rest := by
        rw [htmp, hrenamed, List.append_assoc]
        rfl
      -- The new name is taken by no file, so the names stay distinct for the next turn.
      have hstill : ((s.tmp.map (fun f => if f.1 = file.1 then (name, f.2) else f)).map
          Prod.fst).Nodup := by
        rw [htmp, List.map_append, List.map_cons] at hfresh
        rw [List.map_append, List.map_cons, List.nodup_middle, List.nodup_cons] at hdistinct
        rw [htmp, hrenamed, List.map_append, List.map_cons, List.nodup_middle, List.nodup_cons]
        refine ⟨fun hmem => hfresh ?_, hdistinct.2⟩
        rcases List.mem_append.mp hmem with hmem | hmem
        · exact List.mem_append_left _ hmem
        · exact List.mem_append_right _ (List.mem_cons_of_mem _ hmem)
      have hnext := ih hmoved hstill hrest
      refine ⟨fun f hf => hnext.1 f (List.mem_append_left _ hf), fun k part hpart => ?_⟩
      cases k with
      -- The file of this turn: it is named with its own index, and the later turns keep it.
      | zero =>
          rw [List.getElem?_cons_zero, Option.some.injEq] at hpart
          refine ⟨name, ?_, ?_⟩
          · cases hformat : FileHandler.getFileName py calendar template run (addresses index) index
                (FileHandler.getFileExtension fileFormat) with
            | ok other =>
                rw [hformat] at hvalue
                exact congrArg Except.ok (Except.ok.inj hvalue)
            | error e =>
                rw [hformat] at hvalue
                cases hvalue
          · rw [← hpart]
            exact hnext.1 _ (List.mem_append_right _ (List.mem_singleton_self _))
      -- The files behind it are named from the next index on.
      | succ k =>
          rw [List.getElem?_cons_succ] at hpart
          rcases hnext.2 k part hpart with ⟨other, hother, hmem⟩
          rw [Nat.add_right_comm] at hother
          exact ⟨other, hother, hmem⟩

theorem write_returns (parts : Parts Content) {t : Storage Content}
    (h : Returns (renameFiles py calendar template run fileFormat addresses)
      { s with tmp := parts.val } () t) :
    Returns (write py calendar template run fileFormat addresses parts) s ()
      { after (moveFiles fileFormat) t with tmp := [] } := by
  refine returns_ensuring.mpr ⟨_, ?_, rfl⟩
  refine returns_bind.mpr ⟨(), _, returns_execute.mpr rfl, ?_⟩
  exact returns_bind.mpr ⟨(), _, h, returns_execute.mpr rfl⟩

/-- What is moved is in the directory of the transfer afterwards. -/
theorem mem_target {file : String × Content}
    (h : Returns (moveFiles fileFormat) s () s') (hfile : file ∈ s.tmp)
    (hmatch : '.' :: (FileHandler.getFileExtension fileFormat).toList <:+ file.1.toList) :
    file ∈ s'.target := by
  rw [← returns_execute.mp h]
  refine List.mem_append_left _ (List.mem_filter.mpr ⟨hfile, ?_⟩)
  exact (fnmatch_extension fileFormat _).mpr hmatch

/-- Files whose names end with the extension arrive. -/
theorem write_delivers {parts : Parts Content}
    (hends : ∀ index name, FileHandler.getFileName py calendar template run (addresses index) index
      (FileHandler.getFileExtension fileFormat) = .ok name →
        '.' :: (FileHandler.getFileExtension fileFormat).toList <:+ name.toList)
    (h : Returns (write py calendar template run fileFormat addresses parts) s () s') {index : Nat}
    {part : String × Content} (hpart : parts.val[index]? = some part) :
    ∃ name, FileHandler.getFileName py calendar template run (addresses index) index
      (FileHandler.getFileExtension fileFormat) = .ok name ∧ (name, part.2) ∈ s'.target := by
  rcases returns_ensuring.mp h with ⟨s₄, hbody, rfl⟩
  rcases returns_bind.mp hbody with ⟨_, s₁, hwriter, hbody⟩
  rcases returns_bind.mp hbody with ⟨_, s₃, hrename, hmove⟩
  rcases returns_bind.mp hrename with ⟨files, s₂, hlist, hrename⟩
  rcases returns_query.mp hlist with ⟨hfiles, rfl⟩
  rw [Except.ok.injEq] at hfiles
  rw [← hfiles] at hrename
  have hs₁ := returns_execute.mp hwriter
  have htmp : s₁.tmp = [] ++ parts.val := by
    rw [← hs₁]
    rfl
  rw [htmp, List.nil_append] at hrename
  have hdistinct : (s₁.tmp.map Prod.fst).Nodup := by
    rw [htmp]
    exact parts.property
  -- The file has its name after the loop, and by this name it is moved.
  rcases (renameFrom_keeps htmp hdistinct hrename).2 index part hpart with ⟨name, hname, hmem⟩
  rw [Nat.zero_add] at hname
  have hin := mem_target hmove hmem (hends index name hname)
  exact ⟨name, hname, hin⟩

end Runs

end RemoteDFFileHandler

/-! ## Templates whose names end with the extension -/

section Endings

variable {calendar : Time → Datetime} {run : RunDTO} {index : Nat} {extension : String}
  {addresses : Nat → Nat}

theorem getLast_toDigits (front : List Char) (n : Nat) :
    ∃ c, (front ++ Nat.toDigits 10 n).getLast? = some c ∧ c.isDigit = true := by
  have hne : Nat.toDigits 10 n ≠ [] := Nat.toDigits_ne_nil
  refine ⟨(Nat.toDigits 10 n).getLast hne, ?_, ?_⟩
  · rw [List.getLast?_append, List.getLast?_eq_some_getLast hne, Option.some_or]
  · exact Nat.isDigit_of_mem_toDigits (by decide) (by decide) (List.getLast_mem hne)

theorem toList_zeroPadded (width n : Nat) :
    ∃ zeros, (zeroPadded width n).toList = zeros ++ Nat.toDigits 10 n := by
  refine ⟨List.replicate (width - (Nat.toDigits 10 n).length) '0', ?_⟩
  rw [zeroPadded, String.toList_ofList, List.leftpad]

theorem toList_toString (i : Int) : ∃ sign n, (toString i).toList = sign ++ Nat.toDigits 10 n := by
  rw [Int.toString_eq_repr, Int.repr_eq_if]
  by_cases hi : 0 ≤ i
  · rw [if_pos hi, Nat.toList_repr]
    exact ⟨[], _, rfl⟩
  · rw [if_neg hi, String.toList_append, Nat.toList_repr]
    exact ⟨_, _, rfl⟩

/-- The arguments other than the extension end with a number. -/
theorem argument_ends {argument : String} {type : ArgumentType}
    (htype : fileNameTypes.lookup argument = some type) (hne : argument ≠ "extension") :
    ∃ front n, (argumentTexts calendar run index extension argument).toList =
      front ++ Nat.toDigits 10 n := by
  rcases argument_cases htype with rfl | rfl | rfl | rfl
  · refine ⟨[], index, ?_⟩
    rw [argumentTexts_index, Nat.toString_eq_repr, Nat.toList_repr]
    rfl
  · exact absurd rfl hne
  · exact toList_toString run.id
  · rcases toList_zeroPadded 2 (calendar run.createdAt).second with ⟨zeros, hzeros⟩
    have htext : argumentTexts calendar run index extension "run_created_at" =
        (calendar run.createdAt).strftime := rfl
    rw [htext, Datetime.strftime, String.toList_append, hzeros, ← List.append_assoc]
    exact ⟨_, _, rfl⟩

/-- The last character of the text of a symbol. -/
theorem getLast_text {symbol : Symbol} {last : Char}
    (hknown : ∀ argument, symbol = .argument argument →
      ∃ type, fileNameTypes.lookup argument = some type)
    (hextension : extension.toList.getLast? = some last) (address : Nat) :
    ∃ c, (symbol.text (argumentTexts calendar run index extension) address).getLast? = some c ∧
      (symbol = .char c ∨ c.isDigit = true ∨ c = '>' ∨
        (symbol = .argument "extension" ∧ c = last)) := by
  cases symbol with
  | char c => exact ⟨c, rfl, Or.inl rfl⟩
  | address text =>
      refine ⟨'>', ?_, Or.inr (Or.inr (Or.inl rfl))⟩
      rw [Symbol.text, ← List.cons_append, List.getLast?_append]
      rfl
  | argument argument =>
      rcases hknown argument rfl with ⟨type, htype⟩
      by_cases hargument : argument = "extension"
      · rw [hargument]
        exact ⟨last, hextension, Or.inr (Or.inr (Or.inr ⟨rfl, rfl⟩))⟩
      · rcases argument_ends htype hargument with ⟨front, n, htext⟩
        rcases getLast_toDigits front n with ⟨c, hlast, hdigit⟩
        refine ⟨c, ?_, Or.inr (Or.inl hdigit)⟩
        rw [Symbol.text, htext, hlast]

/-- The last symbol is the extension, or the last character of it. -/
theorem last_of_suffix {front : List Symbol} {symbol : Symbol} {last : Char}
    (hknown : ∀ argument, symbol = .argument argument →
      ∃ type, fileNameTypes.lookup argument = some type)
    (hextension : extension.toList.getLast? = some last) (hdigit : last.isDigit = false)
    (hbracket : last ≠ '>')
    (hsuffix : '.' :: extension.toList <:+
      write (argumentTexts calendar run index extension) addresses (front ++ [symbol])) :
    symbol = .char last ∨ symbol = .argument "extension" := by
  rcases hsuffix with ⟨before, hbefore⟩
  have hlast := congrArg List.getLast? hbefore
  rcases getLast_text hknown hextension _ with ⟨c, hc, hcases⟩
  rw [write_append, write, write, List.append_nil, List.getLast?_append, List.getLast?_append, hc,
    List.getLast?_cons, hextension] at hlast
  have heq : last = c := Option.some.inj hlast
  rcases hcases with hchar | hnumber | haddress | hargument
  · exact Or.inl (heq ▸ hchar)
  · rw [← heq, hdigit] at hnumber
    cases hnumber
  · exact absurd (heq.trans haddress) hbracket
  · exact Or.inr hargument.1

/-- The symbol before the extension is a dot. -/
theorem dot_before_extension {front : List Symbol} {last : Char}
    (hknown : ∀ argument, .argument argument ∈ front →
      ∃ type, fileNameTypes.lookup argument = some type)
    (hextension : extension.toList.getLast? = some last) (hdot : last ≠ '.')
    (hsuffix : '.' :: extension.toList <:+
      write (argumentTexts calendar run index extension) addresses
        (front ++ [.argument "extension"])) :
    ∃ rest, front = rest ++ [.char '.'] := by
  rcases hsuffix with ⟨before, hbefore⟩
  have hcut : (before ++ ['.']) ++ extension.toList =
      write (argumentTexts calendar run index extension) addresses front ++ extension.toList := by
    rw [write_append, write, write, List.append_nil] at hbefore
    rw [List.append_assoc]
    exact hbefore
  -- So the text of the front ends with a dot, and no symbol but a dot ends with one.
  have hfront := List.append_cancel_right hcut
  rcases List.eq_nil_or_concat' front with rfl | ⟨rest, symbol, rfl⟩
  · exact absurd hfront (by simp [write])
  · have hlast := congrArg List.getLast? hfront
    have hsymbol : ∀ argument, symbol = .argument argument →
        ∃ type, fileNameTypes.lookup argument = some type := by
      intro argument h
      refine hknown argument (List.mem_append_right _ ?_)
      rw [h]
      exact List.mem_singleton_self _
    rcases getLast_text hsymbol hextension _ with ⟨c, hc, hcases⟩
    rw [write_append, write, write, List.append_nil, List.getLast?_append, List.getLast?_append, hc]
      at hlast
    have heq : '.' = c := Option.some.inj hlast
    rcases hcases with hchar | hnumber | haddress | hargument
    · exact ⟨rest, by rw [hchar, heq]⟩
    · rw [← heq] at hnumber
      exact absurd hnumber (by decide)
    · exact absurd (heq.trans haddress) (by decide)
    · exact absurd (heq.trans hargument.2).symm hdot

end Endings

/-! ## Delivery -/

section Delivery

variable {py : Interpreter} {calendar : Time → Datetime} {template : String} {run : RunDTO}

/-- A single file is renamed, whatever its new name is. -/
theorem renameFiles_single {fileFormat : FileFormat} {addresses : Nat → Nat → Nat} {name : String}
    (hname : FileHandler.getFileName py calendar template run (addresses 0) 0
      (FileHandler.getFileExtension fileFormat) = .ok name) :
    Returns (RemoteDFFileHandler.renameFiles py calendar template run fileFormat addresses)
      (Storage.mk [(name ++ "~", ())] []) () ⟨[(name, ())], []⟩ := by
  have hne : name ≠ name ++ "~" := by
    intro h
    have hlength := congrArg String.length h
    rw [String.length_append] at hlength
    exact absurd hlength (by simp)
  have hchecked : Returns (RemoteDFFileHandler.renameFile (name ++ "~") name)
      (Storage.mk [(name ++ "~", ())] []) () ⟨[(name, ())], []⟩ := by
    refine returns_bind.mpr ⟨(), _, returns_query.mpr ⟨?_, rfl⟩, returns_execute.mpr ?_⟩
    · simp [hne]
    · simp
  refine returns_bind.mpr ⟨_, _, returns_query.mpr ⟨rfl, rfl⟩, ?_⟩
  refine returns_bind.mpr ⟨name, _, returns_query.mpr ⟨by rw [hname]; rfl, rfl⟩, ?_⟩
  exact returns_bind.mpr ⟨(), _, hchecked, returns_pure.mpr ⟨rfl, rfl⟩⟩

/-- If single files arrive, the name of the first file ends with the extension. -/
theorem suffix_of_delivers (h : DeliversParts py template) {fileFormat : FileFormat}
    (addresses : Nat → Nat → Nat) {name : String}
    (hname : FileHandler.getFileName py calendar template run (addresses 0) 0
      (FileHandler.getFileExtension fileFormat) = .ok name) :
    '.' :: (FileHandler.getFileExtension fileFormat).toList <:+ name.toList := by
  have hreturns := RemoteDFFileHandler.write_returns (s := ⟨[], []⟩)
    ⟨[(name ++ "~", ())], List.nodup_singleton _⟩ (renameFiles_single hname)
  rcases h calendar run fileFormat addresses Unit _ _ _ hreturns 0 _ rfl with ⟨other, hother, hmem⟩
  rw [← Except.ok.inj (hname.symm.trans hother)] at hmem
  rcases List.mem_append.mp hmem with hmoved | hthere
  · exact (fnmatch_extension fileFormat _).mp (List.mem_filter.mp hmoved).2
  · exact absurd hthere List.not_mem_nil

theorem known_of_read {symbols : List Symbol} (hread : py.read fileNameTypes template = .ok symbols)
    {argument : String} (hmem : Symbol.argument argument ∈ symbols) :
    ∃ type, fileNameTypes.lookup argument = some type := by
  rcases (argument_mem_read hread).mp hmem with ⟨_, type, _, _, htype, _⟩
  exact ⟨type, htype⟩

/-- The names end with two extensions that have no letter in common at the end,
    so the extension is not spelled out. -/
theorem endsInExtension_of_delivers {symbols : List Symbol}
    (hread : py.read fileNameTypes template = .ok symbols) (h : DeliversParts py template) :
    EndsInExtension py template := by
  have hsuffix : ∀ fileFormat : FileFormat,
      '.' :: (FileHandler.getFileExtension fileFormat).toList <:+
        write (argumentTexts sampleCalendar sampleRunDTO 0
          (FileHandler.getFileExtension fileFormat)) (fun _ => 0) symbols := by
    intro fileFormat
    have hname : FileHandler.getFileName py sampleCalendar template sampleRunDTO (fun _ => 0) 0
        (FileHandler.getFileExtension fileFormat) = .ok _ :=
      getFileName_eq_ok.mpr ⟨symbols, hread, rfl⟩
    have hends := suffix_of_delivers h (fun _ _ => 0) hname
    rw [String.toList_ofList] at hends
    exact hends
  -- Two formats whose extensions differ in their last letter.
  have hcsv := hsuffix (.csv "," "utf-8" "\"" "\\" false "\n" ⟨.none, by decide⟩)
  have hxlsx := hsuffix (.excel false none)
  rcases List.eq_nil_or_concat' symbols with rfl | ⟨front, symbol, rfl⟩
  · exact absurd hxlsx (by decide)
  · have hknown : ∀ argument, symbol = .argument argument →
        ∃ type, fileNameTypes.lookup argument = some type := by
      intro argument harg
      refine known_of_read hread (List.mem_append_right _ ?_)
      rw [harg]
      exact List.mem_singleton_self _
    have hlast : symbol = .argument "extension" := by
      -- A fixed last symbol would end both names with one letter.
      rcases last_of_suffix hknown rfl rfl (by decide) hcsv with hv | hargument
      · rcases last_of_suffix hknown rfl rfl (by decide) hxlsx with hx | hargument
        · rw [hv] at hx
          exact absurd hx (by decide)
        · exact hargument
      · exact hargument
    rw [hlast] at hxlsx hread
    have hfront : ∀ argument, .argument argument ∈ front →
        ∃ type, fileNameTypes.lookup argument = some type :=
      fun argument hmem => known_of_read hread (List.mem_append_left _ hmem)
    -- It is last, and the character in front of it has to be the dot.
    rcases dot_before_extension hfront rfl (by decide) hxlsx with ⟨rest, rfl⟩
    refine ⟨rest, ?_⟩
    rw [hread, List.append_assoc]
    rfl

theorem suffix_of_endsInExtension (h : EndsInExtension py template) {addresses : Nat → Nat}
    {index : Nat} {extension name : String}
    (hname : FileHandler.getFileName py calendar template run addresses index extension =
      .ok name) : '.' :: extension.toList <:+ name.toList := by
  rcases h with ⟨front, hfront⟩
  rcases getFileName_eq_ok.mp hname with ⟨symbols, hread, rfl⟩
  rw [hfront, Except.ok.injEq] at hread
  have htail : ∀ rest : Nat → Nat, write (argumentTexts calendar run index extension) rest
      [.char '.', .argument "extension"] = '.' :: extension.toList := by
    intro rest
    rw [write, write, write, List.append_nil]
    rfl
  rw [← hread, String.toList_ofList, write_append, htail]
  exact List.suffix_append _ _

/-- For every template whose names are apart: all files arrive just when it ends
    with the extension. -/
theorem deliversParts_iff (hapart : NamesApart py template) :
    DeliversParts py template ↔ EndsInExtension py template := by
  constructor
  · intro h
    rcases hapart sampleCalendar sampleRunDTO (.excel false none) (fun _ _ => 0) 1 with
      ⟨names, hnames, _⟩
    rcases isOk_of_mapM hnames (List.mem_range.mpr one_pos) with ⟨name, hname⟩
    rcases getFileName_eq_ok.mp hname with ⟨symbols, hread, _⟩
    exact endsInExtension_of_delivers hread h
  · intro hends calendar run fileFormat addresses Content parts s s' hreturns index part hpart
    refine RemoteDFFileHandler.write_delivers (fun index name hname => ?_) hreturns hpart
    exact suffix_of_endsInExtension hends hname

theorem endsInExtension_default : EndsInExtension asciiInterpreter defaultFileNameTemplate :=
  ⟨[.argument "run_created_at", .char '-', .argument "index"], by decide +kernel⟩

theorem deliversParts_default : DeliversParts asciiInterpreter defaultFileNameTemplate :=
  (deliversParts_iff (namesApart_of_tellsParts (by decide +kernel) (by decide +kernel))).mpr
    endsInExtension_default

/-- The template puts a dash before the extension. The file is removed. -/
theorem not_deliversParts_dash :
    ¬ ∀ (py : Interpreter) (template : String),
      validateFileNameTemplate py.toPython template = .ok template → NamesApart py template →
        DeliversParts py template := by
  intro h
  have hdelivers := h asciiInterpreter "{run_id}-{index}-{extension}" (by decide +kernel)
    (namesApart_of_tellsParts (by decide +kernel) (by decide +kernel))
  have hname : FileHandler.getFileName asciiInterpreter sampleCalendar
      "{run_id}-{index}-{extension}" sampleRunDTO (fun _ => 0) 0
        (FileHandler.getFileExtension (.excel false none)) = .ok "1-0-xlsx" := by
    decide +kernel
  exact absurd (suffix_of_delivers hdelivers (fun _ _ => 0) hname) (by decide)

end Delivery

end SyncMaster
