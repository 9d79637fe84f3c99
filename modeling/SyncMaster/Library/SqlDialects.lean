import SyncMaster.Library.SqlGrammar

/-!
# Dialects of SQL

The dialects of six systems, as their manuals describe names and literals. They
agree on doubled quotes and on little else. PostgreSQL and Oracle have no
escapes. SQL Server knows a backslash at the end of a line. MySQL and Spark have
escapes in literals and leave those alone that `LIKE` needs. ClickHouse has them
in names as well and leaves most alone, for the sake of regular expressions.

PostgreSQL cuts off what is too long of a name, others refuse such names. In
Spark almost any word is a name without quotes, where a name is expected.

The last section has the forms of predicates that the dialects share.

## Main definitions

* `mysqlEscapes`, `sparkEscapes`, `clickhouseEscapes`, `lineEscapes`: Escapes.
* `only`, `clipped`: Texts that are refused, and texts that are cut off.
* `postgres`, `oracle`, `transact`, `clickhouse`, `mysql`, `spark`: Dialects.
* `sparkPlain`: Spark, with names that have no quotes.
* `unary`, `binary`, `lowered`, `notLowered`, `call`: Forms.

## Theorems

* `weight_special`: An escaped character stands for one that weighs no more.
* `cleanName_postgres_iff`: The names that PostgreSQL reads back.
* `text_unary`, `text_binary` and the others: What the forms look like.
-/

namespace SyncMaster

namespace Sql

/-! ## Escapes -/

/-- The character that one behind a backslash stands for, or the one itself. -/
def special (table : List (Char × Char)) (c : Char) : Char :=
  (table.lookup c).getD c

/-- Where no letter of the table is blank, escapes make nothing heavier. -/
theorem weight_special {table : List (Char × Char)} (h : ∀ entry ∈ table, isBlank entry.1 = false)
    (c : Char) : weight [special table c] ≤ weight [c] := by
  unfold special
  cases hlookup : table.lookup c with
  | none => exact le_refl _
  | some other =>
      rcases List.lookup_eq_some_iff.mp hlookup with ⟨front, behind, heq, _⟩
      have hmem : (c, other) ∈ table := heq ▸ List.mem_append_right _ List.mem_cons_self
      have hone : weight [c] = 1 := by
        rw [weight_singleton, h _ hmem]
        rfl
      rw [hone]
      exact weight_singleton_le other

/-- The value of a digit, up to sixteen. -/
def digitValue (base : Nat) (c : Char) : Option Nat :=
  let digit :=
    if c.isDigit then c.toNat - '0'.toNat
    else if 'a' ≤ c ∧ c ≤ 'f' then c.toNat - 'a'.toNat + 10
    else if 'A' ≤ c ∧ c ≤ 'F' then c.toNat - 'A'.toNat + 10
    else base
  if digit < base then some digit else none

/-- The character whose number the next digits are, if there are so many. -/
def codePoint (base : Nat) : Nat → Nat → List Char → Option Char
  | 0, number, _ => some (Char.ofNat number)
  | _ + 1, _, [] => none
  | count + 1, number, c :: text =>
      (digitValue base c).bind (fun digit => codePoint base count (number * base + digit) text)

/-- Some characters with what they take of the text, in place of one. -/
theorem weight_codePoint {number : Option Char} {count : Nat} {c other : Char}
    (h : isBlank c = false) :
    weight (match number with
      | some point => ([point], count)
      | none => ([other], 0)).1 ≤ weight [c] := by
  have hone : weight [c] = 1 := by
    rw [weight_singleton, h]
    rfl
  rw [hone]
  cases number with
  | none => exact weight_singleton_le other
  | some point => exact weight_singleton_le point

def mysqlTable : List (Char × Char) :=
  [('0', '\x00'), ('b', '\x08'), ('n', '\n'), ('r', '\r'), ('t', '\t'), ('Z', '\x1a')]

/-- `\%` and `\_` are left for `LIKE`. -/
def mysqlEscapes : Escapes where
  keeps c := c == '%' || c == '_'
  replace c _ := ([special mysqlTable c], 0)
  weight_replace c _ _ := weight_special (by decide) c

def sparkReplace (c : Char) (text : List Char) : List Char × Nat :=
  if c = 'u' then
    match codePoint 16 4 0 text with
    | some point => ([point], 4)
    | none => (['u'], 0)
  else if c = 'U' then
    match codePoint 16 8 0 text with
    | some point => ([point], 8)
    | none => (['U'], 0)
  else if c = '0' ∨ c = '1' then
    match codePoint 8 3 0 (c :: text) with
    | some point => ([point], 2)
    | none => ([special mysqlTable c], 0)
  else ([special mysqlTable c], 0)

/-- Those of MySQL, and characters by their number. -/
def sparkEscapes : Escapes where
  keeps c := c == '%' || c == '_'
  replace := sparkReplace
  weight_replace c text _ := by
    unfold sparkReplace
    by_cases hu : c = 'u'
    · rw [if_pos hu]
      exact weight_codePoint (hu ▸ rfl)
    rw [if_neg hu]
    by_cases hU : c = 'U'
    · rw [if_pos hU]
      exact weight_codePoint (hU ▸ rfl)
    rw [if_neg hU]
    by_cases hoctal : c = '0' ∨ c = '1'
    · rw [if_pos hoctal]
      refine weight_codePoint ?_
      rcases hoctal with rfl | rfl <;> rfl
    · rw [if_neg hoctal]
      exact weight_special (by decide) c

def clickhouseTable : List (Char × Char) :=
  [('a', '\x07'), ('b', '\x08'), ('e', '\x1b'), ('f', '\x0c'), ('n', '\n'), ('r', '\r'),
    ('t', '\t'), ('v', '\x0b'), ('0', '\x00')]

def clickhouseReplace (c : Char) (text : List Char) : List Char × Nat :=
  if c = 'N' then ([], 0)
  else if c = 'x' then
    match codePoint 16 2 0 text with
    | some point => ([point], 2)
    | none => (['x'], 0)
  else ([special clickhouseTable c], 0)

/-- Any backslash is kept that is not in front of one of these. -/
def clickhouseEscapes : Escapes where
  keeps c :=
    !(clickhouseTable.map Prod.fst ++ ['N', 'x', '\\', '\'', '"', '`', '/']).contains c &&
      !(c.toNat < 32 || c.toNat = 127)
  replace := clickhouseReplace
  weight_replace c text _ := by
    unfold clickhouseReplace
    by_cases hN : c = 'N'
    · rw [if_pos hN]
      exact Nat.zero_le _
    rw [if_neg hN]
    by_cases hx : c = 'x'
    · rw [if_pos hx]
      exact weight_codePoint (hx ▸ rfl)
    · rw [if_neg hx]
      exact weight_special (by decide) c

/-- A backslash at the end of a line goes on with the literal on the next. -/
def lineEscapes : Escapes where
  keeps c := c != '\n' && c != '\r'
  replace c text := ([], if c = '\r' ∧ text.head? = some '\n' then 1 else 0)
  weight_replace _ _ _ := Nat.zero_le _

/-! ## Limits -/

/-- Some texts are taken as they are, and the others refused. -/
def only (p : List Char → Bool) : Limit where
  taken text := if p text then some text else none
  shortens text short h := by
    by_cases htext : p text = true
    · rw [if_pos htext] at h
      exact Option.some.inj h ▸ List.prefix_refl text
    · rw [if_neg htext] at h
      cases h
  stable text short h := by
    by_cases htext : p text = true
    · rw [if_pos htext] at h
      rw [← Option.some.inj h, if_pos htext]
    · rw [if_neg htext] at h
      cases h

theorem only_taken_eq_some_iff {p : List Char → Bool} {text short : List Char} :
    (only p).taken text = some short ↔ p text = true ∧ text = short := by
  have htaken : (only p).taken text = if p text then some text else none := rfl
  rw [htaken]
  by_cases htext : p text = true
  · rw [if_pos htext, Option.some_inj]
    exact (and_iff_right htext).symm
  · rw [if_neg htext]
    exact iff_of_false (fun h => nomatch h) (fun h => htext h.1)

/-- As many characters as there is room for. -/
def clip (size : Char → Nat) : Nat → List Char → List Char
  | _, [] => []
  | room, c :: text => if size c ≤ room then c :: clip size (room - size c) text else []

theorem clip_isPrefix (size : Char → Nat) (room : Nat) (text : List Char) :
    clip size room text <+: text := by
  induction text generalizing room with
  | nil => exact List.prefix_refl []
  | cons c text ih =>
      rw [clip]
      split
      · exact (List.prefix_cons_inj c).mpr (ih _)
      · exact List.nil_prefix

/-- Nothing is cut off where there is room for all. -/
theorem clip_eq_self_iff {size : Char → Nat} {room : Nat} {text : List Char} :
    clip size room text = text ↔ (text.map size).sum ≤ room := by
  induction text generalizing room with
  | nil => exact iff_of_true rfl (Nat.zero_le room)
  | cons c text ih =>
      rw [clip, List.map_cons, List.sum_cons]
      by_cases hroom : size c ≤ room
      · rw [if_pos hroom, List.cons.injEq, and_iff_right rfl, ih]
        omega
      · rw [if_neg hroom]
        exact iff_of_false (List.cons_ne_nil _ _).symm (by omega)

theorem sum_size_clip_le (size : Char → Nat) (room : Nat) (text : List Char) :
    ((clip size room text).map size).sum ≤ room := by
  induction text generalizing room with
  | nil => exact Nat.zero_le room
  | cons c text ih =>
      rw [clip]
      by_cases hroom : size c ≤ room
      · have hrest := ih (room - size c)
        rw [if_pos hroom, List.map_cons, List.sum_cons]
        omega
      · rw [if_neg hroom]
        exact Nat.zero_le room

/-- What there is no room for is cut off. -/
def clipped (p : List Char → Bool) (size : Char → Nat) (room : Nat) : Limit where
  taken text :=
    if p text && p (clip size room text) then some (clip size room text) else none
  shortens text short h := by
    by_cases htext : (p text && p (clip size room text)) = true
    · rw [if_pos htext] at h
      exact Option.some.inj h ▸ clip_isPrefix size room text
    · rw [if_neg htext] at h
      cases h
  stable text short h := by
    by_cases htext : (p text && p (clip size room text)) = true
    · rw [if_pos htext] at h
      have hshort := (Bool.and_eq_true_iff.mp htext).2
      have hclip := clip_eq_self_iff.mpr (sum_size_clip_le size room text)
      rw [← Option.some.inj h, hclip, hshort]
      rfl
    · rw [if_neg htext] at h
      cases h

/-- Such a text is taken for itself if nothing is cut off. -/
theorem clipped_taken_self_iff {p : List Char → Bool} {size : Char → Nat} {room : Nat}
    {text : List Char} :
    (clipped p size room).taken text = some text ↔ p text = true ∧ (text.map size).sum ≤ room := by
  have htaken : (clipped p size room).taken text =
      if p text && p (clip size room text) then some (clip size room text) else none := rfl
  rw [htaken, ← clip_eq_self_iff]
  constructor
  · intro h
    by_cases hboth : (p text && p (clip size room text)) = true
    · rw [if_pos hboth] at h
      exact ⟨(Bool.and_eq_true_iff.mp hboth).1, Option.some.inj h⟩
    · rw [if_neg hboth] at h
      cases h
  · intro h
    rcases h with ⟨htext, hclip⟩
    rw [hclip, htext]
    rfl

def utf16Size (c : Char) : Nat :=
  if c.toNat < 0x10000 then 1 else 2

def sizeAtMost (size : Char → Nat) (room : Nat) (text : List Char) : Bool :=
  decide ((text.map size).sum ≤ room)

def notEmpty (text : List Char) : Bool :=
  !text.isEmpty

def hasNoNul (text : List Char) : Bool :=
  !text.contains '\x00'

/-! ## Dialects -/

/-- A dialect that takes what is between quotes for itself or refuses it. -/
def quoting (identifierQuote : Char) (escapes : Kind → Option Escapes)
    (takes : Kind → List Char → Bool) (keywords : List (List Char))
    (quote_eq : identifierQuote = '"' ∨ identifierQuote = '`') : Dialect where
  identifierQuote := identifierQuote
  escapes := escapes
  limit kind := only (takes kind)
  keywords := keywords
  plainNames := none
  quote_eq := quote_eq
  limit_of_escapes _ := Or.inr (fun _ _ h => (only_taken_eq_some_iff.mp h).2.symm)

/-- No text has a character zero, and of a name 63 bytes are left. -/
def postgres (keywords : List (List Char)) : Dialect where
  identifierQuote := '"'
  escapes _ := none
  limit
    | .identifier => clipped (fun name => notEmpty name && hasNoNul name) Char.utf8Size 63
    | .literal => only hasNoNul
  keywords := keywords
  plainNames := none
  quote_eq := Or.inl rfl
  limit_of_escapes _ := Or.inl rfl

/-- The names that PostgreSQL reads back. -/
theorem cleanName_postgres_iff (keywords : List (List Char)) (name next : List Char) :
    (postgres keywords).CleanName name next ↔
      '"' ∉ name ∧ name ≠ [] ∧ '\x00' ∉ name ∧ (name.map Char.utf8Size).sum ≤ 63 := by
  have hclean : (postgres keywords).CleanName name next ↔
      (postgres keywords).CleanText .identifier name := Iff.rfl
  have hkept : (postgres keywords).Kept .identifier (name ++ ['"']) :=
    fun _ hescapes => nomatch hescapes
  have htaken : ((postgres keywords).limit .identifier).taken name = some name ↔
      (notEmpty name && hasNoNul name) = true ∧ (name.map Char.utf8Size).sum ≤ 63 :=
    clipped_taken_self_iff
  have hempty : notEmpty name = true ↔ name ≠ [] := by
    rw [notEmpty, Bool.not_eq_true', ← Bool.not_eq_true, List.isEmpty_iff]
  have hnul : hasNoNul name = true ↔ '\x00' ∉ name := by
    rw [hasNoNul, Bool.not_eq_true', ← Bool.not_eq_true, List.contains_iff_mem]
  rw [hclean, Dialect.CleanText, htaken, Bool.and_eq_true_iff, hempty, hnul, and_assoc]
  exact and_congr_left (fun _ => and_iff_left hkept)

/-- Names have 128 bytes at most. -/
def oracle (keywords : List (List Char)) : Dialect :=
  quoting '"' (fun _ => none)
    (fun
      | .identifier, name =>
          notEmpty name && hasNoNul name && sizeAtMost Char.utf8Size 128 name
      | .literal, _ => true)
    keywords (Or.inl rfl)

/-- The dialect of SQL Server. Names have 128 characters at most, as UTF-16 counts
    them. -/
def transact (keywords : List (List Char)) : Dialect :=
  quoting '"'
    (fun
      | .identifier => none
      | .literal => some lineEscapes)
    (fun
      | .identifier, name => notEmpty name && sizeAtMost utf16Size 128 name
      | .literal, _ => true)
    keywords (Or.inl rfl)

def clickhouse (keywords : List (List Char)) : Dialect :=
  quoting '"' (fun _ => some clickhouseEscapes)
    (fun
      | .identifier, name => notEmpty name
      | .literal, _ => true)
    keywords (Or.inl rfl)

/-- Names have characters of the first plane only, and not the character zero. -/
def mysql (keywords : List (List Char)) : Dialect :=
  quoting '`'
    (fun
      | .identifier => none
      | .literal => some mysqlEscapes)
    (fun
      | .identifier, name =>
          notEmpty name && hasNoNul name && name.all (fun c => utf16Size c == 1)
      | .literal, _ => true)
    keywords (Or.inr rfl)

def spark (keywords : List (List Char)) : Dialect :=
  quoting '`'
    (fun
      | .identifier => none
      | .literal => some sparkEscapes)
    (fun
      | .identifier, name => notEmpty name
      | .literal, _ => true)
    keywords (Or.inr rfl)

/-- A word that Spark takes for a number: digits, an exponent that is no more than
    digits, and a suffix for the type. -/
def isNumber (word : List Char) : Bool :=
  let rest := (upper word).dropWhile Char.isDigit
  let exponent := rest.tail
  word.head?.any Char.isDigit &&
    ((["", "L", "S", "Y", "F", "D", "BD"].map String.toList).contains rest ||
      (rest.head? == some 'E' && exponent.head?.any Char.isDigit &&
        (["", "F", "D", "BD"].map String.toList).contains (exponent.dropWhile Char.isDigit)))

/-- The words that begin a literal, and `NOT` in front of what it can be the negation
    of, are no names. All other words are, keywords or not. -/
def sparkName (word next : List Char) : Bool :=
  !isNumber word &&
    !(["NULL", "TRUE", "FALSE", "INTERVAL"].map String.toList).contains (upper word) &&
    !(upper word == "NOT".toList &&
      (["LIKE", "ILIKE", "RLIKE", "NOT"].map String.toList).contains next)

/-- With names that may do without quotes. -/
def sparkPlain (keywords : List (List Char)) : Dialect :=
  { spark keywords with plainNames := some sparkName }

/-! ## Forms -/

def operatorPart (text : List Char) : Part :=
  if text.all isSymbol then .symbol text else .word text

/-- The words and symbols of an operator. -/
def operatorParts (operator : String) : List Part :=
  ((operator.toList.splitOn ' ').map operatorPart).intersperse .blank

/-- `name operator` -/
def unary (operator : String) : Form where
  operator := operator
  pattern := [.name [], .blank] ++ operatorParts operator

/-- `name operator 'value'` -/
def binary (operator : String) : Form where
  operator := operator
  pattern := [.name [], .blank] ++ operatorParts operator ++ [.blank, .value []]

/-- `LOWER(name) LIKE LOWER('value')` -/
def loweredPattern : List Part :=
  [.word "LOWER".toList, .punctuation '(', .name [], .punctuation ')', .blank,
    .word "LIKE".toList, .blank,
    .word "LOWER".toList, .punctuation '(', .value [], .punctuation ')']

def lowered (operator : String) : Form where
  operator := operator
  pattern := loweredPattern

/-- `NOT LOWER(name) LIKE LOWER('value')` -/
def notLowered (operator : String) : Form where
  operator := operator
  pattern := [.word "NOT".toList, .blank] ++ loweredPattern

/-- `FUNCTION(name, 'value')` -/
def call (operator : String) : Form where
  operator := operator
  pattern := [.word operator.toList, .punctuation '(', .name [], .punctuation ',', .blank,
    .value [], .punctuation ')']

theorem textOf_append (d : Dialect) (front parts : List Part) :
    textOf d (front ++ parts) = textOf d front ++ textOf d parts :=
  List.flatMap_append

theorem text_fill_operatorPart (d : Dialect) (field value text : List Char) :
    ((operatorPart text).fill field value).text d = text := by
  unfold operatorPart
  by_cases hsymbol : text.all isSymbol = true
  · rw [if_pos hsymbol]
    rfl
  · rw [if_neg hsymbol]
    rfl

/-- An operator is cut at its blanks and put together with them. -/
theorem textOf_operatorParts (d : Dialect) (field value : List Char) (operator : String) :
    textOf d ((operatorParts operator).map (Part.fill field value)) = operator.toList := by
  have htexts : ∀ texts : List (List Char),
      textOf d (((texts.map operatorPart).intersperse .blank).map (Part.fill field value)) =
        [' '].intercalate texts := by
    intro texts
    induction texts with
    | nil => rfl
    | cons text texts ih =>
        cases texts with
        | nil =>
            rw [List.intercalate_singleton]
            refine List.append_nil _ |>.trans ?_
            exact text_fill_operatorPart d field value text
        | cons next texts =>
            rw [List.intercalate_cons_cons, ← ih, List.append_assoc]
            exact congrArg₂ (· ++ ·) (text_fill_operatorPart d field value text) rfl
  rw [operatorParts, htexts, List.intercalate_splitOn]

theorem text_unary (d : Dialect) (operator : String) (field value : List Char) :
    textOf d ((unary operator).parts field value) =
      (Part.name field).text d ++ ' ' :: operator.toList := by
  unfold Form.parts unary
  rw [List.map_append, textOf_append, textOf_operatorParts]
  exact List.append_assoc _ [' '] _

theorem text_binary (d : Dialect) (operator : String) (field value : List Char) :
    textOf d ((binary operator).parts field value) =
      (Part.name field).text d ++ ' ' :: (operator.toList ++ ' ' :: d.quoted .literal value) := by
  unfold Form.parts binary
  have hvalue : textOf d ([.blank, .value []].map (Part.fill field value)) =
      ' ' :: d.quoted .literal value :=
    congrArg (List.cons ' ') (List.append_nil _)
  rw [List.map_append, List.map_append, textOf_append, textOf_append, textOf_operatorParts, hvalue,
    List.append_assoc]
  exact List.append_assoc _ [' '] _

theorem text_lowered (d : Dialect) (operator : String) (field value : List Char) :
    textOf d ((lowered operator).parts field value) =
      "LOWER(".toList ++ (Part.name field).text d ++ ") LIKE LOWER(".toList ++
        d.quoted .literal value ++ ")".toList := by
  simp only [List.append_assoc]
  rfl

theorem text_notLowered (d : Dialect) (operator : String) (field value : List Char) :
    textOf d ((notLowered operator).parts field value) =
      "NOT LOWER(".toList ++ (Part.name field).text d ++ ") LIKE LOWER(".toList ++
        d.quoted .literal value ++ ")".toList := by
  simp only [List.append_assoc]
  rfl

theorem text_call (d : Dialect) (operator : String) (field value : List Char) :
    textOf d ((call operator).parts field value) =
      operator.toList ++ '(' :: ((Part.name field).text d ++ ", ".toList ++
        d.quoted .literal value ++ ")".toList) := by
  simp only [List.append_assoc]
  rfl

end Sql

end SyncMaster
