import SyncMaster.Library.Python

/-!
# Queries of a Text Search

A text search is asked in a small language: lexemes between quotes, each of them
for itself or for all words that begin with it, joined by `&` and `|`. Anything
may stand between the quotes, but a quote has to be doubled there, a backslash
takes the next character as it is, and there has to be something. A program that
puts words between quotes as they are writes a query that is broken, or another
one than it meant, unless the words are plain.

`print` is that program, for disjunctions of conjunctions, and `parse` reads
them. The reader goes over the text once. Between two characters it knows what
it has read of a lexeme and whether it has just seen a quote, which may be the
end of the lexeme or the first of two.

What a query asks is a matter of the words of a document, and not of their
order. A lexeme for itself asks more than one for all words that begin with it,
so of two conjunctions of the same words the first is only good for the ranking.

## Main definitions

* `Lexeme`, `Query`: The language.
* `step`, `scan`, `parse`: Reading.
* `print`: Writing.
* `Lexeme.Plain`, `Plain`: Words that may be written as they are.
* `Matches`: What a query asks of a document.

## Theorems

* `scan_lexeme`: A plain lexeme is one token.
* `parse_print`: Queries with plain lexemes are read back.
* `matches_append`, `matches_pair_iff`: What disjunctions ask.
-/

namespace SyncMaster

namespace TextSearch

/-- A word, or all words that begin with it. -/
structure Lexeme where
  text : List Char
  byPrefix : Bool
  deriving DecidableEq, Repr

/-- Conjunctions of lexemes, one of which has to hold. -/
abbrev Query := List (List Lexeme)

inductive Token where
  | lexeme (lexeme : Lexeme)
  | conjunction
  | disjunction
  | opening
  | closing
  deriving DecidableEq, Repr

/-! ## Reading -/

/-- What the reader is in the middle of. -/
inductive Mode where
  | between
  | quoted (read : List Char)
  | escaped (read : List Char)
  | closed (read : List Char)
  | modified (read : List Char)
  deriving DecidableEq, Repr

/-- The first character of something. -/
def start (c : Char) : Option (List Token × Mode) :=
  if isSpace c then some ([], .between)
  else match c with
    | '\'' => some ([], .quoted [])
    | '&' => some ([.conjunction], .between)
    | '|' => some ([.disjunction], .between)
    | '(' => some ([.opening], .between)
    | ')' => some ([.closing], .between)
    | _ => none

/-- What was between quotes. There has to be something. -/
def close (read : List Char) (byPrefix : Bool) : Option Token :=
  if read.isEmpty then none else some (.lexeme ⟨read, byPrefix⟩)

def step : Mode → Char → Option (List Token × Mode)
  | .between, c => start c
  | .quoted read, c =>
      if c = '\'' then some ([], .closed read)
      else if c = '\\' then some ([], .escaped read)
      else some ([], .quoted (read ++ [c]))
  | .escaped read, c => some ([], .quoted (read ++ [c]))
  | .closed read, c =>
      if c = '\'' then some ([], .quoted (read ++ [c]))
      else if c = ':' then some ([], .modified read)
      else (close read false).bind (fun token =>
        (start c).map (fun next => (token :: next.1, next.2)))
  | .modified read, c =>
      if c = '*' then (close read true).map (fun token => ([token], .between)) else none

def finish : Mode → Option (List Token)
  | .between => some []
  | .closed read => (close read false).map (fun token => [token])
  | _ => none

/-- The tokens of a text. -/
def scan : Mode → List Char → Option (List Token)
  | mode, [] => finish mode
  | mode, c :: text => (step mode c).bind (fun next => (scan next.2 text).map (next.1 ++ ·))

def operand : List Token → Option Lexeme
  | [.lexeme lexeme] => some lexeme
  | _ => none

/-- Lexemes in brackets, with `&` between them. -/
def conjunction : List Token → Option (List Lexeme)
  | .opening :: tokens =>
      if tokens.getLast? = some .closing then
        (tokens.dropLast.splitOn .conjunction).mapM operand
      else none
  | _ => none

/-- Conjunctions with `|` between them. A text without tokens is the query that
    nothing matches. -/
def disjunction (tokens : List Token) : Option Query :=
  if tokens.isEmpty then some [] else (tokens.splitOn .disjunction).mapM conjunction

def parse (text : List Char) : Option Query :=
  (scan .between text).bind disjunction

/-! ## Writing -/

namespace Lexeme

def print (lexeme : Lexeme) : List Char :=
  '\'' :: lexeme.text ++ '\'' :: (if lexeme.byPrefix then [':', '*'] else [])

/-- Nothing in the text has a meaning between quotes, and there is something. -/
structure Plain (lexeme : Lexeme) : Prop where
  ne_nil : lexeme.text ≠ []
  noQuote : '\'' ∉ lexeme.text
  noBackslash : '\\' ∉ lexeme.text
  noSpace : ∀ c ∈ lexeme.text, isSpace c = false

end Lexeme

def printConjunction (lexemes : List Lexeme) : List Char :=
  '(' :: [' ', '&', ' '].intercalate (lexemes.map Lexeme.print) ++ [')']

def print (query : Query) : List Char :=
  [' ', '|', ' '].intercalate (query.map printConjunction)

/-- Conjunctions that are not empty, of plain lexemes. -/
def Plain (query : Query) : Prop :=
  ∀ lexemes ∈ query, lexemes ≠ [] ∧ ∀ lexeme ∈ lexemes, lexeme.Plain

/-! ## Tokens of what is written -/

section Scan

variable {read text behind : List Char} {lexeme : Lexeme} {lexemes : List Lexeme}

theorem scan_cons {mode mode' : Mode} {c : Char} {tokens : List Token}
    (h : step mode c = some (tokens, mode')) :
    scan mode (c :: text) = (scan mode' text).map (tokens ++ ·) := by
  rw [scan, h, Option.bind_some]

theorem scan_silent {mode mode' : Mode} {c : Char} (h : step mode c = some ([], mode')) :
    scan mode (c :: text) = scan mode' text := by
  rw [scan_cons h]
  exact Option.map_id'

theorem scan_quoted (hquote : '\'' ∉ text) (hbackslash : '\\' ∉ text) :
    scan (.quoted read) (text ++ '\'' :: behind) = scan (.closed (read ++ text)) behind := by
  induction text generalizing read with
  | nil =>
      rw [List.nil_append, List.append_nil]
      exact scan_silent rfl
  | cons c text ih =>
      have hc : c ≠ '\'' := fun heq => hquote (heq ▸ List.mem_cons_self)
      have hc' : c ≠ '\\' := fun heq => hbackslash (heq ▸ List.mem_cons_self)
      have hstep : step (.quoted read) c = some ([], .quoted (read ++ [c])) := by
        rw [step, if_neg hc, if_neg hc']
      rw [List.cons_append, scan_silent hstep,
        ih (fun h => hquote (List.mem_cons_of_mem c h))
          (fun h => hbackslash (List.mem_cons_of_mem c h)),
        List.append_assoc, List.singleton_append]

theorem close_of_ne_nil (h : read ≠ []) (byPrefix : Bool) :
    close read byPrefix = some (.lexeme ⟨read, byPrefix⟩) := by
  rw [close, if_neg (fun hempty => h (List.isEmpty_iff.mp hempty))]

/-- What comes behind a lexeme cannot be taken for more of it. -/
def Closes (behind : List Char) : Prop :=
  ∀ c ∈ behind.head?, c ≠ '\'' ∧ c ≠ ':'

/-- The lexeme ends where something else begins. -/
theorem scan_closed (h : read ≠ []) (hbehind : Closes behind) :
    scan (.closed read) behind = (scan .between behind).map (.lexeme ⟨read, false⟩ :: ·) := by
  cases behind with
  | nil => rw [scan, finish, close_of_ne_nil h]; rfl
  | cons c behind =>
      rcases hbehind c rfl with ⟨hquote, hcolon⟩
      have hstep : step (.closed read) c =
          (start c).map (fun next => (.lexeme ⟨read, false⟩ :: next.1, next.2)) := by
        rw [step, if_neg hquote, if_neg hcolon, close_of_ne_nil h, Option.bind_some]
      rw [scan, scan, hstep, step]
      cases start c with
      | none => rfl
      | some next =>
          rw [Option.bind_some, Option.map_some, Option.bind_some, Option.map_map]
          rfl

/-- A plain lexeme is one token. -/
theorem scan_lexeme (h : lexeme.Plain) (hbehind : Closes behind) :
    scan .between (lexeme.print ++ behind) = (scan .between behind).map (.lexeme lexeme :: ·) := by
  have hopen : step .between '\'' = some ([], .quoted []) := rfl
  rw [Lexeme.print, List.append_assoc, List.cons_append, List.cons_append, scan_silent hopen,
    scan_quoted h.noQuote h.noBackslash, List.nil_append]
  rcases lexeme with ⟨text, byPrefix⟩
  cases byPrefix with
  | false => exact scan_closed h.ne_nil hbehind
  | true =>
      have hcolon : step (.closed text) ':' = some ([], .modified text) := rfl
      have hstar : step (.modified text) '*' = some ([.lexeme ⟨text, true⟩], .between) := by
        rw [step, if_pos rfl, close_of_ne_nil h.ne_nil]
        rfl
      exact (scan_silent hcolon).trans (scan_cons hstar)

/-- The tokens of a conjunction, without its brackets. -/
def operands (lexemes : List Lexeme) : List Token :=
  [.conjunction].intercalate (lexemes.map (fun lexeme => [.lexeme lexeme]))

theorem operands_cons (lexeme next : Lexeme) (lexemes : List Lexeme) :
    operands (lexeme :: next :: lexemes) =
      .lexeme lexeme :: .conjunction :: operands (next :: lexemes) :=
  List.intercalate_cons_cons

theorem scan_operands (hne : lexemes ≠ []) (h : ∀ lexeme ∈ lexemes, lexeme.Plain) :
    scan .between ([' ', '&', ' '].intercalate (lexemes.map Lexeme.print) ++ ')' :: behind) =
      (scan .between behind).map (operands lexemes ++ .closing :: ·) := by
  have hclosing : step .between ')' = some ([.closing], .between) := rfl
  induction lexemes with
  | nil => exact absurd rfl hne
  | cons lexeme lexemes ih =>
      have hfirst := h lexeme List.mem_cons_self
      cases lexemes with
      | nil =>
          rw [operands, List.map_singleton, List.map_singleton, List.intercalate_singleton,
            List.intercalate_singleton, scan_lexeme hfirst (fun c hc => by cases hc; decide),
            scan_cons hclosing, Option.map_map]
          rfl
      | cons next lexemes =>
          have hrest := ih (List.cons_ne_nil next lexemes)
            (fun other hother => h other (List.mem_cons_of_mem lexeme hother))
          -- The conjunction between two operands, with a blank on either side.
          have hspace : step .between ' ' = some ([], .between) := rfl
          have hand : step .between '&' = some ([.conjunction], .between) := rfl
          rw [List.map_cons, List.map_cons, List.intercalate_cons_cons, List.append_assoc,
            List.append_assoc, scan_lexeme hfirst (fun c hc => by cases hc; decide),
            List.cons_append, List.cons_append, List.singleton_append, scan_silent hspace,
            scan_cons hand, scan_silent hspace, ← List.map_cons, hrest, operands_cons,
            Option.map_map, Option.map_map]
          rfl

def conjunctionTokens (lexemes : List Lexeme) : List Token :=
  .opening :: operands lexemes ++ [.closing]

theorem scan_conjunction (hne : lexemes ≠ []) (h : ∀ lexeme ∈ lexemes, lexeme.Plain) :
    scan .between (printConjunction lexemes ++ behind) =
      (scan .between behind).map (conjunctionTokens lexemes ++ ·) := by
  have hopening : step .between '(' = some ([.opening], .between) := rfl
  rw [printConjunction, List.append_assoc, List.cons_append, scan_cons hopening,
    List.singleton_append, scan_operands hne h, Option.map_map]
  refine congrArg (Option.map · _) (funext fun tokens => ?_)
  rw [conjunctionTokens, List.append_assoc]
  rfl

def queryTokens (query : Query) : List Token :=
  [.disjunction].intercalate (query.map conjunctionTokens)

theorem queryTokens_cons (lexemes next : List Lexeme) (query : Query) :
    queryTokens (lexemes :: next :: query) =
      conjunctionTokens lexemes ++ [.disjunction] ++ queryTokens (next :: query) :=
  List.intercalate_cons_cons

theorem scan_print {query : Query} (hne : query ≠ []) (h : Plain query) :
    scan .between (print query) = some (queryTokens query) := by
  induction query with
  | nil => exact absurd rfl hne
  | cons lexemes query ih =>
      rcases h lexemes List.mem_cons_self with ⟨hlexemes, hplain⟩
      cases query with
      | nil =>
          have hlast : scan .between (printConjunction lexemes ++ []) =
              (scan .between []).map (conjunctionTokens lexemes ++ ·) :=
            scan_conjunction hlexemes hplain
          rw [List.append_nil] at hlast
          rw [print, queryTokens, List.map_singleton, List.map_singleton,
            List.intercalate_singleton, List.intercalate_singleton, hlast, scan, finish,
            Option.map_some, List.append_nil]
      | cons next query =>
          have hrest := ih (List.cons_ne_nil next query)
            (fun other hother => h other (List.mem_cons_of_mem lexemes hother))
          -- The disjunction between two groups, with a blank on either side.
          have hspace : step .between ' ' = some ([], .between) := rfl
          have hor : step .between '|' = some ([.disjunction], .between) := rfl
          rw [print, List.map_cons, List.map_cons, List.intercalate_cons_cons, List.append_assoc,
            scan_conjunction hlexemes hplain, List.cons_append, List.cons_append,
            List.singleton_append, scan_silent hspace, scan_cons hor, scan_silent hspace,
            ← List.map_cons, ← print, hrest, queryTokens_cons, List.append_assoc]
          rfl

end Scan

/-! ## Reading what was written -/

section Parse

variable {lexemes : List Lexeme} {query : Query}

theorem mapM_map_eq {α β : Type} {read : β → Option α} {write : α → β} {xs : List α}
    (h : ∀ x ∈ xs, read (write x) = some x) : (xs.map write).mapM read = some xs := by
  induction xs with
  | nil => rfl
  | cons x xs ih =>
      rw [List.map_cons, List.mapM_cons, h x List.mem_cons_self,
        ih (fun y hy => h y (List.mem_cons_of_mem x hy))]
      rfl

theorem forall_mem_operands {p : Token → Prop} (hjoint : p .conjunction)
    (h : ∀ lexeme ∈ lexemes, p (.lexeme lexeme)) : ∀ token ∈ operands lexemes, p token := by
  induction lexemes with
  | nil => exact List.forall_mem_nil _
  | cons lexeme lexemes ih =>
      have hfirst := h lexeme List.mem_cons_self
      cases lexemes with
      | nil => exact List.forall_mem_singleton.mpr hfirst
      | cons next lexemes =>
          rw [operands_cons]
          refine List.forall_mem_cons.mpr ⟨hfirst, List.forall_mem_cons.mpr ⟨hjoint, ?_⟩⟩
          exact ih (fun other hother => h other (List.mem_cons_of_mem lexeme hother))

theorem conjunction_conjunctionTokens (hne : lexemes ≠ []) :
    conjunction (conjunctionTokens lexemes) = some lexemes := by
  have hsplit : (operands lexemes).splitOn .conjunction =
      lexemes.map (fun lexeme => [.lexeme lexeme]) := by
    refine List.splitOn_intercalate Token.conjunction (fun chunk hchunk => ?_) ?_
    · rcases List.mem_map.mp hchunk with ⟨lexeme, _, rfl⟩
      exact fun hmem => nomatch List.mem_singleton.mp hmem
    · exact fun hnil => hne (List.map_eq_nil_iff.mp hnil)
  rw [conjunctionTokens, List.cons_append, conjunction, if_pos List.getLast?_concat,
    List.dropLast_concat, hsplit]
  exact mapM_map_eq (fun _ _ => rfl)

theorem disjunction_notMem (lexemes : List Lexeme) : .disjunction ∉ conjunctionTokens lexemes := by
  have hall : ∀ token ∈ conjunctionTokens lexemes, token ≠ .disjunction :=
    List.forall_mem_append.mpr ⟨List.forall_mem_cons.mpr ⟨by decide,
      forall_mem_operands (by decide) (fun _ _ => (fun h => nomatch h))⟩,
      List.forall_mem_singleton.mpr (by decide)⟩
  exact fun hmem => hall _ hmem rfl

theorem disjunction_queryTokens (hne : query ≠ []) (h : ∀ lexemes ∈ query, lexemes ≠ []) :
    disjunction (queryTokens query) = some query := by
  have hsplit : (queryTokens query).splitOn .disjunction = query.map conjunctionTokens := by
    refine List.splitOn_intercalate Token.disjunction (fun chunk hchunk => ?_) ?_
    · rcases List.mem_map.mp hchunk with ⟨lexemes, _, rfl⟩
      exact disjunction_notMem lexemes
    · exact fun hnil => hne (List.map_eq_nil_iff.mp hnil)
  have htokens : ¬ (queryTokens query).isEmpty = true := by
    intro hempty
    rw [List.isEmpty_iff.mp hempty] at hsplit
    cases query with
    | nil => exact hne rfl
    | cons lexemes query => cases (List.cons.inj hsplit).1
  rw [disjunction, if_neg htokens, hsplit]
  exact mapM_map_eq (fun lexemes hlexemes => conjunction_conjunctionTokens (h lexemes hlexemes))

/-- Queries with plain lexemes are read back. -/
theorem parse_print (h : Plain query) : parse (print query) = some query := by
  by_cases hne : query = []
  · rw [hne]
    rfl
  · rw [parse, scan_print hne h, Option.bind_some]
    exact disjunction_queryTokens hne (fun lexemes hlexemes => (h lexemes hlexemes).1)

theorem printConjunction_ne_nil (lexemes : List Lexeme) : printConjunction lexemes ≠ [] :=
  List.append_ne_nil_of_right_ne_nil _ (List.cons_ne_nil _ _)

/-- Only the query without conjunctions has no text. -/
theorem print_eq_nil_iff : print query = [] ↔ query = [] := by
  constructor
  · intro h
    cases query with
    | nil => rfl
    | cons lexemes query =>
        cases query with
        | nil => exact absurd h (by
            rw [print, List.map_singleton, List.intercalate_singleton]
            exact printConjunction_ne_nil lexemes)
        | cons next query =>
            rw [print, List.map_cons, List.map_cons, List.intercalate_cons_cons,
              List.append_assoc] at h
            exact absurd (List.append_eq_nil_iff.mp h).1 (printConjunction_ne_nil lexemes)
  · intro h
    rw [h]
    rfl

end Parse

/-! ## What a query asks -/

section Matches

variable {document : Set (List Char)} {words : List (List Char)} {query other : Query}

/-- The document has the word, or one that begins with it. -/
def Lexeme.Matches (document : Set (List Char)) (lexeme : Lexeme) : Prop :=
  if lexeme.byPrefix then ∃ word ∈ document, lexeme.text <+: word else lexeme.text ∈ document

def Matches (document : Set (List Char)) (query : Query) : Prop :=
  ∃ lexemes ∈ query, ∀ lexeme ∈ lexemes, lexeme.Matches document

/-- The words for themselves, or for all words that begin with them. -/
def lexemesOf (byPrefix : Bool) (words : List (List Char)) : List Lexeme :=
  words.map (fun word => ⟨word, byPrefix⟩)

theorem not_matches_nil : ¬ Matches document [] :=
  fun h => absurd h.choose_spec.1 List.not_mem_nil

theorem matches_append :
    Matches document (query ++ other) ↔ Matches document query ∨ Matches document other := by
  unfold Matches
  simp only [List.mem_append, or_and_right, exists_or]

theorem matches_prefixes_iff : Matches document [lexemesOf true words] ↔
    ∀ word ∈ words, ∃ found ∈ document, word <+: found := by
  simp only [Matches, List.mem_singleton, exists_eq_left, lexemesOf, List.forall_mem_map,
    Lexeme.Matches, if_true]

/-- Words for themselves ask for nothing that is not asked for with their
    prefixes. -/
theorem matches_pair_iff : Matches document [lexemesOf false words, lexemesOf true words] ↔
    ∀ word ∈ words, ∃ found ∈ document, word <+: found := by
  rw [← matches_prefixes_iff]
  constructor
  · intro h
    rcases h with ⟨lexemes, hlexemes, hall⟩
    rcases List.mem_cons.mp hlexemes with rfl | hlexemes
    · refine matches_prefixes_iff.mpr (fun word hword => ⟨word, ?_, List.prefix_rfl⟩)
      have hmatch := hall ⟨word, false⟩ (List.mem_map_of_mem hword)
      rw [Lexeme.Matches, if_neg Bool.false_ne_true] at hmatch
      exact hmatch
    · exact ⟨lexemes, hlexemes, hall⟩
  · intro h
    rcases h with ⟨lexemes, hlexemes, hall⟩
    exact ⟨lexemes, List.mem_cons_of_mem _ hlexemes, hall⟩

end Matches

end TextSearch

end SyncMaster
