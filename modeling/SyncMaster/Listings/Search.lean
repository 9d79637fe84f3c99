import SyncMaster.Library.TextQueries

/-!
# Search Queries

What a user types into a search is made into a query of a text search. The words
are looked for twice: with the punctuation that paths, addresses and names of
hosts have, and, if that is something else, cut at all punctuation.

A query that is not well formed is an error of the database, so no character
that means something to the query language may come through. Two tables replace
them by spaces, and only words that are cut at spaces are written. Everything
rests on what characters the words can have, and `mem_supportedWord` and
`mem_plainWord` say that.

## Main definitions

* `buildTsquery`: The text of the query.
* `searchQuery`: The query that is meant.

## Theorems

* `searchQuery_plain`: It has plain lexemes only.
* `wordsWithSupportedPunctuation_eq_nil_iff`: When there is nothing to look for.
* `buildTsquery_eq_print`: The text is the query, written down.
* `buildTsquery_wellFormed`: The text is read back as the query.
* `matches_searchQuery_iff`: What a document needs to be found.
-/

namespace SyncMaster

open TextSearch

/-- `TSQUERY_UNSUPPORTED_CHARS`. `punctuation` is sorted. -/
def tsqueryUnsupportedChars : List Char :=
  punctuation.filter (fun c => !(['/', '.', '_', '-'].contains c))

/-- `words_with_supported_punctuation`. -/
def wordsWithSupportedPunctuation (query : List Char) : List (List Char) :=
  (split (replaceWithSpaces tsqueryUnsupportedChars query)).filter
    (fun part => !part.all (fun c => punctuation.contains c))

/-- `words_without_any_punctuation`. -/
def wordsWithoutAnyPunctuation (query : List Char) : List (List Char) :=
  split (replaceWithSpaces punctuation query)

/-- `combine_words`. -/
def combineWords (words : List (List Char)) (byPrefix : Bool) : List Char :=
  let modifier := if byPrefix then [':', '*'] else []
  [' ', '&', ' '].intercalate ((words.filter (fun word => !word.isEmpty)).map
    (fun word => '\'' :: word ++ '\'' :: modifier))

/-- `combine_queries`. -/
def combineQueries (queries : List (List Char)) : List Char :=
  [' ', '|', ' '].intercalate ((queries.filter (fun query => !query.isEmpty)).map
    (fun query => '(' :: query ++ [')']))

/-- `build_tsquery`. -/
def buildTsquery (userInput : String) : String :=
  let originalWords := wordsWithSupportedPunctuation userInput.toList
  let onlyWords := wordsWithoutAnyPunctuation userInput.toList
  String.ofList (combineQueries [
    combineWords originalWords false,
    combineWords originalWords true,
    if onlyWords ≠ originalWords then combineWords onlyWords true else []])

/-- The query that is meant. -/
def searchQuery (userInput : String) : Query :=
  let originalWords := wordsWithSupportedPunctuation userInput.toList
  let onlyWords := wordsWithoutAnyPunctuation userInput.toList
  if originalWords = [] then []
  else [lexemesOf false originalWords, lexemesOf true originalWords] ++
    if onlyWords ≠ originalWords then [lexemesOf true onlyWords] else []

/-! ## The characters of the words -/

section Words

variable {query word : List Char} {words : List (List Char)} {c : Char} {userInput : String}

theorem mem_unsupportedChars :
    c ∈ tsqueryUnsupportedChars ↔ c ∈ punctuation ∧ c ∉ ['/', '.', '_', '-'] := by
  rw [tsqueryUnsupportedChars, List.mem_filter, Bool.not_eq_true', List.contains_eq_mem,
    decide_eq_false_iff_not]

/-- A word of letters and supported punctuation. One of its characters is no
    punctuation at all. -/
theorem mem_supportedWord (h : word ∈ wordsWithSupportedPunctuation query) :
    (∃ c ∈ word, c ∉ punctuation) ∧
      ∀ c ∈ word, c ∈ query ∧ c ∉ tsqueryUnsupportedChars ∧ isSpace c = false := by
  rcases List.mem_filter.mp h with ⟨hsplit, hall⟩
  constructor
  · rw [Bool.not_eq_true', List.all_eq_false] at hall
    rcases hall with ⟨c, hc, hpunctuation⟩
    rw [List.contains_eq_mem, decide_eq_true_eq] at hpunctuation
    exact ⟨c, hc, hpunctuation⟩
  · intro c hc
    rcases (mem_split hsplit).2 c hc with ⟨hmem, hspace⟩
    rcases (mem_replaceWithSpaces hspace).mp hmem with ⟨hquery, hsupported⟩
    exact ⟨hquery, hsupported, hspace⟩

theorem mem_plainWord (h : word ∈ wordsWithoutAnyPunctuation query) :
    word ≠ [] ∧ ∀ c ∈ word, c ∈ query ∧ c ∉ punctuation ∧ isSpace c = false := by
  rcases mem_split h with ⟨hne, hchars⟩
  refine ⟨hne, fun c hc => ?_⟩
  rcases hchars c hc with ⟨hmem, hspace⟩
  rcases (mem_replaceWithSpaces hspace).mp hmem with ⟨hquery, hpunctuation⟩
  exact ⟨hquery, hpunctuation, hspace⟩

theorem ne_nil_of_supportedWord (h : word ∈ wordsWithSupportedPunctuation query) : word ≠ [] := by
  rcases (mem_supportedWord h).1 with ⟨c, hc, _⟩
  exact List.ne_nil_of_mem hc

/-- There is nothing to look for when there is only space and punctuation. -/
theorem wordsWithSupportedPunctuation_eq_nil_iff :
    wordsWithSupportedPunctuation query = [] ↔
      ∀ c ∈ query, isSpace c = true ∨ c ∈ punctuation := by
  constructor
  · intro h c hc
    by_contra hother
    rw [not_or, Bool.not_eq_true] at hother
    -- A character that is neither is not replaced, and its word is not dropped.
    have hsupported : c ∉ tsqueryUnsupportedChars :=
      fun hmem => hother.2 (mem_unsupportedChars.mp hmem).1
    rcases exists_mem_split ((mem_replaceWithSpaces hother.1).mpr ⟨hc, hsupported⟩) hother.1 with
      ⟨word, hword, hmem⟩
    have hkept : word ∈ wordsWithSupportedPunctuation query := by
      refine List.mem_filter.mpr ⟨hword, ?_⟩
      rw [Bool.not_eq_true', List.all_eq_false]
      refine ⟨c, hmem, ?_⟩
      rw [List.contains_eq_mem, decide_eq_true_eq]
      exact hother.2
    rw [h] at hkept
    exact List.not_mem_nil hkept
  · intro h
    refine List.eq_nil_iff_forall_not_mem.mpr (fun word hword => ?_)
    rcases mem_supportedWord hword with ⟨⟨c, hc, hpunctuation⟩, hchars⟩
    rcases hchars c hc with ⟨hquery, _, hspace⟩
    rcases h c hquery with hyes | hyes
    · rw [hyes] at hspace
      cases hspace
    · exact hpunctuation hyes

/-- Without words that have supported punctuation there are no others. -/
theorem wordsWithoutAnyPunctuation_eq_nil_iff :
    wordsWithoutAnyPunctuation query = [] ↔ wordsWithSupportedPunctuation query = [] := by
  rw [wordsWithSupportedPunctuation_eq_nil_iff, wordsWithoutAnyPunctuation, split_eq_nil_iff]
  constructor
  · intro h c hc
    by_contra hother
    rw [not_or, Bool.not_eq_true] at hother
    have hspace := h c ((mem_replaceWithSpaces hother.1).mpr ⟨hc, hother.2⟩)
    rw [hother.1] at hspace
    cases hspace
  · intro h c hc
    by_contra hspace
    rcases (mem_replaceWithSpaces (Bool.eq_false_iff.mpr hspace)).mp hc with ⟨hquery, hother⟩
    exact (h c hquery).elim hspace hother

/-! ## The query -/

theorem plain_supportedWord (h : word ∈ wordsWithSupportedPunctuation query) (byPrefix : Bool) :
    Lexeme.Plain ⟨word, byPrefix⟩ where
  ne_nil := ne_nil_of_supportedWord h
  noQuote := fun hmem => ((mem_supportedWord h).2 _ hmem).2.1 (by decide)
  noBackslash := fun hmem => ((mem_supportedWord h).2 _ hmem).2.1 (by decide)
  noSpace := fun c hc => ((mem_supportedWord h).2 c hc).2.2

theorem plain_plainWord (h : word ∈ wordsWithoutAnyPunctuation query) (byPrefix : Bool) :
    Lexeme.Plain ⟨word, byPrefix⟩ where
  ne_nil := (mem_plainWord h).1
  noQuote := fun hmem => ((mem_plainWord h).2 _ hmem).2.1 (by decide)
  noBackslash := fun hmem => ((mem_plainWord h).2 _ hmem).2.1 (by decide)
  noSpace := fun c hc => ((mem_plainWord h).2 c hc).2.2

theorem lexemesOf_ne_nil {byPrefix : Bool} (h : words ≠ []) : lexemesOf byPrefix words ≠ [] :=
  fun hnil => h (List.map_eq_nil_iff.mp hnil)

theorem searchQuery_plain (userInput : String) : TextSearch.Plain (searchQuery userInput) := by
  have hsupported : ∀ byPrefix, ∀ lexeme ∈ lexemesOf byPrefix
      (wordsWithSupportedPunctuation userInput.toList), lexeme.Plain := by
    intro byPrefix lexeme hlexeme
    rcases List.mem_map.mp hlexeme with ⟨word, hword, rfl⟩
    exact plain_supportedWord hword byPrefix
  have honly : ∀ lexeme ∈ lexemesOf true (wordsWithoutAnyPunctuation userInput.toList),
      lexeme.Plain := by
    intro lexeme hlexeme
    rcases List.mem_map.mp hlexeme with ⟨word, hword, rfl⟩
    exact plain_plainWord hword true
  rw [searchQuery]
  split
  · exact List.forall_mem_nil _
  · rename_i hne
    refine List.forall_mem_append.mpr ⟨?_, ?_⟩
    · exact List.forall_mem_cons.mpr ⟨⟨lexemesOf_ne_nil hne, hsupported false⟩,
        List.forall_mem_singleton.mpr ⟨lexemesOf_ne_nil hne, hsupported true⟩⟩
    · split
      · exact List.forall_mem_singleton.mpr ⟨lexemesOf_ne_nil
          (fun hnil => hne (wordsWithoutAnyPunctuation_eq_nil_iff.mp hnil)), honly⟩
      · exact List.forall_mem_nil _

/-! ## Its text -/

/-- Words that are not empty are a conjunction, without its brackets. -/
theorem combineWords_eq (h : ∀ word ∈ words, word ≠ []) (byPrefix : Bool) :
    combineWords words byPrefix =
      [' ', '&', ' '].intercalate ((lexemesOf byPrefix words).map Lexeme.print) := by
  have hfilter : words.filter (fun word => !word.isEmpty) = words := by
    refine List.filter_eq_self.mpr (fun word hword => ?_)
    rw [Bool.not_eq_true', List.isEmpty_eq_false_iff]
    exact h word hword
  rw [combineWords, hfilter, lexemesOf, List.map_map]
  rfl

theorem bracketed_combineWords (h : ∀ word ∈ words, word ≠ []) (byPrefix : Bool) :
    '(' :: combineWords words byPrefix ++ [')'] = printConjunction (lexemesOf byPrefix words) := by
  rw [combineWords_eq h, printConjunction]

theorem combineWords_ne_nil (h : ∀ word ∈ words, word ≠ []) (hne : words ≠ []) (byPrefix : Bool) :
    combineWords words byPrefix ≠ [] := by
  rw [combineWords_eq h]
  cases words with
  | nil => exact absurd rfl hne
  | cons word words =>
      have hfirst : Lexeme.print ⟨word, byPrefix⟩ ≠ [] := List.cons_ne_nil _ _
      cases words with
      | nil =>
          rw [lexemesOf, List.map_singleton, List.map_singleton, List.intercalate_singleton]
          exact hfirst
      | cons next words =>
          rw [lexemesOf, List.map_cons, List.map_cons, List.map_cons, List.map_cons,
            List.intercalate_cons_cons, List.append_assoc]
          exact List.append_ne_nil_of_left_ne_nil hfirst _

theorem combineQueries_cons {query : List Char} {queries : List (List Char)} (h : query ≠ []) :
    (query :: queries).filter (fun query => !query.isEmpty) =
      query :: queries.filter (fun query => !query.isEmpty) :=
  List.filter_cons_of_pos (by rw [Bool.not_eq_true', List.isEmpty_eq_false_iff]; exact h)

/-- The text is the query, written down. -/
theorem buildTsquery_eq_print (userInput : String) :
    (buildTsquery userInput).toList = print (searchQuery userInput) := by
  have hsupported : ∀ word ∈ wordsWithSupportedPunctuation userInput.toList, word ≠ [] :=
    fun _ hword => ne_nil_of_supportedWord hword
  have honly : ∀ word ∈ wordsWithoutAnyPunctuation userInput.toList, word ≠ [] :=
    fun _ hword => (mem_plainWord hword).1
  rw [buildTsquery, String.toList_ofList, searchQuery, combineQueries]
  by_cases hnil : wordsWithSupportedPunctuation userInput.toList = []
  · -- There are no other words either, so that all three parts are empty.
    have hnone := wordsWithoutAnyPunctuation_eq_nil_iff.mpr hnil
    simp only [hnil, hnone, if_true, ne_eq, not_true_eq_false, if_false]
    rfl
  · have hexact := combineWords_ne_nil hsupported hnil false
    have hprefix := combineWords_ne_nil hsupported hnil true
    simp only [if_neg hnil, combineQueries_cons hexact, combineQueries_cons hprefix]
    by_cases hother : wordsWithoutAnyPunctuation userInput.toList ≠
        wordsWithSupportedPunctuation userInput.toList
    · have hthird := combineWords_ne_nil honly
        (fun h => hnil (wordsWithoutAnyPunctuation_eq_nil_iff.mp h)) true
      simp only [if_pos hother, combineQueries_cons hthird, List.filter_nil, List.map_cons,
        List.map_nil, bracketed_combineWords hsupported, bracketed_combineWords honly]
      rfl
    · simp only [if_neg hother, List.map_cons, bracketed_combineWords hsupported]
      rfl

/-- Whatever is typed in becomes a text that is read back as the query that is
    meant, whose lexemes are plain, and which is empty when only space and
    punctuation was typed in. -/
theorem buildTsquery_wellFormed (userInput : String) :
    (buildTsquery userInput).toList = print (searchQuery userInput) ∧
      TextSearch.Plain (searchQuery userInput) ∧
      parse (buildTsquery userInput).toList = some (searchQuery userInput) ∧
      (buildTsquery userInput = "" ↔
        ∀ c ∈ userInput.toList, isSpace c = true ∨ c ∈ punctuation) := by
  have hplain := searchQuery_plain userInput
  have hprint := buildTsquery_eq_print userInput
  refine ⟨hprint, hplain, ?_, ?_⟩
  · rw [hprint]
    exact parse_print hplain
  · rw [← String.toList_eq_nil_iff, hprint, print_eq_nil_iff,
      ← wordsWithSupportedPunctuation_eq_nil_iff, searchQuery]
    split
    · exact iff_of_true rfl (by assumption)
    · rename_i hne
      exact iff_of_false (List.append_ne_nil_of_left_ne_nil (List.cons_ne_nil _ _) _) hne

example : buildTsquery "/file/path" = "('/file/path') | ('/file/path':*) | ('file':* & 'path':*)" := by
  decide

/-! ## What is found -/

/-- A document is found when all words that were typed in begin words of it, cut
    at all punctuation or only at what is not supported. -/
theorem matches_searchQuery_iff {document : Set (List Char)} :
    Matches document (searchQuery userInput) ↔
      wordsWithSupportedPunctuation userInput.toList ≠ [] ∧
        ((∀ word ∈ wordsWithSupportedPunctuation userInput.toList,
            ∃ found ∈ document, word <+: found) ∨
          ∀ word ∈ wordsWithoutAnyPunctuation userInput.toList,
            ∃ found ∈ document, word <+: found) := by
  rw [searchQuery]
  by_cases hnil : wordsWithSupportedPunctuation userInput.toList = []
  · simp only [if_pos hnil]
    exact iff_of_false not_matches_nil (fun h => h.1 hnil)
  · simp only [if_neg hnil, matches_append, matches_pair_iff]
    refine Iff.trans (or_congr_right' (fun hsupported => ?_)) (and_iff_right hnil).symm
    by_cases hother : wordsWithoutAnyPunctuation userInput.toList ≠
        wordsWithSupportedPunctuation userInput.toList
    · rw [if_pos hother, matches_prefixes_iff]
    · rw [if_neg hother, not_ne_iff.mp hother]
      exact iff_of_false not_matches_nil hsupported

end Words

end SyncMaster
