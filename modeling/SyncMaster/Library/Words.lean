import SyncMaster.Library.Python
import Mathlib.Data.List.DropRight

/-!
# Words of a Text

A text is cut where something separates, and the pieces that are not empty are
its words. How many separators stand between two words, or around them, makes
no difference to the words.

Joining the words with one separator each is a normal form: two texts have the
same one just when they have the same words.

## Main definitions

* `words`: The longest pieces in which nothing separates.

## Theorems

* `words_cons_of_separates`, `words_cons_cons_of_separates`, `words_cons_cons`: The
  words, element by element.
* `intercalate_injective`: Words can be read off the text that joins them.
* `rdropWhile_cons`: Stripping a text at its end, element by element.
-/

namespace SyncMaster

section Words

variable {α : Type} {separates : α → Bool} {x y : α} {l : List α}

/-- The longest pieces in which nothing separates. -/
def words (separates : α → Bool) (l : List α) : List (List α) :=
  (l.splitOnP separates).filter (fun word => !word.isEmpty)

theorem words_cons_of_separates (hx : separates x = true) :
    words separates (x :: l) = words separates l := by
  rw [words, List.splitOnP_cons_eq_if_modifyHead, if_pos hx]
  rfl

theorem words_singleton (hx : separates x = false) : words separates [x] = [[x]] := by
  rw [words, List.splitOnP_cons_eq_if_modifyHead, if_neg (Bool.eq_false_iff.mp hx),
    List.splitOnP_nil]
  rfl

/-- A word ends in front of what separates. -/
theorem words_cons_cons_of_separates (hx : separates x = false) (hy : separates y = true) :
    words separates (x :: y :: l) = [x] :: words separates (y :: l) := by
  rw [words, List.splitOnP_cons_eq_if_modifyHead, if_neg (Bool.eq_false_iff.mp hx),
    words_cons_of_separates hy, List.splitOnP_cons_eq_if_modifyHead, if_pos hy]
  rfl

/-- It goes on otherwise. -/
theorem words_cons_cons (hx : separates x = false) (hy : separates y = false) :
    ∃ word rest, words separates (y :: l) = word :: rest ∧
      words separates (x :: y :: l) = (x :: word) :: rest := by
  rcases List.exists_cons_of_ne_nil (List.splitOnP_ne_nil separates l) with ⟨piece, pieces, heq⟩
  refine ⟨y :: piece, pieces.filter (fun word => !word.isEmpty), ?_, ?_⟩
  · rw [words, List.splitOnP_cons_eq_if_modifyHead, if_neg (Bool.eq_false_iff.mp hy), heq]
    rfl
  · rw [words, List.splitOnP_cons_eq_if_modifyHead, if_neg (Bool.eq_false_iff.mp hx),
      List.splitOnP_cons_eq_if_modifyHead, if_neg (Bool.eq_false_iff.mp hy), heq]
    rfl

theorem words_ne_nil (hx : separates x = false) : words separates (x :: l) ≠ [] := by
  cases l with
  | nil =>
      rw [words_singleton hx]
      exact List.cons_ne_nil _ _
  | cons y l =>
      cases hy : separates y with
      | true =>
          rw [words_cons_cons_of_separates hx hy]
          exact List.cons_ne_nil _ _
      | false =>
          rcases words_cons_cons (l := l) hx hy with ⟨word, rest, _, heq⟩
          rw [heq]
          exact List.cons_ne_nil _ _

/-- A word is not empty, and nothing in it separates. -/
theorem mem_words {word : List α} (hword : word ∈ words separates l) :
    word ≠ [] ∧ ∀ x ∈ word, separates x = false := by
  rcases List.mem_filter.mp hword with ⟨hpiece, hne⟩
  refine ⟨fun hnil => ?_, fun x hx => (mem_of_mem_splitOnP hpiece hx).2⟩
  rw [hnil] at hne
  cases hne

/-- Words can be read off the text that joins them, if what joins them is in none
    of them. -/
theorem intercalate_injective [DecidableEq α] {ws ws' : List (List α)} {c : α}
    (hws : ∀ w ∈ ws, w ≠ [] ∧ c ∉ w) (hws' : ∀ w ∈ ws', w ≠ [] ∧ c ∉ w)
    (h : [c].intercalate ws = [c].intercalate ws') : ws = ws' := by
  -- No words and one empty word are joined alike, so empty pieces are left out.
  have hsplit : ∀ us : List (List α), (∀ w ∈ us, w ≠ [] ∧ c ∉ w) →
      (([c].intercalate us).splitOn c).filter (fun w => !w.isEmpty) = us := by
    intro us hus
    cases us with
    | nil => rfl
    | cons u us =>
        rw [List.splitOn_intercalate c (fun w hw => (hus w hw).2) (List.cons_ne_nil u us),
          List.filter_eq_self]
        intro w hw
        rw [Bool.not_eq_true', List.isEmpty_eq_false_iff]
        exact (hus w hw).1
  rw [← hsplit ws hws, h, hsplit ws' hws']

/-- What is stripped at the end goes on to the left as long as nothing is in the
    way. -/
theorem rdropWhile_cons {p : α → Bool} :
    (x :: l).rdropWhile p =
      if l.rdropWhile p = [] ∧ p x = true then [] else x :: l.rdropWhile p := by
  rw [List.rdropWhile, List.reverse_cons, List.dropWhile_append, List.rdropWhile]
  by_cases hnil : l.reverse.dropWhile p = []
  · rw [if_pos (List.isEmpty_iff.mpr hnil), hnil, List.dropWhile_cons]
    by_cases hx : p x = true
    · rw [if_pos hx, if_pos ⟨rfl, hx⟩]
      rfl
    · rw [if_neg hx, if_neg (fun h => hx h.2)]
      rfl
  · rw [if_neg (fun h => hnil (List.isEmpty_iff.mp h)), List.reverse_append,
      if_neg (fun h => hnil (List.reverse_eq_nil_iff.mp h.1))]
    rfl

end Words

end SyncMaster
