import CaptureControl.ObjectName
import CaptureControl.Proofs.Lowering

/-!
# Slugs and their words

A text is compared with others by the runs of lower-case letters and digits that its lower-case form
holds, its *words*: the slug of a text is its words with underscores between them. A character that
separates words has the words of what stands before it and those of what stands after it on its two
sides, so the slug of a text with such a character starts with the slug of the one part and ends with
that of the other. Everything here follows from that one equation, `words_append_cons`.

## Main definitions

* `words`, `slugWords` — the words of a text in lower case, and of a text in any letter case
* `Separator` — the characters of ASCII that are neither letters nor digits

## Main results

* `slug_eq_intercalate` — the slug of a text is its words with underscores between them
* `slugWords_append_cons` — the words on both sides of a separator
* `slug_prefix_of_separator`, `slug_suffix_of_separator` — the ends of a slug
-/

namespace CaptureControl

/-! ### Words of a text in lower case -/

/-- A text cut at each character that is not one of a slug. -/
def runs (cs : List Char) : List (List Char) :=
  cs.splitOnP fun c => !isSlugChar c

/-- The runs of characters of slugs in a text. -/
def words (cs : List Char) : List (List Char) :=
  (runs cs).filter (· ≠ [])

section Words

variable {c : Char} {cs ds : List Char}

theorem exists_runs_eq (cs : List Char) : ∃ w ws, runs cs = w :: ws :=
  List.exists_cons_of_ne_nil (List.splitOnP_ne_nil _ cs)

theorem runs_cons_of_slugChar (h : isSlugChar c = true) (cs : List Char) :
    runs (c :: cs) = (runs cs).modifyHead (c :: ·) := by
  rw [runs, List.splitOnP_cons_eq_if_modifyHead, if_neg (by simp [h])]
  rfl

theorem runs_cons_of_not (h : isSlugChar c = false) (cs : List Char) :
    runs (c :: cs) = [] :: runs cs := by
  rw [runs, List.splitOnP_cons_eq_if_modifyHead, if_pos (by simp [h])]
  rfl

theorem words_cons_of_not (h : isSlugChar c = false) (cs : List Char) :
    words (c :: cs) = words cs := by
  rw [words, runs_cons_of_not h]
  rfl

/-- **Words are cut at a character that is not one of a slug.** -/
theorem words_append_cons (h : isSlugChar c = false) (cs ds : List Char) :
    words (cs ++ c :: ds) = words cs ++ words ds := by
  rw [words, runs, List.splitOnP_append_cons cs ds (by simp [h]), List.filter_append]
  rfl

theorem words_dropWhile (cs : List Char) :
    words (cs.dropWhile fun c => !isSlugChar c) = words cs := by
  induction cs with
  | nil => rfl
  | cons c cs ih =>
    cases h : isSlugChar c with
    | false => rw [List.dropWhile_cons_of_pos (by simp [h]), ih, words_cons_of_not h]
    | true => rw [List.dropWhile_cons_of_neg (by simp [h])]

/-- What is written of a text: the rest of the word at hand, after an underscore if characters of
other kinds are pending, and then an underscore and the word for each word after it. -/
theorem slugFrom_eq {gap : Bool} {w : List Char} {ws : List (List Char)} (h : runs cs = w :: ws) :
    slugFrom gap cs =
      (if gap ∧ w ≠ [] then '_' :: w else w) ++ (ws.filter (· ≠ [])).flatMap ('_' :: ·) := by
  induction cs generalizing gap w ws with
  | nil =>
    obtain ⟨rfl, rfl⟩ := List.cons.inj h
    simp [slugFrom]
  | cons c cs ih =>
    obtain ⟨v, vs, hrest⟩ := exists_runs_eq cs
    rw [slugFrom]
    cases hc : isSlugChar c with
    | false =>
      rw [runs_cons_of_not hc, hrest] at h
      obtain ⟨rfl, rfl⟩ := List.cons.inj h
      rw [if_neg (by simp), ih hrest]
      by_cases hv : v = [] <;> simp [hv]
    | true =>
      rw [runs_cons_of_slugChar hc, hrest, List.modifyHead_cons] at h
      obtain ⟨rfl, rfl⟩ := List.cons.inj h
      rw [if_pos rfl, ih hrest]
      cases gap <;> simp

theorem intercalate_cons_eq (sep : Char) (w : List Char) (ws : List (List Char)) :
    [sep].intercalate (w :: ws) = w ++ ws.flatMap (sep :: ·) := by
  induction ws generalizing w with
  | nil => simp
  | cons v vs ih =>
    rw [List.intercalate_cons_cons, ih, List.flatMap_cons, List.append_assoc, List.singleton_append,
      List.cons_append]

/-- **The slug of a text in lower case is its words with underscores between them.** -/
theorem slugOfLower_eq_intercalate (cs : List Char) :
    slugOfLower cs = ['_'].intercalate (words cs) := by
  rw [slugOfLower, ← words_dropWhile cs]
  cases h : cs.dropWhile fun c => !isSlugChar c with
  | nil => rfl
  | cons c ds =>
    have hc : isSlugChar c = true := by
      have hhead := List.head?_dropWhile_not (fun c => !isSlugChar c) cs
      rw [h] at hhead
      simpa using hhead
    obtain ⟨v, vs, hrest⟩ := exists_runs_eq ds
    have hruns : runs (c :: ds) = (c :: v) :: vs := by
      rw [runs_cons_of_slugChar hc, hrest, List.modifyHead_cons]
    have hwords : words (c :: ds) = (c :: v) :: vs.filter (· ≠ []) := by
      rw [words, hruns, List.filter_cons_of_pos (by simp)]
    rw [slugFrom_eq hruns, hwords, intercalate_cons_eq, if_neg (by simp)]

end Words

/-! ### Words of a text in any letter case -/

/-- The runs of characters of slugs in the lower-case form of a text. -/
def slugWords (cs : List Char) : List (List Char) :=
  words (Text.lower cs)

/-- The slug of a text is its words with underscores between them. -/
theorem slug_eq_intercalate (cs : List Char) : slug cs = ['_'].intercalate (slugWords cs) :=
  slugOfLower_eq_intercalate (Text.lower cs)

theorem runs_append_congr {cs ds : List Char} (us : List Char) (h : runs cs = runs ds) :
    runs (us ++ cs) = runs (us ++ ds) := by
  induction us with
  | nil => exact h
  | cons u us ih =>
    rw [List.cons_append, List.cons_append]
    cases hu : isSlugChar u with
    | false => rw [runs_cons_of_not hu, runs_cons_of_not hu, ih]
    | true => rw [runs_cons_of_slugChar hu, runs_cons_of_slugChar hu, ih]

theorem runs_lowerAfter (afterCased : Bool) (cs : List Char) :
    runs (Text.lowerAfter afterCased cs) = runs (cs.flatMap Text.lowerLetter) := by
  induction cs generalizing afterCased with
  | nil => rfl
  | cons c cs ih =>
    rw [Text.lowerAfter, List.flatMap_cons]
    by_cases hc : c = 'Σ'
    · -- Neither form of the small sigma belongs to a word.
      subst hc
      have hform : isSlugChar (if afterCased && !Text.startsCased cs then 'ς' else 'σ') = false := by
        split <;> decide
      have hlowered : Text.lowerLetter 'Σ' = ['σ'] := by decide +kernel
      rw [if_pos rfl, hlowered, List.singleton_append, List.singleton_append, runs_cons_of_not hform,
        runs_cons_of_not (by decide), ih]
    · rw [if_neg hc]
      exact runs_append_congr _ (ih _)

/-- The words of a text do not depend on how its sigmas are lowered. -/
theorem slugWords_eq (cs : List Char) : slugWords cs = words (cs.flatMap Text.lowerLetter) := by
  rw [slugWords, words, Text.lower, runs_lowerAfter]
  rfl

/-! ### Separators -/

/-- The characters of ASCII that are neither letters nor digits. -/
structure Separator (c : Char) : Prop where
  /-- It is of ASCII. -/
  ascii : c.toNat < 0x80
  /-- It is neither a letter nor a digit. -/
  mark : c.isAlphanum = false

instance (c : Char) : Decidable (Separator c) :=
  decidable_of_iff (c.toNat < 0x80 ∧ c.isAlphanum = false)
    ⟨fun h => ⟨h.1, h.2⟩, fun h => ⟨h.ascii, h.mark⟩⟩

section Separators

variable {c : Char}

theorem Separator.toLower_eq (h : Separator c) : c.toLower = c := by
  rcases Text.toLower_eq_self_or c with hself | ⟨n, hn, rfl⟩
  · exact hself
  · have hcapital : ∀ n < 26, (Char.ofNat ('A'.toNat + n)).isAlphanum = true := by decide
    exact absurd ((hcapital n hn).symm.trans h.mark) (by decide)

theorem Separator.not_slugChar (h : Separator c) : isSlugChar c = false := by
  have hmark : ((c.isUpper || c.isLower) || c.isDigit) = false := h.mark
  rw [Bool.or_eq_false_iff, Bool.or_eq_false_iff] at hmark
  rw [isSlugChar, hmark.1.2, hmark.2]
  rfl

/-- **Texts on both sides of a separator have their words apart.** -/
theorem slugWords_append_cons (h : Separator c) (cs ds : List Char) :
    slugWords (cs ++ c :: ds) = slugWords cs ++ slugWords ds := by
  rw [slugWords_eq, slugWords_eq, slugWords_eq, List.flatMap_append, List.flatMap_cons,
    Text.lowerLetter_of_ascii h.ascii, h.toLower_eq]
  exact words_append_cons h.not_slugChar _ _

theorem intercalate_prefix {sep : Char} {vs ws : List (List Char)} (h : vs <+: ws) :
    [sep].intercalate vs <+: [sep].intercalate ws := by
  obtain ⟨us, rfl⟩ := h
  cases vs with
  | nil => exact List.nil_prefix
  | cons v vs =>
    rw [List.cons_append, intercalate_cons_eq, intercalate_cons_eq, List.flatMap_append,
      ← List.append_assoc]
    exact List.prefix_append ..

theorem intercalate_suffix {sep : Char} {vs ws : List (List Char)} (h : vs <:+ ws) :
    [sep].intercalate vs <:+ [sep].intercalate ws := by
  obtain ⟨us, rfl⟩ := h
  cases vs with
  | nil => exact List.nil_suffix
  | cons v vs =>
    cases us with
    | nil => exact List.suffix_rfl
    | cons u us =>
      rw [List.cons_append, intercalate_cons_eq, intercalate_cons_eq, List.flatMap_append,
        List.flatMap_cons]
      exact ⟨u ++ us.flatMap (sep :: ·) ++ [sep], by simp⟩

/-- A slug starts with the slug of what stands before a separator. -/
theorem slug_prefix_of_separator (h : Separator c) (cs ds : List Char) :
    slug cs <+: slug (cs ++ c :: ds) := by
  rw [slug_eq_intercalate, slug_eq_intercalate, slugWords_append_cons h]
  exact intercalate_prefix (List.prefix_append ..)

/-- A slug ends with the slug of what stands after a separator. -/
theorem slug_suffix_of_separator (h : Separator c) (cs ds : List Char) :
    slug ds <:+ slug (cs ++ c :: ds) := by
  rw [slug_eq_intercalate, slug_eq_intercalate, slugWords_append_cons h]
  exact intercalate_suffix (List.suffix_append ..)

end Separators

end CaptureControl
