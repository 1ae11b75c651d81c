import CaptureControl.Proofs.Slugging
import Mathlib

/-!
# Slugs as a canonical form

Texts are compared by their slugs, so a slug must not depend on what the comparison passes over, and
must be as good as the text itself wherever it is compared again. Both hold because a slug tells the
words of its text and nothing else: it is written from the words, and the words are read back from
it. So texts have the same slug if and only if they have the same words, `slug_eq_slug_iff`, and
every slug is its own slug.

Lower case is what stands in the way of a shorter argument. It may lengthen a text, it may turn a
letter beyond ASCII into one of a slug, and how it writes a sigma depends on characters that are
separators here. The words of a text do not depend on the last of these.

## Main definitions

* `SlugWord` — small letters and digits, at least one
* `Slugged` — words with single underscores between them, or nothing
* `WellSpaced` — the same told by neighbouring characters
* `Respaced` — texts that differ in one run of separators

## Main results

* `slugged_slug`, `slug_eq_self_iff` — slugs are the texts of that form, and each is its own slug
* `slugged_iff_wellSpaced` — the two descriptions of the form agree
* `slug_eq_slug_iff` — which texts have the same slug
* `slug_canonical` — all of this, and what a slug does not depend on
-/

namespace CaptureControl

variable {c : Char} {cs ds w : List Char} {ws : List (List Char)}

/-! ### The form of slugs -/

/-- The small letters and the digits of ASCII. -/
def SlugChar (c : Char) : Prop :=
  ('a' ≤ c ∧ c ≤ 'z') ∨ ('0' ≤ c ∧ c ≤ '9')

/-- A run of small letters and digits, which is not empty. -/
structure SlugWord (w : List Char) : Prop where
  /-- It is not empty. -/
  ne_nil : w ≠ []
  /-- It holds small letters and digits only. -/
  chars : ∀ c ∈ w, SlugChar c

/-- A text of words with single underscores between them. Without words it is empty. -/
def Slugged (cs : List Char) : Prop :=
  ∃ ws : List (List Char), (∀ w ∈ ws, SlugWord w) ∧ cs = ['_'].intercalate ws

/-- A text in which underscores stand between other characters only, one at a time. -/
structure WellSpaced (cs : List Char) : Prop where
  /-- It holds small letters, digits and underscores only. -/
  chars : ∀ c ∈ cs, SlugChar c ∨ c = '_'
  /-- It does not start with an underscore. -/
  head : cs.head? ≠ some '_'
  /-- It does not end with an underscore. -/
  last : cs.getLast? ≠ some '_'
  /-- No underscore follows another. -/
  single : cs.IsChain fun c d => c = '_' → d ≠ '_'

instance : DecidablePred SlugChar := fun _ => inferInstanceAs (Decidable (_ ∨ _))

theorem isSlugChar_iff : isSlugChar c = true ↔ SlugChar c := by
  simp [isSlugChar, SlugChar, Char.isLower, Char.isDigit, Char.le_def]

theorem SlugChar.ne_underscore (h : SlugChar c) : c ≠ '_' := by
  rintro rfl
  exact absurd h (by decide)

theorem SlugChar.ascii (h : SlugChar c) : c.toNat < 0x80 := by
  rcases h with ⟨-, hle⟩ | ⟨-, hle⟩
  · exact Nat.lt_of_le_of_lt (UInt32.le_iff_toNat_le.mp hle) (by decide)
  · exact Nat.lt_of_le_of_lt (UInt32.le_iff_toNat_le.mp hle) (by decide)

theorem SlugChar.toLower_eq (h : SlugChar c) : c.toLower = c := by
  rcases Text.toLower_eq_self_or c with hself | ⟨n, hn, rfl⟩
  · exact hself
  · have hcapital : ∀ n < 26, ¬ SlugChar (Char.ofNat ('A'.toNat + n)) := by decide
    exact absurd h (hcapital n hn)

/-- A text of characters of slugs is its own lower-case form. -/
theorem lower_of_slugChars (h : ∀ c ∈ cs, SlugChar c ∨ c = '_') : Text.lower cs = cs := by
  refine Text.lower_eq_self (fun c hc => ?_) fun c hc => ?_
  · rcases h c hc with hslug | rfl
    · exact hslug.ascii
    · decide
  · rcases h c hc with hslug | rfl
    · exact hslug.toLower_eq
    · rfl

/-! ### Words and the text they make up -/

theorem slugChar_of_mem_runs (hw : w ∈ runs cs) : ∀ c ∈ w, SlugChar c := by
  induction cs generalizing w with
  | nil =>
    obtain rfl : w = [] := List.mem_singleton.mp hw
    simp
  | cons d cs ih =>
    obtain ⟨v, vs, hrest⟩ := exists_runs_eq cs
    cases hd : isSlugChar d with
    | false =>
      rw [runs_cons_of_not hd] at hw
      rcases List.mem_cons.mp hw with rfl | hw
      · simp
      · exact ih hw
    | true =>
      rw [runs_cons_of_slugChar hd, hrest, List.modifyHead_cons] at hw
      rcases List.mem_cons.mp hw with rfl | hw
      · exact List.forall_mem_cons.mpr ⟨isSlugChar_iff.mp hd, ih (by simp [hrest])⟩
      · exact ih (by simp [hrest, hw])

theorem slugWord_of_mem_words (hw : w ∈ words cs) : SlugWord w := by
  obtain ⟨hruns, hne⟩ := List.mem_filter.mp hw
  exact ⟨of_decide_eq_true hne, slugChar_of_mem_runs hruns⟩

theorem SlugWord.words_eq (hw : SlugWord w) : words w = [w] := by
  have hcut : ∀ c ∈ w, (!isSlugChar c) = false := fun c hc => by
    rw [isSlugChar_iff.mpr (hw.chars c hc), Bool.not_true]
  rw [words, runs, List.splitOnP_eq_singleton hcut, List.filter_singleton, decide_eq_true hw.ne_nil]
  rfl

/-- **Words are read back from the text that they make up.** -/
theorem words_intercalate (h : ∀ w ∈ ws, SlugWord w) : words (['_'].intercalate ws) = ws := by
  induction ws with
  | nil => rfl
  | cons w ws ih =>
    obtain ⟨hw, hws⟩ := List.forall_mem_cons.mp h
    cases ws with
    | nil => rw [List.intercalate_singleton, hw.words_eq]
    | cons v vs =>
      rw [List.intercalate_cons_cons, List.append_assoc, List.singleton_append,
        words_append_cons (by decide), hw.words_eq, ih hws, List.singleton_append]

/-- The slug of a text has the words of the text. -/
theorem words_slug (cs : List Char) : words (slug cs) = slugWords cs := by
  rw [slug_eq_intercalate]
  exact words_intercalate fun _ => slugWord_of_mem_words

/-- **Texts have the same slug if and only if they have the same words.** -/
theorem slug_eq_slug_iff : slug cs = slug ds ↔ slugWords cs = slugWords ds := by
  constructor
  · intro h
    rw [← words_slug cs, h, words_slug]
  · intro h
    rw [slug_eq_intercalate, h, ← slug_eq_intercalate]

/-! ### Slugs have the form, and texts of the form are slugs -/

theorem slugged_slug (cs : List Char) : Slugged (slug cs) :=
  ⟨slugWords cs, fun _ => slugWord_of_mem_words, slug_eq_intercalate cs⟩

theorem SlugWord.wellSpaced (hw : SlugWord w) : WellSpaced w where
  chars c hc := .inl (hw.chars c hc)
  head h := (hw.chars _ (List.mem_of_head? h)).ne_underscore rfl
  last h := (hw.chars _ (List.mem_of_getLast? h)).ne_underscore rfl
  single := List.Pairwise.isChain
    (List.pairwise_of_forall_mem_list fun _ _ d hd _ => (hw.chars d hd).ne_underscore)

/-- A word before an underscore and a text of the form. -/
theorem SlugWord.wellSpaced_append (hw : SlugWord w) (hcs : WellSpaced cs) (hne : cs ≠ []) :
    WellSpaced (w ++ '_' :: cs) where
  chars c hc := by
    rcases List.mem_append.mp hc with hc | hc
    · exact .inl (hw.chars c hc)
    · rcases List.mem_cons.mp hc with rfl | hc
      · exact .inr rfl
      · exact hcs.chars c hc
  head := by
    rw [List.head?_append_of_ne_nil _ hw.ne_nil]
    exact hw.wellSpaced.head
  last := by
    rw [List.getLast?_append_of_ne_nil _ (List.cons_ne_nil _ _), List.getLast?_cons_of_ne_nil hne]
    exact hcs.last
  single := by
    rw [List.isChain_append, List.isChain_cons]
    refine ⟨hw.wellSpaced.single, ⟨fun d hd _ => ?_, hcs.single⟩, fun d hd _ _ heq => ?_⟩
    · rintro rfl
      exact hcs.head hd
    · exact absurd (heq ▸ hd) hw.wellSpaced.last

theorem Slugged.wellSpaced (h : Slugged cs) : WellSpaced cs := by
  obtain ⟨ws, hws, rfl⟩ := h
  induction ws with
  | nil => exact ⟨by simp, by simp, by simp, by simp⟩
  | cons w ws ih =>
    obtain ⟨hw, hws⟩ := List.forall_mem_cons.mp hws
    cases ws with
    | nil =>
      rw [List.intercalate_singleton]
      exact hw.wellSpaced
    | cons v vs =>
      rw [List.intercalate_cons_cons, List.append_assoc, List.singleton_append]
      refine hw.wellSpaced_append (ih hws) ?_
      rw [intercalate_cons_eq]
      exact List.append_ne_nil_of_left_ne_nil (hws v List.mem_cons_self).ne_nil _

/-- What is written of a text whose underscores stand one at a time before other characters is the
text itself, after the underscore that was pending. -/
theorem slugFrom_eq_self {gap : Bool} (hchars : ∀ c ∈ cs, SlugChar c ∨ c = '_')
    (hlast : cs.getLast? ≠ some '_') (hsingle : cs.IsChain fun c d => c = '_' → d ≠ '_')
    (hgap : gap = true → cs ≠ [] ∧ cs.head? ≠ some '_') :
    slugFrom gap cs = if gap then '_' :: cs else cs := by
  induction cs generalizing gap with
  | nil =>
    obtain rfl : gap = false := by simpa using hgap
    rfl
  | cons c cs ih =>
    obtain ⟨hc, hcs⟩ := List.forall_mem_cons.mp hchars
    obtain ⟨hnext, htail⟩ := List.isChain_cons.mp hsingle
    have hend : cs.getLast? ≠ some '_' := fun h => hlast (by rw [List.getLast?_cons, h]; rfl)
    rcases hc with hslug | rfl
    · have hrest : slugFrom false cs = cs := ih hcs hend htail (by simp)
      rw [slugFrom, if_pos (isSlugChar_iff.mpr hslug), hrest]
    · -- Nothing is pending here, and the character that follows takes up this underscore.
      obtain rfl : gap = false := by simpa using hgap
      have hne : cs ≠ [] := by
        rintro rfl
        exact hlast rfl
      have hrest : slugFrom true cs = '_' :: cs :=
        ih hcs hend htail fun _ => ⟨hne, fun h => hnext _ h rfl rfl⟩
      rw [slugFrom, if_neg (by decide), hrest]
      rfl

/-- **A well-spaced text is its own slug.** -/
theorem WellSpaced.slug_eq (h : WellSpaced cs) : slug cs = cs := by
  have hstart : (cs.dropWhile fun c => !isSlugChar c) = cs := by
    cases cs with
    | nil => rfl
    | cons c cs =>
      have hc : SlugChar c := (h.chars c List.mem_cons_self).resolve_right fun heq =>
        h.head (congrArg some heq)
      exact List.dropWhile_cons_of_neg (by simp [isSlugChar_iff.mpr hc])
  rw [slug, lower_of_slugChars h.chars, slugOfLower, hstart,
    slugFrom_eq_self h.chars h.last h.single (by simp)]
  rfl

/-- Both descriptions tell the same form. -/
theorem slugged_iff_wellSpaced : Slugged cs ↔ WellSpaced cs :=
  ⟨Slugged.wellSpaced, fun h => h.slug_eq ▸ slugged_slug cs⟩

/-- Slugs are the texts of that form. -/
theorem slug_eq_self_iff : slug cs = cs ↔ Slugged cs :=
  ⟨fun h => h ▸ slugged_slug cs, fun h => h.wellSpaced.slug_eq⟩

theorem slug_slug (cs : List Char) : slug (slug cs) = slug cs :=
  (slugged_slug cs).wellSpaced.slug_eq

/-! ### What a slug does not depend on -/

/-- A run of separators, which is not empty. -/
structure Gap (cs : List Char) : Prop where
  /-- It is not empty. -/
  ne_nil : cs ≠ []
  /-- It holds separators only. -/
  separators : ∀ c ∈ cs, Separator c

/-- Texts with a gap each in the same place, and equal around it. A gap need not be all separators
that stand there. -/
inductive Respaced : List Char → List Char → Prop where
  | mk {gap gap' : List Char} (before after : List Char) : Gap gap → Gap gap' →
      Respaced (before ++ gap ++ after) (before ++ gap' ++ after)

theorem Text.SameLetters.slug_eq (h : Text.SameLetters cs ds) : slug cs = slug ds := by
  rw [slug, h.lower_eq, ← slug]

theorem slugWords_append_of_separators (h : ∀ c ∈ cs, Separator c) (ds : List Char) :
    slugWords (cs ++ ds) = slugWords ds := by
  induction cs with
  | nil => rfl
  | cons c cs ih =>
    obtain ⟨hc, hcs⟩ := List.forall_mem_cons.mp h
    calc slugWords (c :: (cs ++ ds)) = slugWords [] ++ slugWords (cs ++ ds) :=
          slugWords_append_cons hc [] (cs ++ ds)
      _ = slugWords ds := ih hcs

/-- **Texts on both sides of a gap have their words apart**, whatever the gap is. -/
theorem Gap.slugWords_append {gap : List Char} (h : Gap gap) (cs ds : List Char) :
    slugWords (cs ++ gap ++ ds) = slugWords cs ++ slugWords ds := by
  obtain ⟨c, gap, rfl⟩ := List.exists_cons_of_ne_nil h.ne_nil
  obtain ⟨hc, hgap⟩ := List.forall_mem_cons.mp h.separators
  rw [List.append_assoc, List.cons_append, slugWords_append_cons hc,
    slugWords_append_of_separators hgap]

theorem Respaced.slug_eq (h : Respaced cs ds) : slug cs = slug ds := by
  obtain ⟨before, after, hgap, hgap'⟩ := h
  rw [slug_eq_slug_iff, hgap.slugWords_append, hgap'.slugWords_append]

/-- **Slugs are a canonical form.** The slug of any text consists of words with single underscores
between them, or is empty; it is its own slug; and the texts of that form, where no underscore is at
an end or after another, are those that are their own slugs. Texts with the same words have the same
slug, and only these, so the case of ASCII letters does not matter to a slug, and neither does which
separators stand in a run of them. -/
theorem slug_canonical (cs : List Char) :
    Slugged (slug cs) ∧ slug (slug cs) = slug cs ∧ (slug cs = cs ↔ Slugged cs) ∧
      (Slugged cs ↔ WellSpaced cs) ∧ (∀ ds, slug cs = slug ds ↔ slugWords cs = slugWords ds) ∧
      (∀ ds, Text.SameLetters cs ds → slug cs = slug ds) ∧
      ∀ ds, Respaced cs ds → slug cs = slug ds :=
  ⟨slugged_slug cs, slug_slug cs, slug_eq_self_iff, slugged_iff_wellSpaced,
    fun _ => slug_eq_slug_iff, fun _ => Text.SameLetters.slug_eq, fun _ => Respaced.slug_eq⟩

/-- The sign after the sigma decides how the sigma is lowered, but not what the slug is. -/
theorem slug_canonical_sigma :
    (Text.SameLetters "ΑΣ-\u212Aİel".toList "ΑΣ-\u212AİEL".toList ∧
        slug "ΑΣ-\u212Aİel".toList = slug "ΑΣ-\u212AİEL".toList) ∧
      Respaced "ΑΣ-\u212Aİel".toList "ΑΣ.:\u212Aİel".toList ∧
        slug "ΑΣ-\u212Aİel".toList = slug "ΑΣ.:\u212Aİel".toList := by
  have hletters : Text.SameLetters "ΑΣ-\u212Aİel".toList "ΑΣ-\u212AİEL".toList := by decide +kernel
  have hgap : Gap ['-'] := ⟨by decide, List.forall_mem_singleton.mpr (by decide)⟩
  have hgap' : Gap ['.', ':'] :=
    ⟨by decide, List.forall_mem_cons.mpr ⟨by decide, List.forall_mem_singleton.mpr (by decide)⟩⟩
  have hspaced : Respaced "ΑΣ-\u212Aİel".toList "ΑΣ.:\u212Aİel".toList :=
    .mk "ΑΣ".toList "\u212Aİel".toList hgap hgap'
  obtain ⟨-, -, -, -, -, hcase, hspace⟩ := slug_canonical "ΑΣ-\u212Aİel".toList
  exact ⟨⟨hletters, hcase _ hletters⟩, hspaced, hspace _ hspaced⟩

/-- The sign for kelvins is a letter of slugs in lower case, and the dotted capital leaves a mark of
its own behind the letter. -/
example : slug "ΑΣ-\u212Aİel!".toList = "ki_el".toList := by decide +kernel

end CaptureControl
