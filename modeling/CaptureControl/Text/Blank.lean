import CaptureControl.Text.CharRange

/-!
# Blank characters and trimming

Which characters count as blank space, and the removal of characters from the ends of a text.
Trimming is defined for any class of characters on lists, where its laws are proved, and then for
blanks on strings.

## Main statements

* `trimBy_eq_self`: a text with neither end in the class is left alone.
* `trimBy_append`: characters of the class around a text make no difference.
* `trimBy_trimBy`: a trimmed text has nothing to trim.
-/

namespace CaptureControl.Text

/-- The blank characters of Unicode: the separators of the Zs, Zl and Zp classes and the control
characters that are bidirectionally white space. -/
def blankRanges : List CharRange :=
  [⟨0x09, 0x0D⟩, ⟨0x1C, 0x20⟩, ⟨0x85, 0x85⟩, ⟨0xA0, 0xA0⟩, ⟨0x1680, 0x1680⟩, ⟨0x2000, 0x200A⟩,
    ⟨0x2028, 0x2029⟩, ⟨0x202F, 0x202F⟩, ⟨0x205F, 0x205F⟩, ⟨0x3000, 0x3000⟩]

/-- Whether a character is blank space. -/
def isBlank (c : Char) : Bool :=
  inRanges blankRanges c

/-! ### Trimming -/

/-- Removes the characters of a class from the end of a text. -/
def trimEndBy (p : Char → Bool) (cs : List Char) : List Char :=
  (cs.reverse.dropWhile p).reverse

/-- Removes the characters of a class from both ends of a text. -/
def trimBy (p : Char → Bool) (cs : List Char) : List Char :=
  trimEndBy p (cs.dropWhile p)

@[simp] theorem trimEndBy_nil (p : Char → Bool) : trimEndBy p [] = [] := rfl

@[simp] theorem trimBy_nil (p : Char → Bool) : trimBy p [] = [] := rfl

theorem trimEndBy_concat (p : Char → Bool) (cs : List Char) (c : Char) :
    trimEndBy p (cs ++ [c]) = if p c then trimEndBy p cs else cs ++ [c] := by
  by_cases h : p c <;> simp [trimEndBy, h]

/-- A text whose ends are outside the class is left alone. -/
theorem trimBy_eq_self {p : Char → Bool} {cs : List Char} (hd : ∀ c ∈ cs.head?, p c = false)
    (hl : ∀ c ∈ cs.getLast?, p c = false) : trimBy p cs = cs := by
  have h1 : cs.dropWhile p = cs := by
    cases cs with
    | nil => rfl
    | cons c cs => simp [hd c (by simp)]
  rw [trimBy, h1]
  rcases List.eq_nil_or_concat cs with rfl | ⟨l, c, rfl⟩
  · rfl
  · rw [List.concat_eq_append] at *
    rw [trimEndBy_concat, hl c (by simp)]
    simp

theorem dropWhile_eq_nil {p : Char → Bool} {cs : List Char} (h : ∀ c ∈ cs, p c = true) :
    cs.dropWhile p = [] := by
  have happend : (cs ++ []).dropWhile p = [].dropWhile p := List.dropWhile_append_of_pos h
  rwa [List.append_nil] at happend

/-- Characters of the class around a text make no difference. -/
theorem trimBy_append {p : Char → Bool} {before after : List Char}
    (hbefore : ∀ c ∈ before, p c = true) (hafter : ∀ c ∈ after, p c = true) (cs : List Char) :
    trimBy p (before ++ cs ++ after) = trimBy p cs := by
  rw [trimBy, List.append_assoc, List.dropWhile_append_of_pos hbefore, List.dropWhile_append]
  split
  next hempty => rw [dropWhile_eq_nil hafter, trimBy, List.isEmpty_iff.mp hempty]
  next =>
    rw [trimEndBy, List.reverse_append, List.dropWhile_append_of_pos (by simpa using hafter)]
    rfl

theorem trimEndBy_prefix (p : Char → Bool) (cs : List Char) : trimEndBy p cs <+: cs := by
  have hsuffix : (cs.reverse.dropWhile p).reverse <+: cs.reverse.reverse :=
    List.reverse_prefix.mpr (List.dropWhile_suffix p)
  rwa [List.reverse_reverse] at hsuffix

/-- A trimmed text has nothing to trim. -/
theorem trimBy_trimBy (p : Char → Bool) (cs : List Char) : trimBy p (trimBy p cs) = trimBy p cs := by
  have hfirst (ds : List Char) : ∀ c ∈ (ds.dropWhile p).head?, p c = false := by
    intro c hc
    have h := List.head?_dropWhile_not p ds
    rwa [hc] at h
  refine trimBy_eq_self ?_ ?_
  · intro c hc
    obtain ⟨rest, hrest⟩ := trimEndBy_prefix p (cs.dropWhile p)
    refine hfirst cs c ?_
    rw [← hrest, List.head?_append, ← trimBy, hc]
    rfl
  · intro c hc
    rw [trimBy, trimEndBy, List.getLast?_reverse] at hc
    exact hfirst _ c hc

/-- Blank space removed from both ends. -/
def trim (cs : List Char) : List Char :=
  trimBy isBlank cs

theorem trim_trim (cs : List Char) : trim (trim cs) = trim cs :=
  trimBy_trimBy isBlank cs

/-- Blank space removed from both ends of a string. -/
def strip (s : String) : String :=
  String.ofList (trim s.toList)

/-- Whether a text holds blank space only. -/
def isBlankText (s : String) : Bool :=
  s.toList.all isBlank

end CaptureControl.Text
