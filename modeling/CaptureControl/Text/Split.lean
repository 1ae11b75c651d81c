/-!
# Cutting texts

Cutting a text at the first or at every occurrence of a separator or before a final line break, and
the occurrence of one text in another.
-/

namespace CaptureControl.Text

/-- The pieces of a text between the occurrences of a separator. There is one piece more than there
are separators. -/
def pieces (sep : Char) : List Char → List (List Char)
  | [] => [[]]
  | c :: cs =>
    if c = sep then [] :: pieces sep cs
    else match pieces sep cs with
      | [] => [[c]]
      | p :: ps => (c :: p) :: ps

theorem pieces_eq_splitOn (sep : Char) (cs : List Char) : pieces sep cs = cs.splitOn sep := by
  induction cs with
  | nil => rfl
  | cons c cs ih =>
    rw [pieces, ih, List.splitOn_cons_eq_if_modifyHead]
    by_cases h : c = sep
    · rw [if_pos h, if_pos (beq_iff_eq.mpr h)]
    · rw [if_neg h, if_neg (mt beq_iff_eq.mp h)]
      cases hps : cs.splitOn sep with
      | nil => exact absurd hps (List.splitOn_ne_nil sep cs)
      | cons p ps => rfl

theorem notMem_of_mem_pieces {sep : Char} {cs p : List Char} (h : p ∈ pieces sep cs) : sep ∉ p := by
  induction cs generalizing p with
  | nil => simp_all [pieces]
  | cons c cs ih =>
    rw [pieces] at h
    split at h
    next hc =>
      rcases List.mem_cons.mp h with rfl | h
      · exact List.not_mem_nil
      · exact ih h
    next hc =>
      split at h
      next => simpa [List.mem_singleton.mp h] using Ne.symm hc
      next q qs heq =>
        have hq := ih (p := q) (by simp [heq])
        rcases List.mem_cons.mp h with rfl | h
        · simpa [Ne.symm hc] using hq
        · exact ih (by simp [heq, h])

/-- The pieces of a text are the only texts without the separator that make it up. -/
theorem pieces_eq_iff {sep : Char} {cs : List Char} {ps : List (List Char)} :
    pieces sep cs = ps ↔ ps ≠ [] ∧ (∀ p ∈ ps, sep ∉ p) ∧ [sep].intercalate ps = cs := by
  constructor
  · rintro rfl
    refine ⟨?_, fun p => notMem_of_mem_pieces, ?_⟩ <;> simp [pieces_eq_splitOn]
  · rintro ⟨hne, hmem, rfl⟩
    rw [pieces_eq_splitOn, List.splitOn_intercalate sep hmem hne]

/-- A separator ends the pieces before it. -/
theorem pieces_append_cons (sep : Char) (cs rest : List Char) :
    pieces sep (cs ++ sep :: rest) = pieces sep cs ++ pieces sep rest := by
  simp only [pieces_eq_splitOn, List.splitOn_append_cons_self]

/-- A text without the separator is one piece. -/
theorem pieces_of_notMem {sep : Char} {cs : List Char} (h : sep ∉ cs) : pieces sep cs = [cs] :=
  pieces_eq_iff.mpr ⟨List.cons_ne_nil _ _, by simpa using h, by simp⟩

/-- What stands before the first separator, and what stands after it if there is one. -/
def cut (sep : Char) (cs : List Char) : List Char × Option (List Char) :=
  (cs.takeWhile (· != sep), (cs.dropWhile (· != sep)).tail?)

theorem cut_cons (sep c : Char) (cs : List Char) :
    cut sep (c :: cs) =
      if c = sep then ([], some cs) else (c :: (cut sep cs).1, (cut sep cs).2) := by
  by_cases h : c = sep <;> simp [cut, h]

/-- A text without the separator is not cut. -/
theorem cut_of_notMem {sep : Char} {cs : List Char} (h : sep ∉ cs) : cut sep cs = (cs, none) := by
  induction cs with
  | nil => rfl
  | cons c cs ih =>
    rw [List.mem_cons, not_or] at h
    rw [cut_cons, if_neg (Ne.symm h.1), ih h.2]

/-- A text is cut at the first separator. -/
theorem cut_append_cons {sep : Char} {cs : List Char} (h : sep ∉ cs) (rest : List Char) :
    cut sep (cs ++ sep :: rest) = (cs, some rest) := by
  induction cs with
  | nil => rw [List.nil_append, cut_cons, if_pos rfl]
  | cons c cs ih =>
    rw [List.mem_cons, not_or] at h
    rw [List.cons_append, cut_cons, if_neg (Ne.symm h.1), ih h.2]

/-- What stands before the first separator, and what stands after it, is determined. -/
theorem append_cons_inj {sep : Char} {cs ds rest rest' : List Char} (hcs : sep ∉ cs)
    (hds : sep ∉ ds) (h : cs ++ sep :: rest = ds ++ sep :: rest') : cs = ds ∧ rest = rest' := by
  have hcut := (cut_append_cons hcs rest).symm.trans (h ▸ cut_append_cons hds rest')
  simpa using hcut

/-- What follows the first separator is a part of the text. -/
theorem subset_of_cut {sep : Char} {cs rest : List Char} (h : rest ∈ (cut sep cs).2) :
    rest ⊆ cs := by
  cases hdrop : cs.dropWhile (· != sep) with
  | nil => simp [cut, hdrop] at h
  | cons c ds =>
    obtain rfl : ds = rest := by simpa [cut, hdrop] using h
    intro d hd
    exact (List.dropWhile_sublist _).subset (hdrop ▸ List.mem_cons_of_mem c hd)

/-- A text without the line break that it may end in. -/
def withoutFinalBreak (cs : List Char) : List Char :=
  if cs.getLast? = some '\n' then cs.dropLast else cs

/-- Whether a text occurs in another. -/
def occursIn (part : List Char) : List Char → Bool
  | [] => part.isEmpty
  | c :: cs => part.isPrefixOf (c :: cs) || occursIn part cs

theorem occursIn_iff (part whole : List Char) : occursIn part whole = true ↔ part <:+: whole := by
  induction whole with
  | nil => simp [occursIn]
  | cons c cs ih =>
    rw [occursIn, Bool.or_eq_true, ih, List.isPrefixOf_iff_prefix, List.infix_cons_iff]

/-- Whether a text ends in another. -/
def endsIn (part whole : List Char) : Bool :=
  part.isSuffixOf whole

end CaptureControl.Text
