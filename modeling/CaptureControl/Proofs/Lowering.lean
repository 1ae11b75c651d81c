import CaptureControl.Text.Blank
import CaptureControl.Text.LetterCase

/-!
# Laws of letter case

Lower case is a matter of each letter alone, but for the capital sigma, whose form depends on what
stands around it. So a text without capital sigmas has its lower-case form wherever it stands. And
no rule tells the two forms of an ASCII letter apart, so texts that differ in the case of such
letters only have the same lower-case form.

## Main definitions

* `Text.SameLetters` — texts that differ at most in the case of ASCII letters

## Main results

* `Text.SameLetters.lower_eq` — such texts have the same lower-case form
* `Text.lower_infix` — a text without capital sigmas has its lower-case form wherever it stands
-/

namespace CaptureControl.Text

/-! ### Letters -/

theorem lowerLetter_ne_nil (c : Char) : lowerLetter c ≠ [] := by
  unfold lowerLetter
  split
  · simp
  · split
    · simp
    · split <;> simp

/-- No text vanishes in lower case. -/
theorem lower_ne_nil {cs : List Char} (h : cs ≠ []) : lower cs ≠ [] := by
  obtain ⟨c, cs, rfl⟩ := List.exists_cons_of_ne_nil h
  rw [lower, lowerAfter]
  by_cases hc : c = 'Σ' <;> simp [hc, lowerLetter_ne_nil]

/-! ### The two forms of an ASCII letter -/

theorem toLower_eq_self_or (c : Char) :
    c.toLower = c ∨ ∃ n < 26, c = Char.ofNat ('A'.toNat + n) := by
  by_cases h : 'A'.val ≤ c.val ∧ c.val ≤ 'Z'.val
  · have hfirst : 'A'.toNat ≤ c.toNat := UInt32.le_iff_toNat_le.mp h.1
    have hlast : c.toNat ≤ 'Z'.toNat := UInt32.le_iff_toNat_le.mp h.2
    refine .inr ⟨c.toNat - 'A'.toNat, ?_, ?_⟩
    · have hletters : 'Z'.toNat - 'A'.toNat < 26 := by decide
      omega
    · rw [Nat.add_sub_cancel' hfirst, Char.ofNat_toNat]
  · exact .inl (dif_neg h)

/-- What is the same for both forms of each ASCII letter is the same for a character and its
lower-case form. -/
theorem toLower_congr {α : Type} (f : Char → α)
    (h : ∀ n < 26, f (Char.ofNat ('A'.toNat + n)).toLower = f (Char.ofNat ('A'.toNat + n)))
    (c : Char) : f c.toLower = f c := by
  rcases toLower_eq_self_or c with hself | ⟨n, hn, rfl⟩
  · rw [hself]
  · exact h n hn

theorem isCased_toLower (c : Char) : isCased c.toLower = isCased c :=
  toLower_congr isCased (by decide +kernel) c

theorem isCaseIgnorable_toLower (c : Char) : isCaseIgnorable c.toLower = isCaseIgnorable c :=
  toLower_congr isCaseIgnorable (by decide +kernel) c

theorem lowerLetter_toLower (c : Char) : lowerLetter c.toLower = lowerLetter c :=
  toLower_congr lowerLetter (by decide +kernel) c

theorem isBlank_toLower (c : Char) : isBlank c.toLower = isBlank c :=
  toLower_congr isBlank (by decide +kernel) c

theorem toLower_eq_sigma_iff (c : Char) : c.toLower = 'Σ' ↔ c = 'Σ' :=
  decide_eq_decide.mp (toLower_congr (fun c => decide (c = 'Σ')) (by decide +kernel) c)

/-- A character of ASCII is lowered on its own. -/
theorem lowerLetter_of_ascii {c : Char} (h : c.toNat < 0x80) : lowerLetter c = [c.toLower] :=
  if_pos h

/-! ### Texts with the same letters -/

/-- Texts that differ at most in the case of ASCII letters. -/
def SameLetters (cs ds : List Char) : Prop :=
  cs.map Char.toLower = ds.map Char.toLower

instance : DecidableRel SameLetters := fun _ _ => inferInstanceAs (Decidable (_ = _))

theorem startsCased_map_toLower (cs : List Char) :
    startsCased (cs.map Char.toLower) = startsCased cs := by
  induction cs with
  | nil => rfl
  | cons c cs ih =>
    rw [List.map_cons, startsCased, startsCased, List.dropWhile_cons, List.dropWhile_cons,
      isCaseIgnorable_toLower]
    by_cases hc : isCaseIgnorable c
    · rw [if_pos hc, if_pos hc]
      exact ih
    · rw [if_neg hc, if_neg hc]
      exact isCased_toLower c

theorem lowerAfter_map_toLower (afterCased : Bool) (cs : List Char) :
    lowerAfter afterCased (cs.map Char.toLower) = lowerAfter afterCased cs := by
  induction cs generalizing afterCased with
  | nil => rfl
  | cons c cs ih =>
    simp only [List.map_cons, lowerAfter, toLower_eq_sigma_iff, startsCased_map_toLower,
      lowerLetter_toLower, isCaseIgnorable_toLower, isCased_toLower, ih]

/-- **Texts with the same letters have the same lower-case form.** -/
theorem SameLetters.lower_eq {cs ds : List Char} (h : SameLetters cs ds) : lower cs = lower ds :=
  calc lower cs = lower (cs.map Char.toLower) := (lowerAfter_map_toLower false cs).symm
    _ = lower (ds.map Char.toLower) := congrArg lower h
    _ = lower ds := lowerAfter_map_toLower false ds

/-- Texts with the same letters are both blank, or neither is. -/
theorem SameLetters.all_isBlank_eq {cs ds : List Char} (h : SameLetters cs ds) :
    cs.all isBlank = ds.all isBlank := by
  have hmap : ∀ cs : List Char, (cs.map Char.toLower).all isBlank = cs.all isBlank := by
    intro cs
    simp only [List.all_map, Function.comp_def, isBlank_toLower]
  rw [← hmap cs, ← hmap ds, h]

/-! ### Texts within texts -/

/-- What follows a text is lowered after the text. -/
theorem exists_lowerAfter_append (afterCased : Bool) (cs rest : List Char) :
    ∃ lowered later, lowerAfter afterCased (cs ++ rest) = lowered ++ lowerAfter later rest := by
  induction cs generalizing afterCased with
  | nil => exact ⟨[], afterCased, rfl⟩
  | cons c cs ih =>
    obtain ⟨lowered, later, h⟩ := ih (if isCaseIgnorable c then afterCased else isCased c)
    rw [List.cons_append, lowerAfter, h]
    exact ⟨_ ++ lowered, later, (List.append_assoc ..).symm⟩

/-- A text without capital sigmas is lowered letter by letter. -/
theorem exists_lowerAfter_append_eq {cs : List Char} (h : 'Σ' ∉ cs) (afterCased : Bool)
    (rest : List Char) :
    ∃ later, lowerAfter afterCased (cs ++ rest) =
      cs.flatMap lowerLetter ++ lowerAfter later rest := by
  induction cs generalizing afterCased with
  | nil => exact ⟨afterCased, rfl⟩
  | cons c cs ih =>
    rw [List.mem_cons, not_or] at h
    obtain ⟨later, hcs⟩ := ih h.2 (if isCaseIgnorable c then afterCased else isCased c)
    refine ⟨later, ?_⟩
    rw [List.cons_append, lowerAfter, hcs, if_neg (Ne.symm h.1), List.flatMap_cons,
      List.append_assoc]

theorem lower_eq_flatMap {cs : List Char} (h : 'Σ' ∉ cs) : lower cs = cs.flatMap lowerLetter := by
  obtain ⟨later, hcs⟩ := exists_lowerAfter_append_eq h false []
  simpa [lower, lowerAfter] using hcs

/-- A text of ASCII without capitals is its own lower-case form. -/
theorem lower_eq_self {cs : List Char} (hascii : ∀ c ∈ cs, c.toNat < 0x80)
    (hsmall : ∀ c ∈ cs, c.toLower = c) : lower cs = cs := by
  have hsigma : 'Σ' ∉ cs := fun hmem => absurd (hascii _ hmem) (by decide)
  have hletters : ∀ c ∈ cs, lowerLetter c = [c] := fun c hc => by
    rw [lowerLetter_of_ascii (hascii c hc), hsmall c hc]
  rw [lower_eq_flatMap hsigma, List.flatMap_def, List.map_congr_left hletters, ← List.flatMap_def,
    List.flatMap_singleton']

/-- **A text without capital sigmas has its lower-case form wherever it stands.** -/
theorem lower_infix {part whole : List Char} (h : part <:+: whole) (hsigma : 'Σ' ∉ part) :
    lower part <:+: lower whole := by
  obtain ⟨before, after, rfl⟩ := h
  rw [List.append_assoc, lower_eq_flatMap hsigma, lower]
  obtain ⟨lowered, later, hbefore⟩ := exists_lowerAfter_append false before (part ++ after)
  obtain ⟨last, hpart⟩ := exists_lowerAfter_append_eq hsigma later after
  rw [hbefore, hpart, ← List.append_assoc]
  exact List.infix_append ..

/-- A capital sigma shows in the lower-case form. -/
theorem sigma_mem_lowerAfter {cs : List Char} (h : 'Σ' ∈ cs) (afterCased : Bool) :
    'σ' ∈ lowerAfter afterCased cs ∨ 'ς' ∈ lowerAfter afterCased cs := by
  induction cs generalizing afterCased with
  | nil => cases h
  | cons c cs ih =>
    rw [lowerAfter]
    by_cases hc : c = 'Σ'
    · rw [if_pos hc]
      split
      · exact .inr (List.mem_append_left _ (List.mem_singleton_self _))
      · exact .inl (List.mem_append_left _ (List.mem_singleton_self _))
    · have hmem : 'Σ' ∈ cs := (List.mem_cons.mp h).resolve_left (Ne.symm hc)
      exact (ih hmem _).imp (List.mem_append_right _) (List.mem_append_right _)

/-- A text whose lower-case form is of ASCII has no capital sigma. -/
theorem sigma_notMem_of_ascii {cs : List Char} (h : ∀ c ∈ lower cs, c.toNat < 0x80) :
    'Σ' ∉ cs := by
  intro hmem
  rcases sigma_mem_lowerAfter hmem false with hs | hs
  · exact absurd (h 'σ' hs) (by decide)
  · exact absurd (h 'ς' hs) (by decide)

end CaptureControl.Text
