import CaptureControl.Status
import CaptureControl.Proofs.Lowering
import Mathlib.Data.List.Forall2

/-!
# Laws of the status

The state that a status text tells is found by a few searches one after another, of which the first
that succeeds decides. So the marks of a running program matter in one way only: whether the text
mentions one of them. If it does the program runs, and if it does not the state is the one that the
text tells by itself. That one equation, `classify_some`, gives what order, repetition and addition of
marks do to the state, and letter case never matters since every search is for a lower-case form in
another.

## Main definitions

* `Status.Mentions` — a text mentions a phrase, in whatever letter case
* `Status.unmarked` — the state that a text tells by itself

## Main results

* `Status.classify_some` — how the marks of a running program matter
* `Status.classify_congr`, `Status.classify_of_subset`, `Status.classify_of_sameLetters` — what they
  do not depend on, and what more of them do
* `Status.classify_eq_stopped_of_infix` — the phrases of a stopped program win over those of one that
  is starting
* `Status.classify_laws` — all of this together
-/

namespace CaptureControl.Status

variable {text text' : String} {markers markers' : List String}

/-! ### Mentions -/

/-- A text mentions a phrase, in whatever letter case. -/
def Mentions (phrase text : String) : Prop :=
  Text.lower phrase.toList <:+: Text.lower text.toList

instance : DecidableRel Mentions := fun phrase text =>
  inferInstanceAs (Decidable (Text.lower phrase.toList <:+: Text.lower text.toList))

theorem mentions_iff {lowered : List Char} {phrases : List (List Char)} :
    mentions lowered phrases = true ↔ ∃ phrase ∈ phrases, phrase <:+: lowered := by
  simp only [mentions, List.any_eq_true, Text.occursIn_iff]

theorem mentions_markers_iff :
    mentions (Text.lower text.toList) (markers.map fun m => Text.lower m.toList) = true ↔
      ∃ m ∈ markers, Mentions m text := by
  simp only [mentions_iff, List.mem_map, exists_exists_and_eq_and]
  rfl

/-- The phrases of a stopped program are in lower case. -/
theorem lower_stoppedHints : ∀ hint ∈ stoppedHints, Text.lower hint.toList = hint.toList := by
  decide +kernel

theorem ascii_stoppedHints : ∀ hint ∈ stoppedHints, ∀ c ∈ hint.toList, c.toNat < 0x80 := by
  have hall : (stoppedHints.all fun hint => hint.toList.all fun c => c.toNat < 0x80) = true := by
    decide +kernel
  simpa only [List.all_eq_true, decide_eq_true_eq] using hall

theorem mentions_stoppedHints_iff :
    mentions (Text.lower text.toList) (stoppedHints.map String.toList) = true ↔
      ∃ hint ∈ stoppedHints, Mentions hint text := by
  simp only [mentions_iff, List.mem_map, exists_exists_and_eq_and]
  refine exists_congr fun hint => and_congr_right fun hmem => ?_
  rw [Mentions, lower_stoppedHints hint hmem]

/-- A text mentions a phrase of ASCII if a part of it is the phrase in another letter case. -/
theorem mentions_of_infix {phrase : String} {part : List Char} (hpart : part <:+: text.toList)
    (hlower : Text.lower part = Text.lower phrase.toList)
    (hascii : ∀ c ∈ Text.lower phrase.toList, c.toNat < 0x80) : Mentions phrase text := by
  rw [← hlower] at hascii
  rw [Mentions, ← hlower]
  exact Text.lower_infix hpart (Text.sigma_notMem_of_ascii hascii)

/-! ### How the state depends on the marks -/

/-- The state that a text in lower case tells by itself. -/
def unmarked (lowered : List Char) : Status :=
  if mentions lowered (stoppedHints.map String.toList) then stopped
  else if mentions lowered (startingHints.map String.toList) then starting
  else unknown

theorem unmarked_ne_running (lowered : List Char) : unmarked lowered ≠ running := by
  unfold unmarked
  split_ifs <;> simp

theorem unmarked_eq_stopped_iff :
    unmarked (Text.lower text.toList) = stopped ↔ ∃ hint ∈ stoppedHints, Mentions hint text := by
  rw [← mentions_stoppedHints_iff, unmarked]
  by_cases h : mentions (Text.lower text.toList) (stoppedHints.map String.toList) = true
  · simp [h]
  · rw [if_neg h]
    split_ifs <;> simp [h]

/-- **The marks of a running program matter in one way only**, by whether the text mentions one. -/
theorem classify_some (text : String) (markers : List String) :
    classify (some text) markers =
      if Text.isBlankText text = true then starting
      else if ∃ m ∈ markers, Mentions m text then running
      else unmarked (Text.lower text.toList) := by
  simp only [← mentions_markers_iff]
  rfl

theorem classify_of_blank (h : Text.isBlankText text = true) (markers : List String) :
    classify (some text) markers = starting := by
  rw [classify_some, if_pos h]

theorem classify_of_not_blank (h : Text.isBlankText text = false) (markers : List String) :
    classify (some text) markers =
      if ∃ m ∈ markers, Mentions m text then running else unmarked (Text.lower text.toList) := by
  rw [classify_some, if_neg (by simp [h])]

theorem classify_eq_running_iff (h : Text.isBlankText text = false) :
    classify (some text) markers = running ↔ ∃ m ∈ markers, Mentions m text := by
  rw [classify_of_not_blank h]
  split_ifs with hmarked
  · simp [hmarked]
  · simp [hmarked, unmarked_ne_running]

theorem classify_eq_stopped_iff (h : Text.isBlankText text = false)
    (hmarkers : ∀ m ∈ markers, ¬ Mentions m text) :
    classify (some text) markers = stopped ↔ ∃ hint ∈ stoppedHints, Mentions hint text := by
  have hnone : ¬ ∃ m ∈ markers, Mentions m text := fun ⟨m, hm, hmentions⟩ => hmarkers m hm hmentions
  rw [classify_of_not_blank h, if_neg hnone, unmarked_eq_stopped_iff]

/-- Only the set of marks in lower case matters. -/
theorem classify_congr (text : Option String)
    (h : ∀ lowered, lowered ∈ markers.map (fun m => Text.lower m.toList) ↔
      lowered ∈ markers'.map fun m => Text.lower m.toList) :
    classify text markers' = classify text markers := by
  cases text with
  | none => rfl
  | some text =>
    have hsame : (∃ m ∈ markers', Mentions m text) ↔ ∃ m ∈ markers, Mentions m text := by
      rw [← mentions_markers_iff, ← mentions_markers_iff, mentions_iff, mentions_iff]
      exact exists_congr fun lowered => and_congr_left' (h lowered).symm
    simp only [classify_some, hsame]

/-- More marks leave the state as it is or make it that of a running program, and leave it as it is
if it is that already. -/
theorem classify_of_subset (text : Option String) (h : markers ⊆ markers') :
    classify text markers' = classify text markers ∨
      (classify text markers' = running ∧ classify text markers ≠ running) := by
  cases text with
  | none => exact .inl rfl
  | some text =>
    cases hblank : Text.isBlankText text with
    | true => exact .inl (by rw [classify_of_blank hblank, classify_of_blank hblank])
    | false =>
      by_cases hold : classify (some text) markers = running
      · obtain ⟨m, hm, hmentions⟩ := (classify_eq_running_iff hblank).mp hold
        have hnew : classify (some text) markers' = running :=
          (classify_eq_running_iff hblank).mpr ⟨m, h hm, hmentions⟩
        exact .inl (hnew.trans hold.symm)
      · by_cases hnew : classify (some text) markers' = running
        · exact .inr ⟨hnew, hold⟩
        · rw [classify_eq_running_iff hblank] at hold hnew
          rw [classify_of_not_blank hblank, classify_of_not_blank hblank, if_neg hold, if_neg hnew]
          exact .inl rfl

/-! ### Letter case -/

/-- Strings that differ at most in the case of ASCII letters. -/
def SameLetters (s t : String) : Prop :=
  Text.SameLetters s.toList t.toList

/-- **Letter case does not matter**, neither in the text nor in the marks. -/
theorem classify_of_sameLetters {text text' : Option String}
    (htext : Option.Rel SameLetters text text') (hmarkers : List.Forall₂ SameLetters markers markers') :
    classify text' markers' = classify text markers := by
  have hlowered : (markers.map fun m => Text.lower m.toList) =
      markers'.map fun m => Text.lower m.toList := by
    induction hmarkers with
    | nil => rfl
    | cons hm _ ih => rw [List.map_cons, List.map_cons, hm.lower_eq, ih]
  have htexts : classify text' markers' = classify text markers' := by
    cases htext with
    | none => rfl
    | @some s t hst =>
      have hblank : Text.isBlankText t = Text.isBlankText s := hst.all_isBlank_eq.symm
      have hmentions : ∀ m, Mentions m t ↔ Mentions m s := by
        intro m
        rw [Mentions, Mentions, hst.lower_eq]
      simp only [classify_some, hblank, hmentions, hst.lower_eq]
  exact htexts.trans (classify_congr text fun lowered => by rw [hlowered])

/-! ### Stopped programs -/

/-- **A phrase of a stopped program wins over those of one that is starting**, in whatever letter
case it stands in the text. -/
theorem classify_eq_stopped_of_infix (h : Text.isBlankText text = false)
    (hmarkers : ∀ m ∈ markers, ¬ Mentions m text) {hint : String} (hhint : hint ∈ stoppedHints)
    {part : List Char} (hpart : part <:+: text.toList) (hlower : Text.lower part = hint.toList) :
    classify (some text) markers = stopped := by
  have hascii := ascii_stoppedHints hint hhint
  have hsame := lower_stoppedHints hint hhint
  have hmentions : Mentions hint text := by
    refine mentions_of_infix hpart (hlower.trans hsame.symm) ?_
    rw [hsame]
    exact hascii
  exact (classify_eq_stopped_iff h hmarkers).mpr ⟨hint, hhint, hmentions⟩

/-- **Laws of the status.** Whatever the text and the marks are: only the set of marks in lower case
matters; a text that is blank or missing tells of a starting program; a text that is not blank tells
of a running program exactly if it mentions a mark, more marks change the state to that one only, and
never back, and if it mentions none but holds a phrase of a stopped program, in whatever letter case,
it tells of that one; and the case of ASCII letters never matters. -/
theorem classify_laws (text : Option String) (markers : List String) :
    (∀ markers', (∀ lowered, lowered ∈ markers.map (fun m => Text.lower m.toList) ↔
        lowered ∈ markers'.map fun m => Text.lower m.toList) →
      classify text markers' = classify text markers) ∧
    ((∀ t ∈ text, Text.isBlankText t = true) → classify text markers = starting) ∧
    (∀ markers', markers ⊆ markers' →
      (classify text markers' = classify text markers ∨ classify text markers' = running) ∧
        (classify text markers = running → classify text markers' = running)) ∧
    (∀ text' markers', Option.Rel SameLetters text text' →
      List.Forall₂ SameLetters markers markers' →
      classify text' markers' = classify text markers) ∧
    ∀ t, text = some t → Text.isBlankText t = false →
      (classify text markers = running ↔ ∃ m ∈ markers, Mentions m t) ∧
        ((∀ m ∈ markers, ¬ Mentions m t) → ∀ hint ∈ stoppedHints, ∀ part, part <:+: t.toList →
          Text.lower part = hint.toList → classify text markers = stopped) := by
  refine ⟨fun _ => classify_congr text, ?_, ?_, fun _ _ => classify_of_sameLetters, ?_⟩
  · intro hblank
    cases text with
    | none => rfl
    | some t => exact classify_of_blank (hblank t rfl) markers
  · intro markers' hsubset
    rcases classify_of_subset text hsubset with hsame | ⟨hnew, hold⟩
    · exact ⟨.inl hsame, fun hrunning => hsame.trans hrunning⟩
    · exact ⟨.inr hnew, fun hrunning => absurd hrunning hold⟩
  · rintro t rfl hblank
    exact ⟨classify_eq_running_iff hblank, fun hmarkers hint hhint part hpart hlower =>
      classify_eq_stopped_of_infix hblank hmarkers hhint hpart hlower⟩

/-- The text holds the phrase of a starting program too. -/
example : classify (some "ASNCAP was NOT Started.") ["is doing work"] = stopped := by
  decide +kernel

end CaptureControl.Status
