import CaptureControl.Identifier
import Mathlib

/-!
# Names that are accepted

The names of schemas and tables stand unquoted in statements, so what a name may hold decides what a
statement can be. A name is a word of a small grammar. The check accepts these words, if they are not
too long, and it also accepts a word that one line break follows; nothing else gets through, of
whatever type it is.

## Main definitions

* `Identifier.Word` — the words of the grammar of names
* `Identifier.Accepted` — a word of it, perhaps with a line break behind it, that is not too long
* `SourceTable.Accepted` — both names of a table are accepted

## Main results

* `Identifier.isIdentifier_iff` — the check accepts what is `Accepted`
* `Identifier.checkIdentifier_eq_ok_iff`, `Identifier.checkIdentifier_eq_error` — the outcome of the
  check for any value
* `SourceTable.ofValues_eq_ok_iff`, `SourceTable.ofValues_eq_error` — the outcome for two values
-/

namespace CaptureControl

namespace Identifier

/-! ### The grammar -/

/-- The characters that a name may start with. -/
def Starts (c : Char) : Prop :=
  ('A' ≤ c ∧ c ≤ 'Z') ∨ ('a' ≤ c ∧ c ≤ 'z') ∨ c = '_' ∨ c = '@' ∨ c = '#' ∨ c = '$'

/-- The characters that a name may go on with. -/
def Continues (c : Char) : Prop :=
  Starts c ∨ ('0' ≤ c ∧ c ≤ '9')

/-- A word of the grammar of names: one character that may start a name, and any number of
characters that may go on with it. -/
inductive Word : List Char → Prop where
  | mk {c : Char} {cs : List Char} : Starts c → (∀ d ∈ cs, Continues d) → Word (c :: cs)

/-- What is accepted as a name: a word of the grammar, which a line break may follow, of at most
`maxIdentifierLength` characters in all. -/
structure Accepted (name : String) : Prop where
  /-- It is not too long. -/
  length : name.toList.length ≤ maxIdentifierLength
  /-- It is a word, or a word and a line break. -/
  word : Word name.toList ∨ ∃ cs, Word cs ∧ name.toList = cs ++ ['\n']

instance : DecidablePred Starts := fun _ => inferInstanceAs (Decidable (_ ∨ _))

instance : DecidablePred Continues := fun _ => inferInstanceAs (Decidable (_ ∨ _))

theorem Word.continues {cs : List Char} (h : Word cs) : ∀ c ∈ cs, Continues c := by
  obtain ⟨hc, hcs⟩ := h
  intro d hd
  rcases List.mem_cons.mp hd with rfl | hd
  · exact Or.inl hc
  · exact hcs d hd

theorem Word.length_pos {cs : List Char} (h : Word cs) : 0 < cs.length := by
  cases h
  exact Nat.succ_pos _

/-- A word holds no character of which no name is made. -/
theorem Word.notMem {cs : List Char} (h : Word cs) {c : Char} (hc : ¬ Continues c) : c ∉ cs :=
  fun hmem => hc (h.continues c hmem)

/-! ### The check -/

theorem isIdentifierStart_iff {c : Char} : isIdentifierStart c = true ↔ Starts c := by
  have hupper : c.isUpper = true ↔ 'A' ≤ c ∧ c ≤ 'Z' := by
    simp [Char.isUpper, Char.le_def]
  have hlower : c.isLower = true ↔ 'a' ≤ c ∧ c ≤ 'z' := by
    simp [Char.isLower, Char.le_def]
  simp only [isIdentifierStart, Char.isAlpha, Bool.or_eq_true, beq_iff_eq, hupper, hlower, Starts,
    or_assoc]

theorem isIdentifierRest_iff {c : Char} : isIdentifierRest c = true ↔ Continues c := by
  have hdigit : c.isDigit = true ↔ '0' ≤ c ∧ c ≤ '9' := by
    simp [Char.isDigit, Char.le_def]
  rw [isIdentifierRest, Bool.or_eq_true, isIdentifierStart_iff, hdigit, Continues]

theorem isIdentifierWord_iff {cs : List Char} : isIdentifierWord cs = true ↔ Word cs := by
  constructor
  · intro h
    cases cs with
    | nil => cases h
    | cons c cs =>
      rw [isIdentifierWord, Bool.and_eq_true, List.all_eq_true] at h
      exact .mk (isIdentifierStart_iff.mp h.1) fun d hd => isIdentifierRest_iff.mp (h.2 d hd)
  · rintro ⟨hc, hcs⟩
    rw [isIdentifierWord, Bool.and_eq_true, List.all_eq_true]
    exact ⟨isIdentifierStart_iff.mpr hc, fun d hd => isIdentifierRest_iff.mpr (hcs d hd)⟩

/-- A text without its final line break is a word if it is one, or if it is one but for a line break
behind it. -/
theorem word_withoutFinalBreak_iff {cs : List Char} :
    Word (Text.withoutFinalBreak cs) ↔ Word cs ∨ ∃ ds, Word ds ∧ cs = ds ++ ['\n'] := by
  have hbreak : ¬ Continues '\n' := by decide
  by_cases hlast : cs.getLast? = some '\n'
  · obtain ⟨ds, rfl⟩ := List.getLast?_eq_some_iff.mp hlast
    have hwhole : ¬ Word (ds ++ ['\n']) := fun h => h.notMem hbreak (by simp)
    have hcut : Text.withoutFinalBreak (ds ++ ['\n']) = ds := by
      rw [Text.withoutFinalBreak, if_pos hlast, List.dropLast_concat]
    rw [hcut]
    constructor
    · exact fun h => Or.inr ⟨ds, h, rfl⟩
    · rintro (h | ⟨ds', h, heq⟩)
      · exact absurd h hwhole
      · rwa [List.append_cancel_right heq]
  · have hcut : Text.withoutFinalBreak cs = cs := if_neg hlast
    rw [hcut]
    refine ⟨Or.inl, ?_⟩
    rintro (h | ⟨ds, -, rfl⟩)
    · exact h
    · exact absurd (by simp) hlast

/-- **The check accepts the words of the grammar, with or without a line break behind them.** -/
theorem isIdentifier_iff {name : String} : isIdentifier name = true ↔ Accepted name := by
  rw [isIdentifier, Bool.and_eq_true, decide_eq_true_iff, isIdentifierWord_iff,
    word_withoutFinalBreak_iff]
  exact ⟨fun h => ⟨h.1, h.2⟩, fun h => ⟨h.length, h.word⟩⟩

/-- No name is empty. -/
theorem Accepted.length_pos {name : String} (h : Accepted name) : 1 ≤ name.toList.length := by
  rcases h.word with hw | ⟨cs, -, heq⟩
  · exact hw.length_pos
  · rw [heq, List.length_append]
    exact Nat.le_add_left _ _

/-- No character gets through the check but those of names and the line break. -/
theorem Accepted.notMem {name : String} (h : Accepted name) {c : Char} (hc : ¬ Continues c)
    (hbreak : c ≠ '\n') : c ∉ name.toList := by
  rcases h.word with hw | ⟨cs, hw, heq⟩
  · exact hw.notMem hc
  · rw [heq, List.mem_append, List.mem_singleton, not_or]
    exact ⟨hw.notMem hc, hbreak⟩

/-! ### The outcome of the check -/

section Outcome

variable {τ : Type} {role : String} {value : Value}

theorem checkIdentifier_eq_ok_iff {name : String} :
    (checkIdentifier role value : Except (Fault τ) String) = .ok name ↔
      value = .text name ∧ Accepted name := by
  constructor
  · intro h
    unfold checkIdentifier at h
    split at h
    · split at h
      next haccepted =>
        cases h
        exact ⟨rfl, isIdentifier_iff.mp haccepted⟩
      · cases h
    · cases h
  · rintro ⟨rfl, h⟩
    rw [checkIdentifier, if_pos (isIdentifier_iff.mpr h)]

/-- What is not accepted is a fault that tells the role and the value. -/
theorem checkIdentifier_eq_error
    (h : ∀ name, (checkIdentifier role value : Except (Fault τ) String) ≠ .ok name) :
    (checkIdentifier role value : Except (Fault τ) String) = .error (.identifier role value) := by
  revert h
  unfold checkIdentifier
  split
  · split
    · exact fun h => absurd rfl (h _)
    · exact fun _ => rfl
  · exact fun _ => rfl

end Outcome

end Identifier

/-! ### Source tables -/

namespace SourceTable

open Identifier (checkIdentifier_eq_ok_iff checkIdentifier_eq_error)

variable {τ : Type} {schema table : Value}

/-- Both names of a table are accepted. -/
structure Accepted (t : SourceTable) : Prop where
  /-- The name of the schema is. -/
  schema : Identifier.Accepted t.schema
  /-- The name of the table is. -/
  table : Identifier.Accepted t.table

theorem Accepted.of_mem {t : SourceTable} (h : t.Accepted) :
    ∀ name ∈ [t.schema, t.table], Identifier.Accepted name := by
  rw [List.forall_mem_cons, List.forall_mem_singleton]
  exact ⟨h.schema, h.table⟩

theorem ofValues_eq_ok_iff {t : SourceTable} :
    (ofValues schema table : Except (Fault τ) SourceTable) = .ok t ↔
      schema = .text t.schema ∧ table = .text t.table ∧ t.Accepted := by
  constructor
  · intro h
    unfold ofValues at h
    cases hs : (checkIdentifier "schema" schema : Except (Fault τ) String) with
    | error e => rw [hs] at h; cases h
    | ok owner =>
      rw [hs] at h
      cases ht : (checkIdentifier "table" table : Except (Fault τ) String) with
      | error e => rw [ht] at h; cases h
      | ok name =>
        rw [ht] at h
        cases h
        obtain ⟨hschema, howner⟩ := checkIdentifier_eq_ok_iff.mp hs
        obtain ⟨htable, hname⟩ := checkIdentifier_eq_ok_iff.mp ht
        exact ⟨hschema, htable, howner, hname⟩
  · rintro ⟨rfl, rfl, h⟩
    have hs : (checkIdentifier "schema" (.text t.schema) : Except (Fault τ) String) = .ok t.schema :=
      checkIdentifier_eq_ok_iff.mpr ⟨rfl, h.schema⟩
    have ht : (checkIdentifier "table" (.text t.table) : Except (Fault τ) String) = .ok t.table :=
      checkIdentifier_eq_ok_iff.mpr ⟨rfl, h.table⟩
    rw [ofValues, hs, ht]
    rfl

/-- Of two names that are not accepted, the schema's is told. -/
theorem ofValues_eq_error :
    ((∀ name, (checkIdentifier "schema" schema : Except (Fault τ) String) ≠ .ok name) →
      (ofValues schema table : Except (Fault τ) SourceTable) =
        .error (.identifier "schema" schema)) ∧
    ((∃ name, (checkIdentifier "schema" schema : Except (Fault τ) String) = .ok name) →
      (∀ name, (checkIdentifier "table" table : Except (Fault τ) String) ≠ .ok name) →
        (ofValues schema table : Except (Fault τ) SourceTable) =
          .error (.identifier "table" table)) := by
  constructor
  · intro hs
    rw [ofValues, checkIdentifier_eq_error hs]
    rfl
  · rintro ⟨owner, hs⟩ ht
    rw [ofValues, hs, checkIdentifier_eq_error ht]
    rfl

end SourceTable

end CaptureControl
