import CaptureControl.Statement
import CaptureControl.Proofs.Naming
import Mathlib.Data.List.Basic

/-!
# Names in statements

Source tables are written into some statements without quoting. That this cannot change what a
statement is rests on the names alone: no accepted name holds a character that stands around names
in a statement. Such a character therefore ends a name where it is first met with, and a statement
into which a table is written can be read back.

## Main definitions

* `Statement.table?` — the table that is written into a statement
* `Statement.Binds` — the parameters that are bound to a statement
* `Statement.Proper` — no names but accepted ones are written into a statement or bound to it

## Main results

* `Program.text_injective` — a text into which accepted names are written is that of one statement
-/

namespace CaptureControl

namespace Statement

/-- The source table that is written into a statement. -/
def table? : Statement → Option SourceTable
  | addTable t | removeTable t | dropTable t => some t
  | start | stop | status | reinit | setState | registrationState | changeTable | listTables => none

/-- The parameters that are bound to a statement. Names among them are accepted. -/
def Binds : Statement → Option (List Value) → Prop
  | setState, params => ∃ t : SourceTable, t.Accepted ∧ ∃ state : Activation,
    params = some [.text state.flag, .text t.schema, .text t.table]
  | registrationState, params | changeTable, params => ∃ t : SourceTable, t.Accepted ∧
    params = some [.text t.schema, .text t.table]
  | listTables, params => ∃ owner, Identifier.Accepted owner ∧ params = some [.text owner]
  | start, params | stop, params | status, params | reinit, params | addTable _, params
  | removeTable _, params | dropTable _, params => params = none

/-- A statement and its parameters hold no names but accepted ones. -/
structure Proper (statement : Statement) (params : Option (List Value)) : Prop where
  /-- The names that are written into it are accepted. -/
  table : ∀ t ∈ statement.table?, t.Accepted
  /-- Only accepted names are bound to it. -/
  params : statement.Binds params

/-- What is bound to a statement into which an accepted table is written is nothing. -/
theorem Proper.of_table? {statement : Statement} {t : SourceTable} (h : statement.table? = some t)
    (ht : t.Accepted) : statement.Proper none := by
  refine ⟨fun t' h' => ?_, ?_⟩
  · rw [h] at h'
    cases h'
    exact ht
  · cases statement with
    | addTable | removeTable | dropTable => rfl
    | _ => cases h

/-- The first letter of a statement. -/
def initial : Statement → Char
  | start | stop | status | reinit => 'V'
  | addTable _ | removeTable _ => 'C'
  | setState => 'U'
  | registrationState | changeTable | listTables => 'S'
  | dropTable _ => 'D'

end Statement

/-! ### Names between marks -/

namespace Identifier

variable {name name' : String}

/-- What comes before a mark and does not hold it comes to an end there. -/
theorem eq_nil_of_mark {mark : Char} {cs rest rest' : List Char} (h : mark ∉ cs)
    (heq : mark :: rest = cs ++ mark :: rest') : cs = [] := by
  cases cs with
  | nil => rfl
  | cons c cs =>
    obtain ⟨rfl, -⟩ := List.cons.inj heq
    exact absurd List.mem_cons_self h

/-- An accepted name ends where a mark is met with that no name holds. -/
theorem Accepted.append_mark_inj (h : Accepted name) (h' : Accepted name') {mark : Char}
    (hm : ¬ Continues mark ∧ mark ≠ '\n') {rest rest' : List Char}
    (heq : name.toList ++ mark :: rest = name'.toList ++ mark :: rest') :
    name = name' ∧ rest = rest' := by
  have hnot := h.notMem hm.1 hm.2
  have hnot' := h'.notMem hm.1 hm.2
  -- One of the two names is a beginning of the other, and what is left of the other is nothing.
  rcases List.append_eq_append_iff.mp heq with ⟨cs, hname, hrest⟩ | ⟨cs, hname, hrest⟩
  · rw [hname, List.mem_append, not_or] at hnot'
    obtain rfl := eq_nil_of_mark hnot'.2 hrest
    rw [List.append_nil] at hname
    exact ⟨String.toList_injective hname.symm, (List.cons.inj hrest).2⟩
  · rw [hname, List.mem_append, not_or] at hnot
    obtain rfl := eq_nil_of_mark hnot.2 hrest
    rw [List.append_nil] at hname
    exact ⟨String.toList_injective hname, (List.cons.inj hrest).2.symm⟩

/-- The marks that stand around names in statements are in no name. -/
theorem not_continues_mark :
    ∀ mark ∈ ['\'', '"', '`', '.', ',', ';', '(', ')', ' '], ¬ Continues mark ∧ mark ≠ '\n' := by
  intro mark hmark
  have hall : ['\'', '"', '`', '.', ',', ';', '(', ')', ' '].all
      (fun mark => decide (¬ Continues mark ∧ mark ≠ '\n')) = true := by decide
  exact of_decide_eq_true (List.all_eq_true.mp hall mark hmark)

end Identifier

namespace Program

open Identifier (not_continues_mark)

variable {p : Program} {t t' : SourceTable}

/-! ### Texts as characters -/

/-- What follows the name of a procedure in its call. -/
def argumentsOf (t : SourceTable) : List Char :=
  '(' :: '\'' :: (t.schema.toList ++ '\'' :: ',' :: ' ' :: '\'' :: (t.table.toList ++ ['\'', ')']))

theorem toList_procedure (p : Program) (name : String) (t : SourceTable) :
    (p.procedure name t).toList =
      "CALL ".toList ++ p.schema.toList ++ ['.'] ++ (name.toList ++ argumentsOf t) := by
  simp [procedure, argumentsOf]

theorem toList_dropTable (p : Program) (t : SourceTable) :
    (p.text (.dropTable t)).toList =
      "DROP TABLE IF EXISTS ".toList ++ (t.schema.toList ++ '.' :: t.table.toList) := by
  change ("DROP TABLE IF EXISTS " ++ t.schema ++ "." ++ t.table).toList = _
  simp

theorem head?_append {c : Char} {start rest : String} (h : start.toList.head? = some c) :
    (start ++ rest).toList.head? = some c := by
  rw [String.toList_append, List.head?_append, h]
  rfl

theorem head?_service (p : Program) (action : String) :
    (p.service action).toList.head? = some 'V' := by
  simp [service]

theorem head?_procedure (p : Program) (name : String) (t : SourceTable) :
    (p.procedure name t).toList.head? = some 'C' := by
  simp [procedure]

theorem head?_text (p : Program) (statement : Statement) :
    (p.text statement).toList.head? = some statement.initial := by
  cases statement with
  | start | stop | status | reinit => exact p.head?_service _
  | addTable t | removeTable t => exact p.head?_procedure _ t
  | setState => exact head?_append (head?_append (head?_append rfl))
  | registrationState | changeTable => exact head?_append (head?_append rfl)
  | listTables =>
    -- The statement is the same for all programs.
    have h : (text ⟨"", ""⟩ .listTables).toList.head? = some 'S' := by decide +kernel
    exact h
  | dropTable t => exact head?_append (head?_append (head?_append rfl))

/-! ### Reading statements back -/

theorem argumentsOf_inj (h : t.Accepted) (h' : t'.Accepted) (heq : argumentsOf t = argumentsOf t') :
    t = t' := by
  have hquote := not_continues_mark '\'' (by decide)
  have hinner := (List.cons.inj (List.cons.inj heq).2).2
  obtain ⟨hschema, hrest⟩ := h.schema.append_mark_inj h'.schema hquote hinner
  simp only [List.cons.injEq, true_and] at hrest
  obtain ⟨htable, -⟩ := h.table.append_mark_inj h'.table hquote hrest
  cases t
  cases t'
  exact congrArg₂ SourceTable.mk hschema htable

theorem procedure_inj {name : String} (h : t.Accepted) (h' : t'.Accepted)
    (heq : p.procedure name t = p.procedure name t') : t = t' := by
  have hchars := congrArg String.toList heq
  rw [toList_procedure, toList_procedure] at hchars
  exact argumentsOf_inj h h' (List.append_cancel_left (List.append_cancel_left hchars))

/-- The two procedures are told apart by the first letter of their names. -/
theorem procedure_add_ne_remove : p.procedure "ADDTABLE" t ≠ p.procedure "REMOVETABLE" t' := by
  intro heq
  have hchars := congrArg String.toList heq
  rw [toList_procedure, toList_procedure] at hchars
  have hnames := congrArg List.head? (List.append_cancel_left hchars)
  exact absurd hnames (by simp)

theorem dropTable_inj (h : t.Accepted) (h' : t'.Accepted)
    (heq : p.text (.dropTable t) = p.text (.dropTable t')) : t = t' := by
  have hchars := congrArg String.toList heq
  rw [toList_dropTable, toList_dropTable] at hchars
  have hdot := not_continues_mark '.' (by decide)
  obtain ⟨hschema, htable⟩ :=
    h.schema.append_mark_inj h'.schema hdot (List.append_cancel_left hchars)
  cases t
  cases t'
  exact congrArg₂ SourceTable.mk hschema (String.toList_injective htable)

/-- **A text into which accepted names are written is that of one statement.** Not even a statement
into which nothing is written has the same text. -/
theorem text_injective {a b : Statement} (hwritten : a.table?.isSome)
    (ha : ∀ t ∈ a.table?, t.Accepted) (hb : ∀ t ∈ b.table?, t.Accepted)
    (heq : p.text a = p.text b) : a = b := by
  have hinitial : a.initial = b.initial := by
    have hheads := congrArg (fun s => s.toList.head?) heq
    rw [head?_text, head?_text] at hheads
    exact Option.some.inj hheads
  cases a with
  | addTable t =>
    cases b with
    | addTable t' => rw [procedure_inj (ha t rfl) (hb t' rfl) heq]
    | removeTable t' => exact absurd heq procedure_add_ne_remove
    | _ => exact absurd hinitial (by simp [Statement.initial])
  | removeTable t =>
    cases b with
    | addTable t' => exact absurd heq.symm procedure_add_ne_remove
    | removeTable t' => rw [procedure_inj (ha t rfl) (hb t' rfl) heq]
    | _ => exact absurd hinitial (by simp [Statement.initial])
  | dropTable t =>
    cases b with
    | dropTable t' => rw [dropTable_inj (ha t rfl) (hb t' rfl) heq]
    | _ => exact absurd hinitial (by simp [Statement.initial])
  | _ => cases hwritten

end Program

end CaptureControl
