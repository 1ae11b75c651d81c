import CaptureControl.Proofs.Statements
import CaptureControl.Rehearsal.World

/-!
# Blocks within blocks

Between `enter` and `exit` a gateway holds one connection. Such blocks may be put into one another,
as when a caller that has begun a session calls something that begins one as well. Entering the
inner block is harmless, since a connection that is held is used on. Leaving it is not: the gateway
keeps no account of how many blocks have been entered, so the first `exit` closes the connection for
all of them, and what is left of the outer block runs as if outside.

## Implementation notes

Proper nesting is defined on lists of uses, since that is what a gateway is given. Nothing that is
proved of the uses up to the first `exit` needs it. It only tells whose `exit` that is: the block's
own if and only if there is no block within.

## Main definitions

* `Gateway.Nested` — uses in which blocks are properly nested

## Main results

* `Gateway.works_after` — until the first `exit` there is work on one connection
* `Gateway.works_iff_not_mem_exit` — and not beyond it
* `Gateway.Nested.held_after` — after whole blocks no connection is held
* `Gateway.block_holds_to_first_exit` — how long a block holds its connection
* `Gateway.nested_block_loses_connection` — a block whose calls run on two connections
-/

namespace CaptureControl

namespace Gateway

open Act

variable {σ τ : Type}

/-- Uses in which blocks are properly nested: there are calls, and blocks of such uses that begin
with `enter` and end with `exit`. -/
inductive Nested : List (Use τ) → Prop where
  | nil : Nested []
  | call {u : Use τ} {uses : List (Use τ)} : u ≠ .enter → u ≠ .exit → Nested uses →
      Nested (u :: uses)
  | block {body uses : List (Use τ)} : Nested body → Nested uses →
      Nested (.enter :: body ++ .exit :: uses)

section Uses

variable {g : Gateway} {w : World σ τ} {s : Session σ τ} {c : Nat} {uses uses' : List (Use τ)}

/-- Of properly nested uses, some end a session exactly if some begin one. -/
theorem Nested.enter_mem_iff (h : Nested uses) : .enter ∈ uses ↔ .exit ∈ uses := by
  induction h with
  | nil => exact iff_of_false List.not_mem_nil List.not_mem_nil
  | call henter hexit _ ih =>
    rw [List.mem_cons, List.mem_cons, ih]
    exact or_congr_left (iff_of_false henter.symm hexit.symm)
  | block => exact iff_of_true (by simp) (by simp)

theorem after_append (uses uses' : List (Use τ)) :
    g.after w (uses ++ uses') s = g.after w uses' (g.after w uses s) :=
  List.foldl_append

theorem after_cons (u : Use τ) (uses : List (Use τ)) :
    g.after w (u :: uses) s = g.after w uses (g.perform u w s).2 := rfl

/-! ### Up to the first exit -/

/-- **Until the first `exit` there is work on one connection**: the one that is held. -/
theorem works_after (hexit : .exit ∉ uses) (hc : s.held = some c) :
    s.Works c (g.after w uses s) := by
  induction uses generalizing s with
  | nil => exact .of_eq rfl rfl rfl
  | cons u uses ih =>
    obtain ⟨hu, hrest⟩ := not_or.mp (mt List.mem_cons.mpr hexit)
    have hone : s.Works c (g.perform u w s).2 := works_perform (Ne.symm hu) hc
    exact trans_of (Session.Works c) hone (ih hrest (hone.held.trans hc))

theorem exists_exit_eq (hc : s.held = some c) :
    (g.perform .exit w s).2.held = none ∧
      ∃ delivered, (g.perform .exit w s).2.trace = .asked (.close c) delivered :: s.trace := by
  obtain ⟨delivered, m, heq⟩ := perform_exit_of_held (g := g) (w := w) hc
  rw [heq]
  exact ⟨rfl, delivered, rfl⟩

/-- What was recorded stays in the record, whatever use is made of a gateway. -/
theorem adds_perform (u : Use τ) :
    Moves (Session.Adds (Event.Runs fun _ => True)) (g.perform u : Act σ τ Unit) := by
  cases u with
  | enter =>
    refine .bind .session fun s => ?_
    split
    · exact .bind permits_adds.openConnection fun c => .modify fun _ => .of_trace_eq rfl
    · exact .pure _
  | exit =>
    refine .bind .session fun s => ?_
    split
    · exact .pure _
    · exact .bind (.modify fun _ => .of_trace_eq rfl) fun _ => permits_adds.ask _ rfl
  | execute statement params => exact moves_execute trivial
  | query statement params read => exact .bind (moves_query trivial read) fun _ => .pure _

theorem adds_after (uses : List (Use τ)) :
    ∀ s : Session σ τ, s.Adds (Event.Runs fun _ => True) (g.after w uses s) := by
  induction uses with
  | nil => exact fun _ => .of_trace_eq rfl
  | cons u uses ih => exact fun s => (adds_perform u w s).trans (ih _)

/-- Work on a connection does not go on after its closing was recorded. -/
theorem not_works_of_closed {t s' : Session σ τ} {delivered : Bool} {P : Event τ → Prop}
    (hworks : s.Works c t) (hclosed : s'.trace = .asked (.close c) delivered :: t.trace)
    {s'' : Session σ τ} (hadds : s'.Adds P s'') : ¬ s.Works c s'' := by
  intro h
  obtain ⟨before, hbefore, -⟩ := hworks.adds
  obtain ⟨events, htrace, hon⟩ := h.adds
  obtain ⟨more, hmore, -⟩ := hadds
  rw [hmore, hclosed, hbefore, ← List.cons_append, ← List.append_assoc] at htrace
  have hevents := List.append_cancel_right htrace
  have hmem : .asked (.close c) delivered ∈ events := by
    rw [← hevents]
    exact List.mem_append_right _ List.mem_cons_self
  have hcloses := (hon _ hmem).closes_eq_false c
  simp [Event.closes] at hcloses

/-- **And it does not go on beyond it**: the uses are work on the connection that is held exactly if
none of them is an `exit`. -/
theorem works_iff_not_mem_exit (hc : s.held = some c) :
    s.Works c (g.after w uses s) ↔ .exit ∉ uses := by
  refine ⟨fun h hexit => ?_, fun hexit => works_after hexit hc⟩
  obtain ⟨before, rest, rfl, hbefore⟩ := List.eq_append_cons_of_mem hexit
  have hworks : s.Works c (g.after w before s) := works_after hbefore hc
  obtain ⟨-, delivered, hclosed⟩ := exists_exit_eq (g := g) (w := w) (hworks.held.trans hc)
  rw [after_append, after_cons] at h
  exact not_works_of_closed hworks hclosed (adds_after rest _) h

/-! ### Whole blocks -/

/-- **After whole blocks no connection is held**, if none was held before. -/
theorem Nested.held_after (h : Nested uses) (hs : s.held = none) :
    (g.after w uses s).held = none := by
  induction h generalizing s with
  | nil => exact hs
  | call henter hexit _ ih =>
    rw [after_cons]
    exact ih ((visits_perform henter hexit hs).held_eq.trans hs)
  | @block body uses _ _ _ ih =>
    rw [after_append, after_cons]
    refine ih ?_
    cases hh : (g.after w (.enter :: body) s).held with
    | none => rw [perform_exit_of_free hh, hh]
    | some c => exact (exists_exit_eq hh).1

/-- Entering outside a session opens the connection that is held from then on. -/
theorem exists_opened_of_enter (hs : s.held = none)
    (hc : (g.perform .enter w s).2.held = some c) :
    ∃ dsn, (g.perform .enter w s).2.trace = .asked (.connect dsn) true :: s.trace := by
  obtain ⟨r, s₁, ho, heq⟩ := enter_of_free (g := g) (w := w) hs
  rw [heq] at hc ⊢
  cases ho with
  | missing e hd => cases hs.symm.trans hc
  | refused e hd ht hn hh => cases (hh.trans hs).symm.trans hc
  | @opened dsn _ hd ht hn hh => exact ⟨dsn, ht⟩

/-- The first `exit` of some uses and one `exit` more is the last one of them exactly if it is none
of those uses. -/
theorem eq_nil_iff_of_first {before rest : List (Use τ)}
    (hsplit : uses ++ [.exit] = before ++ .exit :: rest) (hbefore : .exit ∉ before) :
    rest = [] ↔ .exit ∉ uses := by
  rcases List.eq_nil_or_concat rest with rfl | ⟨more, last, rfl⟩
  · rw [List.append_cancel_right hsplit]
    exact iff_of_true rfl hbefore
  · rw [List.concat_eq_append, ← List.cons_append, ← List.append_assoc] at hsplit
    have huses := (List.append_inj' hsplit rfl).1
    refine iff_of_false (by simp) (not_not_intro ?_)
    rw [huses]
    exact List.mem_append_right _ List.mem_cons_self

/-- **How long a block holds its connection.** Let a block begin outside a session, and let the
opening of its connection `c` not fail. Whatever else may fail in it, all that happens in the block
until the first `exit` happens on `c`: no other connection is opened, and `c` is not closed. The
first `exit` closes `c`, and then no connection is held, so that a call after it has one of its own.
If the uses in the block are properly nested, this is the `exit` of the block itself exactly if
there is no block within it; so a block holds its connection to its end exactly if it has no block
within. In any case no connection is held after it. -/
theorem block_holds_to_first_exit {body : List (Use τ)} (hbody : Nested body)
    (hs : s.held = none) (hc : (g.perform .enter w s).2.held = some c) :
    let begun := (g.perform .enter w s).2
    (∃ dsn, begun.trace = .asked (.connect dsn) true :: s.trace) ∧
      (∃ before rest ended, body ++ [.exit] = before ++ .exit :: rest ∧
        begun.Works c (g.after w before begun) ∧
        g.after w (before ++ [.exit]) begun = ended ∧ ended.held = none ∧
        (∃ delivered, ended.trace =
          .asked (.close c) delivered :: (g.after w before begun).trace) ∧
        (∀ u, u ≠ .enter → u ≠ .exit → g.Visits ended (g.perform u w ended).2) ∧
        (rest = [] ↔ .enter ∉ body)) ∧
      (begun.Works c (g.after w body begun) ↔ .enter ∉ body) ∧
      (g.after w (body ++ [.exit]) begun).held = none := by
  intro begun
  obtain ⟨before, rest, hsplit, hbefore⟩ :=
    List.eq_append_cons_of_mem (show .exit ∈ body ++ [.exit] by simp)
  have hworks : begun.Works c (g.after w before begun) := works_after hbefore hc
  obtain ⟨hheld, hclosed⟩ := exists_exit_eq (g := g) (w := w) (hworks.held.trans hc)
  have hended : g.after w (before ++ [.exit]) begun =
      (g.perform .exit w (g.after w before begun)).2 := after_append before [.exit]
  have hwhole : Nested (.enter :: body ++ .exit :: []) := .block hbody .nil
  rw [hbody.enter_mem_iff, works_iff_not_mem_exit hc]
  exact ⟨exists_opened_of_enter hs hc,
    ⟨before, rest, _, hsplit, hworks, hended, hheld, hclosed,
      fun u henter hexit => visits_perform henter hexit hheld,
      eq_nil_iff_of_first hsplit hbefore⟩, Iff.rfl, hwhole.held_after hs⟩

end Uses

/-! ### A block that loses its connection -/

/-- What is done in a block that begins another one, and runs a statement after that. -/
def borrowing : List (Use Rat) := [.enter, .exit, .execute "VALUES 1" none]

theorem nested_borrowing : Nested borrowing :=
  .block .nil (.call nofun nofun .nil)

/-- The session in which the block begins. -/
def lending : Session (Rehearsal.Script Rat) Rat := .start Rehearsal.Script.empty 0 ""

/-- The connection of the block is closed at the end of the inner one, and the statement runs on
another. -/
theorem block_holds_to_first_exit_borrowing :
    Nested borrowing ∧ lending.held = none ∧
      ((Gateway.mk .supplied).perform .enter Rehearsal.world lending).2.held = some 0 ∧
      ∃ before rest ended, borrowing ++ [.exit] = before ++ .exit :: rest ∧ rest ≠ [] ∧
        (Gateway.mk .supplied).after Rehearsal.world (before ++ [.exit])
          ((Gateway.mk .supplied).perform .enter Rehearsal.world lending).2 = ended ∧
        ended.held = none := by
  have hc : ((Gateway.mk .supplied).perform .enter Rehearsal.world lending).2.held = some 0 := by
    with_unfolding_all rfl
  obtain ⟨-, ⟨before, rest, ended, hsplit, -, hended, hheld, -, -, hrest⟩, -, -⟩ :=
    block_holds_to_first_exit nested_borrowing rfl hc
  exact ⟨nested_borrowing, rfl, hc, before, rest, ended, hsplit,
    fun hnil => hrest.mp hnil List.mem_cons_self, hended, hheld⟩

/-- **A block does not hold its connection to its end** if another block ends within it: here it
begins with connection `0` and runs its statement on connection `1`, and `0` was closed before. -/
theorem nested_block_loses_connection :
    let begun := ((Gateway.mk .supplied).perform .enter Rehearsal.world lending).2
    let s := (Gateway.mk .supplied).after Rehearsal.world borrowing begun
    Nested borrowing ∧ lending.held = none ∧ begun.held = some 0 ∧
      begun.Records [.asked (.close 0) true, .asked (.connect none) true, .asked (.cursor 1) true,
        .asked (.execute 1 "VALUES 1" none) true, .asked (.closeCursor 1) true,
        .asked (.commit 1) true, .asked (.close 1) true] s ∧
      ¬ begun.Works 0 s := by
  intro begun s
  have hc : begun.held = some 0 := by with_unfolding_all rfl
  refine ⟨nested_borrowing, rfl, hc, by with_unfolding_all rfl, fun hworks => ?_⟩
  exact (works_iff_not_mem_exit hc).mp hworks (by simp [borrowing])

end Gateway

end CaptureControl
