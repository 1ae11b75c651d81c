import CaptureControl.Proofs.ObjectNaming
import CaptureControl.Proofs.Scraping

/-!
# The sample that decides

An attribute of a metrics object is looked up among samples. A sample matches if its name, as a
slug, starts with the domain and ends with the attribute, and if it bears out every property of the
object: by its label of that name, and only if it has none by its name. The first sample that matches
decides, and nothing else does: not how samples are grouped, not samples that do not match, and not
the order in which the name of the object gives its properties.

## Main definitions

* `Sample.Matches` — what it is to match
* `Sample.Conflicts` — a label with another value than the property of that name
* `LookedUp` — what a look-up comes to

## Main results

* `Sample.shows_iff` — the check of a sample decides whether it matches
* `Sample.Conflicts.not_matches` — no name makes up for a label with another value
* `lookedUp_findAttribute`, `LookedUp.findAttribute_eq` — a look-up comes to that, and only to that
* `findAttribute_congr`, `findAttribute_of_reorders` — what a look-up does not depend on
* `attribute_of_first_match` — all of this together
-/

namespace CaptureControl

/-! ### Samples that match -/

namespace Sample

variable {s : Sample} {object : ObjectName} {attr : List Char}

/-- A sample that shows an attribute of a metrics object. -/
structure Matches (s : Sample) (object : ObjectName) (attr : List Char) : Prop where
  /-- Its name starts with the domain. -/
  starts : slug object.domain <+: slug s.name
  /-- Its name ends with the attribute. -/
  ends : slug attr <:+ slug s.name
  /-- Its label of the name of a property has the value of the property; or it has no such label,
  and the value occurs in its name. -/
  properties : ∀ p ∈ object.properties, s.label? p.1 = some p.2 ∨
    (s.label? p.1 = none ∧ slug p.2 <:+: slug s.name)

theorem bearsOut_iff (s : Sample) (key value : List Char) :
    s.bearsOut key value = true ↔
      s.label? key = some value ∨ (s.label? key = none ∧ slug value <:+: slug s.name) := by
  rw [bearsOut]
  cases s.label? key with
  | none => simp [Text.occursIn_iff]
  | some labelled => simp

/-- **The check of a sample decides whether it matches.** -/
theorem shows_iff : s.shows object attr = true ↔ s.Matches object attr := by
  rw [shows, Bool.and_eq_true, Bool.and_eq_true, List.isPrefixOf_iff_prefix, Text.endsIn,
    List.isSuffixOf_iff_suffix, List.all_eq_true]
  simp only [bearsOut_iff]
  exact ⟨fun ⟨⟨hd, ha⟩, hp⟩ => ⟨hd, ha, hp⟩, fun ⟨hd, ha, hp⟩ => ⟨⟨hd, ha⟩, hp⟩⟩

instance : Decidable (s.Matches object attr) :=
  decidable_of_iff _ shows_iff

/-- A sample with a label of the name of a property, and with another value. -/
def Conflicts (s : Sample) (object : ObjectName) : Prop :=
  ∃ p ∈ object.properties, ∃ value, s.label? p.1 = some value ∧ value ≠ p.2

/-- **A sample with another value for a property does not match**, whatever its name. -/
theorem Conflicts.not_matches (h : s.Conflicts object) : ¬ s.Matches object attr := by
  obtain ⟨p, hp, value, hlabel, hne⟩ := h
  intro hmatches
  rcases hmatches.properties p hp with hsame | ⟨hnone, -⟩
  · rw [hlabel] at hsame
    exact hne (Option.some.inj hsame)
  · rw [hlabel] at hnone
    cases hnone

/-- Objects of one domain with the same properties are matched by the same samples. -/
theorem matches_congr {object' : ObjectName} (hdomain : object.domain = object'.domain)
    (hproperties : ∀ p, p ∈ object.properties ↔ p ∈ object'.properties) :
    s.Matches object attr ↔ s.Matches object' attr := by
  constructor
  · intro h
    exact ⟨hdomain ▸ h.starts, h.ends, fun p hp => h.properties p ((hproperties p).mpr hp)⟩
  · intro h
    exact ⟨hdomain ▸ h.starts, h.ends, fun p hp => h.properties p ((hproperties p).mp hp)⟩

end Sample

/-! ### Looking up -/

variable {τ : Type} {families families' : List Family} {object object' attr : String}

/-- What a look-up comes to. -/
inductive LookedUp (families : List Family) (object attr : String) :
    Except (Fault τ) Bool → Prop where
  /-- The name of the object is malformed. -/
  | malformed : ObjectName.Malformed object.toList →
      LookedUp families object attr (.error (.objectName object))
  /-- The first sample that matches shows whether the attribute holds. -/
  | first {o : ObjectName} {before after : List Sample} {s : Sample} :
      ObjectName.parse? object.toList = some o → families.flatten = before ++ s :: after →
      (∀ t ∈ before, ¬ t.Matches o attr.toList) → s.Matches o attr.toList →
      LookedUp families object attr (.ok s.holds)
  /-- No sample matches. -/
  | absent {o : ObjectName} : ObjectName.parse? object.toList = some o →
      (∀ s ∈ families.flatten, ¬ s.Matches o attr.toList) →
      LookedUp families object attr (.error (.noAttribute object attr))

theorem findAttribute_of_malformed (h : ObjectName.Malformed object.toList) :
    (findAttribute families object attr : Except (Fault τ) Bool) = .error (.objectName object) := by
  have hparse : (ObjectName.parse object : Except (Fault τ) ObjectName) =
      .error (.objectName object) := by
    rw [ObjectName.parse, ObjectName.parse?_eq_none_iff.mpr h]
  rw [findAttribute, hparse]
  rfl

/-- A look-up searches for the first sample that matches. -/
theorem findAttribute_eq_elim {o : ObjectName} (ho : ObjectName.parse? object.toList = some o) :
    (findAttribute families object attr : Except (Fault τ) Bool) =
      (families.flatten.find? fun s => s.Matches o attr.toList).elim
        (.error (.noAttribute object attr)) fun s => .ok s.holds := by
  have hshows : (fun s : Sample => s.shows o attr.toList) =
      fun s => decide (s.Matches o attr.toList) := by
    funext s
    rw [Bool.eq_iff_iff, Sample.shows_iff, decide_eq_true_iff]
  rw [Scrape.findAttribute_of_parse ho, hshows]
  cases families.flatten.find? _ <;> rfl

/-- Every look-up comes to one of the three. -/
theorem lookedUp_findAttribute (families : List Family) (object attr : String) :
    LookedUp families object attr (findAttribute families object attr : Except (Fault τ) Bool) := by
  by_cases hbad : ObjectName.Malformed object.toList
  · rw [findAttribute_of_malformed hbad]
    exact .malformed hbad
  · have ho := ObjectName.parse?_eq_some hbad
    rw [findAttribute_eq_elim ho]
    cases hfind : families.flatten.find? _ with
    | some s =>
      obtain ⟨hs, before, after, heq, hbefore⟩ := List.find?_eq_some_iff_append.mp hfind
      exact .first ho heq (by simpa using hbefore) (of_decide_eq_true hs)
    | none =>
      exact .absent ho fun s hs => by simpa using List.find?_eq_none.mp hfind s hs

/-- What a look-up comes to is what it answers. -/
theorem LookedUp.findAttribute_eq {r : Except (Fault τ) Bool}
    (h : LookedUp families object attr r) : findAttribute families object attr = r := by
  cases h with
  | malformed hbad => exact findAttribute_of_malformed hbad
  | @first o before after s ho heq hbefore hs =>
    have hfind : families.flatten.find? (fun s => s.Matches o attr.toList) = some s := by
      rw [List.find?_eq_some_iff_append]
      exact ⟨decide_eq_true hs, before, after, heq, by simpa using hbefore⟩
    rw [findAttribute_eq_elim ho, hfind]
    rfl
  | @absent o ho hnone =>
    have hfind : families.flatten.find? (fun s => s.Matches o attr.toList) = none :=
      List.find?_eq_none.mpr fun s hs => by simpa using hnone s hs
    rw [findAttribute_eq_elim ho, hfind]
    rfl

/-! ### What does not count -/

/-- Samples that match, in the same order, make a look-up answer the same. -/
theorem findAttribute_congr
    (h : ∀ o, ObjectName.parse? object.toList = some o →
      families.flatten.filter (fun s => s.Matches o attr.toList) =
        families'.flatten.filter fun s => s.Matches o attr.toList) :
    (findAttribute families object attr : Except (Fault τ) Bool) =
      findAttribute families' object attr := by
  by_cases hbad : ObjectName.Malformed object.toList
  · rw [findAttribute_of_malformed hbad, findAttribute_of_malformed hbad]
  · have ho := ObjectName.parse?_eq_some hbad
    rw [findAttribute_eq_elim ho, findAttribute_eq_elim ho, ← List.head?_filter,
      ← List.head?_filter, h _ ho]

/-- The order in which the name of the object gives its properties does not count. -/
theorem findAttribute_of_reorders (h : ObjectName.Reorders object.toList object'.toList) :
    (findAttribute families object attr : Except (Fault τ) Bool).mapError Fault.kind =
      (findAttribute families object' attr : Except (Fault τ) Bool).mapError Fault.kind := by
  by_cases hbad : ObjectName.Malformed object.toList
  · rw [findAttribute_of_malformed hbad, findAttribute_of_malformed (h.malformed_iff.mp hbad)]
    rfl
  · obtain ⟨o, o', ho, ho', hdomain, hproperties⟩ := h.exists_parse? hbad
    rw [findAttribute_eq_elim ho, findAttribute_eq_elim ho']
    simp only [Sample.matches_congr hdomain hproperties]
    cases families.flatten.find? _ <;> rfl

/-- **The first sample that matches decides, and nothing else does.** A look-up fails for a
malformed name of the object, whatever the samples are; otherwise it tells what the first sample that
matches shows, and fails if there is none. A sample with another value for a property never matches,
and the answer depends on the samples that match, in their order, alone: not on how the samples are
grouped, not on any others. If the name of the object gives its properties in another order, the
answer is the same, but for the name in the wording of a fault. -/
theorem attribute_of_first_match (families : List Family) (object attr : String) :
    let answer : Except (Fault τ) Bool := findAttribute families object attr
    (∀ r, answer = r ↔ LookedUp families object attr r) ∧
      ((∃ e, answer = .error e ∧ e.isA .value = true) ↔ ObjectName.Malformed object.toList) ∧
      ((∃ e, answer = .error e ∧ e.isA .absent = true) ↔
        ∃ o, ObjectName.parse? object.toList = some o ∧
          ∀ s ∈ families.flatten, ¬ s.Matches o attr.toList) ∧
      (∀ (o : ObjectName) (s : Sample), s.Conflicts o → ¬ s.Matches o attr.toList) ∧
      (∀ families' : List Family,
        (∀ o, ObjectName.parse? object.toList = some o →
          families.flatten.filter (fun s => s.Matches o attr.toList) =
            families'.flatten.filter fun s => s.Matches o attr.toList) →
        answer = findAttribute families' object attr) ∧
      ∀ object' : String, ObjectName.Reorders object.toList object'.toList →
        answer.mapError Fault.kind =
          (findAttribute families object' attr : Except (Fault τ) Bool).mapError Fault.kind := by
  intro answer
  have hanswer : LookedUp families object attr answer := lookedUp_findAttribute families object attr
  refine ⟨fun r => ⟨fun heq => heq ▸ hanswer, LookedUp.findAttribute_eq⟩, ⟨?_, fun hbad => ?_⟩,
    ⟨?_, ?_⟩, fun _ _ => Sample.Conflicts.not_matches, fun _ => findAttribute_congr,
    fun _ => findAttribute_of_reorders⟩
  · rintro ⟨e, he, hkind⟩
    rw [he] at hanswer
    cases hanswer with
    | malformed hbad => exact hbad
    | absent => cases hkind
  · exact ⟨_, findAttribute_of_malformed hbad, rfl⟩
  · rintro ⟨e, he, hkind⟩
    rw [he] at hanswer
    cases hanswer with
    | malformed => cases hkind
    | absent ho hnone => exact ⟨_, ho, hnone⟩
  · rintro ⟨o, ho, hnone⟩
    exact ⟨_, (LookedUp.absent ho hnone).findAttribute_eq, rfl⟩

/-- The first sample has the value in its name, but another one in its label. -/
example :
    let name := "db2_testdb_snapshot_completed".toList
    let families : List Family :=
      [[⟨name, [("server".toList, "otherdb".toList)], true⟩], [⟨name, [], false⟩]]
    (findAttribute families "db2:server=testdb" "Completed" : Except (Fault Rat) Bool).toOption =
      some false := by
  decide +kernel

end CaptureControl
