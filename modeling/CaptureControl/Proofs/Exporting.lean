import CaptureControl.Proofs.Matching
import CaptureControl.Proofs.Slugging

/-!
# Attributes as exporters name them

Exporters name a sample by the domain of an object, something of their own, and the attribute, with
marks of punctuation between them, and give it the properties of the object as labels. Whatever the
three parts are, the slug of such a name starts with that of the domain and ends with that of the
attribute, so the sample matches, and a look-up among samples with such a one finds the attribute.

## Main definitions

* `Sample.Exports` — samples that exporters write for an attribute of an object

## Main results

* `Sample.Exports.matches` — such a sample matches
* `findAttribute_of_exports` — the attribute is found wherever there is such a sample
-/

namespace CaptureControl

namespace Sample

/-- A sample that exporters write for an attribute of an object. -/
structure Exports (s : Sample) (object : ObjectName) (attr : List Char) : Prop where
  /-- Its name is the domain, some text and the attribute, with a separator before and one after the
  text. -/
  name : ∃ (middle : List Char) (sep sep' : Char), Separator sep ∧ Separator sep' ∧
    s.name = object.domain ++ sep :: (middle ++ sep' :: attr)
  /-- Its labels include all properties. -/
  labels : ∀ p ∈ object.properties, s.label? p.1 = some p.2

/-- **A sample that exporters write for an attribute matches.** -/
theorem Exports.matches {s : Sample} {object : ObjectName} {attr : List Char}
    (h : s.Exports object attr) : s.Matches object attr := by
  obtain ⟨middle, sep, sep', hsep, hsep', hname⟩ := h.name
  have hstarts : slug object.domain <+: slug s.name := by
    rw [hname]
    exact slug_prefix_of_separator hsep ..
  have hends : slug attr <:+ slug s.name := by
    rw [hname]
    exact (slug_suffix_of_separator hsep' middle attr).trans (slug_suffix_of_separator hsep ..)
  exact ⟨hstarts, hends, fun p hp => .inl (h.labels p hp)⟩

end Sample

variable {τ : Type} {families : List Family} {object attr : String} {o : ObjectName} {s : Sample}

/-- **An attribute is found wherever there is a sample that exporters write for it.** The first
sample that matches tells whether it holds. -/
theorem findAttribute_of_exports (ho : ObjectName.parse object = (.ok o : Except (Fault τ) _))
    (hmem : s ∈ families.flatten) (hs : s.Exports o attr.toList) :
    ∃ t ∈ families.flatten, t.Matches o attr.toList ∧
      findAttribute families object attr = (.ok t.holds : Except (Fault τ) Bool) := by
  have hparse := ObjectName.parse_eq_ok_iff.mp ho
  have hlooked := lookedUp_findAttribute (τ := τ) families object attr
  generalize findAttribute families object attr = r at hlooked ⊢
  cases hlooked with
  | malformed hbad =>
    rw [ObjectName.parse?_eq_none_iff.mpr hbad] at hparse
    cases hparse
  | @first o' before after t ho' heq hbefore ht =>
    obtain rfl : o' = o := Option.some.inj (ho'.symm.trans hparse)
    exact ⟨t, by simp [heq], ht, rfl⟩
  | @absent o' ho' hnone =>
    obtain rfl : o' = o := Option.some.inj (ho'.symm.trans hparse)
    exact absurd hs.matches (hnone s hmem)

/-- An object with letters beyond ASCII in its domain, and with a value that is empty. -/
def accentedObject : ObjectName where
  domain := "Débezium.DB2 Σ".toList
  properties := [("type".toList, "Snapshot".toList), ("zone".toList, [])]

/-- A sample for an attribute of that object, in a family after one that conflicts with it. -/
def accentedFamilies : List Family :=
  [[⟨"db2_snapshot_completed".toList, [("type".toList, "streaming".toList)], false⟩],
    [⟨"Débezium.DB2 Σ--KİEL?/Snapshot..Completed!".toList,
      [("zone".toList, []), ("host".toList, "a".toList), ("type".toList, "Snapshot".toList)], true⟩]]

theorem findAttribute_of_exports_accented :
    ∃ s ∈ accentedFamilies.flatten,
      s.Exports accentedObject "Snapshot..Completed!".toList ∧
      ObjectName.parse " Débezium.DB2 Σ : type = Snapshot,,zone=" =
        (.ok accentedObject : Except (Fault Rat) _) ∧
      ∃ t ∈ accentedFamilies.flatten,
        t.Matches accentedObject "Snapshot..Completed!".toList ∧
        findAttribute accentedFamilies " Débezium.DB2 Σ : type = Snapshot,,zone="
          "Snapshot..Completed!" = (.ok t.holds : Except (Fault Rat) Bool) := by
  have hparse : ObjectName.parse " Débezium.DB2 Σ : type = Snapshot,,zone=" =
      (.ok accentedObject : Except (Fault Rat) _) :=
    ObjectName.parse_eq_ok_iff.mpr (by decide +kernel)
  refine ⟨_, List.mem_cons_of_mem _ (List.mem_singleton_self _), ?_, hparse,
    findAttribute_of_exports hparse (List.mem_cons_of_mem _ (List.mem_singleton_self _)) ?_⟩
  all_goals
    exact ⟨⟨"-KİEL?".toList, '-', '/', by decide, by decide, by decide +kernel⟩, by decide +kernel⟩

end CaptureControl
