import CaptureControl.Proofs.ObjectNaming

/-!
# Spelling the names of metrics objects

The name of a metrics object is divided at its first colon, and what follows at each comma. How a
text is divided is stated here without reference to how it is read: a division is a head without
colon and pieces without commas that make up the text, and every text has exactly one. A name is
refused exactly if one of its pieces is malformed. Otherwise it names the domain and the properties
that its head and its pieces give, where of several pieces with one key the last counts.

So reading undoes writing. A domain and properties can be spelled in many ways, with blank space
around every part and with blank pieces in between, and all of these are read as what was written.

## Main definitions

* `ObjectName.Divides` — the head of a text and its pieces
* `ObjectName.Gives`, `ObjectName.GivesLast` — the property that a piece gives, and the properties
  that pieces give in the end
* `ObjectName.Proper`, `ObjectName.Spells` — names that can be written, and the ways to write them

## Main results

* `ObjectName.divides_iff` — every text has exactly one division
* `ObjectName.parse?_of_spells` — reading undoes writing
* `ObjectName.parse_grammar` — all of this together
-/

namespace CaptureControl

namespace ObjectName

variable {text head piece key value domain : List Char} {pieces : List (List Char)}
  {pairs : KeyedList (List Char) (List Char)}

/-! ### Division -/

/-- The head of a text and its pieces: what stands before the first colon, and the texts between
commas of what stands after it. Without a colon nothing stands after it, which is one empty piece. -/
inductive Divides : List Char → List Char → List (List Char) → Prop where
  /-- A text without colon. -/
  | bare {head : List Char} : ':' ∉ head → Divides head head [[]]
  /-- A text with a colon. -/
  | cut {head : List Char} {pieces : List (List Char)} : ':' ∉ head → pieces ≠ [] →
      (∀ piece ∈ pieces, ',' ∉ piece) → Divides (head ++ ':' :: [','].intercalate pieces) head pieces

/-- **Every text has exactly one division.** -/
theorem divides_iff :
    Divides text head pieces ↔ (Text.cut ':' text).1 = head ∧ propertyPieces text = pieces := by
  constructor
  · intro h
    cases h with
    | bare hhead =>
      rw [propertyPieces, Text.cut_of_notMem hhead]
      exact ⟨rfl, rfl⟩
    | cut hhead hne hpieces =>
      rw [propertyPieces, Text.cut_append_cons hhead]
      exact ⟨rfl, Text.pieces_eq_iff.mpr ⟨hne, hpieces, rfl⟩⟩
  · rintro ⟨rfl, rfl⟩
    by_cases hmem : ':' ∈ text
    · obtain ⟨head, rest, rfl, hhead⟩ := List.eq_append_cons_of_mem hmem
      obtain ⟨hne, hpieces, hrest⟩ := Text.pieces_eq_iff.mp (rfl : Text.pieces ',' rest = _)
      rw [propertyPieces, Text.cut_append_cons hhead]
      have hcut := Divides.cut hhead hne hpieces
      rwa [hrest] at hcut
    · rw [propertyPieces, Text.cut_of_notMem hmem]
      exact .bare hmem

/-! ### Properties -/

/-- A piece gives a property: a key that is not blank, an equals sign, and a value, where blank space
around the key and around the value does not count. -/
inductive Gives : List Char → List Char → List Char → Prop where
  | mk {before after : List Char} : '=' ∉ before → ¬ Blank before →
      Gives (before ++ '=' :: after) (Text.trim before) (Text.trim after)

/-- Pieces give a property in the end: one of them does, and none after it gives the same key. -/
def GivesLast (pieces : List (List Char)) (key value : List Char) : Prop :=
  ∃ before piece after, pieces = before ++ piece :: after ∧ Gives piece key value ∧
    ∀ later ∈ after, ∀ value', ¬ Gives later key value'

theorem property?_eq_some_iff (h : ¬ MalformedPiece piece) :
    property? piece = some (key, value) ↔ Gives piece key value := by
  constructor
  · intro hproperty
    rw [property?] at hproperty
    split at hproperty
    next => cases hproperty
    next hblank =>
      obtain ⟨hmem, hkey⟩ := not_or.mp fun hbad => h ⟨hblank, hbad⟩
      obtain ⟨before, after, rfl, hbefore⟩ := List.eq_append_cons_of_mem (not_not.mp hmem)
      rw [Text.cut_append_cons hbefore] at hproperty hkey
      obtain ⟨rfl, rfl⟩ := Prod.mk.inj (Option.some.inj hproperty)
      exact .mk hbefore hkey
  · intro hgives
    cases hgives with
    | @mk before after hbefore hkey =>
      have hblank : ¬ Blank (before ++ '=' :: after) := fun hall =>
        hkey fun c hc => hall c (List.mem_append_left _ hc)
      rw [property?, if_neg hblank, Text.cut_append_cons hbefore]
      rfl

/-- What is kept of the properties of pieces is what they give in the end. -/
theorem mem_putAll_filterMap_iff (h : ∀ piece ∈ pieces, ¬ MalformedPiece piece) :
    (key, value) ∈ KeyedList.putAll (pieces.filterMap property?) [] ↔
      GivesLast pieces key value := by
  rw [KeyedList.mem_putAll_iff_append]
  constructor
  · rintro ⟨before, after, heq, hafter⟩
    obtain ⟨front, rest, rfl, -, hrest⟩ := List.filterMap_eq_append_iff.mp heq
    obtain ⟨blanks, piece, later, rfl, -, hpiece, rfl⟩ := List.filterMap_eq_cons_iff.mp hrest
    refine ⟨front ++ blanks, piece, later, by simp, ?_, ?_⟩
    · exact (property?_eq_some_iff (h piece (by simp))).mp hpiece
    · intro p hp value' hgives
      have hproperty := (property?_eq_some_iff (h p (by simp [hp]))).mpr hgives
      exact hafter (List.mem_map.mpr ⟨(key, value'), List.mem_filterMap.mpr ⟨p, hp, hproperty⟩, rfl⟩)
  · rintro ⟨before, piece, after, rfl, hgives, hlater⟩
    have hpiece := (property?_eq_some_iff (h piece (by simp))).mpr hgives
    refine ⟨before.filterMap property?, after.filterMap property?, ?_, ?_⟩
    · rw [List.filterMap_append, List.filterMap_cons_some hpiece]
    · intro hmem
      obtain ⟨⟨key', value'⟩, hentry, rfl⟩ := List.mem_map.mp hmem
      obtain ⟨p, hp, hproperty⟩ := List.mem_filterMap.mp hentry
      exact hlater p hp value' ((property?_eq_some_iff (h p (by simp [hp]))).mp hproperty)

/-! ### Writing -/

/-- A text with blank space around it. -/
inductive Pads (cs : List Char) : List Char → Prop where
  | mk {before after : List Char} : Blank before → Blank after → Pads cs (before ++ cs ++ after)

/-- A domain and properties that can be written. -/
structure Proper (domain : List Char) (pairs : KeyedList (List Char) (List Char)) : Prop where
  /-- The domain has no blank space at its ends. -/
  domain_trimmed : Text.trim domain = domain
  /-- The domain has no colon. -/
  domain_plain : ':' ∉ domain
  /-- No key is given twice. -/
  keys_nodup : pairs.keys.Nodup
  /-- No key is empty. -/
  key_ne_nil : ∀ p ∈ pairs, p.1 ≠ []
  /-- Keys have no blank space at their ends. -/
  key_trimmed : ∀ p ∈ pairs, Text.trim p.1 = p.1
  /-- Keys have neither commas nor equals signs. -/
  key_plain : ∀ p ∈ pairs, ',' ∉ p.1 ∧ '=' ∉ p.1
  /-- Values have no blank space at their ends. -/
  value_trimmed : ∀ p ∈ pairs, Text.trim p.2 = p.2
  /-- Values have no commas. -/
  value_plain : ∀ p ∈ pairs, ',' ∉ p.2

/-- Pieces that give properties, in their order, with blank space around keys and values, and with
blank pieces in between. -/
inductive Lists : List (List Char) → KeyedList (List Char) (List Char) → Prop where
  /-- No pieces. -/
  | nil : Lists [] []
  /-- A blank piece. -/
  | blank {piece : List Char} {pieces : List (List Char)}
      {pairs : KeyedList (List Char) (List Char)} : Blank piece → Lists pieces pairs →
      Lists (piece :: pieces) pairs
  /-- A property. -/
  | property {key value before after : List Char} {pieces : List (List Char)}
      {pairs : KeyedList (List Char) (List Char)} : Pads key before → Pads value after →
      Lists pieces pairs → Lists ((before ++ '=' :: after) :: pieces) ((key, value) :: pairs)

/-- The ways to write a domain and properties. -/
inductive Spells (domain : List Char) : KeyedList (List Char) (List Char) → List Char → Prop where
  /-- A domain without properties needs no colon. -/
  | bare {head : List Char} : Pads domain head → Spells domain [] head
  /-- The domain and the properties, with a colon between them. -/
  | listed {pairs : KeyedList (List Char) (List Char)} {head : List Char}
      {pieces : List (List Char)} : Pads domain head → pieces ≠ [] → Lists pieces pairs →
      Spells domain pairs (head ++ ':' :: [','].intercalate pieces)

theorem blank_nil : Blank [] := by
  intro c hc
  cases hc

theorem Blank.notMem (h : Blank piece) {c : Char} (hc : Text.isBlank c = false) : c ∉ piece := by
  intro hmem
  rw [h c hmem] at hc
  cases hc

theorem Pads.notMem {cs padded : List Char} (h : Pads cs padded) {c : Char}
    (hc : Text.isBlank c = false) (hcs : c ∉ cs) : c ∉ padded := by
  cases h with
  | mk hbefore hafter => simp [hbefore.notMem hc, hcs, hafter.notMem hc]

theorem Pads.trim_eq {cs padded : List Char} (h : Pads cs padded) :
    Text.trim padded = Text.trim cs := by
  cases h with
  | mk hbefore hafter => exact Text.trimBy_append hbefore hafter cs

theorem Pads.not_blank {cs padded : List Char} (h : Pads cs padded) (htrim : Text.trim cs = cs)
    (hne : cs ≠ []) : ¬ Blank padded := by
  intro hblank
  rw [← h.trim_eq, Text.trim, Text.trimBy, Text.dropWhile_eq_nil hblank] at htrim
  exact hne htrim.symm

theorem Proper.tail {p : List Char × List Char} (h : Proper domain (p :: pairs)) :
    Proper domain pairs where
  domain_trimmed := h.domain_trimmed
  domain_plain := h.domain_plain
  keys_nodup := (List.nodup_cons.mp h.keys_nodup).2
  key_ne_nil q hq := h.key_ne_nil q (List.mem_cons_of_mem _ hq)
  key_trimmed q hq := h.key_trimmed q (List.mem_cons_of_mem _ hq)
  key_plain q hq := h.key_plain q (List.mem_cons_of_mem _ hq)
  value_trimmed q hq := h.value_trimmed q (List.mem_cons_of_mem _ hq)
  value_plain q hq := h.value_plain q (List.mem_cons_of_mem _ hq)

/-- Pieces that give properties have no commas, none is malformed, and what they give is what is
read off them. -/
theorem Lists.read (h : Lists pieces pairs) (hproper : Proper domain pairs) :
    (∀ piece ∈ pieces, ',' ∉ piece) ∧ (∀ piece ∈ pieces, ¬ MalformedPiece piece) ∧
      pieces.filterMap property? = pairs := by
  have hcomma : Text.isBlank ',' = false := by decide
  have hequals : Text.isBlank '=' = false := by decide
  induction h with
  | nil => simp
  | @blank piece pieces pairs hblank _ ih =>
    obtain ⟨hplain, hgood, hread⟩ := ih hproper
    have hnone : property? piece = none := if_pos hblank
    refine ⟨?_, ?_, by rw [List.filterMap_cons_none hnone, hread]⟩
    · exact List.forall_mem_cons.mpr ⟨hblank.notMem hcomma, hplain⟩
    · exact List.forall_mem_cons.mpr ⟨fun hbad => hbad.1 hblank, hgood⟩
  | @property key value before after pieces pairs hkey hvalue _ ih =>
    obtain ⟨hplain, hgood, hread⟩ := ih hproper.tail
    have hmem : (key, value) ∈ (key, value) :: pairs := List.mem_cons_self
    obtain ⟨hkeyComma, hkeyEquals⟩ := hproper.key_plain _ hmem
    have hbefore : '=' ∉ before := hkey.notMem hequals hkeyEquals
    have hfirst : ¬ Blank before :=
      hkey.not_blank (hproper.key_trimmed _ hmem) (hproper.key_ne_nil _ hmem)
    have hpiece : ¬ MalformedPiece (before ++ '=' :: after) := by
      rintro ⟨-, hbad⟩
      rw [Text.cut_append_cons hbefore] at hbad
      exact hbad.elim (fun hnot => hnot (by simp)) hfirst
    have hgives : Gives (before ++ '=' :: after) key value := by
      have hmk : Gives (before ++ '=' :: after) _ _ := .mk hbefore hfirst
      rwa [hkey.trim_eq, hvalue.trim_eq, hproper.key_trimmed _ hmem,
        hproper.value_trimmed _ hmem] at hmk
    refine ⟨?_, List.forall_mem_cons.mpr ⟨hpiece, hgood⟩, ?_⟩
    · refine List.forall_mem_cons.mpr ⟨?_, hplain⟩
      simp [hkey.notMem hcomma hkeyComma, hvalue.notMem hcomma (hproper.value_plain _ hmem)]
    · rw [List.filterMap_cons_some ((property?_eq_some_iff hpiece).mpr hgives), hread]

/-- **Reading undoes writing.** -/
theorem parse?_of_spells (hproper : Proper domain pairs) (h : Spells domain pairs text) :
    parse? text = some ⟨domain, pairs⟩ := by
  have hcolon : Text.isBlank ':' = false := by decide
  have hread : ∀ head pieces, Divides text head pieces → Pads domain head → Lists pieces pairs →
      parse? text = some ⟨domain, pairs⟩ := by
    intro head pieces hdivides hhead hlists
    obtain ⟨rfl, rfl⟩ := divides_iff.mp hdivides
    obtain ⟨-, hgood, hpairs⟩ := hlists.read hproper
    have hmalformed : ¬ Malformed text := fun ⟨piece, hmem, hbad⟩ => hgood piece hmem hbad
    rw [parse?_eq_some hmalformed, propertiesOf, hpairs,
      KeyedList.putAll_of_nodup hproper.keys_nodup, hhead.trim_eq, hproper.domain_trimmed]
  cases h with
  | bare hhead =>
    have hplain := hhead.notMem hcolon hproper.domain_plain
    exact hread _ _ (.bare hplain) hhead (.blank blank_nil .nil)
  | listed hhead hne hlists =>
    have hplain := hhead.notMem hcolon hproper.domain_plain
    exact hread _ _ (.cut hplain hne (hlists.read hproper).1) hhead hlists

/-- A domain and properties without anything around or between them. -/
def plain (domain : List Char) (pairs : KeyedList (List Char) (List Char)) : List Char :=
  domain ++ ':' :: [','].intercalate (pairs.map fun p => p.1 ++ '=' :: p.2)

theorem pads_self (cs : List Char) : Pads cs cs := by
  have hpads : Pads cs ([] ++ cs ++ []) := .mk blank_nil blank_nil
  simpa using hpads

theorem lists_plain (pairs : KeyedList (List Char) (List Char)) :
    Lists (pairs.map fun p => p.1 ++ '=' :: p.2) pairs := by
  induction pairs with
  | nil => exact .nil
  | cons p pairs ih => exact .property (pads_self p.1) (pads_self p.2) ih

theorem spells_plain (domain : List Char) (pairs : KeyedList (List Char) (List Char)) :
    Spells domain pairs (plain domain pairs) := by
  cases pairs with
  | nil =>
    have hlisted : Spells domain [] (domain ++ ':' :: [','].intercalate [[]]) :=
      .listed (pads_self domain) (by simp) (.blank blank_nil .nil)
    exact hlisted
  | cons p pairs => exact .listed (pads_self domain) (by simp) (lists_plain (p :: pairs))

/-- **The grammar of names.** Every text has exactly one division into a head and pieces. If one of
the pieces is malformed, the text is refused as a bad value; otherwise it is read as the domain that
the head gives and the properties that the pieces give in the end, each key once. Whatever can be
written is read back from each of its spellings, as it was written. -/
theorem parse_grammar {τ : Type} (text : String) :
    let answer : Except (Fault τ) ObjectName := parse text
    (∃! division : List Char × List (List Char), Divides text.toList division.1 division.2) ∧
      (∀ head pieces, Divides text.toList head pieces →
        ((∃ e, answer = .error e ∧ e.isA .value = true) ↔
          ∃ piece ∈ pieces, MalformedPiece piece) ∧
        ((∀ piece ∈ pieces, ¬ MalformedPiece piece) →
          ∃ o, answer = .ok o ∧ o.domain = Text.trim head ∧ o.properties.keys.Nodup ∧
            ∀ key value, (key, value) ∈ o.properties ↔ GivesLast pieces key value)) ∧
      (∀ domain pairs, Proper domain pairs →
        Spells domain pairs (plain domain pairs) ∧
          (Spells domain pairs text.toList → answer = .ok ⟨domain, pairs⟩)) := by
  intro answer
  refine ⟨⟨(_, _), divides_iff.mpr ⟨rfl, rfl⟩, ?_⟩, ?_, ?_⟩
  · intro division hdivides
    obtain ⟨hhead, hpieces⟩ := divides_iff.mp hdivides
    exact Prod.ext hhead.symm hpieces.symm
  · intro head pieces hdivides
    obtain ⟨rfl, rfl⟩ := divides_iff.mp hdivides
    refine ⟨⟨?_, ?_⟩, ?_⟩
    · rintro ⟨e, he, -⟩
      exact parse?_eq_none_iff.mp (parse_eq_error_iff.mp he).1
    · intro hbad
      exact ⟨.objectName text, parse_eq_error_iff.mpr ⟨parse?_eq_none_iff.mpr hbad, rfl⟩, rfl⟩
    · intro hgood
      have hmalformed : ¬ Malformed text.toList := fun ⟨piece, hmem, hbad⟩ => hgood piece hmem hbad
      exact ⟨_, parse_eq_ok_iff.mpr (parse?_eq_some hmalformed), rfl,
        KeyedList.nodup_keys_putAll _, fun key value => mem_putAll_filterMap_iff hgood⟩
  · intro domain pairs hproper
    exact ⟨spells_plain domain pairs,
      fun hspells => parse_eq_ok_iff.mpr (parse?_of_spells hproper hspells)⟩

/-- Values may be empty, and may have colons and equals signs in them. -/
example : parse? " d :\t, a = b=:c ,,e=,a=, ".toList =
    some ⟨['d'], [(['a'], []), (['e'], [])]⟩ := by
  decide +kernel

end ObjectName

end CaptureControl
