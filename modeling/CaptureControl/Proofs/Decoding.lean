import CaptureControl.Text.Utf8
import Mathlib.Algebra.Order.Ring.Nat

/-!
# Laws of reading UTF-8

A code past ASCII is written as a lead octet, which holds its highest bits, and as tails of six bits
each. The reader keeps what it has seen of a code as a number, to which every tail adds its bits, so
at each point of a code that number is the code without the bits of the tails that are still owed.
That is the invariant which carries the reader from the lead octet to the character.

It works in both directions. The octets of a text are read as the text; and whatever the octets are,
where no replacement character shows they are those of the text that was read.

## Main definitions

* `Text.octetsOf` — a text in UTF-8
* `Text.tails` — the octets of a code that follow its lead
* `Text.Leads` — the lead octets, with the codes that they begin

## Main results

* `Text.readUtf8_octetsOf` — the octets of a text are read as the text
* `Text.octetsOf_readUtf8_or` — octets are those of what they are read as, or a replacement
  character shows
-/

namespace CaptureControl.Text

/-- A text in UTF-8. -/
def octetsOf (s : String) : List UInt8 :=
  s.toUTF8.data.toList

theorem octetsOf_eq_flatMap (s : String) : octetsOf s = s.toList.flatMap String.utf8EncodeChar := by
  rw [octetsOf, String.toUTF8_eq_toByteArray, ← String.utf8Encode_toList, List.utf8Encode,
    List.toList_data_toByteArray]

/-! ### Codes past ASCII -/

/-- The octets that follow a lead octet: so many of them, with the lowest bits of a code. -/
def tails : Nat → Nat → List UInt8
  | 0, _ => []
  | k + 1, v => UInt8.ofNat (v / 0x40 ^ k % 0x40 + 0x80) :: tails k v

/-- An octet `b` leads a code `v`, and `k + 1` tails follow it. Neither overlong forms nor
surrogates have a lead. -/
inductive Leads : Nat → Nat → Nat → Prop where
  /-- One tail follows. -/
  | two {b v : Nat} : b = v / 0x40 + 0xC0 → 0x80 ≤ v → v < 0x800 → Leads b 0 v
  /-- Two tails follow. -/
  | three {b v : Nat} : b = v / 0x1000 + 0xE0 → 0x800 ≤ v → v < 0x10000 →
      v < 0xD800 ∨ 0xDFFF < v → Leads b 1 v
  /-- Three tails follow. -/
  | four {b v : Nat} : b = v / 0x40000 + 0xF0 → 0x10000 ≤ v → v < 0x110000 → Leads b 2 v

/-- A lead, or what is left of it after some tails, awaits the last `k + 1` tails of a code `v`. -/
structure Lead.Awaits (lead : Lead) (k v : Nat) : Prop where
  /-- So many tails are owed. -/
  owed_eq : lead.owed = k + 1
  /-- The bits that are known are those of the code. -/
  payload_eq : lead.payload = v / 0x40 ^ (k + 1)
  /-- The next tail is not too small. -/
  least_le : lead.least ≤ v / 0x40 ^ k % 0x40 + 0x80
  /-- The next tail is not too great. -/
  le_greatest : v / 0x40 ^ k % 0x40 + 0x80 ≤ lead.greatest

variable {lead : Lead} {b k v : Nat} {octets : List UInt8}

/-- The lead octet of a code announces its tails. -/
theorem Leads.exists_awaits (h : Leads b k v) :
    ∃ lead, Lead.ofOctet? b = some lead ∧ lead.Awaits k v := by
  simp only [Lead.ofOctet?, Bool.and_eq_true, decide_eq_true_eq]
  cases h
  -- The bounds of a form leave the branches for its lead octets, and contradict the other ones.
  all_goals
    split_ifs
    all_goals first
      | omega
      | exact ⟨_, rfl, rfl, by dsimp only; omega, by dsimp only; omega, by dsimp only; omega⟩

/-- A lead octet announces the tails of the codes that it leads only. -/
theorem Lead.Awaits.leads (h : Lead.ofOctet? b = some lead) (h' : lead.Awaits k v) :
    Leads b k v := by
  simp only [Lead.ofOctet?, Bool.and_eq_true, decide_eq_true_eq] at h
  split_ifs at h
  all_goals
    cases h
    cases h'.owed_eq
    obtain ⟨-, hpayload, hleast, hgreatest⟩ := h'
    dsimp only at hpayload hleast hgreatest
  · exact .two (by omega) (by omega) (by omega)
  · exact .three (by omega) (by omega) (by omega) (by omega)
  · exact .three (by omega) (by omega) (by omega) (by omega)
  · exact .three (by omega) (by omega) (by omega) (by omega)
  · exact .four (by omega) (by omega) (by omega)
  · exact .four (by omega) (by omega) (by omega)
  · exact .four (by omega) (by omega) (by omega)

theorem toNat_ofNat_of_isValidChar (h : v.isValidChar) : (Char.ofNat v).toNat = v := by
  rw [Char.ofNat, dif_pos h]
  rfl

theorem Leads.lt (h : Leads b k v) : b < 0x100 := by
  cases h <;> omega

theorem Leads.le (h : Leads b k v) : 0x80 ≤ b := by
  cases h <;> omega

theorem Leads.isValidChar (h : Leads b k v) : v.isValidChar := by
  rw [Nat.isValidChar]
  cases h <;> omega

/-- A character past ASCII is written as the lead octet of its code and the tails that follow. -/
theorem exists_leads (c : Char) (h : 0x80 ≤ c.toNat) : ∃ b k, Leads b k c.toNat ∧
    String.utf8EncodeChar c = UInt8.ofNat b :: tails (k + 1) c.toNat := by
  have hvalid : c.toNat < 0xD800 ∨ 0xDFFF < c.toNat ∧ c.toNat < 0x110000 := c.valid
  simp only [String.utf8EncodeChar, Char.toNat_val]
  generalize c.toNat = v at h hvalid ⊢
  split_ifs with hone htwo hthree
  · omega
  · refine ⟨_, 0, .two rfl h (by omega), ?_⟩
    rw [Nat.mod_eq_of_lt (show v / 0x40 < 0x20 by omega)]
    simp [tails]
  · refine ⟨_, 1, .three rfl (by omega) (by omega) (by omega), ?_⟩
    rw [Nat.mod_eq_of_lt (show v / 0x1000 < 0x10 by omega)]
    simp [tails]
  · refine ⟨_, 2, .four rfl (by omega) (by omega), ?_⟩
    rw [Nat.mod_eq_of_lt (show v / 0x40000 < 0x8 by omega)]
    simp [tails]

/-- A code that has a lead is written as the lead and the tails that follow. -/
theorem Leads.utf8EncodeChar_eq (h : Leads b k v) :
    String.utf8EncodeChar (Char.ofNat v) = UInt8.ofNat b :: tails (k + 1) v := by
  have hcode := toNat_ofNat_of_isValidChar h.isValidChar
  have hpast : 0x80 ≤ (Char.ofNat v).toNat := by
    rw [hcode]
    cases h <;> omega
  obtain ⟨b', k', h', heq⟩ := exists_leads (Char.ofNat v) hpast
  rw [hcode] at h' heq
  obtain ⟨rfl, rfl⟩ : b' = b ∧ k' = k := by
    cases h <;> cases h' <;> omega
  exact heq

/-! ### Reading a code -/

theorem toNat_tail (n : Nat) : (UInt8.ofNat (n % 0x40 + 0x80)).toNat = n % 0x40 + 0x80 := by
  rw [UInt8.toNat_ofNat']
  omega

/-- A tail adds its bits to what is known. -/
theorem readUtf8From_tail (h : lead.Awaits k v) (octets : List UInt8) :
    readUtf8From (some lead) (UInt8.ofNat (v / 0x40 ^ k % 0x40 + 0x80) :: octets) =
      if k = 0 then Char.ofNat (v / 0x40 ^ k) :: readUtf8From none octets
      else readUtf8From (some ⟨k, v / 0x40 ^ k, 0x80, 0xBF⟩) octets := by
  have hpayload : lead.payload * 0x40 + v / 0x40 ^ k % 0x40 = v / 0x40 ^ k := by
    rw [h.payload_eq, Nat.pow_succ, ← Nat.div_div_eq_div_mul]
    omega
  have hlast : k + 1 ≤ 1 ↔ k = 0 := by omega
  simp only [readUtf8From, toNat_tail, h.least_le, h.le_greatest, decide_true, Bool.and_self,
    Nat.add_sub_cancel, hpayload, h.owed_eq, hlast, if_true]

/-- The tails of a code complete it. -/
theorem readUtf8From_tails (h : lead.Awaits k v) (octets : List UInt8) :
    readUtf8From (some lead) (tails (k + 1) v ++ octets) =
      Char.ofNat v :: readUtf8From none octets := by
  induction k generalizing lead with
  | zero =>
    rw [tails, List.cons_append, readUtf8From_tail h, if_pos rfl, Nat.pow_zero, Nat.div_one]
    rfl
  | succ k ih =>
    rw [tails, List.cons_append, readUtf8From_tail h, if_neg k.succ_ne_zero]
    refine ih ⟨rfl, rfl, ?_, ?_⟩ <;> dsimp only <;> omega

theorem utf8EncodeChar_of_ascii {c : Char} (h : c.toNat < 0x80) :
    String.utf8EncodeChar c = [UInt8.ofNat c.toNat] := by
  rw [String.utf8EncodeChar, Char.toNat_val, if_pos (Nat.le_of_lt_succ h)]

theorem readUtf8From_utf8EncodeChar (c : Char) (octets : List UInt8) :
    readUtf8From none (String.utf8EncodeChar c ++ octets) = c :: readUtf8From none octets := by
  by_cases h : 0x80 ≤ c.toNat
  · obtain ⟨b, k, hleads, heq⟩ := exists_leads c h
    obtain ⟨lead, hlead, hawaits⟩ := hleads.exists_awaits
    have hoctet : (UInt8.ofNat b).toNat = b := by
      rw [UInt8.toNat_ofNat', Nat.mod_eq_of_lt hleads.lt]
    rw [heq, List.cons_append, readUtf8From, hoctet, if_neg (Nat.not_lt.mpr hleads.le), hlead]
    dsimp only
    rw [readUtf8From_tails hawaits, Char.ofNat_toNat]
  · have hascii : c.toNat < 0x80 := Nat.lt_of_not_le h
    have hoctet : (UInt8.ofNat c.toNat).toNat = c.toNat := by
      rw [UInt8.toNat_ofNat']
      omega
    rw [utf8EncodeChar_of_ascii hascii, List.singleton_append, readUtf8From, hoctet, if_pos hascii,
      Char.ofNat_toNat]

/-- **The octets of a text are read as the text.** -/
theorem readUtf8_octetsOf (s : String) : readUtf8 (octetsOf s) = s := by
  have hall : ∀ cs : List Char, readUtf8From none (cs.flatMap String.utf8EncodeChar) = cs := by
    intro cs
    induction cs with
    | nil => rfl
    | cons c cs ih => rw [List.flatMap_cons, readUtf8From_utf8EncodeChar, ih]
  rw [readUtf8, octetsOf_eq_flatMap, hall, String.ofList_toList]

/-! ### Reading ill-formed octets -/

/-- A lead, or what is left of one after some tails, owes `k + 1` tails and lets only such
follow. -/
structure Lead.Proper (lead : Lead) (k : Nat) : Prop where
  /-- So many tails are owed. -/
  owed_eq : lead.owed = k + 1
  /-- Nothing below the tails may follow. -/
  le_least : 0x80 ≤ lead.least
  /-- Nothing above the tails may follow. -/
  greatest_le : lead.greatest ≤ 0xBF

theorem Lead.exists_proper (h : Lead.ofOctet? b = some lead) : ∃ k, lead.Proper k := by
  simp only [Lead.ofOctet?] at h
  split_ifs at h
  all_goals
    cases h
    exact ⟨_, rfl, by dsimp only; omega, by dsimp only; omega⟩

/-- An octet that may follow is the next tail of each code that has its bits after those that are
known. -/
theorem Lead.Proper.awaits (h : lead.Proper k) {b : UInt8} (hleast : lead.least ≤ b.toNat)
    (hgreatest : b.toNat ≤ lead.greatest)
    (hv : v / 0x40 ^ k = lead.payload * 0x40 + (b.toNat - 0x80)) :
    lead.Awaits k v ∧ b = UInt8.ofNat (v / 0x40 ^ k % 0x40 + 0x80) := by
  have hle := h.le_least
  have hge := h.greatest_le
  have hbits : v / 0x40 ^ k % 0x40 + 0x80 = b.toNat := by omega
  rw [← hbits] at hleast hgreatest
  refine ⟨⟨h.owed_eq, ?_, hleast, hgreatest⟩, ?_⟩
  · rw [Nat.pow_succ, ← Nat.div_div_eq_div_mul]
    omega
  · rw [hbits, UInt8.ofNat_toNat]

/-- An octet that may not follow shows as a replacement character. -/
theorem replacement_mem_of_not {b : UInt8} (h : ¬ (lead.least ≤ b.toNat ∧ b.toNat ≤ lead.greatest))
    (octets : List UInt8) : replacement ∈ readUtf8From (some lead) (b :: octets) := by
  rw [← decide_eq_true_eq (p := _ ∧ _), Bool.decide_and] at h
  rw [readUtf8From, if_neg h]
  split_ifs
  · exact List.mem_cons_self
  · split <;> exact List.mem_cons_self

/-- Inside a code, either the tails that are owed follow, or a replacement character shows. -/
theorem exists_tails_or (h : lead.Proper k) (octets : List UInt8) :
    (∃ v rest, lead.Awaits k v ∧ octets = tails (k + 1) v ++ rest) ∨
      replacement ∈ readUtf8From (some lead) octets := by
  induction octets generalizing lead k with
  | nil => exact .inr List.mem_cons_self
  | cons b octets ih =>
    by_cases hb : lead.least ≤ b.toNat ∧ b.toNat ≤ lead.greatest
    case neg => exact .inr (replacement_mem_of_not hb octets)
    cases k with
    | zero =>
      obtain ⟨hawaits, hoctet⟩ := h.awaits hb.1 hb.2 (Nat.div_one _)
      exact .inl ⟨_, octets, hawaits, congrArg (· :: octets) hoctet⟩
    | succ k =>
      -- The tails that follow are not known yet, but for the step any will do.
      have hbits := Nat.mul_div_cancel (lead.payload * 0x40 + (b.toNat - 0x80))
        (Nat.pow_pos (a := 0x40) (n := k + 1) (by decide))
      obtain ⟨hawaits, hoctet⟩ := h.awaits hb.1 hb.2 hbits
      have hread := readUtf8From_tail hawaits octets
      rw [← hoctet, if_neg k.succ_ne_zero, hbits] at hread
      rw [hread]
      refine (ih ⟨rfl, Nat.le_refl _, Nat.le_refl _⟩).imp_left ?_
      rintro ⟨v, rest, hv, rfl⟩
      obtain ⟨hawaits, hoctet⟩ := h.awaits hb.1 hb.2 hv.payload_eq.symm
      exact ⟨v, rest, hawaits, congrArg (· :: (tails (k + 1) v ++ rest)) hoctet⟩

theorem flatMap_readUtf8From_or (octets : List UInt8) :
    (readUtf8From none octets).flatMap String.utf8EncodeChar = octets ∨
      replacement ∈ readUtf8From none octets := by
  -- A code takes several octets, so the induction is on how many there are.
  induction hn : octets.length using Nat.strongRecOn generalizing octets with
  | _ n ih =>
    subst hn
    cases octets with
    | nil => exact .inl rfl
    | cons b octets =>
      rw [readUtf8From]
      split_ifs with hascii
      · have hcode : (Char.ofNat b.toNat).toNat = b.toNat :=
          toNat_ofNat_of_isValidChar (.inl (by omega))
        refine (ih _ (Nat.lt_succ_self _) octets rfl).imp (fun heq => ?_) (List.mem_cons_of_mem _)
        rw [List.flatMap_cons, heq, utf8EncodeChar_of_ascii (by rwa [hcode]), hcode,
          UInt8.ofNat_toNat, List.singleton_append]
      · split
        next lead hlead =>
          obtain ⟨k, hproper⟩ := Lead.exists_proper hlead
          rcases exists_tails_or hproper octets with ⟨v, rest, hawaits, rfl⟩ | hmem
          · have hshorter : rest.length < (b :: (tails (k + 1) v ++ rest)).length := by
              simp only [List.length_cons, List.length_append]
              omega
            rw [readUtf8From_tails hawaits]
            refine (ih _ hshorter rest rfl).imp (fun heq => ?_) (List.mem_cons_of_mem _)
            rw [List.flatMap_cons, heq, (hawaits.leads hlead).utf8EncodeChar_eq, UInt8.ofNat_toNat,
              List.cons_append]
          · exact .inr hmem
        next => exact .inr List.mem_cons_self

/-- **Octets are those of the text that they are read as, or a replacement character shows.** -/
theorem octetsOf_readUtf8_or (octets : List UInt8) :
    octetsOf (readUtf8 octets) = octets ∨ replacement ∈ (readUtf8 octets).toList := by
  rw [octetsOf_eq_flatMap, readUtf8, String.toList_ofList]
  exact flatMap_readUtf8From_or octets

/-- A code that breaks off shows, and what stands after it is read. -/
example : readUtf8 [0xE2, 0x82, 0x41] = "\uFFFDA" := by
  decide

end CaptureControl.Text
