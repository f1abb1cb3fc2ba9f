import TableModel.Proofs.Text.Trim
import TableModel.Proofs.Unicode.CaseImages

/-!
# Lower case of texts

Only a capital sigma looks at what follows it, and only for a letter with case. So the lower-case
form of two texts in a row is made of those of the parts where the second text begins with no such
letter (`toLower_append_of_lt`).

What stands in a lower-case form is left alone in every text, so that a text is in lower case after
one step (`toLower_toLower`). As no blank comes from what is none, the form of a trimmed text is
trimmed (`trim_toLower`).

A sigma sees an ASCII letter alike in either case, so texts that differ in the case of ASCII letters
only have the same form (`toLower_map_toLower`).
-/

namespace TableModel.Unicode

/-! ### Texts in parts -/

/-- A text that begins with no cased letter does not change what those in front of it see. -/
theorem beginsCased_append {b : List Char} (hb : beginsCased b = false) (a : List Char) :
    beginsCased (a ++ b) = beginsCased a := by
  induction a with
  | nil => simpa [beginsCased] using hb
  | cons c rest ih =>
    cases hc : isCaseIgnorable c
    · simp [beginsCased, hc]
    · simpa [beginsCased, hc] using ih

theorem lowerIn_append {b : List Char} (hb : beginsCased b = false) (before : List Char) (c : Char)
    (after : List Char) : lowerIn before c (after ++ b) = lowerIn before c after := by
  rw [lowerIn, lowerIn, beginsCased_append hb]

theorem lowerAfter_append {b : List Char} (hb : beginsCased b = false) (before a : List Char) :
    lowerAfter before (a ++ b) = lowerAfter before a ++ lowerAfter (a.reverse ++ before) b := by
  induction a generalizing before with
  | nil => rfl
  | cons c rest ih =>
    simp only [List.cons_append, lowerAfter, lowerIn_append hb, ih, List.reverse_cons,
      List.append_assoc, List.nil_append]

theorem beginsCased_space (text : List Char) : beginsCased (' ' :: text) = false := by
  have hspace : isCaseIgnorable ' ' = false ∧ isCased ' ' = false := by decide +kernel
  simp [beginsCased, hspace]

/-- The lower-case form of a text with an ASCII text behind it that begins with no letter. -/
theorem toLower_append_of_lt {b : List Char} (hb : beginsCased b = false)
    (hlt : ∀ c ∈ b, c.toNat < 128) (a : List Char) :
    toLower (a ++ b) = toLower a ++ b.map Char.toLower := by
  rw [toLower, toLower, lowerAfter_append hb, lowerAfter_of_lt hlt]

/-! ### What is in lower case already -/

theorem sigma_mem : 0x3A3 ∈ loweredPoints ∧ 0x3C3 ∈ lowerImages := by
  have hrun : (⟨0x3A3, 0x3AB, 1, 0x3C3⟩ : CaseRun) ∈ lowercaseRuns :=
    List.mem_of_getElem? (i := 69) rfl
  have himage : (⟨0x3A3, 0x3AB, 1, 0x3C3⟩ : CaseRun).image? 0x3A3 = some 0x3C3 := rfl
  obtain ⟨hpoint, hsmall⟩ := CaseRun.mem_of_image? himage
  have hpoints := List.mem_flatMap_of_mem hrun hpoint
  have himages := List.mem_flatMap_of_mem hrun hsmall
  exact ⟨List.mem_append_right _ (List.mem_cons_of_mem _ hpoints),
    List.mem_append_right _ (List.mem_cons_of_mem _ (List.mem_cons_of_mem _ himages))⟩

/-- An image of the lower-case mapping is left alone in every text: it is no capital sigma. -/
theorem lowerIn_of_mem_lowerImages {c : Char} (h : c.toNat ∈ lowerImages)
    (before after : List Char) : lowerIn before c after = [c] := by
  have hne : c.toNat ≠ 0x3A3 := fun heq => disjoint_lowerImages.1 h (heq ▸ sigma_mem.1)
  rw [lowerIn, if_neg hne, lowerChar_of_mem_lowerImages h]

/-- A character is left alone in every text, or becomes images in every text. -/
theorem lowerIn_eq_self_or (c : Char) :
    (∀ before after, lowerIn before c after = [c]) ∨
      ∀ before after, ∀ d ∈ lowerIn before c after, d.toNat ∈ lowerImages := by
  by_cases hc : c.toNat = 0x3A3
  · have hfinal : 0x3C2 ∈ lowerImages :=
      List.mem_append_right _ (List.mem_cons_of_mem _ List.mem_cons_self)
    refine .inr fun before after d hd => ?_
    rw [lowerIn, if_pos hc] at hd
    split at hd <;> obtain rfl := List.mem_singleton.mp hd
    · exact hfinal
    · exact sigma_mem.2
  · have hchar : ∀ before after, lowerIn before c after = lowerChar c := fun before after => by
      rw [lowerIn, if_neg hc]
    rcases lowerChar_eq_self_or c with hself | himages
    · exact .inl fun before after => by rw [hchar, hself]
    · exact .inr fun before after => by rwa [hchar]

/-- What a character becomes in a text is left alone in every text. -/
theorem lowerIn_of_mem_lowerIn {before after : List Char} {c d : Char}
    (h : d ∈ lowerIn before c after) (before' after' : List Char) :
    lowerIn before' d after' = [d] := by
  rcases lowerIn_eq_self_or c with hself | himages
  · rw [hself, List.mem_singleton] at h
    rw [h, hself]
  · exact lowerIn_of_mem_lowerImages (himages before after d h) before' after'

theorem lowerAfter_eq_self {text : List Char}
    (h : ∀ d ∈ text, ∀ before after, lowerIn before d after = [d]) (before : List Char) :
    lowerAfter before text = text := by
  induction text generalizing before with
  | nil => rfl
  | cons d rest ih =>
    rw [lowerAfter, h d List.mem_cons_self, ih fun e he => h e (List.mem_cons_of_mem d he)]
    rfl

/-- Each character of a lower-case form comes from a character of the text. -/
theorem exists_of_mem_lowerAfter {text before : List Char} {d : Char}
    (h : d ∈ lowerAfter before text) :
    ∃ before' c after, c ∈ text ∧ d ∈ lowerIn before' c after := by
  induction text generalizing before with
  | nil => exact absurd h List.not_mem_nil
  | cons c rest ih =>
    rw [lowerAfter, List.mem_append] at h
    rcases h with hfirst | hrest
    · exact ⟨before, c, rest, List.mem_cons_self, hfirst⟩
    · obtain ⟨before', e, after, hmem, hin⟩ := ih hrest
      exact ⟨before', e, after, List.mem_cons_of_mem c hmem, hin⟩

/-- Putting a text in lower case once more changes nothing. -/
@[simp] theorem toLower_toLower (text : List Char) : toLower (toLower text) = toLower text := by
  refine lowerAfter_eq_self (fun d hd before after => ?_) []
  obtain ⟨before', c, after', -, hin⟩ := exists_of_mem_lowerAfter hd
  exact lowerIn_of_mem_lowerIn hin before after

/-! ### The ends of a lower-case form -/

theorem lowerIn_ne_nil (before : List Char) (c : Char) (after : List Char) :
    lowerIn before c after ≠ [] := by
  rw [lowerIn, lowerChar]
  split_ifs <;> exact List.cons_ne_nil _ _

/-- The first character of a lower-case form comes from the first one of the text. -/
theorem exists_of_head?_lowerAfter {text before : List Char} {d : Char}
    (h : (lowerAfter before text).head? = some d) :
    ∃ c before' after, text.head? = some c ∧ d ∈ lowerIn before' c after := by
  cases text with
  | nil => contradiction
  | cons c rest =>
    rw [lowerAfter, List.head?_append_of_ne_nil _ (lowerIn_ne_nil _ _ _)] at h
    exact ⟨c, before, rest, rfl, List.mem_of_mem_head? h⟩

/-- The last character of a lower-case form comes from the last one of the text. -/
theorem exists_of_getLast?_lowerAfter {text before : List Char} {d : Char}
    (h : (lowerAfter before text).getLast? = some d) :
    ∃ c before' after, text.getLast? = some c ∧ d ∈ lowerIn before' c after := by
  induction text generalizing before with
  | nil => contradiction
  | cons c rest ih =>
    rw [lowerAfter, List.getLast?_append] at h
    cases hrest : (lowerAfter (c :: before) rest).getLast? with
    | some e =>
      rw [hrest, Option.some_or, Option.some.injEq] at h
      obtain ⟨last, before', after, hlast, hin⟩ := ih (hrest.trans (congrArg some h))
      exact ⟨last, before', after, by rw [List.getLast?_cons, hlast]; rfl, hin⟩
    | none =>
      rw [hrest, Option.none_or] at h
      -- Every character becomes at least one, so nothing follows the first one.
      have hnil : rest = [] := by
        cases rest with
        | nil => rfl
        | cons e more =>
          rw [List.getLast?_eq_none_iff, lowerAfter, List.append_eq_nil_iff] at hrest
          exact absurd hrest.1 (lowerIn_ne_nil _ _ _)
      exact ⟨c, before, rest, by rw [hnil]; rfl, List.mem_of_getLast? h⟩

/-- No blank comes from a character that is none. -/
theorem isBlank_of_mem_lowerIn {before after : List Char} {c d : Char}
    (h : d ∈ lowerIn before c after) (hc : Text.isBlank c = false) : Text.isBlank d = false := by
  rcases lowerIn_eq_self_or c with hself | himages
  · rw [hself, List.mem_singleton] at h
    rw [h, hc]
  · by_contra hblank
    rw [Bool.not_eq_false] at hblank
    exact disjoint_lowerImages.2 (himages before after d h) (mem_blankPoints hblank)

/-- The lower-case form of a trimmed text is trimmed. -/
theorem trim_toLower {text : List Char} (h : Text.trim text = text) :
    Text.trim (toLower text) = toLower text := by
  obtain ⟨hfirst, hlast⟩ := Text.trim_eq_self_iff.mp h
  refine Text.trim_eq_self_iff.mpr ⟨fun d hd => ?_, fun d hd => ?_⟩
  · obtain ⟨c, before, after, hc, hin⟩ := exists_of_head?_lowerAfter hd
    exact isBlank_of_mem_lowerIn hin (hfirst c hc)
  · obtain ⟨c, before, after, hc, hin⟩ := exists_of_getLast?_lowerAfter hd
    exact isBlank_of_mem_lowerIn hin (hlast c hc)

/-! ### ASCII letters in either case -/

@[simp] theorem isBlank_toLower (c : Char) : Text.isBlank c.toLower = Text.isBlank c := by
  rw [Bool.eq_iff_iff]
  simp only [Text.isBlank, Bool.or_eq_true, Bool.and_eq_true, decide_eq_true_eq, toNat_toLower]
  split <;> omega

@[simp] theorem isCased_toLower (c : Char) : isCased c.toLower = isCased c := by
  rcases toLower_eq_self_or c with hself | ⟨hupper, hlower⟩
  · rw [hself]
  · have hcapital : isCased c = true :=
      Ranges.holds_iff.mpr ⟨(0x41, 0x5A), List.mem_of_getElem? (i := 0) rfl, hupper⟩
    have hsmall : isCased c.toLower = true :=
      Ranges.holds_iff.mpr ⟨(0x61, 0x7A), List.mem_of_getElem? (i := 1) rfl, by omega, by omega⟩
    rw [hcapital, hsmall]

theorem disjoint_letters_caseIgnorable :
    bits (List.range' 65 26 ++ List.range' 97 26) &&& caseIgnorableRanges.bits = 0 := by
  decide +kernel

@[simp] theorem isCaseIgnorable_toLower (c : Char) :
    isCaseIgnorable c.toLower = isCaseIgnorable c := by
  have hletter {d : Char} (hd : d.toNat ∈ List.range' 65 26 ++ List.range' 97 26) :
      isCaseIgnorable d = false := by
    rw [Bool.eq_false_iff]
    intro hholds
    have hbit := Ranges.testBit_bits.mpr (Ranges.holds_iff.mp hholds)
    rw [testBit_eq_false_of_bits disjoint_letters_caseIgnorable hd] at hbit
    contradiction
  rcases toLower_eq_self_or c with hself | ⟨hupper, hlower⟩
  · rw [hself]
  · rw [hletter, hletter]
    · exact List.mem_append_left _ (List.mem_range'_1.mpr (by omega))
    · exact List.mem_append_right _ (List.mem_range'_1.mpr (by omega))

theorem beginsCased_map_toLower (text : List Char) :
    beginsCased (text.map Char.toLower) = beginsCased text := by
  induction text with
  | nil => rfl
  | cons c rest ih =>
    cases hc : isCaseIgnorable c
    · simp [beginsCased, hc]
    · simpa [beginsCased, hc] using ih

/-- What a character becomes in a text depends on the ASCII case of nothing in it. -/
theorem lowerIn_map_toLower (before : List Char) (c : Char) (after : List Char) :
    lowerIn (before.map Char.toLower) c.toLower (after.map Char.toLower) =
      lowerIn before c after := by
  rcases toLower_eq_self_or c with hself | ⟨hupper, hlower⟩
  · rw [hself, lowerIn, lowerIn, beginsCased_map_toLower, beginsCased_map_toLower]
  · have himage : c.toLower.toNat ∈ lowerImages :=
      List.mem_append_left _ (List.mem_range'_1.mpr (by omega))
    rw [lowerIn_of_mem_lowerImages himage, lowerIn_of_lt _ _ (by omega)]

theorem lowerAfter_map_toLower (before text : List Char) :
    lowerAfter (before.map Char.toLower) (text.map Char.toLower) = lowerAfter before text := by
  induction text generalizing before with
  | nil => rfl
  | cons c rest ih =>
    rw [List.map_cons, lowerAfter, lowerAfter, lowerIn_map_toLower, ← List.map_cons, ih]

/-- **The ASCII case of a text** does not matter to its lower-case form. -/
theorem toLower_map_toLower (text : List Char) : toLower (text.map Char.toLower) = toLower text :=
  lowerAfter_map_toLower [] text

end TableModel.Unicode
