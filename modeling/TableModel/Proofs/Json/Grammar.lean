import Mathlib.Data.List.TakeWhile
import TableModel.Proofs.Json.Scalar

/-!
# The grammar of JSON text

`Denotes t value` says what it means for a text to stand for a value: blanks may stand between any
two tokens, a string may be spelled with any escapes, the members of an object are taken as they
come. `DenotesText t value` allows blanks around the value as well.

The reader keeps to the grammar. In front of anything that no number goes on with it takes the text
and leaves the rest (`value?_append`), so a text that denotes a value is read as that value
(`parse?_of_denotes`), and a text that goes on behind an array or an object is refused
(`parse?_append_eq_none`).
-/

namespace TableModel.Json

/-! ### Blanks -/

/-- There are only blanks in the text: spaces, tabs, line feeds and carriage returns, and no other
white space. -/
def IsGap (t : Text) : Prop := ∀ c ∈ t, isGap c = true

theorem IsGap.nil : IsGap [] := fun _ h => absurd h List.not_mem_nil

theorem skipGaps_append {gap : Text} (h : IsGap gap) (rest : Text) :
    skipGaps (gap ++ rest) = skipGaps rest := List.dropWhile_append_of_pos h

theorem skipGaps_cons {c : Char} (h : isGap c = false) (rest : Text) :
    skipGaps (c :: rest) = c :: rest := List.dropWhile_cons_of_neg (Bool.eq_false_iff.mp h)

/-- No number goes on behind blanks if none does behind the character after them. -/
theorem EndsNumber.append {gap : Text} (h : IsGap gap) {rest : Text} (hrest : EndsNumber rest) :
    EndsNumber (gap ++ rest) := by
  cases gap with
  | nil => exact hrest
  | cons c more =>
    have hc : c = ' ' ∨ c = '\n' ∨ c = '\t' ∨ c = '\r' := by
      simpa [isGap, or_assoc] using h c List.mem_cons_self
    refine .cons ?_ _
    rcases hc with rfl | rfl | rfl | rfl <;> decide

/-! ### Values -/

mutual

/-- Whether the text, without blanks around it, stands for the value. This is the grammar of JSON,
with a constructor for each kind of value, and says nothing of how a reader goes about it; a value
is denoted by many texts, which differ in blanks and in the escapes of strings. -/
inductive Denotes : Text → Json → Prop
  | nullWord : Denotes "null".toList .null
  | trueWord : Denotes "true".toList (.bool true)
  | falseWord : Denotes "false".toList (.bool false)
  | number {literal : Text} (h : IsNumber literal) : Denotes literal (.number literal)
  | string {body : Text} {units : List StringUnit} (h : SpellsUnits body units) :
    Denotes ('"' :: (body ++ ['"'])) (.string (textOfUnits units))
  | emptyArray {gap : Text} (h : IsGap gap) : Denotes ('[' :: (gap ++ [']'])) (.array [])
  | array {t : Text} {items : List Json} (h : DenotesItems t items) :
    Denotes ('[' :: (t ++ [']'])) (.array items)
  | emptyObject {gap : Text} (h : IsGap gap) : Denotes ('\x7b' :: (gap ++ ['\x7d'])) (.object [])
  | object {t : Text} {members : List (Option Text × Json)} (h : DenotesMembers t members) :
    Denotes ('\x7b' :: (t ++ ['\x7d'])) (.object members)

/-- Whether the text stands for one or more items with commas between them. -/
inductive DenotesItems : Text → List Json → Prop
  | last {before t after : Text} {item : Json} (hbefore : IsGap before) (ht : Denotes t item)
    (hafter : IsGap after) : DenotesItems (before ++ (t ++ after)) [item]
  | cons {before t after more : Text} {item : Json} {items : List Json} (hbefore : IsGap before)
    (ht : Denotes t item) (hafter : IsGap after) (hmore : DenotesItems more items) :
    DenotesItems (before ++ (t ++ (after ++ ',' :: more))) (item :: items)

/-- Whether the text stands for one or more members with commas between them. -/
inductive DenotesMembers : Text → List (Option Text × Json) → Prop
  | last {before key between gap t after : Text} {units : List StringUnit} {value : Json}
    (hbefore : IsGap before) (hkey : SpellsUnits key units) (hbetween : IsGap between)
    (hgap : IsGap gap) (ht : Denotes t value) (hafter : IsGap after) :
    DenotesMembers (before ++ '"' :: (key ++ '"' :: (between ++ ':' :: (gap ++ (t ++ after)))))
      [(textOfUnits units, value)]
  | cons {before key between gap t after more : Text} {units : List StringUnit} {value : Json}
    {members : List (Option Text × Json)}
    (hbefore : IsGap before) (hkey : SpellsUnits key units) (hbetween : IsGap between)
    (hgap : IsGap gap) (ht : Denotes t value) (hafter : IsGap after)
    (hmore : DenotesMembers more members) :
    DenotesMembers
      (before ++ '"' :: (key ++ '"' :: (between ++ ':' :: (gap ++ (t ++ (after ++ ',' :: more))))))
      ((textOfUnits units, value) :: members)

end

/-- Whether the text stands for the value, with blanks around it. -/
def DenotesText (t : Text) (value : Json) : Prop :=
  ∃ before inner after, IsGap before ∧ Denotes inner value ∧ IsGap after ∧
    t = before ++ (inner ++ after)

/-! ### Reading -/

theorem value?_append_gap {gap : Text} (h : IsGap gap) (steps : Nat) (rest : Text) :
    value? steps (gap ++ rest) = value? steps rest := by
  cases steps with
  | zero => rfl
  | succ steps => rw [value?, value?, skipGaps_append h]

theorem isGap_of_beginsNumber {c : Char} (hc : c = '-' ∨ c.isDigit = true) : isGap c = false := by
  have hne (d : Char) (hd : d.isDigit = false ∧ d ≠ '-') : decide (c = d) = false :=
    decide_eq_false (ne_of_beginsNumber hc hd)
  rw [isGap, hne ' ' (by decide), hne '\n' (by decide), hne '\t' (by decide),
    hne '\r' (by decide)]
  rfl

theorem Denotes.exists_cons {t : Text} {value : Json} (h : Denotes t value) :
    ∃ c rest, t = c :: rest ∧ isGap c = false ∧ c ≠ ']' := by
  cases h with
  | number h =>
    obtain ⟨c, rest, rfl, hc⟩ := h.exists_cons
    exact ⟨c, rest, rfl, isGap_of_beginsNumber hc, ne_of_beginsNumber hc (by decide)⟩
  | _ => exact ⟨_, _, rfl, rfl, by decide⟩

theorem DenotesItems.exists_skipGaps {t : Text} {items : List Json} (h : DenotesItems t items)
    (rest : Text) : ∃ c more, skipGaps (t ++ rest) = c :: more ∧ c ≠ ']' := by
  have hfirst {before u : Text} {item : Json} (hbefore : IsGap before) (hu : Denotes u item)
      (after : Text) : ∃ c more, skipGaps (before ++ (u ++ after)) = c :: more ∧ c ≠ ']' := by
    obtain ⟨c, more, rfl, hgap, hc⟩ := hu.exists_cons
    exact ⟨c, more ++ after, by rw [skipGaps_append hbefore]; exact skipGaps_cons hgap _, hc⟩
  cases h with
  | last hbefore hu hafter =>
    rw [List.append_assoc, List.append_assoc]
    exact hfirst hbefore hu _
  | cons hbefore hu hafter hmore =>
    rw [List.append_assoc, List.append_assoc]
    exact hfirst hbefore hu _

theorem DenotesMembers.exists_skipGaps {t : Text} {members : List (Option Text × Json)}
    (h : DenotesMembers t members) (rest : Text) : ∃ more, skipGaps (t ++ rest) = '"' :: more := by
  cases h with
  | last hbefore => exact ⟨_, by rw [List.append_assoc, skipGaps_append hbefore]; rfl⟩
  | cons hbefore => exact ⟨_, by rw [List.append_assoc, skipGaps_append hbefore]; rfl⟩

theorem key?_append {key between : Text} {units : List StringUnit} (hkey : SpellsUnits key units)
    (hbetween : IsGap between) (rest : Text) :
    key? ('"' :: (key ++ '"' :: (between ++ ':' :: rest))) = some (textOfUnits units, rest) := by
  have hcolon : skipGaps (between ++ ':' :: rest) = ':' :: rest := by
    rw [skipGaps_append hbetween]
    rfl
  simp only [key?, stringUnits_append hkey, hcolon, Option.bind_some, bind]

/-! ### One step of reading a value, by its first character -/

section Step

variable (steps : Nat) {rest : Text}

theorem value?_string (rest : Text) :
    value? (steps + 1) ('"' :: rest) =
      (stringUnits rest).map fun (units, after) => (.string (textOfUnits units), after) := by
  rw [value?, skipGaps_cons (by decide)]
  rfl

theorem value?_emptyArray {after : Text} (h : skipGaps rest = ']' :: after) :
    value? (steps + 1) ('[' :: rest) = some (.array [], after) := by
  rw [value?, skipGaps_cons (by decide)]
  simp only [h]

theorem value?_array (h : (skipGaps rest).head? ≠ some ']') :
    value? (steps + 1) ('[' :: rest) =
      (items? steps rest).map fun (items, after) => (.array items, after) := by
  rw [value?, skipGaps_cons (by decide)]
  simp only
  split
  · next hclose => exact absurd (by rw [hclose]; rfl) h
  · rfl

theorem value?_emptyObject {after : Text} (h : skipGaps rest = '\x7d' :: after) :
    value? (steps + 1) ('\x7b' :: rest) = some (.object [], after) := by
  rw [value?, skipGaps_cons (by decide)]
  simp only [h]

theorem value?_object (h : (skipGaps rest).head? ≠ some '\x7d') :
    value? (steps + 1) ('\x7b' :: rest) =
      (members? steps rest).map fun (members, after) => (.object members, after) := by
  rw [value?, skipGaps_cons (by decide)]
  simp only
  split
  · next hclose => exact absurd (by rw [hclose]; rfl) h
  · rfl

theorem value?_scalar {c : Char} (hgap : isGap c = false)
    (hc : c ≠ '"' ∧ c ≠ '[' ∧ c ≠ '\x7b') (rest : Text) :
    value? (steps + 1) (c :: rest) = scalar? (c :: rest) := by
  rw [value?, skipGaps_cons hgap]
  split
  · next h => exact absurd (List.cons.inj h).1 hc.1
  · next h => exact absurd (List.cons.inj h).1 hc.2.1
  · next h => exact absurd (List.cons.inj h).1 hc.2.2
  · rfl

end Step

/-! ### Reading what the grammar derives -/

/-- What the reader makes of texts up to a length, whatever follows: it reads values, the items of
an array up to the bracket that closes it, and the members of an object up to the brace. The three
readers call one another, so their laws go through one induction on the steps. -/
structure ReadsUpTo (steps : Nat) : Prop where
  value : ∀ {t value rest}, Denotes t value → 2 * t.length ≤ steps →
    (∀ literal, value = .number literal → EndsNumber rest) →
    value? steps (t ++ rest) = some (value, rest)
  items : ∀ {t items rest}, DenotesItems t items → 2 * t.length + 1 ≤ steps →
    items? steps (t ++ ']' :: rest) = some (items, rest)
  members : ∀ {t members rest}, DenotesMembers t members → 2 * t.length + 1 ≤ steps →
    members? steps (t ++ '\x7d' :: rest) = some (members, rest)

variable {steps : Nat}

theorem ReadsUpTo.succ_value (ih : ReadsUpTo steps) {t : Text} {value : Json} {rest : Text}
    (h : Denotes t value) (hlength : 2 * t.length ≤ steps + 1)
    (hends : ∀ literal, value = .number literal → EndsNumber rest) :
    value? (steps + 1) (t ++ rest) = some (value, rest) := by
  -- The text between the first character and the last, and the rest behind it.
  have hshape (c : Char) (body : Text) (close : Char) :
      c :: (body ++ [close]) ++ rest = c :: (body ++ close :: rest) := by simp
  have hbody {c : Char} {body : Text} {close : Char}
      (h : 2 * (c :: (body ++ [close])).length ≤ steps + 1) : 2 * body.length + 1 ≤ steps := by
    simp only [List.length_cons, List.length_append, List.length_nil] at h
    omega
  cases h with
  | nullWord => rfl
  | trueWord => rfl
  | falseWord => rfl
  | number h =>
    have hread := scalar?_append h (hends _ rfl)
    obtain ⟨c, more, rfl, hc⟩ := h.exists_cons
    have hother : c ≠ '"' ∧ c ≠ '[' ∧ c ≠ '\x7b' :=
      ⟨ne_of_beginsNumber hc (by decide), ne_of_beginsNumber hc (by decide),
        ne_of_beginsNumber hc (by decide)⟩
    rw [List.cons_append, value?_scalar _ (isGap_of_beginsNumber hc) hother, ← List.cons_append,
      hread]
  | string h => rw [hshape, value?_string, stringUnits_append h, Option.map_some]
  | emptyArray h =>
    rw [hshape]
    exact value?_emptyArray _ (by rw [skipGaps_append h, skipGaps_cons (by decide)])
  | array h =>
    obtain ⟨c, more, hskip, hc⟩ := h.exists_skipGaps (']' :: rest)
    rw [hshape, value?_array _ (by simpa [hskip] using hc), ih.items h (hbody hlength),
      Option.map_some]
  | emptyObject h =>
    rw [hshape]
    exact value?_emptyObject _ (by rw [skipGaps_append h, skipGaps_cons (by decide)])
  | object h =>
    obtain ⟨more, hskip⟩ := h.exists_skipGaps ('\x7d' :: rest)
    rw [hshape, value?_object _ (by simp [hskip]), ih.members h (hbody hlength), Option.map_some]

/-- A value with blanks around it is read in front of a comma or a closing character. -/
theorem ReadsUpTo.value_append (ih : ReadsUpTo steps) {gap t after : Text} {value : Json}
    (hgap : IsGap gap) (ht : Denotes t value) (hafter : IsGap after)
    (hlength : 2 * t.length ≤ steps) {c : Char} (hc : c = ',' ∨ c = ']' ∨ c = '\x7d')
    (rest : Text) :
    ∃ behind, value? steps (gap ++ (t ++ (after ++ c :: rest))) = some (value, behind) ∧
      skipGaps behind = c :: rest := by
  have hborder : isGap c = false ∧ c.isDigit = false ∧ c ≠ '.' ∧ c ≠ 'e' ∧ c ≠ 'E' := by
    rcases hc with rfl | rfl | rfl <;> decide
  refine ⟨after ++ c :: rest, ?_, by rw [skipGaps_append hafter, skipGaps_cons hborder.1]⟩
  rw [value?_append_gap hgap]
  exact ih.value ht hlength fun _ _ => .append hafter (.cons hborder.2 rest)

theorem ReadsUpTo.succ_items (ih : ReadsUpTo steps) {t : Text} {items : List Json} {rest : Text}
    (h : DenotesItems t items) (hlength : 2 * t.length + 1 ≤ steps + 1) :
    items? (steps + 1) (t ++ ']' :: rest) = some (items, rest) := by
  cases h with
  | last hbefore ht hafter =>
    simp only [List.length_append] at hlength
    obtain ⟨behind, hvalue, hskip⟩ :=
      ih.value_append (c := ']') hbefore ht hafter (by omega) (by decide) rest
    simp only [List.append_assoc, items?, hvalue, hskip, Option.bind_some, bind, pure]
  | @cons _ _ _ more _ items hbefore ht hafter hmore =>
    simp only [List.length_append, List.length_cons] at hlength
    obtain ⟨behind, hvalue, hskip⟩ :=
      ih.value_append (c := ',') hbefore ht hafter (by omega) (by decide) (more ++ ']' :: rest)
    have hitems : items? steps (more ++ ']' :: rest) = some (items, rest) :=
      ih.items hmore (by omega)
    simp only [List.append_assoc, List.cons_append, items?, hvalue, hskip, hitems,
      Option.bind_some, bind, pure]

theorem ReadsUpTo.succ_members (ih : ReadsUpTo steps) {t : Text}
    {members : List (Option Text × Json)} {rest : Text} (h : DenotesMembers t members)
    (hlength : 2 * t.length + 1 ≤ steps + 1) :
    members? (steps + 1) (t ++ '\x7d' :: rest) = some (members, rest) := by
  have hkey {before key between : Text} {units : List StringUnit} (hbefore : IsGap before)
      (hkey : SpellsUnits key units) (hbetween : IsGap between) (behind : Text) :
      key? (skipGaps (before ++ '"' :: (key ++ '"' :: (between ++ ':' :: behind)))) =
        some (textOfUnits units, behind) := by
    rw [skipGaps_append hbefore, skipGaps_cons (by decide), key?_append hkey hbetween]
  cases h with
  | last hbefore hspells hbetween hgap ht hafter =>
    simp only [List.length_append, List.length_cons] at hlength
    obtain ⟨behind, hvalue, hskip⟩ :=
      ih.value_append (c := '\x7d') hgap ht hafter (by omega) (by decide) rest
    simp only [List.append_assoc, List.cons_append, members?, hkey hbefore hspells hbetween, hvalue,
      hskip, Option.bind_some, bind, pure]
  | @cons _ _ _ _ _ _ more _ _ members hbefore hspells hbetween hgap ht hafter hmore =>
    simp only [List.length_append, List.length_cons] at hlength
    obtain ⟨behind, hvalue, hskip⟩ :=
      ih.value_append (c := ',') hgap ht hafter (by omega) (by decide) (more ++ '\x7d' :: rest)
    have hmembers : members? steps (more ++ '\x7d' :: rest) = some (members, rest) :=
      ih.members hmore (by omega)
    simp only [List.append_assoc, List.cons_append, members?, hkey hbefore hspells hbetween, hvalue,
      hskip, hmembers, Option.bind_some, bind, pure]

/-- The reader keeps to the grammar, up to any length. -/
theorem readsUpTo (steps : Nat) : ReadsUpTo steps := by
  induction steps with
  | zero =>
    refine ⟨fun h hlength _ => ?_, fun _ hlength => ?_, fun _ hlength => ?_⟩
    · -- A value is not empty.
      obtain ⟨c, more, rfl, -⟩ := h.exists_cons
      simp at hlength
    · simp at hlength
    · simp at hlength
  | succ steps ih => exact ⟨ih.succ_value, ih.succ_items, ih.succ_members⟩

/-- **A value is read** in front of anything, where a number has to end before it. -/
theorem value?_append {t : Text} {value : Json} (h : Denotes t value) {rest : Text}
    (hends : ∀ literal, value = .number literal → EndsNumber rest) {steps : Nat}
    (hlength : 2 * t.length ≤ steps) : value? steps (t ++ rest) = some (value, rest) :=
  (readsUpTo steps).value h hlength hends

/-- **A text is read as the value it denotes.** With it the order of members, blanks between tokens
and the spelling of strings are settled once for everything that is read from JSON. -/
theorem parse?_of_denotes {t : Text} {value : Json} (h : DenotesText t value) :
    parse? t = some value := by
  obtain ⟨before, inner, after, hbefore, hinner, hafter, rfl⟩ := h
  have hread : value? (2 * (before ++ (inner ++ after)).length + 2) (before ++ (inner ++ after)) =
      some (value, after) := by
    rw [value?_append_gap hbefore]
    refine value?_append hinner (fun _ _ => ?_) (by simp only [List.length_append]; omega)
    rw [← List.append_nil after]
    exact .append hafter .nil
  have hend : skipGaps after = [] := List.dropWhile_eq_nil_iff.mpr hafter
  rw [parse?, hread]
  simp only [hend, List.isEmpty_nil, if_true]

/-- A text that goes on behind an array or an object is refused. -/
theorem parse?_append_eq_none {t : Text} {value : Json} (h : DenotesText t value)
    (hvalue : ∀ literal, value ≠ .number literal) {c : Char} (hc : isGap c = false) (rest : Text) :
    parse? (t ++ c :: rest) = none := by
  obtain ⟨before, inner, after, hbefore, hinner, hafter, rfl⟩ := h
  have hread : value? (2 * (before ++ (inner ++ after) ++ c :: rest).length + 2)
      (before ++ (inner ++ after) ++ c :: rest) = some (value, after ++ c :: rest) := by
    rw [List.append_assoc, List.append_assoc, value?_append_gap hbefore]
    refine value?_append hinner (fun literal heq => absurd heq (hvalue literal)) ?_
    simp only [List.length_append]
    omega
  have hend : skipGaps (after ++ c :: rest) = c :: rest := by
    rw [skipGaps_append hafter, skipGaps_cons hc]
  rw [parse?, hread]
  simp only [hend, List.isEmpty_cons, Bool.false_eq_true, if_false]

end TableModel.Json
