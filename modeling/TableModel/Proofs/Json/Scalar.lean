import Mathlib.Data.List.Basic
import TableModel.Json.Parser
import TableModel.Json

/-!
# Numbers and strings in JSON text

The grammar of numbers (`IsNumber`) and of what stands between the quotes of a string
(`SpellsUnits`), said without the reader. The reader takes a number in front of anything that no
number goes on with (`scalar?_append`), and the body of a string in front of its closing quote
(`stringUnits_append`). What is written of a text is a body for that text
(`spellsUnits_flatMap_writeChar`).
-/

namespace TableModel.Json

/-! ### Numbers -/

def IsDigits (t : Text) : Prop := t ≠ [] ∧ ∀ c ∈ t, c.isDigit = true

/-- Whether the text is the whole part of a number: a zero, or digits that do not begin with one. -/
def IsWhole (t : Text) : Prop := t = ['0'] ∨ IsDigits t ∧ t.head? ≠ some '0'

/-- Whether the text is the fraction of a number, which may be missing. -/
def IsFraction (t : Text) : Prop := t = [] ∨ ∃ digits, IsDigits digits ∧ t = '.' :: digits

/-- Whether the text is the exponent of a number, which may be missing. -/
def IsExponent (t : Text) : Prop :=
  t = [] ∨ ∃ e sign digits, (e = 'e' ∨ e = 'E') ∧ (sign = [] ∨ sign = ['+'] ∨ sign = ['-']) ∧
    IsDigits digits ∧ t = e :: (sign ++ digits)

/-- A number as JSON has it: maybe a minus sign, then digits without a zero in front of others,
maybe a fraction and maybe an exponent. -/
def IsNumber (t : Text) : Prop :=
  ∃ sign whole fraction exponent, (sign = [] ∨ sign = ['-']) ∧ IsWhole whole ∧
    IsFraction fraction ∧ IsExponent exponent ∧ t = sign ++ (whole ++ fraction ++ exponent)

/-- Whether no number goes on into the text. -/
def EndsNumber (t : Text) : Prop :=
  ∀ c, t.head? = some c → c.isDigit = false ∧ c ≠ '.' ∧ c ≠ 'e' ∧ c ≠ 'E'

theorem EndsNumber.nil : EndsNumber [] := fun _ h => by cases h

theorem EndsNumber.cons {c : Char} (hc : c.isDigit = false ∧ c ≠ '.' ∧ c ≠ 'e' ∧ c ≠ 'E')
    (t : Text) : EndsNumber (c :: t) := by
  rintro _ ⟨⟩
  exact hc

theorem IsDigits.exists_cons {t : Text} (h : IsDigits t) :
    ∃ c rest, t = c :: rest ∧ c.isDigit = true := by
  obtain ⟨c, rest, rfl⟩ := List.exists_cons_of_ne_nil h.1
  exact ⟨c, rest, rfl, h.2 c List.mem_cons_self⟩

theorem ne_of_isDigit {c d : Char} (hc : c.isDigit = true) (hd : d.isDigit = false) : c ≠ d := by
  rintro rfl
  rw [hc] at hd
  cases hd

theorem digits?_append {t rest : Text} (h : IsDigits t)
    (hrest : ∀ c, rest.head? = some c → c.isDigit = false) :
    digits? (t ++ rest) = some (t, rest) := by
  have hstop : rest.takeWhile Char.isDigit = [] ∧ rest.dropWhile Char.isDigit = rest := by
    cases rest with
    | nil => exact ⟨rfl, rfl⟩
    | cons c more => simp [hrest c rfl]
  have htake : (t ++ rest).takeWhile Char.isDigit = t := by
    rw [List.takeWhile_append_of_pos h.2, hstop.1, List.append_nil]
  have hdrop : (t ++ rest).dropWhile Char.isDigit = rest := by
    rw [List.dropWhile_append_of_pos h.2, hstop.2]
  rw [digits?, htake, hdrop, if_neg (by simpa using h.1)]

theorem wholePart?_append {t rest : Text} (h : IsWhole t)
    (hrest : ∀ c, rest.head? = some c → c.isDigit = false) :
    wholePart? (t ++ rest) = some (t, rest) := by
  rcases h with rfl | ⟨hdigits, hzero⟩
  · rfl
  · obtain ⟨c, more, rfl, -⟩ := hdigits.exists_cons
    have hc : c ≠ '0' := by simpa using hzero
    rw [← digits?_append hdigits hrest, List.cons_append, wholePart?]
    rintro _ ⟨⟩
    exact hc rfl

theorem fraction?_append {t rest : Text} (h : IsFraction t)
    (hrest : ∀ c, rest.head? = some c → c.isDigit = false ∧ c ≠ '.') :
    fraction? (t ++ rest) = some (t, rest) := by
  rcases h with rfl | ⟨digits, hdigits, rfl⟩
  · rw [List.nil_append, fraction?]
    rintro more rfl
    exact (hrest '.' rfl).2 rfl
  · rw [List.cons_append, fraction?, digits?_append hdigits fun c hc => (hrest c hc).1]
    rfl

theorem exponent?_append {t rest : Text} (h : IsExponent t) (hrest : EndsNumber rest) :
    exponent? (t ++ rest) = some (t, rest) := by
  rcases h with rfl | ⟨e, sign, digits, he, hsign, hdigits, rfl⟩
  · cases rest with
    | nil => rfl
    | cons c more =>
      obtain ⟨-, -, hlower, hupper⟩ := hrest c rfl
      have hletter : (decide (c = 'e') || decide (c = 'E')) = false := by simp [hlower, hupper]
      rw [List.nil_append, exponent?.eq_def]
      simp only [hletter, Bool.false_eq_true, if_false]
  · have hread := digits?_append hdigits fun c hc => (hrest c hc).1
    have hletter : (decide (e = 'e') || decide (e = 'E')) = true := by simpa using he
    obtain ⟨d, more, hcons, hd⟩ := hdigits.exists_cons
    have hplus : d ≠ '+' := ne_of_isDigit hd rfl
    have hminus : d ≠ '-' := ne_of_isDigit hd rfl
    rcases hsign with rfl | rfl | rfl
    · rw [hcons, List.cons_append] at hread
      have hsigned : (decide (d = '+') || decide (d = '-')) = false := by simp [hplus, hminus]
      rw [hcons, exponent?.eq_def]
      simp only [List.cons_append, List.nil_append, hletter, if_true, hsigned,
        Bool.false_eq_true, if_false, hread, Option.map_some]
    · rw [exponent?.eq_def]
      simp only [List.cons_append, List.nil_append, hletter, hread]
      rfl
    · rw [exponent?.eq_def]
      simp only [List.cons_append, List.nil_append, hletter, hread]
      rfl

theorem unsigned?_append {whole fraction exponent rest : Text} (hwhole : IsWhole whole)
    (hfraction : IsFraction fraction) (hexponent : IsExponent exponent) (hrest : EndsNumber rest) :
    unsigned? (whole ++ fraction ++ exponent ++ rest) =
      some (whole ++ fraction ++ exponent, rest) := by
  have hafterFraction : ∀ c, (exponent ++ rest).head? = some c → c.isDigit = false ∧ c ≠ '.' := by
    intro c hc
    rcases hexponent with rfl | ⟨e, _, _, rfl | rfl, -, -, rfl⟩
    · exact ⟨(hrest c hc).1, (hrest c hc).2.1⟩
    · cases hc
      decide
    · cases hc
      decide
  have hafterWhole : ∀ c, (fraction ++ (exponent ++ rest)).head? = some c → c.isDigit = false := by
    intro c hc
    rcases hfraction with rfl | ⟨_, -, rfl⟩
    · exact (hafterFraction c hc).1
    · cases hc
      rfl
  simp only [List.append_assoc, unsigned?, wholePart?_append hwhole hafterWhole,
    fraction?_append hfraction hafterFraction, exponent?_append hexponent hrest, Option.bind_some,
    bind, pure]

theorem IsWhole.exists_cons {t : Text} (h : IsWhole t) :
    ∃ c rest, t = c :: rest ∧ c.isDigit = true := by
  rcases h with rfl | ⟨hdigits, -⟩
  · exact ⟨'0', [], rfl, rfl⟩
  · exact hdigits.exists_cons

theorem IsNumber.exists_cons {t : Text} (h : IsNumber t) :
    ∃ c rest, t = c :: rest ∧ (c = '-' ∨ c.isDigit = true) := by
  obtain ⟨sign, whole, _, _, hsign, hwhole, -, -, rfl⟩ := h
  obtain ⟨c, more, rfl, hc⟩ := hwhole.exists_cons
  rcases hsign with rfl | rfl
  · exact ⟨c, _, rfl, .inr hc⟩
  · exact ⟨'-', _, rfl, .inl rfl⟩

theorem ne_of_beginsNumber {c d : Char} (hc : c = '-' ∨ c.isDigit = true)
    (hd : d.isDigit = false ∧ d ≠ '-') : c ≠ d := by
  rcases hc with rfl | hc
  · exact hd.2.symm
  · exact ne_of_isDigit hc hd.1

/-- What begins with a digit is read as a number without a sign. -/
theorem scalar?_cons_of_isDigit {c : Char} (h : c.isDigit = true) (rest : Text) :
    scalar? (c :: rest) =
      (unsigned? (c :: rest)).map fun (literal, after) => (.number literal, after) := by
  have hne (d : Char) (hd : d.isDigit = false) : c ≠ d := ne_of_isDigit h hd
  rw [scalar?]
  · rintro _ ⟨⟩
    exact hne 'n' rfl rfl
  · rintro _ ⟨⟩
    exact hne 't' rfl rfl
  · rintro _ ⟨⟩
    exact hne 'f' rfl rfl
  · rintro _ ⟨⟩
    exact hne '-' rfl rfl

/-- A number is read in front of what ends it. -/
theorem scalar?_append {literal rest : Text} (h : IsNumber literal) (hrest : EndsNumber rest) :
    scalar? (literal ++ rest) = some (.number literal, rest) := by
  obtain ⟨sign, whole, fraction, exponent, hsign, hwhole, hfraction, hexponent, rfl⟩ := h
  have hread := unsigned?_append hwhole hfraction hexponent hrest
  rcases hsign with rfl | rfl
  · obtain ⟨c, more, rfl, hc⟩ := hwhole.exists_cons
    rw [List.nil_append]
    simp only [List.cons_append] at hread ⊢
    rw [scalar?_cons_of_isDigit hc, hread]
    rfl
  · rw [List.append_assoc, List.singleton_append, scalar?, hread]
    rfl

/-! ### Strings -/

/-- What a backslash may stand in front of, with the character that the two stand for. -/
def escapes : List (Char × Char) :=
  [('"', '"'), ('\\', '\\'), ('/', '/'), ('b', Char.ofNat 8), ('f', Char.ofNat 12), ('n', '\n'),
    ('r', '\r'), ('t', '\t')]

/-- Whether the character is the hexadecimal digit of the number, in lower or upper case. -/
def IsHexDigit (c : Char) (n : Nat) : Prop :=
  "0123456789abcdef".toList[n]? = some c ∨ "0123456789ABCDEF".toList[n]? = some c

instance (c : Char) (n : Nat) : Decidable (IsHexDigit c n) := instDecidableOr

/-- What stands between the quotes of a string, with the units that it stands for: characters other
than quotes, backslashes and control characters stand for themselves, and escapes for what they
name. -/
inductive SpellsUnits : Text → List StringUnit → Prop
  | nil : SpellsUnits [] []
  | char {c : Char} {t : Text} {units : List StringUnit} (hcontrol : 0x20 ≤ c.toNat)
    (hquote : c ≠ '"') (hbackslash : c ≠ '\\') (h : SpellsUnits t units) :
    SpellsUnits (c :: t) (.char c :: units)
  | escape {e c : Char} {t : Text} {units : List StringUnit} (he : (e, c) ∈ escapes)
    (h : SpellsUnits t units) : SpellsUnits ('\\' :: e :: t) (.char c :: units)
  | code {a b c d : Char} {i j k l : Nat} {t : Text} {units : List StringUnit}
    (ha : IsHexDigit a i) (hb : IsHexDigit b j) (hc : IsHexDigit c k) (hd : IsHexDigit d l)
    (h : SpellsUnits t units) :
    SpellsUnits ('\\' :: 'u' :: a :: b :: c :: d :: t)
      (unitOf (((i * 16 + j) * 16 + k) * 16 + l) :: units)

theorem hexDigit?_of_isHexDigit {c : Char} {n : Nat} (h : IsHexDigit c n) :
    hexDigit? c = some n := by
  have hlt : n < 16 := by
    rcases h with h | h <;> exact (List.getElem?_eq_some_iff.mp h).1
  have hall : ∀ n < 16, ("0123456789abcdef".toList[n]?.bind hexDigit? = some n) ∧
      "0123456789ABCDEF".toList[n]?.bind hexDigit? = some n := by decide
  obtain ⟨hlower, hupper⟩ := hall n hlt
  rcases h with h | h
  · rwa [h] at hlower
  · rwa [h] at hupper

theorem simpleEscape?_of_mem {e c : Char} (h : (e, c) ∈ escapes) :
    simpleEscape? e = some c ∧ e ≠ 'u' := by
  simp only [escapes, List.mem_cons, Prod.mk.injEq, List.not_mem_nil, or_false] at h
  rcases h with ⟨rfl, rfl⟩ | ⟨rfl, rfl⟩ | ⟨rfl, rfl⟩ | ⟨rfl, rfl⟩ | ⟨rfl, rfl⟩ | ⟨rfl, rfl⟩ |
    ⟨rfl, rfl⟩ | ⟨rfl, rfl⟩ <;> exact ⟨rfl, by decide⟩

theorem stringUnits_cons {c : Char} (hcontrol : 0x20 ≤ c.toNat) (hquote : c ≠ '"')
    (hbackslash : c ≠ '\\') (rest : Text) :
    stringUnits (c :: rest) =
      (stringUnits rest).bind fun (units, after) => some (.char c :: units, after) := by
  have hstands : (decide (c.toNat < 0x20) || decide (c = '\\')) = false := by
    rw [decide_eq_false hbackslash, decide_eq_false (by omega)]
    rfl
  rw [stringUnits]
  · rw [hstands]
    rfl
  · exact hquote
  · exact fun _ _ _ _ _ h _ => hbackslash h
  · exact fun _ _ h _ => hbackslash h

theorem stringUnits_append {t : Text} {units : List StringUnit} (h : SpellsUnits t units)
    (rest : Text) : stringUnits (t ++ '"' :: rest) = some (units, rest) := by
  induction h with
  | nil => rw [List.nil_append, stringUnits]
  | char hcontrol hquote hbackslash h ih =>
    rw [List.cons_append, stringUnits_cons hcontrol hquote hbackslash, ih]
    rfl
  | escape he h ih =>
    obtain ⟨hescape, hcode⟩ := simpleEscape?_of_mem he
    rw [List.cons_append, List.cons_append, stringUnits, hescape, ih]
    · rfl
    · rintro _ _ _ _ _ rfl
      exact fun _ => hcode rfl
  | code ha hb hc hd h ih =>
    simp only [List.cons_append, stringUnits, hexValue?, hexDigit?_of_isHexDigit ha,
      hexDigit?_of_isHexDigit hb, hexDigit?_of_isHexDigit hc, hexDigit?_of_isHexDigit hd, ih,
      Option.bind_some, bind, pure]

theorem SpellsUnits.writeChar {t : Text} {units : List StringUnit} (h : SpellsUnits t units)
    (c : Char) : SpellsUnits (writeChar c ++ t) (.char c :: units) := by
  have hchar (n : Nat) (hn : c.toNat = n) : c = Char.ofNat n := by rw [← hn, Char.ofNat_toNat]
  rw [Json.writeChar]
  split_ifs with hquote hbackslash hfeed hreturn htab hbackspace hform hcontrol
  · subst hquote
    exact .escape (by decide) h
  · subst hbackslash
    exact .escape (by decide) h
  · subst hfeed
    exact .escape (by decide) h
  · subst hreturn
    exact .escape (by decide) h
  · subst htab
    exact .escape (by decide) h
  · exact hchar 8 hbackspace ▸ .escape (by decide) h
  · exact hchar 12 hform ▸ .escape (by decide) h
  · have hdigits : ∀ n < 16, IsHexDigit (hexDigit n) n := by decide
    have hunit : unitOf (((0 * 16 + 0) * 16 + c.toNat / 16) * 16 + c.toNat % 16) = .char c := by
      have hvalue : ((0 * 16 + 0) * 16 + c.toNat / 16) * 16 + c.toNat % 16 = c.toNat := by omega
      have hpair : (decide (0xD800 ≤ c.toNat) && decide (c.toNat ≤ 0xDFFF)) = false := by
        simp only [Bool.and_eq_false_iff, decide_eq_false_iff_not]
        omega
      rw [hvalue, unitOf, hpair, Char.ofNat_toNat]
      rfl
    rw [← hunit]
    exact .code (hdigits 0 (by decide)) (hdigits 0 (by decide)) (hdigits _ (by omega))
      (hdigits _ (by omega)) h
  · exact .char (by omega) hquote hbackslash h

/-- What is written of a text is a body for its characters. -/
theorem spellsUnits_flatMap_writeChar (t : Text) :
    SpellsUnits (t.flatMap writeChar) (t.map .char) := by
  induction t with
  | nil => exact .nil
  | cons c rest ih => exact ih.writeChar c

theorem textOfUnits_map_char (t : Text) : textOfUnits (t.map .char) = some t := by
  induction t with
  | nil => rfl
  | cons c rest ih => rw [List.map_cons, textOfUnits, ih]; rfl

end TableModel.Json
