import Mathlib
import TableModel.Proofs.Catalog.Reachable
import TableModel.Proofs.Schema.TypeArguments

/-!
# Normal names of types

The name of a type is what its written form says without arguments and words on the sign. A name
that says nothing else is normal: no parenthesis opens in it, none of its words is on the sign, and
they have single spaces between them. Every name that is read is normal, and the normal texts are
exactly those that are read as they stand, so reading a name once more changes nothing
(`ofText_eq_self_iff`). This does not need the written form to be well formed: parentheses that
close nothing stay in the name, and what is never closed is left out.

Reading looks at the case of no letter. So written forms that differ in the case of ASCII letters
give names that do so too, one sign and one key of a catalog (`ofText_normalizes`).
-/

namespace TableModel.TypeName

/-! ### Normal names -/

/-- The text says no more than the name of a type: it is what is left when the words of a text are
put in order, with nothing in parentheses, no sign and single spaces. -/
structure IsNormal (t : Text) : Prop where
  noArguments : '(' ∉ t
  noSign : ∀ word ∈ Text.words t, isSignWord word = false
  spaced : Text.join [' '] (Text.words t) = t

theorem parenthesis_notMem_outside {place : Place} (h : place.Sound) (t : Text) :
    '(' ∉ outside place.depth place.quoted t := by
  induction t generalizing place with
  | nil => exact List.not_mem_nil
  | cons c rest ih =>
    have hleaves : '(' ∉ place.leaves c := by
      rw [Place.leaves]
      split_ifs with hopen houtside
      · decide
      · -- Outside of all parentheses nothing is quoted, so this is no opening parenthesis.
        rw [h houtside] at hopen
        simpa [eq_comm] using hopen
      · exact List.not_mem_nil
    rw [outside_cons, List.mem_append, not_or]
    exact ⟨hleaves, ih (h.step c)⟩

/-- The words of the name are those outside parentheses that are not on the sign. -/
theorem words_name_ofText (t : Text) :
    Text.words (ofText t).name = (Text.words (outside 0 false t)).filter (!isSignWord ·) :=
  Text.words_join_space fun _ hword => Text.isUnbroken_of_mem_words (List.mem_filter.mp hword).1

/-- Every name that is read is normal. -/
theorem isNormal_name_ofText (t : Text) : IsNormal (ofText t).name where
  noArguments := by
    intro hmem
    have hstart : Place.start.Sound := fun _ => rfl
    rcases Text.mem_of_mem_join hmem with hspace | ⟨word, hword, hmem⟩
    · exact absurd hspace (by decide)
    · obtain ⟨-, hpiece⟩ := Text.of_mem_pieces (List.mem_filter.mp hword).1
      exact parenthesis_notMem_outside hstart t (hpiece _ hmem).1
  noSign word hword := by
    rw [words_name_ofText, List.mem_filter] at hword
    simpa using hword.2
  spaced := by rw [words_name_ofText, ofText]

/-- A text is read as it stands exactly if it is normal. -/
theorem ofText_eq_self_iff {t : Text} : ofText t = ⟨t, false⟩ ↔ IsNormal t := by
  constructor
  · intro h
    have hnormal := isNormal_name_ofText t
    rwa [h] at hnormal
  · intro h
    have hkept : (Text.words t).filter (!isSignWord ·) = Text.words t :=
      List.filter_eq_self.mpr fun word hword => by rw [h.noSign word hword]; rfl
    have hunsigned : (Text.words t).any isUnsignedWord = false :=
      List.any_eq_false.mpr fun word hword => by
        simp [isUnsignedWord_eq_false (h.noSign word hword)]
    rw [ofText, outside_eq_self h.noArguments, hkept, hunsigned, h.spaced]

/-! ### Case -/

theorem toLower_eq_mark_iff (c : Char) :
    (c.toLower = '\'' ↔ c = '\'') ∧ (c.toLower = '(' ↔ c = '(') ∧ (c.toLower = ')' ↔ c = ')') :=
  ⟨toLower_eq_iff_of_not_isAlpha rfl c, toLower_eq_iff_of_not_isAlpha rfl c,
    toLower_eq_iff_of_not_isAlpha rfl c⟩

theorem Place.step_toLower (place : Place) (c : Char) : place.step c.toLower = place.step c := by
  obtain ⟨hquote, hopen, hclose⟩ := toLower_eq_mark_iff c
  simp only [Place.step, hquote, hopen, hclose]

theorem Place.leaves_toLower (place : Place) (c : Char) :
    place.leaves c.toLower = (place.leaves c).map Char.toLower := by
  simp only [Place.leaves, (toLower_eq_mark_iff c).2.1]
  split_ifs <;> rfl

theorem outside_map_toLower (place : Place) (t : Text) :
    outside place.depth place.quoted (t.map Char.toLower) =
      (outside place.depth place.quoted t).map Char.toLower := by
  induction t generalizing place with
  | nil => rfl
  | cons c rest ih =>
    rw [List.map_cons, outside_cons, outside_cons, List.map_append, place.leaves_toLower,
      place.step_toLower, ih]

theorem sameFolded_map_toLower (t u : Text) :
    Text.sameFolded (t.map Char.toLower) u = Text.sameFolded t u := by
  simp [Text.sameFolded, Function.comp_def]

/-- What a text in lower case gives is what the text gives, in lower case, since whether a character
is a quote or a parenthesis, and whether a word is `UNSIGNED`, is the same of either. -/
theorem ofText_map_toLower (t : Text) :
    ofText (t.map Char.toLower) = ⟨(ofText t).name.map Char.toLower, (ofText t).isUnsigned⟩ := by
  have hwords : Text.words (outside 0 false (t.map Char.toLower)) =
      (Text.words (outside 0 false t)).map (List.map Char.toLower) := by
    rw [← Text.words_map Unicode.isBlank_toLower]
    exact congrArg Text.words (outside_map_toLower .start t)
  have hunsigned : isUnsignedWord ∘ List.map Char.toLower = isUnsignedWord :=
    funext fun word => sameFolded_map_toLower word _
  have hsign : (!isSignWord ·) ∘ List.map Char.toLower = (!isSignWord ·) :=
    funext fun word => by simp [isSignWord, isUnsignedWord, sameFolded_map_toLower]
  rw [ofText, hwords, List.filter_map, List.any_map, hsign, hunsigned, ofText, Text.map_join]
  rfl

/-- **A name that has been read is normal**, whatever the written form was: it is read as it stands
and as not unsigned, it has no opening parenthesis and no word on the sign, and its blanks stand
alone between words. Written forms that differ in the case of ASCII letters only agree on the sign,
give names that differ in nothing else either, and are looked up by one key. -/
theorem ofText_normalizes (t : Text) :
    ofText (ofText t).name = ⟨(ofText t).name, false⟩ ∧
    '(' ∉ (ofText t).name ∧
    (∀ word ∈ Text.words (ofText t).name, ∀ sign ∈ ["UNSIGNED", "SIGNED", "ZEROFILL"],
      Text.sameFolded word sign.toList = false) ∧
    Text.SinglySpaced (ofText t).name ∧
    ∀ u, Text.sameFolded t u = true →
      (ofText u).isUnsigned = (ofText t).isUnsigned ∧
      Text.sameFolded (ofText t).name (ofText u).name = true ∧
      Catalog.columnKey (ofText u).name (ofText u).isUnsigned =
        Catalog.columnKey (ofText t).name (ofText t).isUnsigned := by
  have hnormal := isNormal_name_ofText t
  refine ⟨ofText_eq_self_iff.mpr hnormal, hnormal.noArguments, fun word hword => ?_, ?_,
    fun u hu => ?_⟩
  · have hsign := hnormal.noSign word hword
    simpa [isSignWord, isUnsignedWord, and_assoc] using hsign
  · rw [← hnormal.spaced]
    exact Text.singlySpaced_join_space fun _ hword => Text.isUnbroken_of_mem_words hword
  · have hboth : ofText (u.map Char.toLower) = ofText (t.map Char.toLower) := by
      rw [eq_of_beq hu]
    rw [ofText_map_toLower, ofText_map_toLower, mk.injEq] at hboth
    obtain ⟨hname, hunsigned⟩ := hboth
    have hkey : Catalog.normalKey (ofText u).name = Catalog.normalKey (ofText t).name := by
      rw [← Catalog.normalKey_map_toLower, hname, Catalog.normalKey_map_toLower]
    refine ⟨hunsigned, beq_iff_eq.mpr hname.symm, ?_⟩
    rw [hunsigned, Catalog.columnKey, Catalog.columnKey, hkey]

/-- A parenthesis that closes nothing, arguments and a quote that are never closed, and words on the
sign, in two spellings. -/
theorem ofText_normalizes_unclosed :
    let written := "int(10)) UnSigned\t Zerofill big ('".toList
    let other := "INT(10)) unsigned\t zeroFILL Big ('".toList
    let name := "int ) big".toList
    ofText written = ⟨name, true⟩ ∧ ofText name = ⟨name, false⟩ ∧
      ("big".toList ∈ Text.words name ∧ Text.sameFolded "big".toList "ZEROFILL".toList = false) ∧
      Text.sameFolded written other = true ∧ (ofText other).isUnsigned = true ∧
      Catalog.columnKey (ofText other).name (ofText other).isUnsigned =
        "int ) big unsigned".toList := by
  intro written other name
  have hread : ofText written = ⟨name, true⟩ := by decide
  have hfolded : Text.sameFolded written other = true := by decide
  have hword : "big".toList ∈ Text.words name := by decide
  obtain ⟨hself, -, hsign, -, hcase⟩ := ofText_normalizes written
  rw [hread] at hself hsign hcase
  obtain ⟨hunsigned, -, hkey⟩ := hcase other hfolded
  refine ⟨hread, hself, ⟨hword, hsign _ hword "ZEROFILL" (by decide)⟩, hfolded, hunsigned, ?_⟩
  rw [hkey]
  decide +kernel

end TableModel.TypeName
