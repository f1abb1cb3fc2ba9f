import Mathlib.Data.List.Basic
import Mathlib.Data.Nat.Basic
import TableModel.Proofs.Unicode.AsciiCase
import TableModel.Proofs.Unicode.CodeSet
import TableModel.Text
import TableModel.Unicode.Lowercase
import TableModel.Unicode.Uppercase

/-!
# What case mappings give

A case mapping changes some characters and leaves the others alone. What it gives is never a
character that it changes, so applying it once more makes no difference
(`lowerChar_of_mem_lowerImages`, `upperChar_of_mem_upperChar`), nor is it ever a blank. For the
mappings beyond ASCII this is read off their tables, and the tables are compared as sets of code
points.
-/

namespace TableModel.Unicode

/-! ### Runs -/

namespace CaseRun

def size (run : CaseRun) : Nat := (run.last - run.first) / run.step + 1

def points (run : CaseRun) : List Nat := List.range' run.first run.size run.step

def images (run : CaseRun) : List Nat := List.range' run.target run.size run.step

theorem mem_of_image? {run : CaseRun} {n m : Nat} (h : run.image? n = some m) :
    n ∈ run.points ∧ m ∈ run.images := by
  rw [image?] at h
  split at h
  · next hholds =>
    simp only [Bool.and_eq_true, Nat.ble_eq, beq_iff_eq] at hholds
    obtain ⟨⟨hfirst, hlast⟩, hmod⟩ := hholds
    obtain rfl := Option.some.inj h
    have hsteps : run.step * ((n - run.first) / run.step) = n - run.first :=
      Nat.mul_div_cancel' (Nat.dvd_of_mod_eq_zero hmod)
    have hlt : (n - run.first) / run.step < run.size :=
      Nat.lt_succ_of_le (Nat.div_le_div_right (by omega))
    refine ⟨List.mem_range'.mpr ⟨_, hlt, ?_⟩, List.mem_range'.mpr ⟨_, hlt, ?_⟩⟩
    · rw [hsteps]
      omega
    · rw [hsteps]
  · contradiction

theorem map_eq_self {runs : List CaseRun} {c : Char} (h : c.toNat ∉ runs.flatMap points) :
    map runs c = c := by
  have hnone : (runs.findSome? fun run => run.image? c.toNat) = none := by
    refine List.findSome?_eq_none_iff.mpr fun run hrun => ?_
    cases himage : run.image? c.toNat with
    | none => rfl
    | some m => exact absurd (List.mem_flatMap.mpr ⟨run, hrun, (mem_of_image? himage).1⟩) h
  rw [map, hnone]

/-- A character is left alone or becomes an image of a run. -/
theorem map_eq_self_or (runs : List CaseRun) (c : Char) :
    map runs c = c ∨ ∃ n ∈ runs.flatMap images, map runs c = Char.ofNat n := by
  cases hfound : runs.findSome? fun run => run.image? c.toNat with
  | none => exact .inl (by rw [map, hfound])
  | some n =>
    obtain ⟨run, hrun, himage⟩ := List.exists_of_findSome?_eq_some hfound
    refine .inr ⟨n, List.mem_flatMap.mpr ⟨run, hrun, (mem_of_image? himage).2⟩, ?_⟩
    rw [map, hfound]

end CaseRun

/-- The number of a character that is given by its number. -/
theorem toNat_ofNat_of_isValidChar {n : Nat} (h : n.isValidChar) : (Char.ofNat n).toNat = n := by
  rw [Char.ofNat, dif_pos h]
  rfl

/-! ### Tables as sets -/

def loweredPoints : List Nat :=
  List.range' 65 26 ++ 0x130 :: lowercaseRuns.flatMap CaseRun.points

def lowerImages : List Nat :=
  List.range' 97 26 ++ 0x307 :: 0x3C2 :: lowercaseRuns.flatMap CaseRun.images

def upperedPoints : List Nat :=
  List.range' 97 26 ++
    (uppercaseExpansions.map (·.1) ++ uppercaseRuns.flatMap CaseRun.points)

def upperImages : List Nat :=
  List.range' 65 26 ++
    (uppercaseExpansions.flatMap (·.2) ++ uppercaseRuns.flatMap CaseRun.images)

def blankPoints : List Nat :=
  List.range' 9 5 ++ [0x20, 0x85, 0xA0, 0x1680] ++ List.range' 0x2000 11 ++
    [0x2028, 0x2029, 0x202F, 0x205F, 0x3000]

theorem mem_blankPoints {c : Char} (h : Text.isBlank c = true) : c.toNat ∈ blankPoints := by
  simp only [Text.isBlank, Bool.or_eq_true, Bool.and_eq_true, decide_eq_true_eq] at h
  simp only [blankPoints, List.mem_append, List.mem_range'_1, List.mem_cons, List.not_mem_nil,
    or_false]
  omega

/-- The comparison of the tables: no image is changed or a blank, and every image is a character. -/
theorem caseTables_compared :
    (bits lowerImages &&& bits (loweredPoints ++ blankPoints) = 0 ∧
      bits upperImages &&& bits (upperedPoints ++ blankPoints) = 0) ∧
    ((lowerImages ++ upperImages).all fun n => decide n.isValidChar) = true := by
  decide +kernel

theorem disjoint_lowerImages :
    lowerImages.Disjoint loweredPoints ∧ lowerImages.Disjoint blankPoints :=
  List.disjoint_append_right.mp (disjoint_of_bits caseTables_compared.1.1)

theorem disjoint_upperImages :
    upperImages.Disjoint upperedPoints ∧ upperImages.Disjoint blankPoints :=
  List.disjoint_append_right.mp (disjoint_of_bits caseTables_compared.1.2)

theorem isValidChar_of_mem_images {n : Nat} (h : n ∈ lowerImages ++ upperImages) :
    n.isValidChar := by
  simpa using List.all_eq_true.mp caseTables_compared.2 n h

/-! ### Lower case -/

theorem lowerChar_eq_self {c : Char} (h : c.toNat ∉ loweredPoints) : lowerChar c = [c] := by
  rw [loweredPoints, List.mem_append, List.mem_range'_1, List.mem_cons, not_or, not_or] at h
  obtain ⟨hascii, hdot, hruns⟩ := h
  by_cases hlt : c.toNat < 128
  · have hlower : c.toLower = c := (toLower_eq_self_or c).resolve_right (by omega)
    rw [lowerChar_of_lt hlt, hlower]
  · rw [lowerChar, if_neg hlt, if_neg hdot, CaseRun.map_eq_self hruns]

/-- A character is left alone, or becomes characters that are images. -/
theorem lowerChar_eq_self_or (c : Char) :
    lowerChar c = [c] ∨ ∀ d ∈ lowerChar c, d.toNat ∈ lowerImages := by
  by_cases hlt : c.toNat < 128
  · rw [lowerChar_of_lt hlt]
    rcases toLower_eq_self_or c with hself | ⟨hupper, hlower⟩
    · exact .inl (by rw [hself])
    · refine .inr fun d hd => ?_
      rw [List.mem_singleton.mp hd, hlower]
      exact List.mem_append_left _ (List.mem_range'_1.mpr (by omega))
  by_cases hdot : c.toNat = 0x130
  · refine .inr fun d hd => ?_
    rw [lowerChar, if_neg hlt, if_pos hdot] at hd
    rcases List.mem_pair.mp hd with rfl | rfl
    · exact List.mem_append_left _ (List.mem_range'_1.mpr (by decide))
    · exact List.mem_append_right _ List.mem_cons_self
  · rw [lowerChar, if_neg hlt, if_neg hdot]
    rcases CaseRun.map_eq_self_or lowercaseRuns c with hself | ⟨n, hn, himage⟩
    · exact .inl (by rw [hself])
    · have hmem : n ∈ lowerImages :=
        List.mem_append_right _ (List.mem_cons_of_mem _ (List.mem_cons_of_mem _ hn))
      refine .inr fun d hd => ?_
      rw [List.mem_singleton.mp hd, himage,
        toNat_ofNat_of_isValidChar (isValidChar_of_mem_images (List.mem_append_left _ hmem))]
      exact hmem

theorem lowerChar_of_mem_lowerImages {c : Char} (h : c.toNat ∈ lowerImages) : lowerChar c = [c] :=
  lowerChar_eq_self (disjoint_lowerImages.1 h)

/-! ### Upper case -/

theorem upperChar_eq_self {c : Char} (h : c.toNat ∉ upperedPoints) : upperChar c = [c] := by
  rw [upperedPoints, List.mem_append, List.mem_range'_1, List.mem_append, not_or, not_or] at h
  obtain ⟨hascii, hexpansions, hruns⟩ := h
  by_cases hlt : c.toNat < 128
  · have hupper : c.toUpper = c := (toUpper_eq_self_or c).resolve_right (by omega)
    rw [upperChar_of_lt hlt, hupper]
  · have hnone : (uppercaseExpansions.find? fun entry => entry.1 == c.toNat) = none := by
      refine List.find?_eq_none.mpr fun entry hentry heq => hexpansions ?_
      exact List.mem_map.mpr ⟨entry, hentry, eq_of_beq heq⟩
    rw [upperChar, if_neg hlt, hnone]
    exact congrArg (fun d => [d]) (CaseRun.map_eq_self hruns)

def capitalPoints : List Nat := List.range' 65 26 ++ uppercaseRuns.flatMap CaseRun.images

/-- A character is expanded, or becomes one character: itself or a capital. -/
theorem upperChar_cases (c : Char) :
    (∃ entry ∈ uppercaseExpansions, entry.1 = c.toNat ∧ (upperChar c).map Char.toNat = entry.2) ∨
      c.toNat ∉ uppercaseExpansions.map (·.1) ∧
        ∃ d, upperChar c = [d] ∧ (d = c ∨ d.toNat ∈ capitalPoints) := by
  by_cases hlt : c.toNat < 128
  · have hbeyond : ∀ n ∈ uppercaseExpansions.map (·.1), 128 ≤ n := by decide
    refine .inr ⟨fun hmem => absurd (hbeyond _ hmem) (by omega), c.toUpper, upperChar_of_lt hlt, ?_⟩
    rcases toUpper_eq_self_or c with hself | ⟨hlower, hupper⟩
    · exact .inl hself
    · refine .inr (List.mem_append_left _ ?_)
      rw [hupper, List.mem_range'_1]
      omega
  have hvalid : ∀ n ∈ upperImages, (Char.ofNat n).toNat = n := fun n hn =>
    toNat_ofNat_of_isValidChar (isValidChar_of_mem_images (List.mem_append_right _ hn))
  rw [upperChar, if_neg hlt]
  cases hfound : uppercaseExpansions.find? fun entry => entry.1 == c.toNat with
  | some entry =>
    have hentry := List.mem_of_find?_eq_some hfound
    have hpoint := List.find?_some hfound
    refine .inl ⟨entry, hentry, eq_of_beq hpoint, ?_⟩
    have hself : ∀ n ∈ entry.2, (Char.ofNat n).toNat = n := fun n hn =>
      hvalid n (List.mem_append_right _ (List.mem_append_left _
        (List.mem_flatMap.mpr ⟨entry, hentry, hn⟩)))
    rw [List.map_map]
    exact (List.map_congr_left hself).trans (List.map_id _)
  | none =>
    have hnone : c.toNat ∉ uppercaseExpansions.map (·.1) := by
      rintro hmem
      obtain ⟨entry, hentry, hpoint⟩ := List.mem_map.mp hmem
      exact absurd (beq_iff_eq.mpr hpoint) (List.find?_eq_none.mp hfound entry hentry)
    refine .inr ⟨hnone, _, rfl, ?_⟩
    rcases CaseRun.map_eq_self_or uppercaseRuns c with hself | ⟨n, hn, himage⟩
    · exact .inl hself
    · refine .inr (List.mem_append_right _ ?_)
      rwa [himage, hvalid n (List.mem_append_right _ (List.mem_append_right _ hn))]

/-- A character is left alone, or becomes characters that are images. -/
theorem upperChar_eq_self_or (c : Char) :
    upperChar c = [c] ∨ ∀ d ∈ upperChar c, d.toNat ∈ upperImages := by
  rcases upperChar_cases c with ⟨entry, hentry, -, hexpansion⟩ | ⟨-, d, hsingle, rfl | hd⟩
  · refine .inr fun d hd => List.mem_append_right _ (List.mem_append_left _ ?_)
    exact List.mem_flatMap.mpr ⟨entry, hentry, hexpansion ▸ List.mem_map_of_mem hd⟩
  · exact .inl hsingle
  · refine .inr fun e he => ?_
    rw [hsingle, List.mem_singleton] at he
    rw [he]
    exact (List.mem_append.mp hd).elim (List.mem_append_left _) fun hrun =>
      List.mem_append_right _ (List.mem_append_right _ hrun)

/-- What a character becomes in upper case is left alone. No image is mapped any further, which the
lists of code points show by having no code point in common. -/
theorem upperChar_of_mem_upperChar {c d : Char} (h : d ∈ upperChar c) : upperChar d = [d] := by
  rcases upperChar_eq_self_or c with hself | himages
  · rw [hself, List.mem_singleton] at h
    rw [h, hself]
  · exact upperChar_eq_self (disjoint_upperImages.1 (himages d h))

/-- Putting a text in upper case once more changes nothing. -/
@[simp] theorem toUpper_toUpper (text : List Char) : toUpper (toUpper text) = toUpper text := by
  have hself : ∀ {t : List Char}, (∀ d ∈ t, upperChar d = [d]) → toUpper t = t := by
    intro t h
    induction t with
    | nil => rfl
    | cons d rest ih =>
      rw [toUpper_cons, h d List.mem_cons_self, ih fun e he => h e (List.mem_cons_of_mem d he)]
      rfl
  refine hself fun d hd => ?_
  obtain ⟨c, -, hmem⟩ := List.mem_flatMap.mp hd
  exact upperChar_of_mem_upperChar hmem

end TableModel.Unicode
