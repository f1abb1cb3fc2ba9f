import Mathlib.Data.Char
import Mathlib.Data.List.Lex
import Mathlib.Data.List.Nodup
import TableModel.Text

/-!
# The order of texts

`before` is the lexicographic order of texts as lists of characters, and so a strict total order. It is
also the order of their bytes (`bytes_lt_iff`). A list of entries in the order of its keys is
determined by the entries that are in it (`KeysOrdered.eq_of_perm`).
-/

namespace TableModel.Text

/-- Coming before is being smaller in the lexicographic order. -/
theorem before_iff_lt {a b : Text} : before a b = true ↔ a < b := by
  induction a generalizing b with
  | nil => cases b <;> simp [before]
  | cons c as ih =>
    cases b with
    | nil => simp [before]
    | cons d bs =>
      have hchar : c.toNat < d.toNat ↔ c < d := Iff.rfl
      simp only [before, Bool.or_eq_true, decide_eq_true_eq, Bool.and_eq_true, beq_iff_eq, ih,
        List.cons_lt_cons_iff, hchar]

theorem lt_of_not_before {a b : Text} (hne : a ≠ b) (h : ¬ before a b = true) : b < a :=
  (lt_or_gt_of_ne hne).resolve_left (mt before_iff_lt.mpr h)

end TableModel.Text

namespace TableModel

/-! ### Entries in the order of their keys

A list of entries under texts is in the order of its keys if each key is smaller than those behind
it. Such a list has each key once, and the order in which its entries got there has left no trace. -/

variable {α : Type}

/-- The entries are in the order of their keys, each key once. -/
def KeysOrdered (entries : List (Text × α)) : Prop :=
  entries.Pairwise fun entry later => entry.1 < later.1

namespace KeysOrdered

theorem nil : KeysOrdered ([] : List (Text × α)) := List.Pairwise.nil

theorem nodup {entries : List (Text × α)} (h : KeysOrdered entries) :
    (entries.map (·.1)).Nodup := by
  rw [List.Nodup, List.pairwise_map]
  exact h.imp fun hlt => ne_of_lt hlt

/-- Two lists of the same entries are the same if both are in the order of their keys. -/
theorem eq_of_perm {entries entries' : List (Text × α)} (h : KeysOrdered entries)
    (h' : KeysOrdered entries') (hperm : entries.Perm entries') : entries = entries' := by
  refine List.Perm.eq_of_pairwise ?_ h h' hperm
  intro entry other _ _ hlt hgt
  exact absurd hgt (lt_asymm hlt)

/-- A new entry behind which all keys are greater may be put in front. -/
theorem cons {entry : Text × α} {entries : List (Text × α)}
    (hfirst : ∀ key ∈ entries.map (·.1), entry.1 < key) (h : KeysOrdered entries) :
    KeysOrdered (entry :: entries) :=
  List.pairwise_cons.mpr ⟨fun _ hmem => hfirst _ (List.mem_map_of_mem hmem), h⟩

theorem of_cons {entry : Text × α} {entries : List (Text × α)}
    (h : KeysOrdered (entry :: entries)) :
    (∀ key ∈ entries.map (·.1), entry.1 < key) ∧ KeysOrdered entries := by
  obtain ⟨hfirst, hrest⟩ := List.pairwise_cons.mp h
  refine ⟨fun key hmem => ?_, hrest⟩
  obtain ⟨other, hother, rfl⟩ := List.mem_map.mp hmem
  exact hfirst other hother

theorem cons_of_lt {entry first : Text × α} {rest : List (Text × α)} (hlt : entry.1 < first.1)
    (h : KeysOrdered (first :: rest)) : KeysOrdered (entry :: first :: rest) := by
  refine .cons (fun key hmem => ?_) h
  rcases List.mem_cons.mp hmem with rfl | hmem
  · exact hlt
  · exact lt_trans hlt (h.of_cons.1 key hmem)

theorem lt_getLast? {entries : List (Text × α)} (h : KeysOrdered entries) {last : Text × α}
    (hlast : entries.getLast? = some last) {entry : Text × α} (hmem : entry ∈ entries) :
    entry = last ∨ entry.1 < last.1 := by
  obtain ⟨front, rfl⟩ := List.getLast?_eq_some_iff.mp hlast
  rcases List.mem_append.mp hmem with hfront | hend
  · exact .inr ((List.pairwise_append.mp h).2.2 entry hfront last (List.mem_singleton_self last))
  · exact .inl (List.mem_singleton.mp hend)

end KeysOrdered

end TableModel

namespace TableModel.Text

/-! ### Bytes

UTF-8 keeps the order of code points: of two characters, the greater one has the greater bytes, and
they already differ before either ends. So texts are in the order of their bytes exactly if they are
in the order of their characters. -/

/-- The bytes of a text, one character after the other. -/
def bytes (t : Text) : List UInt8 := (utf8 t).data.toList

theorem bytes_eq_flatMap (t : Text) : bytes t = t.flatMap String.utf8EncodeChar := by
  simp [bytes, utf8, List.utf8Encode]

@[simp] theorem bytes_nil : bytes [] = [] := by simp [bytes_eq_flatMap]

@[simp] theorem bytes_cons (c : Char) (t : Text) :
    bytes (c :: t) = String.utf8EncodeChar c ++ bytes t := by
  simp [bytes_eq_flatMap]

/-- The bytes of a greater character are greater, whatever follows on either side. -/
theorem utf8EncodeChar_append_lt {c d : Char} (h : c < d) (x y : List UInt8) :
    String.utf8EncodeChar c ++ x < String.utf8EncodeChar d ++ y := by
  have hlt : c.val.toNat < d.val.toNat := h
  have hvalid : d.val.toNat < 0x110000 := by
    rcases d.valid with hd | ⟨-, hd⟩
    · exact lt_trans hd (by decide)
    · exact hd
  have hdigits : ∀ n : ℕ, n / 4096 = n / 64 / 64 ∧ n / 262144 = n / 64 / 64 / 64 := fun n => by
    simp only [Nat.div_div_eq_div_mul, Nat.reduceMul, and_self]
  -- A character of more bytes has a greater first byte; among those of as many bytes, the bytes are
  -- the digits of the number, behind marks that do not depend on it.
  simp only [String.utf8EncodeChar]
  split_ifs <;>
    simp only [List.cons_append, List.nil_append, List.cons_lt_cons_iff, UInt8.lt_iff_toNat_lt,
      ← UInt8.toNat_inj, UInt8.toNat_ofNat', hdigits] <;>
    omega

theorem utf8EncodeChar_ne_nil (c : Char) : String.utf8EncodeChar c ≠ [] := by
  simp only [String.utf8EncodeChar]
  split_ifs <;> exact List.cons_ne_nil _ _

theorem bytes_lt_bytes {a b : Text} (h : a < b) : bytes a < bytes b := by
  induction a generalizing b with
  | nil =>
    cases b with
    | nil => exact absurd h (lt_irrefl _)
    | cons d bs =>
      obtain ⟨byte, rest, hd⟩ := List.exists_cons_of_ne_nil (utf8EncodeChar_ne_nil d)
      rw [bytes_nil, bytes_cons, hd]
      exact List.nil_lt_cons _ _
  | cons c as ih =>
    cases b with
    | nil => exact absurd h (List.not_lt_nil _)
    | cons d bs =>
      rw [bytes_cons, bytes_cons]
      rcases List.cons_lt_cons_iff.mp h with hchar | ⟨rfl, hrest⟩
      · exact utf8EncodeChar_append_lt hchar _ _
      · exact List.append_left_lt (ih hrest)

/-- The order of texts is that of their bytes. -/
theorem bytes_lt_iff {a b : Text} : bytes a < bytes b ↔ a < b := by
  refine ⟨fun h => ?_, bytes_lt_bytes⟩
  rcases lt_trichotomy a b with hlt | rfl | hgt
  · exact hlt
  · exact absurd h (List.lt_irrefl _)
  · exact absurd h (List.lt_asymm (bytes_lt_bytes hgt))

end TableModel.Text
