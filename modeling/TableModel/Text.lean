/-!
# Texts

A text is a list of characters, so that every function on texts is by recursion on them. It is cut
into the pieces between the characters of a kind, which gives its words where the kind is that of
blanks, and it has a form in bytes, UTF-8, from which it can be read back.
-/

namespace TableModel

abbrev Text := List Char

instance : Coe String Text := ⟨String.toList⟩

namespace Text

/-- The texts in order, with a separator between neighbours. -/
def join (separator : Text) : List Text → Text
  | [] => []
  | [t] => t
  | t :: rest => t ++ separator ++ join separator rest

@[simp] theorem join_nil (separator : Text) : join separator [] = [] := rfl

@[simp] theorem join_singleton (separator t : Text) : join separator [t] = t := rfl

@[simp] theorem join_cons_cons (separator t u : Text) (rest : List Text) :
    join separator (t :: u :: rest) = t ++ separator ++ join separator (u :: rest) := rfl

/-- Two lists of texts, neither of them empty, are joined with one separator between them. -/
theorem join_append (separator : Text) {ts us : List Text} (hts : ts ≠ []) (hus : us ≠ []) :
    join separator (ts ++ us) = join separator ts ++ separator ++ join separator us := by
  induction ts with
  | nil => exact absurd rfl hts
  | cons t rest ih =>
    cases rest with
    | nil =>
      obtain ⟨u, more, rfl⟩ := List.exists_cons_of_ne_nil hus
      rfl
    | cons next more =>
      rw [List.cons_append, List.cons_append, join_cons_cons, ← List.cons_append,
        ih (List.cons_ne_nil next more), join_cons_cons]
      simp only [List.append_assoc]

/-- The characters of joined texts are those of the texts and the separator. -/
theorem mem_of_mem_join {c : Char} {separator : Text} {ts : List Text}
    (h : c ∈ join separator ts) : c ∈ separator ∨ ∃ t ∈ ts, c ∈ t := by
  induction ts with
  | nil => contradiction
  | cons t rest ih =>
    cases rest with
    | nil => exact .inr ⟨t, List.mem_cons_self, h⟩
    | cons next more =>
      rw [join_cons_cons, List.mem_append, List.mem_append] at h
      rcases h with (ht | hseparator) | hrest
      · exact .inr ⟨t, List.mem_cons_self, ht⟩
      · exact .inl hseparator
      · obtain hseparator | ⟨u, hu, hmem⟩ := ih hrest
        · exact .inl hseparator
        · exact .inr ⟨u, List.mem_cons_of_mem t hu, hmem⟩

/-- What is done to each character of joined texts is done to the texts and the separator. -/
theorem map_join (f : Char → Char) (separator : Text) (ts : List Text) :
    (join separator ts).map f = join (separator.map f) (ts.map (List.map f)) := by
  induction ts with
  | nil => rfl
  | cons t rest ih =>
    cases rest with
    | nil => rfl
    | cons next more =>
      rw [join_cons_cons, List.map_append, List.map_append, ih]
      rfl

def commaList (items : List Text) : Text := join ", ".toList items

/-- The words of a phrase with one space between neighbours; empty words are left out. -/
def phrase (words : List Text) : Text := join [' '] (words.filter (!·.isEmpty))

/-- Whether two texts are equal when ASCII case is ignored. Case beyond ASCII matters. -/
def sameFolded (a b : Text) : Bool := a.map Char.toLower == b.map Char.toLower

/-- Whether the first text comes before the second in the order of code points, which is also the
order of their UTF-8 bytes. -/
def before : Text → Text → Bool
  | [], [] => false
  | [], _ :: _ => true
  | _ :: _, [] => false
  | a :: as, b :: bs => a.toNat < b.toNat || (a == b && before as bs)

def ofNat (n : Nat) : Text := Nat.toDigits 10 n

/-- The number that decimal digits stand for; `none` if there are none or there is anything else
among them. -/
def toNat? (digits : Text) : Option Nat :=
  if digits.isEmpty || !digits.all Char.isDigit then none
  else some (digits.foldl (fun n c => 10 * n + (c.toNat - 48)) 0)

/-! ### Blanks and pieces

A blank is a character with the property White_Space. `trim` cuts blanks off both ends of a text and
`words` gives the maximal pieces without a blank. -/

def isBlank (c : Char) : Bool :=
  (9 ≤ c.toNat && c.toNat ≤ 13) || c.toNat = 0x20 || c.toNat = 0x85 || c.toNat = 0xA0 ||
    c.toNat = 0x1680 || (0x2000 ≤ c.toNat && c.toNat ≤ 0x200A) || c.toNat = 0x2028 ||
    c.toNat = 0x2029 || c.toNat = 0x202F || c.toNat = 0x205F || c.toNat = 0x3000

def trimStart (t : Text) : Text := t.dropWhile isBlank

def trimEnd (t : Text) : Text := (t.reverse.dropWhile isBlank).reverse

/-- A text without the blanks at its ends. -/
def trim (t : Text) : Text := trimEnd (trimStart t)

def consPiece (c : Char) : List Text → List Text
  | [] => [[c]]
  | piece :: rest => (c :: piece) :: rest

/-- The pieces of a text between the characters that satisfy `cut`, empty ones included. -/
def splitAt (cut : Char → Bool) : Text → List Text
  | [] => [[]]
  | c :: rest => if cut c then [] :: splitAt cut rest else consPiece c (splitAt cut rest)

/-- The non-empty pieces of a text between the characters that satisfy `cut`. -/
def pieces (cut : Char → Bool) (t : Text) : List Text := (splitAt cut t).filter (!·.isEmpty)

/-- The words of a text: what stands between blanks. -/
def words (t : Text) : List Text := pieces isBlank t

/-! ### UTF-8

Bytes that are the UTF-8 form of no text stand for none; what stands for a text are the bytes of that
text. -/

def utf8 (t : Text) : ByteArray := (String.ofList t).toUTF8

def ofUtf8? (bytes : ByteArray) : Option Text := bytes.utf8Decode?.map (·.toList)

/-- A text can be read back from its bytes. -/
theorem ofUtf8?_utf8 (t : Text) : ofUtf8? (utf8 t) = some t := by
  have h : utf8 t = t.utf8Encode := by simp [utf8]
  simp [ofUtf8?, h]

end Text

end TableModel
