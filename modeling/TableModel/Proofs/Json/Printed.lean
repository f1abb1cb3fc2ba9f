import TableModel.Json
import TableModel.Proofs.Json.Grammar

/-!
# Printed JSON text

`Printable` are the values that have a text of their own: their numbers are numbers of the grammar,
and their strings and keys stand for texts. The text that is printed of such a value denotes it, at
any depth (`Printable.denotes_write`). So the printed text is read as the value again
(`Printable.parse?_pretty`), and two values with the same text are one
(`Printable.pretty_injective`).
-/

namespace TableModel.Json

/-- Whether the numbers of the value are numbers, and its strings and keys texts. -/
inductive Printable : Json → Prop
  | null : Printable .null
  | bool (b : Bool) : Printable (.bool b)
  | number {literal : Text} (h : IsNumber literal) : Printable (.number literal)
  | text (t : Text) : Printable (.string (some t))
  | array {items : List Json} (h : ∀ item ∈ items, Printable item) : Printable (.array items)
  | object {members : List (Text × Json)} (h : ∀ member ∈ members, Printable member.2) :
    Printable (.object (members.map fun member => (some member.1, member.2)))

theorem Printable.ofOption (text : Option Text) : Printable (ofOption text) := by
  cases text
  · exact .null
  · exact .text _

theorem Printable.ofMembers {members : List (String × Json)}
    (h : ∀ member ∈ members, Printable member.2) : Printable (ofMembers members) := by
  have hmembers : ∀ member ∈ members.map fun member => (member.1.toList, member.2),
      Printable member.2 := by
    intro member hmember
    obtain ⟨named, hnamed, rfl⟩ := List.mem_map.mp hmember
    exact h named hnamed
  have hobject := Printable.object hmembers
  rwa [List.map_map] at hobject

theorem Printable.map {α : Type} {f : α → Json} (h : ∀ a, Printable (f a)) (as : List α) :
    Printable (.array (as.map f)) := by
  refine .array fun item hitem => ?_
  obtain ⟨a, -, rfl⟩ := List.mem_map.mp hitem
  exact h a

/-! ### Texts and lines -/

theorem denotes_writeString (t : Text) : Denotes (writeString t) (.string (some t)) := by
  have h := Denotes.string (spellsUnits_flatMap_writeChar t)
  rwa [textOfUnits_map_char] at h

theorem isGap_newLine (depth : Nat) : IsGap (newLine depth) := by
  intro c hc
  rcases List.mem_cons.mp hc with rfl | hc
  · rfl
  · rw [List.eq_of_mem_replicate hc]
    rfl

/-! ### Items and members -/

variable {depth : Nat} {after : Text}

theorem denotesItems_write (hafter : IsGap after) {item : Json} {items : List Json}
    (h : ∀ i ∈ item :: items, Denotes (write depth i) i) :
    DenotesItems (newLine depth ++ (write depth item ++ (writeItems depth items ++ after)))
      (item :: items) := by
  induction items generalizing item with
  | nil => exact .last (isGap_newLine depth) (h item List.mem_cons_self) hafter
  | cons next items ih =>
    have hmore := ih fun i hi => h i (List.mem_cons_of_mem _ hi)
    have hcons := DenotesItems.cons (isGap_newLine depth) (h item List.mem_cons_self) .nil hmore
    simpa only [writeItems, List.cons_append, List.nil_append, List.append_assoc] using hcons

theorem denotesMembers_write (hafter : IsGap after) {key : Text} {value : Json}
    {members : List (Text × Json)}
    (h : ∀ member ∈ (key, value) :: members, Denotes (write depth member.2) member.2) :
    DenotesMembers
      (newLine depth ++ (writeString key ++ (": ".toList ++ (write depth value ++
        (writeMembers depth (members.map fun member => (some member.1, member.2)) ++ after)))))
      (((key, value) :: members).map fun member => (some member.1, member.2)) := by
  have hspace : IsGap [' '] := by simp [IsGap, isGap]
  induction members generalizing key value with
  | nil =>
    have hlast := DenotesMembers.last (isGap_newLine depth) (spellsUnits_flatMap_writeChar key) .nil
      hspace (h _ List.mem_cons_self) hafter
    rw [textOfUnits_map_char] at hlast
    simpa [writeMembers, writeString] using hlast
  | cons next members ih =>
    have hmore := ih fun member hmember => h member (List.mem_cons_of_mem _ hmember)
    have hcons := DenotesMembers.cons (isGap_newLine depth) (spellsUnits_flatMap_writeChar key) .nil
      hspace (h _ List.mem_cons_self) .nil hmore
    rw [textOfUnits_map_char] at hcons
    simpa [writeMembers, writeString] using hcons

/-! ### Values -/

/-- **What is printed denotes the value**, however deep it stands. -/
theorem Printable.denotes_write {value : Json} (h : Printable value) (depth : Nat) :
    Denotes (write depth value) value := by
  induction h generalizing depth with
  | null => exact .nullWord
  | bool b =>
    cases b
    · exact .falseWord
    · exact .trueWord
  | number h => exact .number h
  | text t => exact denotes_writeString t
  | @array items h ih =>
    cases items with
    | nil => exact .emptyArray .nil
    | cons item items =>
      have hitems := denotesItems_write (isGap_newLine depth) fun i hi => ih i hi (depth + 1)
      have hwrite : write depth (.array (item :: items)) =
          '[' :: newLine (depth + 1) ++ write (depth + 1) item ++ writeItems (depth + 1) items ++
            newLine depth ++ [']'] := rfl
      rw [hwrite]
      simpa using Denotes.array hitems
  | @object members h ih =>
    cases members with
    | nil => exact .emptyObject .nil
    | cons member members =>
      have hmembers := denotesMembers_write (isGap_newLine depth)
        fun member hmember => ih member hmember (depth + 1)
      have hwrite : write depth
          (.object ((member :: members).map fun member => (some member.1, member.2))) =
            '\x7b' :: newLine (depth + 1) ++ writeString member.1 ++ ": ".toList ++
              write (depth + 1) member.2 ++ writeMembers (depth + 1)
                (members.map fun member => (some member.1, member.2)) ++ newLine depth ++
              ['\x7d'] := rfl
      rw [hwrite]
      simpa using Denotes.object hmembers

theorem Printable.denotesText_pretty {value : Json} (h : Printable value) :
    DenotesText (pretty value) value :=
  ⟨[], pretty value, [], .nil, h.denotes_write 0, .nil, (List.append_nil _).symm⟩

/-- **What is printed is read as the value again.** -/
theorem Printable.parse?_pretty {value : Json} (h : Printable value) :
    parse? (pretty value) = some value :=
  parse?_of_denotes h.denotesText_pretty

/-- Two values with the same text are one. -/
theorem Printable.pretty_injective {value other : Json} (h : Printable value)
    (hother : Printable other) (heq : pretty value = pretty other) : value = other := by
  have hparse := h.parse?_pretty
  rw [heq, hother.parse?_pretty] at hparse
  exact (Option.some.inj hparse).symm

end TableModel.Json
