import Mathlib.Data.List.Induction
import TableModel.CommandLine.Request

/-!
# What arguments choose

The choices are made while the arguments are read one by one. What comes of it can be said without
that: each choice is what the arguments say last about it (`Choices.ofItems`). For a flag with a
value and for the file to read this is the only thing they say, as neither may be repeated; of the
flags about functions it is the rightmost one. Only the template and the settings file may come from
the environment, and only if no flag names them (`ofArguments?_eq_generate`).
-/

namespace TableModel

namespace Argument

def input? : Argument → Option Text
  | .input path => some path
  | _ => none

/-- What a single argument gives for a flag that takes a value. The flag may be there with another
one, or not at all. -/
def value? (flag : ValuedFlag) : Argument → Option Text
  | .valued given value => if given = flag then some value else none
  | _ => none

def withCruds? : Argument → Option Bool
  | .switch .withCruds => some true
  | .switch .withoutCruds => some false
  | _ => none

/-- The last thing that arguments say about something, where `say?` gives what one argument says
about it, if it says anything. -/
def last? {α : Type} (say? : Argument → Option α) (items : List Argument) : Option α :=
  (items.filterMap say?).getLast?

theorem last?_append_singleton {α : Type} (say? : Argument → Option α) (front : List Argument)
    (item : Argument) : last? say? (front ++ [item]) = (say? item).or (last? say? front) := by
  rw [last?, List.filterMap_append, List.getLast?_append]
  cases h : say? item <;> simp [h, last?]

end Argument

namespace Choices

open Argument

/-- What arguments say last about each of the choices. -/
def ofItems (items : List Argument) : Choices where
  input := last? input? items
  output := last? (value? .output) items
  tagTemplate := last? (value? .tagTemplate) items
  withCruds := last? withCruds? items
  format := (last? (value? .format) items).bind Format.ofName?
  settingsFile := last? (value? .settingsFile) items
  logFilter := last? (value? .logFilter) items

/-- The choices with what one more argument says, if it may follow. -/
def add? (choices : Choices) : Argument → Option Choices
  | .input path => choices.setInput? path
  | .valued flag value => choices.set? value flag
  | .switch .withCruds => choices.setCruds? true
  | .switch .withoutCruds => choices.setCruds? false
  | .switch .version | .switch .help | .malformed => none

variable {choices next : Choices} {environment : Environment}

theorem eq_of_once {α : Type} {before after : Option α} {value : α}
    (h : once before value = some after) : after = some value := by
  cases before with
  | none => exact (Option.some.inj h).symm
  | some _ => contradiction

theorem eq_of_path? {before after : Option Text} {path : Text}
    (h : path? before path = some after) : after = some path := by
  rw [path?] at h
  split_ifs at h
  exact eq_of_once h

theorem eq_of_setCruds? {withCruds : Bool} (h : choices.setCruds? withCruds = some next) :
    next = { choices with withCruds := some withCruds } := by
  rw [setCruds?] at h
  split_ifs at h
  exact (Option.some.inj h).symm

/-- One more argument changes what it is about, and nothing else. A choice that was made before is
not made again, so the last thing said is the only one. -/
theorem add?_ofItems {front : List Argument} {item : Argument}
    (h : (ofItems front).add? item = some next) : next = ofItems (front ++ [item]) := by
  simp only [ofItems, last?_append_singleton]
  cases item with
  | input path =>
    obtain ⟨input, hinput, hnext⟩ := Option.bind_eq_some_iff.mp h
    obtain rfl := eq_of_path? hinput
    exact (Option.some.inj hnext).symm
  | valued flag value =>
    cases flag with
    | output =>
      obtain ⟨output, houtput, hnext⟩ := Option.bind_eq_some_iff.mp h
      obtain rfl := eq_of_path? houtput
      exact (Option.some.inj hnext).symm
    | tagTemplate =>
      obtain ⟨template, htemplate, hnext⟩ := Option.bind_eq_some_iff.mp h
      obtain rfl := eq_of_once htemplate
      exact (Option.some.inj hnext).symm
    | format =>
      obtain ⟨format, hname, h⟩ := Option.bind_eq_some_iff.mp h
      obtain ⟨chosen, hchosen, hnext⟩ := Option.bind_eq_some_iff.mp h
      obtain rfl := eq_of_once hchosen
      obtain rfl := Option.some.inj hnext
      simp only [value?, if_true, Option.some_or, Option.bind_some, hname]
      rfl
    | settingsFile =>
      obtain ⟨file, hfile, hnext⟩ := Option.bind_eq_some_iff.mp h
      obtain rfl := eq_of_path? hfile
      exact (Option.some.inj hnext).symm
    | logFilter =>
      obtain ⟨filter, hfilter, hnext⟩ := Option.bind_eq_some_iff.mp h
      obtain rfl := eq_of_once hfilter
      exact (Option.some.inj hnext).symm
  | switch flag =>
    cases flag with
    | withCruds => exact eq_of_setCruds? h
    | withoutCruds => exact eq_of_setCruds? h
    | help => contradiction
    | version => contradiction
  | malformed => contradiction

/-- Choices that are made argument by argument are what the arguments say last. -/
theorem eq_ofItems_of_foldlM {items : List Argument} (h : items.foldlM add? empty = some choices) :
    choices = ofItems items := by
  -- By induction from the end: the last argument meets the choices that those before it made.
  induction items using List.reverseRecOn generalizing choices with
  | nil => exact (Option.some.inj h).symm
  | append_singleton front item ih =>
    rw [List.foldlM_append] at h
    obtain ⟨before, hfront, hitem⟩ := Option.bind_eq_some_iff.mp h
    rw [List.foldlM_cons] at hitem
    obtain ⟨after, hafter, hdone⟩ := Option.bind_eq_some_iff.mp hitem
    obtain rfl := Option.some.inj hdone
    obtain rfl := ih hfront
    exact add?_ofItems hafter

def completedBy (choices : Choices) (environment : Environment) : Choices :=
  { choices with
    tagTemplate := choices.tagTemplate <|> environment.tagTemplate
    settingsFile := choices.settingsFile <|> environment.settingsFile }

theorem eq_of_orElse? {result : Choices} (h : choices.orElse? environment = some result) :
    result = choices.completedBy environment := by
  rw [orElse?] at h
  split_ifs at h
  exact (Option.some.inj h).symm

end Choices

namespace Request

variable {environment : Environment} {choices result : Choices}

/-- Arguments that ask for a model say one thing after another about it, and nothing else. -/
theorem foldlM_of_ofItems? {items : List Argument}
    (h : ofItems? environment choices items = some (.generate result)) :
    ∃ made, items.foldlM Choices.add? choices = some made ∧
      made.orElse? environment = some result := by
  induction items generalizing choices with
  | nil =>
    obtain ⟨made, hmade, hrequest⟩ := Option.map_eq_some_iff.mp h
    obtain rfl := generate.inj hrequest
    exact ⟨choices, rfl, hmade⟩
  | cons item rest ih =>
    have hadd : ∃ next, choices.add? item = some next ∧
        ofItems? environment next rest = some (.generate result) := by
      cases item with
      | switch flag =>
        cases flag with
        | withCruds => exact Option.bind_eq_some_iff.mp h
        | withoutCruds => exact Option.bind_eq_some_iff.mp h
        -- Either of these makes it another request, whatever follows.
        | help => simp [ofItems?] at h
        | version => simp [ofItems?] at h
      | malformed => simp [ofItems?] at h
      | input path => exact Option.bind_eq_some_iff.mp h
      | valued flag value => exact Option.bind_eq_some_iff.mp h
    obtain ⟨next, hnext, hrest⟩ := hadd
    obtain ⟨made, hmade, hresult⟩ := ih hrest
    refine ⟨made, ?_, hresult⟩
    rw [List.foldlM_cons, hnext]
    exact hmade

/-- **What arguments choose** that ask for a model: of everything what they say last, and the
environment's template and settings file if no argument names one. -/
theorem ofArguments?_eq_generate {arguments : List Text}
    (h : ofArguments? arguments environment = some (.generate choices)) :
    choices = (Choices.ofItems (Argument.items none arguments)).completedBy environment := by
  obtain ⟨made, hmade, hresult⟩ := foldlM_of_ofItems? h
  rw [Choices.eq_of_orElse? hresult, Choices.eq_ofItems_of_foldlM hmade]

end Request

end TableModel
