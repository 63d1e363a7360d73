import LineMacro.Keyed
import LineMacro.Macro
import LineMacro.Text.Order
/-!
# The table of macros

The macros in force, in the order in which their names were first defined. A
new definition of a name takes the place of the old one. Some names may be
predeclared: they are never replaced, whatever is defined under them, so a
look-up does not find them although the table lists them.
-/

namespace LineMacro

/-- The macros in force and the names that are never replaced. -/
@[ext] structure Table where
  entries : List Macro := []
  predeclared : List Text := []
deriving DecidableEq, Repr

namespace Table

/-- The macro last defined under a name, predeclared or not. -/
def find? (t : Table) (name : Text) : Option Macro := Keyed.find? Macro.name name t.entries

/-- Whether a name is predeclared. -/
def isPredeclared (t : Table) (name : Text) : Bool := t.predeclared.contains name

/-- The macro that a word of the text stands for, if it stands for one. -/
def lookup (t : Table) (name : Text) : Option Macro :=
  if t.isPredeclared name then none else t.find? name

/-- What a word means to a text: the macro it stands for, wherever that was
defined. -/
def meaning (t : Table) (name : Text) : Option Macro := (t.lookup name).map Macro.unnumbered

/-- The table without the numbers of the lines on which its macros were
defined. -/
def unnumbered (t : Table) : Table := { t with entries := t.entries.map Macro.unnumbered }

/-- Installs a macro under its name, in place of the one defined before. -/
def define (t : Table) (m : Macro) : Table :=
  { t with entries := Keyed.put Macro.name m t.entries }

/-- Installs macros one after another. -/
def defineAll (t : Table) (ms : List Macro) : Table := ms.foldl define t

/-- Installs a macro, and gives back the one whose place it takes. -/
def install (t : Table) (m : Macro) : Option Macro × Table := (t.find? m.name, t.define m)

/-- Installs macros one after another, with what each of them gives back. -/
def installAll (t : Table) : List Macro → List (Option Macro) × Table
  | [] => ([], t)
  | m :: ms =>
    let (previous, next) := t.install m
    let (rest, last) := next.installAll ms
    (previous :: rest, last)

/-- The predeclared names in order, each once. -/
def predeclaredNames (t : Table) : List Text := Text.sortDistinct t.predeclared

theorem isPredeclared_iff {t : Table} {name : Text} :
    t.isPredeclared name = true ↔ name ∈ t.predeclared := by
  simp [isPredeclared]

/-- **What a definition changes.** Its own name, and no other. -/
theorem find?_define (t : Table) (m : Macro) (name : Text) :
    (t.define m).find? name = if m.name = name then some m else t.find? name :=
  Keyed.find?_put m name t.entries

theorem lookup_define (t : Table) (m : Macro) (name : Text) :
    (t.define m).lookup name =
      if t.isPredeclared name then none
      else if m.name = name then some m else t.lookup name := by
  have h : (t.define m).isPredeclared name = t.isPredeclared name := rfl
  rw [lookup, lookup, h, find?_define]
  cases t.isPredeclared name <;> rfl

/-- Other names are looked up as before. -/
theorem lookup_define_of_ne (t : Table) {m : Macro} {name : Text} (h : m.name ≠ name) :
    (t.define m).lookup name = t.lookup name := by
  rw [lookup_define, if_neg h, lookup]
  cases t.isPredeclared name <;> rfl

theorem meaning_define (t : Table) (m : Macro) (name : Text) :
    (t.define m).meaning name =
      if t.isPredeclared name then none
      else if m.name = name then some m.unnumbered else t.meaning name := by
  rw [meaning, lookup_define, meaning]
  split
  · rfl
  · split <;> rfl

theorem meaning_of_not_isPredeclared {t : Table} {name : Text}
    (h : t.isPredeclared name = false) :
    t.meaning name = (t.find? name).map Macro.unnumbered := by
  rw [meaning, lookup, h]
  rfl

/-! Installing one after another is putting one after another, so of the macros
of a name the last counts. -/

@[simp] theorem defineAll_predeclared (t : Table) (ms : List Macro) :
    (t.defineAll ms).predeclared = t.predeclared := by
  induction ms generalizing t with
  | nil => rfl
  | cons m ms ih => exact ih (t.define m)

theorem defineAll_append (t : Table) (ms ms' : List Macro) :
    t.defineAll (ms ++ ms') = (t.defineAll ms).defineAll ms' :=
  List.foldl_append

theorem defineAll_entries (t : Table) (ms : List Macro) :
    (t.defineAll ms).entries = ms.foldl (fun l m => Keyed.put Macro.name m l) t.entries := by
  induction ms generalizing t with
  | nil => rfl
  | cons m ms ih => exact ih (t.define m)

theorem find?_unnumbered (t : Table) (name : Text) :
    t.unnumbered.find? name = (t.find? name).map Macro.unnumbered := by
  rw [find?, Keyed.find?, unnumbered, List.find?_map]
  rfl

/-- Numbers can be left out before macros are installed or after it. -/
theorem unnumbered_defineAll (t : Table) (ms : List Macro) :
    (t.defineAll ms).unnumbered = t.unnumbered.defineAll (ms.map Macro.unnumbered) := by
  have hname : ∀ m : Macro, m.unnumbered.name = m.name := fun _ => rfl
  refine Table.ext ?_ ?_
  · rw [unnumbered, defineAll_entries, defineAll_entries, Keyed.map_foldl_put hname]
    rfl
  · rw [unnumbered, defineAll_predeclared, defineAll_predeclared]
    rfl

theorem nodup_defineAll {t : Table} (h : (t.entries.map Macro.name).Nodup) (ms : List Macro) :
    ((t.defineAll ms).entries.map Macro.name).Nodup := by
  rw [defineAll_entries]
  exact Keyed.nodup_foldl_put ms h

theorem mem_defineAll {t : Table} {ms : List Macro} {m : Macro}
    (h : m ∈ (t.defineAll ms).entries) : m ∈ t.entries ∨ m ∈ ms := by
  rw [defineAll_entries] at h
  exact Keyed.mem_foldl_put h

theorem find?_defineAll (t : Table) (ms : List Macro) (name : Text) :
    (t.defineAll ms).find? name = (Keyed.last? Macro.name name ms).or (t.find? name) := by
  rw [find?, defineAll_entries, Keyed.find?_foldl_put]
  rfl

theorem find?_defineAll_empty (predeclared : List Text) (ms : List Macro) (name : Text) :
    (({ predeclared } : Table).defineAll ms).find? name = Keyed.last? Macro.name name ms := by
  have hnone : ({ predeclared } : Table).find? name = none := rfl
  rw [find?_defineAll, hnone, Option.or_none]

theorem nodup_defineAll_empty (predeclared : List Text) (ms : List Macro) :
    ((({ predeclared } : Table).defineAll ms).entries.map Macro.name).Nodup := by
  have hnil : (({ predeclared } : Table).entries.map Macro.name).Nodup := List.nodup_nil
  exact nodup_defineAll hnil ms

/-- A table that had no macros holds the last of each name. -/
theorem mem_defineAll_empty_iff {predeclared : List Text} {ms : List Macro} {m : Macro} :
    m ∈ (({ predeclared } : Table).defineAll ms).entries ↔
      Keyed.last? Macro.name m.name ms = some m := by
  rw [← find?_defineAll_empty predeclared]
  exact ⟨Keyed.find?_of_mem (nodup_defineAll_empty predeclared ms), List.mem_of_find?_eq_some⟩

/-- The names are listed in the order of their first definitions. -/
theorem names_defineAll (predeclared : List Text) (ms : List Macro) :
    (({ predeclared } : Table).defineAll ms).entries.map Macro.name =
      (ms.map Macro.name).eraseDups := by
  have hnil : (([] : List Macro).map Macro.name).Nodup := List.nodup_nil
  rw [defineAll_entries]
  exact Keyed.map_key_foldl_put ms hnil

/-! What is given back on the way does not change where it leads. -/

theorem installAll_snd (t : Table) (ms : List Macro) : (t.installAll ms).2 = t.defineAll ms := by
  induction ms generalizing t with
  | nil => rfl
  | cons m ms ih => exact ih (t.define m)

theorem length_installAll (t : Table) (ms : List Macro) :
    (t.installAll ms).1.length = ms.length := by
  induction ms generalizing t with
  | nil => rfl
  | cons m ms ih => exact congrArg (· + 1) (ih (t.define m))

/-- Each macro gives back what the ones before it left under its name. -/
theorem getElem?_installAll (t : Table) (earlier : List Macro) (m : Macro) (later : List Macro) :
    (t.installAll (earlier ++ m :: later)).1[earlier.length]? =
      some ((t.defineAll earlier).find? m.name) := by
  induction earlier generalizing t with
  | nil => rfl
  | cons d earlier ih => exact ih (t.define d)

/-! A look-up finds what is defined under a name, unless the name is predeclared. -/

theorem lookup_eq_some_iff {t : Table} {name : Text} {m : Macro} :
    t.lookup name = some m ↔ name ∉ t.predeclared ∧ t.find? name = some m := by
  rw [lookup, ← isPredeclared_iff]
  cases t.isPredeclared name <;> simp

theorem lookup_eq_none_iff {t : Table} {name : Text} :
    t.lookup name = none ↔ name ∈ t.predeclared ∨ t.find? name = none := by
  rw [lookup, ← isPredeclared_iff]
  cases t.isPredeclared name <;> simp

/-- A name is looked up to a macro of that name. -/
theorem name_of_lookup {t : Table} {name : Text} {m : Macro} (h : t.lookup name = some m) :
    m.name = name := by
  simpa using List.find?_some (lookup_eq_some_iff.1 h).2

theorem mem_of_lookup {t : Table} {name : Text} {m : Macro} (h : t.lookup name = some m) :
    m ∈ t.entries :=
  List.mem_of_find?_eq_some (lookup_eq_some_iff.1 h).2

end Table

end LineMacro
