import LineMacro.Table
import Mathlib.Data.List.Basic
import Mathlib.Data.List.Induction
/-!
# Tables — what they hold of the macros installed

Macros are installed in a table one after another. It holds one macro of each name,
the last, in the place that the first of them took (`Holds`, `holds_defineAll`). One
more macro comes last if its name is new; else it stands where the macro of its name
stood, and that one is given back (`Installs`, `installs_iff`). It is the last of its
name among those that came before (`find?_defineAll_eq_some_iff`). Which names are
predeclared makes no difference to any of this. Only a look-up minds: it does not find
them.
-/

namespace LineMacro

/-- Of the macros, this is the last one of the name. -/
inductive LastNamed (name : Text) : List Macro → Macro → Prop
  | mk {above below : List Macro} {m : Macro} :
      m.name = name → (∀ d ∈ below, d.name ≠ name) → LastNamed name (above ++ m :: below) m

namespace Table

/-- What a table gives back for a macro, and the table with the macro in it. All other
macros stay as they are and where they are. -/
inductive Installs (m : Macro) : Table → Option Macro → Table → Prop
  /-- No macro has the name: nothing is given back, and the new one comes last. -/
  | last {entries : List Macro} {predeclared : List Text} :
      (∀ d ∈ entries, d.name ≠ m.name) →
      Installs m { entries, predeclared } none { entries := entries ++ [m], predeclared }
  /-- The macro of the name is given back, and the new one stands in its place. -/
  | inPlace {above below : List Macro} {old : Macro} {predeclared : List Text} :
      old.name = m.name → (∀ d ∈ above, d.name ≠ m.name) →
      Installs m { entries := above ++ old :: below, predeclared } (some old)
        { entries := above ++ m :: below, predeclared }

/-- The table holds what was installed: of each name the last macro, in the place of
the first. -/
structure Holds (t : Table) (ms : List Macro) : Prop where
  /-- No name is listed twice. -/
  nodup : (t.entries.map Macro.name).Nodup
  /-- The names are those of the macros. -/
  mem_names_iff : ∀ name, name ∈ t.entries.map Macro.name ↔ name ∈ ms.map Macro.name
  /-- They are listed as they first came. -/
  ordered : (t.entries.map Macro.name).Pairwise fun name name' =>
    (ms.map Macro.name).idxOf name < (ms.map Macro.name).idxOf name'
  /-- Each has the last macro of it. -/
  mem_entries_iff : ∀ m, m ∈ t.entries ↔ LastNamed m.name ms m

end Table

variable {predeclared : List Text} {ms : List Macro} {m : Macro} {name : Text}

/-! ## First and last -/

theorem last?_eq_some_iff_lastNamed :
    Keyed.last? Macro.name name ms = some m ↔ LastNamed name ms m := by
  rw [Keyed.last?_eq_some_iff]
  constructor
  · rintro ⟨hname, above, below, rfl, hbelow⟩
    exact .mk hname hbelow
  · rintro ⟨hname, hbelow⟩
    exact ⟨hname, _, _, rfl, hbelow⟩

/-- A name that has just come stands behind those that were there. -/
theorem idxOf_lt_idxOf_append {names : List Text} {last : Text} (hname : name ∈ names)
    (hlast : last ∉ names) : (names ++ [last]).idxOf name < (names ++ [last]).idxOf last := by
  rw [List.idxOf_append_of_mem hname, List.idxOf_append_of_notMem hlast, List.idxOf_cons_self]
  exact List.idxOf_lt_length_of_mem hname

/-- Names that are left without their repetitions stand as they first came. -/
theorem pairwise_idxOf_eraseDups (names : List Text) :
    names.eraseDups.Pairwise fun name name' => names.idxOf name < names.idxOf name' := by
  induction names using List.reverseRecOn with
  | nil => exact .nil
  | append_singleton names last ih =>
    -- one more name moves none of those before it
    have hnames : names.eraseDups.Pairwise fun name name' =>
        (names ++ [last]).idxOf name < (names ++ [last]).idxOf name' := by
      refine ih.imp_of_mem fun hname hname' hlt => ?_
      rw [List.mem_eraseDups] at hname hname'
      rwa [List.idxOf_append_of_mem hname, List.idxOf_append_of_mem hname']
    rw [List.eraseDups_append]
    by_cases hlast : last ∈ names
    · have hnone : [last].removeAll names = [] := by simp [List.removeAll, hlast]
      rw [hnone, List.eraseDups_nil, List.append_nil]
      exact hnames
    · have hone : ([last].removeAll names).eraseDups = [last] := by
        simp [List.removeAll, hlast, List.eraseDups_cons]
      rw [hone, List.pairwise_append]
      refine ⟨hnames, List.pairwise_singleton _ _, fun name hname name' hname' => ?_⟩
      obtain rfl := List.mem_singleton.1 hname'
      exact idxOf_lt_idxOf_append (List.mem_eraseDups.1 hname) hlast

namespace Table

/-! ## One macro -/

theorem installs_install (t : Table) (m : Macro) :
    Installs m t (t.install m).1 (t.install m).2 := by
  obtain ⟨entries, predeclared⟩ := t
  rw [install, define, find?, Keyed.find?]
  cases hfind : entries.find? fun d => d.name = m.name with
  | none =>
    have hnew : ∀ d ∈ entries, d.name ≠ m.name := by simpa using hfind
    rw [Keyed.put_of_not_mem (by simpa using hnew)]
    exact .last hnew
  | some old =>
    obtain ⟨hname, above, below, rfl, habove⟩ := List.find?_eq_some_iff_append.1 hfind
    have hold : old.name = m.name := by simpa using hname
    have hfirst : ∀ d ∈ above, d.name ≠ m.name := by simpa using habove
    rw [Keyed.put_append_cons hold hfirst]
    exact .inPlace hold hfirst

theorem Installs.install_eq {t t' : Table} {previous : Option Macro}
    (h : Installs m t previous t') : t.install m = (previous, t') := by
  cases h with
  | @last entries predeclared hnew =>
    have hnone : entries.find? (fun d => d.name = m.name) = none := by simpa using hnew
    rw [install, define, find?, Keyed.find?, hnone, Keyed.put_of_not_mem (by simpa using hnew)]
  | @inPlace above below old predeclared hold hfirst =>
    have hsome : (above ++ old :: below).find? (fun d => d.name = m.name) = some old := by
      rw [List.find?_eq_some_iff_append]
      exact ⟨by simpa using hold, above, below, rfl, by simpa using hfirst⟩
    rw [install, define, find?, Keyed.find?, hsome, Keyed.put_append_cons hold hfirst]

/-- **Installing a macro** is this, in every table. -/
theorem installs_iff {t t' : Table} {previous : Option Macro} :
    Installs m t previous t' ↔ t.install m = (previous, t') := by
  refine ⟨Installs.install_eq, fun h => ?_⟩
  have hstep := installs_install t m
  rwa [h] at hstep

/-! ## All of them -/

/-- **What a table holds** of the macros installed in it. -/
theorem holds_defineAll (predeclared : List Text) (ms : List Macro) :
    (({ predeclared } : Table).defineAll ms).Holds ms := by
  refine ⟨nodup_defineAll_empty predeclared ms, fun name => ?_, ?_, fun m => ?_⟩
  · rw [names_defineAll, List.mem_eraseDups]
  · rw [names_defineAll]
    exact pairwise_idxOf_eraseDups (ms.map Macro.name)
  · rw [mem_defineAll_empty_iff, last?_eq_some_iff_lastNamed]

/-! ## What is found -/

theorem find?_defineAll_eq_some_iff :
    (({ predeclared } : Table).defineAll ms).find? name = some m ↔ LastNamed name ms m := by
  rw [find?_defineAll_empty, last?_eq_some_iff_lastNamed]

theorem find?_defineAll_eq_none_iff :
    (({ predeclared } : Table).defineAll ms).find? name = none ↔ ∀ m ∈ ms, m.name ≠ name := by
  rw [find?_defineAll_empty, Keyed.last?_eq_none_iff_forall]

theorem isSome_find?_defineAll :
    ((({ predeclared } : Table).defineAll ms).find? name).isSome = true ↔
      ∃ m ∈ ms, m.name = name := by
  rw [← Option.ne_none_iff_isSome, Ne, find?_defineAll_eq_none_iff]
  simp

theorem lookup_defineAll_eq_some_iff :
    (({ predeclared } : Table).defineAll ms).lookup name = some m ↔
      name ∉ predeclared ∧ LastNamed name ms m := by
  rw [lookup_eq_some_iff, defineAll_predeclared, find?_defineAll_eq_some_iff]

theorem lookup_defineAll_eq_none_iff :
    (({ predeclared } : Table).defineAll ms).lookup name = none ↔
      name ∈ predeclared ∨ ∀ m ∈ ms, m.name ≠ name := by
  rw [lookup_eq_none_iff, defineAll_predeclared, find?_defineAll_eq_none_iff]

/-- **First places, last macros.** Macros are installed one after another in a table
that had none. Of each name it then holds the last macro, in the place that the first
one took. Each macro gave back the last one of its name before it and took its place,
or came last if there was none; nothing else changed. A look-up finds the last macro
of a name, unless the name is predeclared; whether the table has one does not depend
on that. -/
theorem installAll_of_history (predeclared : List Text) (ms : List Macro) :
    let after := fun macros => (({ predeclared } : Table).installAll macros).2
    let given := (({ predeclared } : Table).installAll ms).1
    (after ms).Holds ms ∧
      given.length = ms.length ∧
      (∀ earlier m later, ms = earlier ++ m :: later →
        ∃ previous, given[earlier.length]? = some previous ∧
          (∀ old, previous = some old ↔ LastNamed m.name earlier old) ∧
          (previous = none ↔ ∀ d ∈ earlier, d.name ≠ m.name) ∧
          Installs m (after earlier) previous (after (earlier ++ [m]))) ∧
      ∀ name,
        (((after ms).find? name).isSome = true ↔ ∃ m ∈ ms, m.name = name) ∧
        ((after ms).lookup name = none ↔ name ∈ predeclared ∨ ∀ m ∈ ms, m.name ≠ name) ∧
        ∀ m, (after ms).lookup name = some m ↔ name ∉ predeclared ∧ LastNamed name ms m := by
  intro after given
  have hafter : ∀ ms, after ms = ({ predeclared } : Table).defineAll ms := installAll_snd _
  refine ⟨?_, length_installAll _ ms, ?_, fun name => ?_⟩
  · rw [hafter]
    exact holds_defineAll predeclared ms
  · rintro earlier m later rfl
    refine ⟨_, getElem?_installAll _ earlier m later, fun old => find?_defineAll_eq_some_iff,
      find?_defineAll_eq_none_iff, ?_⟩
    rw [hafter, hafter, defineAll_append]
    exact installs_iff.2 rfl
  · rw [hafter]
    exact ⟨isSome_find?_defineAll, lookup_defineAll_eq_none_iff,
      fun m => lookup_defineAll_eq_some_iff⟩

/-- The first name is installed once more, without its parameter and behind two others,
one of which is predeclared. -/
theorem installAll_of_history_overwritten :
    let f : Macro := { name := ['f'], parameters := [['x']], body := "<x>".toList, line := 1 }
    let p : Macro := { name := ['p'], line := 2 }
    let k : Macro := { name := ['k'], body := ['p'], line := 3 }
    let g : Macro := { name := ['f'], body := ['k'], line := 4 }
    let t : Table := { predeclared := [['p']] }
    t.installAll [f, p, k, g] =
        ([none, none, none, some f], { entries := [g, p, k], predeclared := [['p']] }) ∧
      Holds { entries := [g, p, k], predeclared := [['p']] } [f, p, k, g] ∧
        [f, p, k, g] = [f, p, k] ++ g :: [] ∧ LastNamed ['f'] [f, p, k] f ∧
          Installs g { entries := [f, p, k], predeclared := [['p']] } (some f)
            { entries := [g, p, k], predeclared := [['p']] } ∧
          (t.installAll [f, p, k, g]).2.lookup ['p'] = none ∧
            (t.installAll [f, p, k, g]).2.lookup ['f'] = some g := by
  intro f p k g t
  obtain ⟨hholds, -, hgiven, hfound⟩ := installAll_of_history [['p']] [f, p, k, g]
  obtain ⟨previous, hprevious, hlast, -, hinstalls⟩ := hgiven [f, p, k] g [] rfl
  obtain rfl : some f = previous := Option.some.inj hprevious
  refine ⟨rfl, hholds, rfl, (hlast f).1 rfl, hinstalls, ?_, ?_⟩
  · exact (hfound ['p']).2.1.2 (Or.inl (by decide))
  · exact ((hfound ['f']).2.2 g).2 ⟨by decide, @LastNamed.mk ['f'] [f, p, k] [] g rfl (by simp)⟩

end Table

end LineMacro
