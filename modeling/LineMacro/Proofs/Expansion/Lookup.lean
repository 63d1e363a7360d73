import LineMacro.Proofs.Expansion.Words
/-!
# Expansion — only look-ups matter

The expander knows a table by what the words of its text mean in it, and by
nothing else (`expandInside_of_words`). Tables that relate the macros of those
words read the text into the same items (`Reads.exists_related`), and every word
that is looked up later, in an argument or further on, is a word of the text
already. So the order in which names were defined and whatever is hidden under a
predeclared name are never seen, nor are names that the text does not hold as
whole words.
-/

namespace LineMacro

/-- The macros differ at most in the lines of their definitions. -/
def Macro.SameUse (m m' : Macro) : Prop := m.unnumbered = m'.unnumbered

namespace Macro

variable {m m' : Macro}

theorem SameUse.name_eq (h : m.SameUse m') : m.name = m'.name :=
  congrArg (fun m => m.name) h

theorem SameUse.parameters_eq (h : m.SameUse m') : m.parameters = m'.parameters :=
  congrArg (fun m => m.parameters) h

theorem SameUse.body_eq (h : m.SameUse m') : m.body = m'.body :=
  congrArg (fun m => m.body) h

theorem SameUse.substitute_eq (h : m.SameUse m') (args : List Text) :
    m.substitute args = m'.substitute args :=
  congrArg (fun m => m.substitute args) h

end Macro

namespace Table

variable {tbl tbl' : Table} {depth : Int} {texts : List Text} {text w : Text} {item : Item}
variable {m : Macro} {o : Option Macro} {R : Macro → Macro → Prop}

/-! ## Reading under two tables -/

/-- The items differ in their macros at most, and these are related. -/
inductive Item.Related (R : Macro → Macro → Prop) : Item → Item → Prop
  | plain {copied rest : Text} : Related R (.plain copied rest) (.plain copied rest)
  | constant {m m' : Macro} {rest : Text} :
      R m m' → Related R (.constant m rest) (.constant m' rest)
  | call {m m' : Macro} {inner rest : Text} :
      R m m' → Related R (.call m inner rest) (.call m' inner rest)
  | unclosed {m m' : Macro} : R m m' → Related R (.unclosed m) (.unclosed m')

theorem eq_none_of_rel (h : Option.Rel R (tbl.lookup w) o) (hm : tbl.lookup w = none) :
    o = none := by
  rw [hm] at h
  cases h
  rfl

theorem exists_of_rel (h : Option.Rel R (tbl.lookup w) o) (hm : tbl.lookup w = some m) :
    ∃ m', o = some m' ∧ R m m' := by
  rw [hm] at h
  cases h with
  | some hrel => exact ⟨_, rfl, hrel⟩

/-- **Reading goes by the words of the text.** Where each of them stands for
related macros, the same item is read, with related macros in it. -/
theorem Reads.exists_related (hr : Reads tbl text item)
    (hkind : ∀ m m', R m m' → (m.parameters = [] ↔ m'.parameters = []))
    (h : ∀ w, WordOf text w → Option.Rel R (tbl.lookup w) (tbl'.lookup w)) :
    ∃ item', Reads tbl' text item' ∧ item.Related R item' := by
  cases hr with
  | gap hc => exact ⟨_, .gap hc, .plain⟩
  | other hw hm => exact ⟨_, .other hw (eq_none_of_rel (h _ hw.wordOf) hm), .plain⟩
  | constant hw hm hp =>
    obtain ⟨m', hm', hrel⟩ := exists_of_rel (h _ hw.wordOf) hm
    exact ⟨_, .constant hw hm' ((hkind _ _ hrel).1 hp), .constant hrel⟩
  | bare hw hm hp hhead =>
    obtain ⟨m', hm', hrel⟩ := exists_of_rel (h _ hw.wordOf) hm
    exact ⟨_, .bare hw hm' (mt (hkind _ _ hrel).2 hp) hhead, .plain⟩
  | call hw hm hp hb =>
    obtain ⟨m', hm', hrel⟩ := exists_of_rel (h _ hw.wordOf) hm
    exact ⟨_, .call hw hm' (mt (hkind _ _ hrel).2 hp) hb, .call hrel⟩
  | unclosed hw hm hp hopen =>
    obtain ⟨m', hm', hrel⟩ := exists_of_rel (h _ hw.wordOf) hm
    exact ⟨_, .unclosed hw hm' (mt (hkind _ _ hrel).2 hp) hopen, .unclosed hrel⟩

/-- Words of one meaning stand for macros of the same use. -/
theorem rel_of_meaning_eq (h : tbl.meaning w = tbl'.meaning w) :
    Option.Rel Macro.SameUse (tbl.lookup w) (tbl'.lookup w) := by
  rw [meaning, meaning] at h
  cases hm : tbl.lookup w with
  | none =>
    rw [hm] at h
    rw [Option.map_eq_none_iff.1 h.symm]
    exact .none
  | some m =>
    rw [hm] at h
    obtain ⟨m', hm', hsame⟩ := Option.map_eq_some_iff.1 h.symm
    rw [hm']
    exact .some hsame.symm

theorem exists_read_of_meaning_eq {c : Char} {t : Text}
    (h : ∀ w, WordOf (c :: t) w → tbl.meaning w = tbl'.meaning w)
    (hread : tbl.read c t = item) :
    ∃ item', tbl'.read c t = item' ∧ item.Related Macro.SameUse item' := by
  obtain ⟨item', hr, hrelated⟩ := (reads_iff.2 hread).exists_related
    (fun _ _ hsame => by rw [hsame.parameters_eq]) fun w hw => rel_of_meaning_eq (h w hw)
  exact ⟨item', reads_iff.1 hr, hrelated⟩

/-! ## Expanding under two tables -/

theorem expandAll_congr
    (h : ∀ a ∈ texts, tbl.expandInside depth a = tbl'.expandInside depth a) :
    tbl.expandAll depth texts = tbl'.expandAll depth texts := by
  induction texts with
  | nil => rw [expandAll_nil, expandAll_nil]
  | cons a texts ih =>
    have hrest := ih fun a' ha' => h a' (List.mem_cons_of_mem a ha')
    rw [expandAll_cons, expandAll_cons, h a List.mem_cons_self, hrest]

/-- **The run of both expanders**, side by side. -/
theorem expandRest_congr (h : ∀ w, WordOf text w → tbl.meaning w = tbl'.meaning w)
    (depth : Int) (size : Nat) :
    tbl.expandRest depth size text = tbl'.expandRest depth size text := by
  induction text using reading_induction tbl generalizing depth size with
  | nil => rw [expandRest_nil, expandRest_nil]
  | plain hread ih =>
    have hrest := ih fun w hw => h w ((reads_iff.2 hread).wordOf_rest hw)
    obtain ⟨item', hread', hrelated⟩ := exists_read_of_meaning_eq h hread
    cases hrelated with
    | plain => rw [expandRest_plain hread, expandRest_plain hread', hrest]
  | constant hread ih =>
    have hrest := ih fun w hw => h w ((reads_iff.2 hread).wordOf_rest hw)
    obtain ⟨item', hread', hrelated⟩ := exists_read_of_meaning_eq h hread
    cases hrelated with
    | constant hsame =>
      rw [expandRest_constant hread, expandRest_constant hread', hrest, hsame.body_eq]
  | call hread ihargs ih =>
    have hr := reads_iff.2 hread
    have hrest := ih fun w hw => h w (hr.wordOf_rest hw)
    -- the words of the arguments are words of the text, so these come out alike as well
    have hargs := expandAll_congr fun a ha =>
      ihargs a ha (fun w hw => h w (hr.wordOf_argument ha hw)) (depth + 1) a.length
    obtain ⟨item', hread', hrelated⟩ := exists_read_of_meaning_eq h hread
    cases hrelated with
    | call hsame =>
      rw [expandRest_call hread, expandRest_call hread', hargs, hrest, hsame.name_eq,
        funext hsame.substitute_eq]
  | unclosed hread =>
    obtain ⟨item', hread', hrelated⟩ := exists_read_of_meaning_eq h hread
    cases hrelated with
    | unclosed hsame =>
      rw [expandRest_unclosed hread, expandRest_unclosed hread', hsame.name_eq]

/-- Every word means the same in both tables. -/
def SameMeaning (tbl tbl' : Table) : Prop := ∀ w, tbl.meaning w = tbl'.meaning w

/-- **Only look-ups matter.** -/
theorem SameMeaning.expand_eq (h : SameMeaning tbl tbl') (text : Text) :
    tbl.expand text = tbl'.expand text :=
  expandRest_congr (fun w _ => h w) 0 text.length

theorem SameMeaning.of_lookup_eq (h : ∀ w, tbl.lookup w = tbl'.lookup w) :
    SameMeaning tbl tbl' :=
  fun w => congrArg (Option.map Macro.unnumbered) (h w)

/-- A definition is not seen where its name is no word of the text. -/
theorem expandInside_define (h : ¬ WordOf text m.name) (depth : Int) :
    (tbl.define m).expandInside depth text = tbl.expandInside depth text := by
  refine expandRest_congr (fun w hw => ?_) depth text.length
  have hne : m.name ≠ w := fun heq => h (heq ▸ hw)
  rw [meaning, meaning, lookup_define_of_ne tbl hne]

/-- Predeclaring names changes the meaning of these only. -/
theorem meaning_predeclare (tbl : Table) {names : List Text} (h : w ∉ names) :
    ({ tbl with predeclared := names ++ tbl.predeclared } : Table).meaning w = tbl.meaning w := by
  have hp : ({ tbl with predeclared := names ++ tbl.predeclared } : Table).isPredeclared w =
      tbl.isPredeclared w := by
    rw [Bool.eq_iff_iff, isPredeclared_iff, isPredeclared_iff, List.mem_append, or_iff_right h]
  rw [meaning, meaning, lookup, lookup, hp]
  rfl

/-- **An expansion depends on whole words only.** Two tables give a text the
same at every depth, be it a text or a failure, if each whole word of it means
the same in both. So nothing changes when macros are defined or names are
predeclared that are no whole words of the text, wherever else they may occur. -/
theorem expandInside_of_words (text : Text) (depth : Int) :
    (∀ tbl tbl' : Table, (∀ w, WordOf text w → tbl.meaning w = tbl'.meaning w) →
      tbl.expandInside depth text = tbl'.expandInside depth text) ∧
    (∀ (tbl : Table) (m : Macro), ¬ WordOf text m.name →
      (tbl.define m).expandInside depth text = tbl.expandInside depth text) ∧
    ∀ (tbl : Table) (names : List Text), (∀ w ∈ names, ¬ WordOf text w) →
      ({ tbl with predeclared := names ++ tbl.predeclared } : Table).expandInside depth text =
        tbl.expandInside depth text := by
  refine ⟨fun tbl tbl' h => expandRest_congr h depth text.length,
    fun tbl m hm => expandInside_define hm depth, fun tbl names hnames => ?_⟩
  exact expandRest_congr (fun w hw => meaning_predeclare tbl fun hmem => hnames w hmem hw)
    depth text.length

/-- The name is part of a word, stands in another case and behind an underscore,
and is a word of a body: it makes no difference that it is defined or
predeclared, nor on which line the macro was defined that is called. -/
theorem expandInside_of_words_parts :
    let f : Macro := { name := ['f'], parameters := [['x']], body := "[x k]".toList }
    let k : Macro := { name := ['k'], body := ['v'] }
    let tbl : Table := { entries := [f] }
    let tbl' : Table := { entries := [k, { f with line := 3 }] }
    let text := "f(f(_k), kk) K".toList
    ¬ WordOf text ['k'] ∧ (∀ w, WordOf text w → tbl.meaning w = tbl'.meaning w) ∧
      tbl.expandInside 0 text = .ok "[[_k k] k] K".toList ∧
        tbl.expandInside 0 text = tbl'.expandInside 0 text ∧
          (tbl.define k).expandInside 0 text = tbl.expandInside 0 text ∧
            ({ tbl with predeclared := [['k']] } : Table).expandInside 0 text =
              tbl.expandInside 0 text := by
  intro f k tbl tbl' text
  have htokens : Text.tokens text =
      [.word ['f'], .gap '(', .word ['f'], .gap '(', .word "_k".toList, .gap ')', .gap ',',
        .gap ' ', .word "kk".toList, .gap ')', .gap ' ', .word ['K']] := by decide
  have hk : ¬ WordOf text ['k'] := by
    rw [wordOf_iff_mem_tokens, htokens]
    decide
  have hmeaning : ∀ w, WordOf text w → tbl.meaning w = tbl'.meaning w := by
    intro w hw
    rw [wordOf_iff_mem_tokens, htokens] at hw
    have hw : w = ['f'] ∨ w = "_k".toList ∨ w = "kk".toList ∨ w = ['K'] := by
      simpa [or_assoc] using hw
    rcases hw with rfl | rfl | rfl | rfl <;> decide
  have hok : ({ entries := [{ name := ['f'], parameters := [['x']], body := "[x k]".toList }] } :
      Table).expandInside 0 "f(f(_k), kk) K".toList = .ok "[[_k k] k] K".toList := by decide +kernel
  obtain ⟨hsame, hdefine, hpredeclare⟩ := expandInside_of_words text 0
  exact ⟨hk, hmeaning, hok, hsame _ _ hmeaning, hdefine tbl k hk,
    hpredeclare tbl [['k']] (by simpa using hk)⟩

end Table

end LineMacro
