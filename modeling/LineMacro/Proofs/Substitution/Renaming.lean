import LineMacro.Proofs.Substitution
import LineMacro.Proofs.Text.Alternation
/-!
# Substitution — names of parameters

The parameters of a macro may have any other names, if these are words that the
body does not hold, each different from the others (`Renames`). The new names
are put into the body by the macro itself, and given its arguments the macro
that comes out gives the same text as before (`substitute_of_renames`). What this
needs is that words put in the place of words stay whole, so that replacing twice is
replacing once (`replaceWords_replaceWords`).
-/

namespace LineMacro

namespace Text

variable {t w : Text} {f g : Text → Text}

/-- The text is a single word. -/
structure IsWord (w : Text) : Prop where
  nonempty : w ≠ []
  isWordChar : ∀ c ∈ w, isWordChar c = true

/-! ## Replacing twice -/

theorem replaceWords_congr (h : ∀ w, Table.WordOf t w → f w = g w) :
    replaceWords f t = replaceWords g t := by
  induction t using Table.word_induction with
  | nil => rfl
  | gap hc ih =>
    have hrest := ih fun w hw => h w ((Table.wordOf_cons_iff hc).2 hw)
    rw [replaceWords_gap f hc, replaceWords_gap g hc, hrest]
  | word hv ih =>
    have hrest := ih fun w hw => h w (hv.wordOf_append_iff.2 (Or.inr hw))
    rw [replaceWords_append_of_word f hv, replaceWords_append_of_word g hv, hrest,
      h _ hv.wordOf]

/-- Replacing does not change how a text starts that starts with no word. -/
theorem head?_replaceWords (f : Text → Text) (h : ∀ c ∈ t.head?, isWordChar c = false) :
    (replaceWords f t).head? = t.head? := by
  cases t with
  | nil => rfl
  | cons c t =>
    rw [replaceWords_gap f (h c rfl)]
    rfl

/-- **Replacing words by words, and these again**, is replacing once: the words that
are put in are the words found later. -/
theorem replaceWords_replaceWords (g : Text → Text)
    (h : ∀ w, Table.WordOf t w → IsWord (f w)) :
    replaceWords g (replaceWords f t) = replaceWords (fun w => g (f w)) t := by
  induction t using Table.word_induction with
  | nil => rfl
  | gap hc ih =>
    have hrest := ih fun w hw => h w ((Table.wordOf_cons_iff hc).2 hw)
    rw [replaceWords_gap f hc, replaceWords_gap g hc, replaceWords_gap _ hc, hrest]
  | @word v t hv ih =>
    have hrest := ih fun w hw => h w (hv.wordOf_append_iff.2 (Or.inr hw))
    have hword := h v hv.wordOf
    -- the new word does not go on in what follows, which starts as it did
    have hbefore : Table.WordBefore (f v) (replaceWords f t) :=
      ⟨hword.nonempty, hword.isWordChar, by rw [head?_replaceWords f hv.apart]; exact hv.apart⟩
    rw [replaceWords_append_of_word f hv, replaceWords_append_of_word g hbefore,
      replaceWords_append_of_word _ hv, hrest]

end Text

namespace Macro

variable {m m' : Macro} {args : List Text} {w : Text}

/-- The second macro is the first with other names for its parameters. The names of
the first may repeat, those of the second may not. -/
structure Renames (m m' : Macro) : Prop where
  length_eq : m'.parameters.length = m.parameters.length
  nodup : m'.parameters.Nodup
  isWord : ∀ p ∈ m'.parameters, Text.IsWord p
  fresh : ∀ p ∈ m'.parameters, ¬ Table.WordOf m.body p
  body_eq : m'.body = m.substitute m'.parameters

/-- A parameter stands for the argument in the first of its places. -/
theorem argumentFor_of_mem (hw : w ∈ m.parameters) (hargs : m.parameters.length ≤ args.length) :
    ∃ (h : m.parameters.idxOf w < args.length),
      m.argumentFor args w = args[m.parameters.idxOf w] := by
  have hlt : m.parameters.idxOf w < args.length :=
    Nat.lt_of_lt_of_le (List.idxOf_lt_length_of_mem hw) hargs
  refine ⟨hlt, ?_⟩
  rw [argumentFor, if_pos hw, List.getElem?_eq_getElem hlt, Option.getD_some]

theorem argumentFor_of_not_mem (hw : w ∉ m.parameters) (args : List Text) :
    m.argumentFor args w = w := if_neg hw

namespace Renames

/-- The words of the body become words. -/
theorem isWord_argumentFor (h : m.Renames m') (hw : Table.WordOf m.body w) :
    Text.IsWord (m.argumentFor m'.parameters w) := by
  by_cases hmem : w ∈ m.parameters
  · obtain ⟨hlt, heq⟩ := argumentFor_of_mem hmem h.length_eq.ge
    rw [heq]
    exact h.isWord _ (List.getElem_mem hlt)
  · rw [argumentFor_of_not_mem hmem]
    obtain ⟨before, after, -, hbetween⟩ := hw
    exact ⟨hbetween.nonempty, hbetween.isWord⟩

/-- **A new name stands for what the old one stood for.** -/
theorem argumentFor_argumentFor (h : m.Renames m') (hargs : m.parameters.length ≤ args.length)
    (hw : Table.WordOf m.body w) :
    m'.argumentFor args (m.argumentFor m'.parameters w) = m.argumentFor args w := by
  by_cases hmem : w ∈ m.parameters
  · obtain ⟨hlt, heq⟩ := argumentFor_of_mem hmem h.length_eq.ge
    obtain ⟨hlt', heq'⟩ := argumentFor_of_mem hmem hargs
    -- the new names differ, so this one stands in no place but that of the old
    have hidx := h.nodup.idxOf_getElem _ hlt
    obtain ⟨hlt'', heq''⟩ :=
      argumentFor_of_mem (List.getElem_mem hlt) (h.length_eq.symm ▸ hargs)
    rw [heq, heq', heq'']
    simp only [hidx]
  · have hfresh : w ∉ m'.parameters := fun hmem' => h.fresh w hmem' hw
    rw [argumentFor_of_not_mem hmem, argumentFor_of_not_mem hmem, argumentFor_of_not_mem hfresh]

end Renames

/-- **The names of parameters do not matter.** A macro whose parameters are renamed
gives the same text, whatever it is given, as long as there is an argument for
each of them. -/
theorem substitute_of_renames (h : m.Renames m') (hargs : m.parameters.length ≤ args.length) :
    m'.substitute args = m.substitute args := by
  rw [substitute_eq_replaceWords, h.body_eq, substitute_eq_replaceWords,
    Text.replaceWords_replaceWords _ fun w => h.isWord_argumentFor, substitute_eq_replaceWords]
  exact Text.replaceWords_congr fun w => h.argumentFor_argumentFor hargs

/-- The first name stands for two parameters, of which only the first counts. The
arguments hold names of both macros. -/
theorem substitute_of_renames_repeated :
    let m : Macro :=
      { name := ['f'], parameters := [['x'], ['y'], ['x']], body := "x_(x)y$ y.x".toList }
    let m' : Macro :=
      { name := ['g'], parameters := [['p'], ['q'], ['r']], body := "x_(p)y$ q.p".toList }
    let args := ["q y".toList, "x".toList, "p".toList, "r".toList]
    m.Renames m' ∧ m.parameters.length ≤ args.length ∧
      m'.substitute args = m.substitute args ∧
        m.substitute args = "x_(q y)y$ x.q y".toList := by
  intro m m' args
  have hwords : Text.tokens m.body =
      [.word "x_".toList, .gap '(', .word ['x'], .gap ')', .word "y$".toList, .gap ' ',
        .word ['y'], .gap '.', .word ['x']] := by decide
  have hnames : ∀ p ∈ m'.parameters, p = ['p'] ∨ p = ['q'] ∨ p = ['r'] := by
    intro p hp
    simpa [m'] using hp
  have hrenames : m.Renames m' := by
    refine ⟨rfl, by decide, fun p hp => ?_, fun p hp => ?_, by decide⟩
    · rcases hnames p hp with rfl | rfl | rfl <;>
        exact ⟨List.cons_ne_nil _ _, List.forall_mem_singleton.2 (by decide)⟩
    · rw [Table.wordOf_iff_mem_tokens, hwords]
      rcases hnames p hp with rfl | rfl | rfl <;> decide
  exact ⟨hrenames, by decide, substitute_of_renames hrenames (by decide), by decide⟩

end Macro

end LineMacro
