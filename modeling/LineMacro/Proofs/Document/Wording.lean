import LineMacro.Proofs.Document.Visible
/-!
# Documents — what a failure says

A failure of a run names the macro by a word, if it names one
(`isWordChar_of_run_eq_error`): the macro stands for a word of the text, or its
name was read before its parameters were. So the wording of a failure is made of
the words of fixed texts and of one more, whatever the document holds
(`Fault.all_message`).
-/

namespace LineMacro

variable {e : Failure} {c : Char}

namespace Fault

variable {f : Fault}

/-- The name in the wording of a fault, if there is one in it. -/
def name : Fault → Text
  | .invalidName => []
  | .unclosedParameters name | .unclosedArguments name | .tooDeep name => name

/-- The characters of the fixed texts that are none of a word. -/
def marks : List Char := [' ', ',', '\'', '(', ')']

/-- What the fixed texts and the name are made of. -/
def isWorded (c : Char) : Bool := Text.isWordChar c || marks.contains c

theorem all_isWorded {t : Text} (h : ∀ c ∈ t, Text.isWordChar c = true) :
    t.all isWorded = true :=
  List.all_eq_true.2 fun c hc => by rw [isWorded, h c hc, Bool.true_or]

/-- **The wording of a fault** that names a word is made of words and marks. -/
theorem all_message (hname : ∀ c ∈ f.name, Text.isWordChar c = true) :
    f.message.all isWorded = true := by
  have hworded := all_isWorded hname
  unfold message
  cases f with
  | invalidName => rfl
  | unclosedParameters w | unclosedArguments w =>
    dsimp only [name] at hworded ⊢
    rw [List.all_append, List.all_append, hworded]
    rfl
  | tooDeep w =>
    dsimp only [name] at hworded ⊢
    split
    · rfl
    · simp only [List.all_append, hworded]
      rfl

end Fault

namespace Table

variable {tbl : Table} {depth : Int} {size : Nat} {text inner rest : Text} {m : Macro} {n : Int}
variable {line : Text}

/-- A call names a word of the text. -/
theorem Reads.isWordChar_of_call (h : Reads tbl text (.call m inner rest)) (hc : c ∈ m.name) :
    Text.isWordChar c = true := by
  cases h with
  | call hw hm =>
    rw [name_of_lookup hm] at hc
    exact hw.isWord c hc

theorem Reads.isWordChar_of_unclosed (h : Reads tbl text (.unclosed m)) (hc : c ∈ m.name) :
    Text.isWordChar c = true := by
  cases h with
  | unclosed hw hm =>
    rw [name_of_lookup hm] at hc
    exact hw.isWord c hc

/-- Expansion fails with a word, inside calls or not. -/
theorem isWordChar_of_expandRest_eq_error (herr : tbl.expandRest depth size text = .error e)
    (hc : c ∈ e.fault.name) : Text.isWordChar c = true := by
  induction text using reading_induction tbl generalizing depth size e with
  | nil =>
    rw [expandRest_nil] at herr
    cases herr
  | plain hread ih =>
    rw [expandRest_plain hread, Failure.map_eq_error_iff] at herr
    exact ih herr hc
  | constant hread ih =>
    rw [expandRest_constant hread, Failure.map_eq_error_iff] at herr
    exact ih herr hc
  | call hread ihargs ih =>
    obtain ⟨-, rfl⟩ | ⟨-, ⟨e', hall, rfl⟩ | ⟨-, hrest⟩⟩ :=
      (expandRest_call_eq_error_iff hread).1 herr
    · exact (reads_iff.2 hread).isWordChar_of_call hc
    · obtain ⟨a, ha, harg⟩ := exists_mem_of_expandAll_eq_error hall
      refine ihargs a ha harg ?_
      -- the outermost call adds a column and keeps what was said
      split at hc
      · rwa [Failure.atColumn_fault] at hc
      · exact hc
    · exact ih hrest hc
  | unclosed hread =>
    rw [expandRest_unclosed hread] at herr
    cases herr
    exact (reads_iff.2 hread).isWordChar_of_unclosed hc

/-- So does a line. -/
theorem Refuses.isWordChar (h : tbl.Refuses n line e) (hc : c ∈ e.fault.name) :
    Text.isWordChar c = true := by
  cases h with
  | definition hdef hread =>
    obtain ⟨k, hstops, -, -⟩ := Definition.exists_stopsAt_of_error hdef hread
    generalize e.fault = f at hstops hc
    cases hstops with
    | invalidName => cases hc
    | unclosedParameters _ _ hname => exact isWordChar_of_isName hname hc
  | text _ hexp => exact isWordChar_of_expandRest_eq_error hexp hc

end Table

/-- **A run fails with a word**, if it names anything. -/
theorem isWordChar_of_run_eq_error {document : Text} {predeclared : List Text}
    {definitions : List (Text × Text)} (hnames : ∀ d ∈ definitions, isName d.1 = true)
    (herr : (run document predeclared definitions).result = .error e) (hc : c ∈ e.fault.name) :
    Text.isWordChar c = true := by
  obtain ⟨above, line, below, -, e', -, -, hrefuses, rfl⟩ :=
    (run_result_eq_error_iff hnames).1 herr
  exact hrefuses.isWordChar hc

end LineMacro
