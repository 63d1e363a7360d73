import LineMacro.Proofs.Document.SameMacros
/-!
# Documents — predeclared names as a set

Which names are predeclared matters to a run, and not how often or in which order
they are named. Tables that are seeded under the same names show the same macros
(`shadows_seeded_congr`), so the runs that start from them give the same
(`run_result_congr`).
-/

namespace LineMacro

variable {predeclared predeclared' : List Text} {definitions : List (Text × Text)}

/-- Tables seeded under the same names are alike. -/
theorem shadows_seeded_congr (hnames : ∀ d ∈ definitions, isName d.1 = true)
    (hsame : ∀ name, name ∈ predeclared ↔ name ∈ predeclared') :
    Table.Shadows [] (seeded predeclared definitions).table
      (seeded predeclared' definitions).table := by
  refine ⟨.of_lookup_eq fun w => ?_, fun w => ?_⟩
  · have hcontains : predeclared.contains w = predeclared'.contains w := by
      rw [Bool.eq_iff_iff, List.contains_iff_mem, List.contains_iff_mem, hsame]
    rw [lookup_seeded hnames, lookup_seeded hnames, visible_nil, visible_nil, hcontains]
  · rw [Table.isPredeclared_iff, Table.isPredeclared_iff, (seeded_of_isName hnames).2,
      (seeded_of_isName hnames).2, Table.defineAll_predeclared, Table.defineAll_predeclared,
      hsame]
    simp

/-- **A run goes by which names are predeclared.** -/
theorem run_result_congr (document : Text) (hnames : ∀ d ∈ definitions, isName d.1 = true)
    (hsame : ∀ name, name ∈ predeclared ↔ name ∈ predeclared') :
    (run document predeclared' definitions).result =
      (run document predeclared definitions).result := by
  have hshadows := shadows_seeded_congr hnames hsame
  rw [run_result hnames, run_result hnames]
  cases hresult : ((seeded predeclared definitions).table.processLines 1
      (Text.lines document)).result with
  | ok outs =>
    have hok := hshadows.processLines_eq_ok hresult 1
    rw [Definition.unshadowed_nil] at hok
    rw [hok]
  | error e =>
    obtain ⟨above, -, -, -, -, hnumber, herr⟩ := hshadows.processLines_eq_error hresult 1
    rw [Definition.unshadowed_nil, Definition.unshadowed_nil, ← hnumber] at herr
    rw [herr]

end LineMacro
