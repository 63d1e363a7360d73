import LineMacro.Proofs.Arguments.Pieces
import LineMacro.Proofs.Definition.Return
/-!
# Definition lines — what a macro is made of

A macro that is read off a line has a valid name and the number of the line, and
its name, parameters and body are made of characters of the line
(`read_eq_ok`).
-/

namespace LineMacro

namespace Definition

variable {line t s inside p : Text} {ps : List Text} {n : Int} {m : Macro}

theorem subset_of_mem_parameters (h : p ∈ parameters inside) : p ⊆ inside := by
  rw [parameters] at h
  split at h
  · exact absurd h List.not_mem_nil
  · obtain ⟨piece, hpiece, rfl⟩ := List.mem_map.1 h
    obtain ⟨before, after, hjoin, -, -⟩ := Arguments.exists_of_mem_intercalate hpiece
    obtain ⟨lead, trail, htrim, -, -⟩ := Text.exists_trim_append piece
    rw [List.intercalate_splitOn] at hjoin
    intro c hc
    rw [hjoin, htrim]
    simp [hc]

/-- The parameters come from between the parentheses. -/
theorem subset_of_readParameters? (h : readParameters? t = some (ps, s)) (hp : p ∈ ps) :
    p ⊆ t := by
  unfold readParameters? at h
  split at h
  · split at h
    · cases h
    · obtain ⟨rfl, -⟩ := Prod.mk.inj (Option.some.inj h)
      intro c hc
      exact List.mem_cons_of_mem _
        ((List.takeWhile_prefix _).subset (subset_of_mem_parameters hp hc))
  · obtain ⟨rfl, -⟩ := Prod.mk.inj (Option.some.inj h)
    exact absurd hp List.not_mem_nil

theorem dropReturn_isPrefix (t : Text) : dropReturn t <+: t := by
  unfold dropReturn
  split
  · exact List.dropLast_prefix t
  · exact List.prefix_refl t

theorem readBody_subset (t : Text) : readBody t ⊆ t := by
  intro c hc
  exact (dropSpace_suffix t).subset
    ((dropReturn_isPrefix _).subset ((Text.dropTrailing_isPrefix _ _).subset hc))

/-- **What is read off a line.** -/
theorem read_eq_ok (h : read line n = .ok m) :
    isName m.name = true ∧ m.line = n ∧ m.name ⊆ line ∧ (∀ p ∈ m.parameters, p ⊆ line) ∧
      m.body ⊆ line := by
  have hrest : (line.drop keyword.length).dropWhile Text.isBlank <:+ line :=
    (List.dropWhile_suffix _).trans (List.drop_suffix _ _)
  simp only [read] at h
  generalize (line.drop keyword.length).dropWhile Text.isBlank = fromName at h hrest
  split at h
  · cases h
  · rename_i name hreq
    obtain ⟨hname, rfl⟩ := requireName_eq_ok hreq
    have hafter : fromName.dropWhile isNamePart ⊆ line :=
      ((List.dropWhile_suffix _).trans hrest).subset
    split at h
    · rename_i hread
      cases h
      refine ⟨hname, rfl, fun c hc => ?_, fun p hp c hc => ?_, fun c hc => ?_⟩
      · exact hrest.subset ((List.takeWhile_prefix _).subset hc)
      · exact hafter (subset_of_readParameters? hread hp hc)
      · exact hafter ((suffix_of_readParameters? hread).subset (readBody_subset _ hc))
    · cases h

end Definition

end LineMacro
