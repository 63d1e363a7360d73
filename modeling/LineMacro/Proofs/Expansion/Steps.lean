import LineMacro.Expansion.Nesting
import LineMacro.Proofs.Expansion.Reading
import LineMacro.Proofs.Substitution
import Mathlib.Data.List.Forall2
/-!
# Expansion — item by item

What the expander, the relation, the nesting and closedness do at the item at
the front of a text. Each is said once here, guards included, and nothing later
unfolds them again. A failing step is told apart by its cause: the call itself
stands too deep or is not closed, or one of its arguments fails, or what
follows does.
-/

namespace LineMacro

namespace Table

variable {tbl : Table} {depth : Int} {size : Nat} {c : Char}
variable {t copied inner rest out : Text} {m : Macro} {e : Failure} {texts args : List Text}

/-! ## The expander -/

@[simp] theorem expandRest_nil : tbl.expandRest depth size [] = .ok [] := by
  rw [expandRest]

theorem expandRest_plain (h : tbl.read c t = .plain copied rest) :
    tbl.expandRest depth size (c :: t) = (tbl.expandRest depth size rest).map (copied ++ ·) := by
  rw [expandRest]
  split <;> simp_all
  rfl

theorem expandRest_constant (h : tbl.read c t = .constant m rest) :
    tbl.expandRest depth size (c :: t) = (tbl.expandRest depth size rest).map (m.body ++ ·) := by
  rw [expandRest]
  split <;> simp_all
  rfl

theorem expandRest_call (h : tbl.read c t = .call m inner rest) :
    tbl.expandRest depth size (c :: t) =
      if nestingLimit ≤ depth then .error { fault := .tooDeep m.name }
      else match tbl.expandAll (depth + 1) (Arguments.split inner) with
        | .error e => .error (if depth = 0 then e.atColumn (column size (c :: t)) else e)
        | .ok args => (tbl.expandRest depth size rest).map (m.substitute args ++ ·) := by
  rw [expandRest]
  split <;> simp_all
  rfl

theorem expandRest_unclosed (h : tbl.read c t = .unclosed m) :
    tbl.expandRest depth size (c :: t) =
      .error { column := column size (c :: t), fault := .unclosedArguments m.name } := by
  rw [expandRest]
  split <;> simp_all

/-- A call is expanded if it may stand where it does, and its arguments and
what follows it are. -/
theorem expandRest_call_eq_ok_iff (h : tbl.read c t = .call m inner rest) :
    tbl.expandRest depth size (c :: t) = .ok out ↔
      depth < nestingLimit ∧ ∃ args o,
        tbl.expandAll (depth + 1) (Arguments.split inner) = .ok args ∧
          tbl.expandRest depth size rest = .ok o ∧ out = m.substitute args ++ o := by
  rw [expandRest_call h]
  by_cases hd : nestingLimit ≤ depth
  · simp only [if_pos hd, reduceCtorEq, false_iff, not_and]
    omega
  · rw [if_neg hd]
    have hlt : depth < nestingLimit := by omega
    cases hall : tbl.expandAll (depth + 1) (Arguments.split inner) with
    | error e => simp
    | ok args => simp [hlt, Failure.map_eq_ok_iff]

/-- **The causes of a failing call.** -/
theorem expandRest_call_eq_error_iff (h : tbl.read c t = .call m inner rest) :
    tbl.expandRest depth size (c :: t) = .error e ↔
      nestingLimit ≤ depth ∧ e = { fault := .tooDeep m.name } ∨
      depth < nestingLimit ∧
        ((∃ e', tbl.expandAll (depth + 1) (Arguments.split inner) = .error e' ∧
            e = if depth = 0 then e'.atColumn (column size (c :: t)) else e') ∨
          (∃ args, tbl.expandAll (depth + 1) (Arguments.split inner) = .ok args) ∧
            tbl.expandRest depth size rest = .error e) := by
  rw [expandRest_call h]
  by_cases hd : nestingLimit ≤ depth
  · have hlt : ¬ depth < nestingLimit := by omega
    simp [hd, hlt, eq_comm]
  · rw [if_neg hd]
    have hlt : depth < nestingLimit := by omega
    cases hall : tbl.expandAll (depth + 1) (Arguments.split inner) with
    | error e' => simp [hd, hlt, eq_comm]
    | ok args => simp [hd, hlt, Failure.map_eq_error_iff]

theorem expandAll_nil : tbl.expandAll depth [] = .ok [] := by
  rw [expandAll]

theorem expandAll_cons {a : Text} :
    tbl.expandAll depth (a :: texts) =
      match tbl.expandInside depth a with
      | .error e => .error e
      | .ok b => (tbl.expandAll depth texts).map (b :: ·) := by
  rw [expandAll, expandInside]
  cases tbl.expandRest depth a.length a with
  | error e => rfl
  | ok b => cases tbl.expandAll depth texts <;> rfl

/-- Arguments fail if the first does, or it gives something and those after it
fail. -/
theorem expandAll_cons_eq_error_iff {a : Text} :
    tbl.expandAll depth (a :: texts) = .error e ↔
      tbl.expandInside depth a = .error e ∨
        (∃ b, tbl.expandInside depth a = .ok b) ∧ tbl.expandAll depth texts = .error e := by
  rw [expandAll_cons]
  cases tbl.expandInside depth a with
  | error e' => simp
  | ok b => simp [Failure.map_eq_error_iff]

/-- Arguments are expanded one by one, all of them. -/
theorem expandAll_eq_ok_iff :
    tbl.expandAll depth texts = .ok args ↔
      List.Forall₂ (fun a b => tbl.expandInside depth a = .ok b) texts args := by
  induction texts generalizing args with
  | nil => cases args <;> simp [expandAll_nil]
  | cons a texts ih =>
    rw [expandAll_cons]
    cases ha : tbl.expandInside depth a with
    | error e => cases args <;> simp [ha]
    | ok b =>
      simp only [Failure.map_eq_ok_iff, ih]
      cases args with
      | nil => simp
      | cons b' args => simp [ha, and_comm, eq_comm]

/-- What arguments give is given by one of them. -/
theorem exists_mem_of_expandAll_eq_ok {a : Text} (h : tbl.expandAll depth texts = .ok args)
    (ha : a ∈ args) : ∃ t ∈ texts, tbl.expandInside depth t = .ok a := by
  have hall := expandAll_eq_ok_iff.1 h
  clear h
  induction hall with
  | nil => exact absurd ha List.not_mem_nil
  | cons hfirst _ ih =>
    rcases List.mem_cons.1 ha with rfl | ha
    · exact ⟨_, List.mem_cons_self, hfirst⟩
    · obtain ⟨t, ht, hexp⟩ := ih ha
      exact ⟨t, List.mem_cons_of_mem _ ht, hexp⟩

/-- Arguments fail where one of them does. -/
theorem exists_mem_of_expandAll_eq_error (h : tbl.expandAll depth texts = .error e) :
    ∃ a ∈ texts, tbl.expandInside depth a = .error e := by
  induction texts with
  | nil => simp [expandAll_nil] at h
  | cons a texts ih =>
    rw [expandAll_cons] at h
    cases ha : tbl.expandInside depth a with
    | error e' =>
      rw [ha] at h
      exact ⟨a, List.mem_cons_self, by rw [ha, Except.error.inj h]⟩
    | ok b =>
      rw [ha] at h
      obtain ⟨a', ha', he⟩ := ih (Failure.map_eq_error_iff.1 h)
      exact ⟨a', List.mem_cons_of_mem a ha', he⟩

/-! ## The nesting -/

@[simp] theorem nesting_nil : tbl.nesting [] = 0 := by
  rw [nesting]

theorem nesting_plain (h : tbl.read c t = .plain copied rest) :
    tbl.nesting (c :: t) = tbl.nesting rest := by
  rw [nesting]
  split <;> simp_all

theorem nesting_constant (h : tbl.read c t = .constant m rest) :
    tbl.nesting (c :: t) = tbl.nesting rest := by
  rw [nesting]
  split <;> simp_all

theorem nesting_call (h : tbl.read c t = .call m inner rest) :
    tbl.nesting (c :: t) =
      max (1 + tbl.nestingAll (Arguments.split inner)) (tbl.nesting rest) := by
  rw [nesting]
  split <;> simp_all

@[simp] theorem nestingAll_nil : tbl.nestingAll [] = 0 := by
  rw [nestingAll]

@[simp] theorem nestingAll_cons {a : Text} :
    tbl.nestingAll (a :: texts) = max (tbl.nesting a) (tbl.nestingAll texts) := by
  rw [nestingAll]

theorem nesting_le_nestingAll {a : Text} (h : a ∈ texts) :
    tbl.nesting a ≤ tbl.nestingAll texts := by
  induction texts with
  | nil => exact absurd h List.not_mem_nil
  | cons b texts ih =>
    rw [nestingAll_cons]
    rcases List.mem_cons.1 h with rfl | h
    · exact Nat.le_max_left _ _
    · exact Nat.le_trans (ih h) (Nat.le_max_right _ _)

/-! ## Closedness -/

@[simp] theorem closed_nil : tbl.closed [] = true := by
  rw [closed]

theorem closed_plain (h : tbl.read c t = .plain copied rest) :
    tbl.closed (c :: t) = tbl.closed rest := by
  rw [closed]
  split <;> simp_all

theorem closed_constant (h : tbl.read c t = .constant m rest) :
    tbl.closed (c :: t) = tbl.closed rest := by
  rw [closed]
  split <;> simp_all

theorem closed_call (h : tbl.read c t = .call m inner rest) :
    tbl.closed (c :: t) = tbl.closed rest := by
  rw [closed]
  split <;> simp_all

theorem closed_unclosed (h : tbl.read c t = .unclosed m) : tbl.closed (c :: t) = false := by
  rw [closed]
  split <;> simp_all

end Table

end LineMacro
