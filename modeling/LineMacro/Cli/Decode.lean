import LineMacro.Text.Basic
/-!
# Command line — reading bytes

Input is UTF-8, and nothing else is accepted. A line may end with a line feed,
a carriage return, or both in that order, and each becomes one line feed.
Output is written as it is, so a text without carriage returns is read back
from it (`decode?_encode_of_not_mem`).
-/

namespace LineMacro

namespace Cli

/-- A text with one line feed for each of the three ways to end a line. -/
def unifyNewlines : Text → Text
  | [] => []
  | '\r' :: '\n' :: t => '\n' :: unifyNewlines t
  | c :: t => (if c = '\r' then '\n' else c) :: unifyNewlines t

/-- The text that bytes spell, if they are UTF-8. -/
def decode? (bytes : ByteArray) : Option Text :=
  (String.fromUTF8? bytes).map fun s => unifyNewlines s.toList

/-- The bytes of a text. -/
def encode (t : Text) : ByteArray := (String.ofList t).toUTF8

/-- A text without carriage returns is kept. -/
theorem unifyNewlines_of_not_mem {t : Text} (h : '\r' ∉ t) : unifyNewlines t = t := by
  fun_induction unifyNewlines t with
  | case1 => rfl
  | case2 t ih => simp at h
  | case3 c t _ ih =>
    simp only [List.mem_cons, not_or] at h
    rw [ih h.2, if_neg fun hc => h.1 hc.symm]

/-- What was written is read back, up to the ends of its lines. -/
theorem decode?_encode (t : Text) : decode? (encode t) = some (unifyNewlines t) := by
  have h : String.fromUTF8? (String.ofList t).toUTF8 = some (String.ofList t) :=
    dif_pos (String.ofList t).isValidUTF8
  rw [decode?, encode, h, Option.map_some, String.toList_ofList]

theorem decode?_encode_of_not_mem {t : Text} (h : '\r' ∉ t) : decode? (encode t) = some t := by
  rw [decode?_encode, unifyNewlines_of_not_mem h]

end Cli

end LineMacro
