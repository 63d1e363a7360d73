/-!
# Keyed lists

A list whose elements carry a key stands for a finite map with an order:
`put` replaces the element of the same key where it stands, and appends an
element of a new key. So each key keeps the place of its first element and
the value of its last (`find?_foldl_put`), the keys stay distinct
(`nodup_put`), and a look-up after a put sees exactly the new element
(`find?_put`).
-/

namespace LineMacro

namespace Keyed

variable {α κ : Type} [DecidableEq κ] (key : α → κ)

/-- The element of a key. -/
def find? (k : κ) (l : List α) : Option α := l.find? fun a => key a = k

/-- The last element of a key. -/
def last? (k : κ) (l : List α) : Option α := find? key k l.reverse

/-- Replaces the element of the same key, or appends. -/
def put (a : α) : List α → List α
  | [] => [a]
  | b :: l => if key b = key a then a :: l else b :: put a l

/-- Puts elements one after another, starting with none. -/
def ofList (l : List α) : List α := l.foldl (fun acc a => put key a acc) []

/-- The list without the elements of a key. -/
def erase (k : κ) (l : List α) : List α := l.filter fun a => key a ≠ k

variable {key}

@[simp] theorem find?_nil (k : κ) : find? key k [] = none := rfl

/-- **What a put leaves.** Its own element under its key, and every other
key as it was. -/
theorem find?_put (a : α) (k : κ) (l : List α) :
    find? key k (put key a l) = if key a = k then some a else find? key k l := by
  induction l with
  | nil => by_cases hk : key a = k <;> simp [put, find?, hk]
  | cons b l ih =>
    simp only [find?] at ih
    by_cases hb : key b = key a <;> by_cases hk : key a = k <;>
      simp_all [put, find?, List.find?_cons]

/-- A put moves no key: the keys are the old ones, with a new one at the end. -/
theorem map_key_put (a : α) (l : List α) :
    (put key a l).map key =
      if key a ∈ l.map key then l.map key else l.map key ++ [key a] := by
  induction l with
  | nil => simp [put]
  | cons b l ih =>
    by_cases hb : key b = key a
    · simp [put, hb]
    · have hb' : ¬ key a = key b := fun h => hb h.symm
      simp only [put, hb, if_false, List.map_cons, ih, List.mem_cons, hb', false_or]
      split <;> rfl

/-- Distinct keys stay distinct. -/
theorem nodup_put {l : List α} (a : α) (h : (l.map key).Nodup) :
    ((put key a l).map key).Nodup := by
  rw [map_key_put]
  split
  · exact h
  · rename_i hn
    rw [List.nodup_append]
    refine ⟨h, by simp, ?_⟩
    rintro x hx y hy rfl
    exact hn (List.mem_singleton.1 hy ▸ hx)

theorem find?_erase (k k' : κ) (l : List α) :
    find? key k' (erase key k l) = if k' = k then none else find? key k' l := by
  induction l with
  | nil => simp [erase, find?]
  | cons b l ih =>
    simp only [find?, erase] at ih ⊢
    by_cases hb : key b = k
    · by_cases hk : k' = k
      · simp_all
      · have : ¬ k = k' := fun h => hk h.symm
        simp_all
    · by_cases hk : k' = k
      · simp_all
      · simp_all [List.find?_cons]

/-- Apart from its own element a put leaves the list as it is. -/
theorem erase_put (a : α) (l : List α) : erase key (key a) (put key a l) = erase key (key a) l := by
  induction l with
  | nil => simp [put, erase]
  | cons b l ih =>
    by_cases hb : key b = key a
    · simp [put, erase, hb]
    · simpa [put, erase, hb] using ih

/-! ## Putting one after another -/

theorem last?_append (k : κ) (l l' : List α) :
    last? key k (l ++ l') = (last? key k l').or (last? key k l) := by
  rw [last?, last?, last?, List.reverse_append, find?, List.find?_append]
  rfl

theorem last?_toList (k : κ) (o : Option α) :
    last? key k o.toList = o.filter fun a => key a = k := by
  cases o with
  | none => rfl
  | some a => by_cases h : key a = k <;> simp [last?, find?, Option.filter, h]

theorem last?_cons (k : κ) (a : α) (l : List α) :
    last? key k (a :: l) = (last? key k l).or (if key a = k then some a else none) := by
  have ha : last? key k [a] = if key a = k then some a else none := by
    rw [← Option.toList_some, last?_toList, Option.filter_some]
    simp
  rw [← ha, ← last?_append]
  rfl

theorem last?_map {β : Type} (f : β → α) (k : κ) (l : List β) :
    last? key k (l.map f) = (last? (fun b => key (f b)) k l).map f := by
  rw [last?, find?, ← List.map_reverse, List.find?_map]
  rfl

/-- **The last one counts.** After elements are put one after another a key
finds the last of them that carries it, and else what it found before. -/
theorem find?_foldl_put (k : κ) (l acc : List α) :
    find? key k (l.foldl (fun acc a => put key a acc) acc) =
      (last? key k l).or (find? key k acc) := by
  induction l generalizing acc with
  | nil => rfl
  | cons a l ih =>
    rw [List.foldl_cons, ih, find?_put, last?_cons, Option.or_assoc]
    by_cases h : key a = k <;> simp [h]

theorem find?_ofList (k : κ) (l : List α) : find? key k (ofList key l) = last? key k l := by
  rw [ofList, find?_foldl_put, find?_nil, Option.or_none]

theorem nodup_foldl_put (l : List α) {acc : List α} (h : (acc.map key).Nodup) :
    ((l.foldl (fun acc a => put key a acc) acc).map key).Nodup := by
  induction l generalizing acc with
  | nil => exact h
  | cons a l ih => exact ih (nodup_put a h)

theorem nodup_ofList (l : List α) : ((ofList key l).map key).Nodup :=
  nodup_foldl_put l List.nodup_nil

omit [DecidableEq κ] in
/-- A list without repetitions has none to lose. -/
theorem eraseDups_of_nodup [BEq κ] [LawfulBEq κ] {l : List κ} (h : l.Nodup) :
    l.eraseDups = l := by
  induction l with
  | nil => rfl
  | cons a l ih =>
    obtain ⟨ha, hl⟩ := List.nodup_cons.1 h
    have hfilter : l.filter (fun b => !b == a) = l := by
      rw [List.filter_eq_self]
      intro b hb
      simpa using fun heq : b = a => ha (heq ▸ hb)
    rw [List.eraseDups_cons, hfilter, ih hl]

/-- **Keys are listed in the order in which they first came.** -/
theorem map_key_foldl_put [BEq κ] [LawfulBEq κ] (l : List α) {acc : List α}
    (h : (acc.map key).Nodup) :
    (l.foldl (fun acc a => put key a acc) acc).map key =
      (acc.map key ++ l.map key).eraseDups := by
  induction l generalizing acc with
  | nil => rw [List.foldl_nil, List.map_nil, List.append_nil, eraseDups_of_nodup h]
  | cons a l ih =>
    rw [List.foldl_cons, ih (nodup_put a h), map_key_put, List.map_cons]
    split
    · rename_i ha
      -- the key is there already, so coming again it is left out
      have hkeys : (key a :: l.map key).removeAll (acc.map key) =
          (l.map key).removeAll (acc.map key) := by
        rw [List.cons_removeAll, if_neg (by simpa using List.mem_map.1 ha)]
      rw [List.eraseDups_append, List.eraseDups_append, hkeys]
    · rw [List.append_assoc, List.singleton_append]

/-- Where the keys are distinct the last element of a key is the only one. -/
theorem last?_of_nodup {l : List α} (k : κ) (h : (l.map key).Nodup) :
    last? key k l = find? key k l := by
  induction l with
  | nil => rfl
  | cons a l ih =>
    obtain ⟨ha, hl⟩ := List.nodup_cons.1 h
    rw [last?_cons, ih hl, find?, find?, List.find?_cons]
    by_cases hk : key a = k
    · have hnone : l.find? (fun b => key b = k) = none := by
        rw [List.find?_eq_none]
        intro b hb hbk
        refine ha (List.mem_map.2 ⟨b, hb, ?_⟩)
        rw [hk]
        simpa using hbk
      simp [hk, hnone]
    · simp [hk]

theorem mem_put {a b : α} {l : List α} (h : b ∈ put key a l) : b = a ∨ b ∈ l := by
  induction l with
  | nil => exact Or.inl (List.mem_singleton.1 h)
  | cons c l ih =>
    rw [put] at h
    split at h
    · rcases List.mem_cons.1 h with rfl | h
      · exact Or.inl rfl
      · exact Or.inr (List.mem_cons_of_mem c h)
    · rcases List.mem_cons.1 h with rfl | h
      · exact Or.inr List.mem_cons_self
      · exact (ih h).imp_right (List.mem_cons_of_mem c)

theorem mem_foldl_put {b : α} {l acc : List α}
    (h : b ∈ l.foldl (fun acc a => put key a acc) acc) : b ∈ acc ∨ b ∈ l := by
  induction l generalizing acc with
  | nil => exact Or.inl h
  | cons a l ih =>
    rcases ih h with h | h
    · rcases mem_put h with rfl | h
      · exact Or.inr List.mem_cons_self
      · exact Or.inl h
    · exact Or.inr (List.mem_cons_of_mem a h)

theorem mem_ofList {b : α} {l : List α} (h : b ∈ ofList key l) : b ∈ l :=
  (mem_foldl_put h).resolve_left List.not_mem_nil

/-- Where the keys are distinct each element is found under its own. -/
theorem find?_of_mem {a : α} {l : List α} (h : (l.map key).Nodup) (ha : a ∈ l) :
    find? key (key a) l = some a := by
  induction l with
  | nil => exact absurd ha List.not_mem_nil
  | cons b l ih =>
    obtain ⟨hb, hl⟩ := List.nodup_cons.1 h
    rw [find?, List.find?_cons]
    rcases List.mem_cons.1 ha with rfl | ha
    · rw [decide_eq_true rfl]
    · have hne : key b ≠ key a := fun heq => hb (heq ▸ List.mem_map_of_mem ha)
      rw [decide_eq_false hne]
      exact ih hl ha

/-- A map that keeps the keys can be made before putting or after it. -/
theorem map_put {β : Type} {key' : β → κ} {f : β → α} (hf : ∀ b, key (f b) = key' b) (b : β)
    (l : List β) : (put key' b l).map f = put key (f b) (l.map f) := by
  induction l with
  | nil => rfl
  | cons c l ih =>
    rw [put, List.map_cons, put, hf, hf]
    split
    · rfl
    · rw [List.map_cons, ih]

theorem map_foldl_put {β : Type} {key' : β → κ} {f : β → α} (hf : ∀ b, key (f b) = key' b)
    (l acc : List β) :
    (l.foldl (fun acc b => put key' b acc) acc).map f =
      (l.map f).foldl (fun acc a => put key a acc) (acc.map f) := by
  induction l generalizing acc with
  | nil => rfl
  | cons b l ih => rw [List.foldl_cons, ih, map_put hf, List.map_cons, List.foldl_cons]

theorem map_ofList {β : Type} {key' : β → κ} {f : β → α} (hf : ∀ b, key (f b) = key' b)
    (l : List β) : (ofList key' l).map f = ofList key (l.map f) :=
  map_foldl_put hf l []

/-- An element of a new key goes to the end. -/
theorem put_of_not_mem {a : α} {l : List α} (h : key a ∉ l.map key) : put key a l = l ++ [a] := by
  induction l with
  | nil => rfl
  | cons b l ih =>
    rw [List.map_cons, List.mem_cons, not_or] at h
    rw [put, if_neg fun hb => h.1 hb.symm, ih h.2, List.cons_append]

/-- The first element of a key makes room where it stands. -/
theorem put_append_cons {a b : α} {above : List α} (hb : key b = key a)
    (habove : ∀ c ∈ above, key c ≠ key a) (below : List α) :
    put key a (above ++ b :: below) = above ++ a :: below := by
  induction above with
  | nil => exact if_pos hb
  | cons c above ih =>
    obtain ⟨hc, habove⟩ := List.forall_mem_cons.1 habove
    rw [List.cons_append, put, if_neg hc, ih habove, List.cons_append]

theorem foldl_put_of_nodup {l acc : List α} (h : ((acc ++ l).map key).Nodup) :
    l.foldl (fun acc a => put key a acc) acc = acc ++ l := by
  induction l generalizing acc with
  | nil => exact (List.append_nil acc).symm
  | cons a l ih =>
    have hnew : key a ∉ acc.map key := by
      intro hmem
      rw [List.map_append, List.nodup_append] at h
      exact h.2.2 _ hmem _ List.mem_cons_self rfl
    rw [List.foldl_cons, put_of_not_mem hnew, ih (by rwa [List.append_assoc]), List.append_assoc,
      List.singleton_append]

/-- Elements of distinct keys are put as they are. -/
theorem ofList_of_nodup {l : List α} (h : (l.map key).Nodup) : ofList key l = l :=
  foldl_put_of_nodup h

/-- A key finds something last exactly if an element carries it. -/
theorem last?_eq_none_iff {k : κ} {l : List α} : last? key k l = none ↔ k ∉ l.map key := by
  rw [last?, find?, List.find?_eq_none]
  simp

theorem last?_eq_none_iff_forall {k : κ} {l : List α} :
    last? key k l = none ↔ ∀ a ∈ l, key a ≠ k := by
  rw [last?_eq_none_iff, List.mem_map]
  exact ⟨fun h a ha hk => h ⟨a, ha, hk⟩, fun h ⟨a, ha, hk⟩ => h a ha hk⟩

/-- What a key finds last carries it, and nothing behind it does. -/
theorem last?_eq_some_iff {a : α} {k : κ} {l : List α} :
    last? key k l = some a ↔
      key a = k ∧ ∃ above below, l = above ++ a :: below ∧ ∀ b ∈ below, key b ≠ k := by
  rw [last?, find?, List.find?_eq_some_iff_append]
  simp only [decide_eq_true_eq, Bool.not_eq_true', decide_eq_false_iff_not]
  refine and_congr_right fun _ => ?_
  -- the list is read from its end, so what is behind comes first
  constructor
  · rintro ⟨below, above, hl, hbelow⟩
    refine ⟨above.reverse, below.reverse, ?_, fun b hb => hbelow b (List.mem_reverse.1 hb)⟩
    rw [← List.reverse_reverse l, hl]
    simp
  · rintro ⟨above, below, rfl, hbelow⟩
    exact ⟨below.reverse, above.reverse, by simp, fun b hb => hbelow b (List.mem_reverse.1 hb)⟩

/-- Elements of other keys may change places. -/
theorem last?_append_comm {l l' : List α} (h : ∀ a ∈ l, ∀ b ∈ l', key a ≠ key b) (k : κ) :
    last? key k (l ++ l') = last? key k (l' ++ l) := by
  rw [last?_append, last?_append]
  cases hl : last? key k l with
  | none => rw [Option.or_none, Option.none_or]
  | some a =>
    have ha : a ∈ l := List.mem_reverse.1 (List.mem_of_find?_eq_some hl)
    have hk : key a = k := by simpa using List.find?_some hl
    have hnone : last? key k l' = none :=
      last?_eq_none_iff_forall.2 fun b hb hbk => h a ha b hb (hk.trans hbk.symm)
    rw [hnone, Option.none_or, Option.or_none]

/-- The keys that are put are those of the elements, each of them. -/
theorem exists_mem_ofList {a : α} {l : List α} (h : a ∈ l) :
    ∃ b ∈ ofList key l, key b = key a := by
  have hne : find? key (key a) (ofList key l) ≠ none := by
    rw [find?_ofList, Ne, last?_eq_none_iff, Classical.not_not]
    exact List.mem_map_of_mem h
  obtain ⟨b, hb⟩ := Option.ne_none_iff_exists'.1 hne
  exact ⟨b, List.mem_of_find?_eq_some hb, by simpa using List.find?_some hb⟩

end Keyed

end LineMacro
