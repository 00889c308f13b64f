import CaseSuite.Text.Split
/-!
Parts of a text between separators, when texts are put together and when parts are.
-/
set_option autoImplicit false

namespace CaseSuite.Text

theorem split_ne_nil (separator : Char) (cs : List Char) : split separator cs ≠ [] := by
  cases cs with
  | nil => simp [split]
  | cons c cs =>
    rw [split]
    split
    · simp
    · split <;> simp

theorem split_cons_of_ne {separator c : Char} (h : c ≠ separator) {cs part : List Char}
    {parts : List (List Char)} (hsplit : split separator cs = part :: parts) :
    split separator (c :: cs) = (c :: part) :: parts := by
  simp [split, h, hsplit]

theorem split_append (separator : Char) (cs ds : List Char) :
    split separator (cs ++ separator :: ds) =
      split separator cs ++ split separator ds := by
  induction cs with
  | nil => simp [split]
  | cons c cs ih =>
    by_cases h : c = separator
    · simp [split, h, ih]
    · obtain ⟨part, parts, hparts⟩ := List.exists_cons_of_ne_nil (split_ne_nil separator cs)
      rw [List.cons_append, split_cons_of_ne h hparts, List.cons_append]
      exact split_cons_of_ne h (by rw [ih, hparts, List.cons_append])

theorem split_ne_singleton_nil {separator c : Char} {cs : List Char} :
    split separator (c :: cs) ≠ [[]] := by
  obtain ⟨part, parts, hparts⟩ := List.exists_cons_of_ne_nil (split_ne_nil separator cs)
  by_cases hc : c = separator
  · simp [split, hc, hparts]
  · simp [split_cons_of_ne hc hparts]

theorem not_mem_of_mem_split {separator : Char} {cs part : List Char}
    (h : part ∈ split separator cs) : separator ∉ part := by
  induction cs generalizing part with
  | nil => simp_all [split]
  | cons c cs ih =>
    obtain ⟨first, parts, hparts⟩ := List.exists_cons_of_ne_nil (split_ne_nil separator cs)
    rw [hparts] at ih
    by_cases hc : c = separator
    · rw [split, if_pos (by simpa using hc), hparts] at h
      obtain rfl | h := List.mem_cons.mp h
      · simp
      · exact ih h
    · rw [split_cons_of_ne hc hparts] at h
      obtain rfl | h := List.mem_cons.mp h
      · simp [Ne.symm hc, ih List.mem_cons_self]
      · exact ih (List.mem_cons_of_mem _ h)

theorem head?_split (separator : Char) (cs : List Char) :
    (split separator cs).head? = some (cs.takeWhile (· != separator)) := by
  induction cs with
  | nil => rfl
  | cons c cs ih =>
    obtain ⟨part, parts, hparts⟩ := List.exists_cons_of_ne_nil (split_ne_nil separator cs)
    by_cases hc : c = separator
    · simp [split, hc]
    · rw [split_cons_of_ne hc hparts]
      rw [hparts] at ih
      simpa [hc] using ih

theorem split_of_not_mem {separator : Char} {cs : List Char} (h : separator ∉ cs) :
    split separator cs = [cs] := by
  induction cs with
  | nil => rfl
  | cons c cs ih =>
    rw [List.mem_cons, not_or] at h
    exact split_cons_of_ne (Ne.symm h.1) (ih h.2)

theorem split_join {separator : Char} {parts : List (List Char)} (hne : parts ≠ [])
    (h : ∀ part ∈ parts, separator ∉ part) : split separator (join separator parts) = parts := by
  induction parts with
  | nil => exact absurd rfl hne
  | cons part parts ih =>
    obtain ⟨hpart, hparts⟩ := List.forall_mem_cons.mp h
    cases parts with
    | nil => exact split_of_not_mem hpart
    | cons next parts =>
      rw [join, split_append, split_of_not_mem hpart, ih (by simp) hparts]
      · rfl
      · simp

theorem join_eq_intercalate (separator : Char) (parts : List (List Char)) :
    join separator parts = [separator].intercalate parts := by
  induction parts with
  | nil => rfl
  | cons part parts ih =>
    cases parts with
    | nil => simp [join]
    | cons next parts => simp [join, ih, List.intercalate_cons_cons]

theorem join_split (separator : Char) (cs : List Char) :
    join separator (split separator cs) = cs := by
  induction cs with
  | nil => rfl
  | cons c cs ih =>
    obtain ⟨part, parts, hparts⟩ := List.exists_cons_of_ne_nil (split_ne_nil separator cs)
    rw [hparts] at ih
    by_cases hc : c = separator
    · rw [split, if_pos (by simpa using hc), hparts, join, ih, List.nil_append, hc]
      simp
    · rw [split_cons_of_ne hc hparts]
      cases parts <;> simp_all [join]

theorem split_dots_eq_iff {path : String} {parts : List String} (hne : parts ≠ []) :
    split '.' path.toList = parts.map String.toList ↔
      path = ".".intercalate parts ∧ ∀ part ∈ parts, '.' ∉ part.toList := by
  have htext : (".".intercalate parts).toList = join '.' (parts.map String.toList) := by
    rw [String.toList_intercalate, join_eq_intercalate]
    rfl
  constructor
  · intro h
    refine ⟨?_, fun part hpart => ?_⟩
    · rw [← String.toList_inj, htext, ← h, join_split]
    · exact not_mem_of_mem_split (h ▸ List.mem_map_of_mem hpart)
  · rintro ⟨rfl, hdots⟩
    rw [htext, split_join (by simpa using hne) (by simpa using hdots)]

end CaseSuite.Text
