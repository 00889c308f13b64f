import CaseSuite.Interpolation
import CaseSuite.Proofs.Entries
import CaseSuite.Proofs.Text.Split
/-!
Markers as they are written: what is read at the start of a text is a marker exactly where a
spelling of it stands there. A text that is one marker stands for the value of its variable.
-/
set_option autoImplicit false

namespace CaseSuite

namespace Text

/-- No blank belongs to a word: there are few blanks, and none of them is in the tables. -/
theorem isWord_of_isBlank {c : Char} (h : isBlank c = true) : isWord c = false := by
  have hcode : c.toNat ∈ 0x20 :: List.range' 0x9 5 ++ [0x85, 0xa0, 0x1680] ++
      List.range' 0x2000 11 ++ [0x2028, 0x2029, 0x202f, 0x205f, 0x3000] := by
    simp only [isBlank, inRanges, blankRanges, List.any_cons, List.any_nil, Bool.or_eq_true,
      Bool.and_eq_true, decide_eq_true_eq, beq_iff_eq, Bool.false_eq_true, or_false] at h
    simp only [List.mem_cons, List.mem_append, List.mem_range'_1]
    obtain (rfl | h) | h := h
    · exact .inl (.inl (.inl (.inl rfl)))
    · omega
    · omega
  have hall : ∀ n ∈ 0x20 :: List.range' 0x9 5 ++ [0x85, 0xa0, 0x1680] ++
      List.range' 0x2000 11 ++ [0x2028, 0x2029, 0x202f, 0x205f, 0x3000],
      isWord (Char.ofNat n) = false := by
    decide +kernel
  rw [← Char.ofNat_toNat c]
  exact hall _ hcode

end Text

namespace Marker

theorem readRun_append {p : Char → Bool} {run rest : List Char} (hne : run ≠ [])
    (hrun : ∀ c ∈ run, p c = true) (hrest : ∀ c ∈ rest.head?, p c = false) :
    readRun p (run ++ rest) = some (run, rest) := by
  have htake : rest.takeWhile p = [] := by
    cases rest with
    | nil => rfl
    | cons c rest => simp [hrest c rfl]
  have hdrop : rest.dropWhile p = rest := by
    cases rest with
    | nil => rfl
    | cons c rest => simp [hrest c rfl]
  simp [readRun, List.takeWhile_append_of_pos hrun, List.dropWhile_append_of_pos hrun, htake,
    hdrop, hne]

theorem skipBlanks_append {blanks rest : List Char} (hblanks : ∀ c ∈ blanks, Text.isBlank c = true)
    (hrest : ∀ c ∈ rest.head?, Text.isBlank c = false) : skipBlanks (blanks ++ rest) = rest := by
  rw [skipBlanks, List.dropWhile_append_of_pos hblanks]
  cases rest with
  | nil => rfl
  | cons c rest => simp [hrest c rfl]

theorem isPathChar_of_isBlank {c : Char} (h : Text.isBlank c = true) : isPathChar c = false := by
  have hdot : c ≠ '.' := by
    rintro rfl
    revert h
    decide
  simp [isPathChar, Text.isWord_of_isBlank h, hdot]

/-! ### Spellings -/

def Blanks (cs : List Char) : Prop := ∀ c ∈ cs, Text.isBlank c = true

/-- A non-empty run of characters of a class. -/
structure Run (p : Char → Bool) (cs : List Char) : Prop where
  nonempty : cs ≠ []
  all : ∀ c ∈ cs, p c = true

/-- What is written for a helper: nothing if there is none, else a bar and its name. -/
inductive HelperSpelled : Option String → List Char → Prop
  | none : HelperSpelled none []
  | some {before name after : List Char} : Blanks before → Run Text.isWord name → Blanks after →
      HelperSpelled (some (String.ofList name)) ('|' :: (before ++ (name ++ after)))

inductive Spelled : Marker → List Char → Prop
  | intro {before path after tail : List Char} {helper : Option String} : Blanks before →
      Run isPathChar path → Blanks after → HelperSpelled helper tail →
      Spelled ⟨String.ofList path, helper⟩
        ('\x7b' :: '\x7b' :: (before ++ (path ++ (after ++ (tail ++ ['\x7d', '\x7d'])))))

variable {p : Char → Bool} {cs before run rest : List Char}

theorem Blanks.head?_append (h : Blanks before) (hp : ∀ c, Text.isBlank c = true → p c = false)
    (hrest : ∀ c ∈ rest.head?, p c = false) : ∀ c ∈ (before ++ rest).head?, p c = false := by
  cases before with
  | nil => exact hrest
  | cons b before =>
    intro c hc
    obtain rfl : b = c := by simpa using hc
    exact hp b (h b List.mem_cons_self)

theorem Run.head?_append (h : Run p run) (hp : ∀ c, Text.isBlank c = true → p c = false) :
    ∀ c ∈ (run ++ rest).head?, Text.isBlank c = false := by
  intro c hc
  rw [List.head?_append_of_ne_nil _ h.nonempty] at hc
  by_contra hblank
  rw [Bool.not_eq_false] at hblank
  have hno := hp c hblank
  rw [h.all c (List.mem_of_mem_head? hc)] at hno
  contradiction

theorem readHelper_append {helper : Option String} {tail : List Char}
    (h : HelperSpelled helper tail) (rest : List Char) :
    readHelper (tail ++ '\x7d' :: rest) = some (helper, '\x7d' :: rest) := by
  cases h with
  | none => rfl
  | @some before name after hbefore hname hafter =>
    have hclosing : ∀ c ∈ ('\x7d' :: rest).head?,
        Text.isWord c = false ∧ Text.isBlank c = false := by
      intro c hc
      obtain rfl : '\x7d' = c := by simpa using hc
      decide +kernel
    have hstart : ∀ c ∈ (name ++ (after ++ '\x7d' :: rest)).head?, Text.isBlank c = false :=
      hname.head?_append fun _ => Text.isWord_of_isBlank
    have hend := hafter.head?_append (fun _ => Text.isWord_of_isBlank) fun c hc => (hclosing c hc).1
    simp [readHelper, skipBlanks_append hbefore hstart,
      readRun_append hname.nonempty hname.all hend,
      skipBlanks_append hafter fun c hc => (hclosing c hc).2]

theorem read_append {m : Marker} {word : List Char} (h : m.Spelled word) (rest : List Char) :
    read (word ++ rest) = some (m, rest) := by
  obtain @⟨before, path, after, tail, helper, hbefore, hpath, hafter, htail⟩ := h
  have hnext : ∀ c ∈ (tail ++ '\x7d' :: '\x7d' :: rest).head?,
      isPathChar c = false ∧ Text.isBlank c = false := by
    intro c hc
    cases htail with
    | none =>
      obtain rfl : '\x7d' = c := by simpa using hc
      decide +kernel
    | some _ _ _ =>
      obtain rfl : '|' = c := by simpa using hc
      decide +kernel
  have hstart : ∀ c ∈ (path ++ (after ++ (tail ++ '\x7d' :: '\x7d' :: rest))).head?,
      Text.isBlank c = false := hpath.head?_append fun _ => isPathChar_of_isBlank
  have hend := hafter.head?_append (fun _ => isPathChar_of_isBlank) fun c hc => (hnext c hc).1
  simp [read, skipBlanks_append hbefore hstart, readRun_append hpath.nonempty hpath.all hend,
    skipBlanks_append hafter fun c hc => (hnext c hc).2, readHelper_append htail, readEnd]

theorem readRun_eq_some (h : readRun p cs = some (run, rest)) : cs = run ++ rest ∧ Run p run := by
  simp only [readRun, Option.ite_none_left_eq_some, Option.some_inj, Prod.mk.injEq] at h
  obtain ⟨hne, rfl, rfl⟩ := h
  exact ⟨List.takeWhile_append_dropWhile.symm, by simpa using hne,
    List.all_eq_true.mp List.all_takeWhile⟩

theorem exists_blanks (cs : List Char) : ∃ before, Blanks before ∧ cs = before ++ skipBlanks cs :=
  ⟨cs.takeWhile Text.isBlank, List.all_eq_true.mp List.all_takeWhile,
    List.takeWhile_append_dropWhile.symm⟩

theorem exists_helperSpelled {helper : Option String} (h : readHelper cs = some (helper, rest)) :
    ∃ tail, HelperSpelled helper tail ∧ cs = tail ++ rest := by
  unfold readHelper at h
  split at h
  case h_1 cs =>
    obtain ⟨⟨name, after⟩, hname, heq⟩ := Option.map_eq_some_iff.mp h
    obtain ⟨rfl, rfl⟩ := Prod.mk.inj heq
    obtain ⟨before, hbefore, hcs⟩ := exists_blanks cs
    obtain ⟨gap, hgap, hafter⟩ := exists_blanks after
    obtain ⟨hrun, hword⟩ := readRun_eq_some hname
    refine ⟨_, .some hbefore hword hgap, ?_⟩
    rw [List.cons_append, List.append_assoc, List.append_assoc, ← hafter, ← hrun, ← hcs]
  case h_2 cs _ =>
    obtain ⟨rfl, rfl⟩ := Prod.mk.inj (Option.some_inj.mp h)
    exact ⟨[], .none, rfl⟩

theorem readEnd_eq_some (h : readEnd cs = some rest) : cs = '\x7d' :: '\x7d' :: rest := by
  unfold readEnd at h
  split at h
  case h_1 => rw [Option.some_inj.mp h]
  case h_2 => contradiction

theorem exists_spelled {m : Marker} (h : read cs = some (m, rest)) :
    ∃ word, m.Spelled word ∧ cs = word ++ rest := by
  unfold read at h
  split at h
  case h_1 cs =>
    simp only [Option.bind_eq_bind, Option.bind_eq_some_iff, Option.pure_def, Option.some_inj,
      Prod.exists, Prod.mk.injEq] at h
    obtain ⟨path, after, hread, helper, closing, hhelper, end', hclosing, rfl, rfl⟩ := h
    obtain ⟨before, hbefore, hcs⟩ := exists_blanks cs
    obtain ⟨hrun, hpath⟩ := readRun_eq_some hread
    obtain ⟨gap, hgap, hafter⟩ := exists_blanks after
    obtain ⟨tail, htail, hrest⟩ := exists_helperSpelled hhelper
    refine ⟨_, .intro hbefore hpath hgap htail, ?_⟩
    rw [hcs, hrun, hafter, hrest, readEnd_eq_some hclosing]
    simp only [List.cons_append, List.append_assoc, List.nil_append]
  case h_2 => contradiction

theorem read_eq_some_iff {m : Marker} :
    read cs = some (m, rest) ↔ ∃ word, m.Spelled word ∧ cs = word ++ rest := by
  constructor
  · exact exists_spelled
  · rintro ⟨word, hword, rfl⟩
    exact read_append hword rest

/-- The characters of a marker for a path, with blanks before and after it. -/
def bare (before path after : List Char) : List Char :=
  '\x7b' :: '\x7b' :: (before ++ (path ++ (after ++ ['\x7d', '\x7d'])))

theorem read_bare {before path after : List Char} (hbefore : ∀ c ∈ before, Text.isBlank c = true)
    (hafter : ∀ c ∈ after, Text.isBlank c = true) (hne : path ≠ [])
    (hpath : ∀ c ∈ path, isPathChar c = true) :
    read (bare before path after) = some (⟨String.ofList path, none⟩, []) := by
  rw [← List.append_nil (bare before path after)]
  exact read_append (.intro hbefore ⟨hne, hpath⟩ hafter .none) []

end Marker

theorem piecesAfter_of_le {skip : Nat} {cs : List Char} (h : cs.length ≤ skip) :
    piecesAfter skip cs = [] := by
  induction cs generalizing skip with
  | nil => cases skip <;> rfl
  | cons c cs ih =>
    cases skip with
    | zero => simp at h
    | succ skip => exact ih (by simpa using h)

theorem pieces_of_read {s : String} {c : Char} {cs : List Char} {m : Marker}
    (hs : s.toList = c :: cs) (h : Marker.read (c :: cs) = some (m, [])) :
    pieces s = [.marker m] := by
  rw [pieces, hs, piecesAfter, h]
  simp [piecesAfter_of_le]

namespace VariableStore

theorem get?_save (s : VariableStore) (name : String) (v : Value) :
    (s.save name v).get? name = some v := by
  simp [save, get?, Entries.find?_insert]

theorem lookup_of_get? {s : VariableStore} {name : String} {v : Value} (hdots : '.' ∉ name.toList)
    (h : s.get? name = some v) : s.lookup name = .ok v := by
  simp [lookup, find, Text.split_of_not_mem hdots, h, walk, Except.mapError]

end VariableStore

/-- A text that is one marker stands for the value of its variable as it is. -/
theorem interpolate_bare {vars : VariableStore} {name : String} {v : Value}
    {before after : List Char} (hbefore : ∀ c ∈ before, Text.isBlank c = true)
    (hafter : ∀ c ∈ after, Text.isBlank c = true) (hne : name ≠ "")
    (hword : ∀ c ∈ name.toList, Text.isWord c = true) (h : vars.get? name = some v) :
    interpolate (.str (String.ofList (Marker.bare before name.toList after))) vars = .ok v := by
  have hdots : '.' ∉ name.toList := fun hmem => by
    have hdot := hword '.' hmem
    revert hdot
    decide +kernel
  have hread : Marker.read (Marker.bare before name.toList after) = some (⟨name, none⟩, []) := by
    have hpath : ∀ c ∈ name.toList, Marker.isPathChar c = true := fun c hc => by
      simp [Marker.isPathChar, hword c hc]
    rw [Marker.read_bare hbefore hafter (by simpa using hne) hpath, String.ofList_toList]
  have hpieces : pieces (String.ofList (Marker.bare before name.toList after)) =
      [.marker ⟨name, none⟩] :=
    pieces_of_read (String.toList_ofList) hread
  simp only [interpolate, Interpolator.interpolate, Interpolator.string, hpieces,
    Interpolator.resolve, VariableStore.lookup_of_get? hdots h]
  rfl

end CaseSuite
