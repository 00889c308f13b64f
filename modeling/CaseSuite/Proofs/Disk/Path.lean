import CaseSuite.Disk.Path
import CaseSuite.Proofs.Text.Split
import Mathlib.Data.List.DropRight
/-!
Paths by the names on them. Slashes that are doubled and dots lead nowhere, so that two paths with
the same names, from the same start, lead to the same directory.
-/
set_option autoImplicit false

namespace CaseSuite.Path

/-- What stands between slashes, without what is empty. -/
def segments (path : String) : List String :=
  ((Text.split '/' path.toList).filter (!·.isEmpty)).map String.ofList

/-- The steps that lead somewhere, be it upwards. -/
def names (path : String) : List String := (steps path).filter (· != ".")

theorem steps_eq (path : String) :
    steps path = segments path ++ if endsWithSlash path then ["."] else [] := by
  unfold steps segments
  split <;> simp [*]

theorem names_eq_filter_segments (path : String) :
    names path = (segments path).filter (· != ".") := by
  rw [names, steps_eq, List.filter_append]
  split <;> simp

theorem names_eq (path : String) :
    names path = ((Text.split '/' path.toList).filter (!isIdle ·)).map String.ofList := by
  rw [names_eq_filter_segments, segments, List.filter_map, List.filter_filter]
  congr 1
  refine List.filter_congr fun part _ => ?_
  have hdot : String.ofList part = "." ↔ part = ['.'] := by
    rw [← String.toList_inj]
    simp
  rw [Bool.eq_iff_iff]
  simp [isIdle, hdot, and_comm]

section join

variable {root name : String}

theorem toList_join (hroot : root ≠ "") (hname : isAbsolute name = false) :
    (join root name).toList =
      if endsWithSlash root then root.toList ++ name.toList
      else root.toList ++ '/' :: name.toList := by
  have hempty : root.isEmpty = false := by simpa using hroot
  rw [join, hname, hempty, Bool.false_or]
  cases endsWithSlash root with
  | true => exact String.toList_append
  | false =>
    have happend : (root ++ "/" ++ name).toList = root.toList ++ '/' :: name.toList := by simp
    exact happend

theorem segments_join (hroot : root ≠ "") (hname : isAbsolute name = false) :
    segments (join root name) = segments root ++ segments name := by
  rw [segments, toList_join hroot hname]
  split
  · rename_i hslash
    obtain ⟨start, hstart⟩ : ∃ start, root.toList = start ++ ['/'] :=
      List.getLast?_eq_some_iff.mp (by simpa [endsWithSlash] using hslash)
    simp [segments, hstart, Text.split_append, Text.split]
  · simp [segments, Text.split_append]

theorem names_join (hroot : root ≠ "") (hname : isAbsolute name = false) :
    names (join root name) = names root ++ names name := by
  simp only [names_eq_filter_segments, segments_join hroot hname, List.filter_append]

theorem isAbsolute_join (hroot : root ≠ "") (hname : isAbsolute name = false) :
    isAbsolute (join root name) = isAbsolute root := by
  have hne : root.toList ≠ [] := by simpa using hroot
  obtain ⟨c, cs, hcs⟩ := List.exists_cons_of_ne_nil hne
  rw [isAbsolute, isAbsolute, toList_join hroot hname, hcs]
  split <;> rfl

theorem endsWithSlash_join (hroot : root ≠ "") (hname : isAbsolute name = false) :
    endsWithSlash (join root name) = (decide (name = "") || endsWithSlash name) := by
  rw [endsWithSlash, toList_join hroot hname]
  by_cases hempty : name = ""
  · subst hempty
    cases hslash : endsWithSlash root <;> simp_all [endsWithSlash]
  · obtain ⟨c, cs, hcs⟩ := List.exists_cons_of_ne_nil (by simpa using hempty : name.toList ≠ [])
    cases hslash : endsWithSlash root <;> simp [endsWithSlash, hcs, hempty, List.getLast?_append]

theorem steps_join (hroot : root ≠ "") (hname : isAbsolute name = false) (hne : name ≠ "") :
    steps (join root name) = segments root ++ steps name := by
  rw [steps_eq, steps_eq, segments_join hroot hname, endsWithSlash_join hroot hname]
  simp [hne]

theorem exists_join_eq_append (root name : String) (hname : isAbsolute name = false) :
    ∃ rest, join root name = root ++ rest := by
  rw [join, hname]
  split
  · contradiction
  split
  · exact ⟨name, rfl⟩
  · exact ⟨"/" ++ name, String.append_assoc⟩

end join

theorem steps_ne_nil {name : String} (hname : isAbsolute name = false) (hne : name ≠ "") :
    steps name ≠ [] := by
  obtain ⟨c, cs, hcs⟩ := List.exists_cons_of_ne_nil (by simpa using hne : name.toList ≠ [])
  have hc : c ≠ '/' := by simpa [isAbsolute, hcs] using hname
  obtain ⟨part, parts, hparts⟩ := List.exists_cons_of_ne_nil (Text.split_ne_nil '/' cs)
  simp [steps_eq, segments, hcs, Text.split_cons_of_ne hc hparts]

theorem ne_dot_of_mem_names {path name : String} (h : name ∈ names path) : name ≠ "." := by
  simpa [names] using (List.mem_filter.mp h).2

theorem mem_steps_of_mem_names {path name : String} (h : name ∈ names path) : name ∈ steps path :=
  (List.mem_filter.mp h).1

theorem isAbsolute_iff {path : String} : isAbsolute path = true ↔
    ∃ parts, parts ≠ [] ∧ Text.split '/' path.toList = [] :: parts := by
  rw [isAbsolute]
  cases path.toList with
  | nil => simp [Text.split]
  | cons c cs =>
    obtain ⟨part, parts, hparts⟩ := List.exists_cons_of_ne_nil (Text.split_ne_nil '/' cs)
    by_cases hc : c = '/'
    · simp [Text.split, hc, hparts]
    · simp [Text.split_cons_of_ne hc hparts, hc]

theorem endsWithSlash_eq_false {path : String} {init : List (List Char)} {last : List Char}
    (h : Text.split '/' path.toList = init ++ [last]) (hlast : last ≠ []) :
    endsWithSlash path = false := by
  by_contra hslash
  obtain ⟨start, hstart⟩ : ∃ start, path.toList = start ++ ['/'] :=
    List.getLast?_eq_some_iff.mp (by simpa [endsWithSlash] using hslash)
  rw [hstart, Text.split_append] at h
  exact hlast (List.append_inj_right' h rfl |> List.singleton_inj.mp).symm

theorem dropIdleEnd_concat (segments : List (List Char)) (last : List Char) :
    dropIdleEnd (segments ++ [last]) =
      if isIdle last then dropIdleEnd segments else segments ++ [last] :=
  List.rdropWhile_concat isIdle segments last

theorem filter_dropIdleEnd (segments : List (List Char)) :
    (dropIdleEnd segments).filter (!isIdle ·) = segments.filter (!isIdle ·) := by
  induction segments using List.reverseRecOn with
  | nil => rfl
  | append_singleton segments last ih =>
    rw [dropIdleEnd_concat]
    by_cases h : isIdle last = true
    · simp [ih, h]
    · rw [if_neg h]

theorem dropIdleEnd_eq (segments : List (List Char)) :
    dropIdleEnd segments = [] ∨
      ∃ init last, dropIdleEnd segments = init ++ [last] ∧ isIdle last = false := by
  induction segments using List.reverseRecOn with
  | nil => exact .inl rfl
  | append_singleton segments last ih =>
    rw [dropIdleEnd_concat]
    by_cases h : isIdle last = true
    · rwa [if_pos h]
    · rw [if_neg h]
      exact .inr ⟨segments, last, rfl, by simpa using h⟩

theorem isPrefix_dropIdleEnd (segments : List (List Char)) : dropIdleEnd segments <+: segments :=
  List.rdropWhile_prefix isIdle segments

/-- The last of the names on a path is its last step. -/
def Tidy (path : String) : Prop :=
  ∀ init name, names path = init ++ [name] →
    ∃ start, steps path = start ++ [name] ∧ start.filter (· != ".") = init

theorem tidy_of_names_eq_nil {path : String} (h : names path = []) : Tidy path := by
  intro init name hnames
  simp [h] at hnames

theorem tidy_of_split_eq {path : String} {init : List (List Char)} {last : List Char}
    (h : Text.split '/' path.toList = init ++ [last]) (hlast : isIdle last = false) :
    Tidy path := by
  have hne : last ≠ [] ∧ last ≠ ['.'] := by simpa [isIdle] using hlast
  have hsteps : steps path =
      (init.filter (!·.isEmpty)).map String.ofList ++ [String.ofList last] := by
    rw [steps_eq, endsWithSlash_eq_false h hne.1, segments, h]
    simp [hne.1]
  intro start name hnames
  have hdot : String.ofList last ≠ "." := by
    rw [ne_eq, ← String.toList_inj]
    simpa using hne.2
  rw [names, hsteps, List.filter_append, List.filter_singleton, bne_iff_ne.mpr hdot,
    cond_true] at hnames
  obtain ⟨hstart, hname⟩ := List.append_inj' hnames rfl
  rw [← List.singleton_inj.mp hname]
  exact ⟨_, hsteps, hstart⟩

/-- A path of segments, the first of which may be idle. -/
def ofSegments (start body : List (List Char)) : String :=
  if start = [[]] ∧ body = [] then "/" else String.ofList (Text.join '/' (start ++ body))

/-- Segments that start with an idle one apart from the others, or with none. -/
def Opening (start body : List (List Char)) : Prop :=
  (∃ first, start = [first] ∧ isIdle first = true) ∨
    start = [] ∧ ∀ first ∈ body.head?, isIdle first = false

section Opening

variable {path : String} {start body : List (List Char)}

theorem exists_opening (path : String) : ∃ start rest, Opening start rest ∧
    Text.split '/' path.toList = start ++ rest ∧
    ((Text.split '/' path.toList).take 1).filter isIdle = start := by
  obtain ⟨first, others, h⟩ := List.exists_cons_of_ne_nil (Text.split_ne_nil '/' path.toList)
  by_cases hidle : isIdle first = true
  · exact ⟨[first], others, .inl ⟨first, rfl, hidle⟩, h, by simp [h, hidle]⟩
  · exact ⟨[], first :: others, .inr ⟨rfl, by simpa using hidle⟩, h, by simp [h, hidle]⟩

theorem Opening.of_prefix {rest : List (List Char)} (h : Opening start rest)
    (hbody : body <+: rest) : Opening start body := by
  refine h.imp id fun ⟨hstart, hfirst⟩ => ⟨hstart, fun first hmem => hfirst first ?_⟩
  obtain ⟨more, rfl⟩ := hbody
  simp [List.head?_append, Option.mem_def.mp hmem]

theorem Opening.filter (h : Opening start body) : start.filter (!isIdle ·) = [] := by
  obtain ⟨first, rfl, hidle⟩ | ⟨rfl, _⟩ := h
  · simp [hidle]
  · rfl

theorem Opening.isAbsolute_eq (h : Opening start body) (hbody : body ≠ [])
    (hsplit : Text.split '/' path.toList = start ++ body) :
    isAbsolute path = decide (start = [[]]) := by
  rw [Bool.eq_iff_iff, isAbsolute_iff, hsplit, decide_eq_true_iff]
  obtain ⟨first, rfl, _⟩ | ⟨rfl, hfirst⟩ := h
  · simp [hbody]
  · obtain ⟨first, others, rfl⟩ := List.exists_cons_of_ne_nil hbody
    have hidle := hfirst first rfl
    have hne : first ≠ [] := by
      rintro rfl
      simp [isIdle] at hidle
    simp [hne]

theorem split_ofSegments (hne : start ++ body ≠ []) (hroot : ¬(start = [[]] ∧ body = []))
    (hslash : ∀ part ∈ start ++ body, '/' ∉ part) :
    Text.split '/' (ofSegments start body).toList = start ++ body := by
  rw [ofSegments, if_neg hroot, String.toList_ofList, Text.split_join hne hslash]

theorem Opening.ofSegments_spec (h : Opening start body)
    (hslash : ∀ part ∈ start ++ body, '/' ∉ part)
    (hbody : body = [] ∨ ∃ init last, body = init ++ [last] ∧ isIdle last = false) :
    names (ofSegments start body) = (body.filter (!isIdle ·)).map String.ofList ∧
      isAbsolute (ofSegments start body) = decide (start = [[]]) ∧
      Tidy (ofSegments start body) := by
  obtain rfl | ⟨init, last, rfl, hlast⟩ := hbody
  · -- nothing is left but the start, which is a slash, a dot or nothing
    obtain ⟨first, rfl, hidle⟩ | ⟨rfl, _⟩ := h
    · obtain rfl | rfl : first = [] ∨ first = ['.'] := by simpa [isIdle] using hidle
      · exact ⟨by decide, by decide, tidy_of_names_eq_nil (by decide)⟩
      · exact ⟨by decide, by decide, tidy_of_names_eq_nil (by decide)⟩
    · exact ⟨by decide, by decide, tidy_of_names_eq_nil (by decide)⟩
  · have hsplit : Text.split '/' (ofSegments start (init ++ [last])).toList =
        start ++ (init ++ [last]) := split_ofSegments (by simp) (by simp) hslash
    refine ⟨?_, h.isAbsolute_eq (by simp) hsplit, ?_⟩
    · rw [names_eq, hsplit, List.filter_append, h.filter, List.nil_append]
    · exact tidy_of_split_eq (hsplit.trans (List.append_assoc _ _ _).symm) hlast

end Opening

theorem parent?_eq {path : String} {start rest body : List (List Char)} {last : List Char}
    (hstart : ((Text.split '/' path.toList).take 1).filter isIdle = start)
    (hsplit : Text.split '/' path.toList = start ++ rest)
    (hbody : dropIdleEnd rest = body ++ [last]) :
    parent? path = some (ofSegments start (dropIdleEnd body)) := by
  have hrest : (Text.split '/' path.toList).drop start.length = rest := by simp [hsplit]
  unfold parent? ofSegments
  simp only [hstart, hrest]
  split
  · simp_all
  · rw [hbody, List.dropLast_concat]
    by_cases h : start = [[]] ∧ dropIdleEnd body = []
    · simp [h.1, h.2]
    · rw [if_neg h, if_neg (by simpa using h)]

theorem exists_parent? {path name : String} {init : List String}
    (h : names path = init ++ [name]) : ∃ above, parent? path = some above ∧
      names above = init ∧ isAbsolute above = isAbsolute path ∧ Tidy above := by
  obtain ⟨start, rest, hopening, hsplit, hstart⟩ := exists_opening path
  have hnames : (rest.filter (!isIdle ·)).map String.ofList = init ++ [name] := by
    rw [← h, names_eq, hsplit, List.filter_append, hopening.filter, List.nil_append]
  rw [← filter_dropIdleEnd] at hnames
  obtain hnil | ⟨body, last, hbody, hlast⟩ := dropIdleEnd_eq rest
  · simp [hnil] at hnames
  · rw [hbody, List.filter_append, List.filter_singleton, hlast, List.map_append] at hnames
    have hleft : dropIdleEnd body <+: rest := (isPrefix_dropIdleEnd body).trans
      ((List.prefix_append _ _).trans (hbody ▸ isPrefix_dropIdleEnd rest))
    have hslash (part : List Char) (hpart : part ∈ start ++ dropIdleEnd body) : '/' ∉ part := by
      have hall : start ++ dropIdleEnd body <+: Text.split '/' path.toList :=
        hsplit ▸ (List.prefix_append_right_inj start).mpr hleft
      exact Text.not_mem_of_mem_split (hall.subset hpart)
    obtain ⟨habove, habsolute, htidy⟩ :=
      (hopening.of_prefix hleft).ofSegments_spec hslash (dropIdleEnd_eq body)
    refine ⟨_, parent?_eq hstart hsplit hbody, ?_, ?_, htidy⟩
    · rw [habove, filter_dropIdleEnd]
      exact (List.append_inj' hnames rfl).1
    · have hrest : rest ≠ [] := by
        rintro rfl
        simp [dropIdleEnd] at hbody
      rw [habsolute, hopening.isAbsolute_eq hrest hsplit]

/-! ### Names on their own -/

/-- A name that stands for one step on a path. -/
structure IsName (name : String) : Prop where
  ne_empty : name ≠ ""
  ne_dot : name ≠ "."
  noSlash : '/' ∉ name.toList

theorem isName_of_mem_names {path name : String} (h : name ∈ names path) : IsName name := by
  rw [names_eq, List.mem_map] at h
  obtain ⟨part, hpart, rfl⟩ := h
  obtain ⟨hsplit, hidle⟩ := List.mem_filter.mp hpart
  have hne : part ≠ [] ∧ part ≠ ['.'] := by simpa [isIdle] using hidle
  refine ⟨by simpa using hne.1, ?_, by simpa using Text.not_mem_of_mem_split hsplit⟩
  rw [ne_eq, ← String.toList_inj]
  simpa using hne.2

theorem steps_of_isName {name : String} (h : IsName name) : steps name = [name] := by
  have hne : name.toList ≠ [] := by simpa using h.ne_empty
  have hsplit : Text.split '/' name.toList = [] ++ [name.toList] := Text.split_of_not_mem h.noSlash
  rw [steps_eq, endsWithSlash_eq_false hsplit hne, segments, hsplit]
  simp [hne]

theorem names_of_isName {name : String} (h : IsName name) : names name = [name] := by
  rw [names, steps_of_isName h]
  simp [h.ne_dot]

theorem isAbsolute_of_isName {name : String} (h : IsName name) : isAbsolute name = false := by
  by_contra habsolute
  have hhead : name.toList.head? = some '/' := by simpa [isAbsolute] using habsolute
  exact h.noSlash (List.mem_of_mem_head? hhead)

theorem names_foldl_join {way : List String} (hway : ∀ name ∈ way, IsName name) {path : String}
    (hpath : path ≠ "") : names (way.foldl join path) = names path ++ way := by
  induction way generalizing path with
  | nil => simp
  | cons name way ih =>
    obtain ⟨hname, hway⟩ := List.forall_mem_cons.mp hway
    have habsolute := isAbsolute_of_isName hname
    obtain ⟨rest, hrest⟩ := exists_join_eq_append path name habsolute
    have hjoin : join path name ≠ "" := by simp [hrest, hpath]
    rw [List.foldl_cons, ih hway hjoin, names_join hpath habsolute, names_of_isName hname,
      List.append_assoc, List.singleton_append]

theorem extension?_of_dot {name : String} {stem ext : List Char}
    (hname : name.toList = stem ++ '.' :: ext) (hext : '.' ∉ ext) :
    extension? name = if stem = [] then none else some (String.ofList ext) := by
  rw [extension?, hname, Text.split_append, Text.split_of_not_mem hext, List.reverse_append]
  cases stem with
  | nil => simp [Text.split]
  | cons c cs =>
    have hne : (Text.split '.' (c :: cs)).reverse ≠ [] := by simp [Text.split_ne_nil]
    have hone : (Text.split '.' (c :: cs)).reverse ≠ [[]] := by
      simpa using Text.split_ne_singleton_nil
    obtain ⟨last, before, hlast⟩ := List.exists_cons_of_ne_nil hne
    rw [hlast] at hone ⊢
    cases last <;> simp_all

/-- An extension is what follows the last dot of a name, if the name starts before it. -/
theorem extension?_eq_some {name ext : String} : extension? name = some ext ↔
    '.' ∉ ext.toList ∧ ∃ stem, stem ≠ "" ∧ name = stem ++ "." ++ ext := by
  constructor
  · intro h
    by_cases hdot : '.' ∈ name.toList
    · obtain ⟨after, stem, hname, hafter⟩ := List.eq_append_cons_of_mem (List.mem_reverse.mpr hdot)
      have hname : name.toList = stem.reverse ++ '.' :: after.reverse := by
        simpa using congrArg List.reverse hname
      rw [extension?_of_dot hname (by simpa using hafter)] at h
      split at h
      · contradiction
      · rename_i hstem
        obtain rfl := Option.some.inj h
        refine ⟨by simpa using hafter, String.ofList stem.reverse, by simpa using hstem, ?_⟩
        rw [← String.toList_inj]
        simp [hname]
    · simp [extension?, Text.split_of_not_mem hdot] at h
  · rintro ⟨hdot, stem, hstem, rfl⟩
    have hname : (stem ++ "." ++ ext).toList = stem.toList ++ '.' :: ext.toList := by simp
    rw [extension?_of_dot hname hdot, if_neg (by simpa using hstem), String.ofList_toList]

end CaseSuite.Path
