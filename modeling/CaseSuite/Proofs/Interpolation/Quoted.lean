import CaseSuite.Proofs.Interpolation.Filled
import CaseSuite.Proofs.Value.Normal
/-!
Values put into a text between quotes. Between double quotes the text of any value is one JSON
string. Between single quotes only quotes are written with a backslash before them, so that a text
which ends with a backslash takes the closing quote away from its literal.
-/
set_option autoImplicit false

namespace CaseSuite

section MarkerFree

variable {part after : List Char}

theorem Marker.Starts.head?_eq {cs : List Char} (h : Marker.Starts cs) :
    cs.head? = some '\x7b' := by
  obtain ⟨_, _, _, hword, rfl⟩ := h
  cases hword
  rfl

theorem markerFree_of_not_mem (h : '\x7b' ∉ part) (after : List Char) : MarkerFree part after := by
  induction part with
  | nil => exact markerFree_nil after
  | cons c part ih =>
    rw [List.mem_cons, not_or] at h
    refine markerFree_cons.mpr ⟨fun hstarts => h.1 ?_, ih h.2⟩
    exact (Option.some.inj hstarts.head?_eq).symm

end MarkerFree

/-! ### One marker in a text -/

section marker

variable {vars : VariableStore} {m : Marker} {word : List Char} {v : Value} {left right : String}

theorem interpolate_of_resolve (hresolve : Interpolator.standard.resolve vars m = .ok v)
    (hword : m.Spelled word) : interpolate (.str (String.ofList word)) vars = .ok v := by
  have hcut : Cut (String.ofList word).toList [([], m)] [] := by
    have hwhole := Cut.marker (markerFree_nil _) hword (.last (markerFree_nil []))
    simpa using hwhole
  have hall : m.Spelled (String.ofList word).toList := by simpa
  exact (Interpolator.string_of_spelled hcut hall).trans hresolve

theorem cut_between (hword : m.Spelled word) (hleft : '\x7b' ∉ left.toList)
    (hright : '\x7b' ∉ right.toList) :
    Cut (left ++ String.ofList word ++ right).toList [(left.toList, m)] right.toList := by
  have hmarker := Cut.marker (markerFree_of_not_mem hleft (word ++ right.toList)) hword
    (.last (markerFree_of_not_mem hright []))
  simpa using hmarker

theorem interpolate_between_of_resolve
    (hresolve : Interpolator.standard.resolve vars m = .ok v) (hword : m.Spelled word)
    (hleft : '\x7b' ∉ left.toList) (hright : '\x7b' ∉ right.toList)
    (hne : left ≠ "" ∨ right ≠ "") :
    interpolate (.str (left ++ String.ofList word ++ right)) vars =
      .ok (.str (left ++ v.text ++ right)) := by
  have hcut := cut_between hword hleft hright
  have hnot (other : Marker) : ¬ other.Spelled (left ++ String.ofList word ++ right).toList := by
    intro hother
    obtain ⟨hfound, hlast⟩ := hcut.spelled_iff.mp hother
    obtain hleft | hright := hne
    · exact hleft (by simpa using (Prod.ext_iff.mp (List.singleton_inj.mp hfound)).1)
    · exact hright (by simpa using hlast)
  have hfill : Interpolator.standard.fill vars [(left.toList, m)] right.toList =
      .ok (left.toList ++ (v.text.toList ++ right.toList)) := by
    rw [Interpolator.fill, hresolve]
    simp [Interpolator.fill, bind, Except.bind, pure, Except.pure]
  have htext : String.ofList (left.toList ++ (v.text.toList ++ right.toList)) =
      left ++ v.text ++ right := by
    rw [← String.toList_inj]
    simp
  calc interpolate (.str (left ++ String.ofList word ++ right)) vars
    _ = (fun cs => .str (String.ofList cs)) <$>
          Interpolator.standard.fill vars [(left.toList, m)] right.toList :=
        Interpolator.string_of_not_spelled hcut hnot
    _ = .ok (.str (left ++ v.text ++ right)) := by
        rw [hfill, ← htext]
        rfl

end marker

/-! ### Double quotes -/

section quote

variable {vars : VariableStore} {name : String} {v : Value} {word : List Char}

theorem readJson_stringChars (s : String) :
    Value.readJson (String.ofList (Json.stringChars s)).toUTF8 = .ok (.str s) := by
  have hprint : (Value.str s).toJson.print = String.ofList (Json.stringChars s) := by
    rw [Value.toJson, Json.print, Json.chars]
  have hfloat : (Value.str s).Every (·.kind ≠ "float") := by simp [Value.Every, Value.kind]
  rw [← hprint, Value.readJson_print hfloat (Nat.zero_le _)]
  rfl

/-- A marker for a variable between double quotes stands for the quoted text of its value. -/
theorem Interpolator.resolve_quote (hname : Marker.Run Text.isWord name.toList)
    (h : vars.get? name = some v) :
    standard.resolve vars ⟨name, some "quote"⟩ =
      .ok (.str (String.ofList (Json.stringChars v.text))) := by
  have hdots : '.' ∉ name.toList := fun hmem => by
    have hdot := hname.all '.' hmem
    revert hdot
    decide +kernel
  rw [resolve, VariableStore.lookup_of_get? hdots h]
  rfl

/-- The text of a variable between double quotes is JSON for this text, and nothing in it is read as
a marker again: it is put between the texts around it as it is. -/
theorem interpolate_quote (hname : Marker.Run Text.isWord name.toList)
    (h : vars.get? name = some v) (hword : Marker.Spelled ⟨name, some "quote"⟩ word) :
    ∃ quoted : String, Value.readJson quoted.toUTF8 = .ok (.str v.text) ∧
      interpolate (.str (String.ofList word)) vars = .ok (.str quoted) ∧
      ∀ left right : String, '\x7b' ∉ left.toList → '\x7b' ∉ right.toList →
        left ≠ "" ∨ right ≠ "" →
        interpolate (.str (left ++ String.ofList word ++ right)) vars =
          .ok (.str (left ++ quoted ++ right)) := by
  have hresolve := Interpolator.resolve_quote hname h
  refine ⟨String.ofList (Json.stringChars v.text), readJson_stringChars v.text,
    interpolate_of_resolve hresolve hword, fun left right hleft hright hne => ?_⟩
  have hbetween := interpolate_between_of_resolve hresolve hword hleft hright hne
  rwa [Value.text] at hbetween

/-- A value whose text holds quotes, backslashes, and what looks like a marker. -/
def quotedItems : Value := .list [.str "say \"a\\b\"\n\x7b\x7b k \x7d\x7d", .int 7]

theorem interpolate_quote_quotedItems :
    Marker.Run Text.isWord "k".toList ∧
      Marker.Spelled ⟨"k", some "quote"⟩ "\x7b\x7b k | quote \x7d\x7d".toList ∧
      ∃ quoted : String, Value.readJson quoted.toUTF8 = .ok (.str quotedItems.text) ∧
        interpolate (.str "q = \x7b\x7b k | quote \x7d\x7d;") (.save .empty "k" quotedItems) =
          .ok (.str ("q = " ++ quoted ++ ";")) := by
  have hname : Marker.Run Text.isWord "k".toList :=
    ⟨by decide, List.all_eq_true.mp (by decide +kernel)⟩
  have hread : Marker.read "\x7b\x7b k | quote \x7d\x7d".toList =
      some (⟨"k", some "quote"⟩, []) := by decide +kernel
  obtain ⟨word, hword, heq⟩ := Marker.exists_spelled hread
  rw [List.append_nil] at heq
  rw [← heq] at hword
  obtain ⟨quoted, hquoted, -, hbetween⟩ :=
    interpolate_quote hname (VariableStore.get?_save .empty "k" quotedItems) hword
  exact ⟨hname, hword, quoted, hquoted,
    hbetween "q = " ";" (by decide) (by decide) (.inl (by decide))⟩

end quote

/-! ### Single quotes -/

/-- Reads the text of a literal in single quotes after its opening quote: a quote after a backslash
is a character of the text, and any other quote ends it. Returns what comes after the literal,
too. -/
def readSingleQuoted : List Char → Option (List Char × List Char)
  | [] => none
  | '\\' :: '\'' :: cs => (readSingleQuoted cs).map fun (text, rest) => ('\'' :: text, rest)
  | '\'' :: cs => some ([], cs)
  | c :: cs => (readSingleQuoted cs).map fun (text, rest) => (c :: text, rest)

/-- Reads a literal in single quotes at the start of a text. -/
def readLiteral : List Char → Option (List Char × List Char)
  | '\'' :: cs => readSingleQuoted cs
  | _ => none

/-- How a character is written between single quotes. -/
def singleEscaped (c : Char) : List Char := if c == '\'' then ['\\', '\''] else [c]

section singleQuote

variable {c : Char} {cs rest : List Char}

theorem readSingleQuoted_cons (hquote : c ≠ '\'') (h : c = '\\' → cs.head? ≠ some '\'') :
    readSingleQuoted (c :: cs) =
      (readSingleQuoted cs).map fun (text, rest) => (c :: text, rest) := by
  refine readSingleQuoted.eq_4 c cs (fun more hc hcs => ?_) hquote
  exact h hc (by rw [hcs, List.head?_cons])

theorem head?_flatMap_singleEscaped (c : Char) (cs rest : List Char) :
    ((c :: cs).flatMap singleEscaped ++ rest).head? ≠ some '\'' := by
  by_cases hquote : c = '\'' <;> simp [singleEscaped, hquote]

/-- One written character is read back, unless it is a backslash before a quote. -/
theorem readSingleQuoted_append (h : c = '\\' → cs.head? ≠ some '\'') :
    readSingleQuoted (singleEscaped c ++ cs) =
      (readSingleQuoted cs).map fun (text, rest) => (c :: text, rest) := by
  by_cases hquote : c = '\''
  · subst hquote
    rfl
  · rw [singleEscaped, if_neg (by simpa using hquote), List.singleton_append,
      readSingleQuoted_cons hquote h]

/-- Written characters are read back up to the closing quote. A backslash at the end makes that
quote a part of the text, which goes on after it. -/
theorem readSingleQuoted_flatMap (cs rest : List Char) :
    readSingleQuoted (cs.flatMap singleEscaped ++ '\'' :: rest) =
      if cs.getLast? = some '\\' then
        (readSingleQuoted rest).map fun (text, rest) => (cs.dropLast ++ '\'' :: text, rest)
      else some (cs, rest) := by
  induction cs with
  | nil => rfl
  | cons c cs ih =>
    rw [List.flatMap_cons, List.append_assoc]
    cases cs with
    | nil =>
      by_cases hslash : c = '\\'
      · subst hslash
        rfl
      · rw [readSingleQuoted_append (absurd · hslash), ih]
        simp [hslash]
    | cons d ds =>
      rw [readSingleQuoted_append fun _ => head?_flatMap_singleEscaped d ds _, ih,
        List.getLast?_cons_cons, List.dropLast_cons_cons]
      split
      · simp [Option.map_map, Function.comp_def]
      · rfl

theorem map_cons_eq_some {read : Option (List Char × List Char)} {text : List Char} :
    (read.map fun (text, rest) => (c :: text, rest)) = some (text, rest) ↔
      ∃ more, text = c :: more ∧ read = some (more, rest) := by
  simp only [Option.map_eq_some_iff, Prod.exists, Prod.mk.injEq]
  constructor
  · rintro ⟨more, _, hread, rfl, rfl⟩
    exact ⟨more, rfl, hread⟩
  · rintro ⟨more, rfl, hread⟩
    exact ⟨more, rest, hread, rfl, rfl⟩

theorem exists_of_readSingleQuoted_nil (h : readSingleQuoted cs = some ([], rest)) :
    ∃ more, cs = '\'' :: more := by
  revert h
  fun_cases readSingleQuoted cs <;> simp [*]

/-- No literal is read as a text that ends with a backslash: the quote after it does not close. -/
theorem getLast?_ne_of_readSingleQuoted {text : List Char}
    (h : readSingleQuoted cs = some (text, rest)) : text.getLast? ≠ some '\\' := by
  fun_induction readSingleQuoted cs generalizing text with
  | case1 => contradiction
  | case2 cs ih =>
    obtain ⟨more, rfl, hmore⟩ := map_cons_eq_some.mp h
    cases more with
    | nil => simp
    | cons d ds =>
      rw [List.getLast?_cons_cons]
      exact ih hmore
  | case3 cs =>
    obtain ⟨rfl, -⟩ := Prod.ext_iff.mp (Option.some.inj h)
    simp
  | case4 c cs hpair hquote ih =>
    obtain ⟨more, rfl, hmore⟩ := map_cons_eq_some.mp h
    cases more with
    | nil =>
      obtain ⟨ds, rfl⟩ := exists_of_readSingleQuoted_nil hmore
      simpa using fun hslash => hpair ds hslash rfl
    | cons d ds =>
      rw [List.getLast?_cons_cons]
      exact ih hmore

theorem getLast?_ne_of_readLiteral {text : List Char} (h : readLiteral cs = some (text, rest)) :
    text.getLast? ≠ some '\\' := by
  revert h
  fun_cases readLiteral cs
  · exact getLast?_ne_of_readSingleQuoted
  · simp

/-- What the standard helper puts between single quotes is one literal for the text of the value,
with nothing left of it, unless the text ends with a backslash. There is no literal for such a text,
and none ends in what the helper gives. -/
theorem readLiteral_singleQuote (v : Value) :
    ∃ helper literal, Interpolator.standard.helpers.find? "singlequote" = some helper ∧
      helper v = .ok (.str literal) ∧
      (v.text.toList.getLast? ≠ some '\\' → readLiteral literal.toList = some (v.text.toList, [])) ∧
      (v.text.toList.getLast? = some '\\' → readLiteral literal.toList = none ∧
        ∀ other rest, readLiteral other ≠ some (v.text.toList, rest)) := by
  refine ⟨_, _, rfl, rfl, ?_⟩
  rw [String.toList_ofList]
  have hread := readSingleQuoted_flatMap v.text.toList []
  refine ⟨fun hlast => hread.trans (if_neg hlast), fun hlast => ⟨hread.trans (if_pos hlast), ?_⟩⟩
  exact fun other rest hother => getLast?_ne_of_readLiteral hother hlast

/-- A path of another system ends with a backslash, and is not read back. -/
theorem exists_readLiteral_none :
    ∃ helper v literal, Interpolator.standard.helpers.find? "singlequote" = some helper ∧
      helper v = .ok (.str literal) ∧ readLiteral literal.toList ≠ some (v.text.toList, []) :=
  ⟨_, .str "C:\\", _, rfl, rfl, by decide⟩

end singleQuote

end CaseSuite
