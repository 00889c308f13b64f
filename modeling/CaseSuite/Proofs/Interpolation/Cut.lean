import CaseSuite.Proofs.Marker
/-!
Texts cut at their markers. No marker starts before the first one of a cut, what follows it is cut
in the same way, and none starts in the last part. Every text has just one cut; it makes the pieces.
-/
set_option autoImplicit false

namespace CaseSuite

/-- A marker stands at the start of a text. -/
def Marker.Starts (cs : List Char) : Prop :=
  ∃ (m : Marker) (word rest : List Char), m.Spelled word ∧ cs = word ++ rest

/-- No marker starts in a part of a text that goes on with `after`. -/
def MarkerFree (part after : List Char) : Prop :=
  ∀ k < part.length, ¬ Marker.Starts ((part ++ after).drop k)

/-- The cut of a text: what stands before each marker, and what is left after the last one. -/
inductive Cut : List Char → List (List Char × Marker) → List Char → Prop
  | last {cs : List Char} : MarkerFree cs [] → Cut cs [] cs
  | marker {before word after last : List Char} {m : Marker} {found : List (List Char × Marker)} :
      MarkerFree before (word ++ after) → m.Spelled word → Cut after found last →
      Cut (before ++ (word ++ after)) ((before, m) :: found) last

theorem Marker.read_eq_none_iff {cs : List Char} : Marker.read cs = none ↔ ¬ Marker.Starts cs := by
  rw [Option.eq_none_iff_forall_ne_some]
  constructor
  · rintro h ⟨m, word, rest, hword⟩
    exact h _ (Marker.read_eq_some_iff.mpr ⟨word, hword⟩)
  · rintro h ⟨m, rest⟩ hread
    obtain ⟨word, hword⟩ := Marker.read_eq_some_iff.mp hread
    exact h ⟨m, word, rest, hword⟩

theorem Marker.Spelled.ne_nil {m : Marker} {word : List Char} (h : m.Spelled word) : word ≠ [] := by
  cases h
  exact List.cons_ne_nil _ _

theorem markerFree_nil (after : List Char) : MarkerFree [] after :=
  fun _ h => absurd h (Nat.not_lt_zero _)

theorem markerFree_cons {c : Char} {part after : List Char} :
    MarkerFree (c :: part) after ↔
      ¬ Marker.Starts (c :: (part ++ after)) ∧ MarkerFree part after := by
  constructor
  · intro h
    exact ⟨h 0 (Nat.zero_lt_succ _), fun k hk => h (k + 1) (Nat.succ_lt_succ hk)⟩
  · rintro ⟨hstart, hpart⟩ k hk
    cases k with
    | zero => exact hstart
    | succ k => exact hpart k (Nat.lt_of_succ_lt_succ hk)

/-! ### Pieces -/

theorem piecesAfter_eq (skip : Nat) (cs : List Char) :
    piecesAfter skip cs = piecesAfter 0 (cs.drop skip) := by
  induction cs generalizing skip with
  | nil => cases skip <;> rfl
  | cons c cs ih =>
    cases skip with
    | zero => rfl
    | succ skip => exact ih skip

theorem MarkerFree.piecesAfter_append {part after : List Char} (h : MarkerFree part after) :
    piecesAfter 0 (part ++ after) = part.map .char ++ piecesAfter 0 after := by
  induction part with
  | nil => rfl
  | cons c part ih =>
    obtain ⟨hstart, hpart⟩ := markerFree_cons.mp h
    rw [List.cons_append, piecesAfter, Marker.read_eq_none_iff.mpr hstart]
    simp only [ih hpart, List.map_cons, List.cons_append]

theorem Marker.Spelled.piecesAfter_append {m : Marker} {word : List Char} (h : m.Spelled word)
    (after : List Char) : piecesAfter 0 (word ++ after) = .marker m :: piecesAfter 0 after := by
  have hread := Marker.read_append h after
  cases word with
  | nil => exact absurd rfl h.ne_nil
  | cons c word =>
    have hskip : (word ++ after).length - after.length = word.length := by simp
    rw [List.cons_append] at hread
    rw [List.cons_append, piecesAfter, hread]
    simp only [hskip]
    rw [piecesAfter_eq, List.drop_left]

/-- The pieces of a cut, in its order. -/
def piecesOf : List (List Char × Marker) → List Char → List Piece
  | [], last => last.map .char
  | (before, m) :: found, last => before.map .char ++ .marker m :: piecesOf found last

variable {cs last last' : List Char} {found found' : List (List Char × Marker)}

theorem Cut.piecesAfter_eq (h : Cut cs found last) : piecesAfter 0 cs = piecesOf found last := by
  induction h with
  | @last cs hfree =>
    have hpieces := hfree.piecesAfter_append
    rwa [List.append_nil, piecesAfter, List.append_nil] at hpieces
  | marker hfree hword _ ih =>
    rw [hfree.piecesAfter_append, hword.piecesAfter_append, ih, piecesOf]

/-- A third brace is text, and markers may touch. -/
example : pieces "\x7b\x7b\x7b a \x7d\x7d\x7d\x7b\x7bb|quote\x7d\x7d" =
    [.char '\x7b', .marker ⟨"a", none⟩, .char '\x7d', .marker ⟨"b", some "quote"⟩] := by
  decide +kernel

theorem append_marker_inj {before before' : List Char} {m m' : Marker} {ps ps' : List Piece}
    (h : before.map .char ++ .marker m :: ps = before'.map .char ++ .marker m' :: ps') :
    before = before' ∧ m = m' ∧ ps = ps' := by
  induction before generalizing before' with
  | nil =>
    cases before' with
    | nil => simpa using h
    | cons c before' => simp at h
  | cons c before ih =>
    cases before' with
    | nil => simp at h
    | cons c' before' =>
      rw [List.map_cons, List.map_cons, List.cons_append, List.cons_append, List.cons.injEq] at h
      obtain ⟨hc, hrest⟩ := h
      obtain ⟨rfl, hm, hps⟩ := ih hrest
      rw [Piece.char.inj hc]
      exact ⟨rfl, hm, hps⟩

theorem not_mem_map_char (m : Marker) (cs : List Char) : Piece.marker m ∉ cs.map .char := by
  simp

theorem piecesOf_inj (h : piecesOf found last = piecesOf found' last') :
    found = found' ∧ last = last' := by
  induction found generalizing found' with
  | nil =>
    cases found' with
    | nil => exact ⟨rfl, List.map_injective_iff.mpr (fun _ _ => Piece.char.inj) h⟩
    | cons part found' =>
      exact absurd (by rw [← piecesOf, h]; simp [piecesOf]) (not_mem_map_char part.2 last)
  | cons part found ih =>
    cases found' with
    | nil => exact absurd (by rw [← piecesOf, ← h]; simp [piecesOf]) (not_mem_map_char part.2 last')
    | cons part' found' =>
      obtain ⟨hbefore, hm, hrest⟩ := append_marker_inj h
      obtain ⟨rfl, hlast⟩ := ih hrest
      exact ⟨by rw [Prod.ext hbefore hm], hlast⟩

/-! ### Every text has one cut -/

theorem exists_cut (cs : List Char) : ∃ found last, Cut cs found last := by
  induction hlen : cs.length using Nat.strongRecOn generalizing cs with
  | ind n ih =>
    cases cs with
    | nil => exact ⟨[], [], .last (markerFree_nil [])⟩
    | cons c cs =>
      by_cases hstart : Marker.Starts (c :: cs)
      · obtain ⟨m, word, after, hword, heq⟩ := hstart
        have hshorter : after.length < n := by
          have hpos := List.length_pos_iff.mpr hword.ne_nil
          rw [← hlen, heq, List.length_append]
          omega
        obtain ⟨found, last, hcut⟩ := ih _ hshorter after rfl
        rw [heq]
        exact ⟨_, last, .marker (markerFree_nil _) hword hcut⟩
      · obtain ⟨found, last, hcut⟩ := ih cs.length (by rw [← hlen, List.length_cons]; omega) cs rfl
        cases hcut with
        | last hfree =>
          exact ⟨[], c :: cs, .last (markerFree_cons.mpr ⟨by rwa [List.append_nil], hfree⟩)⟩
        | marker hfree hword hafter =>
          have hfree := markerFree_cons.mpr ⟨hstart, hfree⟩
          exact ⟨_, last, .marker hfree hword hafter⟩

theorem Cut.unique (h : Cut cs found last) (h' : Cut cs found' last') :
    found = found' ∧ last = last' :=
  piecesOf_inj (h.piecesAfter_eq.symm.trans h'.piecesAfter_eq)

theorem cut_iff : Cut cs found last ↔ piecesAfter 0 cs = piecesOf found last := by
  refine ⟨Cut.piecesAfter_eq, fun h => ?_⟩
  obtain ⟨found', last', hcut⟩ := exists_cut cs
  obtain ⟨rfl, rfl⟩ := piecesOf_inj (hcut.piecesAfter_eq.symm.trans h)
  exact hcut

theorem Cut.last_eq (h : Cut cs [] last) : last = cs := by
  cases h
  rfl

theorem Cut.spelled_iff (h : Cut cs found last) {m : Marker} :
    m.Spelled cs ↔ found = [([], m)] ∧ last = [] := by
  constructor
  · intro hword
    have hwhole : Cut ([] ++ (cs ++ [])) [([], m)] [] :=
      .marker (markerFree_nil _) hword (.last (markerFree_nil []))
    rw [List.nil_append, List.append_nil] at hwhole
    exact h.unique hwhole
  · rintro ⟨rfl, rfl⟩
    cases h with
    | marker _ hword hafter =>
      cases hafter
      rwa [List.nil_append, List.append_nil]

end CaseSuite
