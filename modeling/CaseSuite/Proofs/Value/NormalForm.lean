import CaseSuite.Proofs.Text.Order
import CaseSuite.Proofs.Value.Normal
/-!
The normal form of a value, kind by kind. Encoding a value as JSON and decoding that gives this
form, and so does reading the compact text, where no floats are in it.
-/
set_option autoImplicit false

namespace CaseSuite

/-- The keys rise, as they are compared by their bytes. -/
def BytesRise (es : List (String × Value)) : Prop :=
  es.Pairwise fun e f => e.1.toUTF8.data.toList < f.1.toUTF8.data.toList

mutual

/-- The second value is the normal form of the first one: the same tree with bytes and instants as
their text, null for floats that are not finite, and the entries of objects sorted by their keys. -/
inductive Value.HasNormal : Value → Value → Prop
  | null : Value.HasNormal .null .null
  | bool (b : Bool) : Value.HasNormal (.bool b) (.bool b)
  | int (n : Int64) : Value.HasNormal (.int n) (.int n)
  | finite {x : Float} : x.isFinite = true → Value.HasNormal (.float x) (.float x)
  | notFinite {x : Float} : x.isFinite = false → Value.HasNormal (.float x) .null
  | str (s : String) : Value.HasNormal (.str s) (.str s)
  | bytes (b : ByteArray) : Value.HasNormal (.bytes b) (.str (Utf8.text b))
  | time (t : Instant) : Value.HasNormal (.time t) (.str t.text)
  | list {vs ws : List Value} : ItemsHaveNormal vs ws → Value.HasNormal (.list vs) (.list ws)
  | object {es fs sorted : List (String × Value)} : EntriesHaveNormal es fs → fs.Perm sorted →
      BytesRise sorted → Value.HasNormal (.object es) (.object sorted)

/-- Item by item. -/
inductive ItemsHaveNormal : List Value → List Value → Prop
  | nil : ItemsHaveNormal [] []
  | cons {v w : Value} {vs ws : List Value} :
      Value.HasNormal v w → ItemsHaveNormal vs ws → ItemsHaveNormal (v :: vs) (w :: ws)

/-- Entry by entry, under the same keys. -/
inductive EntriesHaveNormal : List (String × Value) → List (String × Value) → Prop
  | nil : EntriesHaveNormal [] []
  | cons {key : String} {v w : Value} {es fs : List (String × Value)} :
      Value.HasNormal v w → EntriesHaveNormal es fs →
      EntriesHaveNormal ((key, v) :: es) ((key, w) :: fs)

end

theorem bytesRise_iff_rising {es : Entries Value} : BytesRise es ↔ es.Rising := by
  simp only [BytesRise, Utf8.bytes_lt_iff]
  exact List.pairwise_map.symm

theorem sort_eq_of_perm {es sorted : Entries Value} (hd : es.Distinct) (h : es.Perm sorted)
    (hrise : BytesRise sorted) : es.sort = sorted :=
  (Entries.rising_sort es).eq_of_find? (bytesRise_iff_rising.mp hrise) fun name =>
    (hd.find?_sort name).trans (hd.find?_perm h name)

theorem distinct_mapValues_normal {es : Entries Value} (h : entriesDistinct es) :
    (es.mapValues Value.normal).Distinct := by
  rw [Entries.Distinct, Entries.names_mapValues]
  exact entriesDistinct_names h

namespace Value

mutual

theorem hasNormal_iff : (v : Value) → v.Distinct → {w : Value} → (v.HasNormal w ↔ w = v.normal)
  | .list vs, hd, w => by
    rw [normal_list]
    constructor
    · intro h
      cases h with
      | list h => rw [(itemsHaveNormal_iff vs hd).mp h]
    · rintro rfl
      exact .list ((itemsHaveNormal_iff vs hd).mpr rfl)
  | .object es, hd, w => by
    have hdistinct := distinct_mapValues_normal hd
    rw [normal_object]
    constructor
    · intro h
      cases h with
      | object hes hperm hrise =>
        obtain rfl := (entriesHaveNormal_iff es hd).mp hes
        rw [sort_eq_of_perm hdistinct hperm hrise]
    · rintro rfl
      exact .object ((entriesHaveNormal_iff es hd).mpr rfl) hdistinct.perm_sort
        (bytesRise_iff_rising.mpr (Entries.rising_sort _))
  | .float x, _, w => by
    cases hx : x.isFinite with
    | true =>
      have hnormal : (Value.float x).normal = .float x := by simp [normal, toJson, ofJson, hx]
      rw [hnormal]
      constructor
      · intro h
        cases h with
        | finite => rfl
        | notFinite hx' => simp [hx] at hx'
      · rintro rfl
        exact .finite hx
    | false =>
      have hnormal : (Value.float x).normal = .null := by simp [normal, toJson, ofJson, hx]
      rw [hnormal]
      constructor
      · intro h
        cases h with
        | finite hx' => simp [hx] at hx'
        | notFinite => rfl
      · rintro rfl
        exact .notFinite hx
  | .null, _, _ => ⟨fun h => by cases h; rfl, fun h => h ▸ .null⟩
  | .bool b, _, _ => ⟨fun h => by cases h; rfl, fun h => h ▸ .bool b⟩
  | .int n, _, _ => ⟨fun h => by cases h; rfl, fun h => h ▸ .int n⟩
  | .str s, _, _ => ⟨fun h => by cases h; rfl, fun h => h ▸ .str s⟩
  | .bytes b, _, _ => ⟨fun h => by cases h; rfl, fun h => h ▸ .bytes b⟩
  | .time t, _, _ => ⟨fun h => by cases h; rfl, fun h => h ▸ .time t⟩

theorem itemsHaveNormal_iff : (vs : List Value) → itemsDistinct vs → {ws : List Value} →
    (ItemsHaveNormal vs ws ↔ ws = vs.map normal)
  | [], _, _ => ⟨fun h => by cases h; rfl, fun h => h ▸ .nil⟩
  | v :: vs, hd, ws => by
    constructor
    · intro h
      cases h with
      | cons hv hvs =>
        rw [(hasNormal_iff v hd.1).mp hv, (itemsHaveNormal_iff vs hd.2).mp hvs,
          List.map_cons]
    · rintro rfl
      exact .cons ((hasNormal_iff v hd.1).mpr rfl) ((itemsHaveNormal_iff vs hd.2).mpr rfl)

theorem entriesHaveNormal_iff : (es : List (String × Value)) → entriesDistinct es →
    {fs : List (String × Value)} →
    (EntriesHaveNormal es fs ↔ fs = Entries.mapValues normal es)
  | [], _, _ => ⟨fun h => by cases h; rfl, fun h => h ▸ .nil⟩
  | (key, v) :: es, hd, fs => by
    constructor
    · intro h
      cases h with
      | cons hv hes =>
        rw [(hasNormal_iff v hd.2.1).mp hv, (entriesHaveNormal_iff es hd.2.2).mp hes,
          Entries.mapValues_cons]
    · rintro rfl
      exact .cons ((hasNormal_iff v hd.2.1).mpr rfl)
        ((entriesHaveNormal_iff es hd.2.2).mpr rfl)

end

/-- Decoding the JSON form of a value gives its normal form, which has no other normal form than
itself. Without floats the compact text of the JSON form is read as the normal form, too. -/
theorem hasNormal_ofJson {v : Value} (hd : v.Distinct) :
    (∀ w, v.HasNormal w ↔ w = ofJson v.toJson) ∧
      ofJson (ofJson v.toJson).toJson = ofJson v.toJson ∧
      (v.Every (·.kind ≠ "float") → v.depth ≤ 127 →
        readJson v.toJson.print.toUTF8 = .ok (ofJson v.toJson)) :=
  ⟨fun _ => v.hasNormal_iff hd, congrArg ofJson (toJson_normal v), readJson_print⟩

/-- Keys that do not rise, bytes that are no text of their own, an instant and the least integer. -/
def sampleRecord : Value := .object [
  ("z", .list [.bytes ⟨#[0x61, 0xff]⟩, .int (-0x8000000000000000)]),
  ("a", .object [("\\", .time ⟨86400, 0, by decide, by decide, by decide⟩), ("\"", .null)])]

def sampleRecordNormal : Value := .object [
  ("a", .object [("\"", .null), ("\\", .str "1970-01-02T00:00:00Z")]),
  ("z", .list [.str "a\ufffd", .int (-0x8000000000000000)])]

theorem hasNormal_ofJson_sampleRecord :
    sampleRecord.Distinct ∧ sampleRecord.Every (·.kind ≠ "float") ∧ sampleRecord.depth ≤ 127 ∧
      sampleRecord.HasNormal sampleRecordNormal ∧
      readJson sampleRecord.toJson.print.toUTF8 = .ok sampleRecordNormal := by
  have hdistinct : sampleRecord.Distinct := by
    simp [sampleRecord, Distinct, entriesDistinct, itemsDistinct]
  have hfloat : sampleRecord.Every (·.kind ≠ "float") := by
    simp [sampleRecord, Every, entriesEvery, itemsEvery, kind]
  have hdepth : sampleRecord.depth ≤ 127 := by decide
  have hnormal : sampleRecordNormal = ofJson sampleRecord.toJson := rfl
  obtain ⟨hiff, -, hread⟩ := hasNormal_ofJson hdistinct
  exact ⟨hdistinct, hfloat, hdepth, (hiff _).mpr hnormal, hnormal ▸ hread hfloat hdepth⟩

end Value

end CaseSuite
