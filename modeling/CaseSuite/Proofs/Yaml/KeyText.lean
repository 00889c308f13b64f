import CaseSuite.Proofs.Entries.Overlay
import CaseSuite.Proofs.Outcome
import CaseSuite.Yaml.Data
/-!
Mappings as objects. The keys of a mapping become texts, and keys that differ can have the same one:
then only one of their entries is left. All entries are kept exactly where the texts stay apart.
-/
set_option autoImplicit false

namespace CaseSuite.Yaml

mutual

/-- The value is what the data stand for, with nothing lost: in place of each mapping, those inside
of keys included, there is an object with one entry for each entry of the mapping, in this order, and
under the text of each key stands the value of that key. -/
inductive Data.Kept : Data → Value → Prop
  | null : Data.Kept .null .null
  | bool (b : Bool) : Data.Kept (.bool b) (.bool b)
  | int (n : Int) : Data.Kept (.int n) (intValue n)
  | float (x : Float) : Data.Kept (.float x) (.float x)
  | text (s : String) : Data.Kept (.text s) (.str s)
  | list {items : List Data} {values : List Value} :
      ItemsKept items values → Data.Kept (.list items) (.list values)
  | map {entries : List (Data × Data)} {es : List (String × Value)} : EntriesKept entries es →
      (∀ entry ∈ entries, Entries.find? entry.1.keyText es = some entry.2.toValue) →
      Data.Kept (.map entries) (.object es)
  | tagged {tag : String} {content : Data} {v : Value} :
      Data.Kept content v → Data.Kept (.tagged tag content) v

/-- Item by item. -/
inductive ItemsKept : List Data → List Value → Prop
  | nil : ItemsKept [] []
  | cons {item : Data} {v : Value} {items : List Data} {values : List Value} :
      Data.Kept item v → ItemsKept items values → ItemsKept (item :: items) (v :: values)

/-- Entry by entry, each under the text of its key. -/
inductive EntriesKept : List (Data × Data) → List (String × Value) → Prop
  | nil : EntriesKept [] []
  | cons {key value : Data} {v : Value} {entries : List (Data × Data)}
      {es : List (String × Value)} : Data.Kept key key.toValue → Data.Kept value v →
      EntriesKept entries es → EntriesKept ((key, value) :: entries) ((key.keyText, v) :: es)

end

mutual

/-- Every mapping in the data, those inside of keys included, is as asked for. -/
def Data.EveryMapping (P : List (Data × Data) → Prop) : Data → Prop
  | .list items => itemsEveryMapping P items
  | .map entries => P entries ∧ entriesEveryMapping P entries
  | .tagged _ content => content.EveryMapping P
  | _ => True

def itemsEveryMapping (P : List (Data × Data) → Prop) : List Data → Prop
  | [] => True
  | item :: items => item.EveryMapping P ∧ itemsEveryMapping P items

def entriesEveryMapping (P : List (Data × Data) → Prop) : List (Data × Data) → Prop
  | [] => True
  | (key, value) :: entries =>
    key.EveryMapping P ∧ value.EveryMapping P ∧ entriesEveryMapping P entries

end

/-- No two keys of the mapping have the same text. -/
def TextsApart (entries : List (Data × Data)) : Prop :=
  (entries.map fun entry => entry.1.keyText).Nodup

namespace Data

theorem toEntries_eq (entries : List (Data × Data)) :
    toEntries entries = entries.map fun entry => (entry.1.keyText, entry.2.toValue) := by
  induction entries with
  | nil => rfl
  | cons entry entries ih => rw [toEntries, ih, List.map_cons]

theorem distinct_toEntries_iff {entries : List (Data × Data)} :
    Entries.Distinct (toEntries entries) ↔ TextsApart entries := by
  rw [toEntries_eq, Entries.Distinct, Entries.names, List.map_map]
  rfl

end Data

theorem EntriesKept.names_eq {entries : List (Data × Data)} {es : List (String × Value)}
    (h : EntriesKept entries es) :
    Entries.names es = entries.map fun entry => entry.1.keyText := by
  induction entries generalizing es with
  | nil =>
    cases h
    rfl
  | cons entry entries ih =>
    cases h with
    | cons _ _ hentries => rw [Entries.names_cons, ih hentries, List.map_cons]

namespace Data

mutual

theorem kept_iff : (d : Data) → (d.Kept d.toValue ↔ d.EveryMapping TextsApart)
  | .list items => by
    rw [toValue, EveryMapping, ← itemsKept_iff items]
    constructor
    · intro h
      cases h with
      | list hitems => exact hitems
    · exact .list
  | .map entries => by
    rw [toValue, EveryMapping, ← entriesKept_iff entries, ← distinct_toEntries_iff]
    constructor
    · intro h
      cases h with
      | map hentries _ =>
        -- with one entry for each key, none was written over another one
        have hempty : Entries.Distinct ([] : Entries Value) := List.nodup_nil
        have hdistinct : Entries.Distinct (toEntries entries) := by
          rw [distinct_toEntries_iff, TextsApart, ← hentries.names_eq]
          exact hempty.insertAll (toEntries entries)
        rw [Entries.ofList, Entries.insertAll_nil_eq_iff.mpr hdistinct] at hentries
        exact ⟨hdistinct, hentries⟩
    · rintro ⟨hdistinct, hentries⟩
      rw [Entries.ofList, Entries.insertAll_nil_eq_iff.mpr hdistinct]
      refine .map hentries fun entry hentry => hdistinct.find?_of_mem ?_
      rw [toEntries_eq]
      exact List.mem_map_of_mem hentry
  | .tagged _ content => by
    rw [toValue, EveryMapping, ← kept_iff content]
    constructor
    · intro h
      cases h with
      | tagged hcontent => exact hcontent
    · exact .tagged
  | .null => iff_of_true .null trivial
  | .bool b => iff_of_true (.bool b) trivial
  | .int n => iff_of_true (.int n) trivial
  | .float x => iff_of_true (.float x) trivial
  | .text s => iff_of_true (.text s) trivial

theorem itemsKept_iff : (items : List Data) →
    (ItemsKept items (toValues items) ↔ itemsEveryMapping TextsApart items)
  | [] => iff_of_true .nil trivial
  | item :: items => by
    rw [toValues, itemsEveryMapping, ← kept_iff item, ← itemsKept_iff items]
    constructor
    · rintro (_ | ⟨hitem, hitems⟩)
      exact ⟨hitem, hitems⟩
    · exact fun h => .cons h.1 h.2

theorem entriesKept_iff : (entries : List (Data × Data)) →
    (EntriesKept entries (toEntries entries) ↔ entriesEveryMapping TextsApart entries)
  | [] => iff_of_true .nil trivial
  | (key, value) :: entries => by
    rw [toEntries, entriesEveryMapping, ← kept_iff key, ← kept_iff value,
      ← entriesKept_iff entries]
    constructor
    · rintro (_ | ⟨hkey, hvalue, hentries⟩)
      exact ⟨hkey, hvalue, hentries⟩
    · exact fun h => .cons h.1 h.2.1 h.2.2

end

/-- Nothing is lost exactly where the keys of every mapping have texts of their own. Entries whose
keys share a text are one entry of the object, in the place of the first and with the value of the
last of them. -/
theorem kept_toValue_iff (d : Data) : (d.Kept d.toValue ↔ d.EveryMapping TextsApart) ∧
    ∀ entries, d = .map entries → ∃ es : Entries Value, d.toValue = .object es ∧
      es.names = (entries.map fun entry => entry.1.keyText).eraseDups ∧
      ∀ name, es.find? name = Entries.find? name
        (entries.reverse.map fun entry => (entry.1.keyText, entry.2.toValue)) := by
  refine ⟨kept_iff d, ?_⟩
  rintro entries rfl
  refine ⟨_, rfl, ?_, fun name => ?_⟩
  · rw [Entries.names_ofList, toEntries_eq, Entries.names, List.map_map]
    rfl
  · rw [Entries.find?_ofList, toEntries_eq, List.map_reverse]

/-- A number and a text that writes it are two keys with one text. -/
theorem exists_not_kept : ¬ ∀ d : Data, d.checkKeys = .ok () → d.Kept d.toValue := by
  intro h
  have hkept := h (.map [(.int 1, .text "one"), (.text "1", .text "other")]) rfl
  have hapart : ["1", "1"].Nodup := ((kept_iff _).mp hkept).1
  contradiction

end Data

end CaseSuite.Yaml
