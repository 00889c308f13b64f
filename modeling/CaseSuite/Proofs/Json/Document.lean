import CaseSuite.Proofs.Entries.Rising
import CaseSuite.Proofs.Json.Scalar
/-!
JSON documents, read back from their compact text. Objects come back with their members in rising
order, so that documents have to have them in that order, and floats are left aside here.
-/
set_option autoImplicit false

namespace CaseSuite.Json

open Utf8 (encode encode_nil encode_append encode_cons encode_cons_of_lt)

mutual

/-- No part of the document is a float, and the members of every object rise. -/
def Canonical : Json → Prop
  | .float _ => False
  | .list items => itemsCanonical items
  | .object members => Entries.Rising members ∧ membersCanonical members
  | _ => True

def itemsCanonical : List Json → Prop
  | [] => True
  | item :: items => item.Canonical ∧ itemsCanonical items

def membersCanonical : List (String × Json) → Prop
  | [] => True
  | (_, item) :: members => item.Canonical ∧ membersCanonical members

end

mutual

/-- How deep lists and objects nest. -/
def depth : Json → Nat
  | .list items => itemsDepth items + 1
  | .object members => membersDepth members + 1
  | _ => 0

def itemsDepth : List Json → Nat
  | [] => 0
  | item :: items => max item.depth (itemsDepth items)

def membersDepth : List (String × Json) → Nat
  | [] => 0
  | (_, item) :: members => max item.depth (membersDepth members)

end

/-- The text of the document is read as the document, with fuel for twice its length. -/
def Reads (j : Json) : Prop := ∀ fuel depth rest, 2 * (encode j.chars).length ≤ fuel →
  j.depth ≤ depth → Ends rest → readValue fuel depth (encode j.chars ++ rest) = .ok (j, rest)

/-- The bytes begin a value, and neither a blank nor the end of a list or an object. -/
def Begins (bytes : Bytes) : Prop :=
  ∃ b after, bytes = b :: after ∧ isBlank b = false ∧ b ≠ 0x5d ∧ b ≠ 0x7d

theorem Begins.append {bytes : Bytes} (h : Begins bytes) (rest : Bytes) :
    Begins (bytes ++ rest) := by
  obtain ⟨b, after, rfl, hb⟩ := h
  exact ⟨b, after ++ rest, rfl, hb⟩

theorem begins_chars : (j : Json) → j.Canonical → Begins (encode j.chars)
  | .null, _ => ⟨_, _, rfl, by decide⟩
  | .bool true, _ => ⟨_, _, rfl, by decide⟩
  | .bool false, _ => ⟨_, _, rfl, by decide⟩
  | .int n, _ => by
    rw [chars, intChars]
    split
    · exact ⟨_, _, encode_cons_of_lt (by decide) _, by decide⟩
    · obtain ⟨b, after, heq, hdigit⟩ := exists_encode_toDigits n.toInt.natAbs
      exact ⟨b, after, heq, isBlank_of_isDigit hdigit, ne_of_isDigit hdigit (by decide),
        ne_of_isDigit hdigit (by decide)⟩
  | .str s, _ => ⟨_, _, encode_cons_of_lt (by decide) _, by decide⟩
  | .list [], _ => ⟨_, _, rfl, by decide⟩
  | .list (_ :: _), _ => ⟨_, _, encode_cons_of_lt (by decide) _, by decide⟩
  | .object [], _ => ⟨_, _, rfl, by decide⟩
  | .object ((_, _) :: _), _ => ⟨_, _, encode_cons_of_lt (by decide) _, by decide⟩

theorem skipBlanks_cons {b : UInt8} (h : isBlank b = false) (after : Bytes) :
    skipBlanks (b :: after) = b :: after := by
  rw [skipBlanks, List.dropWhile_cons_of_neg (by simp [h])]

section

variable {fuel depth : Nat} {input after rest : Bytes} {item : Json} {key : String}

theorem readValue_list (h : Begins input) :
    readValue (fuel + 1) (depth + 1) (0x5b :: input) =
      (readItems fuel depth input).map fun r => (.list r.1, r.2) := by
  obtain ⟨b, after, rfl, hblank, hend, _⟩ := h
  have hopen : skipBlanks (0x5b :: b :: after) = 0x5b :: b :: after := rfl
  simp [readValue, hopen, isDigit, skipBlanks_cons hblank, hend]

theorem readItems_last (h : readValue fuel depth input = .ok (item, 0x5d :: rest)) :
    readItems (fuel + 1) depth input = .ok ([item], rest) := by
  rw [readItems, h]
  rfl

theorem readItems_more (h : readValue fuel depth input = .ok (item, 0x2c :: after))
    (hafter : Begins after) : readItems (fuel + 1) depth input =
      (readItems fuel depth after).map fun r => (item :: r.1, r.2) := by
  obtain ⟨b, more, rfl, hblank, hend, _⟩ := hafter
  have hcomma : skipBlanks (0x2c :: b :: more) = 0x2c :: b :: more := rfl
  rw [readItems, h]
  simp [bind, Except.bind, hcomma, skipBlanks_cons hblank, hend]

theorem readValue_object (h : Begins input) :
    readValue (fuel + 1) (depth + 1) (0x7b :: input) =
      (readMembers fuel depth input).map fun r => (.object (Entries.sort r.1), r.2) := by
  obtain ⟨b, after, rfl, hblank, _, hend⟩ := h
  have hopen : skipBlanks (0x7b :: b :: after) = 0x7b :: b :: after := rfl
  simp [readValue, hopen, isDigit, skipBlanks_cons hblank, hend]

theorem readMembers_last (hkey : readText input = .ok (key, 0x3a :: after))
    (h : readValue fuel depth after = .ok (item, 0x7d :: rest)) :
    readMembers (fuel + 1) depth (0x22 :: input) = .ok ([(key, item)], rest) := by
  have hopen : skipBlanks (0x22 :: input) = 0x22 :: input := rfl
  have hcolon : skipBlanks (0x3a :: after) = 0x3a :: after := rfl
  have hclose : skipBlanks (0x7d :: rest) = 0x7d :: rest := rfl
  simp [readMembers, bind, Except.bind, hopen, hkey, hcolon, h, hclose]

theorem readMembers_more {more : Bytes} (hkey : readText input = .ok (key, 0x3a :: after))
    (h : readValue fuel depth after = .ok (item, 0x2c :: more)) (hmore : Begins more) :
    readMembers (fuel + 1) depth (0x22 :: input) =
      (readMembers fuel depth more).map fun r => ((key, item) :: r.1, r.2) := by
  obtain ⟨b, rest, rfl, hblank, _, hend⟩ := hmore
  have hopen : skipBlanks (0x22 :: input) = 0x22 :: input := rfl
  have hcolon : skipBlanks (0x3a :: after) = 0x3a :: after := rfl
  have hcomma : skipBlanks (0x2c :: b :: rest) = 0x2c :: b :: rest := rfl
  simp [readMembers, bind, Except.bind, hopen, hkey, hcolon, h, hcomma, skipBlanks_cons hblank,
    hend]

end

/-! ### The text of lists and objects -/

theorem encode_list (item : Json) (items : List Json) (rest : Bytes) :
    encode (chars (.list (item :: items))) ++ rest =
      0x5b :: (encode item.chars ++ (encode (itemChars items) ++ rest)) := by
  rw [chars, List.cons_append, encode_cons_of_lt (by decide), encode_append]
  simp

theorem encode_items (item : Json) (items : List Json) (rest : Bytes) :
    encode (itemChars (item :: items)) ++ rest =
      0x2c :: (encode item.chars ++ (encode (itemChars items) ++ rest)) := by
  rw [itemChars, List.cons_append, encode_cons_of_lt (by decide), encode_append]
  simp

/-- The text of a key and of what stands under it. -/
def memberBytes (key : String) (item : Json) (rest : Bytes) : Bytes :=
  0x22 :: (encode (key.toList.flatMap escapedChar) ++ 0x22 :: 0x3a :: (encode item.chars ++ rest))

theorem begins_memberBytes (key : String) (item : Json) (rest : Bytes) :
    Begins (memberBytes key item rest) :=
  ⟨_, _, rfl, by decide⟩

theorem encode_member (key : String) (item : Json) (tail : List Char) (rest : Bytes) :
    encode (stringChars key ++ ':' :: item.chars ++ tail) ++ rest =
      memberBytes key item (encode tail ++ rest) := by
  simp only [List.append_assoc, List.cons_append, encode_append]
  rw [encode_cons_of_lt (by decide), encode_append, encode_stringChars, memberBytes]
  simp

theorem encode_object (key : String) (item : Json) (members : List (String × Json))
    (rest : Bytes) : encode (chars (.object ((key, item) :: members))) ++ rest =
      0x7b :: memberBytes key item (encode (memberChars members) ++ rest) := by
  rw [← encode_member, chars, List.cons_append, List.cons_append, encode_cons_of_lt (by decide)]
  rfl

theorem encode_members (key : String) (item : Json) (members : List (String × Json))
    (rest : Bytes) : encode (memberChars ((key, item) :: members)) ++ rest =
      0x2c :: memberBytes key item (encode (memberChars members) ++ rest) := by
  rw [← encode_member, memberChars, List.cons_append, List.cons_append,
    encode_cons_of_lt (by decide)]
  rfl

theorem length_memberBytes (key : String) (item : Json) (rest : Bytes) :
    (memberBytes key item rest).length =
      (encode (key.toList.flatMap escapedChar)).length + (encode item.chars).length + rest.length +
        3 := by
  simp [memberBytes]
  omega

/-! ### Reading -/

theorem Reads.of_succ {j : Json} (hbegins : Begins (encode j.chars))
    (h : ∀ fuel depth rest, 2 * (encode j.chars).length ≤ fuel + 1 → j.depth ≤ depth →
      Ends rest → readValue (fuel + 1) depth (encode j.chars ++ rest) = .ok (j, rest)) :
    j.Reads := by
  intro fuel depth rest hfuel hdepth hrest
  cases fuel with
  | zero =>
    obtain ⟨b, after, heq, _⟩ := hbegins
    simp [heq] at hfuel
  | succ fuel => exact h fuel depth rest hfuel hdepth hrest

mutual

theorem Canonical.reads : (j : Json) → (h : j.Canonical) → j.Reads
  | .null, h => .of_succ (begins_chars _ h) fun _ _ _ _ _ _ => rfl
  | .bool true, h => .of_succ (begins_chars _ h) fun _ _ _ _ _ _ => rfl
  | .bool false, h => .of_succ (begins_chars _ h) fun _ _ _ _ _ _ => rfl
  | .int n, h => .of_succ (begins_chars _ h) fun fuel depth _ _ _ hrest =>
    readValue_intChars n fuel depth hrest
  | .str s, h => .of_succ (begins_chars _ h) fun fuel depth rest _ _ _ =>
    readValue_stringChars s fuel depth rest
  | .list [], h => .of_succ (begins_chars _ h) fun _ depth _ _ hdepth _ => by
    cases depth with
    | zero => contradiction
    | succ depth => rfl
  | .list (item :: items), h => .of_succ (begins_chars _ h) fun fuel depth rest hfuel hdepth _ => by
    have hlength := congrArg List.length (encode_list item items [])
    simp only [List.append_nil, List.length_cons, List.length_append] at hlength
    cases depth with
    | zero => contradiction
    | succ depth =>
      simp only [Json.depth, itemsDepth] at hdepth
      rw [encode_list, readValue_list ((begins_chars item h.1).append _),
        readItems_encode items h.2 (Canonical.reads item h.1) (by omega) (by omega) (by omega)]
      rfl
  | .object [], h => .of_succ (begins_chars _ h) fun _ depth _ _ hdepth _ => by
    cases depth with
    | zero => contradiction
    | succ depth => rfl
  | .object ((key, item) :: members), h =>
    .of_succ (begins_chars _ h) fun fuel depth rest hfuel hdepth _ => by
    have hlength := congrArg List.length (encode_object key item members [])
    simp only [List.append_nil, List.length_cons] at hlength
    cases depth with
    | zero => contradiction
    | succ depth =>
      simp only [Json.depth, membersDepth] at hdepth
      rw [encode_object, readValue_object (begins_memberBytes key item _),
        readMembers_encode members h.2.2 (Canonical.reads item h.2.1) (by omega) (by omega)
          (by omega)]
      simp [Except.map, h.1.sort_eq]

theorem readItems_encode : (items : List Json) → itemsCanonical items → {item : Json} →
    item.Reads → {fuel depth : Nat} → {rest : Bytes} → item.depth ≤ depth →
    itemsDepth items ≤ depth →
    2 * ((encode item.chars).length + (encode (itemChars items)).length) + 1 ≤ fuel →
    readItems fuel depth (encode item.chars ++ (encode (itemChars items) ++ rest)) =
      .ok (item :: items, rest)
  | [], _, item, hitem, fuel, depth, rest, hdepth, _, hfuel => by
    obtain ⟨fuel, rfl⟩ := Nat.exists_eq_add_one_of_ne_zero (n := fuel) (by omega)
    exact readItems_last (hitem fuel depth _ (by omega) hdepth (.list rest))
  | next :: items, h, item, hitem, fuel, depth, rest, hdepth, hdepths, hfuel => by
    have hlength := congrArg List.length (encode_items next items [])
    simp only [List.append_nil, List.length_cons, List.length_append] at hlength
    simp only [itemsDepth] at hdepths
    obtain ⟨fuel, rfl⟩ := Nat.exists_eq_add_one_of_ne_zero (n := fuel) (by omega)
    rw [encode_items, readItems_more (hitem fuel depth _ (by omega) hdepth (.comma _))
      ((begins_chars next h.1).append _),
      readItems_encode items h.2 (Canonical.reads next h.1) (by omega) (by omega) (by omega)]
    rfl

theorem readMembers_encode : (members : List (String × Json)) → membersCanonical members →
    {key : String} → {item : Json} → item.Reads → {fuel depth : Nat} → {rest : Bytes} →
    item.depth ≤ depth → membersDepth members ≤ depth →
    2 * (memberBytes key item (encode (memberChars members))).length + 1 ≤ fuel →
    readMembers fuel depth (memberBytes key item (encode (memberChars members) ++ rest)) =
      .ok ((key, item) :: members, rest)
  | [], _, key, item, hitem, fuel, depth, rest, hdepth, _, hfuel => by
    rw [length_memberBytes] at hfuel
    obtain ⟨fuel, rfl⟩ := Nat.exists_eq_add_one_of_ne_zero (n := fuel) (by omega)
    exact readMembers_last (readText_encode key _)
      (hitem fuel depth _ (by omega) hdepth (.object rest))
  | (key', next) :: members, h, key, item, hitem, fuel, depth, rest, hdepth, hdepths, hfuel => by
    have hlength := congrArg List.length (encode_members key' next members [])
    simp only [List.append_nil, List.length_cons] at hlength
    rw [length_memberBytes] at hfuel
    simp only [membersDepth] at hdepths
    obtain ⟨fuel, rfl⟩ := Nat.exists_eq_add_one_of_ne_zero (n := fuel) (by omega)
    rw [encode_members, memberBytes, readMembers_more (readText_encode key _)
      (hitem fuel depth _ (by omega) hdepth (.comma _)) (begins_memberBytes key' next _),
      readMembers_encode members h.2 (Canonical.reads next h.1) (by omega) (by omega) (by omega)]
    rfl

end

/-- The compact text of a document without floats is read as the document, as long as it does not
nest too deep. -/
theorem read_print {j : Json} (h : j.Canonical) (hdepth : j.depth ≤ depthLimit) :
    read j.print.toUTF8 = .ok j := by
  have hbytes : j.print.toUTF8.data.toList = encode j.chars := by
    rw [Utf8.toList_toUTF8, print, String.toList_ofList]
  have hread :=
    Canonical.reads j h (2 * (encode j.chars).length + 2) depthLimit [] (by omega) hdepth .nil
  rw [List.append_nil] at hread
  have hdocument : readDocument (encode j.chars) = .ok j := by
    rw [readDocument, hread]
    rfl
  simp only [read, hbytes, hdocument]

end CaseSuite.Json
