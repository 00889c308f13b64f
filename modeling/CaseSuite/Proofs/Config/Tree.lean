import CaseSuite.Proofs.Config.Field
/-!
Case trees, path by path. A path of names leads to one node at most, and what a tree says is what
its nodes say in their fields. Merging two trees gives their union, or stops at a field that both of
them define at one path.
-/
set_option autoImplicit false

namespace CaseSuite

namespace CaseNode

def at? (node : CaseNode) : List String → Option CaseNode
  | [] => some node
  | name :: path => (Entries.find? name node.cases).bind fun child => child.at? path

/-- What the node at a path says in a field. -/
def content? (node : CaseNode) (path : List String) (k : CaseField) : Option k.Content :=
  (node.at? path).bind fun n => n.own.get? k

@[simp] theorem at?_cons (node : CaseNode) (name : String) (path : List String) :
    node.at? (name :: path) =
      (Entries.find? name node.cases).bind fun child => child.at? path := rfl

@[simp] theorem content?_nil (node : CaseNode) (k : CaseField) :
    node.content? [] k = node.own.get? k := rfl

@[simp] theorem content?_cons (node : CaseNode) (name : String) (path : List String)
    (k : CaseField) : node.content? (name :: path) k =
      (Entries.find? name node.cases).bind fun child => child.content? path k :=
  Option.bind_assoc ..

def Clash (m n : CaseNode) (path : List String) (k : CaseField) : Prop :=
  (m.content? path k).isSome ∧ (n.content? path k).isSome

/-- The tree has the nodes of two others and says what they say, which they do nowhere both. -/
structure Union (m n r : CaseNode) : Prop where
  distinct : r.Distinct
  apart : ∀ path k, ¬ Clash m n path k
  has : ∀ path, (r.at? path).isSome = ((m.at? path).isSome || (n.at? path).isSome)
  content : ∀ path k, r.content? path k = (m.content? path k <|> n.content? path k)

/-- What became of merging two trees. -/
inductive Merged (parent : String) (m n : CaseNode) : Progress CaseNode → Prop
  | union (r : CaseNode) : Union m n r → Merged parent m n ⟨r, none⟩
  | stopped (r : CaseNode) (path : List String) (k : CaseField) : Clash m n path k →
      Merged parent m n ⟨r, some ⟨path.foldl qualify parent, k.text⟩⟩

/-- What stands under one name: in the first cases, in the second ones, and in their union. -/
inductive Laid : Option CaseNode → Option CaseNode → Option CaseNode → Prop
  | none : Laid none none none
  | mine (m : CaseNode) : Laid (some m) Option.none (some m)
  | theirs (n : CaseNode) : Laid Option.none (some n) (some n)
  | both (m n r : CaseNode) : Union m n r → Laid (some m) (some n) (some r)

inductive CasesMerged (parent : String) (known cases : Entries CaseNode) :
    Progress (Entries CaseNode) → Prop
  | union (r : Entries CaseNode) : casesDistinct r →
      (∀ key, Laid (known.find? key) (cases.find? key) (r.find? key)) →
      CasesMerged parent known cases ⟨r, none⟩
  | stopped (r : Entries CaseNode) (name : String) (m n : CaseNode) (path : List String)
      (k : CaseField) : known.find? name = some m → cases.find? name = some n →
      Clash m n path k →
      CasesMerged parent known cases ⟨r, some ⟨(name :: path).foldl qualify parent, k.text⟩⟩

section

variable {a b c : Option CaseNode}

theorem Laid.apart (h : Laid a b c) (path : List String) (k : CaseField) :
    ¬ ((a.bind fun m => m.content? path k).isSome ∧
      (b.bind fun n => n.content? path k).isSome) := by
  cases h with
  | none => simp
  | mine m => simp
  | theirs n => simp
  | both m n r h => exact h.apart path k

theorem Laid.has (h : Laid a b c) (path : List String) :
    (c.bind fun r => r.at? path).isSome =
      ((a.bind fun m => m.at? path).isSome || (b.bind fun n => n.at? path).isSome) := by
  cases h with
  | none => rfl
  | mine m => simp
  | theirs n => simp
  | both m n r h => exact h.has path

theorem Laid.content (h : Laid a b c) (path : List String) (k : CaseField) :
    (c.bind fun r => r.content? path k) =
      ((a.bind fun m => m.content? path k) <|> b.bind fun n => n.content? path k) := by
  cases h with
  | none => rfl
  | mine m => simp
  | theirs n => simp
  | both m n r h => exact h.content path k

end

theorem Union.of_cases {own other d : CaseFields} {known cases below : Entries CaseNode}
    (hd : d.prepareServices.Distinct) (hbelow : casesDistinct below)
    (hown : ∀ k, ¬ own.Clash other k ∧ d.get? k = (own.get? k <|> other.get? k))
    (hcases : ∀ key, Laid (known.find? key) (cases.find? key) (below.find? key)) :
    Union ⟨own, known⟩ ⟨other, cases⟩ ⟨d, below⟩ where
  distinct := ⟨hd, hbelow⟩
  apart
    | [], k => (hown k).1
    | name :: path, k => by
      rw [Clash, content?_cons, content?_cons]
      exact (hcases name).apart path k
  has
    | [] => rfl
    | name :: path => (hcases name).has path
  content
    | [], k => (hown k).2
    | name :: path, k => by
      rw [content?_cons, content?_cons, content?_cons]
      exact (hcases name).content path k

theorem CasesMerged.cons {parent name : String} {known cases : Entries CaseNode}
    {other merged : CaseNode} {p : Progress (Entries CaseNode)} (hname : name ∉ cases.names)
    (hlaid : Laid (known.find? name) (some other) (some merged))
    (h : CasesMerged parent (known.insert name merged) cases p) :
    CasesMerged parent known ((name, other) :: cases) p := by
  have hnone : cases.find? name = none := Entries.find?_eq_none.mpr hname
  cases h with
  | union r hd hr =>
    refine .union r hd fun key => ?_
    have hkey := hr key
    -- the new name is settled for good, as no later case has it
    by_cases heq : name = key
    · subst heq
      rw [Entries.find?_insert, if_pos rfl, hnone] at hkey
      rw [Entries.find?_cons, if_pos rfl]
      generalize r.find? name = there at hkey ⊢
      cases hkey
      exact hlaid
    · rw [Entries.find?_insert, if_neg heq] at hkey
      rwa [Entries.find?_cons, if_neg heq]
  | stopped r key m n path k hm hn hclash =>
    have hne : name ≠ key := by
      rintro rfl
      simp [hnone] at hn
    rw [Entries.find?_insert, if_neg hne] at hm
    exact .stopped r key m n path k hm (by rw [Entries.find?_cons, if_neg hne, hn]) hclash

mutual

/-- Merging two definitions of a case unites them or stops where both define a field. -/
theorem merge_merged (parent : String) : (node other : CaseNode) → node.Distinct → other.Distinct →
    Merged parent node other (node.merge parent other)
  | ⟨own, known⟩, ⟨other, cases⟩, hnode, hother => by
    have hfields := CaseFields.merge_taken parent hnode.1 hother.1
    rw [CaseNode.merge]
    generalize own.merge parent other = fields at hfields ⊢
    cases hfields with
    | stopped d k hclash => exact .stopped _ [] k hclash
    | going d hd htaken _ =>
      have hown (k : CaseField) := htaken k k.turn_lt
      have hcases := mergeCases_merged parent known cases hnode.2 hother.2
      simp only [Option.isSome_none, Bool.false_eq_true, if_false]
      generalize mergeCases parent known cases = below at hcases ⊢
      cases hcases with
      | union r hr hlaid => exact .union _ (.of_cases hd hr hown hlaid)
      | stopped r name m n path k hm hn hclash =>
        exact .stopped _ (name :: path) k (by simpa [Clash, hm, hn] using hclash)

theorem mergeCases_merged (parent : String) (known : Entries CaseNode) :
    (cases : List (String × CaseNode)) → casesDistinct known → casesDistinct cases →
      CasesMerged parent known cases (mergeCases parent known cases)
  | [], hknown, _ => .union known hknown fun key => by
    cases h : known.find? key with
    | none => exact .none
    | some m => exact .mine m
  | (name, other) :: cases, hknown, ⟨hname, hother, hcases⟩ => by
    rw [mergeCases]
    cases hfind : known.find? name with
    | none =>
      have hrest := mergeCases_merged parent (known.insert name other) cases
        (hknown.insert hother) hcases
      exact .cons hname (hfind ▸ .theirs other) hrest
    | some node =>
      have hmerged := merge_merged (qualify parent name) node other (hknown.of_find? hfind) hother
      simp only
      generalize node.merge (qualify parent name) other = merged at hmerged ⊢
      cases hmerged with
      | stopped r path k hclash =>
        exact .stopped _ name node other path k hfind (by simp [Entries.find?_cons]) hclash
      | union r hr =>
        have hrest := mergeCases_merged parent (known.insert name r) cases
          (hknown.insert hr.distinct) hcases
        exact .cons hname (hfind ▸ .both node other r hr) hrest

end

end CaseNode

end CaseSuite
