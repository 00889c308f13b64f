import CaseSuite.Proofs.Config.Tree
/-!
What a merge has reached when it ends, be it at a conflict. A case still says all that it said, in
its order, and what is new in it is said by the other case at the same path.
-/
set_option autoImplicit false

namespace CaseSuite

namespace CaseFields

/-- A case says what it said before, and besides only what the other one says. -/
structure Gains (other before after : CaseFields) : Prop where
  kept : ∀ (k : CaseField) (a : k.Content), before.get? k = some a → after.get? k = some a
  prepareServices : before.prepareServices <+: after.prepareServices
  new : ∀ (k : CaseField) (a : k.Content), after.get? k = some a → before.get? k = none →
    other.get? k = some a

variable {other c d : CaseFields} {p : Progress CaseFields}

theorem Gains.refl (other c : CaseFields) : other.Gains c c where
  kept _ _ h := h
  prepareServices := List.prefix_rfl
  new k a h hnone := by
    rw [hnone] at h
    contradiction

theorem prefix_prepareServices_put {k : CaseField} (h : c.get? k = none) (a : k.Content) :
    c.prepareServices <+: (c.put k a).prepareServices := by
  cases k with
  | preparation service =>
    have hnew : service ∉ c.prepareServices.names := Entries.find?_eq_none.mp h
    simp [put, Entries.insert_of_not_mem hnew]
  | _ => exact List.prefix_rfl

theorem Gains.put (h : other.Gains c d) {k : CaseField} {a : k.Content} (hmine : d.get? k = none)
    (htheirs : other.get? k = some a) : other.Gains c (d.put k a) where
  kept j b hj := by
    have hd := h.kept j b hj
    have hne : j ≠ k := by
      rintro rfl
      rw [hmine] at hd
      contradiction
    rwa [get?_put_of_ne hne]
  prepareServices := h.prepareServices.trans (prefix_prepareServices_put hmine a)
  new j b hj hnone := by
    by_cases heq : j = k
    · subst heq
      rwa [← hj, get?_put_self htheirs]
    · rw [get?_put_of_ne heq] at hj
      exact h.new j b hj hnone

theorem Gains.next {step : CaseFields → Progress CaseFields} (h : other.Gains c p.reached)
    (hstep : ∀ d, other.Gains c d → other.Gains c (step d).reached) :
    other.Gains c (p.next step).reached := by
  unfold Progress.next
  split
  · exact h
  · exact hstep _ h

theorem Gains.takePreparations (path : String) {es : Entries Value}
    (hes : ∀ e ∈ es, other.get? (.preparation e.1) = some e.2) (h : other.Gains c d) :
    other.Gains c (takePreparations path es d).reached := by
  induction es generalizing d with
  | nil => exact h
  | cons e es ih =>
    obtain ⟨htheirs, hes⟩ := List.forall_mem_cons.mp hes
    rw [CaseFields.takePreparations]
    split
    · exact h
    · rename_i hhas
      have hmine : d.get? (.preparation e.1) = none :=
        Option.not_isSome_iff_eq_none.mp hhas
      exact ih hes (h.put hmine htheirs)

theorem Gains.takeField (path : String) (k : CaseField) (h : other.Gains c p.reached) :
    other.Gains c (p.next fun d =>
      d.takeField path k.text (d.get? k) (other.get? k) (d.put k)).reached := by
  refine h.next fun d hd => ?_
  cases htheirs : other.get? k with
  | none => exact hd
  | some a =>
    cases hmine : d.get? k with
    | none => exact hd.put hmine htheirs
    | some b => exact hd

theorem merge_gains (path : String) (c : CaseFields) (hd : other.prepareServices.Distinct) :
    other.Gains c (c.merge path other).reached := by
  have hes : ∀ e ∈ other.prepareServices, other.get? (.preparation e.1) = some e.2 :=
    fun e he => hd.find?_of_mem he
  have h : other.Gains c (takePreparations path other.prepareServices c).reached :=
    (Gains.refl other c).takePreparations path hes
  replace h := h.takeField path .request
  replace h := h.takeField path .modifyRequest
  replace h := h.takeField path .expectedResponse
  replace h := h.takeField path .expectedCode
  replace h := h.takeField path .checks
  replace h := h.takeField path .only
  replace h := h.takeField path .skip
  replace h := h.takeField path .generalCases
  exact h.takeField path .saveResponseTo

end CaseFields

namespace CaseNode

/-- At every path a tree has the case that it had, which says what it said and keeps the order of
its entries; a field that is new in it is as in the other tree, and so is a case that is new. -/
structure Gains (other before after : CaseNode) : Prop where
  order : ∀ path m, before.at? path = some m → ∃ n, after.at? path = some n ∧
    m.own.prepareServices <+: n.own.prepareServices ∧ Entries.names m.cases <+: Entries.names n.cases
  kept : ∀ path (k : CaseField) (a : k.Content), before.content? path k = some a →
    after.content? path k = some a
  newField : ∀ path (k : CaseField) (a : k.Content), after.content? path k = some a →
    before.content? path k = none → other.content? path k = some a
  newCase : ∀ path n, after.at? path = some n → before.at? path = none → other.at? path = some n

/-- What becomes of the case of one name: there is none, it stays as it is, it is taken over, or it
gains from the one of that name. -/
inductive Follows : (theirs before after : Option CaseNode) → Prop
  | absent (theirs : Option CaseNode) : Follows theirs none none
  | same (theirs : Option CaseNode) (m : CaseNode) : Follows theirs (some m) (some m)
  | taken (n : CaseNode) : Follows (some n) none (some n)
  | gained (n m r : CaseNode) : Gains n m r → Follows (some n) (some m) (some r)

/-- Cases of a map keep their order, and follow by name from those that were there. -/
structure CasesGain (others before after : Entries CaseNode) : Prop where
  names : before.names <+: after.names
  follows : ∀ name, Follows (others.find? name) (before.find? name) (after.find? name)

section

variable {a b c : Option CaseNode}

theorem Follows.order (h : Follows a b c) {path : List String} {m : CaseNode}
    (hm : (b.bind fun n => n.at? path) = some m) : ∃ n, (c.bind fun r => r.at? path) = some n ∧
      m.own.prepareServices <+: n.own.prepareServices ∧
      Entries.names m.cases <+: Entries.names n.cases := by
  cases h with
  | absent => simp at hm
  | same m' => exact ⟨m, hm, List.prefix_rfl, List.prefix_rfl⟩
  | taken n => simp at hm
  | gained n m' r h => exact h.order path m hm

theorem Follows.kept (h : Follows a b c) {path : List String} {k : CaseField} {v : k.Content}
    (hv : (b.bind fun n => n.content? path k) = some v) :
    (c.bind fun r => r.content? path k) = some v := by
  cases h with
  | absent => simp at hv
  | same m => exact hv
  | taken n => simp at hv
  | gained n m r h => exact h.kept path k v hv

theorem Follows.newField (h : Follows a b c) {path : List String} {k : CaseField} {v : k.Content}
    (hv : (c.bind fun r => r.content? path k) = some v)
    (hnone : (b.bind fun n => n.content? path k) = none) :
    (a.bind fun n => n.content? path k) = some v := by
  cases h with
  | absent => simp at hv
  | same m => simp [hnone] at hv
  | taken n => exact hv
  | gained n m r h => exact h.newField path k v hv hnone

theorem Follows.newCase (h : Follows a b c) {path : List String} {r : CaseNode}
    (hr : (c.bind fun n => n.at? path) = some r) (hnone : (b.bind fun n => n.at? path) = none) :
    (a.bind fun n => n.at? path) = some r := by
  cases h with
  | absent => simp at hr
  | same m => simp [hnone] at hr
  | taken n => exact hr
  | gained n m r' h => exact h.newCase path r hr hnone

end

theorem Gains.of_cases {other own d : CaseFields} {others known below : Entries CaseNode}
    (hown : other.Gains own d) (hcases : CasesGain others known below) :
    Gains ⟨other, others⟩ ⟨own, known⟩ ⟨d, below⟩ where
  order
    | [], m, hm => by
      obtain rfl := Option.some.inj hm
      exact ⟨_, rfl, hown.prepareServices, hcases.names⟩
    | name :: path, m, hm => (hcases.follows name).order hm
  kept
    | [], k, a, h => hown.kept k a h
    | name :: path, k, a, h => by
      rw [content?_cons] at h ⊢
      exact (hcases.follows name).kept h
  newField
    | [], k, a, h, hnone => hown.new k a h hnone
    | name :: path, k, a, h, hnone => by
      rw [content?_cons] at h hnone ⊢
      exact (hcases.follows name).newField h hnone
  newCase
    | [], n, _, hnone => by simp [at?] at hnone
    | name :: path, n, hn, hnone => (hcases.follows name).newCase hn hnone

theorem CasesGain.refl (others known : Entries CaseNode) : CasesGain others known known where
  names := List.prefix_rfl
  follows name := by
    cases known.find? name with
    | none => exact .absent _
    | some m => exact .same _ m

theorem CasesGain.cons {name : String} {known others below : Entries CaseNode} {other r : CaseNode}
    (hname : name ∉ others.names) (hfollows : Follows (some other) (known.find? name) (some r))
    (h : CasesGain others (known.insert name r) below) :
    CasesGain ((name, other) :: others) known below where
  names := by
    refine List.IsPrefix.trans ?_ h.names
    rw [Entries.names_insert]
    split
    · exact List.prefix_rfl
    · exact List.prefix_append _ _
  follows key := by
    have hkey := h.follows key
    rw [Entries.find?_insert] at hkey
    rw [Entries.find?_cons]
    by_cases heq : name = key
    · -- what follows has no case of that name, so it stays as it is now
      subst heq
      rw [if_pos rfl, Entries.find?_eq_none.mpr hname] at hkey
      rw [if_pos rfl]
      generalize below.find? name = now at hkey ⊢
      cases hkey
      exact hfollows
    · rw [if_neg heq] at hkey
      rwa [if_neg heq]

mutual

/-- Induction on the other tree: whatever the merge did before it ended is a gain. -/
theorem reached_gains (parent : String) : (node other : CaseNode) → other.Distinct →
    other.Gains node (node.merge parent other).reached
  | ⟨own, known⟩, ⟨other, others⟩, hd => by
    have hown : other.Gains own (own.merge parent other).reached :=
      CaseFields.merge_gains parent own hd.1
    rw [CaseNode.merge]
    split
    · exact .of_cases hown (.refl others known)
    · exact .of_cases hown (reached_casesGain parent known others hd.2)

theorem reached_casesGain (parent : String) (known : Entries CaseNode) :
    (others : List (String × CaseNode)) → casesDistinct others →
      CasesGain others known (mergeCases parent known others).reached
  | [], _ => .refl [] known
  | (name, other) :: others, ⟨hname, hother, hothers⟩ => by
    rw [mergeCases]
    cases hfind : known.find? name with
    | none =>
      have hrest := reached_casesGain parent (known.insert name other) others hothers
      exact .cons hname (hfind ▸ .taken other) hrest
    | some node =>
      have hgains := reached_gains (qualify parent name) node other hother
      have hfollows : Follows (some other) (known.find? name)
          (some (node.merge (qualify parent name) other).reached) := hfind ▸ .gained _ _ _ hgains
      simp only
      split
      · exact .cons hname hfollows (.refl others _)
      · exact .cons hname hfollows (reached_casesGain parent _ others hothers)

end

/-- However a merge ends, the case has lost nothing: it says what it said at every path, in its
order, and what is new in it is what the other one says at the same path. If nothing stopped the
merge, it says all that the other one says. -/
theorem merge_keeps (parent : String) {node other : CaseNode} (hnode : node.Distinct)
    (hother : other.Distinct) :
    other.Gains node (node.merge parent other).reached ∧
      ((node.merge parent other).stopped = none →
        ∀ path (k : CaseField) (a : k.Content), other.content? path k = some a →
          (node.merge parent other).reached.content? path k = some a) := by
  refine ⟨reached_gains parent node other hother, fun hnone path k a ha => ?_⟩
  have hmerged := merge_merged parent node other hnode hother
  generalize node.merge parent other = merged at hnone hmerged ⊢
  cases hmerged with
  | stopped r path k hclash => contradiction
  | union r hr =>
    have hmine : node.content? path k = none := by
      by_contra hsome
      exact hr.apart path k ⟨Option.isSome_iff_ne_none.mpr hsome, by simp [ha]⟩
    rw [hr.content, hmine, ha]
    rfl

/-- A case with another one below it. -/
def knownCase : CaseNode :=
  ⟨{ CaseFields.blank with prepareServices := [("db", .null)] },
    [("list", ⟨{ CaseFields.blank with expectedCode := some 200 }, []⟩)]⟩

/-- More about both of them. -/
def agreeingCase : CaseNode :=
  ⟨.blank, [("list", ⟨{ CaseFields.blank with request := some .null }, []⟩)]⟩

/-- More about both of them as well, and a field that is there already. -/
def clashingCase : CaseNode :=
  ⟨{ CaseFields.blank with prepareServices := [("files", .bool true)] },
    [("show", .blank),
      ("list", ⟨{ CaseFields.blank with
        request := some .null, expectedCode := some 201, only := some true }, []⟩),
      ("last", .blank)]⟩

theorem merge_keeps_knownCase :
    knownCase.Distinct ∧ agreeingCase.Distinct ∧ clashingCase.Distinct ∧
      (knownCase.merge "users" clashingCase).stopped = some ⟨"users list", "expected_code"⟩ ∧
      clashingCase.Gains knownCase (knownCase.merge "users" clashingCase).reached ∧
      (knownCase.merge "users" agreeingCase).stopped = none ∧
      agreeingCase.Gains knownCase (knownCase.merge "users" agreeingCase).reached ∧
      (knownCase.merge "users" agreeingCase).reached.content? ["list"] .request =
        some .null := by
  have hknown : knownCase.Distinct := by
    simp [knownCase, CaseNode.Distinct, casesDistinct, CaseFields.blank, Entries.Distinct]
  have hagreeing : agreeingCase.Distinct := by
    simp [agreeingCase, CaseNode.Distinct, casesDistinct, CaseFields.blank, Entries.Distinct]
  have hclashing : clashingCase.Distinct := by
    simp [clashingCase, CaseNode.Distinct, casesDistinct, CaseFields.blank, CaseNode.blank,
      Entries.Distinct]
  obtain ⟨hgains, hall⟩ := merge_keeps "users" hknown hagreeing
  exact ⟨hknown, hagreeing, hclashing, rfl, (merge_keeps "users" hknown hclashing).1, rfl, hgains,
    hall rfl ["list"] .request .null rfl⟩

end CaseNode

end CaseSuite
