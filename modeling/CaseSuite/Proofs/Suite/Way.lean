import CaseSuite.Proofs.Config.Distinct
import Mathlib.Data.List.Infix
import Mathlib.Data.List.Nodup
/-!
The ways through a case tree, from the root to each of its cases, and what they say about the tests
of a suite: which cases run, where each test comes from, and in what order they stand. Only the
names and the fields on a way count, never how a test is built.
-/
set_option autoImplicit false

namespace CaseSuite

/-- The cases from the root to one of them, the outermost first and the case itself last. -/
abbrev Way := List (String × CaseFields)

namespace Way

/-- The names on the way, joined by blanks. -/
def name (w : Way) : String := (w.map Prod.fst).foldl qualify ""

/-- What the last case of the way says for itself. -/
def own (w : Way) : CaseFields := (w.getLast?.map Prod.snd).getD .blank

@[simp] theorem name_nil : name [] = "" := rfl

@[simp] theorem name_concat (w : Way) (entry : String × CaseFields) :
    name (w ++ [entry]) = qualify w.name entry.1 := by
  simp [name]

@[simp] theorem own_concat (w : Way) (entry : String × CaseFields) :
    own (w ++ [entry]) = entry.2 := by
  simp [own]

end Way

mutual

/-- The ways to a case and to all cases below it, in the order of the tree. -/
def CaseNode.ways (above : Way) (name : String) : CaseNode → List Way
  | ⟨own, cases⟩ => (above ++ [(name, own)]) :: waysBelow (above ++ [(name, own)]) cases

def waysBelow (above : Way) : List (String × CaseNode) → List Way
  | [] => []
  | (name, node) :: cases => node.ways above name ++ waysBelow above cases

end

mutual

theorem CaseNode.isPrefix_of_mem_ways {above : Way} {name : String} {w : Way} :
    (node : CaseNode) → w ∈ node.ways above name → above ++ [(name, node.own)] <+: w
  | ⟨own, cases⟩, h => by
    rw [CaseNode.ways, List.mem_cons] at h
    obtain rfl | h := h
    · exact List.prefix_rfl
    · obtain ⟨entry, _, he⟩ := isPrefix_of_mem_waysBelow cases h
      exact (List.prefix_append _ _).trans he

theorem isPrefix_of_mem_waysBelow {above w : Way} :
    (cases : List (String × CaseNode)) → w ∈ waysBelow above cases →
      ∃ entry : String × CaseFields, entry.1 ∈ Entries.names cases ∧ above ++ [entry] <+: w
  | [], h => by simp [waysBelow] at h
  | (name, node) :: cases, h => by
    rw [waysBelow, List.mem_append] at h
    obtain h | h := h
    · exact ⟨(name, node.own), by simp [Entries.names], node.isPrefix_of_mem_ways h⟩
    · obtain ⟨entry, hn, he⟩ := isPrefix_of_mem_waysBelow cases h
      exact ⟨entry, by simp_all [Entries.names], he⟩

end

mutual

theorem CaseNode.nodup_ways {above : Way} {name : String} :
    (node : CaseNode) → node.Distinct → (node.ways above name).Nodup
  | ⟨own, cases⟩, ⟨_, hcases⟩ => by
    refine List.nodup_cons.mpr ⟨fun h => ?_, nodup_waysBelow cases hcases⟩
    obtain ⟨entry, _, he⟩ := isPrefix_of_mem_waysBelow cases h
    simpa using he.length_le

theorem nodup_waysBelow {above : Way} :
    (cases : List (String × CaseNode)) → casesDistinct cases → (waysBelow above cases).Nodup
  | [], _ => List.nodup_nil
  | (name, node) :: cases, ⟨hname, hnode, hcases⟩ => by
    refine (node.nodup_ways hnode).append (nodup_waysBelow cases hcases) fun w hw hw' => hname ?_
    -- one way leads through this entry and through a later one, which stand at the same place
    obtain ⟨entry, hn, he⟩ := isPrefix_of_mem_waysBelow cases hw'
    have hsame := List.prefix_of_prefix_length_le he (node.isPrefix_of_mem_ways hw) (by simp)
    have heq := hsame.eq_of_length (by simp)
    obtain rfl : entry = (name, node.own) := by simpa using heq
    exact hn

end

namespace Config

variable (c : Config)

/-- The ways to all cases, depth first, each case before those below it. -/
def ways : List Way := waysBelow [] c.cases

/-- The names of the cases that are marked as the only ones to run. -/
def onlyNames : List String := (c.ways.filter (·.own.isOnly)).map Way.name

/-- Marks let a case run if there are none, or if a case on the way has the name of a marked one. -/
def Admits (w : Way) : Prop :=
  (∀ v ∈ c.ways, v.own.isOnly = false) ∨ ∃ u ∈ w.inits, u ≠ [] ∧ Way.name u ∈ c.onlyNames

instance (w : Way) : Decidable (c.Admits w) :=
  inferInstanceAs (Decidable (_ ∨ _))

theorem admits_nil : c.Admits [] ↔ c.onlyNames = [] := by
  simp [Admits, onlyNames]

theorem admits_concat (w : Way) (entry : String × CaseFields) :
    c.Admits (w ++ [entry]) ↔ c.Admits w ∨ qualify w.name entry.1 ∈ c.onlyNames := by
  simp [Admits, List.inits_append, or_and_right, exists_or, or_assoc]

/-- A case runs if nothing on its way is skipped and marks let it. -/
def Runs (w : Way) : Prop := (∀ entry ∈ w, entry.2.isSkipped = false) ∧ c.Admits w

instance (w : Way) : Decidable (c.Runs w) := inferInstanceAs (Decidable (_ ∧ _))

end Config

/-- A test is asked for by a request, a modification of one, or anything that is expected. -/
def CaseFields.AsksTest (own : CaseFields) : Prop :=
  own.request.isSome ∨ own.modifyRequest.isSome ∨ own.expectedCode ∉ [none, some 0] ∨
    own.expectedResponse.isAbsent = false

instance (own : CaseFields) : Decidable own.AsksTest := inferInstanceAs (Decidable (_ ∨ _))

theorem CaseFields.definesRequest_iff (own : CaseFields) :
    own.definesRequest = true ↔ own.AsksTest := by
  have hcode : own.assertedCode.isSome = true ↔ own.expectedCode ∉ [none, some 0] := by
    cases h : own.expectedCode <;> simp [assertedCode, h, Option.filter]
  simp [definesRequest, AsksTest, hcode, or_assoc]

/-- A general case is taken if it offers itself or is named, unless it is excluded. -/
def Selector.Takes (s : Selector) (general : String × GeneralCase) : Prop :=
  (general.2.autoInclude = true ∨ general.1 ∈ s.includes) ∧ general.1 ∉ s.excludes

instance (s : Selector) (general : String × GeneralCase) : Decidable (s.Takes general) :=
  inferInstanceAs (Decidable (_ ∧ _))

theorem Selector.selects_iff (s : Selector) (general : String × GeneralCase) :
    s.selects general.1 general.2 = true ↔ s.Takes general := by
  simp [selects, Takes]

/-- Where a test comes from: a case itself, or a leaf of a general case that a case selects. -/
inductive Origin where
  | own (w : Way)
  | leaf (w : Way) (general : String) (entry : String × CaseFields)

def Origin.name : Origin → String
  | .own w => w.name
  | .leaf w general entry => s!"{w.name} {general} {entry.1}"

/-- The leaves that a case selects, general case by general case. -/
def Config.leavesAt (c : Config) (w : Way) (s : Selector) : List Origin :=
  (c.generalCases.filter (s.Takes ·)).flatMap fun general =>
    general.2.cases.map fun leaf => .leaf w general.1 (leaf.1, leaf.2.own)

/-- What the tests of one case come from: the leaves it selects, then the case itself. -/
def Config.originsAt (c : Config) (w : Way) : List Origin :=
  w.own.generalCases.toList.flatMap (c.leavesAt w) ++ if w.own.AsksTest then [.own w] else []

def Config.originsOf (c : Config) (ways : List Way) : List Origin :=
  (ways.filter (c.Runs ·)).flatMap c.originsAt

/-- What the tests of a suite come from, in the order of the tests. -/
def Config.origins (c : Config) : List Origin := c.originsOf c.ways

theorem Config.originsOf_append (c : Config) (ws ws' : List Way) :
    c.originsOf (ws ++ ws') = c.originsOf ws ++ c.originsOf ws' := by
  simp [originsOf]

theorem Config.originsOf_cons (c : Config) (w : Way) (ws : List Way) :
    c.originsOf (w :: ws) = (if c.Runs w then c.originsAt w else []) ++ c.originsOf ws := by
  by_cases h : c.Runs w <;> simp [originsOf, h]

theorem Config.originsOf_skipped (c : Config) (above : Way) (name : String) (node : CaseNode)
    (h : node.own.isSkipped = true) : c.originsOf (node.ways above name) = [] := by
  rw [originsOf, List.filter_eq_nil_iff.mpr, List.flatMap_nil]
  intro w hw
  have hmem : (name, node.own) ∈ w := (node.isPrefix_of_mem_ways hw).subset (by simp)
  simp only [decide_eq_true_eq]
  intro hruns
  have hkept := hruns.1 _ hmem
  rw [h] at hkept
  contradiction

def Origin.way : Origin → Way
  | .own w => w
  | .leaf w _ _ => w

theorem Config.mem_leavesAt {c : Config} {w : Way} {s : Selector} {o : Origin}
    (h : o ∈ c.leavesAt w s) : ∃ general entry, o = .leaf w general entry := by
  simp only [leavesAt, List.mem_flatMap, List.mem_map] at h
  obtain ⟨_, _, _, _, rfl⟩ := h
  exact ⟨_, _, rfl⟩

theorem Config.way_of_mem_originsAt {c : Config} {w : Way} {o : Origin} (h : o ∈ c.originsAt w) :
    o.way = w := by
  rw [originsAt, List.mem_append, List.mem_flatMap] at h
  obtain ⟨s, _, h⟩ | h := h
  · obtain ⟨_, _, rfl⟩ := mem_leavesAt h
    rfl
  · split at h <;> simp_all [Origin.way]

theorem Config.exists_of_leaf_mem_origins {c : Config} {w : Way} {general : String}
    {entry : String × CaseFields} (h : Origin.leaf w general entry ∈ c.origins) :
    ∃ s ∈ w.own.generalCases, ∃ g ∈ c.generalCases, s.Takes g ∧ g.1 = general ∧
      ∃ leaf ∈ g.2.cases, (leaf.1, leaf.2.own) = entry := by
  obtain ⟨v, _, h⟩ := List.mem_flatMap.mp h
  obtain rfl : w = v := way_of_mem_originsAt h
  rw [originsAt, List.mem_append, List.mem_flatMap] at h
  obtain ⟨s, hs, h⟩ | h := h
  · simp only [leavesAt, List.mem_flatMap, List.mem_filter, List.mem_map, decide_eq_true_eq] at h
    obtain ⟨g, ⟨hg, htakes⟩, leaf, hleaf, heq⟩ := h
    obtain ⟨_, hname, hentry⟩ := Origin.leaf.inj heq
    exact ⟨s, by simpa using hs, g, hg, htakes, hname, leaf, hleaf, hentry⟩
  · split at h <;> simp at h

theorem Config.nodup_leavesAt {c : Config} (hc : c.Distinct) (w : Way) (s : Selector) :
    (c.leavesAt w s).Nodup := by
  refine List.nodup_flatMap.mpr ⟨fun general hg => ?_, ?_⟩
  · have hleaves := casesDistinct_names (hc.leaves general (List.mem_filter.mp hg).1)
    exact (List.pairwise_map.mp hleaves).map _ fun a b hne heq => hne (by injections)
  · have hgenerals := (List.pairwise_map.mp hc.generalCases).filter (s.Takes ·)
    refine hgenerals.imp fun hne o ho ho' => hne ?_
    simp only [List.mem_map] at ho ho'
    obtain ⟨_, _, rfl⟩ := ho
    obtain ⟨_, _, heq⟩ := ho'
    injection heq with _ hname
    exact hname.symm

theorem Config.nodup_originsAt {c : Config} (hc : c.Distinct) (w : Way) :
    (c.originsAt w).Nodup := by
  refine List.Nodup.append ?_ (by split <;> simp) fun o ho ho' => ?_
  · cases w.own.generalCases with
    | none => exact List.nodup_nil
    | some s => simpa using nodup_leavesAt hc w s
  · obtain ⟨s, _, ho⟩ := List.mem_flatMap.mp ho
    obtain ⟨_, _, rfl⟩ := mem_leavesAt ho
    split at ho' <;> simp at ho'

theorem Config.nodup_origins {c : Config} (hc : c.Distinct) : c.origins.Nodup := by
  refine List.nodup_flatMap.mpr ⟨fun w _ => nodup_originsAt hc w, ?_⟩
  refine ((nodup_waysBelow c.cases hc.cases).filter _).imp fun hne o ho ho' => hne ?_
  rw [← Config.way_of_mem_originsAt ho, Config.way_of_mem_originsAt ho']

end CaseSuite
