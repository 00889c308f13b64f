import CaseSuite.Proofs.Suite.Flattening
/-!
What marks choose. A case runs if it or a case above it is marked, and also if one of them only has
the joined name of a marked case: names of nested cases are joined by blanks, and a blank may be
part of a name, so that a joined name does not tell its case.
-/
set_option autoImplicit false

namespace CaseSuite

/-- The case is marked, or one above it is. -/
def Way.Marked (w : Way) : Prop := ∃ entry ∈ w, entry.2.isOnly = true

instance (w : Way) : Decidable w.Marked := inferInstanceAs (Decidable (∃ entry ∈ w, _))

/-- The case, or one above it, is not marked but has the joined name of a marked case. -/
def Config.Namesake (c : Config) (w : Way) : Prop :=
  ∃ u ∈ w.inits, u ≠ [] ∧ (Way.own u).isOnly = false ∧
    ∃ v ∈ c.ways, v.own.isOnly = true ∧ v.name = Way.name u

instance (c : Config) (w : Way) : Decidable (c.Namesake w) :=
  inferInstanceAs (Decidable (∃ u ∈ w.inits, _))

mutual

/-- The way to a case goes through the ways to the cases above it: where the shorter way ends
decides between the case itself and the cases below it. -/
theorem CaseNode.mem_ways_of_isPrefix {above u w : Way} {name : String} (hu : u <+: w)
    (hlength : above.length < u.length) :
    (node : CaseNode) → w ∈ node.ways above name → u ∈ node.ways above name
  | ⟨own, cases⟩, h => by
    have hroot := (CaseNode.mk own cases).isPrefix_of_mem_ways h
    rw [CaseNode.ways, List.mem_cons] at h ⊢
    by_cases heq : u.length = above.length + 1
    · -- both are first parts of `w`, of one length
      have hsame := List.prefix_of_prefix_length_le hu hroot (by simp [heq])
      exact .inl (hsame.eq_of_length (by simp [heq]))
    · obtain rfl | h := h
      · have hle := hu.length_le
        simp at hle
        omega
      · refine .inr (mem_waysBelow_of_isPrefix hu ?_ cases h)
        simp
        omega

theorem mem_waysBelow_of_isPrefix {above u w : Way} (hu : u <+: w)
    (hlength : above.length < u.length) :
    (cases : List (String × CaseNode)) → w ∈ waysBelow above cases → u ∈ waysBelow above cases
  | [], h => by simp [waysBelow] at h
  | (name, node) :: cases, h => by
    rw [waysBelow, List.mem_append] at h ⊢
    obtain h | h := h
    · exact .inl (node.mem_ways_of_isPrefix hu hlength h)
    · exact .inr (mem_waysBelow_of_isPrefix hu hlength cases h)

end

namespace Config

variable {c : Config} {w : Way}

theorem mem_onlyNames {name : String} :
    name ∈ c.onlyNames ↔ ∃ v ∈ c.ways, v.own.isOnly = true ∧ v.name = name := by
  simp [onlyNames, and_assoc]

theorem admits_of_marked (hw : w ∈ c.ways) (h : w.Marked) : c.Admits w := by
  obtain ⟨entry, hentry, honly⟩ := h
  obtain ⟨before, after, rfl⟩ := List.append_of_mem hentry
  -- the way to the marked case itself
  have hu : before ++ [entry] <+: before ++ entry :: after := ⟨after, by simp⟩
  have hmem : before ++ [entry] ∈ c.ways := mem_waysBelow_of_isPrefix hu (by simp) c.cases hw
  refine .inr ⟨before ++ [entry], (List.mem_inits _ _).mpr hu, by simp, ?_⟩
  exact mem_onlyNames.mpr ⟨_, hmem, by rwa [Way.own_concat], rfl⟩

theorem marked_of_own {u : Way} (hu : u <+: w) (honly : u.own.isOnly = true) : w.Marked := by
  obtain rfl | ⟨before, entry, rfl⟩ := List.eq_nil_or_concat' u
  · contradiction
  · rw [Way.own_concat] at honly
    exact ⟨entry, hu.subset (by simp), honly⟩

/-- With marks in the tree, a case is let run by its own mark, by one above it, or by a namesake. -/
theorem admits_iff_marked (hmarked : ∃ v ∈ c.ways, v.own.isOnly = true) (hw : w ∈ c.ways) :
    c.Admits w ↔ w.Marked ∨ c.Namesake w := by
  constructor
  · rintro (hnone | ⟨u, hu, hne, hname⟩)
    · obtain ⟨v, hv, honly⟩ := hmarked
      rw [hnone v hv] at honly
      contradiction
    · cases honly : (Way.own u).isOnly with
      | true => exact .inl (marked_of_own ((List.mem_inits _ _).mp hu) honly)
      | false => exact .inr ⟨u, hu, hne, honly, mem_onlyNames.mp hname⟩
  · rintro (h | ⟨u, hu, hne, _, hname⟩)
    · exact admits_of_marked hw h
    · exact .inr ⟨u, hu, hne, mem_onlyNames.mpr hname⟩

/-- Where marks let the tests of a suite come from. -/
def markedOrigins (c : Config) : List Origin :=
  (c.ways.filter fun w =>
    (∀ entry ∈ w, entry.2.isSkipped = false) ∧ (w.Marked ∨ c.Namesake w)).flatMap c.originsAt

theorem origins_eq_markedOrigins (hmarked : ∃ v ∈ c.ways, v.own.isOnly = true) :
    c.origins = c.markedOrigins := by
  rw [origins, originsOf, markedOrigins]
  congr 1
  refine List.filter_congr fun w hw => ?_
  simp only [Runs, admits_iff_marked hmarked hw]

end Config

namespace Suite

variable {m : Type → Type} {ρ : Type} [Joinable ρ] {c : Config} {r : Registry m ρ}
  {suite : Suite m ρ}

/-- With marks in the tree, the tests of a suite are those of the cases that are marked, stand below
marked ones or share their joined names, unless something on their way is skipped. -/
theorem tests_marked (h : ofConfig c r = .ok suite) (hmarked : ∃ v ∈ c.ways, v.own.isOnly = true) :
    List.Forall₂ (Origin.Describes c r) c.markedOrigins suite.tests := by
  obtain ⟨b, hb, htests⟩ := exists_serves_of_ofConfig h
  rw [← Config.origins_eq_markedOrigins hmarked]
  exact hb.treeTests_describes (hands_root hb) c.cases htests

def markedCase (query : String) : CaseFields := { sampleCase query with only := some true }

/-- A marked case below another one, and beside them a case with the joined name of the two. -/
def namesakeConfig : Config where
  application := ⟨"graphql", .blank⟩
  services := []
  environment := []
  generalCases := []
  cases := [
    ("a", ⟨.blank, [("b", ⟨markedCase "marked", []⟩)]⟩),
    ("a b", ⟨sampleCase "plain", []⟩)]
  baseDir := "/suite"

theorem tests_namesakeConfig : ∃ suite, ofConfig namesakeConfig sampleRegistry = .ok suite ∧
    (∃ v ∈ namesakeConfig.ways, v.own.isOnly = true) ∧
    List.Forall₂ (Origin.Describes namesakeConfig sampleRegistry) namesakeConfig.markedOrigins
      suite.tests ∧ suite.tests.map (·.request.query) = [some "marked", some "plain"] := by
  have hresolved : ∃ suite, ofConfig namesakeConfig sampleRegistry = .ok suite ∧
      suite.tests.map (·.request.query) = [some "marked", some "plain"] := ⟨_, rfl, rfl⟩
  obtain ⟨suite, h, hqueries⟩ := hresolved
  have hmarked : ∃ v ∈ namesakeConfig.ways, v.own.isOnly = true := by decide
  exact ⟨suite, h, hmarked, tests_marked h hmarked, hqueries⟩

/-- The test of the unmarked case runs, and no marked case asks for that test. -/
theorem unmarked_test_namesakeConfig : ∃ suite, ofConfig namesakeConfig sampleRegistry = .ok suite ∧
    (∃ v ∈ namesakeConfig.ways, v.own.isOnly = true) ∧ ∃ t ∈ suite.tests,
      (∃ o ∈ namesakeConfig.origins, o.Describes namesakeConfig sampleRegistry t) ∧
      ∀ o ∈ namesakeConfig.ways.flatMap namesakeConfig.originsAt,
        o.Describes namesakeConfig sampleRegistry t → ¬ o.way.Marked := by
  have hresolved : ∃ suite first second, ofConfig namesakeConfig sampleRegistry = .ok suite ∧
      suite.tests = [first, second] ∧ second.request.query = some "plain" :=
    ⟨_, _, _, rfl, rfl, rfl⟩
  obtain ⟨suite, first, second, h, htests, hquery⟩ := hresolved
  obtain ⟨b, hb, hwalk⟩ := exists_serves_of_ofConfig h
  have hdescribed : List.Forall₂ (Origin.Describes namesakeConfig sampleRegistry)
      namesakeConfig.origins suite.tests :=
    hb.treeTests_describes (hands_root hb) namesakeConfig.cases hwalk
  -- all cases that ask for a test run
  have hall : namesakeConfig.ways.flatMap namesakeConfig.originsAt = namesakeConfig.origins := rfl
  have horigins : namesakeConfig.origins =
      [.own [("a", .blank), ("b", markedCase "marked")],
        .own [("a b", sampleCase "plain")]] := rfl
  rw [horigins, htests] at hdescribed
  cases hdescribed with
  | cons _ hrest =>
    cases hrest with
    | cons hsecond _ =>
      refine ⟨suite, h, by decide, second, by simp [htests],
        ⟨_, by rw [horigins]; exact List.mem_of_getElem? (i := 1) rfl, hsecond⟩, ?_⟩
      rw [hall, horigins]
      intro o ho hdescribes
      obtain rfl | ho := List.mem_cons.mp ho
      · obtain ⟨_, _, hvalue, ⟨_, hfactory, hread⟩, rfl⟩ := hdescribes.request
        obtain rfl := Option.some.inj hvalue
        obtain rfl := Except.ok.inj hfactory
        rw [← Except.ok.inj hread] at hquery
        simp at hquery
      · obtain rfl := List.mem_singleton.mp ho
        decide

end Suite

end CaseSuite
