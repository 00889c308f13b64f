import CaseSuite.Config.Join
import CaseSuite.Proofs.Entries
/-!
Names that stand once: in every map of a configuration or of a fragment, at every depth of its
cases, no name has two entries. Adding entries keeps it so, or meets a name that is there already.
-/
set_option autoImplicit false

namespace CaseSuite

mutual

/-- At every depth from a case on, the names of cases are distinct, and so are those of the
services that a case prepares. -/
def CaseNode.Distinct : CaseNode → Prop
  | ⟨own, cases⟩ => own.prepareServices.Distinct ∧ casesDistinct cases

def casesDistinct : List (String × CaseNode) → Prop
  | [] => True
  | (name, node) :: cases => name ∉ Entries.names cases ∧ node.Distinct ∧ casesDistinct cases

end

theorem casesDistinct_names : {cases : Entries CaseNode} → casesDistinct cases → cases.Distinct
  | [], _ => List.nodup_nil
  | (_, _) :: _, ⟨hname, _, hcases⟩ => List.nodup_cons.mpr ⟨hname, casesDistinct_names hcases⟩

theorem casesDistinct.of_find? {name : String} {node : CaseNode} {cases : Entries CaseNode}
    (hd : casesDistinct cases) (h : cases.find? name = some node) : node.Distinct := by
  induction cases with
  | nil => simp at h
  | cons entry cases ih =>
    rw [Entries.find?_cons] at h
    split at h
    · cases h
      exact hd.2.1
    · exact ih hd.2.2 h

theorem casesDistinct.insert {name : String} {node : CaseNode} {cases : Entries CaseNode}
    (hd : casesDistinct cases) (h : node.Distinct) : casesDistinct (cases.insert name node) := by
  induction cases with
  | nil => exact ⟨List.not_mem_nil, h, trivial⟩
  | cons entry cases ih =>
    obtain ⟨key, other⟩ := entry
    obtain ⟨hkey, hother, hcases⟩ := hd
    by_cases hname : key = name
    · simpa [Entries.insert, hname, casesDistinct] using ⟨hname ▸ hkey, h, hcases⟩
    · have hkey' : key ∉ (Entries.insert cases name node).names := by
        rw [← Entries.find?_eq_none, Entries.find?_insert, if_neg (Ne.symm hname),
          Entries.find?_eq_none]
        exact hkey
      simpa [Entries.insert, hname, casesDistinct] using ⟨hkey', hother, ih hcases⟩

/-- Entries are added all together and in their order, unless a name is known. -/
theorem addUnique_cases {α : Type} (part : String) {es : Entries α} (hd : es.Distinct)
    (known : Entries α) :
    (List.Disjoint known.names es.names ∧ addUnique part known es = .ok (known ++ es)) ∨
      ∃ name, name ∈ known.names ∧ name ∈ es.names ∧
        addUnique part known es = .error (.conflict part name) := by
  induction es generalizing known with
  | nil => simp [addUnique]
  | cons e es ih =>
    obtain ⟨name, a⟩ := e
    obtain ⟨hname, hd⟩ := Entries.distinct_cons.mp hd
    by_cases hhas : name ∈ known.names
    · exact .inr ⟨name, hhas, List.mem_cons_self, by simp [addUnique, Entries.has_iff.mpr hhas]⟩
    · have hno : known.has name = false := by
        rwa [← Bool.not_eq_true, Entries.has_iff]
      simp only [addUnique, hno, Bool.false_eq_true, if_false, Entries.insert_of_not_mem hhas]
      obtain ⟨hdisjoint, heq⟩ | ⟨key, hknown, hmem, heq⟩ := ih hd (known ++ [(name, a)])
      · rw [Entries.names_append, List.disjoint_append_left] at hdisjoint
        exact .inl ⟨List.disjoint_cons_right.mpr ⟨hhas, hdisjoint.1⟩, by simpa using heq⟩
      · refine .inr ⟨key, ?_, List.mem_cons_of_mem _ hmem, heq⟩
        rw [Entries.names_append, List.mem_append] at hknown
        refine hknown.resolve_right fun hnew => hname ?_
        rwa [← List.mem_singleton.mp hnew]

/-- No map of a fragment has two entries of one name. -/
structure Fragment.Distinct (f : Fragment) : Prop where
  services : f.services.Distinct
  environment : f.environment.Distinct
  generalCases : f.generalCases.Distinct
  cases : casesDistinct f.cases

/-- No map of a configuration has two entries of one name. -/
structure Config.Distinct (c : Config) : Prop where
  services : c.services.Distinct
  environment : c.environment.Distinct
  generalCases : c.generalCases.Distinct
  leaves : ∀ general ∈ c.generalCases, casesDistinct general.2.cases
  cases : casesDistinct c.cases

end CaseSuite
