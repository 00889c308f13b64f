import CaseSuite.Proofs.Config.Point
import CaseSuite.Proofs.Outcome
/-!
What fragments make together. Each of them is joined to those before it, and what is joined says on
every point what one fragment says there. Fragments that say something on the same point are in
conflict, and there is no other conflict.
-/
set_option autoImplicit false

namespace CaseSuite

namespace Fragment

/-- The fragment says on every point what all of some fragments say there, and has their cases. -/
structure Union (fragments : List Fragment) (h : Fragment) : Prop where
  distinct : h.Distinct
  contents : ∀ p : Point, p.contents fragments = (h.content? p).toList
  has : ∀ path, (h.root.at? path).isSome = fragments.any fun f => (f.root.at? path).isSome

/-- What became of joining fragments. -/
inductive Joined (fragments : List Fragment) : Except Error Fragment → Prop
  | union (h : Fragment) : Union fragments h → Joined fragments (.ok h)
  | conflict (p : Point) : 2 ≤ (p.contents fragments).length →
      Joined fragments (.error p.conflict.error)

variable {f g : Fragment}

theorem Union.single (hf : f.Distinct) : Union [f] f :=
  ⟨hf, fun p => by simp [Point.contents_cons], fun path => by simp⟩

/-- The union of two fragments says what either says, and nowhere do both say something. -/
theorem Union.pair {h : Fragment} (hd : h.Distinct)
    (hapart : ∀ p, f.content? p = none ∨ g.content? p = none)
    (hcontent : ∀ p, h.content? p = (f.content? p <|> g.content? p))
    (hhas : ∀ path, (h.root.at? path).isSome =
      ((f.root.at? path).isSome || (g.root.at? path).isSome)) : Union [f, g] h where
  distinct := hd
  contents p := by
    obtain hnone | hnone := hapart p
    · simp [Point.contents_cons, hcontent, hnone]
    · simp [Point.contents_cons, hcontent, hnone]
  has path := by simp [hhas]

theorem Union.of_parts (hf : f.Distinct) (hg : g.Distinct) {cases : Entries CaseNode}
    (happ : f.application = none ∨ g.application = none)
    (hservices : List.Disjoint f.services.names g.services.names)
    (henvironment : List.Disjoint f.environment.names g.environment.names)
    (hgeneral : List.Disjoint f.generalCases.names g.generalCases.names)
    (hcases : casesDistinct cases) (hroots : CaseNode.Union f.root g.root ⟨.blank, cases⟩) :
    Union [f, g] ⟨f.application <|> g.application, f.services ++ g.services,
      f.environment ++ g.environment, f.generalCases ++ g.generalCases, cases⟩ := by
  refine .pair ⟨?_, ?_, ?_, hcases⟩ (fun p => ?_) (fun p => ?_) hroots.has
  · exact hf.services.append hg.services hservices
  · exact hf.environment.append hg.environment henvironment
  · exact hf.generalCases.append hg.generalCases hgeneral
  · cases p with
    | application => exact happ
    | service name => exact Entries.find?_eq_none_of_disjoint hservices name
    | environment name => exact Entries.find?_eq_none_of_disjoint henvironment name
    | generalCase name => exact Entries.find?_eq_none_of_disjoint hgeneral name
    | field path k =>
      have hapart := hroots.apart path k
      rwa [CaseNode.Clash, not_and_or, Option.not_isSome_iff_eq_none,
        Option.not_isSome_iff_eq_none] at hapart
  · cases p with
    | application => rfl
    | service name => exact Entries.find?_append ..
    | environment name => exact Entries.find?_append ..
    | generalCase name => exact Entries.find?_append ..
    | field path k => exact hroots.content path k

theorem Joined.clash {p : Point} (hf : (f.content? p).isSome) (hg : (g.content? p).isSome) :
    Joined [f, g] (.error p.conflict.error) := by
  obtain ⟨a, ha⟩ := Option.isSome_iff_exists.mp hf
  obtain ⟨b, hb⟩ := Option.isSome_iff_exists.mp hg
  exact .conflict p (by simp [Point.contents_cons, ha, hb])

theorem Joined.application {next : Option Application → Except Error Fragment}
    (h : (f.application = none ∨ g.application = none) →
      Joined [f, g] (next (f.application <|> g.application))) :
    Joined [f, g] (joinApplication f.application g.application >>= next) := by
  cases hf : f.application with
  | none =>
    have hnext := h (.inl hf)
    cases hg : g.application <;> simpa [joinApplication, hf, hg, bind, Except.bind] using hnext
  | some a =>
    cases hg : g.application with
    | none => simpa [joinApplication, hf, hg, bind, Except.bind] using h (.inr hg)
    | some b =>
      refine Joined.clash (p := .application) ?_ ?_
      · simp [content?, hf]
      · simp [content?, hg]

/-- One section more: a name that both have there is a conflict on its point. -/
theorem Joined.addUnique {α : Type} {part : String} {es fs : Entries α}
    {next : Entries α → Except Error Fragment} (point : String → Point)
    (hconflict : ∀ name, (point name).conflict = ⟨part, name⟩)
    (hf : ∀ name ∈ es.names, (f.content? (point name)).isSome)
    (hg : ∀ name ∈ fs.names, (g.content? (point name)).isSome) (hd : fs.Distinct)
    (h : List.Disjoint es.names fs.names → Joined [f, g] (next (es ++ fs))) :
    Joined [f, g] (CaseSuite.addUnique part es fs >>= next) := by
  obtain ⟨hdisjoint, hadd⟩ | ⟨name, hmine, htheirs, hadd⟩ := addUnique_cases part hd es
  · rw [hadd]
    exact h hdisjoint
  · rw [hadd]
    have hclash := Joined.clash (hf name hmine) (hg name htheirs)
    rwa [hconflict] at hclash

theorem join_joined (hf : f.Distinct) (hg : g.Distinct) : Joined [f, g] (f.join g) := by
  refine Joined.application fun happ => ?_
  refine Joined.addUnique .service (fun _ => rfl) (fun _ h => Entries.has_iff.mpr h)
    (fun _ h => Entries.has_iff.mpr h) hg.services fun hservices => ?_
  refine Joined.addUnique .environment (fun _ => rfl) (fun _ h => Entries.has_iff.mpr h)
    (fun _ h => Entries.has_iff.mpr h) hg.environment fun henvironment => ?_
  refine Joined.addUnique .generalCase (fun _ => rfl) (fun _ h => Entries.has_iff.mpr h)
    (fun _ h => Entries.has_iff.mpr h) hg.generalCases fun hgeneral => ?_
  have hmerged := CaseNode.mergeCases_merged "" f.cases g.cases hf.cases hg.cases
  simp only
  generalize mergeCases "" f.cases g.cases = cases at hmerged ⊢
  cases hmerged with
  | stopped r name m n path k hm hn hclash =>
    refine Joined.clash (p := .field (name :: path) k) ?_ ?_
    · simpa [content?, root, hm] using hclash.1
    · simpa [content?, root, hn] using hclash.2
  | union r hr hlaid =>
    have hroots : CaseNode.Union f.root g.root ⟨.blank, r⟩ :=
      .of_cases List.nodup_nil hr (fun k => by simp [CaseFields.Clash, CaseFields.get?_blank]) hlaid
    exact .union _ (.of_parts hf hg happ hservices henvironment hgeneral hr hroots)

theorem joinAll_joined (fragments : List Fragment) (hf : f.Distinct)
    (hfragments : ∀ g ∈ fragments, g.Distinct) : Joined (f :: fragments) (f.joinAll fragments) := by
  induction fragments generalizing f with
  | nil => exact .union f (.single hf)
  | cons g fragments ih =>
    rw [List.forall_mem_cons] at hfragments
    have hpair := join_joined hf hfragments.1
    rw [joinAll]
    generalize f.join g = joined at hpair ⊢
    cases hpair with
    | conflict p hp =>
      refine .conflict p ?_
      simp only [Point.contents_cons, Point.contents_nil, List.length_append,
        List.length_nil] at hp ⊢
      omega
    | union h hh =>
      have hrest := ih hh.distinct hfragments.2
      -- the first two say together what their union says, so the list is shorter by one
      have hcontents (p : Point) :
          p.contents (f :: g :: fragments) = p.contents (h :: fragments) := by
        rw [p.contents_cons h, ← hh.contents p]
        simp [Point.contents_cons]
      simp only [bind, Except.bind]
      generalize h.joinAll fragments = all at hrest ⊢
      cases hrest with
      | conflict p hp => exact .conflict p (hcontents p ▸ hp)
      | union r hr =>
        refine .union r ⟨hr.distinct, fun p => (hcontents p).trans (hr.contents p), fun path => ?_⟩
        have hpath := hh.has path
        simp only [List.any_cons, List.any_nil, Bool.or_false] at hpath
        rw [hr.has path, List.any_cons, hpath, List.any_cons, List.any_cons, Bool.or_assoc]

end Fragment

namespace Config

/-- What became of making a configuration. -/
inductive Made (fragments : List Fragment) (baseDir : String) : Except Error Config → Prop
  | config (c : Config) : c.fragment.Distinct → c.baseDir = baseDir →
      c.application.requestType ≠ "" →
      (∀ p : Point, p.contents fragments = (c.fragment.content? p).toList) →
      (∀ path, path ≠ [] → (c.fragment.root.at? path).isSome =
        fragments.any fun f => (f.root.at? path).isSome) → Made fragments baseDir (.ok c)
  | conflict (p : Point) : 2 ≤ (p.contents fragments).length →
      Made fragments baseDir (.error p.conflict.error)
  | noApplication : Point.application.contents fragments = [] →
      Made fragments baseDir (.error (.config .noApplication))
  | noRequestType (a : Application) : Point.application.contents fragments = [a] →
      a.requestType = "" → Made fragments baseDir (.error (.config .noRequestType))

variable {fragments : List Fragment} {baseDir : String}

theorem ofFragments_made (baseDir : String) (hd : ∀ f ∈ fragments, f.Distinct) :
    Made fragments baseDir (ofFragments fragments baseDir) := by
  have hjoined := Fragment.joinAll_joined fragments Fragment.distinct_blank hd
  have hblank (p : Point) : p.contents (.blank :: fragments) = p.contents fragments := by
    rw [p.contents_cons, Fragment.content?_blank]
    rfl
  rw [ofFragments]
  generalize Fragment.blank.joinAll fragments = joined at hjoined ⊢
  cases hjoined with
  | conflict p hp => exact .conflict p (hblank p ▸ hp)
  | union f hf =>
    have hcontents (p : Point) : p.contents fragments = (f.content? p).toList :=
      (hblank p).symm.trans (hf.contents p)
    obtain ⟨application, services, environment, generalCases, cases⟩ := f
    cases application with
    | none => exact .noApplication (hcontents .application)
    | some a =>
      simp only [bind, Except.bind]
      split
      · exact .noRequestType a (hcontents .application) (String.isEmpty_iff.mp ‹_›)
      · refine .config _ hf.distinct rfl ?_ hcontents fun path hpath => ?_
        · exact fun hempty => ‹¬ _› (String.isEmpty_iff.mpr hempty)
        · have hhas := hf.has path
          rwa [List.any_cons, Fragment.at?_root_blank hpath] at hhas

theorem exists_ofFragments_iff (hd : ∀ f ∈ fragments, f.Distinct) :
    (∃ c, ofFragments fragments baseDir = .ok c) ↔
      (∃ a : Application, Point.application.contents fragments = [a] ∧ a.requestType ≠ "") ∧
        ∀ p : Point, (p.contents fragments).length ≤ 1 := by
  have hmade := ofFragments_made baseDir hd
  generalize ofFragments fragments baseDir = made at hmade ⊢
  cases hmade with
  | config c hc hbase htype hcontents hhas =>
    have happ : Point.application.contents fragments = [c.application] := hcontents .application
    refine ⟨fun _ => ⟨⟨c.application, happ, htype⟩, fun p => ?_⟩, fun _ => ⟨c, rfl⟩⟩
    rw [hcontents p]
    exact Option.length_toList_le
  | conflict p hp =>
    have hno : ¬ ∀ p : Point, (p.contents fragments).length ≤ 1 := fun h => by
      have hle := h p
      omega
    simp [hno]
  | noApplication happ => simp [happ]
  | noRequestType a happ htype =>
    have hno : ¬ ∃ b : Application,
        Point.application.contents fragments = [b] ∧ b.requestType ≠ "" := by
      rintro ⟨b, hb, hne⟩
      rw [happ, List.cons.injEq] at hb
      exact hne (hb.1 ▸ htype)
    simp [hno]

theorem ofFragments_perm {fragments' : List Fragment} {c : Config}
    (hd : ∀ f ∈ fragments, f.Distinct) (hperm : fragments.Perm fragments')
    (h : ofFragments fragments baseDir = .ok c) :
    ∃ c', ofFragments fragments' baseDir = .ok c' ∧ c.Reordered c' := by
  have hmade := ofFragments_made baseDir hd
  rw [h] at hmade
  cases hmade with
  | config _ hc hbase htype hcontents hhas =>
    have hsame (p : Point) : (p.contents fragments').Perm (c.fragment.content? p).toList :=
      hcontents p ▸ (hperm.filterMap _).symm
    have hmade' := ofFragments_made baseDir fun f hf => hd f (hperm.mem_iff.mpr hf)
    generalize ofFragments fragments' baseDir = made at hmade' ⊢
    cases hmade' with
    | config c' hc' hbase' _ hcontents' hhas' =>
      refine ⟨c', rfl, reordered_of_content? hc hc' (hbase.trans hbase'.symm) (fun p => ?_) ?_⟩
      · have hp := hsame p
        rw [hcontents' p] at hp
        have htoList : (c'.fragment.content? p).toList = (c.fragment.content? p).toList := by
          cases hmine : c.fragment.content? p with
          | none => exact (hmine ▸ hp).eq_nil
          | some a => exact (hmine ▸ hp).eq_singleton
        simpa using congrArg List.head? htoList.symm
      · rintro (_ | ⟨name, path⟩)
        · rfl
        · rw [hhas _ (List.cons_ne_nil _ _), hhas' _ (List.cons_ne_nil _ _), hperm.any_eq]
    | conflict p hp =>
      have hlength := (hsame p).length_eq
      have hle := Option.length_toList_le (o := c.fragment.content? p)
      omega
    | noApplication happ =>
      have hp := hsame .application
      simp [happ, Config.fragment, Fragment.content?] at hp
    | noRequestType a happ hempty =>
      have hp := hsame .application
      rw [happ] at hp
      obtain rfl : a = c.application := by simpa [Config.fragment, Fragment.content?] using hp
      exact absurd hempty htype

theorem ofFragments_conflict {path field : String} (hd : ∀ f ∈ fragments, f.Distinct)
    (h : ofFragments fragments baseDir = .error (.conflict path field)) :
    ∃ p : Point, p.conflict = ⟨path, field⟩ ∧ 2 ≤ (p.contents fragments).length := by
  have hmade := ofFragments_made baseDir hd
  generalize ofFragments fragments baseDir = made at hmade h
  cases hmade with
  | config => simp at h
  | conflict p hp =>
    obtain ⟨rfl, rfl⟩ : p.conflict.path = path ∧ p.conflict.field = field := by
      simpa [Conflict.error] using h
    exact ⟨p, rfl, hp⟩
  | noApplication => simp at h
  | noRequestType => simp at h

/-- A fragment with a case, and one that says more about it and has another case below it. -/
def sampleFragments : List Fragment :=
  [{ Fragment.blank with
      application := some ⟨"http", .blank⟩
      cases := [("a", ⟨{ CaseFields.blank with request := some .null }, []⟩)] },
    { Fragment.blank with
      cases := [("a", ⟨{ CaseFields.blank with only := some true }, [("b", .blank)]⟩)] }]

theorem distinct_sampleFragments : ∀ f ∈ sampleFragments, f.Distinct := by
  rw [sampleFragments, List.forall_mem_cons, List.forall_mem_singleton]
  constructor
  · constructor <;> simp [Fragment.blank, Entries.Distinct, casesDistinct, CaseNode.Distinct,
      CaseFields.blank]
  · constructor <;> simp [Fragment.blank, Entries.Distinct, casesDistinct, CaseNode.Distinct,
      CaseNode.blank, CaseFields.blank]

/-- Fragments make a configuration if one of them has the application, its type of requests is not
empty, and no two of them say something on one point. What they make has the contents of that one
fragment on every point and the cases of all fragments, in whatever order they come. If they are in
conflict, then over a point on which two of them say something. -/
theorem ofFragments_union (baseDir : String) (hd : ∀ f ∈ fragments, f.Distinct) :
    ((∃ c, ofFragments fragments baseDir = .ok c) ↔
      (∃ a : Application, Point.application.contents fragments = [a] ∧ a.requestType ≠ "") ∧
        ∀ p : Point, (p.contents fragments).length ≤ 1) ∧
    (∀ c, ofFragments fragments baseDir = .ok c →
      c.fragment.Distinct ∧ c.baseDir = baseDir ∧
        (∀ p : Point, c.fragment.content? p = (p.contents fragments).head?) ∧
        (∀ path, path ≠ [] → ((c.fragment.root.at? path).isSome ↔
          ∃ f ∈ fragments, (f.root.at? path).isSome)) ∧
        ∀ fragments', fragments.Perm fragments' →
          ∃ c', ofFragments fragments' baseDir = .ok c' ∧ c.Reordered c') ∧
    ∀ path field, ofFragments fragments baseDir = .error (.conflict path field) →
      ∃ p : Point, p.conflict = ⟨path, field⟩ ∧ 2 ≤ (p.contents fragments).length := by
  refine ⟨exists_ofFragments_iff hd, fun c h => ?_, fun path field => ofFragments_conflict hd⟩
  have hmade := ofFragments_made baseDir hd
  rw [h] at hmade
  cases hmade with
  | config _ hc hbase htype hcontents hhas =>
    refine ⟨hc, hbase, fun p => ?_, fun path hpath => ?_, fun fragments' hperm => ?_⟩
    · rw [hcontents p, Option.head?_toList]
    · rw [hhas path hpath, List.any_eq_true]
    · exact ofFragments_perm hd hperm h

theorem ofFragments_sampleFragments :
    (∃ c, ofFragments sampleFragments "" = .ok c ∧
      (∀ p : Point, c.fragment.content? p = (p.contents sampleFragments).head?) ∧
      (c.fragment.root.at? ["a", "b"]).isSome = true) ∧
    ∃ p : Point, p.conflict = ⟨"a", "only"⟩ ∧
      2 ≤ (p.contents (sampleFragments ++ sampleFragments.tail)).length := by
  have hd := distinct_sampleFragments
  have hd' : ∀ f ∈ sampleFragments ++ sampleFragments.tail, f.Distinct := by
    rw [List.forall_mem_append]
    exact ⟨hd, fun f hf => hd f (List.mem_of_mem_tail hf)⟩
  constructor
  · obtain ⟨c, h⟩ : ∃ c, ofFragments sampleFragments "" = .ok c := ⟨_, rfl⟩
    obtain ⟨_, _, hcontent, hhas, _⟩ := (ofFragments_union "" hd).2.1 c h
    refine ⟨c, h, hcontent, (hhas ["a", "b"] (by decide)).mpr ?_⟩
    exact ⟨_, List.mem_of_mem_tail List.mem_cons_self, rfl⟩
  · exact (ofFragments_union "" hd').2.2 "a" "only" rfl

end Config

end CaseSuite
