import CaseSuite.Proofs.Config.Tree
/-!
Points on which fragments say something: the application, the names in each section, and the fields
of the cases. With the cases there are, the contents of all points make out a configuration up to
the order of entries.
-/
set_option autoImplicit false

namespace CaseSuite

/-- A point on which only one fragment may say something. -/
inductive Point where
  | application
  | service (name : String)
  | environment (name : String)
  | generalCase (name : String)
  | field (path : List String) (k : CaseField)

namespace Point

@[reducible] def Content : Point → Type
  | .application => Application
  | .service _ => ServiceDeclaration
  | .environment _ => Value
  | .generalCase _ => GeneralCase
  | .field _ k => k.Content

/-- The conflict of fragments that both say something on the point. -/
def conflict : Point → Conflict
  | .application => ⟨"application", "application"⟩
  | .service name => ⟨"services", name⟩
  | .environment name => ⟨"environment", name⟩
  | .generalCase name => ⟨"general_cases", name⟩
  | .field path k => ⟨path.foldl qualify "", k.text⟩

end Point

namespace Fragment

/-- The cases of a fragment, below a case that says nothing. -/
def root (f : Fragment) : CaseNode := ⟨.blank, f.cases⟩

/-- What a fragment says on a point. -/
def content? (f : Fragment) : (p : Point) → Option p.Content
  | .application => f.application
  | .service name => f.services.find? name
  | .environment name => f.environment.find? name
  | .generalCase name => f.generalCases.find? name
  | .field path k => f.root.content? path k

theorem Distinct.root {f : Fragment} (h : f.Distinct) : f.root.Distinct :=
  ⟨List.nodup_nil, h.cases⟩

theorem distinct_blank : blank.Distinct :=
  ⟨List.nodup_nil, List.nodup_nil, List.nodup_nil, trivial⟩

theorem content?_blank (p : Point) : blank.content? p = none := by
  cases p with
  | field path k =>
    cases path with
    | nil => exact CaseFields.get?_blank k
    | cons name path => rfl
  | _ => rfl

theorem at?_root_blank {path : List String} (h : path ≠ []) : blank.root.at? path = none := by
  cases path with
  | nil => exact absurd rfl h
  | cons name path => rfl

end Fragment

/-- What fragments say on a point, one after the other. -/
def Point.contents (p : Point) (fragments : List Fragment) : List p.Content :=
  fragments.filterMap fun f => f.content? p

@[simp] theorem Point.contents_nil (p : Point) : p.contents [] = [] := rfl

theorem Point.contents_cons (p : Point) (f : Fragment) (fragments : List Fragment) :
    p.contents (f :: fragments) = (f.content? p).toList ++ p.contents fragments := by
  cases h : f.content? p <;> simp [contents, h]

/-- A whole suite as one fragment. -/
def Config.fragment (c : Config) : Fragment :=
  ⟨some c.application, c.services, c.environment, c.generalCases, c.cases⟩

/-- Cases with the same contents of all fields differ in the order of preparations alone. -/
theorem CaseFields.eq_of_get? {c d : CaseFields} (h : ∀ k, c.get? k = d.get? k) :
    d = { c with prepareServices := d.prepareServices } := by
  have hresponse : c.expectedResponse = d.expectedResponse := by
    have hdefined : c.definedResponse = d.definedResponse := h .expectedResponse
    simp only [definedResponse] at hdefined
    cases hc : c.expectedResponse <;> cases hd : d.expectedResponse <;>
      simp_all [ExpectedResponse.isAbsent]
  have hchecks : c.checkServices = d.checkServices := by
    have hdefined : c.definedChecks = d.definedChecks := h .checks
    simp only [definedChecks] at hdefined
    cases hc : c.checkServices <;> cases hd : d.checkServices <;> simp_all
  have hrequest : c.request = d.request := h .request
  have hmodify : c.modifyRequest = d.modifyRequest := h .modifyRequest
  have hcode : c.expectedCode = d.expectedCode := h .expectedCode
  have honly : c.only = d.only := h .only
  have hskip : c.skip = d.skip := h .skip
  have hgeneral : c.generalCases = d.generalCases := h .generalCases
  have hsave : c.saveResponseTo = d.saveResponseTo := h .saveResponseTo
  rw [hrequest, hmodify, hresponse, hcode, hchecks, honly, hskip, hgeneral, hsave]

/-- The same case, but for the order of its preparations and of the cases below it. -/
structure CaseNode.Reordered (m n : CaseNode) : Prop where
  own : n.own = { m.own with prepareServices := n.own.prepareServices }
  prepareServices : m.own.prepareServices.Perm n.own.prepareServices
  names : (Entries.names m.cases).Perm (Entries.names n.cases)

theorem CaseNode.isSome_at?_singleton (m : CaseNode) (name : String) :
    (m.at? [name]).isSome = true ↔ name ∈ Entries.names m.cases := by
  rw [← Entries.has_iff, Entries.has]
  simp [at?]

/-- Trees with the same nodes and contents differ in order alone, at every path. -/
theorem CaseNode.reordered_at? {m n : CaseNode} (hm : m.Distinct) (hn : n.Distinct)
    (hcontent : ∀ path k, m.content? path k = n.content? path k)
    (hhas : ∀ path, (m.at? path).isSome = (n.at? path).isSome) (path : List String) :
    Option.Rel Reordered (m.at? path) (n.at? path) := by
  induction path generalizing m n with
  | nil =>
    obtain ⟨own, cases⟩ := m
    obtain ⟨own', cases'⟩ := n
    refine .some ⟨CaseFields.eq_of_get? (hcontent []), ?_, ?_⟩
    · exact hm.1.perm_of_find? hn.1 fun service => hcontent [] (.preparation service)
    · have hnames := casesDistinct_names hm.2
      have hnames' := casesDistinct_names hn.2
      refine (List.perm_ext_iff_of_nodup hnames hnames').mpr fun name => ?_
      have hname := isSome_at?_singleton ⟨own, cases⟩ name
      rw [hhas [name], isSome_at?_singleton] at hname
      exact hname.symm
  | cons name path ih =>
    obtain ⟨own, cases⟩ := m
    obtain ⟨own', cases'⟩ := n
    rw [at?_cons, at?_cons]
    have hname : (Entries.find? name cases).isSome = (Entries.find? name cases').isSome := by
      simpa [at?] using hhas [name]
    cases hmine : Entries.find? name cases with
    | none =>
      cases htheirs : Entries.find? name cases' with
      | none => exact .none
      | some n => simp [hmine, htheirs] at hname
    | some m =>
      cases htheirs : Entries.find? name cases' with
      | none => simp [hmine, htheirs] at hname
      | some n =>
        refine ih (hm.2.of_find? hmine) (hn.2.of_find? htheirs) (fun path k => ?_) fun path => ?_
        · simpa [hmine, htheirs] using hcontent (name :: path) k
        · simpa [hmine, htheirs] using hhas (name :: path)

/-- The same configuration, but for the order of entries. -/
structure Config.Reordered (c d : Config) : Prop where
  application : c.application = d.application
  services : c.services.Perm d.services
  environment : c.environment.Perm d.environment
  generalCases : c.generalCases.Perm d.generalCases
  cases : ∀ path, Option.Rel CaseNode.Reordered (c.fragment.root.at? path)
    (d.fragment.root.at? path)
  baseDir : c.baseDir = d.baseDir

theorem Config.reordered_of_content? {c d : Config} (hc : c.fragment.Distinct)
    (hd : d.fragment.Distinct) (hbase : c.baseDir = d.baseDir)
    (hcontent : ∀ p, c.fragment.content? p = d.fragment.content? p)
    (hhas : ∀ path, (c.fragment.root.at? path).isSome = (d.fragment.root.at? path).isSome) :
    c.Reordered d where
  application := Option.some.inj (hcontent .application)
  services := hc.services.perm_of_find? hd.services fun name => hcontent (.service name)
  environment :=
    hc.environment.perm_of_find? hd.environment fun name => hcontent (.environment name)
  generalCases :=
    hc.generalCases.perm_of_find? hd.generalCases fun name => hcontent (.generalCase name)
  cases := CaseNode.reordered_at? hc.root hd.root (fun path k => hcontent (.field path k)) hhas
  baseDir := hbase

end CaseSuite
