import CaseSuite.Proofs.Interpolation.Failure
import CaseSuite.Proofs.Run.Report
import CaseSuite.Proofs.Suite.Flattening
import CaseSuite.Proofs.Text.Split
/-!
When the response to a test is accepted. The status and the body alone decide it: nothing is saved
before the response is, so that an expected value with a marker in it is never met.
-/
set_option autoImplicit false

namespace CaseSuite

variable {m : Type → Type} {σ ρ ε α β : Type} {w w' : σ}

theorem run_bind_of_ok {x : ExceptT ε (StateM σ) α} {a : α} (h : x.run.run w = (.ok a, w'))
    (next : α → ExceptT ε (StateM σ) β) : (x >>= next).run.run w = (next a).run.run w' := by
  rw [ExceptT.run_bind, StateT.run_bind, h]
  rfl

theorem run_bind_of_error {x : ExceptT ε (StateM σ) α} {e : ε} (h : x.run.run w = (.error e, w'))
    (next : α → ExceptT ε (StateM σ) β) : (x >>= next).run.run w = (.error e, w') := by
  rw [ExceptT.run_bind, StateT.run_bind, h]
  rfl

/-- Actions that succeed one after the other, from the first world to the second. -/
inductive Succeed : List (Action (StateM σ) Unit) → σ → σ → Prop
  | nil (w : σ) : Succeed [] w w
  | cons {action : Action (StateM σ) Unit} {actions : List (Action (StateM σ) Unit)}
      {w w' w'' : σ} : action.run.run w = (.ok (), w') → Succeed actions w' w'' →
      Succeed (action :: actions) w w''

theorem Test.run_atStage {action : Action (StateM σ) α} {answer : Except Error α}
    (h : action.run.run w = (answer, w')) (stage : Stage) :
    (Test.atStage stage action).run.run w = (answer.mapError (Failure.mk stage), w') := by
  calc (Test.atStage stage action).run.run w
    _ = ((action.run.run w).1.mapError (Failure.mk stage), (action.run.run w).2) := rfl
    _ = (answer.mapError (Failure.mk stage), w') := by rw [h]

theorem Succeed.forM_atStage {actions : List (Action (StateM σ) Unit)} (h : Succeed actions w w')
    (stage : Stage) : (actions.forM (Test.atStage stage)).run.run w = (.ok (), w') := by
  induction h with
  | nil => rfl
  | cons haction _ ih => exact (run_bind_of_ok (Test.run_atStage haction stage) _).trans ih

/-! ### What is accepted -/

/-- What a body stands for: null if it is empty, and else the value that its JSON text has. -/
inductive Response.Decodes (r : Response) : Value → Prop
  | empty : r.body.isEmpty = true → Response.Decodes r .null
  | json {d : Value} : r.body.isEmpty = false → Value.readJson r.body = .ok d →
      Response.Decodes r d

/-- A response with this value meets what is expected of it. -/
inductive ExpectedResponse.Met (r : Response) (d : Value) : ExpectedResponse → Prop
  | absent : ExpectedResponse.Met r d .absent
  | empty : r.body.isEmpty = true → ExpectedResponse.Met r d .empty
  | pattern {p : Value} : p.Marked [] → checkEqual d p = .ok () →
      ExpectedResponse.Met r d (.pattern p)

structure Test.Accepts (t : Test m ρ) (r : Response) : Prop where
  body : ∃ d, r.Decodes d ∧ t.expectedResponse.Met r d
  status : ∀ code, t.expectedCode = some code → code ≠ 0 → r.status = code

/-- The variable that a marker's path starts from. -/
def Marker.root (m : Marker) : String := String.ofList (m.path.toList.takeWhile (· != '.'))

theorem VariableStore.find_empty (m : Marker) :
    VariableStore.empty.find m.path = .error (.undefined m.root) := by
  rw [VariableStore.find, Text.head?_split]
  rfl

theorem interpolate_empty {p : Value} {first : Marker} {others : List Marker}
    (h : p.Marked (first :: others)) :
    interpolate p .empty = .error (.interpolation first.path (.undefined first.root)) := by
  refine (Interpolator.through_interpolate h _).mpr (Interpolator.firstFails_cons.mpr (.inl ?_))
  exact .path (VariableStore.find_empty first)

theorem Response.value_eq_ok {r : Response} {d : Value} : r.value = .ok d ↔ r.Decodes d := by
  constructor
  · intro h
    rw [Response.value] at h
    split at h
    · cases h
      exact .empty ‹_›
    · exact .json (Bool.eq_false_iff.mpr ‹_›) (mapError_eq_ok.mp h)
  · intro h
    cases h with
    | empty hempty => rw [Response.value, if_pos hempty]
    | json hfull hread =>
      rw [Response.value, if_neg (Bool.eq_false_iff.mp hfull)]
      exact mapError_eq_ok.mpr hread

theorem ExpectedResponse.check_eq_ok {expected : ExpectedResponse} {r : Response} {d : Value}
    (hd : ∀ p, expected = .pattern p → p.Distinct) :
    expected.check .empty r d = .ok () ↔ expected.Met r d := by
  cases expected with
  | absent => exact iff_of_true rfl .absent
  | empty =>
    by_cases hempty : r.body.isEmpty = true
    · exact iff_of_true (if_pos hempty) (.empty hempty)
    · refine iff_of_false ?_ fun | .empty h => hempty h
      simp [ExpectedResponse.check, hempty]
  | pattern p =>
    obtain ⟨ms, hms⟩ := exists_marked p
    cases ms with
    | nil =>
      have hsame : interpolate p .empty = .ok p :=
        Interpolator.interpolate_of_unmarked (hd p rfl) hms
      simp only [ExpectedResponse.check, hsame]
      exact ⟨fun h => .pattern hms h, fun | .pattern _ h => h⟩
    | cons first others =>
      simp only [ExpectedResponse.check, interpolate_empty hms]
      refine iff_of_false (fun h => nomatch h) fun | .pattern hnone _ => ?_
      exact absurd (hms.unique hnone) (List.cons_ne_nil first others)

theorem checkCode_eq_ok {expected : Option Nat} {actual : Nat} :
    checkCode expected actual = .ok () ↔ ∀ code, expected = some code → actual = code := by
  cases expected with
  | none => simp [checkCode]
  | some code => simp [checkCode]

theorem Suite.expectedCode_ne_zero [Joinable ρ] {c : Config} {registry : Registry m ρ}
    {suite : Suite m ρ} (h : ofConfig c registry = .ok suite) {t : Test m ρ}
    (ht : t ∈ suite.tests) : t.expectedCode ≠ some 0 := by
  obtain ⟨b, hb, htests⟩ := exists_serves_of_ofConfig h
  have hdescribed := hb.treeTests_describes (hands_root hb) c.cases htests
  obtain ⟨o, _, ho⟩ := exists_mem_of_forall₂ hdescribed ht
  rw [ho.expectedCode]
  split_ifs with hzero
  · simp
  · exact hzero

namespace Test

theorem assess_eq_ok_iff {t : Test m ρ} {r : Response} {vars : VariableStore}
    (hd : ∀ p, t.expectedResponse = .pattern p → p.Distinct) :
    t.assess .empty r = .ok vars ↔ ∃ d, r.Decodes d ∧ t.expectedResponse.Met r d ∧
      (∀ code, t.expectedCode = some code → r.status = code) ∧ t.saved .empty d = vars := by
  rw [assess, bind_eq_ok]
  simp only [bind_unit_eq_ok, pure_eq_ok, Response.value_eq_ok, ExpectedResponse.check_eq_ok hd,
    checkCode_eq_ok]

theorem exists_assess_iff {t : Test m ρ} {r : Response} (hcode : t.expectedCode ≠ some 0)
    (hd : ∀ p, t.expectedResponse = .pattern p → p.Distinct) :
    (∃ vars, t.assess .empty r = .ok vars) ↔ t.Accepts r := by
  simp only [assess_eq_ok_iff hd]
  constructor
  · rintro ⟨_, d, hdecodes, hmet, hstatus, _⟩
    exact ⟨⟨d, hdecodes, hmet⟩, fun code hasked _ => hstatus code hasked⟩
  · rintro ⟨⟨d, hdecodes, hmet⟩, hstatus⟩
    refine ⟨t.saved .empty d, d, hdecodes, hmet, fun code hasked => hstatus code hasked ?_, rfl⟩
    rintro rfl
    exact hcode hasked

variable {t : Test (StateM σ) ρ} {environment : List (Action (StateM σ) Unit)} {r : Response}

theorem runChecks_ne_response (vars : VariableStore) (w : σ) (e : Error) :
    ((t.runChecks vars).run.run w).1 ≠ .error ⟨.response, e⟩ := by
  rw [runChecks, ExceptT.run_mk, StateT.run_bind]
  obtain ⟨⟨outcome, final⟩, w'⟩ := ((t.checkers.forM id).run.run vars).run w
  intro h
  cases outcome <;> cases h

variable [Requester (StateM σ) ρ]

/-- Everything before the response succeeds, and the request is answered. -/
def Answered (t : Test (StateM σ) ρ) (environment : List (Action (StateM σ) Unit)) (w : σ)
    (r : Response) (w' : σ) : Prop :=
  ∃ w₁ w₂, Succeed environment w w₁ ∧ Succeed t.preparers w₁ w₂ ∧
    (Requester.send t.request : Action (StateM σ) Response).run.run w₂ = (.ok r, w')

theorem Answered.run_eq (h : t.Answered environment w r w') :
    (t.run environment).run.run w = (do
      let vars ← atStage .response (liftExcept (t.assess .empty r))
      t.runChecks vars : ExceptT Failure (StateM σ) VariableStore).run.run w' := by
  obtain ⟨w₁, w₂, hinit, hprepare, hsend⟩ := h
  calc (t.run environment).run.run w
    _ = _ := run_bind_of_ok (hinit.forM_atStage .environment) _
    _ = _ := run_bind_of_ok (hprepare.forM_atStage .preparation) _
    _ = _ := run_bind_of_ok (run_atStage hsend .request) _

theorem Answered.run_of_ok {vars : VariableStore} (h : t.Answered environment w r w')
    (hassess : t.assess .empty r = .ok vars) :
    (t.run environment).run.run w = (t.runChecks vars).run.run w' := by
  rw [h.run_eq, hassess]
  exact run_bind_of_ok rfl _

theorem Answered.run_of_error {e : Error} (h : t.Answered environment w r w')
    (hassess : t.assess .empty r = .error e) :
    (t.run environment).run.run w = (.error ⟨.response, e⟩, w') := by
  rw [h.run_eq, hassess]
  exact run_bind_of_error rfl _

end Test

/-- The response to a test of a resolved suite passes exactly if it is accepted, and the checks then
start from what it stands for. A marker in the expected value fails the test, with the first one as
the error. -/
theorem Suite.run_answered {c : Config} {registry : Registry (StateM σ) ρ}
    [Requester (StateM σ) ρ] {suite : Suite (StateM σ) ρ} {t : Test (StateM σ) ρ}
    {environment : List (Action (StateM σ) Unit)} {r : Response}
    (hsuite : ofConfig c registry = .ok suite) (ht : t ∈ suite.tests)
    (hd : ∀ p, t.expectedResponse = .pattern p → p.Distinct)
    (h : t.Answered environment w r w') :
    ((∀ e, ((t.run environment).run.run w).1 ≠ .error ⟨.response, e⟩) ↔ t.Accepts r) ∧
      (t.Accepts r → ∃ d, r.Decodes d ∧
        (t.run environment).run.run w = (t.runChecks (t.saved .empty d)).run.run w') ∧
      ∀ p first others, t.expectedResponse = .pattern p → p.Marked (first :: others) →
        ¬ t.Accepts r ∧ ∀ d, r.Decodes d → (t.run environment).run.run w =
          (.error ⟨.response, .interpolation first.path (.undefined first.root)⟩, w') := by
  have haccepts := Test.exists_assess_iff (r := r) (expectedCode_ne_zero hsuite ht) hd
  refine ⟨?_, ?_, ?_⟩
  · rw [← haccepts]
    cases hassess : t.assess .empty r with
    | ok vars =>
      rw [h.run_of_ok hassess]
      exact iff_of_true (Test.runChecks_ne_response vars w') ⟨vars, rfl⟩
    | error e =>
      rw [h.run_of_error hassess]
      exact iff_of_false (fun hne => hne e rfl) fun ⟨_, hok⟩ => nomatch hok
  · intro hok
    obtain ⟨vars, hassess⟩ := haccepts.mpr hok
    obtain ⟨d, hvalue, rfl⟩ := t.assess_eq_ok hassess
    exact ⟨d, Response.value_eq_ok.mp hvalue, h.run_of_ok hassess⟩
  · intro p first others hp hmarked
    constructor
    · rintro ⟨⟨d, _, hmet⟩, _⟩
      rw [hp] at hmet
      cases hmet with
      | pattern hnone _ => exact absurd (hmarked.unique hnone) (List.cons_ne_nil first others)
    · intro d hdecodes
      refine h.run_of_error ?_
      simp only [Test.assess, Response.value_eq_ok.mpr hdecodes, hp, ExpectedResponse.check,
        interpolate_empty hmarked]
      rfl

def sampleResponse : Response := ⟨200, "\x7b\"a\": 1\x7d".toUTF8⟩

/-- What is initialized, prepared and sent is counted, and every request is answered alike. -/
def answeringRegistry : Registry (StateM Nat) CannedRequest where
  services := [("counter", fun _ _ => .ok ⟨fun _ => .ok (modify (· + 1)), fun _ => .ok (pure ())⟩)]
  requesters := [("canned", fun _ _ => .ok ⟨.ok sampleResponse⟩)]
  initializers := [("count", fun _ => .ok (modify (· + 1)))]

def answeredCase (expected : Value) : CaseFields :=
  { CaseFields.blank with
    prepareServices := [("db", .null)]
    request := some .null
    expectedResponse := .pattern expected
    expectedCode := some 200 }

def plainExpected : Value := .object [("a", .int 1)]

def markedExpected : Value := .object [("a", .str "\x7b\x7b response.a \x7d\x7d")]

/-- Two cases that expect the same but for a marker. -/
def answeredConfig : Config where
  application := ⟨"canned", .blank⟩
  services := [("db", ⟨"counter", []⟩)]
  environment := [("count", .null)]
  generalCases := []
  cases := [
    ("plain", ⟨answeredCase plainExpected, []⟩),
    ("marked", ⟨answeredCase markedExpected, []⟩)]
  baseDir := "/suite"

theorem marked_plainExpected : plainExpected.Marked [] := by
  have hkey : Cut "a".toList [] ['a'] := cut_iff.mpr (by decide +kernel)
  exact .object (.cons hkey (.scalar rfl rfl rfl) .nil)

theorem marked_markedExpected : markedExpected.Marked [⟨"response.a", none⟩] := by
  have hkey : Cut "a".toList [] ['a'] := cut_iff.mpr (by decide +kernel)
  have htext : Cut "\x7b\x7b response.a \x7d\x7d".toList [([], ⟨"response.a", none⟩)] [] :=
    cut_iff.mpr (by decide +kernel)
  exact .object (.cons hkey (.text htext) .nil)

theorem Suite.run_answered_answeredConfig : ∃ suite plain marked,
    ofConfig answeredConfig answeringRegistry = .ok suite ∧ suite.tests = [plain, marked] ∧
      (∀ e, ((plain.run suite.environment).run.run 0).1 ≠ .error ⟨.response, e⟩) ∧
      (marked.run suite.environment).run.run 0 =
        (.error ⟨.response, .interpolation "response.a" (.undefined "response")⟩, 3) := by
  obtain ⟨suite, plain, marked, hsuite, htests, hplain, hmarked, hcode, hanswered, hanswered'⟩ :
      ∃ suite plain marked, ofConfig answeredConfig answeringRegistry = .ok suite ∧
        suite.tests = [plain, marked] ∧ plain.expectedResponse = .pattern plainExpected ∧
        marked.expectedResponse = .pattern markedExpected ∧ plain.expectedCode = some 200 ∧
        plain.Answered suite.environment 0 sampleResponse 3 ∧
        marked.Answered suite.environment 0 sampleResponse 3 :=
    ⟨_, _, _, rfl, rfl, rfl, rfl, rfl, ⟨1, 2, .cons rfl (.nil 1), .cons rfl (.nil 2), rfl⟩,
      ⟨1, 2, .cons rfl (.nil 1), .cons rfl (.nil 2), rfl⟩⟩
  have hdecodes : sampleResponse.Decodes plainExpected := .json rfl rfl
  refine ⟨suite, plain, marked, hsuite, htests, ?_, ?_⟩
  · have hd : ∀ p, plain.expectedResponse = .pattern p → p.Distinct := by
      rw [hplain]
      rintro _ ⟨⟩
      simp [plainExpected, Value.Distinct, entriesDistinct]
    refine (run_answered hsuite (by simp [htests]) hd hanswered).1.mpr ⟨⟨_, hdecodes, ?_⟩, ?_⟩
    · rw [hplain]
      exact .pattern marked_plainExpected rfl
    · rw [hcode]
      rintro _ ⟨⟩ _
      rfl
  · have hd : ∀ p, marked.expectedResponse = .pattern p → p.Distinct := by
      rw [hmarked]
      rintro _ ⟨⟩
      simp [markedExpected, Value.Distinct, entriesDistinct]
    have hfails := run_answered hsuite (by simp [htests]) hd hanswered'
    exact (hfails.2.2 _ _ _ hmarked marked_markedExpected).2 _ hdecodes

end CaseSuite
