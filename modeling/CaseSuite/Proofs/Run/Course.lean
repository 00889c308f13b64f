import CaseSuite.Proofs.Outcome
import CaseSuite.Proofs.Run.Transcript
/-!
The course of a test: its calls go through the plan in order, the first thing that fails cuts them
off, and the outcome tells what that was. Collaborators are arbitrary: each call does what it likes
to a world outside the test, and succeeds or fails as it likes.
-/
set_option autoImplicit false

namespace CaseSuite

variable {σ ρ ε α β : Type}

def ending : Except Failure α → Option Failure
  | .ok _ => none
  | .error failure => some failure

/-- A noting program does to the world what the plain one does, with the same outcome; the events
that it adds suit that outcome. -/
def Notes (noted : ExceptT ε (Noting (StateM σ) ρ) α) (plain : ExceptT ε (StateM σ) α)
    (P : Except ε α → List (Event (StateM σ) ρ) → Prop) : Prop :=
  ∀ log s, ∃ outcome events s', plain.run.run s = pure (outcome, s') ∧
    (noted.run.run log).run s = pure ((outcome, log ++ events), s') ∧ P outcome events

namespace Notes

variable {P : Except ε α → List (Event (StateM σ) ρ) → Prop}
  {Q : Except ε β → List (Event (StateM σ) ρ) → Prop}
  {noted : ExceptT ε (Noting (StateM σ) ρ) α} {plain : ExceptT ε (StateM σ) α}

theorem imp {P' : Except ε α → List (Event (StateM σ) ρ) → Prop} (h : Notes noted plain P)
    (himp : ∀ outcome events, P outcome events → P' outcome events) : Notes noted plain P' := by
  intro log s
  obtain ⟨outcome, events, s', hplain, hnoted, hP⟩ := h log s
  exact ⟨outcome, events, s', hplain, hnoted, himp outcome events hP⟩

theorem of_except {x : Except ε α} (h : P x []) : Notes (liftExcept x) (liftExcept x) P := by
  intro log s
  refine ⟨x, [], s, ?_, ?_, h⟩
  · cases x <;> rfl
  · rw [List.append_nil]
    cases x <;> rfl

theorem bind {next : α → ExceptT ε (Noting (StateM σ) ρ) β} {next' : α → ExceptT ε (StateM σ) β}
    (h : Notes noted plain P) (herror : ∀ e events, P (.error e) events → Q (.error e) events)
    (hnext : ∀ a events, P (.ok a) events →
      Notes (next a) (next' a) fun outcome more => Q outcome (events ++ more)) :
    Notes (noted >>= next) (plain >>= next') Q := by
  intro log s
  obtain ⟨outcome, events, s', hplain, hnoted, hP⟩ := h log s
  cases outcome with
  | error e =>
    -- the next step does not take place, so that its events are none
    refine ⟨.error e, events, s', ?_, ?_, herror e events hP⟩
    · simp [ExceptT.run_bind, hplain]
    · simp [ExceptT.run_bind, hnoted]
  | ok a =>
    obtain ⟨outcome, more, s'', hplain', hnoted', hQ⟩ := hnext a events hP (log ++ events) s'
    refine ⟨outcome, events ++ more, s'', ?_, ?_, hQ⟩
    · simp [ExceptT.run_bind, hplain, hplain']
    · simp [ExceptT.run_bind, hnoted, hnoted']

theorem atStage (note : Except Error α → Event (StateM σ) ρ) (stage : Stage)
    (action : Action (StateM σ) α) :
    Notes (Test.atStage stage (action.noted note)) (Test.atStage stage action)
      fun outcome events =>
        ∃ answer, events = [note answer] ∧ outcome = answer.mapError (Failure.mk stage) := by
  intro log s
  exact ⟨_, _, _, rfl, rfl, _, rfl, rfl⟩

end Notes

/-- How the actions of one stage are noted, and what ends the test there. -/
structure StageNotes (cut? : Event (StateM σ) ρ → Option Failure) (stage : Stage)
    (call : Action (StateM σ) Unit → Call (StateM σ) ρ)
    (note : Action (StateM σ) Unit → Except Error Unit → Event (StateM σ) ρ) : Prop where
  call : ∀ action answer, (note action answer).call = call action
  stores : ∀ action answer, (note action answer).stores? = none
  ok : ∀ action, cut? (note action (.ok ())) = none
  error : ∀ action e, cut? (note action (.error e)) = some ⟨stage, e⟩

theorem StageNotes.forM {cut? : Event (StateM σ) ρ → Option Failure} {stage : Stage}
    {call : Action (StateM σ) Unit → Call (StateM σ) ρ}
    {note : Action (StateM σ) Unit → Except Error Unit → Event (StateM σ) ρ}
    (h : StageNotes cut? stage call note) : (actions : List (Action (StateM σ) Unit)) →
      Notes ((actions.map fun action => action.noted (note action)).forM (Test.atStage stage))
        (actions.forM (Test.atStage stage)) fun outcome events =>
          events.filterMap Event.stores? = [] ∧
            Follows cut? (actions.map call) events (ending outcome)
  | [] => Notes.of_except (x := .ok ()) ⟨rfl, .done⟩
  | action :: actions => by
    refine (Notes.atStage (note action) stage action).bind ?_ ?_
    · rintro failure events ⟨answer, rfl, heq⟩
      cases answer with
      | ok _ => contradiction
      | error e =>
        obtain rfl := Except.error.inj heq
        rw [List.map_cons, ← h.call action (.error e)]
        exact ⟨by simp [h.stores], .cut _ (h.error action e)⟩
    · rintro _ events ⟨answer, rfl, heq⟩
      cases answer with
      | error _ => contradiction
      | ok _ =>
        -- the rest of the stage starts where the first action left the world and the log
        refine (h.forM actions).imp fun outcome more hmore => ?_
        rw [List.map_cons, ← h.call action (.ok ())]
        exact ⟨by simp [h.stores, hmore.1], .next (h.ok action) hmore.2⟩

namespace Test

variable (t : Test (StateM σ) ρ)

theorem notes_initialized : StageNotes t.cut? .environment .init .initialized :=
  ⟨fun _ _ => rfl, fun _ _ => rfl, fun _ => rfl, fun _ _ => rfl⟩

theorem notes_prepared : StageNotes t.cut? .preparation .prepare .prepared :=
  ⟨fun _ _ => rfl, fun _ _ => rfl, fun _ => rfl, fun _ _ => rfl⟩

theorem assess_eq_ok {response : Response} {start vars : VariableStore} :
    t.assess start response = .ok vars →
      ∃ actual, response.value = .ok actual ∧ t.saved start actual = vars := by
  intro h
  obtain ⟨actual, hactual, h⟩ := bind_eq_ok.mp h
  obtain ⟨_, h⟩ := bind_unit_eq_ok.mp h
  obtain ⟨_, h⟩ := bind_unit_eq_ok.mp h
  exact ⟨actual, hactual, pure_eq_ok.mp h⟩

theorem holds_saved (actual : Value) : t.Holds (t.saved .empty actual) actual := by
  intro name
  rw [saved, VariableStore.get?, VariableStore.save, Entries.find?_insert]
  by_cases hresponse : responseName = name
  · simp [hresponse]
  · cases hown : t.saveResponseTo with
    | none => simp [hresponse, Ne.symm hresponse, VariableStore.empty]
    | some own =>
      by_cases hname : own = name <;>
        simp [hresponse, Ne.symm hresponse, VariableStore.empty, VariableStore.save,
          Entries.find?_insert, hname]

end Test

theorem Check.run_noted {check : Check (StateM σ)} {vars left : VariableStore}
    {answer : Except Error Unit} {s s' : σ}
    (h : (check.run.run vars).run s = pure ((answer, left), s')) (log : List (Event (StateM σ) ρ)) :
    ((check.noted.run.run vars).run log).run s =
      pure (((answer, left), log ++ [.checked check vars left answer]), s') := by
  calc ((check.noted.run.run vars).run log).run s
    _ = (check.run.run vars).run s >>= fun ((answer, left), s') =>
          pure (((answer, left), log ++ [.checked check vars left answer]), s') := rfl
    _ = pure (((answer, left), log ++ [.checked check vars left answer]), s') := by
          rw [h, pure_bind]

/-- Induction on the checks, for every log and world that they may start from: each is made on the
variables of the one before it. -/
theorem exists_forM_checks (t : Test (StateM σ) ρ) (log : List (Event (StateM σ) ρ)) :
    (checkers : List (Check (StateM σ))) → (vars : VariableStore) → (s : σ) →
    ∃ outcome final events s',
      ((checkers.forM id).run.run vars).run s = pure ((outcome, final), s') ∧
      ((((checkers.map Check.noted).forM id).run.run vars).run log).run s =
        pure (((outcome, final), log ++ events), s') ∧
      Handed vars (events.filterMap Event.stores?) final ∧
      Follows t.cut? (checkers.map .check) events (ending (outcome.mapError (Failure.mk .check)))
  | [], vars, s => by
    refine ⟨.ok (), vars, [], s, rfl, ?_, .nil vars, .done⟩
    rw [List.append_nil]
    rfl
  | check :: checkers, vars, s => by
    obtain ⟨⟨⟨answer, left⟩, s'⟩, hplain⟩ :
      ∃ result, (check.run.run vars).run s = pure result := ⟨_, rfl⟩
    have hnoted := Check.run_noted hplain log
    cases answer with
    | error e =>
      refine ⟨.error e, left, [.checked check vars left (.error e)], s', ?_, ?_,
        .cons (.nil left), .cut (e := .checked check vars left (.error e)) _ rfl⟩
      · simp [List.forM_eq_forM, ExceptT.run_bind, hplain]
      · simp [List.forM_eq_forM, ExceptT.run_bind, hnoted]
    | ok _ =>
      obtain ⟨outcome, final, events, s'', hrest, hrest', hhanded, hfollows⟩ :=
        exists_forM_checks t (log ++ [.checked check vars left (.ok ())]) checkers left s'
      refine ⟨outcome, final, .checked check vars left (.ok ()) :: events, s'', ?_, ?_,
        .cons hhanded, .next (e := .checked check vars left (.ok ())) rfl hfollows⟩
      · simpa [List.forM_eq_forM, ExceptT.run_bind, hplain] using hrest
      · simpa [List.forM_eq_forM, ExceptT.run_bind, hnoted] using hrest'

namespace Test

variable (t : Test (StateM σ) ρ)

theorem notes_runChecks (vars : VariableStore) :
    Notes (t.noted.runChecks vars) (t.runChecks vars) fun outcome events =>
      Follows t.cut? (t.checkers.map .check) events (ending outcome) ∧
        ∃ final, Handed vars (events.filterMap Event.stores?) final ∧
          ∀ vars, outcome = .ok vars → vars = final := by
  intro log s
  obtain ⟨outcome, final, events, s', hplain, hnoted, hhanded, hfollows⟩ :=
    exists_forM_checks t log t.checkers vars s
  cases outcome with
  | error e =>
    refine ⟨.error ⟨.check, e⟩, events, s', ?_, ?_, hfollows, final, hhanded, ?_⟩
    · rw [runChecks, ExceptT.run_mk, StateT.run_bind, hplain]
      rfl
    · rw [runChecks, ExceptT.run_mk, StateT.run_bind, StateT.run_bind, noted, hnoted]
      rfl
    · simp
  | ok _ =>
    refine ⟨.ok final, events, s', ?_, ?_, hfollows, final, hhanded, ?_⟩
    · rw [runChecks, ExceptT.run_mk, StateT.run_bind, hplain]
      rfl
    · rw [runChecks, ExceptT.run_mk, StateT.run_bind, StateT.run_bind, noted, hnoted]
      rfl
    · simp

variable [Requester (StateM σ) ρ]

theorem notes_exchange :
    Notes
      (do
        let response ← atStage .request (Requester.send (m := Noting (StateM σ) ρ) t.request)
        let vars ← atStage .response (liftExcept (t.assess .empty response))
        t.noted.runChecks vars)
      (do
        let response ← atStage .request (Requester.send (m := StateM σ) t.request)
        let vars ← atStage .response (liftExcept (t.assess .empty response))
        t.runChecks vars)
      fun outcome events =>
        Follows t.cut? (.send t.request :: t.checkers.map .check) events (ending outcome) ∧
          t.HandsOn events outcome := by
  refine (Notes.atStage (.sent t.request) .request (Requester.send t.request)).bind ?_ ?_
  · rintro failure events ⟨answer, rfl, heq⟩
    cases answer with
    | ok _ => contradiction
    | error e =>
      obtain rfl := Except.error.inj heq
      exact ⟨.cut (e := .sent t.request (.error e)) _ rfl, .inl ⟨rfl, _, rfl⟩⟩
  · rintro response events ⟨answer, rfl, heq⟩
    obtain rfl : answer = .ok response := by
      cases answer with
      | ok _ => exact congrArg _ (Except.ok.inj heq).symm
      | error _ => contradiction
    cases hassess : t.assess .empty response with
    | error e =>
      have hcut : t.cut? (.sent t.request (.ok response)) = some ⟨.response, e⟩ := by
        simp [cut?, Event.error?, hassess]
      refine Notes.of_except (x := .error (Failure.mk .response e)) ?_
      exact ⟨.cut _ hcut, .inl ⟨rfl, _, rfl⟩⟩
    | ok vars =>
      have hcut : t.cut? (.sent t.request (.ok response)) = none := by
        simp [cut?, Event.error?, hassess]
      obtain ⟨actual, hactual, rfl⟩ := t.assess_eq_ok hassess
      refine (t.notes_runChecks (t.saved .empty actual)).imp ?_
      rintro outcome more ⟨hfollows, final, hhanded, hfinal⟩
      refine ⟨.next hcut hfollows, .inr ⟨response, actual, t.saved .empty actual, final, ?_, hactual,
        t.holds_saved actual, hhanded, hfinal⟩⟩
      exact List.mem_cons_self

omit [Requester (StateM σ) ρ] in
/-- Calls that make no checks can stand before anything that follows its part of the plan. -/
theorem notes_before {noted : ExceptT Failure (Noting (StateM σ) ρ) α}
    {plain : ExceptT Failure (StateM σ) α}
    {next : α → ExceptT Failure (Noting (StateM σ) ρ) VariableStore}
    {next' : α → ExceptT Failure (StateM σ) VariableStore} {calls others : List (Call (StateM σ) ρ)}
    (h : Notes noted plain fun outcome events => events.filterMap Event.stores? = [] ∧
      Follows t.cut? calls events (ending outcome))
    (hnext : ∀ a, Notes (next a) (next' a) fun outcome events =>
      Follows t.cut? others events (ending outcome) ∧ t.HandsOn events outcome) :
    Notes (noted >>= next) (plain >>= next') fun outcome events =>
      Follows t.cut? (calls ++ others) events (ending outcome) ∧ t.HandsOn events outcome := by
  refine h.bind ?_ ?_
  · rintro failure events ⟨hstores, hfollows⟩
    exact ⟨hfollows.append_of_cut others, .inl ⟨hstores, failure, rfl⟩⟩
  · rintro a events ⟨hstores, hfollows⟩
    refine (hnext a).imp ?_
    rintro outcome more ⟨hmore, hhands⟩
    refine ⟨hfollows.append hmore, ?_⟩
    rw [HandsOn, List.filterMap_append, hstores, List.nil_append]
    refine hhands.imp_right ?_
    rintro ⟨response, actual, start, final, hmem, hrest⟩
    exact ⟨response, actual, start, final, List.mem_append_right events hmem, hrest⟩

theorem notes_run (environment : List (Action (StateM σ) Unit)) :
    Notes (t.noted.run (environment.map fun action => action.noted (.initialized action)))
      (t.run environment) fun outcome events =>
        Follows t.cut? (t.plan environment) events (ending outcome) ∧ t.HandsOn events outcome :=
  t.notes_before (t.notes_initialized.forM environment) fun _ =>
    t.notes_before (t.notes_prepared.forM t.preparers) fun _ => t.notes_exchange

omit [Requester (StateM σ) ρ] in
theorem course_of_follows (environment : List (Action (StateM σ) Unit))
    {events : List (Event (StateM σ) ρ)} {outcome : Except Failure VariableStore}
    (h : Follows t.cut? (t.plan environment) events (ending outcome))
    (hhands : t.HandsOn events outcome) : t.Course environment events outcome := by
  cases outcome with
  | ok vars =>
    obtain ⟨hcalls, huncut⟩ := h.map_call_eq
    refine ⟨hcalls ▸ List.prefix_rfl, fun e he => huncut e (List.mem_of_mem_dropLast he),
      fun _ => hcalls, ⟨fun _ => huncut, fun _ => ⟨vars, rfl⟩⟩, fun failure => ⟨by simp, ?_⟩,
      hhands⟩
    rintro ⟨last, hlast, hcut⟩
    rw [huncut last (List.mem_of_getLast? hlast)] at hcut
    contradiction
  | error failure =>
    obtain ⟨before, last, rfl, huncut, hcut, hcalls⟩ := h.exists_last
    have hnot : ¬ ∀ e ∈ before ++ [last], t.cut? e = none := by
      intro hall
      rw [hall last (by simp)] at hcut
      contradiction
    refine ⟨hcalls, by simpa using huncut, fun hall => absurd hall hnot,
      ⟨by simp, fun hall => absurd hall hnot⟩, fun other => ?_, hhands⟩
    simp [hcut]

/-- The calls of a test are a first part of its plan: it stops right after the first event that
ends it, with that event's failure, and passes if there is none. The checks start from the decoded
body, and each goes on from what the one before it left. -/
theorem run_course (environment : List (Action (StateM σ) Unit)) (s : σ) :
    ∃ outcome events s', (t.run environment).run.run s = (outcome, s') ∧
      (t.transcript environment).run s = ((outcome, events), s') ∧
      t.Course environment events outcome := by
  obtain ⟨outcome, events, s', hplain, hnoted, hfollows, hhands⟩ := t.notes_run environment [] s
  exact ⟨outcome, events, s', hplain, hnoted, t.course_of_follows environment hfollows hhands⟩

end Test

end CaseSuite
