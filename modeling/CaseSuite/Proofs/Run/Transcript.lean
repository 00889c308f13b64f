import CaseSuite.Proofs.Entries
import CaseSuite.Suite.Verdict
import Mathlib.Data.List.Infix
/-!
What a test asks of its collaborators, and what comes back. A test that is run with collaborators
that note each call gives a transcript; the events of a transcript are held against the plan of the
test, which is everything that it would call if nothing failed.
-/
set_option autoImplicit false

namespace CaseSuite

inductive Call (m : Type → Type) (ρ : Type) where
  | init (action : Action m Unit)
  | prepare (action : Action m Unit)
  | send (request : ρ)
  | check (check : Check m)

/-- A call that took place, with its answer; a check also with the variables before and after. -/
inductive Event (m : Type → Type) (ρ : Type) where
  | initialized (action : Action m Unit) (answer : Except Error Unit)
  | prepared (action : Action m Unit) (answer : Except Error Unit)
  | sent (request : ρ) (answer : Except Error Response)
  | checked (check : Check m) (seen left : VariableStore) (answer : Except Error Unit)

variable {m : Type → Type} {ρ : Type}

def Call.stage : Call m ρ → Stage
  | .init _ => .environment
  | .prepare _ => .preparation
  | .send _ => .request
  | .check _ => .check

namespace Event

def call : Event m ρ → Call m ρ
  | .initialized action _ => .init action
  | .prepared action _ => .prepare action
  | .sent request _ => .send request
  | .checked check _ _ _ => .check check

def error? : Event m ρ → Option Error
  | .initialized _ (.error e) | .prepared _ (.error e) | .sent _ (.error e)
  | .checked _ _ _ (.error e) => some e
  | _ => none

def stores? : Event m ρ → Option (VariableStore × VariableStore)
  | .checked _ seen left _ => some (seen, left)
  | _ => none

end Event

/-- Calls made one after the other: all of them, or up to the first event that cuts them off. -/
inductive Follows (cut? : Event m ρ → Option Failure) :
    List (Call m ρ) → List (Event m ρ) → Option Failure → Prop
  | done : Follows cut? [] [] none
  | next {e : Event m ρ} {calls : List (Call m ρ)} {events : List (Event m ρ)}
      {ending : Option Failure} : cut? e = none → Follows cut? calls events ending →
      Follows cut? (e.call :: calls) (e :: events) ending
  | cut {e : Event m ρ} {failure : Failure} (calls : List (Call m ρ)) :
      cut? e = some failure → Follows cut? (e.call :: calls) [e] (some failure)

namespace Follows

variable {cut? : Event m ρ → Option Failure} {calls others : List (Call m ρ)}
  {events more : List (Event m ρ)} {ending : Option Failure} {failure : Failure}

theorem append (h : Follows cut? calls events none) (h' : Follows cut? others more ending) :
    Follows cut? (calls ++ others) (events ++ more) ending := by
  generalize hnone : none = start at h
  induction h with
  | done => exact h'
  | next hcut _ ih => exact .next hcut (ih hnone)
  | cut => contradiction

theorem append_of_cut (h : Follows cut? calls events (some failure)) (others : List (Call m ρ)) :
    Follows cut? (calls ++ others) events (some failure) := by
  generalize hsome : some failure = ending at h
  induction h with
  | done => contradiction
  | next hcut _ ih => exact .next hcut (ih hsome)
  | cut calls hcut => exact .cut (calls ++ others) hcut

theorem map_call_eq (h : Follows cut? calls events none) :
    events.map Event.call = calls ∧ ∀ e ∈ events, cut? e = none := by
  generalize hnone : none = ending at h
  induction h with
  | done => simp
  | next hcut _ ih =>
    obtain ⟨hcalls, huncut⟩ := ih hnone
    subst hnone
    simpa [hcalls, hcut] using huncut
  | cut => contradiction

theorem exists_last (h : Follows cut? calls events (some failure)) :
    ∃ before last, events = before ++ [last] ∧ (∀ e ∈ before, cut? e = none) ∧
      cut? last = some failure ∧ events.map Event.call <+: calls := by
  generalize hsome : some failure = ending at h
  -- the cut is the last event, which every earlier one only moves further back
  induction h with
  | done => contradiction
  | @next e calls events ending hcut _ ih =>
    obtain ⟨before, last, rfl, huncut, hlast, hcalls⟩ := ih hsome
    refine ⟨e :: before, last, rfl, ?_, hlast, ?_⟩
    · simpa [hcut] using huncut
    · simpa using hcalls
  | @cut e _ calls hcut =>
    refine ⟨[], e, rfl, ?_, hsome ▸ hcut, ?_⟩
    · simp
    · simp

end Follows

/-- Variables handed on: each pair is what one step was given and what it left for the next. -/
inductive Handed : VariableStore → List (VariableStore × VariableStore) → VariableStore → Prop
  | nil (vars : VariableStore) : Handed vars [] vars
  | cons {seen left final : VariableStore} {rest : List (VariableStore × VariableStore)} :
      Handed left rest final → Handed seen ((seen, left) :: rest) final

namespace Test

variable (t : Test m ρ)

/-- Everything that a test calls if nothing fails, in order. -/
def plan (environment : List (Action m Unit)) : List (Call m ρ) :=
  environment.map .init ++ (t.preparers.map .prepare ++ (.send t.request ::
    t.checkers.map .check))

/-- Why a test ends with an event: the call failed, or the response is not what is expected. -/
def cut? (e : Event m ρ) : Option Failure :=
  match e.error?, e with
  | some error, _ => some ⟨e.call.stage, error⟩
  | none, .sent _ (.ok response) =>
    match t.assess .empty response with
    | .ok _ => none
    | .error error => some ⟨.response, error⟩
  | none, _ => none

/-- The variables are this value under the name of responses and under the test's own name for it,
and nothing else. -/
def Holds (vars : VariableStore) (actual : Value) : Prop :=
  ∀ name, vars.get? name =
    if name = responseName ∨ t.saveResponseTo = some name then some actual else none

/-- No check was made and the test failed; or the checks started from the decoded body and handed
their variables on, at the end to the outcome. -/
def HandsOn (events : List (Event m ρ)) (outcome : Except Failure VariableStore) : Prop :=
  events.filterMap Event.stores? = [] ∧ (∃ failure, outcome = .error failure) ∨
    ∃ response actual start final, .sent t.request (.ok response) ∈ events ∧
      response.value = .ok actual ∧ t.Holds start actual ∧
      Handed start (events.filterMap Event.stores?) final ∧
      ∀ vars, outcome = .ok vars → vars = final

/-- How the events of a test and its outcome go together. -/
structure Course (environment : List (Action m Unit)) (events : List (Event m ρ))
    (outcome : Except Failure VariableStore) : Prop where
  calls : events.map Event.call <+: t.plan environment
  uncut : ∀ e ∈ events.dropLast, t.cut? e = none
  complete : (∀ e ∈ events, t.cut? e = none) → events.map Event.call = t.plan environment
  passed : (∃ vars, outcome = .ok vars) ↔ ∀ e ∈ events, t.cut? e = none
  failed : ∀ failure, outcome = .error failure ↔
    ∃ last, events.getLast? = some last ∧ t.cut? last = some failure
  handsOn : t.HandsOn events outcome

end Test

/-- Acts as `m` does and keeps the events so far. -/
abbrev Noting (m : Type → Type) (ρ : Type) := StateT (List (Event m ρ)) m

variable [Monad m]

def Action.noted {α : Type} (note : Except Error α → Event m ρ) (action : Action m α) :
    Action (Noting m ρ) α :=
  ExceptT.mk do
    let answer ← (action.run : m _)
    modify (· ++ [note answer])
    return answer

def Check.noted (check : Check m) : Check (Noting m ρ) :=
  ExceptT.mk do
    let seen ← get
    let (answer, left) ← (check.run.run seen : m _)
    set left
    modifyThe (List (Event m ρ)) (· ++ [.checked check seen left answer])
    return answer

instance [h : Requester m ρ] : Requester (Noting m ρ) ρ where
  toJoinable := h.toJoinable
  send request := Action.noted (.sent request) (Requester.send (m := m) request)

/-- The test with collaborators that note what they are asked. -/
def Test.noted (t : Test m ρ) : Test (Noting m ρ) ρ :=
  { t with
    preparers := t.preparers.map fun action => Action.noted (.prepared action) action
    checkers := t.checkers.map Check.noted }

def Test.transcript [Requester m ρ] (t : Test m ρ) (environment : List (Action m Unit)) :
    m (Except Failure VariableStore × List (Event m ρ)) :=
  (t.noted.run (environment.map fun action => Action.noted (.initialized action) action)).run.run []

end CaseSuite
