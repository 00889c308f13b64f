import CaseSuite.Proofs.Config.Distinct
/-!
The fields of a case, one by one. Merging two definitions of a case goes through the fields in a
fixed order: it takes over what only the other one defines and stops at the first field of both.
-/
set_option autoImplicit false

namespace CaseSuite

/-- A field of a case; the preparation of each service is one. -/
inductive CaseField where
  | preparation (service : String)
  | request
  | modifyRequest
  | expectedResponse
  | expectedCode
  | checks
  | only
  | skip
  | generalCases
  | saveResponseTo

namespace CaseField

@[reducible] def Content : CaseField → Type
  | .preparation _ | .request | .modifyRequest => Value
  | .expectedResponse => ExpectedResponse
  | .expectedCode => Nat
  | .checks => List (Entries Value)
  | .only | .skip => Bool
  | .generalCases => Selector
  | .saveResponseTo => String

/-- The name of the field in a conflict. -/
def text : CaseField → String
  | .preparation service => s!"prepare_services.{service}"
  | .request => "request"
  | .modifyRequest => "modify_request"
  | .expectedResponse => "expected_response"
  | .expectedCode => "expected_code"
  | .checks => "check_services"
  | .only => "only"
  | .skip => "skip"
  | .generalCases => "general_cases"
  | .saveResponseTo => "save_response_to"

/-- The turn of the field when cases are merged. -/
def turn : CaseField → Nat
  | .preparation _ => 0
  | .request => 1
  | .modifyRequest => 2
  | .expectedResponse => 3
  | .expectedCode => 4
  | .checks => 5
  | .only => 6
  | .skip => 7
  | .generalCases => 8
  | .saveResponseTo => 9

theorem turn_lt (k : CaseField) : k.turn < 10 := by
  cases k <;> simp [turn]

theorem eq_of_turn {j k : CaseField} (h : j.turn = k.turn) (hk : 0 < k.turn) : j = k := by
  cases j <;> cases k <;> simp_all [turn]

theorem exists_preparation {k : CaseField} (h : k.turn = 0) :
    ∃ service, k = .preparation service := by
  cases k <;> simp_all [turn]

end CaseField

namespace CaseFields

/-- What the case says in a field, if it defines the field. -/
def get? (c : CaseFields) : (k : CaseField) → Option k.Content
  | .preparation service => c.prepareServices.find? service
  | .request => c.request
  | .modifyRequest => c.modifyRequest
  | .expectedResponse => c.definedResponse
  | .expectedCode => c.expectedCode
  | .checks => c.definedChecks
  | .only => c.only
  | .skip => c.skip
  | .generalCases => c.generalCases
  | .saveResponseTo => c.saveResponseTo

theorem get?_blank (k : CaseField) : blank.get? k = none := by
  cases k <;> rfl

def put (c : CaseFields) : (k : CaseField) → k.Content → CaseFields
  | .preparation service, a => { c with prepareServices := c.prepareServices.insert service a }
  | .request, a => { c with request := some a }
  | .modifyRequest, a => { c with modifyRequest := some a }
  | .expectedResponse, a => { c with expectedResponse := a }
  | .expectedCode, a => { c with expectedCode := some a }
  | .checks, a => { c with checkServices := a }
  | .only, a => { c with only := some a }
  | .skip, a => { c with skip := some a }
  | .generalCases, a => { c with generalCases := some a }
  | .saveResponseTo, a => { c with saveResponseTo := some a }

theorem definedResponse_eq_some {c : CaseFields} {a : ExpectedResponse} :
    c.definedResponse = some a ↔ a.isAbsent = false ∧ c.expectedResponse = a := by
  rw [definedResponse, Option.ite_none_left_eq_some, Bool.not_eq_true, Option.some.injEq]
  exact and_congr_left fun h => by rw [h]

theorem definedChecks_eq_some {c : CaseFields} {a : List (Entries Value)} :
    c.definedChecks = some a ↔ a.isEmpty = false ∧ c.checkServices = a := by
  rw [definedChecks, Option.ite_none_left_eq_some, Bool.not_eq_true, Option.some.injEq]
  exact and_congr_left fun h => by rw [h]

theorem get?_put_self {c other : CaseFields} {k : CaseField} {a : k.Content}
    (h : other.get? k = some a) : (c.put k a).get? k = some a := by
  cases k with
  | preparation service => simp [get?, put, Entries.find?_insert]
  | expectedResponse => exact definedResponse_eq_some.mpr ⟨(definedResponse_eq_some.mp h).1, rfl⟩
  | checks => exact definedChecks_eq_some.mpr ⟨(definedChecks_eq_some.mp h).1, rfl⟩
  | _ => rfl

theorem get?_put_of_ne {c : CaseFields} {j k : CaseField} (h : j ≠ k) (a : k.Content) :
    (c.put k a).get? j = c.get? j := by
  cases k with
  | preparation service =>
    cases j with
    | preparation name =>
      have hne : service ≠ name := fun heq => h (heq ▸ rfl)
      simp [get?, put, Entries.find?_insert, hne]
    | _ => rfl
  | _ =>
    cases j <;> try contradiction
    all_goals rfl

theorem prepareServices_put {c : CaseFields} {k : CaseField} (h : 0 < k.turn) (a : k.Content) :
    (c.put k a).prepareServices = c.prepareServices := by
  cases k with
  | preparation service => simp [CaseField.turn] at h
  | _ => rfl

def Clash (c other : CaseFields) (k : CaseField) : Prop :=
  (c.get? k).isSome ∧ (other.get? k).isSome

/-- What became of merging two cases when all fields before a turn have been looked at. -/
inductive Taken (path : String) (c other : CaseFields) (turn : Nat) : Progress CaseFields → Prop
  | going (d : CaseFields) : d.prepareServices.Distinct →
      (∀ k : CaseField, k.turn < turn →
        ¬ Clash c other k ∧ d.get? k = (c.get? k <|> other.get? k)) →
      (∀ k : CaseField, turn ≤ k.turn → d.get? k = c.get? k) → Taken path c other turn ⟨d, none⟩
  | stopped (d : CaseFields) (k : CaseField) : Clash c other k →
      Taken path c other turn ⟨d, some ⟨path, k.text⟩⟩

theorem takePreparations_cases (path part : String) (es : Entries Value) (c : CaseFields) :
    (∃ known, addUnique part c.prepareServices es = .ok known ∧
        takePreparations path es c = ⟨{ c with prepareServices := known }, none⟩) ∨
      ∃ service d, addUnique part c.prepareServices es = .error (.conflict part service) ∧
        takePreparations path es c = ⟨d, some ⟨path, (CaseField.preparation service).text⟩⟩ := by
  induction es generalizing c with
  | nil => simp [takePreparations, addUnique]
  | cons e es ih =>
    obtain ⟨service, params⟩ := e
    cases hhas : c.prepareServices.has service with
    | true =>
      refine .inr ⟨service, c, ?_, ?_⟩
      · rw [addUnique, if_pos hhas]
      · rw [takePreparations, if_pos hhas]
        rfl
    | false =>
      simpa [takePreparations, addUnique, hhas] using
        ih { c with prepareServices := c.prepareServices.insert service params }

theorem Taken.preparations (path : String) {c other : CaseFields}
    (hc : c.prepareServices.Distinct) (hother : other.prepareServices.Distinct) :
    Taken path c other 1 (takePreparations path other.prepareServices c) := by
  obtain ⟨known, hadd, htake⟩ | ⟨service, d, hadd, htake⟩ :=
    takePreparations_cases path "" other.prepareServices c
  · obtain ⟨hdisjoint, hadd'⟩ | ⟨_, _, _, hadd'⟩ := addUnique_cases "" hother c.prepareServices
    · rw [hadd, Except.ok.injEq] at hadd'
      subst hadd'
      rw [htake]
      refine .going _ (hc.append hother hdisjoint) (fun k hk => ?_) fun k hk => ?_
      · obtain ⟨service, rfl⟩ := CaseField.exists_preparation (Nat.lt_one_iff.mp hk)
        refine ⟨fun ⟨hmine, htheirs⟩ => ?_, Entries.find?_append ..⟩
        exact hdisjoint (Entries.has_iff.mp hmine) (Entries.has_iff.mp htheirs)
      · cases k with
        | preparation service => simp [CaseField.turn] at hk
        | _ => rfl
    · simp [hadd] at hadd'
  · obtain ⟨_, hadd'⟩ | ⟨name, hmine, htheirs, hadd'⟩ := addUnique_cases "" hother c.prepareServices
    · simp [hadd] at hadd'
    · obtain rfl : service = name := by simpa [hadd] using hadd'
      rw [htake]
      exact .stopped d _ ⟨Entries.has_iff.mpr hmine, Entries.has_iff.mpr htheirs⟩

theorem Taken.next {path : String} {c other : CaseFields} {p : Progress CaseFields}
    (k : CaseField) (hk : 0 < k.turn) (h : Taken path c other k.turn p) :
    Taken path c other (k.turn + 1)
      (p.next fun d => d.takeField path k.text (d.get? k) (other.get? k) (d.put k)) := by
  cases h with
  | stopped d j hclash => exact .stopped d j hclash
  | going d hd htaken hleft =>
    -- before its turn a field is as it was, so the clash is one of the cases as they came
    have hmine : d.get? k = c.get? k := hleft k (Nat.le_refl _)
    cases htheirs : other.get? k with
    | none =>
      refine .going d hd (fun j hj => ?_) fun j hj => hleft j (by omega)
      by_cases hlt : j.turn < k.turn
      · exact htaken j hlt
      · obtain rfl : j = k := CaseField.eq_of_turn (by omega) hk
        simp [Clash, htheirs, hmine]
    | some a =>
      cases hknown : d.get? k with
      | some b =>
        have hclash : Clash c other k := ⟨by simp [← hmine, hknown], by simp [htheirs]⟩
        simpa [Progress.next, takeField, htheirs, hknown] using .stopped d k hclash
      | none =>
        simp only [Progress.next, takeField, hknown]
        refine .going (d.put k a) (by rwa [prepareServices_put hk]) (fun j hj => ?_) fun j hj => ?_
        · by_cases hlt : j.turn < k.turn
          · have hne : j ≠ k := by
              rintro rfl
              omega
            rw [get?_put_of_ne hne]
            exact htaken j hlt
          · obtain rfl : j = k := CaseField.eq_of_turn (by omega) hk
            simp [Clash, ← hmine, hknown, htheirs, get?_put_self htheirs]
        · have hne : j ≠ k := by
            rintro rfl
            omega
          rw [get?_put_of_ne hne]
          exact hleft j (by omega)

theorem merge_taken (path : String) {c other : CaseFields} (hc : c.prepareServices.Distinct)
    (hother : other.prepareServices.Distinct) : Taken path c other 10 (c.merge path other) := by
  have h : Taken path c other 1 _ := .preparations path hc hother
  replace h := h.next .request (by decide)
  replace h := h.next .modifyRequest (by decide)
  replace h := h.next .expectedResponse (by decide)
  replace h := h.next .expectedCode (by decide)
  replace h := h.next .checks (by decide)
  replace h := h.next .only (by decide)
  replace h := h.next .skip (by decide)
  replace h := h.next .generalCases (by decide)
  exact h.next .saveResponseTo (by decide)

end CaseFields

end CaseSuite
