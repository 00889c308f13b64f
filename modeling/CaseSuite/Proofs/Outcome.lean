import Mathlib.Data.List.Forall2
/-!
Steps that can fail: what is known of their parts once a whole sequence of them has succeeded.
-/
set_option autoImplicit false

namespace CaseSuite

variable {ε ε' α β γ : Type}

theorem bind_eq_ok {step : Except ε α} {next : α → Except ε β} {b : β} :
    (step >>= next) = .ok b ↔ ∃ a, step = .ok a ∧ next a = .ok b := by
  cases step with
  | ok _ => simp [bind, Except.bind]
  | error _ => simp [bind, Except.bind]

theorem bind_unit_eq_ok {step : Except ε Unit} {next : Unit → Except ε β} {b : β} :
    (step >>= next) = .ok b ↔ step = .ok () ∧ next () = .ok b := by
  rw [bind_eq_ok]
  exact ⟨fun ⟨(), h⟩ => h, fun h => ⟨(), h⟩⟩

theorem pure_eq_ok {a b : α} : (pure a : Except ε α) = .ok b ↔ a = b := by
  simp [pure, Except.pure]

theorem pure_ne_error {a : α} {e : ε} : (pure a : Except ε α) ≠ .error e := by
  simp [pure, Except.pure]

theorem map_eq_ok {x : Except ε α} {f : α → β} {b : β} :
    (f <$> x) = .ok b ↔ ∃ a, x = .ok a ∧ f a = b := by
  cases x <;> simp [Functor.map, Except.map]

theorem bind_eq_error {step : Except ε α} {next : α → Except ε β} {e : ε} :
    (step >>= next) = .error e ↔ step = .error e ∨ ∃ a, step = .ok a ∧ next a = .error e := by
  cases step with
  | ok _ => simp [bind, Except.bind]
  | error _ => simp [bind, Except.bind]

theorem map_eq_error {x : Except ε α} {f : α → β} {e : ε} :
    (f <$> x) = .error e ↔ x = .error e := by
  cases x <;> simp [Functor.map, Except.map]

theorem mapError_eq_ok {x : Except ε α} {name : ε → ε'} {a : α} :
    x.mapError name = .ok a ↔ x = .ok a := by
  cases x with
  | ok _ => simp [Except.mapError]
  | error _ => simp [Except.mapError]

theorem mapError_eq_error {x : Except ε α} {name : ε → ε'} {e : ε'} :
    x.mapError name = .error e ↔ ∃ cause, x = .error cause ∧ name cause = e := by
  cases x with
  | ok _ => simp [Except.mapError]
  | error _ => simp [Except.mapError]

/-- All steps of a list succeed if each of them does, and the results are in the same order. -/
theorem mapM_eq_ok {f : α → Except ε β} {as : List α} {bs : List β} :
    as.mapM f = .ok bs ↔ List.Forall₂ (fun a b => f a = .ok b) as bs := by
  induction as generalizing bs with
  | nil => cases bs <;> simp [pure, Except.pure]
  | cons a as ih =>
    simp only [List.mapM_cons, bind_eq_ok, pure_eq_ok, ih, List.forall₂_cons_left_iff]
    constructor
    · rintro ⟨b, hb, cs, hcs, rfl⟩
      exact ⟨b, cs, hb, hcs, rfl⟩
    · rintro ⟨b, cs, hb, hcs, rfl⟩
      exact ⟨b, hb, cs, hcs, rfl⟩

theorem exists_mapM_eq_ok {f : α → Except ε β} {as : List α} :
    (∃ bs, as.mapM f = .ok bs) ↔ ∀ a ∈ as, ∃ b, f a = .ok b := by
  simp only [mapM_eq_ok]
  induction as with
  | nil => simp
  | cons a as ih =>
    rw [List.forall_mem_cons, ← ih]
    constructor
    · rintro ⟨_, hb | ⟨hb, hbs⟩⟩
      exact ⟨⟨_, hb⟩, _, hbs⟩
    · rintro ⟨⟨b, hb⟩, bs, hbs⟩
      exact ⟨b :: bs, .cons hb hbs⟩

theorem forM_eq_ok {f : α → Except ε Unit} {as : List α} :
    as.forM f = .ok () ↔ ∀ a ∈ as, f a = .ok () := by
  rw [List.forM_eq_forM]
  induction as with
  | nil => simp [pure, Except.pure]
  | cons a as ih => rw [List.forM_cons, bind_unit_eq_ok, ih, List.forall_mem_cons]

theorem mapM_congr {R : α → β → Prop} {f : α → Except ε γ} {g : β → Except ε γ} {as : List α}
    {bs : List β} (h : List.Forall₂ R as bs) (hfg : ∀ a b, R a b → f a = g b) :
    as.mapM f = bs.mapM g := by
  induction h with
  | nil => rfl
  | @cons a b as bs hab _ ih => rw [List.mapM_cons, List.mapM_cons, hfg a b hab, ih]

theorem optionMapM_eq_ok {f : α → Except ε β} {o : Option α} {r : Option β} :
    o.mapM f = .ok r ↔ Option.Rel (fun a b => f a = .ok b) o r := by
  cases o with
  | none => cases r <;> simp [pure, Except.pure]
  | some a => cases r <;> simp [map_eq_ok]

theorem exists_optionMapM_eq_ok {f : α → Except ε β} {o : Option α} :
    (∃ r, o.mapM f = .ok r) ↔ ∀ a ∈ o, ∃ b, f a = .ok b := by
  cases o with
  | none => simp [pure, Except.pure]
  | some a => simp [map_eq_ok]

theorem forall₂_append {R : α → β → Prop} {as as' : List α} {bs bs' : List β}
    (h : List.Forall₂ R as bs) (h' : List.Forall₂ R as' bs') :
    List.Forall₂ R (as ++ as') (bs ++ bs') :=
  List.rel_append h h'

theorem forall₂_append_left_iff {R : α → β → Prop} {as as' : List α} {cs : List β} :
    List.Forall₂ R (as ++ as') cs ↔
      ∃ bs bs', List.Forall₂ R as bs ∧ List.Forall₂ R as' bs' ∧ cs = bs ++ bs' := by
  constructor
  · intro h
    induction as generalizing cs with
    | nil => exact ⟨[], cs, .nil, h, rfl⟩
    | cons a as ih =>
      cases h with
      | cons hab h =>
        obtain ⟨bs, bs', hbs, hbs', rfl⟩ := ih h
        exact ⟨_ :: bs, bs', .cons hab hbs, hbs', rfl⟩
  · rintro ⟨bs, bs', hbs, hbs', rfl⟩
    exact forall₂_append hbs hbs'

theorem exists_mem_of_forall₂ {R : α → β → Prop} {as : List α} {bs : List β}
    (h : List.Forall₂ R as bs) {b : β} (hb : b ∈ bs) : ∃ a ∈ as, R a b := by
  induction h with
  | nil => simp at hb
  | @cons a _ _ _ hab _ ih =>
    obtain rfl | hb := List.mem_cons.mp hb
    · exact ⟨a, List.mem_cons_self, hab⟩
    · obtain ⟨a, ha, hab⟩ := ih hb
      exact ⟨a, List.mem_cons_of_mem _ ha, hab⟩

/-- Results that belong to the items of a list belong to them all when put one after the other. -/
theorem forall₂_flatMap {R : γ → β → Prop} {f : α → List γ} {as : List α} {bss : List (List β)}
    (h : List.Forall₂ (fun a bs => List.Forall₂ R (f a) bs) as bss) :
    List.Forall₂ R (as.flatMap f) bss.flatten := by
  induction h with
  | nil => exact .nil
  | cons hab _ ih => exact forall₂_append hab ih

/-- Outcomes that go together: both are errors, or both are results that are related. -/
inductive Agree (R : α → β → Prop) : Except ε α → Except ε' β → Prop
  | ok {a : α} {b : β} : R a b → Agree R (.ok a) (.ok b)
  | error (e : ε) (f : ε') : Agree R (.error e) (.error f)

namespace Agree

variable {δ : Type} {R : α → β → Prop} {S : γ → δ → Prop}

theorem refl {R : α → α → Prop} (h : ∀ a, R a a) : (x : Except ε α) → Agree R x x
  | .ok a => .ok (h a)
  | .error e => .error e e

theorem bind {x : Except ε α} {y : Except ε' β} {f : α → Except ε γ} {g : β → Except ε' δ}
    (h : Agree R x y) (hfg : ∀ a b, R a b → Agree S (f a) (g b)) : Agree S (x >>= f) (y >>= g) := by
  cases h with
  | ok h => exact hfg _ _ h
  | error e f => exact .error e f

theorem bind_same {x : Except ε α} {f : α → Except ε γ} {g : α → Except ε δ}
    (hfg : ∀ a, Agree S (f a) (g a)) : Agree S (x >>= f) (x >>= g) :=
  (refl (R := Eq) (fun _ => rfl) x).bind fun a _ h => h ▸ hfg a

theorem map {x : Except ε α} {y : Except ε' β} {f : α → γ} {g : β → δ} (h : Agree R x y)
    (hfg : ∀ a b, R a b → S (f a) (g b)) : Agree S (f <$> x) (g <$> y) := by
  cases h with
  | ok h => exact .ok (hfg _ _ h)
  | error e f => exact .error e f

theorem imp {T : α → β → Prop} {x : Except ε α} {y : Except ε' β} (h : Agree R x y)
    (hRT : ∀ a b, R a b → T a b) : Agree T x y := by
  cases h with
  | ok h => exact .ok (hRT _ _ h)
  | error e f => exact .error e f

theorem left {x : Except ε α} {y : Except ε' β} (h : Agree R x y) :
    Agree (fun a b => x = .ok a ∧ R a b) x y := by
  cases h with
  | ok h => exact .ok ⟨rfl, h⟩
  | error e f => exact .error e f

theorem trans {ε'' : Type} {T : β → γ → Prop} {U : α → γ → Prop} {x : Except ε α}
    {y : Except ε' β} {z : Except ε'' γ} (hxy : Agree R x y) (hyz : Agree T y z)
    (h : ∀ a b c, R a b → T b c → U a c) : Agree U x z := by
  cases hxy with
  | ok hab =>
    cases hyz with
    | ok hbc => exact .ok (h _ _ _ hab hbc)
  | error e _ =>
    cases hyz with
    | error _ f => exact .error e f

theorem of_iff {x : Except ε Unit} {y : Except ε' Unit} (h : x = .ok () ↔ y = .ok ()) :
    Agree Eq x y := by
  cases x with
  | ok a =>
    rw [h.mp rfl]
    exact .ok rfl
  | error e =>
    cases y with
    | ok b => exact absurd (h.mpr rfl) (by simp)
    | error f => exact .error e f

theorem of_ne {x : Except ε α} {y : Except ε' β} (hx : ∀ a, x ≠ .ok a) (hy : ∀ b, y ≠ .ok b) :
    Agree R x y := by
  cases x with
  | ok a => exact absurd rfl (hx a)
  | error e =>
    cases y with
    | ok b => exact absurd rfl (hy b)
    | error f => exact .error e f

theorem isOk_eq {x : Except ε α} {y : Except ε' β} (h : Agree R x y) : x.isOk = y.isOk := by
  cases h <;> rfl

/-- Steps over items in another order succeed together, with the same results up to order. -/
theorem mapM_perm {f : α → Except ε β} {as as' : List α} (h : as.Perm as') :
    Agree List.Perm (as.mapM f) (as'.mapM f) := by
  induction h with
  | nil => exact refl List.Perm.refl _
  | cons a _ ih =>
    rw [List.mapM_cons, List.mapM_cons]
    exact bind_same fun b => ih.bind fun bs bs' hbs => .ok (hbs.cons b)
  | swap a a' as =>
    simp only [List.mapM_cons]
    cases f a with
    | error e => cases f a' <;> exact .error _ _
    | ok b =>
      cases f a' with
      | error e => exact .error _ _
      | ok b' =>
        cases as.mapM f with
        | error e => exact .error _ _
        | ok bs => exact .ok (.swap b b' bs)
  | trans _ _ ih ih' => exact ih.trans ih' fun _ _ _ => List.Perm.trans

theorem mapM {T : α → β → Prop} {f : α → Except ε γ} {g : β → Except ε' δ} {as : List α}
    {bs : List β} (h : List.Forall₂ T as bs) (hfg : ∀ a b, T a b → Agree S (f a) (g b)) :
    Agree (List.Forall₂ S) (as.mapM f) (bs.mapM g) := by
  induction h with
  | nil => exact .ok .nil
  | cons hab _ ih =>
    rw [List.mapM_cons, List.mapM_cons]
    exact (hfg _ _ hab).bind fun c d hcd => ih.bind fun cs ds hcds => .ok (.cons hcd hcds)

end Agree

end CaseSuite
