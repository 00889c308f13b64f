import CaseSuite.Proofs.Collaborator.Preparation
import CaseSuite.Proofs.Disk.Stored
import CaseSuite.Proofs.Interpolation.Failure
import CaseSuite.Proofs.Pattern.Rendered
import CaseSuite.Proofs.Text.Utf8
/-!
What a file service writes when it is prepared, it finds when it checks: the text of the content, as
it can be expected and as it is saved for later steps.
-/
set_option autoImplicit false

namespace CaseSuite

/-- A value without markers of any kind, and without what has no JSON form of its own or too deep a
one. -/
structure Value.Inert (v : Value) : Prop where
  distinct : v.Distinct
  plain : v.Plain
  literal : v.Literal
  unmarked : v.Marked []
  shallow : v.depth ≤ 127

section checked

variable {α β : Type} {vars : VariableStore} {d : Disk}

/-- What comes of a check on a disk, with the variables and the disk after it. -/
def checked (check : ExceptT Error (StateT VariableStore (StateM Disk)) α) (vars : VariableStore)
    (d : Disk) : (Except Error α × VariableStore) × Disk :=
  (check.run.run vars).run d

theorem checked_bind (x : ExceptT Error (StateT VariableStore (StateM Disk)) α)
    (next : α → ExceptT Error (StateT VariableStore (StateM Disk)) β) :
    checked (x >>= next) vars d =
      match checked x vars d with
      | ((.ok a, vars'), d') => checked (next a) vars' d'
      | ((.error e, vars'), d') => ((.error e, vars'), d') := by
  unfold checked
  rw [ExceptT.run_bind, StateT.run_bind, StateT.run_bind]
  rcases (x.run.run vars).run d with ⟨⟨_ | _, _⟩, _⟩ <;> rfl

@[simp] theorem checked_get :
    checked (get : ExceptT Error (StateT VariableStore (StateM Disk)) VariableStore) vars d =
      ((.ok vars, vars), d) := rfl

@[simp] theorem checked_modify (f : VariableStore → VariableStore) :
    checked (modify f : ExceptT Error (StateT VariableStore (StateM Disk)) Unit) vars d =
      ((.ok (), f vars), d) := rfl

@[simp] theorem checked_liftExcept (x : Except Error α) :
    checked (liftExcept x) vars d = ((x, vars), d) := by
  cases x <;> rfl

@[simp] theorem checked_read (path : String) (error : Disk.Fault → Error) :
    checked (FileService.attempt (StateT.lift (Storage.read path)) error) vars d =
      (((d.read path).mapError error, vars), d) := rfl

end checked

namespace FileService

variable {s : FileService} {d e : Disk} {vars : VariableStore}

/-- Whether bytes are what is expected of them, if anything is. -/
def verdict (vars : VariableStore) (bytes : ByteArray) : Option Value → Except Error Unit
  | none => .ok ()
  | some expected => do checkEqual (.bytes bytes) (← interpolate expected vars)

/-- A check of a file's content passes with the verdict on its bytes, and then saves their text. -/
theorem checked_content {name path key : String} {bytes : ByteArray} {expected : Option Value}
    (hpath : s.path vars name = .ok path) (hread : d.read path = .ok bytes) :
    checked (s.check (.content name expected (some key))) vars d =
      match verdict vars bytes expected with
      | .ok () => ((.ok (), vars.save key (.str (Utf8.text bytes))), d)
      | .error e => ((.error e, vars), d) := by
  cases expected with
  | none =>
    simp [check, checked_bind, hpath, hread, verdict, Except.mapError]
  | some v =>
    simp only [check, checked_bind, checked_get, checked_liftExcept, checked_read, checked_modify,
      hpath, hread, verdict, Except.mapError]
    cases interpolate v vars with
    | error _ => rfl
    | ok w => cases hholds : checkEqual (.bytes bytes) w <;> simp [bind, Except.bind, hholds]

/-- Parameters of preparing whose last step writes a value's text to a file. -/
def WritesLast (params : Value) (name : String) (v : Value) : Prop :=
  ∃ items entries given, paramItems params = items ++ [.object (entries ++ [("file", given)])] ∧
    given.get? "name" = some (.str name) ∧ given.get? "content" = some v

theorem exists_preparations_last {params v : Value} {name : String}
    {actions : List FilePreparation} (hlast : WritesLast params name v)
    (h : s.preparations params = .ok actions) :
    ∃ before, actions = before ++ [.write name v.text] := by
  obtain ⟨items, entries, given, hparams, hname, hcontent⟩ := hlast
  have hstep : s.preparation ("file", given) = .ok (.write name v.text) := by
    simp [preparation, fileName, hname, hcontent, Value.asStr?, bind, Except.bind, pure, Except.pure]
  obtain ⟨lists, hlists, rfl⟩ := map_eq_ok.mp h
  rw [hparams, mapM_eq_ok, forall₂_append_left_iff] at hlists
  obtain ⟨before, _, -, hobject, rfl⟩ := hlists
  -- the last item is one object, and its last entry is one step
  obtain ⟨list, _, hlist, hnil, rfl⟩ := List.forall₂_cons_left_iff.mp hobject
  obtain rfl := List.forall₂_nil_left_iff.mp hnil
  rw [itemPreparations, mapM_eq_ok, forall₂_append_left_iff] at hlist
  obtain ⟨first, _, -, hfile, rfl⟩ := hlist
  obtain ⟨action, _, haction, hnil, rfl⟩ := List.forall₂_cons_left_iff.mp hfile
  obtain rfl := List.forall₂_nil_left_iff.mp hnil
  obtain rfl := Except.ok.inj (hstep.symm.trans haction)
  exact ⟨before.flatten ++ first, by simp⟩

theorem exists_prepares_last {before : List FilePreparation} {last : FilePreparation}
    (h : s.Prepares (before ++ [last]) d e) :
    ∃ mid, Disk.outcome (s.prepare last) mid = (.ok (), e) := by
  induction before generalizing d with
  | nil =>
    obtain ⟨mid, hlast, hrest⟩ := prepares_cons.mp h
    obtain rfl := prepares_nil.mp hrest
    exact ⟨d, hlast⟩
  | cons action before ih =>
    obtain ⟨mid, -, hrest⟩ := prepares_cons.mp h
    exact ih hrest

theorem read_of_prepares {before : List FilePreparation} {name content : String}
    (h : s.Prepares (before ++ [.write name content]) d e) :
    e.read (Path.join s.root name) = .ok content.toUTF8 := by
  obtain ⟨start, hlast⟩ := exists_prepares_last h
  obtain ⟨mid, -, hwrite⟩ := exists_of_outcome_prepare_write hlast
  obtain ⟨loc, hloc, rfl⟩ := Disk.Op.write_eq_ok.mp hwrite
  exact Disk.read_put_of_writable hloc _

/-- Parameters of a check of a file's content that saves it. -/
structure ChecksContent (params : Value) (name : String) (expected : Option Value) (key : String) :
    Prop where
  name : params.get? "name" = some (.str name)
  expected : params.get? "expected" = expected
  saveTo : params.get? "save_result_to" = some (.str key)

theorem checks_content {params : Value} {name key : String} {expected : Option Value}
    (h : ChecksContent params name expected key) :
    s.checks (.object [("content", params)]) = .ok [.content name expected (some key)] := by
  simp [checks, paramItems, itemChecks, fileCheck, fileName, h.name, h.expected, h.saveTo,
    Value.asStr?, bind, Except.bind, pure, Except.pure, Functor.map, Except.map]

theorem path_of_unmarked {name : String} (h : (Value.str name).Marked []) (vars : VariableStore) :
    s.path vars name = .ok (Path.join s.root name) := by
  have hd : (Value.str name).Distinct := trivial
  rw [path, interpolate, Interpolator.interpolate_of_unmarked hd h]
  rfl

theorem checked_text {params : Value} {name key content : String} {expected : Option Value}
    (hasks : ChecksContent params name expected key) (hname : (Value.str name).Marked [])
    (hkey : '.' ∉ key.toList) (hread : d.read (Path.join s.root name) = .ok content.toUTF8)
    (vars : VariableStore) :
    ∃ check, s.service.checker (.object [("content", params)]) = .ok check ∧
      ((checked check vars d).1.1 = .ok () ↔ verdict vars content.toUTF8 expected = .ok ()) ∧
      ((checked check vars d).1.1 = .ok () →
        (checked check vars d).1.2.lookup key = .ok (.str content)) := by
  refine ⟨_, bind_eq_ok.mpr ⟨_, checks_content hasks, rfl⟩, ?_⟩
  have hforM : [FileCheck.content name expected (some key)].forM s.check =
      (s.check (.content name expected (some key)) : Check (StateM Disk)) := bind_pure_unit
  rw [hforM, checked_content (path_of_unmarked hname vars) hread]
  cases verdict vars content.toUTF8 expected with
  | error _ => simp
  | ok _ =>
    have hsaved := VariableStore.get?_save vars key (.str (Utf8.text content.toUTF8))
    rw [Utf8.text_toUTF8] at hsaved ⊢
    simp [VariableStore.lookup_of_get? hkey hsaved]

/-- What preparing writes last is read back by a check: the content itself is found again if it is a
text or an object, and its text is saved in any case. -/
theorem stored_content {params v : Value} {name key : String} {action : Action (StateM Disk) Unit}
    (hv : v.Inert) (hname : (Value.str name).Marked []) (hkey : '.' ∉ key.toList)
    (hlast : WritesLast params name v) (hprepare : s.service.preparer params = .ok action)
    (hrun : Disk.outcome action d = (.ok (), e)) (vars : VariableStore) :
    (∀ asked, ChecksContent asked name (some v) key →
      ∃ check, s.service.checker (.object [("content", asked)]) = .ok check ∧
        ((checked check vars e).1.1 = .ok () ↔ (∃ text, v = .str text) ∨ ∃ es, v = .object es) ∧
        ((checked check vars e).1.1 = .ok () →
          (checked check vars e).1.2.lookup key = .ok (.str v.text))) ∧
    ∀ asked, ChecksContent asked name none key →
      ∃ check, s.service.checker (.object [("content", asked)]) = .ok check ∧
        (checked check vars e).1.1 = .ok () ∧
        (checked check vars e).1.2.lookup key = .ok (.str v.text) := by
  obtain ⟨actions, hactions, haction⟩ := bind_eq_ok.mp hprepare
  obtain rfl := pure_eq_ok.mp haction
  obtain ⟨before, rfl⟩ := exists_preparations_last hlast hactions
  have hread : e.read (Path.join s.root name) = .ok v.text.toUTF8 := read_of_prepares hrun
  have hexpected : verdict vars v.text.toUTF8 (some v) = .ok () ↔
      (∃ text, v = .str text) ∨ ∃ es, v = .object es := by
    rw [verdict, interpolate, Interpolator.interpolate_of_unmarked hv.distinct hv.unmarked]
    exact Pattern.checkEqual_text_iff hv.distinct hv.plain hv.literal hv.shallow
  constructor
  · intro asked hasks
    obtain ⟨check, hcheck, hpasses, hsaves⟩ := checked_text hasks hname hkey hread vars
    exact ⟨check, hcheck, hpasses.trans hexpected, hsaves⟩
  · intro asked hasks
    obtain ⟨check, hcheck, hpasses, hsaves⟩ := checked_text hasks hname hkey hread vars
    exact ⟨check, hcheck, hpasses.mpr rfl, hsaves (hpasses.mpr rfl)⟩

/-- An object whose keys do not rise, and with a list in it. -/
def storedAnswer : Value := .object [("b", .list [.null, .int 7]), ("a", .str "x")]

theorem inert_storedAnswer : storedAnswer.Inert where
  distinct := by simp [storedAnswer, Value.Distinct, entriesDistinct, itemsDistinct]
  plain := by
    simp [storedAnswer, Value.Plain, Value.Every, entriesEvery, itemsEvery, Value.IsPlain,
      Value.kind]
  literal := by
    simp only [storedAnswer, Value.Literal, Value.Every, entriesEvery, itemsEvery, Value.IsLiteral]
    decide +kernel
  unmarked := by
    have hb : Cut "b".toList [] ['b'] := cut_iff.mpr (by decide +kernel)
    have ha : Cut "a".toList [] ['a'] := cut_iff.mpr (by decide +kernel)
    have hx : Cut "x".toList [] ['x'] := cut_iff.mpr (by decide +kernel)
    have hitems : ItemsMarked [.null, .int 7] [] :=
      .cons (.scalar rfl rfl rfl) (.cons (.scalar rfl rfl rfl) .nil)
    exact .object (.cons hb (.list hitems) (.cons ha (.text hx) .nil))
  shallow := by decide

/-- Parameters that write a file after everything else is removed. -/
def storingParams : Value :=
  .list [.str "clear", .object [("file", .object [("name", .str "d/f"), ("content", storedAnswer)])]]

def checkingParams : Value :=
  .object [("save_result_to", .str "seen"), ("name", .str "d/f"), ("expected", storedAnswer)]

theorem stored_content_storedAnswer :
    let files : FileService := ⟨"files", "storage"⟩
    ∃ action e, files.service.preparer storingParams = .ok action ∧
      Disk.outcome action (Disk.empty ["suite"]) = (.ok (), e) ∧
      ∃ check, files.service.checker (.object [("content", checkingParams)]) = .ok check ∧
        (checked check .empty e).1.1 = .ok () ∧
        (checked check .empty e).1.2.lookup "seen" =
          .ok (.str "\x7b\"a\":\"x\",\"b\":[null,7]\x7d") := by
  intro files
  have hcut : Cut "d/f".toList [] ['d', '/', 'f'] := cut_iff.mpr (by decide +kernel)
  have hname : (Value.str "d/f").Marked [] := .text hcut
  have hrun : files.Prepares [.clear, .write "d/f" storedAnswer.text] (Disk.empty ["suite"]) _ :=
    prepares_of_isOk (by decide +kernel)
  have hlast : WritesLast storingParams "d/f" storedAnswer :=
    ⟨[.str "clear"], [], _, rfl, rfl, rfl⟩
  obtain ⟨check, hcheck, hpasses, hsaves⟩ :=
    (stored_content inert_storedAnswer hname (by decide) hlast rfl hrun .empty).1 checkingParams
      ⟨rfl, rfl, rfl⟩
  have hpass := hpasses.mpr (.inr ⟨_, rfl⟩)
  exact ⟨_, _, rfl, hrun, check, hcheck, hpass, hsaves hpass⟩

end FileService

end CaseSuite
