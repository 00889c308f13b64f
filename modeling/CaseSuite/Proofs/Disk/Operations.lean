import CaseSuite.Proofs.Disk.Items
import CaseSuite.Proofs.Disk.Leads
import CaseSuite.Proofs.Outcome
/-!
Disk operations that succeed, what they need and what they leave.
-/
set_option autoImplicit false

namespace CaseSuite.Disk

section outcome

variable {ε α β : Type} {d : Disk}

/-- What comes of an operation, with the disk after it. -/
def outcome (op : ExceptT ε (StateM Disk) α) (d : Disk) : Except ε α × Disk := op.run.run d

theorem outcome_bind (op : ExceptT ε (StateM Disk) α) (next : α → ExceptT ε (StateM Disk) β) :
    outcome (op >>= next) d =
      match outcome op d with
      | (.ok a, d') => outcome (next a) d'
      | (.error fault, d') => (.error fault, d') := by
  unfold outcome
  rw [ExceptT.run_bind, StateT.run_bind]
  rcases op.run.run d with ⟨_ | _, _⟩ <;> rfl

theorem outcome_tryCatch (op : ExceptT ε (StateM Disk) α)
    (handle : ε → ExceptT ε (StateM Disk) α) :
    outcome (tryCatch op handle) d =
      match outcome op d with
      | (.ok a, d') => (.ok a, d')
      | (.error fault, d') => outcome (handle fault) d' := by
  unfold outcome ExceptT.run StateT.run
  simp only [tryCatch, tryCatchThe, MonadExceptOf.tryCatch, ExceptT.tryCatch, ExceptT.mk, bind,
    StateT.bind]
  rcases op d with ⟨_ | _, _⟩ <;> rfl

@[simp] theorem outcome_get : outcome (get : ExceptT ε (StateM Disk) Disk) d = (.ok d, d) := rfl

@[simp] theorem outcome_modify (f : Disk → Disk) :
    outcome (modify f : ExceptT ε (StateM Disk) Unit) d = (.ok (), f d) := rfl

@[simp] theorem outcome_pure (a : α) :
    outcome (pure a : ExceptT ε (StateM Disk) α) d = (.ok a, d) := rfl

@[simp] theorem outcome_throw (fault : ε) :
    outcome (throw fault : ExceptT ε (StateM Disk) α) d = (.error fault, d) := rfl

@[simp] theorem outcome_liftM (x : Except ε α) :
    outcome (liftM x : ExceptT ε (StateM Disk) α) d = (x, d) := by
  cases x <;> rfl

/-- Nothing is left to do after a step exactly if both succeed, one after the other. -/
theorem outcome_bind_eq_ok {op : ExceptT ε (StateM Disk) Unit}
    {next : Unit → ExceptT ε (StateM Disk) β} {b : β} {e : Disk} :
    outcome (op >>= next) d = (.ok b, e) ↔
      ∃ mid, outcome op d = (.ok (), mid) ∧ outcome (next ()) mid = (.ok b, e) := by
  rw [outcome_bind]
  rcases outcome op d with ⟨_ | _, mid⟩ <;> simp

end outcome

namespace Op

variable {d d' : Disk} {path : String}

theorem makeDir_outcome : outcome (makeDir path) d =
    match d.vacant path with
    | .ok loc => (.ok (), d.put loc .dir)
    | .error fault => (.error fault, d) := by
  simp only [makeDir, outcome_bind, outcome_get, outcome_liftM]
  cases d.vacant path <;> rfl

theorem ensureDir_outcome : outcome (ensureDir path) d =
    match d.vacant path with
    | .ok loc => (.ok (), d.put loc .dir)
    | .error fault => (if d.isDir path then .ok () else .error fault, d) := by
  rw [ensureDir, outcome_tryCatch, makeDir_outcome]
  cases d.vacant path with
  | ok loc => rfl
  | error fault =>
    simp only [outcome_bind, outcome_get]
    split <;> rfl

theorem ensureDir_eq_ok : outcome (ensureDir path) d = (.ok (), d') ↔
    (∃ loc, d.vacant path = .ok loc ∧ d' = d.put loc .dir) ∨
      (∃ fault, d.vacant path = .error fault) ∧ d.isDir path = true ∧ d' = d := by
  rw [ensureDir_outcome]
  cases d.vacant path with
  | ok loc => simp [@eq_comm _ d']
  | error fault => cases d.isDir path <;> simp [@eq_comm _ d']

theorem ensureDir_eq_error {fault : Fault} (h : outcome (ensureDir path) d = (.error fault, d')) :
    d.vacant path = .error fault ∧ d' = d := by
  rw [ensureDir_outcome] at h
  cases hvacant : d.vacant path with
  | ok loc => simp [hvacant] at h
  | error other => cases hdir : d.isDir path <;> simp_all

/-- Directories are made if there is nothing to make, or the first one can be made, or it is missing
in a directory that is missing and can be made. -/
theorem makeDirsOf_cons {above : List String}
    (h : outcome (makeDirsOf (path :: above)) d = (.ok (), d')) :
    path = "" ∧ d' = d ∨ outcome (ensureDir path) d = (.ok (), d') ∨
      path ≠ "" ∧ d.vacant path = .error .notFound ∧ ∃ e,
        outcome (makeDirsOf above) d = (.ok (), e) ∧ outcome (ensureDir path) e = (.ok (), d') := by
  rw [makeDirsOf] at h
  by_cases hempty : path = ""
  · rw [if_pos (by simpa using hempty)] at h
    exact .inl ⟨hempty, (Prod.mk.inj h).2.symm⟩
  rw [if_neg (by simpa using hempty), outcome_tryCatch] at h
  right
  rcases hensure : outcome (ensureDir path) d with ⟨fault | _, e⟩
  · obtain ⟨hvacant, rfl⟩ := ensureDir_eq_error hensure
    right
    by_cases hfault : fault = .notFound
    · subst hfault
      simp only [hensure, beq_self_eq_true, if_true, outcome_bind] at h
      rcases habove : outcome (makeDirsOf above) e with ⟨_ | _, e'⟩
      · simp [habove] at h
      · exact ⟨hempty, hvacant, e', rfl, by simpa [habove] using h⟩
    · simp [hensure, hfault] at h
  · exact .inl (by simpa [hensure] using h)

theorem write_eq_ok {bytes : ByteArray} : outcome (write path bytes) d = (.ok (), d') ↔
    ∃ loc, d.writable path = .ok loc ∧ d' = d.put loc (.file bytes) := by
  simp only [write, outcome_bind, outcome_get, outcome_liftM]
  cases d.writable path <;> simp [@eq_comm _ d']

theorem remove_eq_ok {find : Disk → String → Except Fault Location} :
    outcome (remove find path) d = (.ok (), d') ↔
      ∃ loc, find d path = .ok loc ∧ d' = d.erase loc := by
  simp only [remove, outcome_bind, outcome_get, outcome_liftM]
  cases find d path <;> simp [@eq_comm _ d']

end Op

variable {d d' e : Disk} {path : String}

theorem vacant_eq_ok {loc : Location} (h : d.vacant path = .ok loc) :
    d.resolve false path = .ok (.free loc) := by
  unfold vacant at h
  cases hspot : d.resolve false path with
  | error fault => simp [hspot, bind, Except.bind] at h
  | ok spot => cases spot <;> simp_all [bind, Except.bind, pure, Except.pure]

/-- There is room where a path has one name more than what leads to a directory. -/
theorem exists_of_vacant {loc : Location} (h : d.vacant path = .ok loc) :
    ∃ init name n base, Path.names path = init ++ [name] ∧ Path.Proper name ∧ n ≤ linkLimit ∧
      d.Leads n (start d.home path) init base ∧ loc = base ++ [name] ∧ d.get? loc = none := by
  have hspot := vacant_eq_ok h
  rw [resolve_of_valid (valid_of_resolve hspot)] at hspot
  obtain hnil | ⟨init, name, hsteps⟩ := List.eq_nil_or_concat (Path.steps path)
  · rw [hnil, follow_nil] at hspot
    simp at hspot
  rw [hsteps, List.concat_eq_append] at hspot
  obtain ⟨n, base, hn, hleads, hname⟩ := exists_leads_of_follow hspot (by simp)
  obtain ⟨c, next, more, hstep, -, hc, hnext⟩ | ⟨-, hproper, hends⟩ := follow_cons_ok hname
  · -- no step that is not a link ends anywhere but at a directory
    cases hstep with
    | link => simp at hc
    | _ =>
      rw [List.append_nil, follow_nil] at hnext
      simp at hnext
  · cases hends with
    | free hfree =>
      refine ⟨init.filter (· != "."), name, n, base, ?_, hproper, hn, ?_, rfl, hfree⟩
      · simp [Path.names, hsteps, hproper.ne_dot]
      · exact hleads.of_filter_eq (by simp)

theorem vacant_ne_notFound_of_follow (hne : path ≠ "")
    (h : d.follow false linkLimit (start d.home path) (Path.steps path) ≠ .error .notFound) :
    d.vacant path ≠ .error .notFound := by
  have hresolve : d.resolve false path ≠ .error .notFound := by
    unfold resolve
    split
    · simp
    split
    · simp_all
    split
    · simp
    · exact h
  unfold vacant
  cases hspot : d.resolve false path with
  | error fault => simpa [hspot, bind, Except.bind] using hresolve
  | ok spot =>
    cases spot <;>
      simp [bind, Except.bind, pure, Except.pure, throw, throwThe, MonadExceptOf.throw]

/-- Nothing above a path is missing if all names on it but the last lead to a directory. -/
theorem vacant_ne_notFound {init : List String} {name : String} {n : Nat} {base : Location}
    (hne : path ≠ "") (htidy : Path.Tidy path) (hnames : Path.names path = init ++ [name])
    (hn : n ≤ linkLimit) (h : d.Leads n (start d.home path) init base) :
    d.vacant path ≠ .error .notFound := by
  obtain ⟨first, hsteps, hfirst⟩ := htidy init name hnames
  have hleads : d.Leads n (start d.home path) first base := h.of_filter_eq (by simp [← hfirst])
  refine vacant_ne_notFound_of_follow hne ?_
  rw [hsteps, hleads.follow_eq hn (.inl (by simp))]
  exact follow_singleton_ne_notFound _ _ _

theorem vacant_ne_notFound_of_leads {n : Nat} {base : Location} (hne : path ≠ "")
    (htidy : Path.Tidy path) (hn : n ≤ linkLimit)
    (h : d.Leads n (start d.home path) (Path.names path) base) :
    d.vacant path ≠ .error .notFound := by
  obtain hnil | ⟨init, name, hnames⟩ := List.eq_nil_or_concat (Path.names path)
  · have hdots : ∀ dot ∈ Path.steps path, dot = "." := by simpa [Path.names] using hnil
    refine vacant_ne_notFound_of_follow hne ?_
    rw [follow_dots hdots]
    simp
  · rw [List.concat_eq_append] at hnames
    rw [hnames] at h
    obtain ⟨i, k, mid, rfl, hi, -⟩ := h.exists_of_append
    exact vacant_ne_notFound hne htidy hnames (by omega) hi

theorem writable_eq_ok {loc : Location} (h : d.writable path = .ok loc) :
    Path.endsWithSlash path = false ∧ ∃ spot, d.resolve true path = .ok spot ∧
      (spot = .free loc ∨ ∃ item, spot = .taken loc item ∧ item ≠ .dir) := by
  unfold writable at h
  split at h
  · obtain ⟨_, -, h⟩ := bind_eq_ok.mp h
    simp [throw, throwThe, MonadExceptOf.throw] at h
  · rename_i hslash
    obtain ⟨spot, hspot, h⟩ := bind_eq_ok.mp h
    refine ⟨by simpa using hslash, spot, hspot, ?_⟩
    cases spot with
    | free loc' => exact .inl (by rw [pure_eq_ok.mp h])
    | taken loc' item =>
      cases item with
      | dir => simp [throw, throwThe, MonadExceptOf.throw] at h
      | _ => exact .inr ⟨_, by rw [pure_eq_ok.mp h], by simp⟩

theorem itemItself_eq_ok {loc : Location} {item : Item} :
    d.itemItself path = .ok (loc, item) ↔ d.resolve false path = .ok (.taken loc item) := by
  unfold itemItself
  split <;> simp_all

theorem itemItself_of_removableTree {loc : Location} (h : d.removableTree path = .ok loc) :
    ∃ item, d.itemItself path = .ok (loc, item) := by
  obtain ⟨⟨other, item⟩, hitem, h⟩ := bind_eq_ok.mp h
  cases item <;> simp_all [pure, Except.pure, throw, throwThe, MonadExceptOf.throw]

theorem itemItself_of_removableFile {loc : Location} (h : d.removableFile path = .ok loc) :
    ∃ item, d.itemItself path = .ok (loc, item) := by
  obtain ⟨⟨other, item⟩, hitem, h⟩ := bind_eq_ok.mp h
  cases item <;> simp_all [pure, Except.pure, throw, throwThe, MonadExceptOf.throw]

/-- What a name after the path of a directory leads to is there in the directory. -/
theorem eq_of_itemItself_join {e : Disk} {top loc : Location} {name : String} {item : Item}
    (hkept : e.Keeps d) (hhome : e.home = d.home) (htop : d.directory path = .ok top)
    (hname : Path.IsName name) (hup : name ≠ "..")
    (h : e.itemItself (Path.join path name) = .ok (loc, item)) : loc = top ++ [name] := by
  obtain ⟨hvalid, n, -, hleads⟩ := directory_eq_ok.mp htop
  have habsolute := Path.isAbsolute_of_isName hname
  have hspot := itemItself_eq_ok.mp h
  rw [resolve_of_valid (valid_of_resolve hspot),
    Path.steps_join hvalid.ne_empty habsolute hname.ne_empty, Path.steps_of_isName hname] at hspot
  obtain ⟨k, base, -, hbase, hlast⟩ := exists_leads_of_follow hspot (by simp)
  have hstart : start e.home (Path.join path name) = start d.home path := by
    rw [start, start, Path.isAbsolute_join hvalid.ne_empty habsolute, hhome]
  have hsame : d.Leads k (start d.home path) (Path.names path) base :=
    (hstart ▸ hbase.mono hkept).of_filter_eq (by simp [Path.names_eq_filter_segments])
  obtain ⟨rfl, -⟩ := hsame.unique hleads
  obtain ⟨c, next, more, hstep, -, hc, hnext⟩ | ⟨-, -, hends⟩ := follow_cons_ok hlast
  · cases hstep with
    | dot hdot => exact absurd hdot hname.ne_dot
    | up hdots => exact absurd hdots hup
    | dir =>
      rw [List.append_nil, follow_nil] at hnext
      exact (Spot.taken.inj (Except.ok.inj hnext)).1.symm
    | link => simp at hc
  · cases hends <;> rfl

/-- A file is written where the path above it leads, under its last name, unless a link has that
name. -/
theorem exists_of_writable {loc : Location} {init : List String} {name : String}
    (h : d.writable path = .ok loc) (hsteps : Path.steps path = init ++ [name]) :
    Path.Valid path ∧ Path.Proper name ∧ ∃ n base, n ≤ linkLimit ∧
      d.Leads n (start d.home path) init base ∧
      ((∃ target, d.get? (base ++ [name]) = some (.link target)) ∨
        loc = base ++ [name] ∧ (d.get? loc = none ∨ ∃ bytes, d.get? loc = some (.file bytes))) := by
  obtain ⟨-, spot, hspot, hloc⟩ := writable_eq_ok h
  have hvalid := valid_of_resolve hspot
  rw [resolve_of_valid hvalid, hsteps] at hspot
  obtain ⟨n, base, hn, hleads, hname⟩ := exists_leads_of_follow hspot (by simp)
  refine ⟨hvalid, ?_⟩
  obtain ⟨c, next, more, hstep, -, -, hnext⟩ | ⟨-, hproper, hends⟩ := follow_cons_ok hname
  · cases hstep with
    | link hproper hitem => exact ⟨hproper, n, base, hn, hleads, .inl ⟨_, hitem⟩⟩
    | _ =>
      -- every other step leads to a directory, where no file is written
      rw [List.append_nil, follow_nil] at hnext
      obtain rfl := Except.ok.inj hnext
      simp at hloc
  · refine ⟨hproper, n, base, hn, hleads, .inr ?_⟩
    cases hends with
    | free hfree =>
      obtain rfl : base ++ [name] = loc := by simpa using hloc
      exact ⟨rfl, .inl hfree⟩
    | file hfile =>
      obtain rfl : base ++ [name] = loc := by simpa using hloc
      exact ⟨rfl, .inr ⟨_, hfile⟩⟩
    | link hlinks => simp at hlinks

end CaseSuite.Disk
