import CaseSuite.Proofs.Collaborator.Cleared
import CaseSuite.Proofs.Collaborator.Written
import CaseSuite.Proofs.Disk.Growth
/-!
Steps of preparing files that succeed. Clearing removes the entries of the root. Writing makes the
directories above the file first, and then puts the file where they lead.
-/
set_option autoImplicit false

namespace CaseSuite

namespace FilePreparation

/-- A file's name leads down only. -/
def IsPlain : FilePreparation → Prop
  | .clear => True
  | .write name _ => Path.isAbsolute name = false ∧ ".." ∉ Path.steps name

instance : DecidablePred IsPlain
  | .clear => inferInstanceAs (Decidable True)
  | .write _ _ => inferInstanceAs (Decidable (_ ∧ _))

end FilePreparation

namespace FileService

variable (s : FileService)

/-- What comes of the actions, with the disk after them. -/
def prepared (actions : List FilePreparation) (d : Disk) : Except Error Unit × Disk :=
  Disk.outcome (actions.forM s.prepare) d

/-- The actions succeed, and lead from one disk to the other. -/
def Prepares (actions : List FilePreparation) (d e : Disk) : Prop :=
  s.prepared actions d = (.ok (), e)

variable {s} {d e : Disk} {actions : List FilePreparation}

theorem prepares_nil : s.Prepares [] d e ↔ e = d := by
  change (Except.ok (), d) = (Except.ok (), e) ↔ e = d
  simp [eq_comm]

theorem prepares_cons {action : FilePreparation} : s.Prepares (action :: actions) d e ↔
    ∃ mid, Disk.outcome (s.prepare action) d = (.ok (), mid) ∧ s.Prepares actions mid e :=
  Disk.outcome_bind_eq_ok

theorem prepares_of_isOk (h : (s.prepared actions d).1.isOk = true) :
    s.Prepares actions d (s.prepared actions d).2 := by
  unfold Prepares
  revert h
  rcases s.prepared actions d with ⟨_ | _, _⟩
  · exact fun h => absurd h Bool.false_ne_true
  · exact fun _ => rfl

theorem outcome_attempt_eq_ok {program : StateM Disk (Except Disk.Fault Unit)}
    {error : Disk.Fault → Error} : Disk.outcome (attempt program error) d = (.ok (), e) ↔
      Disk.outcome (ExceptT.mk program) d = (.ok (), e) := by
  have hnamed (result : Except Disk.Fault Unit × Disk) :
      (result.1.mapError error, result.2) = (.ok (), e) ↔ result = (.ok (), e) := by
    rcases result with ⟨_ | _, _⟩ <;> simp [Except.mapError]
  exact hnamed (program.run d)

theorem outcome_attempt_modifyGet_eq_ok {op : Disk.Op Unit} {error : Disk.Fault → Error} :
    Disk.outcome (attempt (modifyGet op.run : StateM Disk _) error) d = (.ok (), e) ↔
      Disk.outcome op d = (.ok (), e) :=
  outcome_attempt_eq_ok

theorem prepare_clear_eq_ok (hlist : ∀ top, d.directory s.root = .ok top → d.Listable top)
    (h : Disk.outcome (s.prepare .clear) d = (.ok (), e)) :
    (∃ top, d.directory s.root = .ok top ∧ e = d.eraseBelow top) ∨
      d.directory s.root = .error .notFound ∧ e = d :=
  clearDir_eq_ok hlist (outcome_attempt_eq_ok.mp h)

/-- A file is written once the directories above it are made, if its path has one above it. -/
theorem exists_of_outcome_prepare_write {name content : String}
    (h : Disk.outcome (s.prepare (.write name content)) d = (.ok (), e)) :
    ∃ mid, (∀ above, Path.parent? (Path.join s.root name) = some above →
        Disk.outcome (Disk.Op.makeDirs above) d = (.ok (), mid)) ∧
      Disk.outcome (Disk.Op.write (Path.join s.root name) content.toUTF8) mid = (.ok (), e) := by
  unfold prepare at h
  cases hparent : Path.parent? (Path.join s.root name) with
  | none =>
    simp only [hparent] at h
    exact ⟨d, by simp, outcome_attempt_modifyGet_eq_ok.mp h⟩
  | some above =>
    simp only [hparent] at h
    obtain ⟨mid, hdirs, hwrite⟩ := Disk.outcome_bind_eq_ok.mp h
    refine ⟨mid, fun other hother => ?_, outcome_attempt_modifyGet_eq_ok.mp hwrite⟩
    obtain rfl := Option.some.inj hother
    exact outcome_attempt_modifyGet_eq_ok.mp hdirs

/-- What writing a file comes to: its directories are made from where the root leads, and the file
is put where they lead, unless a link has its name. -/
structure Writes (s : FileService) (name : String) (bytes : ByteArray) (d mid e : Disk)
    (dirs : List String) (last above : String) : Prop where
  names : Path.names name = dirs ++ [last]
  namesAbove : Path.names above = Path.names s.root ++ dirs
  start : ∀ home, Disk.start home above = Disk.start home s.root
  tidy : Path.Tidy above
  made : Disk.outcome (Disk.Op.makeDirs above) d = (.ok (), mid)
  valid : Path.Valid s.root
  put : ∃ n base loc, n ≤ Disk.linkLimit ∧
    mid.Leads n (Disk.start mid.home s.root) (Path.names s.root ++ dirs) base ∧
    ((∃ target, mid.get? (base ++ [last]) = some (.link target)) ∨ loc = base ++ [last] ∧
      (mid.get? loc = none ∨ ∃ old, mid.get? loc = some (.file old))) ∧
    e = mid.put loc (.file bytes)

theorem exists_writes {name content : String} (hroot : s.root ≠ "")
    (hname : Path.isAbsolute name = false)
    (h : Disk.outcome (s.prepare (.write name content)) d = (.ok (), e)) :
    ∃ mid dirs last above, s.Writes name content.toUTF8 d mid e dirs last above := by
  obtain ⟨mid, hdirs, hwrite⟩ := exists_of_outcome_prepare_write h
  obtain ⟨loc, hloc, rfl⟩ := Disk.Op.write_eq_ok.mp hwrite
  have hslash := (Disk.writable_eq_ok hloc).1
  have hne : name ≠ "" := by
    rintro rfl
    simp [Path.endsWithSlash_join hroot hname] at hslash
  obtain ⟨init, last, hsteps⟩ :=
    (List.eq_nil_or_concat (Path.steps name)).resolve_left (Path.steps_ne_nil hname hne)
  rw [List.concat_eq_append] at hsteps
  have hjoined : Path.steps (Path.join s.root name) = (Path.segments s.root ++ init) ++ [last] := by
    rw [Path.steps_join hroot hname hne, hsteps, List.append_assoc]
  obtain ⟨hvalid, hproper, n, base, hn, hleads, hput⟩ := Disk.exists_of_writable hloc hjoined
  have hnames : Path.names name = init.filter (· != ".") ++ [last] := by
    simp [Path.names, hsteps, hproper.ne_dot]
  have hall : Path.names (Path.join s.root name) =
      (Path.names s.root ++ init.filter (· != ".")) ++ [last] := by
    rw [Path.names_join hroot hname, hnames, List.append_assoc]
  obtain ⟨above, hparent, habove, habsolute, htidy⟩ := Path.exists_parent? hall
  rw [Path.isAbsolute_join hroot hname] at habsolute
  refine ⟨mid, init.filter (· != "."), last, above, hnames, habove, fun home => ?_, htidy,
    hdirs above hparent, hvalid.of_join hroot hname, n, base, loc, hn, ?_, hput, rfl⟩
  · rw [Disk.start, Disk.start, habsolute]
  · have hstart : Disk.start mid.home (Path.join s.root name) = Disk.start mid.home s.root := by
      rw [Disk.start, Disk.start, Path.isAbsolute_join hroot hname]
    rw [hstart] at hleads
    refine hleads.of_filter_eq ?_
    simp [Path.names_eq_filter_segments]

section Writes

variable {name last above : String} {bytes : ByteArray} {mid : Disk} {dirs : List String}
  {top : Location} {files : Written}

theorem Writes.ne_of_mem (h : s.Writes name bytes d mid e dirs last above)
    (hplain : ".." ∉ Path.names name) {other : String} (hmem : other ∈ dirs) :
    other ≠ "." ∧ other ≠ ".." := by
  have hname : other ∈ Path.names name := by simp [h.names, hmem]
  exact ⟨Path.ne_dot_of_mem_names hname, fun heq => hplain (heq ▸ hname)⟩

/-- With no links below the root, the file is put right where its name says. -/
theorem Writes.put_eq (h : s.Writes name bytes d mid e dirs last above) {n : Nat}
    (hplain : ".." ∉ Path.names name)
    (htop : mid.Leads n (Disk.start mid.home s.root) (Path.names s.root) top)
    (hlinks : ∀ rel target, rel ≠ [] → mid.get? (top ++ rel) ≠ some (.link target)) :
    e = mid.put (top ++ Path.names name) (.file bytes) ∧
      (∀ item, mid.get? (top ++ Path.names name) = some item → ∃ old, item = .file old) ∧
      ∀ part, part ≠ [] → part <+: dirs → mid.get? (top ++ part) = some .dir := by
  obtain ⟨_, base, loc, -, hleads, hput, rfl⟩ := h.put
  obtain ⟨i, k, root, -, hroot, hbelow⟩ := hleads.exists_of_append
  obtain ⟨rfl, -⟩ := hroot.unique htop
  obtain ⟨rfl, hdirs⟩ := hbelow.down hlinks fun _ => h.ne_of_mem hplain
  simp only [h.names, ← List.append_assoc]
  obtain ⟨target, hlink⟩ | ⟨rfl, hold⟩ := hput
  · exact absurd (by simpa using hlink) (hlinks (dirs ++ [last]) target (by simp))
  · refine ⟨rfl, fun item hitem => ?_, hdirs⟩
    obtain hnone | ⟨old, hfile⟩ := hold
    · rw [hnone] at hitem
      contradiction
    · exact ⟨old, Option.some.inj (hitem.symm.trans hfile)⟩

/-- Where only directories on the way are new, the root holds one more file once it is put there. -/
theorem get?_put_file (hfound : ∀ rel, rel ≠ [] → d.get? (top ++ rel) = files.item? rel)
    (hnew : ∀ rel, mid.get? (top ++ rel) = d.get? (top ++ rel) ∨
      d.get? (top ++ rel) = none ∧ rel <+: dirs)
    (hdirs : ∀ part, part ≠ [] → part <+: dirs → mid.get? (top ++ part) = some .dir)
    {rel : Location} (hrel : rel ≠ []) :
    (mid.put (top ++ (dirs ++ [last])) (.file bytes)).get? (top ++ rel) =
      Written.item? ((dirs ++ [last], bytes) :: files) rel := by
  rw [Disk.get?_put _ (by simp), Written.item?_cons]
  by_cases hsame : dirs ++ [last] = rel
  · simp [hsame]
  · rw [if_neg (by simpa using Ne.symm hsame), if_neg hsame, ← hfound rel hrel]
    have hpre : rel <+: dirs ++ [last] ↔ rel <+: dirs := by
      rw [List.prefix_concat_iff, or_iff_right (Ne.symm hsame)]
    by_cases hpart : rel <+: dirs
    · -- a directory on the way was there before, or there was nothing
      rw [hdirs rel hrel hpart, if_pos (hpre.mpr hpart)]
      obtain hkept | ⟨hnone, -⟩ := hnew rel
      · rw [← hkept, hdirs rel hrel hpart]
        rfl
      · rw [hnone]
        rfl
    · obtain hkept | ⟨-, hpart'⟩ := hnew rel
      · rw [hkept, if_neg (mt hpre.mp hpart)]
        simp
      · exact absurd hpart' hpart

end Writes

end FileService

end CaseSuite
