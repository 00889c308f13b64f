import CaseSuite.Proofs.Disk.Operations
/-!
A file that was written is read back by the same path. The path is followed the way it was before,
since the file takes the place of nothing or of another file, and no step goes through it.
-/
set_option autoImplicit false

namespace CaseSuite.Disk

variable {d : Disk} {path : String} {loc : Location} {spot : Spot}

/-- A path that does not lead to a directory comes to an end at a name; where all directories and
links are still there, it leads to the file that has this place then. -/
theorem exists_end_of_follow {limit : Nat} {here : Location} {steps : List String}
    (h : d.follow true limit here steps = .ok spot) (hspot : ∀ loc, spot ≠ .taken loc .dir) :
    ∃ loc, loc ≠ [] ∧ d.Ends true loc spot ∧
      ∀ (e : Disk) (bytes : ByteArray), d.Keeps e → e.get? loc = some (.file bytes) →
        e.follow true limit here steps = .ok (.taken loc (.file bytes)) := by
  cases steps with
  | nil =>
    rw [follow_nil] at h
    exact absurd (Except.ok.inj h).symm (hspot here)
  | cons name rest =>
    obtain ⟨c, next, more, hstep, hc, hrest, h⟩ | ⟨rfl, hproper, hends⟩ := follow_cons_ok h
    · obtain ⟨loc, hloc, hends, hfollow⟩ := exists_end_of_follow h hspot
      refine ⟨loc, hloc, hends, fun e bytes hkept hfile => ?_⟩
      rw [follow_step (hstep.mono hkept) hc hrest]
      exact hfollow e bytes hkept hfile
    · -- one name is left, and the file has it now
      refine ⟨here ++ [name], by simp, hends, fun e bytes _ hfile => ?_⟩
      have hsize := hproper.size_le
      cases limit <;>
        simp [follow, stepsWith, hproper.ne_dot, hproper.ne_up, hsize.not_gt, hfile]
termination_by (limit, steps.length)
decreasing_by
  cases hstep with
  | dot => exact .right _ (by simp_all)
  | up => exact .right _ (by simp_all)
  | dir => exact .right _ (by simp_all)
  | link => exact .left _ _ (by omega)

theorem read_put_of_writable (h : d.writable path = .ok loc) (bytes : ByteArray) :
    (d.put loc (.file bytes)).read path = .ok bytes := by
  obtain ⟨-, spot, hresolve, hloc⟩ := writable_eq_ok h
  have hvalid := valid_of_resolve hresolve
  rw [resolve_of_valid hvalid] at hresolve
  have hspot (other : Location) : spot ≠ .taken other .dir := by
    rintro rfl
    simp at hloc
  obtain ⟨other, hother, hends, hfollow⟩ := exists_end_of_follow hresolve hspot
  obtain ⟨rfl, hold⟩ : other = loc ∧ ∀ item, d.get? loc = some item → ∃ old, item = .file old := by
    cases hends with
    | free hnone =>
      obtain rfl : other = loc := by simpa using hloc
      simp [hnone]
    | file hfile =>
      obtain rfl : other = loc := by simpa using hloc
      simp [hfile]
    | link hlinks => contradiction
  have hread : (d.put other (.file bytes)).resolve true path =
      .ok (.taken other (.file bytes)) := by
    rw [resolve_of_valid hvalid]
    exact hfollow _ bytes (keeps_put_file hother hold) (by rw [get?_put _ hother, if_pos rfl])
  rw [read, item, hread]

end CaseSuite.Disk
