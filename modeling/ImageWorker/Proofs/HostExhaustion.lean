import ImageWorker.Job.Resolution

/-!
# Failures of an exhausted host

A failure of the host reaches the decision about a delivery as it is, as a failure of the object
store, or as the cause of failed stages, one in another. Its class is kept on the way, and it is
fatal if memory ran out, whatever the failure is made of, or if the disk is full and the failure
has a number. A full disk that is known by its kind alone is taken for a fault of the message.

A failed stage is resolved by the flag that the outermost stage carries, and the class of its cause
is not looked at.
-/

namespace ImageWorker

variable {e e' : IoError} {n : Nat}

theorem IoKind.ofNumber_eq_storageFull_iff : ofNumber n = .storageFull ↔ n = 28 := by
  unfold ofNumber
  split <;> simp_all

namespace IoError

/-- The failure is one of a call that left an error number. -/
def Numbered (e : IoError) : Prop := ∃ n, e = number n

/-- The host ran out of memory, or of disk space in a call that left its number. -/
def ShowsExhaustion (e : IoError) : Prop :=
  e.kind = .outOfMemory ∨ e.kind = .storageFull ∧ e.Numbered

theorem eq_noSpace_iff : e = noSpace ↔ e.kind = .storageFull ∧ e.Numbered := by
  constructor
  · rintro rfl
    exact ⟨rfl, 28, rfl⟩
  · rintro ⟨full, n, rfl⟩
    rw [noSpace, IoKind.ofNumber_eq_storageFull_iff.mp full]

theorem errorClass_eq_fatal_iff : e.errorClass = .fatal ↔ e.ShowsExhaustion := by
  rw [ShowsExhaustion, ← eq_noSpace_iff, errorClass]
  split
  next full => simp [full]
  next other =>
    rw [or_iff_left other]
    split <;> simp_all

/-- The kind alone shows the exhaustion, but for a full disk without a number. -/
theorem showsExhaustion_iff_kind :
    (e.ShowsExhaustion ↔ e.kind = .storageFull ∨ e.kind = .outOfMemory) ↔
      (e.kind = .storageFull → e.Numbered) := by
  rw [ShowsExhaustion]
  by_cases full : e.kind = .storageFull <;> simp [full]

theorem errorClass_of_numbered (full : e.kind = .storageFull) (left : e.Numbered) :
    e.errorClass = .fatal := by
  rw [eq_noSpace_iff.mpr ⟨full, left⟩]
  rfl

theorem errorClass_of_not_numbered (full : e.kind = .storageFull) (left : ¬ e.Numbered) :
    e.errorClass = .permanent := by
  rw [errorClass, if_neg fun same => left (eq_noSpace_iff.mp same).2, full]

/-- The class depends on the kind, and for a full disk on whether there is a number. -/
theorem errorClass_eq_iff (kind : e.kind = e'.kind) :
    e.errorClass = e'.errorClass ↔ (e.kind = .storageFull → (e.Numbered ↔ e'.Numbered)) := by
  by_cases full : e.kind = .storageFull
  · have full' := kind.symm.trans full
    by_cases left : e.Numbered <;> by_cases left' : e'.Numbered <;>
      simp [errorClass_of_numbered, errorClass_of_not_numbered, full, full', left, left']
  · have other : e ≠ noSpace := fun same => full (eq_noSpace_iff.mp same).1
    have other' : e' ≠ noSpace := fun same => full (kind.trans (eq_noSpace_iff.mp same).1)
    have same : e.errorClass = e'.errorClass := by
      simp only [errorClass, if_neg other, if_neg other', kind]
    exact iff_of_true same fun full' => absurd full' full

end IoError

namespace JobError

/-- The failure of the host that is at the bottom of a failure: as it is, as one of the object
store, or below failed stages. -/
inductive StemsFrom (e : IoError) : JobError → Prop
  | io : StemsFrom e (.io e)
  | storage : StemsFrom e (.storage (.io e))
  | rejected {source : JobError} (stage : Stage) (requeue : Bool) :
      StemsFrom e source → StemsFrom e (.rejected stage requeue source)

variable {f : JobError} {policy : FatalPolicy}

theorem StemsFrom.errorClass_eq (stems : StemsFrom e f) : f.errorClass = e.errorClass := by
  induction stems with
  | io | storage => rfl
  | rejected _ _ _ ih => exact ih

/-- What is no failed stage is resolved by the class of the failure. -/
theorem StemsFrom.ofOutcome_eq (stems : StemsFrom e f) (bare : f.stage? = none) :
    Decision.ofOutcome policy (.error f) =
      match e.errorClass, policy with
      | .transient, _ => .nack true
      | .permanent, _ => .nack false
      | .fatal, .proceed => .nack false
      | .fatal, .halt => .halt true := by
  cases stems with
  | io | storage =>
    simp only [Decision.ofOutcome, errorClass, StorageError.errorClass]
    cases e.errorClass <;> cases policy <;> rfl
  | rejected => cases bare

theorem StemsFrom.halts_iff (stems : StemsFrom e f) (bare : f.stage? = none) :
    (Decision.ofOutcome policy (.error f)).halts = true ↔
      policy = .halt ∧ e.errorClass = .fatal := by
  rw [stems.ofOutcome_eq bare]
  cases e.errorClass <;> cases policy <;> decide

theorem StemsFrom.ofOutcome_halt_iff (stems : StemsFrom e f) (bare : f.stage? = none) :
    Decision.ofOutcome .halt (.error f) = .halt true ↔ e.errorClass = .fatal := by
  rw [stems.ofOutcome_eq bare]
  cases e.errorClass <;> decide

/-- When a failure of the host is fatal, and when it stops the worker. It is known by its kind just
if it is no full disk without a number. Below failed stages it is resolved by the flag of the
outermost one. -/
theorem host_exhaustion (stems : StemsFrom e f) :
    (f.errorClass = .fatal ↔ e.ShowsExhaustion) ∧
    ((f.errorClass = .fatal ↔ e.kind = .storageFull ∨ e.kind = .outOfMemory) ↔
      (e.kind = .storageFull → e.Numbered)) ∧
    (∀ e' f', StemsFrom e' f' → e.kind = e'.kind →
      (f.errorClass = f'.errorClass ↔ (e.kind = .storageFull → (e.Numbered ↔ e'.Numbered)))) ∧
    (f.stage? = none →
      (Decision.ofOutcome .halt (.error f) = .halt true ↔ e.ShowsExhaustion) ∧
      ∀ policy, (Decision.ofOutcome policy (.error f)).halts = true ↔
        policy = .halt ∧ e.ShowsExhaustion) ∧
    ∀ policy stage requeue,
      Decision.ofOutcome policy (.error (.rejected stage requeue f)) = .nack requeue ∧
      (Decision.ofOutcome policy (.error (.rejected stage requeue f))).halts = false := by
  have fatal : f.errorClass = .fatal ↔ e.ShowsExhaustion := by
    rw [stems.errorClass_eq, IoError.errorClass_eq_fatal_iff]
  refine ⟨fatal, ?_, fun e' f' stems' kind => ?_, fun bare => ⟨?_, fun policy => ?_⟩,
    fun _ _ _ => ⟨rfl, rfl⟩⟩
  · rw [fatal, IoError.showsExhaustion_iff_kind]
  · rw [stems.errorClass_eq, stems'.errorClass_eq, IoError.errorClass_eq_iff kind]
  · rw [stems.ofOutcome_halt_iff bare, IoError.errorClass_eq_fatal_iff]
  · rw [stems.halts_iff bare, IoError.errorClass_eq_fatal_iff]

theorem host_exhaustion_of_uploads :
    (rejected .upload false (rejected .upload true (storage (.io .noSpace)))).errorClass = .fatal ∧
      (io (.described .timedOut "slow")).errorClass = (storage (.io (.number 110))).errorClass ∧
      Decision.ofOutcome .halt (.error (storage (.io (.plain .outOfMemory)))) = .halt true := by
  have slow : StemsFrom (.described .timedOut "slow") (.io (.described .timedOut "slow")) := .io
  have full : StemsFrom .noSpace
      (rejected .upload false (rejected .upload true (storage (.io .noSpace)))) :=
    .rejected _ _ (.rejected _ _ .storage)
  have spent : StemsFrom (.plain .outOfMemory) (storage (.io (.plain .outOfMemory))) := .storage
  exact ⟨(host_exhaustion full).1.mpr (.inr ⟨rfl, 28, rfl⟩),
    ((host_exhaustion slow).2.2.1 _ _ .storage rfl).mpr nofun,
    ((host_exhaustion spent).2.2.2.1 rfl).1.mpr (.inl rfl)⟩

/-- A full disk that is known by its kind alone is not fatal, and stops no worker. -/
theorem full_disk_without_number :
    Decision.ofOutcome .halt (.error (.io (.plain .storageFull))) = .nack false ∧
      Decision.ofOutcome .halt (.error (.io .noSpace)) = .halt true ∧
      ¬ ∀ e f, StemsFrom e f →
        (f.errorClass = .fatal ↔ e.kind = .storageFull ∨ e.kind = .outOfMemory) := by
  refine ⟨rfl, rfl, fun by_kind => ?_⟩
  exact absurd ((by_kind (.plain .storageFull) _ .io).mpr (.inl rfl)) (by decide)

end JobError

end ImageWorker
