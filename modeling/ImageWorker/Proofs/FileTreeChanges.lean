import ImageWorker.Disk.FileTree

/-!
# What operations leave of a tree

Making directories adds directories and nothing else, writing a file changes one place, and removing
one empties its place. No operation takes a directory away, so a path that led to a place keeps
leading there. In a tree that has only lost files, what was missing is still missing.
-/

namespace ImageWorker

namespace FileTree

def HasFile (t : FileTree) (place : Place) : Prop := ∃ content, t.get? place = some (.file content)

def KeepsDirectories (t t' : FileTree) : Prop :=
  ∀ place, t.get? place = some .directory → t'.get? place = some .directory

/-- Directories are added, and nothing else is changed. -/
def Extends (t t' : FileTree) : Prop :=
  ∀ place, t'.get? place = t.get? place ∨ t.get? place = none ∧ t'.get? place = some .directory

variable {t t' t'' : FileTree} {p : Path} {place : Place}

theorem KeepsDirectories.refl (t : FileTree) : t.KeepsDirectories t := fun _ stands => stands

theorem KeepsDirectories.trans (first : t.KeepsDirectories t') (second : t'.KeepsDirectories t'') :
    t.KeepsDirectories t'' :=
  fun place stands => second place (first place stands)

theorem Extends.refl (t : FileTree) : t.Extends t := fun _ => .inl rfl

theorem Extends.trans (first : t.Extends t') (second : t'.Extends t'') : t.Extends t'' := by
  intro place
  rcases first place with same | ⟨free, made⟩
  · rcases second place with same' | ⟨free, made⟩
    · exact .inl (same'.trans same)
    · exact .inr ⟨same ▸ free, made⟩
  · rcases second place with same | ⟨free', _⟩
    · exact .inr ⟨free, same.trans made⟩
    · simp [made] at free'

theorem Extends.keepsDirectories (grown : t.Extends t') : t.KeepsDirectories t' := by
  intro place stands
  rcases grown place with same | ⟨_, made⟩
  · exact same.trans stands
  · exact made

theorem Extends.hasFile (grown : t.Extends t') (has : t'.HasFile place) : t.HasFile place := by
  obtain ⟨content, stands⟩ := has
  rcases grown place with same | ⟨_, made⟩
  · exact ⟨content, same ▸ stands⟩
  · simp [made] at stands

theorem step_of_keeps (keeps : t.KeepsDirectories t') {here next : Place} {name : String}
    (stepped : t.step here name = .ok next) (stands : t.get? next = some .directory) :
    t'.step here name = .ok next := by
  unfold step at stepped ⊢
  split at stepped
  · cases stepped
  · cases stepped
  next top =>
    rw [keeps here top]
    simp only
    split at stepped
    next dot => rw [if_pos dot, stepped]
    next other =>
      rw [if_neg other]
      split at stepped
      next dots => rw [if_pos dots, stepped]
      next named =>
        rw [if_neg named]
        split at stepped
        · cases stepped
        next short =>
          rw [if_neg short]
          split at stepped
          · cases stepped
          · obtain rfl := Except.ok.inj stepped
            rw [keeps _ stands]

theorem directory_of_walk {names : List String} {here : Place}
    (walked : t.walk here names = .ok place) (stands : t.get? place = some .directory) :
    t.get? here = some .directory := by
  cases names with
  | nil =>
    obtain rfl := Except.ok.inj walked
    exact stands
  | cons name names =>
    rw [walk, step] at walked
    split at walked
    · cases walked
    next stepped =>
      split at stepped
      · cases stepped
      · cases stepped
      next top => exact top

theorem walk_of_keeps (keeps : t.KeepsDirectories t') {names : List String} {here : Place}
    (walked : t.walk here names = .ok place) (stands : t.get? place = some .directory) :
    t'.walk here names = .ok place := by
  induction names generalizing here with
  | nil => exact walked
  | cons name names ih =>
    rw [walk] at walked ⊢
    split at walked
    · cases walked
    next next stepped =>
      -- The way goes on from `next` to a directory, so a file cannot stand there.
      rw [step_of_keeps keeps stepped (directory_of_walk walked stands)]
      exact ih walked

/-- Where the file of a path stands does not change as long as the directories stay. -/
theorem locate_of_keeps (keeps : t.KeepsDirectories t')
    (located : t.locate p = .ok (.named place)) : t'.locate p = .ok (.named place) := by
  unfold locate at located ⊢
  split at located
  · cases located
  next allowed =>
    split at located
    · cases located
    next last ends =>
      split at located
      · cases located
      next parent walked =>
        split at located
        next stands =>
          simp only [walk_of_keeps keeps walked stands, keeps _ stands]
          exact located
        · cases located
        · cases located

theorem locate_ne_nil (located : t.locate p = .ok (.named place)) : place ≠ [] := by
  unfold locate at located
  split at located
  · cases located
  · split at located
    · cases located
    · split at located
      · cases located
      next parent _ =>
        split at located
        · split at located
          · cases located
          · split at located
            · cases located
            · obtain rfl := Target.named.inj (Except.ok.inj located)
              exact List.append_ne_nil_of_right_ne_nil parent (List.cons_ne_nil _ _)
        · cases located
        · cases located

theorem makeDirectory_eq (made : t.makeDirectory p = .ok t') :
    ∃ place, t.locate p = .ok (.named place) ∧ t.get? place = none ∧
      t' = t.set place .directory := by
  unfold makeDirectory at made
  split at made
  · cases made
  · cases made
  next place located =>
    split at made
    · cases made
    next free => exact ⟨place, located, free, (Except.ok.inj made).symm⟩

theorem makeDirectory_extends (made : t.makeDirectory p = .ok t') : t.Extends t' := by
  obtain ⟨place, located, free, rfl⟩ := makeDirectory_eq made
  intro other
  rw [get?_set t (locate_ne_nil located)]
  split
  next same => exact .inr ⟨same ▸ free, rfl⟩
  next => exact .inl rfl

theorem makeDirectoriesWithin_extends (fuel : Nat) (t : FileTree) (p : Path) :
    t.Extends (makeDirectoriesWithin fuel t p).2 := by
  induction fuel generalizing t p with
  | zero => exact .refl t
  | succ fuel ih =>
    unfold makeDirectoriesWithin
    split
    · exact .refl t
    · split
      next made => exact makeDirectory_extends made
      next =>
        split
        · split
          · exact .refl t
          next parent _ =>
            have above := ih t parent
            split
            next eq => exact eq ▸ above
            next t' eq =>
              rw [eq] at above
              split
              next made => exact above.trans (makeDirectory_extends made)
              next => split <;> exact above
        · split <;> exact .refl t

theorem writeFile_eq_ok_iff {content : Bytes} :
    t.writeFile p content = .ok t' ↔
      ∃ place, t.locate p = .ok (.named place) ∧ endsInSlash p = false ∧
        t.get? place ≠ some .directory ∧ t' = t.set place (.file content) := by
  constructor
  · intro written
    unfold writeFile at written
    split at written
    · cases written
    · split at written <;> cases written
    next place located =>
      split at written
      · cases written
      next named =>
        split at written
        · cases written
        next other =>
          exact ⟨place, located, Bool.eq_false_iff.mpr named, other, (Except.ok.inj written).symm⟩
  · rintro ⟨place, located, named, other, rfl⟩
    unfold writeFile
    rw [located]
    simp only [named, Bool.false_eq_true, if_false]

theorem KeepsDirectories.set (other : t.get? place ≠ some .directory) (below : place ≠ [])
    (e : Entry) : t.KeepsDirectories (t.set place e) := by
  intro q stands
  have distinct : q ≠ place := by
    rintro rfl
    exact other stands
  rw [get?_set t below, if_neg distinct, stands]

theorem KeepsDirectories.erase (other : t.get? place ≠ some .directory) (below : place ≠ []) :
    t.KeepsDirectories (t.erase place) := by
  intro q stands
  have distinct : q ≠ place := by
    rintro rfl
    exact other stands
  rw [get?_erase t below, if_neg distinct, stands]

/-- What an attempt to save a file can leave, failed ones included: directories are added, and the
file is written, or a part of it, or it is not. -/
def MayWrite (t : FileTree) (p : Path) (content : Bytes) (t' : FileTree) : Prop :=
  ∃ made, t.Extends made ∧
    (t' = made ∨ ∃ part, part <+: content ∧ made.writeFile p part = .ok t')

theorem saveFile_mayWrite (t : FileTree) (p : Path) {part content : Bytes}
    (beginning : part <+: content) : t.MayWrite p content (t.saveFile p part).2 := by
  unfold saveFile
  cases p.parent? with
  | none =>
    refine ⟨t, .refl t, ?_⟩
    simp only
    split
    next written => exact .inr ⟨part, beginning, written⟩
    next => exact .inl rfl
  | some parent =>
    have above : t.Extends (t.makeDirectories parent).2 := makeDirectoriesWithin_extends _ t parent
    refine ⟨_, above, ?_⟩
    simp only
    split
    next => exact .inl rfl
    next =>
      split
      next written => exact .inr ⟨part, beginning, written⟩
      next => exact .inl rfl

theorem MayWrite.keepsDirectories {content : Bytes} (saved : t.MayWrite p content t') :
    t.KeepsDirectories t' := by
  obtain ⟨made, extended, rfl | ⟨part, _, written⟩⟩ := saved
  · exact extended.keepsDirectories
  · obtain ⟨place, located, _, other, rfl⟩ := writeFile_eq_ok_iff.mp written
    exact extended.keepsDirectories.trans (.set other (locate_ne_nil located) _)

/-- A file that is new has the path that was written. -/
theorem MayWrite.locate_new {content : Bytes} (saved : t.MayWrite p content t')
    (has : t'.HasFile place) (new : ¬ t.HasFile place) : t'.locate p = .ok (.named place) := by
  obtain ⟨made, extended, rfl | ⟨part, _, written⟩⟩ := saved
  · exact absurd (extended.hasFile has) new
  · obtain ⟨place', located, _, other, rfl⟩ := writeFile_eq_ok_iff.mp written
    have below := locate_ne_nil located
    obtain rfl : place = place' := by
      refine Classical.byContradiction fun distinct => new (extended.hasFile ?_)
      rwa [HasFile, get?_set made below, if_neg distinct] at has
    exact locate_of_keeps (.set other below _) located

/-- A file of another path is kept. -/
theorem MayWrite.file_elsewhere {content part : Bytes} (saved : t.MayWrite p content t')
    (stands : t.get? place = some (.file part)) (other : t'.locate p ≠ .ok (.named place)) :
    t'.get? place = some (.file part) := by
  obtain ⟨made, extended, written⟩ := saved
  have kept : made.get? place = some (.file part) := by
    rcases extended place with same | ⟨free, _⟩
    · exact same.trans stands
    · rw [stands] at free
      cases free
  rcases written with rfl | ⟨_, _, written⟩
  · exact kept
  · obtain ⟨place', located, _, free, rfl⟩ := writeFile_eq_ok_iff.mp written
    have below := locate_ne_nil located
    have distinct : place ≠ place' := by
      rintro rfl
      exact other (locate_of_keeps (.set free below _) located)
    rw [get?_set made below, if_neg distinct, kept]

theorem removeFile_eq (removed : t.removeFile p = .ok t') :
    ∃ place, t.locate p = .ok (.named place) ∧ t.HasFile place ∧ t' = t.erase place := by
  unfold removeFile at removed
  split at removed
  · cases removed
  · cases removed
  next place located =>
    split at removed
    · cases removed
    · cases removed
    next content stands =>
      split at removed
      · cases removed
      · exact ⟨place, located, ⟨content, stands⟩, (Except.ok.inj removed).symm⟩

/-- Only a file that is not there cannot be found. -/
theorem not_hasFile_of_notFound {e : IoError} (failed : t.removeFile p = .error e)
    (missing : e.kind = .notFound) (located : t.locate p = .ok (.named place)) :
    ¬ t.HasFile place := by
  rintro ⟨content, stands⟩
  rw [removeFile, located] at failed
  simp only [stands] at failed
  split at failed
  · obtain rfl := Except.error.inj failed
    cases missing
  · cases failed

variable {s : FileTree} {q here : Place} {names : List String}

/-- Nothing is changed, but files may be gone. -/
def Sheds (t s : FileTree) : Prop := ∀ q, s.get? q = t.get? q ∨ t.HasFile q ∧ s.get? q = none

theorem Sheds.same (sheds : t.Sheds s) (other : ¬ t.HasFile q) : s.get? q = t.get? q :=
  (sheds q).resolve_right fun gone => other gone.1

theorem HasFile.not_directory (has : t.HasFile place) : t.get? place ≠ some .directory := by
  obtain ⟨content, stands⟩ := has
  simp [stands]

theorem Sheds.keepsDirectories (sheds : t.Sheds s) : t.KeepsDirectories s := by
  intro q stands
  rw [sheds.same fun has => has.not_directory stands, stands]

theorem Sheds.hasFile (sheds : t.Sheds s) (has : s.HasFile place) : t.HasFile place := by
  obtain ⟨content, stands⟩ := has
  rcases sheds place with same | ⟨_, gone⟩
  · exact ⟨content, same ▸ stands⟩
  · rw [stands] at gone
    cases gone

theorem Sheds.directory (sheds : t.Sheds s) (stands : s.get? place = some .directory) :
    t.get? place = some .directory := by
  rcases sheds place with same | ⟨_, gone⟩
  · exact same ▸ stands
  · rw [stands] at gone
    cases gone

/-- A way that ends elsewhere than at a file, or at something missing. -/
def Open (t : FileTree) : Except IoError Place → Prop
  | .ok q => ¬ t.HasFile q
  | .error e => e.kind = .notFound

theorem clear_of_step {name : String} (opened : t.Open (t.step here name)) :
    ¬ t.HasFile here := by
  rintro ⟨content, stands⟩
  rw [step, stands] at opened
  cases opened

theorem step_of_sheds (sheds : t.Sheds s) {name : String}
    (opened : t.Open (t.step here name)) : s.step here name = t.step here name := by
  have same := sheds.same (clear_of_step opened)
  unfold step at opened ⊢
  rw [same]
  split
  · rfl
  · rfl
  next top =>
    rw [top] at opened
    simp only at opened
    split
    · rfl
    next ne_dot =>
      split
      · rfl
      next ne_dots =>
        split
        · rfl
        next short =>
          rw [if_neg ne_dot, if_neg ne_dots, if_neg short] at opened
          have below : ¬ t.HasFile (here ++ [name]) := by
            rintro ⟨content, stands⟩
            rw [stands] at opened
            exact opened ⟨content, stands⟩
          rw [sheds.same below]

/-- Such a way leads the same way when files are gone. -/
theorem walk_of_sheds (sheds : t.Sheds s) (opened : t.Open (t.walk here names)) :
    ¬ t.HasFile here ∧ s.walk here names = t.walk here names := by
  induction names generalizing here with
  | nil => exact ⟨opened, rfl⟩
  | cons name names ih =>
    rw [walk] at opened ⊢
    rw [walk]
    cases stepped : t.step here name with
    | error e =>
      rw [stepped] at opened
      have missing : t.Open (t.step here name) := stepped ▸ opened
      rw [step_of_sheds sheds missing, stepped]
      exact ⟨clear_of_step missing, rfl⟩
    | ok next =>
      rw [stepped] at opened
      obtain ⟨clear, onwards⟩ := ih opened
      have found : t.Open (t.step here name) := stepped ▸ clear
      rw [step_of_sheds sheds found, stepped]
      exact ⟨clear_of_step found, onwards⟩

/-- Where a path leads can be told as before, unless a file stood in its way. -/
theorem locate_of_sheds (sheds : t.Sheds s)
    (opened : ∀ e, t.locate p = .error e → e.kind = .notFound) : s.locate p = t.locate p := by
  unfold locate at opened ⊢
  cases refused : refused? p with
  | some e => rfl
  | none =>
    cases ends : (FileTree.steps p).getLast? with
    | none => rfl
    | some last =>
      simp only [refused, ends] at opened ⊢
      cases walked : t.walk [] (FileTree.steps p).dropLast with
      | error e =>
        simp only [walked] at opened
        have missing : t.Open (t.walk [] (FileTree.steps p).dropLast) := walked ▸ opened e rfl
        rw [(walk_of_sheds sheds missing).2, walked]
      | ok above =>
        simp only [walked] at opened
        have clear : ¬ t.HasFile above := by
          rintro ⟨content, stands⟩
          simp only [stands] at opened
          cases opened _ rfl
        have found : t.Open (t.walk [] (FileTree.steps p).dropLast) := walked ▸ clear
        rw [(walk_of_sheds sheds found).2, walked]
        simp only [sheds.same clear]

def Misses (t : FileTree) (p : Path) : Prop :=
  ∃ e, t.removeFile p = .error e ∧ e.kind = .notFound

/-- What cannot be found is still not found when files are gone. -/
theorem Misses.of_sheds (misses : t.Misses p) (sheds : t.Sheds s) : s.Misses p := by
  obtain ⟨e, failed, missing⟩ := misses
  have same : s.locate p = t.locate p := by
    refine locate_of_sheds sheds fun e' unlocated => ?_
    rw [removeFile, unlocated] at failed
    exact Except.error.inj failed ▸ missing
  unfold removeFile at failed
  split at failed
  next e' unlocated =>
    rw [Misses, removeFile, same, unlocated]
    exact ⟨e', rfl, Except.error.inj failed ▸ missing⟩
  next =>
    obtain rfl := Except.error.inj failed
    cases missing
  next place located =>
    split at failed
    next free =>
      have clear : ¬ t.HasFile place := by
        rintro ⟨content, stands⟩
        rw [free] at stands
        cases stands
      have gone : s.get? place = none := (sheds.same clear).trans free
      rw [Misses, removeFile, same, located]
      simp only [gone]
      exact ⟨e, failed, missing⟩
    next =>
      obtain rfl := Except.error.inj failed
      cases missing
    next =>
      split at failed
      · obtain rfl := Except.error.inj failed
        cases missing
      · cases failed

end FileTree

end ImageWorker
