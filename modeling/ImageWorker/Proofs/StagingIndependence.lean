import ImageWorker.Proofs.FileSaving
import ImageWorker.Proofs.StagingResidue

/-!
# Staging beside other keys

The staging area mirrors keys as paths, so one key can lie above another: its file would stand
where the other needs a directory. A key that can be staged can be staged beside another one just
if neither lies above the other. After the cleanup of the other its file is gone, but the
directories above that file stay, so a key above it cannot be staged any more.
-/

namespace ImageWorker

/-- The components of one path are the first ones of another. -/
def Path.Above (p q : Path) : Prop := p.components <+: q.components ∧ p.components ≠ q.components

namespace FileTree

variable {t t₁ t₂ : FileTree} {root p p' p₁ p₂ : Path} {content b₁ b₂ : Bytes} {q : Place}
  {names names' : List String} {steps : CleanupTrace}

/-- A path that leads from a directory down these names. -/
structure Down (root p : Path) (names : List String) : Prop where
  nonempty : names ≠ []
  proper : ∀ name ∈ names, ProperName name
  components_eq : p.components = root.components ++ names.map .normal

theorem Down.route_eq (down : Down root p names) : route p = route root ++ names := by
  have moves : (names.map Component.normal).filterMap Component.move? = names := by
    rw [List.filterMap_map]
    exact List.filterMap_some
  rw [FileTree.route_eq, FileTree.route_eq, down.components_eq, List.filterMap_append, moves]

theorem Down.goal_eq (down : Down root p names) :
    goal [] (route p) = goal [] (route root) ++ names := by
  rw [down.route_eq, goal, List.foldl_append, ← goal, ← goal, goal_of_proper down.proper]

theorem Down.mem_way_iff (down : Down root p names) :
    q ∈ visited [] (route p).dropLast ↔
      q ∈ visited [] (route root) ∨
        ∃ upper, upper <+: names.dropLast ∧ q = goal [] (route root) ++ upper := by
  have proper : ∀ name ∈ names.dropLast, ProperName name :=
    fun name mem => down.proper name (List.dropLast_subset _ mem)
  rw [down.route_eq, List.dropLast_append_of_ne_nil down.nonempty, mem_visited_append,
    mem_visited_of_proper proper]

theorem prefix_dropLast_iff (some : names' ≠ []) :
    names <+: names'.dropLast ↔ names <+: names' ∧ names ≠ names' := by
  obtain ⟨front, last, rfl⟩ := (List.eq_nil_or_concat names').resolve_left some
  rw [List.concat_eq_append, List.dropLast_concat, List.prefix_concat_iff]
  constructor
  · intro inside
    refine ⟨.inr inside, ?_⟩
    rintro rfl
    have shorter := inside.length_le
    rw [List.length_append] at shorter
    exact absurd shorter (Nat.not_succ_le_self _)
  · rintro ⟨same | inside, other⟩
    · exact absurd same other
    · exact inside

theorem Down.above_iff (down : Down root p names) (down' : Down root p' names') :
    p.Above p' ↔ names <+: names' ∧ names ≠ names' := by
  have injective : Function.Injective Component.normal := fun _ _ => Component.normal.inj
  rw [Path.Above, down.components_eq, down'.components_eq, List.prefix_append_right_inj,
    List.prefix_map_iff_of_injective injective, ne_eq, List.append_cancel_left_eq,
    List.map_inj_right injective]

/-- The end of one way is on another one just if the first path lies above the second. -/
theorem Down.goal_mem_way_iff (down : Down root p names) (down' : Down root p' names')
    (off : goal [] (route p) ∉ visited [] (route root)) :
    goal [] (route p) ∈ visited [] (route p').dropLast ↔ p.Above p' := by
  rw [down'.mem_way_iff, or_iff_right off, down.goal_eq, down.above_iff down',
    ← prefix_dropLast_iff down'.nonempty]
  constructor
  · rintro ⟨upper, inside, same⟩
    rwa [List.append_cancel_left same]
  · intro inside
    exact ⟨names, inside, rfl⟩

section Beside

variable {t₁' t₂' : FileTree} (first : Down root p₁ names) (second : Down root p₂ names')
  (saved₁ : t.saveFile p₁ b₁ = (.ok (), t₁)) (saved₂ : t.saveFile p₂ b₂ = (.ok (), t₂'))

include first saved₁ in
/-- The end of a way does not lie on the way to the common directory. -/
theorem goal_not_mem_root : goal [] (route p₁) ∉ visited [] (route root) :=
  fun mem => goal_not_mem_way saved₁ (first.mem_way_iff.mpr (.inl mem))

include first second in
theorem goal_ne (apart : p₁.components ≠ p₂.components) :
    goal [] (route p₂) ≠ goal [] (route p₁) := by
  rw [first.goal_eq, second.goal_eq]
  intro same
  have names_eq := List.append_cancel_left same
  rw [first.components_eq, second.components_eq, names_eq] at apart
  exact apart rfl

include first second saved₁ saved₂ in
/-- Beside the file of one path nothing stands in the way of another, just if neither lies above
the other. -/
theorem free_beside_iff (apart : p₁.components ≠ p₂.components) :
    t₁.Free p₂ ↔ ¬ p₁.Above p₂ ∧ ¬ p₂.Above p₁ := by
  have leaves := saveFile_leaves saved₁
  have free := free_of_saveFile saved₂
  have distinct := goal_ne first second apart
  rw [← first.goal_mem_way_iff second (goal_not_mem_root first saved₁),
    ← second.goal_mem_way_iff first (goal_not_mem_root second saved₂)]
  constructor
  · rintro ⟨noFile, noDirectory⟩
    refine ⟨fun mem => noFile _ mem ⟨b₁, by rw [leaves, if_pos rfl]⟩, fun mem => noDirectory ?_⟩
    rw [leaves, if_neg distinct, if_pos mem]
  · rintro ⟨off₁, off₂⟩
    constructor
    · rintro r mem ⟨content, stands⟩
      have other : r ≠ goal [] (route p₁) := by
        rintro rfl
        exact off₁ mem
      rw [leaves, if_neg other] at stands
      split at stands
      · cases stands
      · exact free.1 r mem ⟨content, stands⟩
    · rw [leaves, if_neg distinct, if_neg off₂]
      exact free.2

include first second saved₁ saved₂ in
/-- Once that file is gone, only its directories can stand in the way. -/
theorem free_after_iff (apart : p₁.components ≠ p₂.components)
    (sheds : t₁.Sheds t₂) (gone : ¬ t₂.HasFile (goal [] (route p₁))) :
    t₂.Free p₂ ↔ ¬ p₂.Above p₁ := by
  have leaves := saveFile_leaves saved₁
  have free := free_of_saveFile saved₂
  have distinct := goal_ne first second apart
  rw [← second.goal_mem_way_iff first (goal_not_mem_root second saved₂)]
  constructor
  · rintro ⟨_, noDirectory⟩ mem
    have stood : t₁.get? (goal [] (route p₂)) = some .directory := by
      rw [leaves, if_neg distinct, if_pos mem]
    exact noDirectory (sheds.keepsDirectories _ stood)
  · intro off
    constructor
    · intro r mem has
      have other : r ≠ goal [] (route p₁) := by
        rintro rfl
        exact gone has
      obtain ⟨content, stands⟩ := sheds.hasFile has
      rw [leaves, if_neg other] at stands
      split at stands
      · cases stands
      · exact free.1 r mem ⟨content, stands⟩
    · intro stands
      have stood := sheds.directory stands
      rw [leaves, if_neg distinct, if_neg off] at stood
      exact free.2 stood

end Beside

end FileTree

open FileTree CleanupTask

namespace StagingArea

variable {a : StagingArea} {k : String} {t s t₁ : FileTree} {p : Path} {b : Bytes}

/-- A key can be staged: its path then leads to a file with just the given bytes. -/
def Stages (a : StagingArea) (key : String) (content : Bytes) (t : FileTree) : Prop :=
  ∃ path after, a.saveRaw key t content = (.ok path, after) ∧ after.Holds path content

theorem saveRaw_eq_ok_iff :
    a.saveRaw k t b = (.ok p, s) ↔ a.rawPath k = .ok p ∧ t.saveFile p b = (.ok (), s) := by
  unfold saveRaw save
  constructor
  · intro saved
    split at saved
    · cases saved
    next path placed =>
      split at saved
      next written =>
        cases saved
        exact ⟨placed, written⟩
      next => cases saved
  · rintro ⟨placed, written⟩
    simp only [placed, written]

theorem exists_down (placed : a.rawPath k = .ok p) : ∃ names, Down a.rawRoot p names := by
  obtain ⟨names, nonempty, proper, parts⟩ := resolve_below placed
  exact ⟨names, nonempty, proper, parts⟩

/-- A key that can be staged in one tree can be staged in any that has its directories, just if
nothing stands in the way there. -/
theorem stages_iff_free (placed : a.rawPath k = .ok p) (saved : t.saveFile p b = (.ok (), t₁))
    (keeps : t.KeepsDirectories s) : a.Stages k b s ↔ s.Free p := by
  rw [← saveFile_transfers saved keeps b]
  constructor
  · rintro ⟨path, after, again, _⟩
    obtain ⟨placed', written⟩ := saveRaw_eq_ok_iff.mp again
    obtain rfl : path = p := Except.ok.inj (placed'.symm.trans placed)
    rw [written]
  · intro success
    have written : s.saveFile p b = (.ok (), (s.saveFile p b).2) := Prod.ext success rfl
    exact ⟨p, _, saveRaw_eq_ok_iff.mpr ⟨placed, written⟩, holds_of_saveFile written⟩

end StagingArea

open StagingArea

variable {a : StagingArea} {k₁ k₂ : String} {t t₁ : FileTree} {p₁ p₂ : Path} {b₁ b₂ : Bytes}

/-- Beside another staged key, a key that could be staged alone can be staged just if neither path
lies above the other, and after the cleanup of the other one just if it does not lie above it. -/
theorem stages_beside_iff (staged : a.saveRaw k₁ t b₁ = (.ok p₁, t₁))
    (alone : (a.saveRaw k₂ t b₂).1 = .ok p₂) (apart : p₁.components ≠ p₂.components) :
    (a.Stages k₂ b₂ t₁ ↔ ¬ p₁.Above p₂ ∧ ¬ p₂.Above p₁) ∧
      ∀ task steps t₂, .removeFile p₁ ∈ CleanupTask.steps task →
        FileTree.aroundCleanups.Runs t₁ task.perform steps t₂ 0 →
          (a.Stages k₂ b₂ t₂ ↔ ¬ p₂.Above p₁) := by
  have whole : a.saveRaw k₂ t b₂ = (.ok p₂, (a.saveRaw k₂ t b₂).2) := Prod.ext alone rfl
  obtain ⟨placed₁, saved₁⟩ := saveRaw_eq_ok_iff.mp staged
  obtain ⟨placed₂, saved₂⟩ := saveRaw_eq_ok_iff.mp whole
  obtain ⟨_, first⟩ := exists_down placed₁
  obtain ⟨_, second⟩ := exists_down placed₂
  have grown : t.KeepsDirectories t₁ := by
    have changes := saveFile_mayWrite t p₁ (List.prefix_refl b₁)
    rw [saved₁] at changes
    exact changes.keepsDirectories
  constructor
  · rw [stages_iff_free placed₂ saved₂ grown]
    exact free_beside_iff first second saved₁ saved₂ apart
  · intro task steps t₂ called cleaned
    obtain ⟨performed, follows⟩ := Surroundings.runs_iff.mp cleaned
    have sheds := sheds_of_follows follows
    rw [stages_iff_free placed₂ saved₂ (grown.trans sheds.keepsDirectories)]
    have gone : ¬ t₂.HasFile (goal [] (route p₁)) := by
      obtain ⟨place, located, _⟩ := holds_of_saveFile saved₁
      have leads := place_eq_goal located
      have taken : .removeFile p₁ ∈ CleanupTrace.steps steps := perform_steps performed ▸ called
      obtain ⟨_, answer, mem⟩ := CleanupTrace.mem_steps.mp taken
      rw [← leads]
      exact gone_of_follows follows mem (fun e same => perform_clean performed (same ▸ mem)) located
    exact free_after_iff first second saved₁ saved₂ apart sheds gone

def stagedPath (key : String) : Path := localPipeline.staging.rawRoot.join key

/-- An empty disk after a source object of one octet is staged. -/
def stagedDisk (key : String) : FileTree := (localPipeline.staging.saveRaw key .empty [1]).2

/-- The way of the cleanup that removes this file again. -/
def unstagedDisk (key : String) : CleanupTrace × FileTree × Nat :=
  (turnCleanup key).perform.replies answerCleanup (stagedDisk key)

theorem unstagedDisk_runs (key : String) :
    FileTree.aroundCleanups.Runs (stagedDisk key) (turnCleanup key).perform (unstagedDisk key).1
      (unstagedDisk key).2.1 (unstagedDisk key).2.2 :=
  Surroundings.runs_replies answerCleanup_allowed _ _

theorem removes_stagedPath (key : String) :
    .removeFile (stagedPath key) ∈ (turnCleanup key).steps :=
  removeFile_mem_steps_iff.mpr (.inl ⟨rfl, rfl⟩)

theorem stages_beside_sibling :
    localPipeline.staging.Stages "raw/b.png" [2] (stagedDisk "raw/a.png") ∧
      localPipeline.staging.Stages "raw/b.png" [2] (unstagedDisk "raw/a.png").2.1 := by
  have staged : localPipeline.staging.saveRaw "raw/a.png" .empty [1] =
      (.ok (stagedPath "raw/a.png"), stagedDisk "raw/a.png") :=
    Prod.ext (eq_ok_of_toOption_eq_some (by decide +kernel)) rfl
  have alone : (localPipeline.staging.saveRaw "raw/b.png" .empty [2]).1 =
      .ok (stagedPath "raw/b.png") :=
    eq_ok_of_toOption_eq_some (by decide +kernel)
  have apart : (stagedPath "raw/a.png").components ≠ (stagedPath "raw/b.png").components := by
    decide +kernel
  have clean : (unstagedDisk "raw/a.png").2.2 = 0 := by decide +kernel
  have cleaned := unstagedDisk_runs "raw/a.png"
  rw [clean] at cleaned
  have siblings : ¬ (stagedPath "raw/a.png").Above (stagedPath "raw/b.png") ∧
      ¬ (stagedPath "raw/b.png").Above (stagedPath "raw/a.png") := by
    unfold Path.Above
    decide +kernel
  obtain ⟨beside, after⟩ := stages_beside_iff staged alone apart
  exact ⟨beside.mpr siblings,
    (after _ _ _ (removes_stagedPath "raw/a.png") cleaned).mpr siblings.2⟩

/-- The directory above a picture stays after the cleanup, where a picture of its name would be. -/
theorem stages_beside_fails :
    ¬ ∀ (a : StagingArea) (k₁ k₂ : String) (t t₁ : FileTree) (p₁ p₂ : Path) (b₁ b₂ : Bytes),
        a.saveRaw k₁ t b₁ = (.ok p₁, t₁) → (a.saveRaw k₂ t b₂).1 = .ok p₂ →
        p₁.components ≠ p₂.components →
        a.Stages k₂ b₂ t₁ ∧ ∀ task steps t₂, .removeFile p₁ ∈ CleanupTask.steps task →
          FileTree.aroundCleanups.Runs t₁ task.perform steps t₂ 0 → a.Stages k₂ b₂ t₂ := by
  intro independent
  have staged : localPipeline.staging.saveRaw "raw/a.png/b.png" .empty [1] =
      (.ok (stagedPath "raw/a.png/b.png"), stagedDisk "raw/a.png/b.png") :=
    Prod.ext (eq_ok_of_toOption_eq_some (by decide +kernel)) rfl
  have alone : (localPipeline.staging.saveRaw "raw/a.png" .empty [2]).1 =
      .ok (stagedPath "raw/a.png") :=
    eq_ok_of_toOption_eq_some (by decide +kernel)
  have apart : (stagedPath "raw/a.png/b.png").components ≠ (stagedPath "raw/a.png").components := by
    decide +kernel
  have clean : (unstagedDisk "raw/a.png/b.png").2.2 = 0 := by decide +kernel
  have cleaned := unstagedDisk_runs "raw/a.png/b.png"
  rw [clean] at cleaned
  obtain ⟨_, after⟩ := independent _ _ _ _ _ _ _ _ _ staged alone apart
  obtain ⟨path, tree, again, _⟩ := after _ _ _ (removes_stagedPath "raw/a.png/b.png") cleaned
  have refused : (localPipeline.staging.saveRaw "raw/a.png"
      (unstagedDisk "raw/a.png/b.png").2.1 [2]).1.toOption = none := by
    decide +kernel
  rw [again] at refused
  cases refused

end ImageWorker
