import ImageWorker.Proofs.DestinationKeys
import ImageWorker.Proofs.StagingIndependence
import ImageWorker.Settings.Worker

/-!
# Sources and results in one place

The two staging directories have to be different paths, but a source and a result can still have
one path: if the directory of the results lies below the other one, or if the other one is the
folder in which the results are kept. They can have one place also where the directories are written
differently. Where they do not, neither harms the other; where they do, each displaces the other.
-/

namespace ImageWorker

open FileTree

def Path.place (p : Path) : Place := goal [] (route p)

/-- Whatever stands on the disk, saving or removing this file leaves another one as it is. -/
def Path.Spares (p other : Path) : Prop :=
  ∀ (t : FileTree) (content : Bytes), t.Holds other content →
    (∀ b, (t.saveFile p b).2.Holds other content) ∧
      ∀ t', t.removeFile p = .ok t' → t'.Holds other content

/-- Whatever stands on the disk, saving this file writes over another one, and removing it removes
that. -/
def Path.Displaces (p other : Path) : Prop :=
  ∀ (t : FileTree) (content : Bytes), t.Holds other content →
    (∀ b t', t.saveFile p b = (.ok (), t') → t'.Holds other b) ∧
      ∀ t', t.removeFile p = .ok t' → ∀ left, ¬ t'.Holds other left

namespace StagingArea

variable {a : StagingArea} {p p₁ p₂ : Path} {names : List String} {name : String}

def IsSource (a : StagingArea) (p : Path) : Prop := ∃ key, a.rawPath key = .ok p

def IsResult (a : StagingArea) (p : Path) : Prop :=
  ∃ key t d, destinationKey key t = .ok d ∧ a.processedPath d = .ok p

theorem IsSource.exists_down (source : a.IsSource p) : ∃ names, Down a.rawRoot p names := by
  obtain ⟨key, placed⟩ := source
  exact StagingArea.exists_down placed

/-- Any names that go down from the directory of the sources make a key. -/
theorem exists_isSource (nonempty : names ≠ []) (proper : ∀ name ∈ names, ProperName name) :
    ∃ p, a.IsSource p ∧ Down a.rawRoot p names := by
  obtain ⟨p, placed, components⟩ := exists_resolve a.rawRoot nonempty proper
  exact ⟨p, ⟨_, placed⟩, nonempty, proper, components⟩

theorem down_result (proper : ProperName name)
    (components : p.components =
      a.processedRoot.components ++ [.normal processedFolder, .normal name]) :
    Down a.processedRoot p [processedFolder, name] := by
  refine ⟨List.cons_ne_nil _ _, ?_, components⟩
  rw [List.forall_mem_cons, List.forall_mem_singleton]
  exact ⟨processedFolder_proper, proper⟩

theorem IsResult.exists_down (result : a.IsResult p) :
    ∃ name, ProperName name ∧ Down a.processedRoot p [processedFolder, name] := by
  obtain ⟨key, t, d, derived, placed⟩ := result
  obtain ⟨name, proper, rfl⟩ := destinationKey_proper derived
  obtain ⟨path, placed', components⟩ := resolve_result a.processedRoot proper
  obtain rfl : path = p := Except.ok.inj (placed'.symm.trans placed)
  exact ⟨name, proper, down_result proper components⟩

/-- Any name is that of a result. -/
theorem exists_isResult (proper : ProperName name) :
    ∃ p, a.IsResult p ∧ Down a.processedRoot p [processedFolder, name] := by
  obtain ⟨p, placed, components⟩ := resolve_result a.processedRoot proper
  have derived : destinationKey (processedFolder ++ "/" ++ name) (.rotate .deg0) =
      .ok (processedFolder ++ "/" ++ name) :=
    destinationKey_eq_ok_iff.mpr ⟨name, name, ⟨processedFolder, rfl, proper.no_slash⟩, proper,
      (namesResult_plain rfl).mpr rfl, rfl⟩
  exact ⟨p, ⟨_, _, _, derived, placed⟩, down_result proper components⟩

/-- Names that go down from `A` and the two names of a result below `B` meet if `B` lies below `A`
or is it, or if `A` is the folder of the results. -/
theorem exists_append_eq_iff {β : Type} (φ : String → β) (A B : List β) :
    (∃ names name, names ≠ [] ∧ (∀ n ∈ names, ProperName n) ∧ ProperName name ∧
        A ++ names.map φ = B ++ [φ processedFolder, φ name]) ↔
      (∃ names : List String, (∀ n ∈ names, ProperName n) ∧ B = A ++ names.map φ) ∨
        A = B ++ [φ processedFolder] := by
  constructor
  · rintro ⟨names, name, nonempty, proper, -, meet⟩
    rcases List.append_eq_append_iff.mp meet with ⟨between, rfl, same⟩ | ⟨between, rfl, same⟩
    · obtain ⟨upper, lower, rfl, rfl, -⟩ := List.map_eq_append_iff.mp same
      exact .inl ⟨upper, fun n mem => proper n (List.mem_append_left _ mem), rfl⟩
    · match between, same with
      | [], _ => exact .inl ⟨[], List.forall_mem_nil _, by simp⟩
      | [_], same => exact .inr (by rw [← (List.cons.inj same).1])
      | _ :: _ :: rest, same =>
        have none := (List.cons.inj (List.cons.inj same).2).2
        exact absurd (List.map_eq_nil_iff.mp (List.append_eq_nil_iff.mp none.symm).2) nonempty
  · rintro (⟨names, proper, rfl⟩ | rfl)
    · refine ⟨names ++ [processedFolder, processedFolder], processedFolder, ?_, ?_,
        processedFolder_proper, by simp⟩
      · exact List.append_ne_nil_of_right_ne_nil _ (List.cons_ne_nil _ _)
      · rw [List.forall_mem_append, List.forall_mem_cons, List.forall_mem_singleton]
        exact ⟨proper, processedFolder_proper, processedFolder_proper⟩
    · refine ⟨[processedFolder], processedFolder, List.cons_ne_nil _ _, ?_,
        processedFolder_proper, by simp⟩
      rw [List.forall_mem_singleton]
      exact processedFolder_proper

/-- Some source and some result have one `location`, which goes down name by name, if and only if
those of the directories are so. -/
theorem exists_shared_iff {β : Type} {φ : String → β} {location : Path → List β}
    (down : ∀ {root p names}, Down root p names → location p = location root ++ names.map φ)
    (a : StagingArea) :
    (∃ p₁ p₂, a.IsSource p₁ ∧ a.IsResult p₂ ∧ location p₁ = location p₂) ↔
      (∃ names : List String, (∀ n ∈ names, ProperName n) ∧
        location a.processedRoot = location a.rawRoot ++ names.map φ) ∨
        location a.rawRoot = location a.processedRoot ++ [φ processedFolder] := by
  rw [← exists_append_eq_iff]
  constructor
  · rintro ⟨p₁, p₂, source, result, same⟩
    obtain ⟨names, way⟩ := source.exists_down
    obtain ⟨name, proper, way'⟩ := result.exists_down
    rw [down way, down way'] at same
    exact ⟨names, name, way.nonempty, way.proper, proper, same⟩
  · rintro ⟨names, name, nonempty, proper, proper', same⟩
    obtain ⟨p₁, source, way⟩ := exists_isSource (a := a) nonempty proper
    obtain ⟨p₂, result, way'⟩ := exists_isResult (a := a) proper'
    refine ⟨p₁, p₂, source, result, ?_⟩
    rw [down way, down way']
    exact same

end StagingArea

namespace FileTree

variable {t t' : FileTree} {p p' : Path} {place : Place} {content b : Bytes}

theorem properName_of_mem_goal {names : List String} {here : Place}
    (proper : ∀ name ∈ names, name = ".." ∨ ProperName name)
    (above : ∀ name ∈ here, ProperName name) : ∀ name ∈ goal here names, ProperName name := by
  induction names generalizing here with
  | nil => exact above
  | cons first names ih =>
    rw [List.forall_mem_cons] at proper
    refine ih proper.2 ?_
    rcases proper.1 with rfl | named
    · exact fun name mem => above name (List.dropLast_subset _ mem)
    · rw [lead_name named.ne_dot named.ne_dots, List.forall_mem_append, List.forall_mem_singleton]
      exact ⟨above, named⟩

/-- A path leads down proper names only. -/
theorem properName_of_mem_place : ∀ name ∈ p.place, ProperName name := by
  refine properName_of_mem_goal (fun name mem => ?_) (List.forall_mem_nil _)
  rw [route_eq] at mem
  obtain ⟨c, among, moves⟩ := List.mem_filterMap.mp mem
  cases c with
  | root | current => cases moves
  | parent => exact .inl (Option.some.inj moves).symm
  | normal n =>
    obtain rfl := Option.some.inj moves
    exact .inr ((Path.canonical_components p).proper n among)

theorem place_of_locate (located : t.locate p = .ok (.named place)) : place = p.place :=
  place_eq_goal located

/-- Files of different places spare each other. -/
theorem spares_of_place_ne (apart : p.place ≠ p'.place) : p.Spares p' := by
  rintro t content ⟨place, located, stands⟩
  obtain rfl := place_of_locate located
  constructor
  · intro b
    have saved := saveFile_mayWrite t p (List.prefix_refl b)
    refine ⟨_, locate_of_keeps saved.keepsDirectories located, saved.file_elsewhere stands ?_⟩
    exact fun written => apart (place_of_locate written).symm
  · intro t' removed
    obtain ⟨place, located', has, rfl⟩ := removeFile_eq removed
    obtain rfl := place_of_locate located'
    have other : t.get? p.place ≠ some .directory := by
      obtain ⟨_, file⟩ := has
      simp [file]
    have below := locate_ne_nil located'
    refine ⟨_, locate_of_keeps (.erase other below) located, ?_⟩
    rw [get?_erase t below, if_neg (Ne.symm apart), stands]

/-- Files of one place displace each other. -/
theorem displaces_of_place_eq (same : p.place = p'.place) : p.Displaces p' := by
  rintro t content ⟨place, located, _⟩
  obtain rfl := place_of_locate located
  constructor
  · intro b t' saved
    obtain ⟨place', located', stands⟩ := holds_of_saveFile saved
    obtain rfl := place_of_locate located'
    have written := saveFile_mayWrite t p (List.prefix_refl b)
    rw [saved] at written
    exact ⟨_, locate_of_keeps written.keepsDirectories located, same ▸ stands⟩
  · rintro t' removed left ⟨place, located, stands⟩
    obtain rfl := place_of_locate located
    obtain ⟨place', located', _, rfl⟩ := removeFile_eq removed
    obtain rfl := place_of_locate located'
    rw [get?_erase t (locate_ne_nil located'), if_pos same.symm] at stands
    cases stands

end FileTree

namespace WorkerSettings

variable {s : WorkerSettings}

def staging (s : WorkerSettings) : StagingArea := ⟨s.rawDir, s.processedDir⟩

/-- The directory of the results lies below the other one, or the other one is the folder in which
they are kept. -/
def Nested (s : WorkerSettings) : Prop :=
  s.processedDir.Below s.rawDir ∨
    s.rawDir.components = s.processedDir.components ++ [.normal processedFolder]

/-- The same of the places to which the directories lead, which may also be one. -/
def Overlapping (s : WorkerSettings) : Prop :=
  s.rawDir.place <+: s.processedDir.place ∨
    s.rawDir.place = s.processedDir.place ++ [processedFolder]

instance (s : WorkerSettings) : Decidable s.Overlapping := inferInstanceAs (Decidable (_ ∨ _))

theorem validate_eq_ok_iff :
    s.validate = .ok () ↔ s.rawDir.components ≠ s.processedDir.components := by
  unfold validate
  split
  next same => simp_all [Path.same]
  next distinct => simpa [Path.same] using distinct

theorem exists_shared_path_iff (accepted : s.validate = .ok ()) :
    (∃ p₁ p₂, s.staging.IsSource p₁ ∧ s.staging.IsResult p₂ ∧ p₁.components = p₂.components) ↔
      s.Nested := by
  rw [StagingArea.exists_shared_iff Down.components_eq, Nested, Path.Below]
  refine or_congr_left ⟨?_, ?_⟩
  · rintro ⟨names, proper, below⟩
    refine ⟨names, ?_, proper, below⟩
    rintro rfl
    exact validate_eq_ok_iff.mp accepted (by simpa [staging] using below.symm)
  · rintro ⟨names, _, proper, below⟩
    exact ⟨names, proper, below⟩

theorem exists_shared_place_iff :
    (∃ p₁ p₂, s.staging.IsSource p₁ ∧ s.staging.IsResult p₂ ∧ p₁.place = p₂.place) ↔
      s.Overlapping := by
  have down {root p : Path} {names : List String} (way : Down root p names) :
      p.place = root.place ++ names.map id := by
    rw [List.map_id]
    exact way.goal_eq
  rw [StagingArea.exists_shared_iff down, Overlapping]
  refine or_congr_left ⟨?_, ?_⟩
  · rintro ⟨names, _, below⟩
    exact ⟨names, by rw [List.map_id] at below; exact below.symm⟩
  · rintro ⟨names, below⟩
    have proper : ∀ name ∈ s.processedDir.place, ProperName name := properName_of_mem_place
    rw [← below, List.forall_mem_append] at proper
    exact ⟨names, proper.2, by rw [List.map_id]; exact below.symm⟩

/-- When a source and a result have one path, when they have one place, and what follows. -/
theorem staged_files_meet_iff (accepted : s.validate = .ok ()) :
    ((∃ p₁ p₂, s.staging.IsSource p₁ ∧ s.staging.IsResult p₂ ∧ p₁.components = p₂.components) ↔
      s.Nested) ∧
    ((∃ p₁ p₂, s.staging.IsSource p₁ ∧ s.staging.IsResult p₂ ∧ p₁.place = p₂.place) ↔
      s.Overlapping) ∧
    (¬ s.Overlapping → ∀ p₁ p₂, s.staging.IsSource p₁ → s.staging.IsResult p₂ →
      p₁.Spares p₂ ∧ p₂.Spares p₁) ∧
    ∀ p₁ p₂ : Path, p₁.place = p₂.place → p₁.Displaces p₂ ∧ p₂.Displaces p₁ := by
  refine ⟨exists_shared_path_iff accepted, exists_shared_place_iff, ?_, ?_⟩
  · intro clear p₁ p₂ source result
    have apart : p₁.place ≠ p₂.place := fun same =>
      clear (exists_shared_place_iff.mp ⟨p₁, p₂, source, result, same⟩)
    exact ⟨spares_of_place_ne apart, spares_of_place_ne apart.symm⟩
  · exact fun p₁ p₂ same => ⟨displaces_of_place_eq same, displaces_of_place_eq same.symm⟩

theorem staged_files_meet_iff_of_defaults :
    defaults.validate = .ok () ∧ ¬ defaults.Overlapping ∧
      ∀ p₁ p₂, defaults.staging.IsSource p₁ → defaults.staging.IsResult p₂ →
        p₁.Spares p₂ ∧ p₂.Spares p₁ := by
  have accepted : defaults.validate = .ok () := rfl
  have clear : ¬ defaults.Overlapping := by decide +kernel
  exact ⟨accepted, clear, (staged_files_meet_iff accepted).2.2.1 clear⟩

/-- Two spellings of one directory are accepted. -/
example : let s := { defaults with rawDir := ⟨"images/raw"⟩, processedDir := ⟨"./images/raw"⟩ }
    s.validate = .ok () ∧ s.Overlapping := by
  decide +kernel

/-- The directory of the results is one below the sources. -/
def nestedSettings : WorkerSettings :=
  { defaults with rawDir := ⟨"stage"⟩, processedDir := ⟨"stage/out"⟩ }

/-- Accepted settings under which a source is staged where its own result is. -/
theorem accepted_settings_meet :
    ¬ ∀ s : WorkerSettings, s.validate = .ok () → ∀ k₁ p₁ k₂ t d p₂,
        s.staging.rawPath k₁ = .ok p₁ → destinationKey k₂ t = .ok d →
        s.staging.processedPath d = .ok p₂ → p₁.components ≠ p₂.components := by
  intro apart
  have source : nestedSettings.staging.rawPath "out/processed/a.png" =
      .ok ⟨"stage/out/processed/a.png"⟩ := rfl
  have derived : destinationKey "out/processed/a.png" (.rotate .deg90) = .ok "processed/a.png" :=
    rfl
  have result : nestedSettings.staging.processedPath "processed/a.png" =
      .ok ⟨"stage/out/processed/a.png"⟩ := rfl
  exact apart nestedSettings rfl _ _ _ _ _ _ source derived result rfl

end WorkerSettings

end ImageWorker
