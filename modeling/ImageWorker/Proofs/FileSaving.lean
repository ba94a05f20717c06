import ImageWorker.Proofs.DirectoryWays

/-!
# When a file can be saved

Saving a file makes the directories on its way and writes it at the end of the way. In a tree that
has the directories of one in which this succeeds, it succeeds as well, just if no file stands on
the way and no directory at its end.
-/

namespace ImageWorker

namespace FileTree

variable {t s t' : FileTree} {p above : Path} {content : Bytes} {q : Place}

/-- A path leads to a file with the given content. -/
def Holds (t : FileTree) (p : Path) (content : Bytes) : Prop :=
  ∃ place, t.locate p = .ok (.named place) ∧ t.get? place = some (.file content)

/-- Where no file stands, a directory can be made, or is there, or one above it is missing. -/
theorem makeDirectory_or_missing (fits : Fits p)
    (free : ∀ r ∈ visited [] (steps p), ¬ t.HasFile r) :
    (∃ t', t.makeDirectory p = .ok t') ∨
      t.makeDirectory p = .error .fileExists ∧ t.isDirectory p = true ∨
      t.makeDirectory p = .error .missing ∧
        ¬ ∀ r ∈ visited [] (steps p).dropLast, t.get? r = some .directory := by
  rw [isDirectory_iff]
  have accepted := fits.accepted
  have short := fits.short
  rcases List.eq_nil_or_concat (steps p) with none | ⟨front, last, split⟩
  · have located : t.locate p = .ok .dots := by simp [locate, accepted, none]
    refine .inr (.inl ⟨by rw [makeDirectory, located], fits, ?_⟩)
    simpa [none, visited] using standing_nil.directory
  · rw [List.concat_eq_append] at split
    rw [split, List.forall_mem_append, List.forall_mem_singleton] at short
    have frontFree : ∀ r ∈ visited [] front, ¬ t.HasFile r := by
      intro r mem
      rw [split] at free
      exact free r ((mem_visited_concat last).mpr (.inl mem))
    rcases walk_or_missing standing_nil short.1 frontFree with missing | ⟨walked, stands⟩
    · have located : t.locate p = .error .missing := by simp [locate, accepted, split, missing]
      refine .inr (.inr ⟨by rw [makeDirectory, located], fun directories => ?_⟩)
      rw [split, List.dropLast_concat] at directories
      rw [walk_of_directories short.1 directories] at missing
      cases missing
    · have directories := (walk_eq_ok walked stands.directory).2.1
      by_cases dots : last = "." ∨ last = ".."
      · have located : t.locate p = .ok .dots := by
          simp [locate, accepted, split, walked, stands.directory, dots]
        refine .inr (.inl ⟨by rw [makeDirectory, located], fits, fun r mem => ?_⟩)
        rw [split, mem_visited_concat, goal_concat] at mem
        rcases mem with mem | rfl
        · exact directories r mem
        · rcases dots with rfl | rfl
          · exact stands.directory
          · exact stands.dropLast.directory
      · rw [not_or] at dots
        have located := locate_of_directories fits split dots.1 dots.2 directories
        have ends : goal [] (steps p) ∈ visited [] (steps p) := goal_mem_visited
        cases at_goal : t.get? (goal [] (steps p)) with
        | none =>
          have made : t.makeDirectory p = .ok (t.set (goal [] (steps p)) .directory) := by
            simp [makeDirectory, located, at_goal]
          exact .inl ⟨_, made⟩
        | some e =>
          cases e with
          | file content => exact absurd ⟨content, at_goal⟩ (free _ ends)
          | directory =>
            refine .inr (.inl ⟨by simp [makeDirectory, located, at_goal], fits, fun r mem => ?_⟩)
            rw [split, mem_visited_concat, ← split] at mem
            rcases mem with mem | rfl
            · exact directories r mem
            · exact at_goal

/-- A directory that is made is there, and only places on its way have changed. -/
theorem makeDirectory_leaves (made : t.makeDirectory p = .ok t') :
    t'.isDirectory p = true ∧ ∀ q ∉ visited [] (steps p), t'.get? q = t.get? q := by
  obtain ⟨place, located, _, rfl⟩ := makeDirectory_eq made
  have below := locate_ne_nil located
  have keeps := (makeDirectory_extends made).keepsDirectories
  obtain ⟨fits, front, last, split, _, _, rfl, directories⟩ := locate_eq_named located
  constructor
  · refine isDirectory_iff.mpr ⟨fits, fun r mem => ?_⟩
    rw [split, mem_visited_concat, ← split] at mem
    rcases mem with mem | rfl
    · exact keeps r (directories r mem)
    · rw [get?_set t below, if_pos rfl]
  · intro q outside
    have distinct : q ≠ goal [] (steps p) := by
      rintro rfl
      exact outside goal_mem_visited
    rw [get?_set t below, if_neg distinct]

theorem mem_visited_parent (parent : p.parent? = some above) :
    q ∈ visited [] (steps above) ↔ q ∈ visited [] (route p).dropLast := by
  rw [mem_visited_steps, route_parent parent]

theorem visited_parent_subset (parent : p.parent? = some above)
    (mem : q ∈ visited [] (steps above)) : q ∈ visited [] (steps p) := by
  have shorter := (mem_visited_parent parent).mp mem
  exact mem_visited_steps.mpr (visited_dropLast_subset shorter)

theorem makeDirectoriesWithin_elsewhere (fuel : Nat) (t : FileTree) (p : Path)
    (outside : q ∉ visited [] (steps p)) :
    (makeDirectoriesWithin fuel t p).2.get? q = t.get? q := by
  induction fuel generalizing t p with
  | zero => rfl
  | succ fuel ih =>
    unfold makeDirectoriesWithin
    split
    · rfl
    · split
      next made => exact (makeDirectory_leaves made).2 q outside
      next =>
        split
        · split
          · rfl
          next above parent =>
            have outside' : q ∉ visited [] (steps above) :=
              fun mem => outside (visited_parent_subset parent mem)
            have untouched := ih t above outside'
            split
            next eq => rwa [eq] at untouched
            next t' eq =>
              rw [eq] at untouched
              split
              next made => rw [(makeDirectory_leaves made).2 q outside, untouched]
              next => split <;> exact untouched
        · split <;> rfl

/-- The ways in which directories come to be there. -/
theorem makeDirectoriesWithin_eq_ok {fuel : Nat}
    (made : makeDirectoriesWithin (fuel + 1) t p = (.ok (), t')) :
    p.text = "" ∨ t.makeDirectory p = .ok t' ∨ t' = t ∧ t.isDirectory p = true ∨
      ∃ above t₁, p.parent? = some above ∧ makeDirectoriesWithin fuel t above = (.ok (), t₁) ∧
        (t₁.makeDirectory p = .ok t' ∨ t' = t₁ ∧ t₁.isDirectory p = true) := by
  unfold makeDirectoriesWithin at made
  split at made
  next blank => exact .inl blank
  next =>
    right
    split at made
    next one =>
      cases made
      exact .inl one
    next =>
      right
      split at made
      · split at made
        · cases made
        next above parent =>
          split at made
          · cases made
          next t₁ eq =>
            refine .inr ⟨above, t₁, parent, eq, ?_⟩
            split at made
            next one =>
              cases made
              exact .inl one
            next =>
              split at made
              next stands =>
                cases made
                exact .inr ⟨rfl, stands⟩
              next => cases made
      · split at made
        next stands =>
          cases made
          exact .inl ⟨rfl, stands⟩
        next => cases made

theorem isDirectory_of_makeDirectoriesWithin {fuel : Nat}
    (made : makeDirectoriesWithin fuel t p = (.ok (), t')) :
    p.text = "" ∨ t'.isDirectory p = true := by
  cases fuel with
  | zero => cases made
  | succ fuel =>
    rcases makeDirectoriesWithin_eq_ok made with
      blank | one | ⟨rfl, stands⟩ | ⟨_, t₁, _, _, one | ⟨rfl, stands⟩⟩
    · exact .inl blank
    · exact .inr (makeDirectory_leaves one).1
    · exact .inr stands
    · exact .inr (makeDirectory_leaves one).1
    · exact .inr stands

theorem directories_of_makeDirectoriesWithin {fuel : Nat}
    (made : makeDirectoriesWithin fuel t p = (.ok (), t')) :
    ∀ r ∈ visited [] (steps p), t'.get? r = some .directory := by
  rcases isDirectory_of_makeDirectoriesWithin made with blank | stands
  · have none : steps p = [] := by
      obtain ⟨text⟩ := p
      obtain rfl : text = "" := blank
      rfl
    simpa [none, visited] using standing_nil.directory
  · exact (isDirectory_iff.mp stands).2

/-- A path that is put together from its components, without a dot in the middle. -/
def PutTogether (p : Path) : Prop := ∃ cs, Path.Canonical cs ∧ p = Path.ofComponents cs

/-- The path above one that is put together leads the same way but for the last name. -/
theorem PutTogether.parent (together : PutTogether p) (parent : p.parent? = some above) :
    PutTogether above ∧ steps above = (steps p).dropLast := by
  obtain ⟨cs, canonical, rfl⟩ := together
  rw [Path.parent?, Path.components_ofComponents canonical] at parent
  split at parent
  · cases parent
  · cases parent
  next last below ends =>
    obtain rfl := Option.some.inj parent
    obtain ⟨front, rfl⟩ := List.getLast?_eq_some_iff.mp ends
    refine ⟨⟨_, canonical.dropLast, rfl⟩, ?_⟩
    have ne_root : last ≠ .root := by
      rintro rfl
      exact below rfl
    have kept : [last].filter (· ≠ .root) = [last] := by simp [ne_root]
    rw [steps_ofComponents canonical, steps_ofComponents canonical.dropLast,
      List.dropLast_concat, List.filter_append, kept, List.map_append, List.map_singleton,
      List.dropLast_concat]

/-- Directories that can be made in one tree can be made in another that has its directories,
unless a file stands on the way. -/
theorem makeDirectoriesWithin_transfers (fuel : Nat) (together : PutTogether p)
    (keeps : t.KeepsDirectories s) (made : makeDirectoriesWithin fuel t p = (.ok (), t'))
    (free : ∀ r ∈ visited [] (steps p), ¬ s.HasFile r) :
    (makeDirectoriesWithin fuel s p).1 = .ok () := by
  induction fuel generalizing t t' s p with
  | zero => cases made
  | succ fuel ih =>
    unfold makeDirectoriesWithin
    split
    · rfl
    next named =>
      have stands := (isDirectory_of_makeDirectoriesWithin made).resolve_left named
      have fits := (isDirectory_iff.mp stands).1
      rcases makeDirectory_or_missing fits free with
        ⟨s', one⟩ | ⟨exists_, there⟩ | ⟨missing, gap⟩
      · rw [one]
      · have other : IoError.fileExists.kind ≠ .notFound := by decide
        simp only [exists_, if_neg other, there, if_true]
      · have notFound : IoError.missing.kind = .notFound := by decide
        simp only [missing, if_pos notFound]
        -- What is missing here is missing there, too, so it is made there from above.
        rcases makeDirectoriesWithin_eq_ok made with
          blank | one | ⟨rfl, stands'⟩ | ⟨above, t₁, parent, made', _⟩
        · exact absurd blank named
        · obtain ⟨place, located, _⟩ := makeDirectory_eq one
          obtain ⟨_, front, last, split, _, _, _, directories⟩ := locate_eq_named located
          rw [split, List.dropLast_concat] at gap
          exact absurd (fun r mem => keeps r (directories r mem)) gap
        · have directories := (isDirectory_iff.mp stands').2
          exact absurd (fun r mem => keeps r (directories r (visited_dropLast_subset mem))) gap
        · obtain ⟨together', shorter⟩ := together.parent parent
          have free' : ∀ r ∈ visited [] (steps above), ¬ s.HasFile r :=
            fun r mem => free r (visited_parent_subset parent mem)
          have again := ih together' keeps made' free'
          have grown := makeDirectoriesWithin_extends fuel s above
          cases result : makeDirectoriesWithin fuel s above with
          | mk outcome s₁ =>
            rw [result] at again grown
            obtain rfl : outcome = .ok () := again
            have directories := directories_of_makeDirectoriesWithin result
            rw [shorter] at directories
            simp only [parent, result]
            have free' := fun r mem has => free r mem (grown.hasFile has)
            rcases makeDirectory_or_missing fits free' with
              ⟨s', one⟩ | ⟨exists_, there⟩ | ⟨_, gap'⟩
            · rw [one]
            · simp only [exists_, there, if_true]
            · exact absurd directories gap'

/-- Only below another path a file can be written. -/
theorem exists_parent_of_locate {place : Place} (located : t.locate p = .ok (.named place)) :
    ∃ above, p.parent? = some above := by
  obtain ⟨_, front, last, split, ne_dot, _, _, _⟩ := locate_eq_named located
  have leads : route p ≠ [] := by
    rw [route, split, List.filter_append, List.filter_cons_of_pos (by simpa using ne_dot)]
    simp
  rw [route_eq] at leads
  unfold Path.parent?
  split
  next none =>
    rw [List.getLast?_eq_none_iff.mp none] at leads
    exact absurd rfl leads
  next top =>
    obtain ⟨upper, parts⟩ := List.getLast?_eq_some_iff.mp top
    have canonical := Path.canonical_components p
    cases upper with
    | nil =>
      rw [parts] at leads
      exact absurd rfl leads
    | cons first upper =>
      rw [parts] at canonical
      have inside : Component.root ∈ (first :: upper ++ [Component.root]).tail :=
        List.mem_append_right upper (List.mem_singleton_self _)
      exact absurd rfl (canonical.inner _ inside).1
  next => exact ⟨_, rfl⟩

theorem putTogether_of_parent (parent : p.parent? = some above) : PutTogether above := by
  unfold Path.parent? at parent
  split at parent
  · cases parent
  · cases parent
  · exact ⟨_, (Path.canonical_components p).dropLast, (Option.some.inj parent).symm⟩

theorem saveFile_eq_ok (saved : t.saveFile p content = (.ok (), t')) :
    ∃ above made, p.parent? = some above ∧ t.makeDirectories above = (.ok (), made) ∧
      made.writeFile p content = .ok t' := by
  unfold saveFile at saved
  split at saved
  next result made eq =>
    split at saved
    · cases saved
    · split at saved
      next t'' written =>
        cases saved
        obtain ⟨_, located, _⟩ := writeFile_eq_ok_iff.mp written
        obtain ⟨above, parent⟩ := exists_parent_of_locate located
        rw [parent] at eq
        exact ⟨above, made, parent, eq, written⟩
      next => cases saved

/-- What stands where after a file is saved. -/
theorem saveFile_leaves (saved : t.saveFile p content = (.ok (), t')) (q : Place) :
    t'.get? q =
      if q = goal [] (route p) then some (.file content)
      else if q ∈ visited [] (route p).dropLast then some .directory
      else t.get? q := by
  obtain ⟨above, made, parent, makes, written⟩ := saveFile_eq_ok saved
  obtain ⟨place, located, _, _, rfl⟩ := writeFile_eq_ok_iff.mp written
  have leads := place_eq_goal located
  rw [get?_set made (locate_ne_nil located), leads]
  split
  next => rfl
  next =>
    split
    next mem =>
      exact directories_of_makeDirectoriesWithin makes q ((mem_visited_parent parent).mpr mem)
    next outside =>
      have untouched := makeDirectoriesWithin_elsewhere (above.components.length + 1) t above
        (mt (mem_visited_parent parent).mp outside)
      rwa [← makeDirectories, makes] at untouched

/-- The end of a way on which a file could be saved is not on the way before. -/
theorem goal_not_mem_way (saved : t.saveFile p content = (.ok (), t')) :
    goal [] (route p) ∉ visited [] (route p).dropLast := by
  obtain ⟨above, made, parent, makes, written⟩ := saveFile_eq_ok saved
  obtain ⟨place, located, _, vacant, _⟩ := writeFile_eq_ok_iff.mp written
  have leads := place_eq_goal located
  intro mem
  have directory :=
    directories_of_makeDirectoriesWithin makes _ ((mem_visited_parent parent).mpr mem)
  exact vacant (leads ▸ directory)

theorem holds_of_saveFile (saved : t.saveFile p content = (.ok (), t')) : t'.Holds p content := by
  obtain ⟨_, made, _, _, written⟩ := saveFile_eq_ok saved
  obtain ⟨place, located, _, other, rfl⟩ := writeFile_eq_ok_iff.mp written
  have below := locate_ne_nil located
  refine ⟨place, locate_of_keeps (.set other below _) located, ?_⟩
  rw [get?_set made below, if_pos rfl]

/-- Nothing stands in the way of a path: no file above it, and no directory at its end. -/
def Free (t : FileTree) (p : Path) : Prop :=
  (∀ r ∈ visited [] (route p).dropLast, ¬ t.HasFile r) ∧
    t.get? (goal [] (route p)) ≠ some .directory

theorem free_of_saveFile (saved : t.saveFile p content = (.ok (), t')) : t.Free p := by
  obtain ⟨above, made, parent, makes, written⟩ := saveFile_eq_ok saved
  obtain ⟨place, located, _, other, rfl⟩ := writeFile_eq_ok_iff.mp written
  have grown : t.Extends made := by
    have extends_ := makeDirectoriesWithin_extends (above.components.length + 1) t above
    rwa [← makeDirectories, makes] at extends_
  have leads := place_eq_goal located
  constructor
  · rintro r mem ⟨stale, stands⟩
    have directory :=
      directories_of_makeDirectoriesWithin makes r ((mem_visited_parent parent).mpr mem)
    rcases grown r with same | ⟨vacant, _⟩
    · rw [same, stands] at directory
      cases directory
    · rw [stands] at vacant
      cases vacant
  · intro stands
    exact other (leads ▸ grown.keepsDirectories _ stands)

/-- A file that can be saved in one tree can be saved in any that has its directories, just if
nothing stands in the way there. -/
theorem saveFile_transfers (saved : t.saveFile p content = (.ok (), t'))
    (keeps : t.KeepsDirectories s) (other : Bytes) :
    (s.saveFile p other).1 = .ok () ↔ s.Free p := by
  constructor
  · intro success
    exact free_of_saveFile (Prod.ext success rfl : s.saveFile p other = (.ok (), _))
  · rintro ⟨free, vacant⟩
    obtain ⟨above, made, parent, makes, written⟩ := saveFile_eq_ok saved
    obtain ⟨place, located, named, _, _⟩ := writeFile_eq_ok_iff.mp written
    obtain ⟨fits, front, last, split, ne_dot, ne_dots, _, _⟩ := locate_eq_named located
    have can := makeDirectoriesWithin_transfers (above.components.length + 1)
      (putTogether_of_parent parent) keeps makes
      fun r mem => free r ((mem_visited_parent parent).mp mem)
    rw [← makeDirectories] at can
    cases result : s.makeDirectories above with
    | mk outcome s₁ =>
      rw [result] at can
      obtain rfl : outcome = .ok () := can
      have directories : ∀ r ∈ visited [] front, s₁.get? r = some .directory := by
        intro r mem
        refine directories_of_makeDirectoriesWithin result r ((mem_visited_parent parent).mpr ?_)
        rw [route, split, List.filter_append, List.filter_cons_of_pos (by simpa using ne_dot),
          List.filter_nil, List.dropLast_concat]
        exact mem_visited_filter.mpr mem
      have located' := locate_of_directories fits split ne_dot ne_dots directories
      rw [← goal_filter, ← route] at located'
      have ends : goal [] (route p) ∉ visited [] (steps above) :=
        mt (mem_visited_parent parent).mp (goal_not_mem_way saved)
      have untouched := makeDirectoriesWithin_elsewhere (above.components.length + 1) s above ends
      rw [← makeDirectories, result] at untouched
      have saves : s₁.writeFile p other = .ok (s₁.set (goal [] (route p)) (.file other)) :=
        writeFile_eq_ok_iff.mpr ⟨_, located', named, untouched ▸ vacant, rfl⟩
      simp [saveFile, parent, result, saves]

end FileTree

end ImageWorker
