import ImageWorker.Proofs.FileTreeChanges
import ImageWorker.Proofs.PathComponents

/-!
# The places on the way of a path

A path leads from the top of the tree through places, name by name. Directories are made at the
places on the way and nowhere else, and that they can be made depends only on the text of the path
and on no file standing there. So a file that can be saved in one tree can be saved in any other
that has its directories, unless a file stands above it or a directory in its place.
-/

namespace ImageWorker

def lead (here : Place) (name : String) : Place :=
  if name = "." then here else if name = ".." then here.dropLast else here ++ [name]

def goal (here : Place) (names : List String) : Place := names.foldl lead here

/-- The places that names lead through, both ends included. -/
def visited : Place → List String → List Place
  | here, [] => [here]
  | here, name :: names => here :: visited (lead here name) names

variable {here q : Place} {names : List String}

theorem lead_dot : lead here "." = here := rfl

theorem lead_dots : lead here ".." = here.dropLast := rfl

theorem lead_name {name : String} (ne_dot : name ≠ ".") (ne_dots : name ≠ "..") :
    lead here name = here ++ [name] := by
  rw [lead, if_neg ne_dot, if_neg ne_dots]

theorem start_mem_visited : here ∈ visited here names := by
  cases names <;> exact List.mem_cons_self

theorem mem_visited_append (first second : List String) :
    q ∈ visited here (first ++ second) ↔
      q ∈ visited here first ∨ q ∈ visited (goal here first) second := by
  induction first generalizing here with
  | nil =>
    simp only [List.nil_append, visited, List.mem_singleton, goal, List.foldl_nil]
    constructor
    · exact .inr
    · rintro (rfl | mem)
      · exact start_mem_visited
      · exact mem
  | cons name first ih =>
    rw [List.cons_append, visited, visited, List.mem_cons, List.mem_cons, ih, or_assoc]
    rfl

theorem goal_concat (name : String) :
    goal here (names ++ [name]) = lead (goal here names) name := by
  rw [goal, List.foldl_append]
  rfl

theorem goal_mem_visited : goal here names ∈ visited here names := by
  induction names generalizing here with
  | nil => exact List.mem_singleton_self _
  | cons name names ih => exact List.mem_cons_of_mem _ ih

theorem mem_visited_concat (name : String) :
    q ∈ visited here (names ++ [name]) ↔
      q ∈ visited here names ∨ q = goal here (names ++ [name]) := by
  have last : q ∈ visited (goal here names) [name] ↔
      q = goal here names ∨ q = lead (goal here names) name := by
    simp [visited]
  rw [mem_visited_append, last, goal_concat]
  constructor
  · rintro (mem | rfl | same)
    · exact .inl mem
    · exact .inl goal_mem_visited
    · exact .inr same
  · rintro (mem | same)
    · exact .inl mem
    · exact .inr (.inr same)

theorem visited_dropLast_subset (mem : q ∈ visited here names.dropLast) :
    q ∈ visited here names := by
  rcases List.eq_nil_or_concat names with rfl | ⟨front, last, rfl⟩
  · exact mem
  · rw [List.concat_eq_append] at mem ⊢
    rw [List.dropLast_concat] at mem
    exact (mem_visited_concat last).mpr (.inl mem)

/-- A dot leads nowhere. -/
theorem mem_visited_filter :
    q ∈ visited here (names.filter (· ≠ ".")) ↔ q ∈ visited here names := by
  induction names generalizing here with
  | nil => rfl
  | cons name names ih =>
    by_cases dot : name = "."
    · rw [List.filter_cons_of_neg (by simpa using dot), ih, visited, dot, lead_dot, List.mem_cons]
      constructor
      · exact .inr
      · rintro (rfl | mem)
        · exact start_mem_visited
        · exact mem
    · rw [List.filter_cons_of_pos (by simpa using dot), visited, visited, List.mem_cons,
        List.mem_cons, ih]

theorem goal_filter : goal here (names.filter (· ≠ ".")) = goal here names := by
  induction names generalizing here with
  | nil => rfl
  | cons name names ih =>
    by_cases dot : name = "."
    · rw [List.filter_cons_of_neg (by simpa using dot), ih, goal, goal, List.foldl_cons, dot,
        lead_dot]
    · rw [List.filter_cons_of_pos (by simpa using dot), goal, List.foldl_cons, ← goal, ih]
      rfl

/-- Proper names lead down one by one. -/
theorem goal_of_proper (proper : ∀ name ∈ names, ProperName name) :
    goal here names = here ++ names := by
  induction names generalizing here with
  | nil => exact (List.append_nil here).symm
  | cons name names ih =>
    rw [List.forall_mem_cons] at proper
    rw [goal, List.foldl_cons, ← goal, ih proper.2, lead_name proper.1.ne_dot proper.1.ne_dots,
      List.append_assoc]
    rfl

theorem mem_visited_of_proper (proper : ∀ name ∈ names, ProperName name) :
    q ∈ visited here names ↔ ∃ upper, upper <+: names ∧ q = here ++ upper := by
  induction names generalizing here with
  | nil => simp [visited]
  | cons name names ih =>
    rw [List.forall_mem_cons] at proper
    rw [visited, List.mem_cons, ih proper.2, lead_name proper.1.ne_dot proper.1.ne_dots]
    constructor
    · rintro (rfl | ⟨upper, above, rfl⟩)
      · exact ⟨[], List.nil_prefix, (List.append_nil _).symm⟩
      · refine ⟨name :: upper, List.cons_prefix_cons.mpr ⟨rfl, above⟩, ?_⟩
        rw [List.append_assoc]
        rfl
    · rintro ⟨upper, above, rfl⟩
      cases upper with
      | nil => exact .inl (List.append_nil _)
      | cons first upper =>
        obtain ⟨rfl, below⟩ := List.cons_prefix_cons.mp above
        refine .inr ⟨upper, below, ?_⟩
        rw [List.append_assoc]
        rfl

namespace Component

/-- The name that leads the way of a component. -/
def move? : Component → Option String
  | root | current => none
  | parent => some ".."
  | normal name => some name

end Component

namespace FileTree

/-- The names of a path without its dots. -/
def route (p : Path) : List String := (steps p).filter (· ≠ ".")

theorem mem_visited_steps {p : Path} : q ∈ visited here (steps p) ↔ q ∈ visited here (route p) :=
  mem_visited_filter.symm

theorem route_eq (p : Path) : route p = p.components.filterMap Component.move? := by
  have inner (parts : List String) :
      (parts.filter (· ≠ "")).filter (· ≠ ".") =
        (Path.innerComponents parts).filterMap Component.move? := by
    induction parts with
    | nil => rfl
    | cons part parts ih =>
      rw [Path.innerComponents] at ih ⊢
      by_cases blank : part = ""
      · simpa [blank, Path.innerComponent?] using ih
      · by_cases dot : part = "."
        · simpa [dot, Path.innerComponent?] using ih
        · by_cases dots : part = ".."
          · simpa [dots, Path.innerComponent?, Component.move?] using ih
          · simpa [blank, dot, dots, Path.innerComponent?, Component.move?] using ih
  obtain ⟨first, rest, parts⟩ := segments_eq_cons p.text
  rw [route, steps, inner, Path.components, parts]
  simp only
  split
  next blank =>
    split
    next alone =>
      rw [List.isEmpty_iff] at alone
      rw [alone, blank]
      rfl
    next =>
      have skipped : Path.innerComponents ("" :: rest) = Path.innerComponents rest := rfl
      have top : Component.move? .root = none := rfl
      rw [blank, skipped, List.filterMap_cons_none top]
  next =>
    split
    next dot =>
      have skipped : Path.innerComponents ("." :: rest) = Path.innerComponents rest := rfl
      have stays : Component.move? .current = none := rfl
      rw [dot, skipped, List.filterMap_cons_none stays]
    next => rfl

theorem route_parent {p parent : Path} (above : p.parent? = some parent) :
    route parent = (route p).dropLast := by
  have components := Path.components_parent above
  rw [route_eq, route_eq, components]
  rcases List.eq_nil_or_concat p.components with none | ⟨front, last, split⟩
  · rw [none]
    rfl
  · rw [List.concat_eq_append] at split
    rw [split, List.dropLast_concat, List.filterMap_append]
    -- The last component goes, and with it its name, if it has one.
    cases last with
    | parent => exact List.dropLast_concat.symm
    | normal name => exact List.dropLast_concat.symm
    | root =>
      rw [Path.parent?, split, List.getLast?_concat] at above
      cases above
    | current =>
      have canonical := Path.canonical_components p
      have alone : front = [] := by
        cases front with
        | nil => rfl
        | cons first front =>
          rw [split] at canonical
          have inside : Component.current ∈ (first :: front ++ [Component.current]).tail :=
            List.mem_append_right front (List.mem_singleton_self _)
          exact absurd rfl (canonical.inner _ inside).2
      rw [alone]
      rfl

/-- The way of a path that is put together ends one name before when its last component goes. -/
theorem steps_ofComponents {cs : List Component} (canonical : Path.Canonical cs) :
    steps (Path.ofComponents cs) = (cs.filter (· ≠ .root)).map Path.componentText := by
  by_cases none : cs = []
  · rw [none]
    rfl
  · by_cases top : cs = [.root]
    · rw [top]
      rfl
    · rw [steps, Path.segments_ofComponents canonical none top, List.filter_map]
      congr 1
      refine List.filter_congr fun c mem => ?_
      cases c with
      | normal name =>
        have named := (canonical.proper name mem).ne_empty
        simp [Path.componentText, named]
      | root | current | parent => rfl

variable {t s t' : FileTree} {p : Path} {name : String} {next : Place}

def Standing (t : FileTree) (q : Place) : Prop := ∀ r, r <+: q → t.get? r = some .directory

theorem Standing.directory (stands : t.Standing q) : t.get? q = some .directory :=
  stands q (List.prefix_refl q)

theorem standing_nil : t.Standing [] := by
  intro r above
  rw [List.prefix_nil.mp above, get?, if_pos rfl]

theorem Standing.dropLast (stands : t.Standing q) : t.Standing q.dropLast :=
  fun r above => stands r (above.trans (List.dropLast_prefix q))

theorem Standing.concat (stands : t.Standing q) (below : t.get? (q ++ [name]) = some .directory) :
    t.Standing (q ++ [name]) := by
  intro r above
  rcases List.prefix_concat_iff.mp above with rfl | above
  · exact below
  · exact stands r above

theorem step_eq_ok (stepped : t.step here name = .ok next) :
    t.get? here = some .directory ∧ name.utf8ByteSize ≤ maxNameLength ∧ next = lead here name := by
  have dot : ".".utf8ByteSize ≤ maxNameLength := by decide
  have dots : "..".utf8ByteSize ≤ maxNameLength := by decide
  unfold step at stepped
  split at stepped
  · cases stepped
  · cases stepped
  next top =>
    refine ⟨top, ?_⟩
    split at stepped
    next same =>
      rw [same, lead_dot]
      exact ⟨dot, (Except.ok.inj stepped).symm⟩
    next ne_dot =>
      split at stepped
      next same =>
        rw [same, lead_dots]
        exact ⟨dots, (Except.ok.inj stepped).symm⟩
      next ne_dots =>
        rw [lead_name ne_dot ne_dots]
        split at stepped
        · cases stepped
        next short =>
          split at stepped
          · cases stepped
          · exact ⟨Nat.le_of_not_lt short, (Except.ok.inj stepped).symm⟩

theorem step_of_directory (top : t.get? here = some .directory)
    (short : name.utf8ByteSize ≤ maxNameLength)
    (stands : t.get? (lead here name) = some .directory) :
    t.step here name = .ok (lead here name) := by
  unfold step
  rw [top]
  simp only
  split
  next dot => rw [dot, lead_dot]
  next ne_dot =>
    split
    next dots => rw [dots, lead_dots]
    next ne_dots =>
      rw [lead_name ne_dot ne_dots] at stands ⊢
      rw [if_neg (Nat.not_lt.mpr short), stands]

/-- Where no file stands, a name leads to a directory or is missing. -/
theorem step_or_missing (stands : t.Standing here) (short : name.utf8ByteSize ≤ maxNameLength)
    (free : ¬ t.HasFile (lead here name)) :
    t.step here name = .error .missing ∨
      t.step here name = .ok (lead here name) ∧ t.Standing (lead here name) := by
  unfold step
  rw [stands.directory]
  simp only
  split
  next dot =>
    rw [dot, lead_dot]
    exact .inr ⟨rfl, stands⟩
  next ne_dot =>
    split
    next dots =>
      rw [dots, lead_dots]
      exact .inr ⟨rfl, stands.dropLast⟩
    next ne_dots =>
      rw [lead_name ne_dot ne_dots] at free ⊢
      rw [if_neg (Nat.not_lt.mpr short)]
      cases below : t.get? (here ++ [name]) with
      | none => exact .inl rfl
      | some e =>
        cases e with
        | file content => exact absurd ⟨content, below⟩ free
        | directory => exact .inr ⟨rfl, stands.concat below⟩

theorem walk_eq_ok (walked : t.walk here names = .ok q) (stands : t.get? q = some .directory) :
    q = goal here names ∧ (∀ r ∈ visited here names, t.get? r = some .directory) ∧
      ∀ name ∈ names, name.utf8ByteSize ≤ maxNameLength := by
  induction names generalizing here with
  | nil =>
    obtain rfl := Except.ok.inj walked
    exact ⟨rfl, by simpa [visited] using stands, nofun⟩
  | cons name names ih =>
    rw [walk] at walked
    split at walked
    · cases walked
    next stepped =>
      obtain ⟨top, short, rfl⟩ := step_eq_ok stepped
      obtain ⟨leads, directories, shorts⟩ := ih walked
      exact ⟨leads, List.forall_mem_cons.mpr ⟨top, directories⟩,
        List.forall_mem_cons.mpr ⟨short, shorts⟩⟩

theorem walk_of_directories (short : ∀ name ∈ names, name.utf8ByteSize ≤ maxNameLength)
    (directories : ∀ r ∈ visited here names, t.get? r = some .directory) :
    t.walk here names = .ok (goal here names) := by
  induction names generalizing here with
  | nil => rfl
  | cons name names ih =>
    rw [List.forall_mem_cons] at short
    rw [visited, List.forall_mem_cons] at directories
    rw [walk, step_of_directory directories.1 short.1 (directories.2 _ start_mem_visited)]
    exact ih short.2 directories.2

theorem walk_or_missing (stands : t.Standing here)
    (short : ∀ name ∈ names, name.utf8ByteSize ≤ maxNameLength)
    (free : ∀ r ∈ visited here names, ¬ t.HasFile r) :
    t.walk here names = .error .missing ∨
      t.walk here names = .ok (goal here names) ∧ t.Standing (goal here names) := by
  induction names generalizing here with
  | nil => exact .inr ⟨rfl, stands⟩
  | cons name names ih =>
    rw [List.forall_mem_cons] at short
    rw [visited, List.forall_mem_cons] at free
    rw [walk]
    rcases step_or_missing stands short.1 (free.2 _ start_mem_visited) with
      missing | ⟨stepped, stands'⟩
    · rw [missing]
      exact .inl rfl
    · rw [stepped]
      exact ih stands' short.2 free.2

/-- The text of a path is one that can be followed. -/
structure Fits (p : Path) : Prop where
  accepted : refused? p = none
  short : ∀ name ∈ steps p, name.utf8ByteSize ≤ maxNameLength

theorem locate_eq_named {place : Place} (located : t.locate p = .ok (.named place)) :
    Fits p ∧ ∃ front last, steps p = front ++ [last] ∧ last ≠ "." ∧ last ≠ ".." ∧
      place = goal [] (steps p) ∧ ∀ r ∈ visited [] front, t.get? r = some .directory := by
  unfold locate at located
  split at located
  · cases located
  next accepted =>
    split at located
    · cases located
    next last ends =>
      obtain ⟨front, names⟩ := List.getLast?_eq_some_iff.mp ends
      rw [names, List.dropLast_concat] at located
      split at located
      · cases located
      next above walked =>
        split at located
        next top =>
          obtain ⟨rfl, directories, shorts⟩ := walk_eq_ok walked top
          split at located
          · cases located
          next proper =>
            split at located
            · cases located
            next short =>
              simp only [Bool.or_eq_true, decide_eq_true_eq, not_or] at proper
              obtain rfl := Target.named.inj (Except.ok.inj located)
              have leads : goal [] (steps p) = goal [] front ++ [last] := by
                rw [names, goal_concat, lead_name proper.1 proper.2]
              refine ⟨⟨accepted, ?_⟩, front, last, names, proper.1, proper.2, leads.symm,
                directories⟩
              rw [names, List.forall_mem_append]
              exact ⟨shorts, by simpa using short⟩
        · cases located
        · cases located

theorem place_eq_goal {place : Place} (located : t.locate p = .ok (.named place)) :
    place = goal [] (route p) := by
  obtain ⟨_, _, _, _, _, _, leads, _⟩ := locate_eq_named located
  rw [leads, route, goal_filter]

theorem locate_of_directories {front : List String} {last : String} (fits : Fits p)
    (split : steps p = front ++ [last]) (ne_dot : last ≠ ".") (ne_dots : last ≠ "..")
    (directories : ∀ r ∈ visited [] front, t.get? r = some .directory) :
    t.locate p = .ok (.named (goal [] (steps p))) := by
  obtain ⟨accepted, short⟩ := fits
  rw [split, List.forall_mem_append, List.forall_mem_singleton] at short
  unfold locate
  simp only [accepted, split, List.getLast?_concat, List.dropLast_concat,
    walk_of_directories short.1 directories, directories _ goal_mem_visited]
  rw [goal_concat, lead_name ne_dot ne_dots, if_neg (Nat.not_lt.mpr short.2)]
  simp [ne_dot, ne_dots]

theorem isDirectory_iff :
    t.isDirectory p = true ↔
      Fits p ∧ ∀ r ∈ visited [] (steps p), t.get? r = some .directory := by
  unfold isDirectory
  constructor
  · intro found
    split at found
    · cases found
    next accepted =>
      split at found
      next place walked =>
        obtain ⟨_, directories, shorts⟩ := walk_eq_ok walked (by simpa using found)
        exact ⟨⟨accepted, shorts⟩, directories⟩
      next => cases found
  · rintro ⟨⟨accepted, short⟩, directories⟩
    simp [accepted, walk_of_directories short directories, directories _ goal_mem_visited]

end FileTree

end ImageWorker
