import ImageWorker.Disk.Staging
import ImageWorker.Proofs.KeySegments

/-!
# The components of a joined path

Joining a key to a directory appends the components of the key, whatever slashes and dots the two
are written with, as long as the key neither starts at the root nor with a dot. The path above
another one has its components but the last. A key that the staging area accepts is made of proper
names alone, and so is the file name of a result.
-/

namespace ImageWorker

/-- A name that leads one step down. -/
structure ProperName (name : String) : Prop where
  ne_empty : name ≠ ""
  ne_dot : name ≠ "."
  ne_dots : name ≠ ".."
  no_slash : '/' ∉ name.toList

theorem segments_eq_cons (s : String) : ∃ first rest, segments s = first :: rest := by
  have nonempty := splitSlashes_ne_nil s.toList
  cases split : splitSlashes s.toList with
  | nil => exact absurd split nonempty
  | cons first rest => exact ⟨_, _, by rw [segments, split, List.map_cons]⟩

theorem segments_slash (a : String) : segments (a ++ "/") = segments a ++ [""] := by
  have split := segments_append_slash a ""
  rwa [String.append_empty] at split

theorem segments_intercalate {parts : List String} (some : parts ≠ [])
    (plain : ∀ part ∈ parts, '/' ∉ part.toList) : segments ("/".intercalate parts) = parts := by
  induction parts with
  | nil => exact absurd rfl some
  | cons first rest ih =>
    rw [List.forall_mem_cons] at plain
    have single : segments first = [first] := segments_eq_singleton plain.1
    cases rest with
    | nil => rw [String.intercalate_singleton, single]
    | cons next rest =>
      have later := ih (List.cons_ne_nil _ _) plain.2
      rw [String.intercalate_cons_cons, segments_append_slash, single, later]
      rfl

/-- Only nothing is one empty segment. -/
theorem eq_empty_of_segments {s : String} (h : segments s = [""]) : s = "" := by
  cases chars : s.toList with
  | nil => exact String.toList_eq_nil_iff.mp chars
  | cons c r =>
    rw [segments, chars] at h
    by_cases slash : c = '/'
    · simp [splitSlashes, slash, splitSlashes_ne_nil] at h
    · cases split : splitSlashes r with
      | nil => exact absurd split (splitSlashes_ne_nil r)
      | cons part parts =>
        rw [splitSlashes_cons_of_ne slash split, List.map_cons, List.cons.injEq] at h
        have chars_eq := congrArg String.toList h.1
        simp at chars_eq

namespace Path

/-- A path that leads from a directory to something below it, name by name. -/
def Below (p root : Path) : Prop :=
  ∃ names, names ≠ [] ∧ (∀ name ∈ names, ProperName name) ∧
    p.components = root.components ++ names.map .normal

theorem innerComponents_append (a b : List String) :
    innerComponents (a ++ b) = innerComponents a ++ innerComponents b :=
  List.filterMap_append

/-- What follows a slash adds its own components. -/
theorem components_append_slash (a b : String) :
    (Path.mk (a ++ "/" ++ b)).components =
      (Path.mk (a ++ "/")).components ++ innerComponents (segments b) := by
  -- Only the first segment is read in a way of its own, and it is one of `a`.
  obtain ⟨first, rest, parts⟩ := segments_eq_cons a
  obtain ⟨next, later, after⟩ := segments_eq_cons b
  have empty : innerComponents [""] = [] := rfl
  rw [components, components, segments_append_slash, segments_slash, parts]
  simp only [List.cons_append]
  split
  · simp [after, innerComponents_append, empty]
  · split
    · simp [innerComponents_append, empty]
    · rw [← List.cons_append, ← List.cons_append, innerComponents_append,
        innerComponents_append (first :: rest) [""], empty, List.append_nil]

/-- A slash at the end of a path changes nothing. -/
theorem components_slash {a : String} (h : a ≠ "") :
    (Path.mk (a ++ "/")).components = (Path.mk a).components := by
  obtain ⟨first, rest, parts⟩ := segments_eq_cons a
  have empty : innerComponents [""] = [] := rfl
  rw [components, components, segments_slash, parts]
  simp only [List.cons_append]
  split
  next blank =>
    have more : rest ≠ [] := by
      rintro rfl
      exact h (eq_empty_of_segments (blank ▸ parts))
    simp [more, innerComponents_append, empty]
  next =>
    split
    · simp [innerComponents_append, empty]
    · rw [← List.cons_append, innerComponents_append, empty, List.append_nil]

/-- What the components of a path are like: the names are proper, and a root or a dot only comes
first. -/
structure Canonical (cs : List Component) : Prop where
  proper : ∀ name, .normal name ∈ cs → ProperName name
  inner : ∀ c ∈ cs.tail, c ≠ .root ∧ c ≠ .current

theorem properName_of_inner {parts : List String} (plain : ∀ part ∈ parts, '/' ∉ part.toList)
    {name : String} (mem : .normal name ∈ innerComponents parts) : ProperName name := by
  obtain ⟨part, inside, normal⟩ := List.mem_filterMap.mp mem
  rw [innerComponent?] at normal
  split at normal
  · cases normal
  next named =>
    split at normal
    · cases normal
    next below =>
      obtain rfl := Component.normal.inj (Option.some.inj normal)
      simp only [Bool.or_eq_true, decide_eq_true_eq, not_or] at named
      exact ⟨named.1, named.2, below, plain _ inside⟩

theorem inner_of_mem {parts : List String} {c : Component} (mem : c ∈ innerComponents parts) :
    c ≠ .root ∧ c ≠ .current := by
  obtain ⟨part, _, inner⟩ := List.mem_filterMap.mp mem
  rw [innerComponent?] at inner
  split at inner
  · cases inner
  · split at inner
    all_goals
      obtain rfl := Option.some.inj inner
      exact ⟨nofun, nofun⟩

theorem canonical_components (p : Path) : Canonical p.components := by
  have plain : ∀ part ∈ segments p.text, '/' ∉ part.toList :=
    fun _ => slash_not_mem_of_mem_segments
  obtain ⟨first, rest, parts⟩ := segments_eq_cons p.text
  rw [parts, List.forall_mem_cons] at plain
  rw [components, parts]
  simp only
  split
  next =>
    split
    next => exact ⟨nofun, nofun⟩
    next =>
      refine ⟨fun name mem => ?_, fun c mem => inner_of_mem mem⟩
      rcases List.mem_cons.mp mem with same | mem
      · cases same
      · exact properName_of_inner plain.2 mem
  next =>
    split
    next =>
      refine ⟨fun name mem => ?_, fun c mem => inner_of_mem mem⟩
      rcases List.mem_cons.mp mem with same | mem
      · cases same
      · exact properName_of_inner plain.2 mem
    next =>
      have all : ∀ part ∈ first :: rest, '/' ∉ part.toList := List.forall_mem_cons.mpr plain
      exact ⟨fun name mem => properName_of_inner all mem,
        fun c mem => inner_of_mem (List.mem_of_mem_tail mem)⟩

theorem Canonical.dropLast {cs : List Component} (canonical : Canonical cs) :
    Canonical cs.dropLast := by
  refine ⟨fun name mem => canonical.proper name (List.dropLast_subset _ mem), fun c mem => ?_⟩
  rw [List.tail_dropLast] at mem
  exact canonical.inner c (List.dropLast_subset _ mem)

theorem innerComponent?_text {c : Component} (proper : ∀ name, c = .normal name → ProperName name)
    (inner : c ≠ .root ∧ c ≠ .current) : innerComponent? (componentText c) = some c := by
  cases c with
  | root => exact absurd rfl inner.1
  | current => exact absurd rfl inner.2
  | parent => rfl
  | normal name =>
    have named := proper name rfl
    simp [innerComponent?, componentText, named.ne_empty, named.ne_dot, named.ne_dots]

theorem innerComponents_texts {cs : List Component}
    (proper : ∀ name, .normal name ∈ cs → ProperName name)
    (inner : ∀ c ∈ cs, c ≠ .root ∧ c ≠ .current) :
    innerComponents (cs.map componentText) = cs := by
  induction cs with
  | nil => rfl
  | cons c cs ih =>
    have head := innerComponent?_text (fun name same => proper name (same ▸ List.mem_cons_self))
      (inner c List.mem_cons_self)
    have tail := ih (fun name mem => proper name (List.mem_cons_of_mem _ mem))
      (fun c mem => inner c (List.mem_cons_of_mem _ mem))
    rw [innerComponents] at tail ⊢
    rw [List.map_cons, List.filterMap_cons, head, tail]

theorem componentText_plain {cs : List Component} (canonical : Canonical cs) :
    ∀ part ∈ cs.map componentText, '/' ∉ part.toList := by
  intro part mem
  obtain ⟨c, among, rfl⟩ := List.mem_map.mp mem
  cases c with
  | normal name => exact (canonical.proper name among).no_slash
  | root | current | parent => decide

theorem segments_ofComponents {cs : List Component} (canonical : Canonical cs) (some : cs ≠ [])
    (below : cs ≠ [.root]) : segments (ofComponents cs).text = cs.map componentText := by
  have present : cs.map componentText ≠ [] := fun none => some (List.map_eq_nil_iff.mp none)
  have parts := segments_intercalate present (componentText_plain canonical)
  rwa [ofComponents, if_neg below]

/-- A path that is put together has the components it is made of. -/
theorem components_ofComponents {cs : List Component} (canonical : Canonical cs) :
    (ofComponents cs).components = cs := by
  by_cases alone : cs = [.root]
  · rw [alone]
    rfl
  · cases cs with
    | nil => rfl
    | cons c rest =>
      have parts := segments_ofComponents canonical (List.cons_ne_nil _ _) alone
      have proper : ∀ name, .normal name ∈ rest → ProperName name :=
        fun name mem => canonical.proper name (List.mem_cons_of_mem _ mem)
      have tail := innerComponents_texts proper canonical.inner
      rw [components, parts, List.map_cons]
      cases c with
      | root =>
        have more : rest ≠ [] := fun none => alone (none ▸ rfl)
        simp [componentText, more, tail]
      | current => simp [componentText, tail]
      | parent =>
        have head : innerComponent? ".." = some .parent := rfl
        rw [innerComponents] at tail
        simp [componentText, innerComponents, head, tail]
      | normal name =>
        have named := canonical.proper name List.mem_cons_self
        have head := innerComponent?_text (c := .normal name)
          (fun _ same => by cases same; exact named) ⟨nofun, nofun⟩
        rw [innerComponents] at tail
        dsimp only
        rw [if_neg (show componentText (.normal name) ≠ "" from named.ne_empty),
          if_neg (show componentText (.normal name) ≠ "." from named.ne_dot),
          innerComponents, List.filterMap_cons, head, tail]

theorem components_parent {p parent : Path} (above : p.parent? = some parent) :
    parent.components = p.components.dropLast := by
  unfold parent? at above
  split at above
  · cases above
  · cases above
  · obtain rfl := Option.some.inj above
    exact components_ofComponents (canonical_components p).dropLast

end Path

namespace StagingArea

/-- A safe key has no more components than its segments give, and one at least. -/
theorem components_of_isSafe {key : String} (safe : isSafe key = true) :
    (Path.mk key).components = Path.innerComponents (segments key) ∧
      (Path.mk key).components ≠ [] := by
  rw [isSafe, Bool.and_eq_true, decide_eq_true_eq] at safe
  obtain ⟨nonempty, normal⟩ := safe
  obtain ⟨first, rest, parts⟩ := segments_eq_cons key
  rw [Path.components, parts] at normal ⊢
  simp only at normal ⊢
  split at normal
  next blank =>
    split at normal
    next alone =>
      rw [List.isEmpty_iff] at alone
      exact absurd (eq_empty_of_segments (blank ▸ alone ▸ parts)) nonempty
    next => simp [isNormal] at normal
  next named =>
    split at normal
    next => simp [isNormal] at normal
    next undotted =>
      rw [if_neg named, if_neg undotted]
      refine ⟨rfl, fun none => ?_⟩
      have first_none := List.filterMap_eq_nil_iff.mp none first List.mem_cons_self
      rw [Path.innerComponent?] at first_none
      simp only [named, undotted, decide_false, Bool.or_false, if_false, Bool.false_eq_true]
        at first_none
      split at first_none <;> cases first_none

theorem components_join {key : String} (root : Path) (safe : isSafe key = true) :
    (root.join key).components = root.components ++ (Path.mk key).components := by
  rw [(components_of_isSafe safe).1, Path.join]
  split
  next closed =>
    rw [Bool.or_eq_true, decide_eq_true_eq, decide_eq_true_eq] at closed
    rcases closed with blank | slash
    · rw [blank, String.empty_append, (components_of_isSafe safe).1]
      have : root = ⟨""⟩ := by cases root; simpa using blank
      rw [this]
      rfl
    · obtain ⟨front, text_eq⟩ := List.getLast?_eq_some_iff.mp slash
      have root_eq : root = ⟨String.ofList front ++ "/"⟩ := by
        cases root
        simpa [← String.toList_inj, String.toList_append] using text_eq
      rw [root_eq, Path.components_append_slash]
  next open_end =>
    rw [Bool.or_eq_true, decide_eq_true_eq, not_or] at open_end
    rw [Path.components_append_slash, Path.components_slash open_end.1]

theorem properName_of_mem {s : String} {name : String}
    (mem : .normal name ∈ Path.innerComponents (segments s)) : ProperName name :=
  Path.properName_of_inner (fun _ => slash_not_mem_of_mem_segments) mem

theorem exists_names {cs : List Component} (normal : cs.all isNormal = true) :
    ∃ names : List String, cs = names.map .normal := by
  induction cs with
  | nil => exact ⟨[], rfl⟩
  | cons c cs ih =>
    rw [List.all_cons, Bool.and_eq_true] at normal
    obtain ⟨names, rfl⟩ := ih normal.2
    cases c with
    | normal name => exact ⟨name :: names, rfl⟩
    | _ => exact absurd normal.1 Bool.false_ne_true

/-- A key that is accepted stays below its directory. -/
theorem resolve_below {root path : Path} {key : String} (place : resolve root key = .ok path) :
    path.Below root := by
  unfold resolve at place
  split at place
  next safe =>
    obtain rfl := Except.ok.inj place
    obtain ⟨inner, nonempty⟩ := components_of_isSafe safe
    have normal : (Path.mk key).components.all isNormal = true := by
      rw [isSafe, Bool.and_eq_true] at safe
      exact safe.2
    obtain ⟨names, names_eq⟩ := exists_names normal
    refine ⟨names, fun none => nonempty (by rw [names_eq, none, List.map_nil]), fun name mem => ?_,
      by rw [components_join root safe, names_eq]⟩
    have among : .normal name ∈ Path.innerComponents (segments key) := by
      rw [← inner, names_eq]
      exact List.mem_map_of_mem mem
    exact properName_of_mem among
  next => cases place

/-- Proper names make a key that is accepted. -/
theorem exists_resolve (root : Path) {names : List String} (some : names ≠ [])
    (proper : ∀ name ∈ names, ProperName name) :
    ∃ path, resolve root ("/".intercalate names) = .ok path ∧
      path.components = root.components ++ names.map .normal := by
  have canonical : Path.Canonical (names.map .normal) := by
    constructor
    · intro name mem
      obtain ⟨_, among, same⟩ := List.mem_map.mp mem
      exact Component.normal.inj same ▸ proper _ among
    · intro c mem
      obtain ⟨_, _, rfl⟩ := List.mem_map.mp (List.mem_of_mem_tail mem)
      exact ⟨nofun, nofun⟩
  have key : Path.ofComponents (names.map .normal) = ⟨"/".intercalate names⟩ := by
    have texts : (names.map Component.normal).map Path.componentText = names := by
      rw [List.map_map]
      exact List.map_id names
    have below : names.map Component.normal ≠ [.root] := by
      intro top
      obtain ⟨_, _, _, top, _⟩ := List.map_eq_cons_iff.mp top
      cases top
    rw [Path.ofComponents, if_neg below, texts]
  have parts : (Path.mk ("/".intercalate names)).components = names.map .normal := by
    rw [← key, Path.components_ofComponents canonical]
  have safe : isSafe ("/".intercalate names) = true := by
    have text : "/".intercalate names ≠ "" := by
      intro none
      rw [none] at parts
      exact some (List.map_eq_nil_iff.mp parts.symm)
    simp [isSafe, text, parts, isNormal]
  exact ⟨_, by rw [resolve, if_pos safe], by rw [components_join root safe, parts]⟩

end StagingArea

theorem fileNameOf_proper {k name : String} (h : fileNameOf k = .ok name) : ProperName name := by
  have plain := slash_not_mem_of_mem_segments (fileNameOf_mem_segments h).2
  unfold fileNameOf at h
  dsimp only at h
  split at h
  · cases h
  next =>
    split at h
    · cases h
    next usable =>
      obtain rfl := Except.ok.inj h
      simp only [Bool.or_eq_true, decide_eq_true_eq, not_or] at usable
      exact ⟨usable.1.1, usable.1.2, usable.2, plain⟩

/-- A stem with the extension of a format is longer than the dot names. -/
theorem properName_of_extension {stem : String} (plain : '/' ∉ stem.toList) (f : TargetFormat) :
    ProperName (stem ++ "." ++ f.extension) := by
  have long : 3 ≤ f.extension.toList.length := by cases f <;> decide
  have longer : 4 ≤ (stem ++ "." ++ f.extension).toList.length := by
    simp only [String.toList_append, List.length_append]
    have : (".".toList).length = 1 := rfl
    omega
  have other {short : String} (h : short.toList.length < 4) : stem ++ "." ++ f.extension ≠ short :=
    fun same => absurd (same ▸ longer) (Nat.not_le.mpr h)
  refine ⟨other (by decide), other (by decide), other (by decide), ?_⟩
  simp [String.toList_append, plain, (plain_extension f).1]

/-- A result is stored under one proper name in its folder. -/
theorem destinationKey_proper {k d : String} {t : Transformation} (h : destinationKey k t = .ok d) :
    ∃ name, ProperName name ∧ d = processedFolder ++ "/" ++ name := by
  unfold destinationKey at h
  split at h
  · cases h
  next name named =>
    split at h
    next => exact ⟨name, fileNameOf_proper named, (Except.ok.inj h).symm⟩
    next format wanted =>
      split at h
      · cases h
      next stem found =>
        have plain := slash_not_mem_of_stem (fileNameOf_proper named).no_slash found
        refine ⟨_, properName_of_extension plain format, ?_⟩
        rw [← Except.ok.inj h]
        simp only [String.append_assoc]

end ImageWorker
