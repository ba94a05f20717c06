import ImageWorker.Proofs.PathComponents

/-!
# Which keys have a path

A key is split at its slashes, whatever else it is made of. It has a path below a directory exactly
if it is not empty, does not start with a slash or with a dot of its own, and has no part of two
dots; the path then goes on from the directory by the other parts, and only by those that are
neither empty nor a dot. So two keys have one path exactly if they differ in such parts alone.

A key without a path is named in the fault, and the files are left as they are.
-/

namespace ImageWorker

theorem splitSlashes_eq_splitOn (cs : List Char) : splitSlashes cs = cs.splitOn '/' := by
  induction cs with
  | nil => rfl
  | cons c cs ih =>
    rw [List.splitOn, List.splitOnP_cons_eq_if_modifyHead, ← List.splitOn, ← ih]
    by_cases slash : c = '/'
    · simp [splitSlashes, slash]
    · cases split : splitSlashes cs with
      | nil => exact absurd split (splitSlashes_ne_nil cs)
      | cons part parts => simp [splitSlashes_cons_of_ne slash split, slash]

theorem head?_segments_eq_empty_iff {s : String} :
    (segments s).head? = some "" ↔ s = "" ∨ s.toList.head? = some '/' := by
  rw [← String.toList_eq_nil_iff, segments]
  cases s.toList with
  | nil => simp [splitSlashes]
  | cons c cs =>
    by_cases slash : c = '/'
    · simp [splitSlashes, slash]
    · cases split : splitSlashes cs with
      | nil => exact absurd split (splitSlashes_ne_nil cs)
      | cons part parts =>
        simp [splitSlashes_cons_of_ne slash split, slash, ← String.toList_eq_nil_iff]

namespace StagingArea

def parts (key : String) : List String := (key.toList.splitOn '/').map String.ofList

/-- The parts of a key that lead anywhere. -/
def names (key : String) : List String :=
  (parts key).filter fun part => part ≠ "" ∧ part ≠ "."

/-- What a key has to be like to have a path below a directory. -/
structure Stageable (key : String) : Prop where
  ne_empty : key ≠ ""
  relative : key.toList.head? ≠ some '/'
  undotted : (parts key).head? ≠ some "."
  inside : ".." ∉ parts key

variable {root p p' : Path} {key key' : String}

theorem segments_eq_parts (key : String) : segments key = parts key := by
  rw [segments, parts, splitSlashes_eq_splitOn]

theorem innerComponent?_of_ne {part : String} (inside : part ≠ "..") :
    Path.innerComponent? part =
      if part ≠ "" ∧ part ≠ "." then some (.normal part) else none := by
  unfold Path.innerComponent?
  rw [if_neg inside]
  by_cases empty : part = "" <;> by_cases dot : part = "." <;> simp [empty, dot]

theorem innerComponents_eq_names {parts : List String} (inside : ".." ∉ parts) :
    Path.innerComponents parts =
      (parts.filter fun part => part ≠ "" ∧ part ≠ ".").map .normal := by
  induction parts with
  | nil => rfl
  | cons part parts ih =>
    rw [List.mem_cons, not_or] at inside
    rw [Path.innerComponents, List.filterMap_cons, innerComponent?_of_ne (Ne.symm inside.1),
      ← Path.innerComponents, ih inside.2]
    split <;> simp_all

theorem all_isNormal_iff {parts : List String} :
    (Path.innerComponents parts).all isNormal = true ↔ ".." ∉ parts := by
  constructor
  · intro normal up
    have parent : Component.parent ∈ Path.innerComponents parts :=
      List.mem_filterMap.mpr ⟨_, up, rfl⟩
    exact Bool.false_ne_true (List.all_eq_true.mp normal _ parent)
  · intro inside
    rw [innerComponents_eq_names inside, List.all_map, List.all_eq_true]
    exact fun _ _ => rfl

theorem isSafe_iff : isSafe key = true ↔ Stageable key := by
  have starts := head?_segments_eq_empty_iff (s := key)
  obtain ⟨first, rest, split⟩ := segments_eq_cons key
  rw [isSafe, Bool.and_eq_true, decide_eq_true_eq, Path.components, split]
  rw [split, List.head?_cons, Option.some.injEq] at starts
  by_cases empty : first = ""
  · refine iff_of_false ?_ fun stageable => ?_
    · rintro ⟨some, normal⟩
      have more : rest ≠ [] := by
        rintro rfl
        exact some (eq_empty_of_segments (empty ▸ split))
      simp [empty, more, isNormal] at normal
    · exact (starts.mp empty).elim stageable.ne_empty stageable.relative
  have some : key ≠ "" := fun none => empty (starts.mpr (.inl none))
  have relative : key.toList.head? ≠ Option.some '/' := fun slash => empty (starts.mpr (.inr slash))
  by_cases dot : first = "."
  · refine iff_of_false ?_ fun stageable => ?_
    · rintro ⟨-, normal⟩
      simp [dot, isNormal] at normal
    · exact stageable.undotted (by rw [← segments_eq_parts, split, dot]; rfl)
  · simp only [if_neg empty, if_neg dot, all_isNormal_iff]
    rw [← split, segments_eq_parts]
    constructor
    · rintro ⟨-, inside⟩
      refine ⟨some, relative, fun dotted => dot ?_, inside⟩
      rw [← segments_eq_parts, split] at dotted
      exact Option.some.inj dotted
    · exact fun stageable => ⟨some, stageable.inside⟩

/-- The path of a key goes on from the directory by the names of the key, and there is one. -/
theorem components_of_resolve (placed : resolve root key = .ok p) :
    p.components = root.components ++ (names key).map .normal ∧ names key ≠ [] := by
  unfold resolve at placed
  split at placed
  next safe =>
    obtain rfl := Except.ok.inj placed
    obtain ⟨inner, nonempty⟩ := components_of_isSafe safe
    have inside := (isSafe_iff.mp safe).inside
    rw [segments_eq_parts, innerComponents_eq_names inside] at inner
    refine ⟨by rw [components_join root safe, inner]; rfl, fun none => nonempty ?_⟩
    rw [inner]
    exact List.map_eq_nil_iff.mpr none
  next => cases placed

theorem resolve_eq_ok_iff : (∃ p, resolve root key = .ok p) ↔ Stageable key := by
  rw [← isSafe_iff]
  unfold resolve
  cases isSafe key <;> simp

theorem resolve_eq_error (refused : ¬Stageable key) :
    resolve root key = .error (.unsafePath key) := by
  rw [resolve, if_neg fun safe => refused (isSafe_iff.mp safe)]

theorem same_iff (placed : resolve root key = .ok p) (placed' : resolve root key' = .ok p') :
    p.same p' = true ↔ names key = names key' := by
  have injective : Function.Injective Component.normal := fun _ _ => Component.normal.inj
  rw [Path.same, beq_iff_eq, (components_of_resolve placed).1, (components_of_resolve placed').1,
    List.append_cancel_left_eq, List.map_inj_right injective]

/-- Which keys have a path below a directory, what the path is, which keys share it, and what is
left of the others. -/
theorem resolve_by_names (root : Path) (key : String) :
    ((∃ p, resolve root key = .ok p) ↔ Stageable key) ∧
    (∀ p, resolve root key = .ok p →
      p.components = root.components ++ (names key).map .normal ∧ names key ≠ []) ∧
    (∀ key' p p', resolve root key = .ok p → resolve root key' = .ok p' →
      (p.same p' = true ↔ names key = names key')) ∧
    (¬Stageable key → resolve root key = .error (.unsafePath key)) ∧
    ∀ a : StagingArea,
      a.rawPath key = resolve a.rawRoot key ∧ a.processedPath key = resolve a.processedRoot key ∧
      (¬Stageable key → ∀ t content,
        a.saveRaw key t content = (.error (.invalidKey (.unsafePath key)), t) ∧
        a.saveProcessed key t content = (.error (.invalidKey (.unsafePath key)), t)) := by
  refine ⟨resolve_eq_ok_iff, fun _ => components_of_resolve, fun _ _ _ => same_iff,
    resolve_eq_error, fun a => ⟨rfl, rfl, fun refused t content => ⟨?_, ?_⟩⟩⟩
  · rw [saveRaw, rawPath, resolve_eq_error refused, save]
  · rw [saveProcessed, processedPath, resolve_eq_error refused, save]

theorem resolve_by_names_of_slashes :
    resolve ⟨"stage/"⟩ "raw//u/./a.png" = .ok ⟨"stage/raw//u/./a.png"⟩ ∧
      resolve ⟨"stage/"⟩ "raw/u/a.png/" = .ok ⟨"stage/raw/u/a.png/"⟩ ∧
      (Path.mk "stage/raw//u/./a.png").same ⟨"stage/raw/u/a.png/"⟩ = true ∧
      (Path.mk "stage/raw//u/./a.png").components =
        (Path.mk "stage/").components ++ ["raw", "u", "a.png"].map .normal ∧
      ¬Stageable "raw/../a.png" ∧
      resolve ⟨"stage/"⟩ "raw/../a.png" = .error (.unsafePath "raw/../a.png") := by
  obtain ⟨_, led, shared, _⟩ := resolve_by_names ⟨"stage/"⟩ "raw//u/./a.png"
  have placed : resolve ⟨"stage/"⟩ "raw//u/./a.png" = .ok ⟨"stage/raw//u/./a.png"⟩ := rfl
  have placed' : resolve ⟨"stage/"⟩ "raw/u/a.png/" = .ok ⟨"stage/raw/u/a.png/"⟩ := rfl
  have upward : ¬Stageable "raw/../a.png" := fun stageable => stageable.inside (by decide)
  exact ⟨placed, placed', (shared _ _ _ placed placed').mpr (by decide), (led _ placed).1, upward,
    (resolve_by_names _ _).2.2.2.1 upward⟩

end StagingArea

end ImageWorker
