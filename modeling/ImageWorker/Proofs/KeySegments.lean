import ImageWorker.Storage.DestinationKey

/-!
# Segments of keys, and when a result has the key of its source

The segments of a text are the parts between its slashes, and none of them has a slash. A result
is stored under the last segment alone, in a folder of its own, so it replaces its source if the
source lies in that folder already and keeps its name.
-/

namespace ImageWorker

theorem splitSlashes_ne_nil (s : List Char) : splitSlashes s ≠ [] := by
  induction s with
  | nil => simp [splitSlashes]
  | cons c r ih =>
    unfold splitSlashes
    split
    · simp
    · split <;> simp

theorem splitSlashes_cons_of_ne {c : Char} (h : c ≠ '/') {r part : List Char}
    {parts : List (List Char)} (split : splitSlashes r = part :: parts) :
    splitSlashes (c :: r) = (c :: part) :: parts := by
  rw [splitSlashes, if_neg h, split]

/-- The parts before and after a slash are split on their own. -/
theorem splitSlashes_append_slash (a b : List Char) :
    splitSlashes (a ++ '/' :: b) = splitSlashes a ++ splitSlashes b := by
  induction a with
  | nil => simp [splitSlashes]
  | cons c a ih =>
    by_cases h : c = '/'
    · simp [splitSlashes, h, ih]
    · cases split : splitSlashes a with
      | nil => exact absurd split (splitSlashes_ne_nil a)
      | cons part parts =>
        rw [split, List.cons_append] at ih
        rw [List.cons_append, splitSlashes_cons_of_ne h ih, splitSlashes_cons_of_ne h split]
        rfl

theorem splitSlashes_eq_singleton {s : List Char} (h : '/' ∉ s) : splitSlashes s = [s] := by
  induction s with
  | nil => rfl
  | cons c s ih =>
    rw [List.mem_cons, not_or] at h
    exact splitSlashes_cons_of_ne (Ne.symm h.1) (ih h.2)

theorem slash_not_mem_of_mem_splitSlashes {s part : List Char} (mem : part ∈ splitSlashes s) :
    '/' ∉ part := by
  induction s generalizing part with
  | nil => simp_all [splitSlashes]
  | cons c s ih =>
    by_cases h : c = '/'
    · rw [splitSlashes, if_pos h, List.mem_cons] at mem
      rcases mem with rfl | mem
      · exact List.not_mem_nil
      · exact ih mem
    · cases split : splitSlashes s with
      | nil => exact absurd split (splitSlashes_ne_nil s)
      | cons first parts =>
        rw [splitSlashes_cons_of_ne h split, List.mem_cons] at mem
        rw [split] at ih
        rcases mem with rfl | mem
        · rw [List.mem_cons, not_or]
          exact ⟨Ne.symm h, ih List.mem_cons_self⟩
        · exact ih (List.mem_cons_of_mem _ mem)

theorem segments_append_slash (a b : String) :
    segments (a ++ "/" ++ b) = segments a ++ segments b := by
  have split : (a ++ "/" ++ b).toList = a.toList ++ '/' :: b.toList := by
    simp [String.toList_append]
  rw [segments, split, splitSlashes_append_slash, List.map_append]
  rfl

theorem segments_eq_singleton {s : String} (h : '/' ∉ s.toList) : segments s = [s] := by
  simp [segments, splitSlashes_eq_singleton h]

theorem slash_not_mem_of_mem_segments {s part : String} (mem : part ∈ segments s) :
    '/' ∉ part.toList := by
  obtain ⟨chars, inner, rfl⟩ := List.mem_map.mp mem
  rw [String.toList_ofList]
  exact slash_not_mem_of_mem_splitSlashes inner

/-- The name of a source is the last segment of its key. -/
theorem fileNameOf_mem_segments {k name : String} (h : fileNameOf k = .ok name) :
    name = (segments k).getLastD "" ∧ name ∈ segments k := by
  unfold fileNameOf at h
  dsimp only at h
  split at h
  · cases h
  next enough =>
    split at h
    · cases h
    · obtain rfl := Except.ok.inj h
      refine ⟨rfl, ?_⟩
      have nonempty : segments k ≠ [] := by
        intro none
        simp [none] at enough
      rw [List.getLastD_eq_getLast?, List.getLast?_eq_some_getLast nonempty]
      exact List.getLast_mem nonempty

/-- What is left of a name, from its end, up to its last dot. -/
theorem dropWhile_reverse_dotted (stem : String) {extension : String}
    (h : '.' ∉ extension.toList) :
    (stem ++ "." ++ extension).toList.reverse.dropWhile (· ≠ '.') =
      '.' :: stem.toList.reverse := by
  have reversed : (stem ++ "." ++ extension).toList.reverse =
      extension.toList.reverse ++ '.' :: stem.toList.reverse := by
    simp [String.toList_append]
  rw [reversed, List.dropWhile_append_of_pos]
  · rfl
  · intro c mem
    have : c ≠ '.' := fun same => h (same ▸ List.mem_reverse.mp mem)
    simpa using this

/-- What stands before an extension is the stem. -/
theorem stem?_append {stem extension : String} (h : '.' ∉ extension.toList)
    {s : String} (found : stem? (stem ++ "." ++ extension) = some s) : s = stem := by
  rw [stem?, dropWhile_reverse_dotted stem h] at found
  cases chars : stem.toList.reverse with
  | nil => simp [chars] at found
  | cons c r =>
    rw [chars] at found
    have whole : (c :: r).reverse = stem.toList := by rw [← chars, List.reverse_reverse]
    rw [← Option.some.inj found, whole, String.ofList_toList]

theorem slash_not_mem_of_stem {name stem : String} (h : '/' ∉ name.toList)
    (found : stem? name = some stem) : '/' ∉ stem.toList := by
  rw [stem?] at found
  split at found
  next dot c r rest =>
    obtain rfl := Option.some.inj found
    rw [String.toList_ofList, List.mem_reverse]
    intro mem
    have suffix : dot :: c :: r <:+ name.toList.reverse := rest ▸ List.dropWhile_suffix _
    exact h (List.mem_reverse.mp (suffix.subset (List.mem_cons_of_mem _ mem)))
  next => cases found

theorem plain_extension (f : TargetFormat) :
    '/' ∉ f.extension.toList ∧ '.' ∉ f.extension.toList := by
  cases f <;> decide

/-- The key has the form that the keys of results have: a name in their folder, with the extension
that a conversion gives. -/
def ResultKey (t : Transformation) (key : String) : Prop :=
  ∃ name, '/' ∉ name.toList ∧ key = processedFolder ++ "/" ++ name ∧
    ∀ format, t.targetFormat? = some format → ∃ stem, name = stem ++ "." ++ format.extension

theorem destinationKey_resultKey {k d : String} {t : Transformation}
    (h : destinationKey k t = .ok d) : ResultKey t d := by
  unfold destinationKey at h
  split at h
  · cases h
  next name named =>
    have plain := slash_not_mem_of_mem_segments (fileNameOf_mem_segments named).2
    split at h
    next noFormat =>
      refine ⟨name, plain, (Except.ok.inj h).symm, fun format some => ?_⟩
      simp [noFormat] at some
    next format wanted =>
      split at h
      · cases h
      next stem found =>
        refine ⟨stem ++ "." ++ format.extension, ?_, ?_, fun other some => ⟨stem, ?_⟩⟩
        · simp [String.toList_append, slash_not_mem_of_stem plain found, (plain_extension format).1]
        · rw [← Except.ok.inj h]
          simp only [String.append_assoc]
        · obtain rfl : format = other := Option.some.inj (wanted.symm.trans some)
          rfl

/-- A result replaces its source just if the source has the form of a result already. -/
theorem destinationKey_eq_source_iff {k d : String} {t : Transformation}
    (h : destinationKey k t = .ok d) : k = d ↔ ResultKey t k := by
  constructor
  · rintro rfl
    exact destinationKey_resultKey h
  · rintro ⟨name, plain, rfl, kept⟩
    -- The name has no slash, so it is the last segment, from which the result has its name.
    have split :
        segments (processedFolder ++ "/" ++ name) = segments processedFolder ++ [name] := by
      rw [segments_append_slash, segments_eq_singleton plain]
    unfold destinationKey at h
    split at h
    · cases h
    next last named =>
      obtain rfl : last = name := by
        rw [(fileNameOf_mem_segments named).1, split, List.getLastD_concat]
      split at h
      next => exact Except.ok.inj h
      next format wanted =>
        split at h
        · cases h
        next s found =>
          obtain ⟨stem, rfl⟩ := kept format wanted
          obtain rfl := stem?_append (plain_extension format).2 found
          rw [← Except.ok.inj h]
          simp only [String.append_assoc]

end ImageWorker
