import ImageWorker.Proofs.PathComponents
import Mathlib.Data.List.TakeWhile

/-!
# The keys of results

A key has a result key if it has a slash and ends in a proper name, and, for a conversion, if this
name has a stem. The result key then depends on that name alone, or on its stem and the format. It
is staged as two names below any directory, and the result of a result keeps its key.
-/

namespace ImageWorker

variable {k k' d d' b b' name stem : String} {t t' : Transformation} {f g : TargetFormat}

/-- What follows the last slash of a key. -/
def EndsIn (k b : String) : Prop := ∃ folder, k = folder ++ "/" ++ b ∧ '/' ∉ b.toList

/-- What comes before the last dot of a name. -/
def HasStem (name stem : String) : Prop :=
  ∃ ending, name = stem ++ "." ++ ending ∧ '.' ∉ ending.toList

/-- The name of a result whose source has the name `b`. -/
def NamesResult (t : Transformation) (b name : String) : Prop :=
  match t.targetFormat? with
  | none => name = b
  | some f => ∃ stem, stem ≠ "" ∧ HasStem b stem ∧ name = stem ++ "." ++ f.extension

/-- A list with a mark can be cut at its last one. -/
theorem exists_cut {mark : Char} {s : List Char} (mem : mark ∈ s) :
    ∃ front last, s = front ++ mark :: last ∧ mark ∉ last := by
  obtain ⟨last, front, cut, free⟩ := List.eq_append_cons_of_mem (List.mem_reverse.mpr mem)
  refine ⟨front.reverse, last.reverse, ?_, by rwa [List.mem_reverse]⟩
  rw [← List.reverse_reverse s, cut]
  simp

theorem toList_join (a b : String) : (a ++ "/" ++ b).toList = a.toList ++ '/' :: b.toList := by
  simp [String.toList_append]

theorem toList_dotted (a b : String) : (a ++ "." ++ b).toList = a.toList ++ '.' :: b.toList := by
  simp [String.toList_append]

theorem exists_endsIn (slash : '/' ∈ k.toList) : ∃ b, EndsIn k b := by
  obtain ⟨front, last, cut, free⟩ := exists_cut slash
  refine ⟨.ofList last, .ofList front, ?_, by rwa [String.toList_ofList]⟩
  rw [← String.toList_inj, toList_join, String.toList_ofList, String.toList_ofList, cut]

theorem EndsIn.slash_mem (ends : EndsIn k b) : '/' ∈ k.toList := by
  obtain ⟨folder, rfl, _⟩ := ends
  simp

theorem EndsIn.segments_eq (ends : EndsIn k b) :
    ∃ front, front ≠ [] ∧ segments k = front ++ [b] := by
  obtain ⟨folder, rfl, plain⟩ := ends
  obtain ⟨first, rest, parts⟩ := segments_eq_cons folder
  refine ⟨segments folder, by simp [parts], ?_⟩
  rw [segments_append_slash, segments_eq_singleton plain]

theorem EndsIn.unique (ends : EndsIn k b) (ends' : EndsIn k b') : b = b' := by
  obtain ⟨front, _, parts⟩ := ends.segments_eq
  obtain ⟨front', _, parts'⟩ := ends'.segments_eq
  have last := congrArg List.getLast? (parts.symm.trans parts')
  simpa using last

theorem fileNameOf_of_endsIn (ends : EndsIn k b) :
    fileNameOf k =
      if b = "" || b = "." || b = ".." then .error (.noFileName k) else .ok b := by
  obtain ⟨front, some, parts⟩ := ends.segments_eq
  have enough : ¬ (front ++ [b]).length < 2 := by
    have := List.length_pos_iff.mpr some
    simp
    omega
  simp only [fileNameOf, parts, if_neg enough, List.getLastD_concat]

theorem fileNameOf_of_no_slash (plain : '/' ∉ k.toList) :
    fileNameOf k = .error (.noDirectory k) := by
  simp [fileNameOf, segments_eq_singleton plain]

theorem fileNameOf_eq_ok_iff : fileNameOf k = .ok b ↔ EndsIn k b ∧ ProperName b := by
  constructor
  · intro named
    refine ⟨?_, fileNameOf_proper named⟩
    have slash : '/' ∈ k.toList := by
      refine Classical.byContradiction fun plain => ?_
      rw [fileNameOf_of_no_slash plain] at named
      cases named
    obtain ⟨b', ends⟩ := exists_endsIn slash
    rw [fileNameOf_of_endsIn ends] at named
    split at named
    · cases named
    · exact Except.ok.inj named ▸ ends
  · rintro ⟨ends, proper⟩
    simp [fileNameOf_of_endsIn ends, proper.ne_empty, proper.ne_dot, proper.ne_dots]

theorem exists_hasStem (dot : '.' ∈ name.toList) : ∃ stem, HasStem name stem := by
  obtain ⟨front, last, cut, free⟩ := exists_cut dot
  refine ⟨.ofList front, .ofList last, ?_, by rwa [String.toList_ofList]⟩
  rw [← String.toList_inj, toList_dotted, String.toList_ofList, String.toList_ofList, cut]

theorem HasStem.unique {stem' : String} (has : HasStem name stem) (has' : HasStem name stem') :
    stem = stem' := by
  obtain ⟨ending, rfl, free⟩ := has
  obtain ⟨ending', same, free'⟩ := has'
  have fromEnd := dropWhile_reverse_dotted stem free
  rw [same, dropWhile_reverse_dotted stem' free'] at fromEnd
  exact (String.toList_inj.mp (List.reverse_inj.mp (List.cons.inj fromEnd).2)).symm

theorem HasStem.no_slash (has : HasStem name stem) (plain : '/' ∉ name.toList) :
    '/' ∉ stem.toList := by
  obtain ⟨ending, rfl, _⟩ := has
  rw [toList_dotted, List.mem_append, not_or] at plain
  exact plain.1

theorem hasStem_extension (stem : String) (f : TargetFormat) :
    HasStem (stem ++ "." ++ f.extension) stem :=
  ⟨f.extension, rfl, (plain_extension f).2⟩

theorem stem?_of_hasStem (has : HasStem name stem) :
    stem? name = if stem = "" then none else some stem := by
  obtain ⟨ending, rfl, free⟩ := has
  rw [stem?, dropWhile_reverse_dotted stem free]
  cases chars : stem.toList.reverse with
  | nil =>
    rw [List.reverse_eq_nil_iff, String.toList_eq_nil_iff] at chars
    rw [if_pos chars]
  | cons c r =>
    have whole : (c :: r).reverse = stem.toList := by rw [← chars, List.reverse_reverse]
    have some : stem ≠ "" := by
      rintro rfl
      cases chars
    rw [if_neg some]
    simp only [whole, String.ofList_toList]

theorem stem?_of_no_dot (plain : '.' ∉ name.toList) : stem? name = none := by
  have nothing : name.toList.reverse.dropWhile (· ≠ '.') = [] := by
    rw [List.dropWhile_eq_nil_iff]
    intro c mem
    have : c ≠ '.' := fun same => plain (same ▸ List.mem_reverse.mp mem)
    simpa using this
  rw [stem?, nothing]

theorem stem?_eq_some_iff : stem? name = some stem ↔ stem ≠ "" ∧ HasStem name stem := by
  constructor
  · intro found
    have dot : '.' ∈ name.toList := by
      refine Classical.byContradiction fun plain => ?_
      rw [stem?_of_no_dot plain] at found
      cases found
    obtain ⟨stem', has⟩ := exists_hasStem dot
    rw [stem?_of_hasStem has] at found
    split at found
    · cases found
    next some =>
      obtain rfl := Option.some.inj found
      exact ⟨some, has⟩
  · rintro ⟨some, has⟩
    rw [stem?_of_hasStem has, if_neg some]

/-- A name without a stem has no dot but perhaps in front. -/
theorem stem?_eq_none_iff : stem? name = none ↔ '.' ∉ name.toList.tail := by
  by_cases dot : '.' ∈ name.toList
  · obtain ⟨stem, has⟩ := exists_hasStem dot
    rw [stem?_of_hasStem has]
    obtain ⟨ending, rfl, free⟩ := has
    rw [toList_dotted]
    cases chars : stem.toList with
    | nil =>
      rw [String.toList_eq_nil_iff] at chars
      simpa [chars] using free
    | cons c r =>
      have some : stem ≠ "" := by
        rintro rfl
        cases chars
      simp [some]
  · exact iff_of_true (stem?_of_no_dot dot) fun mem => dot (List.mem_of_mem_tail mem)

theorem targetFormat?_eq_some_iff : t.targetFormat? = some f ↔ t = .convert f := by
  cases t <;> simp [Transformation.targetFormat?]

theorem extension_injective : Function.Injective TargetFormat.extension := by
  intro f g same
  cases f <;> cases g <;> first | rfl | exact absurd same (by decide)

theorem extended_inj {stem' : String} :
    stem ++ "." ++ f.extension = stem' ++ "." ++ g.extension ↔ f = g ∧ stem = stem' := by
  constructor
  · intro same
    obtain rfl := (same ▸ hasStem_extension stem f).unique (hasStem_extension stem' g)
    have chars := congrArg String.toList same
    rw [toList_dotted, toList_dotted, List.append_cancel_left_eq, List.cons.injEq,
      String.toList_inj] at chars
    exact ⟨extension_injective chars.2, rfl⟩
  · rintro ⟨rfl, rfl⟩
    rfl

theorem namesResult_plain (plain : t.targetFormat? = none) : NamesResult t b name ↔ name = b := by
  rw [NamesResult, plain]

theorem destinationKey_eq_ok_iff :
    destinationKey k t = .ok d ↔ ∃ b name, EndsIn k b ∧ ProperName b ∧ NamesResult t b name ∧
      d = processedFolder ++ "/" ++ name := by
  unfold destinationKey
  constructor
  · intro derived
    split at derived
    · cases derived
    next b named =>
      obtain ⟨ends, proper⟩ := fileNameOf_eq_ok_iff.mp named
      split at derived
      next plain =>
        exact ⟨b, b, ends, proper, (namesResult_plain plain).mpr rfl, (Except.ok.inj derived).symm⟩
      next f wanted =>
        split at derived
        · cases derived
        next stem found =>
          obtain ⟨some, has⟩ := stem?_eq_some_iff.mp found
          obtain rfl := targetFormat?_eq_some_iff.mp wanted
          refine ⟨b, stem ++ "." ++ f.extension, ends, proper, ⟨stem, some, has, rfl⟩, ?_⟩
          rw [← Except.ok.inj derived]
          simp only [String.append_assoc]
  · rintro ⟨b, name, ends, proper, names, rfl⟩
    simp only [fileNameOf_eq_ok_iff.mpr ⟨ends, proper⟩]
    cases wanted : t.targetFormat? with
    | none => rw [(namesResult_plain wanted).mp names]
    | some f =>
      obtain rfl := targetFormat?_eq_some_iff.mp wanted
      obtain ⟨stem, some, has, rfl⟩ := names
      simp only [stem?_eq_some_iff.mpr ⟨some, has⟩, String.append_assoc]

/-- A proper name has the name of a result, unless it is to be converted and has no stem. -/
theorem exists_namesResult_iff :
    (∃ name, NamesResult t b name) ↔ ¬ ((∃ f, t = .convert f) ∧ '.' ∉ b.toList.tail) := by
  cases wanted : t.targetFormat? with
  | none =>
    have other : ¬ ∃ f, t = .convert f := by
      rintro ⟨f, rfl⟩
      cases wanted
    simp [namesResult_plain wanted, other]
  | some f =>
    obtain rfl := targetFormat?_eq_some_iff.mp wanted
    rw [← stem?_eq_none_iff]
    constructor
    · rintro ⟨_, stem, some, has, _⟩ ⟨_, none⟩
      rw [stem?_eq_some_iff.mpr ⟨some, has⟩] at none
      cases none
    · intro stemmed
      cases found : stem? b with
      | none => exact absurd ⟨⟨f, rfl⟩, found⟩ stemmed
      | some stem =>
        obtain ⟨some, has⟩ := stem?_eq_some_iff.mp found
        exact ⟨_, stem, some, has, rfl⟩

theorem destinationKey_eq_error_iff :
    (∃ why, destinationKey k t = .error why) ↔ '/' ∉ k.toList ∨ ∃ b, EndsIn k b ∧
      (b = "" ∨ b = "." ∨ b = ".." ∨ (∃ f, t = .convert f) ∧ '.' ∉ b.toList.tail) := by
  constructor
  · rintro ⟨why, refused⟩
    refine Classical.or_iff_not_imp_left.mpr fun slash => ?_
    obtain ⟨b, ends⟩ := exists_endsIn (not_not.mp slash)
    refine ⟨b, ends, Classical.byContradiction fun usable => ?_⟩
    simp only [not_or] at usable
    obtain ⟨some, no_dot, no_dots, named⟩ := usable
    obtain ⟨name, names⟩ := exists_namesResult_iff.mpr named
    have plain : '/' ∉ b.toList := by
      obtain ⟨_, _, plain⟩ := ends
      exact plain
    have derived := destinationKey_eq_ok_iff.mpr
      ⟨b, name, ends, ⟨some, no_dot, no_dots, plain⟩, names, rfl⟩
    rw [refused] at derived
    cases derived
  · intro unusable
    cases derived : destinationKey k t with
    | error why => exact ⟨why, rfl⟩
    | ok d =>
      obtain ⟨b, name, ends, proper, names, _⟩ := destinationKey_eq_ok_iff.mp derived
      have usable : ¬ (b = "" ∨ b = "." ∨ b = ".." ∨
          (∃ f, t = .convert f) ∧ '.' ∉ b.toList.tail) := by
        simp only [not_or]
        exact ⟨proper.ne_empty, proper.ne_dot, proper.ne_dots,
          exists_namesResult_iff.mp ⟨name, names⟩⟩
      rcases unusable with plain | ⟨b', ends', faulty⟩
      · exact absurd ends.slash_mem plain
      · exact absurd (ends.unique ends' ▸ faulty) usable

theorem NamesResult.proper (names : NamesResult t b name) (proper : ProperName b) :
    ProperName name := by
  cases wanted : t.targetFormat? with
  | none => exact (namesResult_plain wanted).mp names ▸ proper
  | some f =>
    obtain rfl := targetFormat?_eq_some_iff.mp wanted
    obtain ⟨stem, _, has, rfl⟩ := names
    exact properName_of_extension (has.no_slash proper.no_slash) f

/-- The result of a result has the same name again. -/
theorem NamesResult.again (names : NamesResult t b name) : NamesResult t name name := by
  cases wanted : t.targetFormat? with
  | none => exact (namesResult_plain wanted).mpr rfl
  | some f =>
    obtain rfl := targetFormat?_eq_some_iff.mp wanted
    obtain ⟨stem, some, _, rfl⟩ := names
    exact ⟨stem, some, hasStem_extension stem f, rfl⟩

theorem destinationKey_again (derived : destinationKey k t = .ok d) :
    destinationKey d t = .ok d := by
  obtain ⟨b, name, _, proper, names, rfl⟩ := destinationKey_eq_ok_iff.mp derived
  have proper' := names.proper proper
  exact destinationKey_eq_ok_iff.mpr
    ⟨name, name, ⟨processedFolder, rfl, proper'.no_slash⟩, proper', names.again, rfl⟩

theorem processedFolder_proper : ProperName processedFolder :=
  ⟨by decide, by decide, by decide, by decide⟩

/-- A result is staged under its name, in their folder below any directory. -/
theorem resolve_result (root : Path) (proper : ProperName name) :
    ∃ path, StagingArea.resolve root (processedFolder ++ "/" ++ name) = .ok path ∧
      path.components = root.components ++ [.normal processedFolder, .normal name] := by
  have key : processedFolder ++ "/" ++ name = "/".intercalate [processedFolder, name] := by
    rw [String.intercalate_cons_cons, String.intercalate_singleton]
  rw [key]
  refine StagingArea.exists_resolve root (List.cons_ne_nil _ _) ?_
  rw [List.forall_mem_cons, List.forall_mem_singleton]
  exact ⟨processedFolder_proper, proper⟩

theorem result_key_inj {name' : String} :
    processedFolder ++ "/" ++ name = processedFolder ++ "/" ++ name' ↔ name = name' := by
  rw [← String.toList_inj, toList_join, toList_join, List.append_cancel_left_eq, List.cons.injEq,
    String.toList_inj]
  exact and_iff_right rfl

theorem same_plain_iff (derived : destinationKey k t = .ok d)
    (derived' : destinationKey k' t' = .ok d') (ends : EndsIn k b) (ends' : EndsIn k' b')
    (plain : t.targetFormat? = none) (plain' : t'.targetFormat? = none) : d = d' ↔ b = b' := by
  obtain ⟨c, name, cut, _, names, rfl⟩ := destinationKey_eq_ok_iff.mp derived
  obtain ⟨c', name', cut', _, names', rfl⟩ := destinationKey_eq_ok_iff.mp derived'
  rw [result_key_inj, (namesResult_plain plain).mp names, (namesResult_plain plain').mp names',
    cut.unique ends, cut'.unique ends']

theorem same_converted_iff (derived : destinationKey k (.convert f) = .ok d)
    (derived' : destinationKey k' (.convert g) = .ok d') (ends : EndsIn k b)
    (ends' : EndsIn k' b') : d = d' ↔ f = g ∧ ∃ stem, HasStem b stem ∧ HasStem b' stem := by
  obtain ⟨c, _, cut, _, ⟨stem, _, has, rfl⟩, rfl⟩ := destinationKey_eq_ok_iff.mp derived
  obtain ⟨c', _, cut', _, ⟨stem', _, has', rfl⟩, rfl⟩ := destinationKey_eq_ok_iff.mp derived'
  obtain rfl := cut.unique ends
  obtain rfl := cut'.unique ends'
  rw [result_key_inj, extended_inj]
  refine and_congr_right fun _ => ⟨?_, ?_⟩
  · rintro rfl
    exact ⟨stem, has, has'⟩
  · rintro ⟨common, shared, shared'⟩
    exact (has.unique shared).trans (shared'.unique has')

/-- When a key has a result key, which one, where that is staged, that it is its own result key, and
which other keys share it. -/
theorem destination_key_law (k : String) (t : Transformation) :
    ((∃ why, destinationKey k t = .error why) ↔ '/' ∉ k.toList ∨ ∃ b, EndsIn k b ∧
      (b = "" ∨ b = "." ∨ b = ".." ∨ (∃ f, t = .convert f) ∧ '.' ∉ b.toList.tail)) ∧
    ∀ d, destinationKey k t = .ok d →
      (∃ b name, EndsIn k b ∧ NamesResult t b name ∧ d = processedFolder ++ "/" ++ name ∧
        ∀ a : StagingArea, ∃ path, a.processedPath d = .ok path ∧ path.components =
          a.processedRoot.components ++ [.normal processedFolder, .normal name]) ∧
      destinationKey d t = .ok d ∧
      ∀ k' t' d' b b', destinationKey k' t' = .ok d' → EndsIn k b → EndsIn k' b' →
        (t.targetFormat? = none → t'.targetFormat? = none → (d = d' ↔ b = b')) ∧
        ∀ f g, t = .convert f → t' = .convert g →
          (d = d' ↔ f = g ∧ ∃ stem, HasStem b stem ∧ HasStem b' stem) := by
  refine ⟨destinationKey_eq_error_iff, fun d derived => ⟨?_, destinationKey_again derived, ?_⟩⟩
  · obtain ⟨b, name, ends, proper, names, rfl⟩ := destinationKey_eq_ok_iff.mp derived
    exact ⟨b, name, ends, names, rfl, fun a => resolve_result a.processedRoot (names.proper proper)⟩
  · intro k' t' d' b b' derived' ends ends'
    refine ⟨same_plain_iff derived derived' ends ends', ?_⟩
    rintro f g rfl rfl
    exact same_converted_iff derived derived' ends ends'

/-- Two pictures of one stem have one result, whatever their folders and extensions. -/
theorem destination_key_law_of_stem :
    ∃ d d', destinationKey "raw/user/a.tar.png" (.convert .gif) = .ok d ∧
      destinationKey "raw/a.tar.bmp" (.convert .gif) = .ok d' ∧
      destinationKey d (.convert .gif) = .ok d ∧ d = d' := by
  have derived : destinationKey "raw/user/a.tar.png" (.convert .gif) =
      .ok "processed/a.tar.gif" := rfl
  have derived' : destinationKey "raw/a.tar.bmp" (.convert .gif) = .ok "processed/a.tar.gif" := rfl
  have ends : EndsIn "raw/user/a.tar.png" "a.tar.png" := ⟨"raw/user", rfl, by decide⟩
  have ends' : EndsIn "raw/a.tar.bmp" "a.tar.bmp" := ⟨"raw", rfl, by decide⟩
  obtain ⟨_, again, others⟩ :=
    (destination_key_law "raw/user/a.tar.png" (.convert .gif)).2 _ derived
  have shared := ((others _ _ _ _ _ derived' ends ends').2 .gif .gif rfl rfl).mpr
    ⟨rfl, "a.tar", ⟨"png", rfl, by decide⟩, ⟨"bmp", rfl, by decide⟩⟩
  exact ⟨_, _, derived, derived', again, shared⟩

end ImageWorker
