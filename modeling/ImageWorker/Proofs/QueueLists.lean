import ImageWorker.Settings.Broker
import Mathlib.Algebra.GroupWithZero.Nat
import Mathlib.Data.List.Forall2

/-!
# The list of job queues

A list of queues is read entry by entry. `Asks` says which queue an entry asks for, blanks around
its parts left aside; the list is accepted exactly when each entry that is not blank asks for one,
and there is one. `Renders` says in which ways queues can be written, and what is written so is
read back.
-/

namespace ImageWorker

theorem toNat_foldl_add (counts : List UInt64) (first : UInt64) :
    (counts.foldl (· + ·) first).toNat =
      (first.toNat + (counts.map UInt64.toNat).sum) % 2 ^ 64 := by
  induction counts generalizing first with
  | nil => simp [Nat.mod_eq_of_lt first.toNat_lt]
  | cons count counts ih =>
    rw [List.foldl_cons, ih, UInt64.toNat_add, Nat.mod_add_mod, List.map_cons, List.sum_cons,
      Nat.add_assoc]

/-- The workers of a broker are added modulo what 64 bits can hold. -/
theorem BrokerSettings.toNat_totalWorkers (s : BrokerSettings) :
    s.totalWorkers.toNat = (s.jobQueues.map (·.workers.toNat)).sum % 2 ^ 64 := by
  rw [totalWorkers, toNat_foldl_add, List.map_map]
  exact congrArg (· % 2 ^ 64) (Nat.zero_add _)

namespace WorkQueue

variable {default n : UInt64} {q : WorkQueue} {queues : List WorkQueue}
  {cs before after part name : List Char} {parts : List (List Char)} {list : String}

/-- The queue that an entry asks for: a name alone has the default count. -/
inductive Asks (default : UInt64) : List Char → WorkQueue → Prop
  | plain {entry name : List Char} : ':' ∉ entry → Trims entry name → name ≠ [] →
      1 ≤ default → Asks default entry ⟨String.ofList name, default⟩
  | counted {before after name count : List Char} {n : UInt64} : ':' ∉ before →
      Trims before name → name ≠ [] → Trims after count → IsCount count n.toNat → 1 ≤ n →
      Asks default (before ++ ':' :: after) ⟨String.ofList name, n⟩

theorem splitFirst_of_not_mem {sep : Char} (free : sep ∉ cs) : splitFirst sep cs = (cs, none) := by
  induction cs with
  | nil => rfl
  | cons c cs ih =>
    have other : c ≠ sep := fun same => free (same ▸ List.mem_cons_self)
    have rest := ih fun mem => free (List.mem_cons_of_mem _ mem)
    simp [splitFirst, other, rest]

theorem splitFirst_append {sep : Char} (free : sep ∉ before) :
    splitFirst sep (before ++ sep :: after) = (before, some after) := by
  induction before with
  | nil => simp [splitFirst]
  | cons c before ih =>
    have other : c ≠ sep := fun same => free (same ▸ List.mem_cons_self)
    have rest := ih fun mem => free (List.mem_cons_of_mem _ mem)
    simp [splitFirst, other, rest]

theorem one_le_iff : 1 ≤ n ↔ n ≠ 0 := by
  rw [UInt64.le_iff_toNat_le, Ne, ← UInt64.toNat_inj]
  exact Nat.one_le_iff_ne_zero

theorem checked_eq_ok_iff {entry name : String} :
    checked entry name n = .ok q ↔ name ≠ "" ∧ 1 ≤ n ∧ q = ⟨name, n⟩ := by
  unfold checked
  split
  · simp [*]
  split
  · simp [*]
  next named staffed =>
    simp [named, one_le_iff.mpr staffed, eq_comm]

theorem parse_plain (free : ':' ∉ cs) :
    parse (String.ofList cs) default =
      checked (String.ofList cs) (String.ofList (trimBlanks cs)) default := by
  simp only [parse, String.toList_ofList, splitFirst_of_not_mem free, trimmed]

theorem parse_counted (free : ':' ∉ before) :
    parse (String.ofList (before ++ ':' :: after)) default =
      (count64? (String.ofList (trimBlanks after))).elim
        (.error (.config (.invalidWorkerCount (String.ofList (before ++ ':' :: after)))))
        fun count => checked (String.ofList (before ++ ':' :: after))
          (String.ofList (trimBlanks before)) count.toUInt64 := by
  simp only [parse, String.toList_ofList, splitFirst_append free, trimmed]
  cases count64? (String.ofList (trimBlanks after)) <;> rfl

theorem ofList_ne_empty : String.ofList cs ≠ "" ↔ cs ≠ [] := by
  rw [← String.ofList_nil, Ne, String.ofList_inj]

/-- An entry with a colon has a first one. -/
theorem exists_first_colon (colon : ':' ∈ cs) :
    ∃ before after, cs = before ++ ':' :: after ∧ ':' ∉ before :=
  List.eq_append_cons_of_mem colon

/-- An entry is read as the queue that it asks for, and as nothing else. -/
theorem parse_eq_ok_iff : parse (String.ofList cs) default = .ok q ↔ Asks default cs q := by
  constructor
  · intro parsed
    by_cases colon : ':' ∈ cs
    · obtain ⟨before, after, rfl, free⟩ := exists_first_colon colon
      rw [parse_counted free] at parsed
      cases count : count64? (String.ofList (trimBlanks after)) with
      | none => simp [count] at parsed
      | some n =>
        simp only [count, Option.elim_some, checked_eq_ok_iff, ofList_ne_empty] at parsed
        obtain ⟨named, staffed, rfl⟩ := parsed
        have counts := count64?_eq_some_iff.mp count
        rw [← counts.toNat_toUInt64] at counts
        exact .counted free (trims_trimBlanks before) named (trims_trimBlanks after) counts staffed
    · rw [parse_plain colon, checked_eq_ok_iff, ofList_ne_empty] at parsed
      obtain ⟨named, staffed, rfl⟩ := parsed
      exact .plain colon (trims_trimBlanks cs) named staffed
  · intro asks
    cases asks with
    | plain free trims named staffed =>
      rw [parse_plain free, trimBlanks_eq trims, checked_eq_ok_iff, ofList_ne_empty]
      exact ⟨named, staffed, rfl⟩
    | counted free trims named trims' count staffed =>
      rw [parse_counted free, trimBlanks_eq trims, trimBlanks_eq trims',
        count64?_eq_some_iff.mpr count, Option.elim_some, Nat.toUInt64_eq, UInt64.ofNat_toNat]
      exact checked_eq_ok_iff.mpr ⟨ofList_ne_empty.mpr named, staffed, rfl⟩

theorem not_mem_of_all_blank {c : Char} (blank : cs.all isBlank = true)
    (black : isBlank c = false) : c ∉ cs := by
  intro mem
  rw [List.all_eq_true.mp blank c mem] at black
  exact absurd black (by decide)

/-- Blanks around an entry do not count. -/
theorem asks_between (blank : before.all isBlank = true) (blank' : after.all isBlank = true) :
    Asks default (before ++ cs ++ after) q ↔ Asks default cs q := by
  have free : ':' ∉ before := not_mem_of_all_blank blank (by decide)
  have free' : ':' ∉ after := not_mem_of_all_blank blank' (by decide)
  rw [← parse_eq_ok_iff, ← parse_eq_ok_iff]
  by_cases colon : ':' ∈ cs
  · obtain ⟨left, right, rfl, free_left⟩ := exists_first_colon colon
    have whole : before ++ (left ++ ':' :: right) ++ after =
        (before ++ left) ++ ':' :: (right ++ after) := by simp
    have free_name : ':' ∉ before ++ left := by simp [free, free_left]
    have name : trimBlanks (before ++ left ++ []) = trimBlanks left :=
      trimBlanks_between blank rfl left
    have count : trimBlanks ([] ++ right ++ after) = trimBlanks right :=
      trimBlanks_between rfl blank' right
    rw [List.append_nil] at name
    rw [List.nil_append] at count
    rw [whole, parse_counted free_name, parse_counted free_left, name, count]
    cases count64? (String.ofList (trimBlanks right)) with
    | none => simp
    | some n => simp only [Option.elim_some, checked_eq_ok_iff]
  · have free_whole : ':' ∉ before ++ cs ++ after := by simp [free, free', colon]
    rw [parse_plain free_whole, parse_plain colon, trimBlanks_between blank blank']
    simp only [checked_eq_ok_iff]

/-- The entries of a list, without those that are blank. -/
def given (list : String) : List (List Char) :=
  (list.toList.splitOn ',').filter fun part => !part.all isBlank

theorem splitAll_eq_splitOn (sep : Char) (cs : List Char) : splitAll sep cs = cs.splitOn sep := by
  induction cs with
  | nil => rfl
  | cons c cs ih =>
    rw [List.splitOn, List.splitOnP_cons_eq_if_modifyHead, ← List.splitOn]
    by_cases same : c = sep
    · simp [splitAll, same, ih]
    · cases split : cs.splitOn sep with
      | nil => exact absurd split (List.splitOnP_ne_nil _ _)
      | cons part parts => simp [splitAll, same, ih, split]

theorem entries_eq (list : String) :
    entries list = (given list).map fun part => String.ofList (trimBlanks part) := by
  rw [entries, given, splitAll_eq_splitOn, List.filter_map]
  congr 1
  apply List.filter_congr
  intro part _
  have blank_iff : trimBlanks part = [] ↔ part.all isBlank = true := trimBlanks_eq_nil_iff
  cases blank : part.all isBlank <;> simp [blank_iff, blank]

theorem mapM_eq_ok_iff {α β ε : Type} {f : α → Except ε β} {xs : List α} {ys : List β} :
    xs.mapM f = .ok ys ↔ List.Forall₂ (fun x y => f x = .ok y) xs ys := by
  induction xs generalizing ys with
  | nil => cases ys <;> simp [pure, Except.pure]
  | cons x xs ih =>
    rw [List.mapM_cons]
    cases head : f x with
    | error e => cases ys <;> simp [bind, Except.bind, head]
    | ok y =>
      cases tail : xs.mapM f with
      | error e => cases ys <;> simp [bind, Except.bind, ← ih, tail, head]
      | ok zs => cases ys <;> simp [bind, Except.bind, pure, Except.pure, ← ih, tail, head]

/-- A list is read as the queues that its entries ask for, one after the other. -/
theorem parseList_eq_ok_iff :
    parseList list default = .ok queues ↔
      queues ≠ [] ∧ List.Forall₂ (Asks default) (given list) queues := by
  have entry (part : List Char) (q : WorkQueue) :
      parse (String.ofList (trimBlanks part)) default = .ok q ↔ Asks default part q := by
    obtain ⟨before, after, blank, blank', whole, _⟩ := trims_trimBlanks part
    rw [parse_eq_ok_iff, ← asks_between blank blank', ← whole]
  have read : (entries list).mapM (parse · default) = .ok queues ↔
      List.Forall₂ (Asks default) (given list) queues := by
    rw [mapM_eq_ok_iff, entries_eq, List.forall₂_map_left_iff]
    simp only [entry]
  rw [← read, parseList]
  cases (entries list).mapM (parse · default) with
  | error e => simp
  | ok found => cases found <;> cases queues <;> simp

/-- Every entry of the list that is not blank asks for a queue, and there is one. -/
def Acceptable (default : UInt64) (list : String) : Prop :=
  given list ≠ [] ∧ ∀ part ∈ given list, ∃ q, Asks default part q

structure Proper (q : WorkQueue) : Prop where
  named : q.name ≠ ""
  no_comma : ',' ∉ q.name.toList
  no_colon : ':' ∉ q.name.toList
  trim : IsTrim q.name.toList
  staffed : 1 ≤ q.workers

def entry (q : WorkQueue) : String := q.name ++ ":" ++ toString q.workers

/-- The ways to write an entry: with blanks around the name and the count, and without the count
where it is the default. -/
inductive Writes (default : UInt64) (q : WorkQueue) : List Char → Prop
  | counted {a b c d : List Char} : a.all isBlank = true → b.all isBlank = true →
      c.all isBlank = true → d.all isBlank = true →
      Writes default q
        ((a ++ q.name.toList ++ b) ++ ':' :: (c ++ (toString q.workers).toList ++ d))
  | plain {a b : List Char} : a.all isBlank = true → b.all isBlank = true →
      q.workers = default → Writes default q (a ++ q.name.toList ++ b)

/-- The ways to write queues as entries, with blank ones among them. -/
inductive Renders (default : UInt64) : List WorkQueue → List (List Char) → Prop
  | nil : Renders default [] []
  | blank {queues : List WorkQueue} {part : List Char} {parts : List (List Char)} :
      part.all isBlank = true → Renders default queues parts →
      Renders default queues (part :: parts)
  | queue {q : WorkQueue} {queues : List WorkQueue} {part : List Char}
      {parts : List (List Char)} : Writes default q part → Renders default queues parts →
      Renders default (q :: queues) (part :: parts)

theorem isTrim_repr (n : Nat) : IsTrim n.repr.toList := by
  have black {c : Char} (mem : c ∈ n.repr.toList) : isBlank c = false := by
    rw [Nat.toList_repr] at mem
    exact isBlank_of_isDigit (Nat.isDigit_of_mem_toDigits (by omega) (by omega) mem)
  exact ⟨fun c found => black (List.mem_of_head? found),
    fun c found => black (List.mem_of_getLast? found)⟩

/-- In whatever way it is written, an entry asks for its queue. -/
theorem Proper.asks (proper : Proper q) (writes : Writes default q part) :
    Asks default part q := by
  have named : q.name.toList ≠ [] := by simpa using proper.named
  have no_colon {a b : List Char} (blank : a.all isBlank = true) (blank' : b.all isBlank = true) :
      ':' ∉ a ++ q.name.toList ++ b := by
    have free := not_mem_of_all_blank blank (c := ':') (by decide)
    have free' := not_mem_of_all_blank blank' (c := ':') (by decide)
    simp [free, free', proper.no_colon]
  cases writes with
  | counted blank blank' blank_c blank_d =>
    have asks : Asks default _ ⟨_, q.workers⟩ := .counted (no_colon blank blank')
      ⟨_, _, blank, blank', rfl, proper.trim⟩ named
      ⟨_, _, blank_c, blank_d, rfl, isTrim_repr q.workers.toNat⟩
      (isCount_repr q.workers.toNat_lt) proper.staffed
    rwa [String.ofList_toList] at asks
  | plain blank blank' same =>
    subst same
    have asks := Asks.plain (no_colon blank blank') ⟨_, _, blank, blank', rfl, proper.trim⟩ named
      proper.staffed
    rwa [String.ofList_toList] at asks

theorem Writes.no_comma (no_comma : ',' ∉ q.name.toList) (writes : Writes default q part) :
    ',' ∉ part := by
  have free {ws : List Char} (blank : ws.all isBlank = true) : ',' ∉ ws :=
    not_mem_of_all_blank blank (by decide)
  have digits : ',' ∉ (toString q.workers).toList := by
    intro mem
    rw [show toString q.workers = q.workers.toNat.repr from rfl, Nat.toList_repr] at mem
    exact absurd (Nat.isDigit_of_mem_toDigits (by omega) (by omega) mem) (by decide)
  cases writes with
  | counted blank blank' blank_c blank_d =>
    simp [free blank, free blank', free blank_c, free blank_d, no_comma, digits]
  | plain blank blank' _ => simp [free blank, free blank', no_comma]

/-- What asks for a queue is not blank. -/
theorem Asks.not_blank (asks : Asks default cs q) : cs.all isBlank = false := by
  cases asks with
  | plain _ trims named _ =>
    have some_char : trimBlanks cs ≠ [] := by rwa [trimBlanks_eq trims]
    rwa [Ne, trimBlanks_eq_nil_iff, Bool.not_eq_true] at some_char
  | counted =>
    have colon : isBlank ':' = false := by decide
    simp [colon]

/-- However queues are written, the entries that are not blank ask for them. -/
theorem Renders.asks (renders : Renders default queues parts) (proper : ∀ q ∈ queues, Proper q) :
    List.Forall₂ (Asks default) (parts.filter fun part => !part.all isBlank) queues := by
  induction renders with
  | nil => exact .nil
  | blank blank _ ih =>
    rw [List.filter_cons_of_neg (by simp [blank])]
    exact ih proper
  | queue writes _ ih =>
    have asks := (proper _ List.mem_cons_self).asks writes
    rw [List.filter_cons_of_pos (by simp [asks.not_blank])]
    exact .cons asks (ih fun q mem => proper q (List.mem_cons_of_mem _ mem))

theorem Renders.no_comma (renders : Renders default queues parts)
    (proper : ∀ q ∈ queues, Proper q) : ∀ part ∈ parts, ',' ∉ part := by
  induction renders with
  | nil => simp
  | blank blank _ ih =>
    rw [List.forall_mem_cons]
    exact ⟨not_mem_of_all_blank blank (by decide), ih proper⟩
  | queue writes _ ih =>
    rw [List.forall_mem_cons]
    exact ⟨writes.no_comma (proper _ List.mem_cons_self).no_comma,
      ih fun q mem => proper q (List.mem_cons_of_mem _ mem)⟩

theorem Renders.ne_nil (renders : Renders default queues parts) (some_queue : queues ≠ []) :
    parts ≠ [] := by
  cases renders with
  | nil => exact absurd rfl some_queue
  | blank => exact List.cons_ne_nil _ _
  | queue => exact List.cons_ne_nil _ _

/-- However queues are written, they are read back. -/
theorem Renders.parseList (renders : Renders default queues parts) (some_queue : queues ≠ [])
    (proper : ∀ q ∈ queues, Proper q) :
    parseList (String.ofList ([','].intercalate parts)) default = .ok queues := by
  rw [parseList_eq_ok_iff, given, String.toList_ofList,
    List.splitOn_intercalate ',' (renders.no_comma proper) (renders.ne_nil some_queue)]
  exact ⟨some_queue, renders.asks proper⟩

def written (queues : List WorkQueue) : String := ",".intercalate (queues.map entry)

end WorkQueue

end ImageWorker
