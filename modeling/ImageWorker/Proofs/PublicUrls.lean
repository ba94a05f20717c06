import ImageWorker.Proofs.DestinationKeys
import ImageWorker.Proofs.JsonGrammar
import ImageWorker.Storage.PublicUrl
import Mathlib.Data.List.DropRight

/-!
# What a public URL names

A URL names an object by its path: the part before any query and fragment, after the scheme and the
authority, with every percent sign and two hexadecimal digits read as one octet. The public URL of a
result is the base, a slash and the key as it stands, so its path ends in the key exactly if the key
has none of the marks that a URL gives a meaning to. The path of a signed URL is encoded and ends in
the key always.
-/

namespace ImageWorker.Url

open Json (hexDigit?)

variable {cs ds : List Char} {base d : String}

def beforeQuery (cs : List Char) : List Char := cs.takeWhile fun c => c ≠ '?' && c ≠ '#'

def inScheme (c : Char) : Bool := c ≠ ':' && c ≠ '/'

def afterScheme (cs : List Char) : List Char :=
  if cs.takeWhile inScheme ≠ [] ∧ (cs.dropWhile inScheme).head? = some ':' then
    (cs.dropWhile inScheme).tail
  else cs

def afterAuthority : List Char → List Char
  | '/' :: '/' :: rest => rest.dropWhile (· ≠ '/')
  | cs => cs

def path (url : String) : List Char := afterAuthority (afterScheme (beforeQuery url.toList))

/-- What a path stands for. -/
def decoded : List Char → Bytes
  | '%' :: a :: b :: rest =>
    match hexDigit? a, hexDigit? b with
    | some x, some y => UInt8.ofNat (16 * x + y) :: decoded rest
    | _, _ => octet '%' :: decoded (a :: b :: rest)
  | c :: rest => String.utf8EncodeChar c ++ decoded rest
  | [] => []

/-- What a URL names. -/
def object (url : String) : Bytes := decoded (path url)

def withoutSlashes (cs : List Char) : List Char := cs.rdropWhile (· = '/')

/-- Some percent sign has two digits behind it. -/
def Escapes (cs : List Char) : Prop :=
  ∃ front a b rest, cs = front ++ '%' :: a :: b :: rest ∧
    (hexDigit? a).isSome ∧ (hexDigit? b).isSome

theorem exists_slashes (cs : List Char) :
    ∃ n, cs = withoutSlashes cs ++ List.replicate n '/' := by
  have slashes : ∀ c ∈ cs.rtakeWhile (· = '/'), c = '/' := fun c mem => by
    simpa using List.mem_rtakeWhile_imp mem
  refine ⟨(cs.rtakeWhile (· = '/')).length, ?_⟩
  rw [← List.eq_replicate_of_mem slashes]
  exact List.rdropWhile_append_rtakeWhile.symm

theorem withoutSlashes_append_replicate (cs : List Char) (n : Nat) :
    withoutSlashes (cs ++ List.replicate n '/') = withoutSlashes cs := by
  induction n with
  | zero => simp
  | succ n ih =>
    rw [List.replicate_succ', ← List.append_assoc, withoutSlashes,
      List.rdropWhile_concat_pos _ _ _ (by simp)]
    exact ih

theorem withoutSlashes_idem (cs : List Char) :
    withoutSlashes (withoutSlashes cs) = withoutSlashes cs :=
  List.rdropWhile_idempotent _ _

/-- What a text that ends in no slash ends in does so neither. -/
theorem withoutSlashes_of_suffix (ends : withoutSlashes cs = cs) (suffix : ds <:+ cs) :
    withoutSlashes ds = ds := by
  rw [withoutSlashes, List.rdropWhile_eq_self_iff] at ends ⊢
  intro some
  have some' : cs ≠ [] := fun none => some (List.suffix_nil.mp (none ▸ suffix))
  rw [suffix.getLast some]
  exact ends some'

theorem beforeQuery_append (plain : '?' ∉ cs ∧ '#' ∉ cs) :
    beforeQuery (cs ++ ds) = cs ++ beforeQuery ds := by
  refine List.takeWhile_append_of_pos fun c mem => ?_
  have query : c ≠ '?' := fun same => plain.1 (same ▸ mem)
  have fragment : c ≠ '#' := fun same => plain.2 (same ▸ mem)
  simp [query, fragment]

theorem beforeQuery_eq_self_iff : beforeQuery cs = cs ↔ '?' ∉ cs ∧ '#' ∉ cs := by
  rw [beforeQuery, List.takeWhile_eq_self_iff]
  constructor
  · intro plain
    exact ⟨fun mem => by simpa using plain _ mem, fun mem => by simpa using plain _ mem⟩
  · intro plain
    have whole : beforeQuery (cs ++ []) = cs ++ [] := beforeQuery_append plain
    rw [List.append_nil] at whole
    exact List.takeWhile_eq_self_iff.mp whole

/-- What stops a reader does so behind any text. -/
theorem span_append {p : Char → Bool} (stops : ∀ c ∈ ds.head?, p c = false) (cs : List Char) :
    (cs ++ ds).takeWhile p = cs.takeWhile p ∧ (cs ++ ds).dropWhile p = cs.dropWhile p ++ ds := by
  induction cs with
  | nil =>
    cases ds with
    | nil => exact ⟨rfl, rfl⟩
    | cons c ds => simp [stops c rfl]
  | cons c cs ih =>
    rw [List.cons_append, List.takeWhile_cons, List.dropWhile_cons, List.takeWhile_cons,
      List.dropWhile_cons, ih.1, ih.2]
    cases p c <;> exact ⟨rfl, rfl⟩

theorem afterScheme_suffix (cs : List Char) : afterScheme cs <:+ cs := by
  rw [afterScheme]
  split
  · exact (List.tail_suffix _).trans (List.dropWhile_suffix _)
  · exact List.suffix_rfl

theorem afterAuthority_suffix (cs : List Char) : afterAuthority cs <:+ cs := by
  rw [afterAuthority.eq_def]
  split
  next rest =>
    exact (List.dropWhile_suffix _).trans ((List.suffix_cons _ _).trans (List.suffix_cons _ _))
  next => exact List.suffix_rfl

/-- A slash is in no scheme. -/
theorem afterScheme_append (slash : ∀ c ∈ ds.head?, c = '/') (cs : List Char) :
    afterScheme (cs ++ ds) = afterScheme cs ++ ds := by
  have stops : ∀ c ∈ ds.head?, inScheme c = false := by
    intro c first
    rw [slash c first]
    rfl
  have no_colon : ds.head? ≠ some ':' := fun first => absurd (slash ':' first) (by decide)
  obtain ⟨taken, left⟩ := span_append stops cs
  rw [afterScheme, afterScheme, taken, left]
  cases cs.dropWhile inScheme with
  | nil => simp [no_colon]
  | cons c r =>
    rw [List.cons_append, List.head?_cons, List.head?_cons, List.tail_cons, List.tail_cons]
    split <;> rfl

/-- A slash ends the authority, and one slash alone begins none. -/
theorem afterAuthority_append (some : cs ≠ []) (ends : withoutSlashes cs = cs)
    (slash : ∀ c ∈ ds.head?, c = '/') : afterAuthority (cs ++ ds) = afterAuthority cs ++ ds := by
  have stops : ∀ c ∈ ds.head?, decide (c ≠ '/') = false := by
    intro c first
    rw [slash c first]
    rfl
  rcases cs with - | ⟨a, - | ⟨b, r⟩⟩
  · exact absurd rfl some
  · have plain : a ≠ '/' := by
      rintro rfl
      cases ends
    simp [afterAuthority, plain]
  · by_cases both : a = '/' ∧ b = '/'
    · obtain ⟨rfl, rfl⟩ := both
      exact (span_append stops r).2
    · have other (r : List Char) : afterAuthority (a :: b :: r) = a :: b :: r := by
        rw [afterAuthority]
        rintro rest same
        cases same
        exact both ⟨rfl, rfl⟩
      rw [List.cons_append, List.cons_append, other, other]
      rfl

theorem afterAuthority_slash (first : cs.head? ≠ some '/') :
    afterAuthority ('/' :: cs) = '/' :: cs := by
  rw [afterAuthority]
  rintro rest same
  cases same
  exact first rfl

theorem withoutSlashes_replicate (n : Nat) : withoutSlashes (List.replicate n '/') = [] :=
  withoutSlashes_append_replicate [] n

theorem toList_publicUrlBelow (base key : String) :
    (publicUrlBelow base key).toList =
      withoutSlashes base.toList ++ '/' :: key.toList.dropWhile (· = '/') := by
  simp [publicUrlBelow, withoutTrailingSlashes, withoutLeadingSlashes, withoutSlashes,
    List.rdropWhile]

/-- The path of a base, whatever slashes the base ends in. -/
theorem withoutSlashes_path (plain : '?' ∉ base.toList ∧ '#' ∉ base.toList) :
    withoutSlashes (path base) = afterAuthority (afterScheme (withoutSlashes base.toList)) := by
  obtain ⟨n, cut⟩ := exists_slashes base.toList
  have ends := withoutSlashes_of_suffix (withoutSlashes_idem base.toList) (afterScheme_suffix _)
  have slash : ∀ c ∈ (List.replicate n '/').head?, c = '/' := fun c first =>
    List.eq_of_mem_replicate (List.mem_of_mem_head? first)
  rw [path, beforeQuery_eq_self_iff.mpr plain]
  conv_lhs => rw [cut, afterScheme_append slash]
  by_cases empty : afterScheme (withoutSlashes base.toList) = []
  · have slashes : afterAuthority (List.replicate n '/') <:+ List.replicate n '/' :=
      afterAuthority_suffix _
    obtain ⟨m, _, same⟩ := List.sublist_replicate_iff.mp slashes.sublist
    rw [empty, List.nil_append, same, withoutSlashes_replicate]
    rfl
  · rw [afterAuthority_append empty ends slash, withoutSlashes_append_replicate]
    exact withoutSlashes_of_suffix ends (afterAuthority_suffix _)

theorem path_publicUrlBelow (plain : '?' ∉ base.toList ∧ '#' ∉ base.toList) (key : String) :
    path (publicUrlBelow base key) = withoutSlashes (path base) ++
      '/' :: beforeQuery (key.toList.dropWhile (· = '/')) := by
  have core : '?' ∉ withoutSlashes base.toList ∧ '#' ∉ withoutSlashes base.toList :=
    ⟨fun mem => plain.1 ((List.rdropWhile_prefix _ _).subset mem),
      fun mem => plain.2 ((List.rdropWhile_prefix _ _).subset mem)⟩
  have ends := withoutSlashes_of_suffix (withoutSlashes_idem base.toList) (afterScheme_suffix _)
  have first : (beforeQuery (key.toList.dropWhile (· = '/'))).head? ≠ some '/' := by
    have stopped := List.head?_dropWhile_not (· = '/') key.toList
    rw [beforeQuery, List.head?_takeWhile]
    intro slash
    rw [(Option.filter_eq_some_iff.mp slash).1] at stopped
    cases stopped
  have slash (r : List Char) : ∀ c ∈ ('/' :: r).head?, c = '/' := by simp
  have below (r : List Char) : beforeQuery ('/' :: r) = '/' :: beforeQuery r := rfl
  rw [withoutSlashes_path plain, path, toList_publicUrlBelow, beforeQuery_append core, below,
    afterScheme_append (slash _)]
  by_cases empty : afterScheme (withoutSlashes base.toList) = []
  · rw [empty, List.nil_append, afterAuthority_slash first]
    rfl
  · exact afterAuthority_append empty ends (slash _)

theorem decoded_cons_of_ne {c : Char} (differ : c ≠ '%') (cs : List Char) :
    decoded (c :: cs) = String.utf8EncodeChar c ++ decoded cs := by
  rw [decoded]
  rintro a b rest rfl
  exact absurd rfl differ

theorem decoded_escape {a b : Char} {x y : Nat} (ha : hexDigit? a = some x)
    (hb : hexDigit? b = some y) (cs : List Char) :
    decoded ('%' :: a :: b :: cs) = UInt8.ofNat (16 * x + y) :: decoded cs := by
  simp only [decoded, ha, hb]

/-- A percent sign stands for itself if no two digits follow. -/
theorem decoded_percent
    (plain : ∀ a b rest, cs = a :: b :: rest → ¬((hexDigit? a).isSome ∧ (hexDigit? b).isSome)) :
    decoded ('%' :: cs) = octet '%' :: decoded cs := by
  have itself : String.utf8EncodeChar '%' = [octet '%'] := rfl
  rcases cs with - | ⟨a, - | ⟨b, rest⟩⟩
  · rfl
  · simp [decoded, itself]
  · rw [decoded]
    split
    next x y ha hb => exact absurd ⟨ha ▸ rfl, hb ▸ rfl⟩ (plain a b rest rfl)
    next => rfl

/-- No escape goes over a slash. -/
theorem decoded_append_slash (cs ds : List Char) :
    decoded (cs ++ '/' :: ds) = decoded cs ++ octet '/' :: decoded ds := by
  have slash : decoded ('/' :: ds) = octet '/' :: decoded ds := decoded_cons_of_ne (by decide) ds
  have no_digit : hexDigit? '/' = none := by decide
  fun_induction decoded cs with
  | case1 a b rest x y hb ha ih =>
    rw [List.cons_append, List.cons_append, List.cons_append, decoded_escape ha hb, ih,
      List.cons_append]
  | case2 a b rest none ih =>
    have plain : ∀ a' b' rest', a :: b :: rest ++ '/' :: ds = a' :: b' :: rest' →
        ¬((hexDigit? a').isSome ∧ (hexDigit? b').isSome) := by
      rintro a' b' rest' same ⟨ha, hb⟩
      cases same
      exact none _ _ (Option.some_get ha).symm (Option.some_get hb).symm
    rw [List.cons_append, decoded_percent plain, ih, List.cons_append]
  | case3 c rest short ih =>
    by_cases percent : c = '%'
    · subst percent
      have plain : ∀ a b rest', rest ++ '/' :: ds = a :: b :: rest' →
          ¬((hexDigit? a).isSome ∧ (hexDigit? b).isSome) := by
        rintro a b rest' same ⟨ha, hb⟩
        rcases rest with - | ⟨a', - | ⟨b', rest⟩⟩
        · cases same
          cases ha
        · cases same
          cases hb
        · exact short a' b' rest rfl rfl
      rw [List.cons_append, decoded_percent plain, ih]
      rfl
    · rw [List.cons_append, decoded_cons_of_ne percent, ih, List.append_assoc]
  | case4 => exact slash

theorem escapes_cons {c : Char} : Escapes (c :: cs) ↔ Escapes cs ∨ c = '%' ∧
    ∃ a b rest, cs = a :: b :: rest ∧ (hexDigit? a).isSome ∧ (hexDigit? b).isSome := by
  constructor
  · rintro ⟨front, a, b, rest, same, digits⟩
    cases front with
    | nil =>
      cases same
      exact Or.inr ⟨rfl, a, b, rest, rfl, digits⟩
    | cons c' front =>
      cases same
      exact Or.inl ⟨front, a, b, rest, rfl, digits⟩
  · rintro (⟨front, a, b, rest, rfl, digits⟩ | ⟨rfl, a, b, rest, rfl, digits⟩)
    · exact ⟨c :: front, a, b, rest, rfl, digits⟩
    · exact ⟨[], a, b, rest, rfl, digits⟩

theorem not_escapes_nil : ¬Escapes [] := by
  rintro ⟨front, a, b, rest, same, _⟩
  simp at same

theorem decoded_of_plain (plain : ¬Escapes cs) : decoded cs = utf8 cs := by
  induction cs with
  | nil => rfl
  | cons c cs ih =>
    rw [escapes_cons, not_or] at plain
    by_cases percent : c = '%'
    · subst percent
      have alone : ∀ a b rest, cs = a :: b :: rest →
          ¬((hexDigit? a).isSome ∧ (hexDigit? b).isSome) :=
        fun a b rest same digits => plain.2 ⟨rfl, a, b, rest, same, digits⟩
      rw [decoded_percent alone, ih plain.1, utf8_cons]
      rfl
    · rw [decoded_cons_of_ne percent, ih plain.1, utf8_cons]

theorem length_utf8_triple (a b c : Char) (cs : List Char) :
    3 + (utf8 cs).length ≤ (utf8 (a :: b :: c :: cs)).length := by
  have three : 3 ≤ (utf8 [a, b, c]).length := length_le_utf8 [a, b, c]
  have cut : utf8 (a :: b :: c :: cs) = utf8 [a, b, c] ++ utf8 cs := utf8_append [a, b, c] cs
  rw [cut, List.length_append]
  omega

theorem length_decoded_le (cs : List Char) : (decoded cs).length ≤ (utf8 cs).length := by
  fun_induction decoded cs with
  | case1 a b rest x y hb ha ih =>
    have triple := length_utf8_triple '%' a b rest
    rw [List.length_cons]
    omega
  | case2 a b rest none ih =>
    rw [utf8_cons '%', List.length_append, List.length_cons]
    have one : (String.utf8EncodeChar '%').length = 1 := rfl
    omega
  | case3 c rest short ih =>
    rw [utf8_cons, List.length_append, List.length_append]
    omega
  | case4 => exact Nat.le_refl _

/-- An escape is longer than what it stands for. -/
theorem length_decoded_lt (escapes : Escapes cs) : (decoded cs).length < (utf8 cs).length := by
  fun_induction decoded cs with
  | case1 a b rest x y hb ha ih =>
    have triple := length_utf8_triple '%' a b rest
    have le := length_decoded_le rest
    rw [List.length_cons]
    omega
  | case2 a b rest none ih =>
    have later : Escapes (a :: b :: rest) := by
      rcases escapes_cons.mp escapes with later | ⟨_, a', b', rest', same, ha, hb⟩
      · exact later
      · cases same
        exact absurd (Option.some_get hb).symm (none _ _ (Option.some_get ha).symm)
    have lt := ih later
    rw [utf8_cons '%', List.length_append, List.length_cons]
    have one : (String.utf8EncodeChar '%').length = 1 := rfl
    omega
  | case3 c rest short ih =>
    have later : Escapes rest := by
      rcases escapes_cons.mp escapes with later | ⟨percent, a, b, rest', same, _⟩
      · exact later
      · exact absurd same (short a b rest' percent)
    have lt := ih later
    rw [utf8_cons, List.length_append, List.length_append]
    omega
  | case4 => exact absurd escapes not_escapes_nil

theorem decoded_eq_utf8_iff : decoded cs = utf8 cs ↔ ¬Escapes cs := by
  refine ⟨fun same escapes => ?_, decoded_of_plain⟩
  have lt := length_decoded_lt escapes
  rw [same] at lt
  exact Nat.lt_irrefl _ lt

theorem hexDigit?_upperHexDigit {n : UInt8} (digit : n.toNat < 16) :
    hexDigit? (upperHexDigit n) = some n.toNat := by
  have all : ∀ m : Fin 16, hexDigit? (upperHexDigit (UInt8.ofNat m)) = some m.val := by decide
  simpa using all ⟨n.toNat, digit⟩

theorem encode_of_staysInPath {b : UInt8} (stays : staysInPath b = true) :
    Char.ofNat b.toNat ≠ '%' ∧ String.utf8EncodeChar (Char.ofNat b.toNat) = [b] := by
  have all : ∀ n < 256, staysInPath (UInt8.ofNat n) = true → Char.ofNat n ≠ '%' ∧
      String.utf8EncodeChar (Char.ofNat n) = [UInt8.ofNat n] := by decide +kernel
  have here := all b.toNat b.toNat_lt
  rw [UInt8.ofNat_toNat] at here
  exact here stays

theorem decoded_octet (b : UInt8) (cs : List Char) :
    decoded ((if staysInPath b then [Char.ofNat b.toNat]
      else ['%', upperHexDigit (b / 16), upperHexDigit (b % 16)]) ++ cs) = b :: decoded cs := by
  split
  next stays =>
    obtain ⟨other, code⟩ := encode_of_staysInPath stays
    rw [List.singleton_append, decoded_cons_of_ne other, code, List.singleton_append]
  next =>
    have bound : b.toNat < 256 := b.toNat_lt
    have high : (b / 16).toNat = b.toNat / 16 := UInt8.toNat_div b 16
    have low : (b % 16).toNat = b.toNat % 16 := UInt8.toNat_mod b 16
    have first : hexDigit? (upperHexDigit (b / 16)) = some (b / 16).toNat :=
      hexDigit?_upperHexDigit (by omega)
    have second : hexDigit? (upperHexDigit (b % 16)) = some (b % 16).toNat :=
      hexDigit?_upperHexDigit (by omega)
    have both : decoded ('%' :: upperHexDigit (b / 16) :: upperHexDigit (b % 16) :: cs) =
        UInt8.ofNat (16 * (b / 16).toNat + (b % 16).toNat) :: decoded cs :=
      decoded_escape first second cs
    rwa [high, low, Nat.div_add_mod, UInt8.ofNat_toNat] at both

/-- An encoded key is read as the key, whatever its characters are. -/
theorem decoded_percentEncoded (key : String) :
    decoded (percentEncoded key).toList = utf8 key.toList := by
  rw [percentEncoded, String.toList_ofList, ofText_eq_utf8]
  induction utf8 key.toList with
  | nil => rfl
  | cons b bs ih => rw [List.flatMap_cons, decoded_octet, ih]

/-- Nothing in a key has a meaning of its own in a URL. -/
structure Unmarked (key : String) : Prop where
  query : '?' ∉ key.toList
  fragment : '#' ∉ key.toList
  escape : ¬Escapes key.toList

theorem decoded_beforeQuery_eq_iff (key : String) :
    decoded (beforeQuery key.toList) = utf8 key.toList ↔ Unmarked key := by
  constructor
  · intro same
    obtain ⟨rest, cut⟩ : beforeQuery key.toList <+: key.toList := List.takeWhile_prefix _
    have parts : utf8 (beforeQuery key.toList) ++ utf8 rest = utf8 key.toList := by
      rw [← utf8_append, cut]
    have none : rest = [] := by
      have le := length_decoded_le (beforeQuery key.toList)
      have behind := length_le_utf8 rest
      rw [same, ← parts, List.length_append] at le
      exact List.length_eq_zero_iff.mp (by omega)
    have whole : beforeQuery key.toList = key.toList := by rwa [none, List.append_nil] at cut
    rw [whole] at same
    have plain := beforeQuery_eq_self_iff.mp whole
    exact ⟨plain.1, plain.2, decoded_eq_utf8_iff.mp same⟩
  · intro plain
    rw [beforeQuery_eq_self_iff.mpr ⟨plain.query, plain.fragment⟩]
    exact decoded_of_plain plain.escape

theorem no_slash_ahead {k : String} {t : Transformation} (derived : destinationKey k t = .ok d) :
    d.toList.dropWhile (· = '/') = d.toList := by
  obtain ⟨_, name, _, _, _, rfl⟩ := destinationKey_eq_ok_iff.mp derived
  rw [toList_join]
  rfl

theorem utf8_inj {key key' : String} (same : utf8 key.toList = utf8 key'.toList) : key = key' := by
  have read := text?_utf8 key
  rw [same, text?_utf8] at read
  exact (Option.some.inj read).symm

theorem object_publicUrlBelow {k : String} {t : Transformation}
    (plain : '?' ∉ base.toList ∧ '#' ∉ base.toList) (derived : destinationKey k t = .ok d) :
    object (publicUrlBelow base d) =
      decoded (withoutSlashes (path base)) ++ octet '/' :: decoded (beforeQuery d.toList) := by
  rw [object, path_publicUrlBelow plain, no_slash_ahead derived, decoded_append_slash]

/-- The path of the public URL of a result is the path of the base, a slash and the key up to its
first query or fragment mark. So it names the key exactly if nothing in the key has a meaning of its
own, and two such keys name different objects. -/
theorem public_url_names (s : StoreSettings) (base k d : String) (t : Transformation)
    (set : s.publicBase = some base) (plain : '?' ∉ base.toList ∧ '#' ∉ base.toList)
    (derived : destinationKey k t = .ok d) :
    ∃ url, s.publicUrl d = .ok url ∧
      path url = withoutSlashes (path base) ++ '/' :: beforeQuery d.toList ∧
      (object url = decoded (withoutSlashes (path base)) ++ octet '/' :: utf8 d.toList ↔
        Unmarked d) ∧
      ∀ k' d' t', destinationKey k' t' = .ok d' → ∃ url', s.publicUrl d' = .ok url' ∧
        (object url = object url' ↔
          decoded (beforeQuery d.toList) = decoded (beforeQuery d'.toList)) ∧
        (Unmarked d → Unmarked d' → object url = object url' → d = d') := by
  have below (key : String) : s.publicUrl key = .ok (publicUrlBelow base key) := by
    simp only [StoreSettings.publicUrl, set]
  have named := object_publicUrlBelow plain derived
  refine ⟨_, below d, ?_, ?_, fun k' d' t' derived' => ⟨_, below d', ?_⟩⟩
  · rw [path_publicUrlBelow plain, no_slash_ahead derived]
  · rw [named, List.append_cancel_left_eq, List.cons.injEq, and_iff_right rfl,
      decoded_beforeQuery_eq_iff]
  · have shared : object (publicUrlBelow base d) = object (publicUrlBelow base d') ↔
        decoded (beforeQuery d.toList) = decoded (beforeQuery d'.toList) := by
      rw [named, object_publicUrlBelow plain derived', List.append_cancel_left_eq, List.cons.injEq,
        and_iff_right rfl]
    refine ⟨shared, fun unmarked unmarked' same => ?_⟩
    have read := shared.mp same
    rw [(decoded_beforeQuery_eq_iff d).mpr unmarked, (decoded_beforeQuery_eq_iff d').mpr unmarked']
      at read
    exact utf8_inj read

def behindBase (base : String) : StoreSettings :=
  { StoreSettings.ofBucket "images" with publicBase := some base }

/-- Blanks and letters beyond ASCII are named as they stand. -/
theorem public_url_names_of_unmarked :
    ∃ url, (behindBase "https://cdn.test/img//").publicUrl "processed/é b.png" = .ok url ∧
      object url = utf8 "/img/processed/é b.png".toList := by
  have derived : destinationKey "raw/é b.png" (.rotate .deg90) = .ok "processed/é b.png" := rfl
  have unmarked : Unmarked "processed/é b.png" :=
    ⟨by decide, by decide, decoded_eq_utf8_iff.mp (by decide)⟩
  obtain ⟨url, given, -, named, -⟩ := public_url_names (behindBase "https://cdn.test/img//")
    "https://cdn.test/img//" _ _ _ rfl (by decide) derived
  have base : decoded (withoutSlashes (path "https://cdn.test/img//")) = utf8 "/img".toList := by
    decide
  refine ⟨url, given, ?_⟩
  rw [named.mpr unmarked, base]
  decide

/-- The URLs of two results name one object, which is neither of them. -/
theorem public_url_of_fragment :
    destinationKey "raw/a#b.png" (.rotate .deg90) = .ok "processed/a#b.png" ∧
    destinationKey "raw/a#c.png" (.rotate .deg90) = .ok "processed/a#c.png" ∧
    ∃ url url', (behindBase "https://cdn.test").publicUrl "processed/a#b.png" = .ok url ∧
      (behindBase "https://cdn.test").publicUrl "processed/a#c.png" = .ok url' ∧
      object url = utf8 "/processed/a".toList ∧ object url' = object url ∧
      object url ≠ decoded (withoutSlashes (path "https://cdn.test")) ++
        octet '/' :: utf8 "processed/a#b.png".toList :=
  ⟨rfl, rfl, _, _, rfl, rfl, by decide, by decide, by decide⟩

end ImageWorker.Url
