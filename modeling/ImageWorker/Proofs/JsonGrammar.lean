import ImageWorker.Json.Scanner
import ImageWorker.Proofs.TextOctets

/-!
# The grammar of JSON

The grammar of RFC 8259 as a relation between a tree and the characters that spell it, given with
the characters that are left behind it. A string spells a sequence of characters and UTF-16 units.
It names a text when each surrogate among the units stands in a pair, so the grammar comes in two
readings: in one a string names its pieces, whatever they are, in the other it has to name a text.
-/

namespace ImageWorker.Json

def isWhite (c : Char) : Bool := c == ' ' || c == '\t' || c == '\n' || c == '\r'

/-- Blanks only lie between two places. -/
def Blanks (cs rest : List Char) : Prop := ∃ ws, (∀ c ∈ ws, isWhite c = true) ∧ cs = ws ++ rest

inductive Piece where
  | char (c : Char)
  /-- A UTF-16 unit, by its four hexadecimal digits. -/
  | unit (n : Nat)

def hexDigit? (c : Char) : Option Nat :=
  if '0' ≤ c ∧ c ≤ '9' then some (c.toNat - '0'.toNat)
  else if 'A' ≤ c ∧ c ≤ 'F' then some (c.toNat - 'A'.toNat + 10)
  else if 'a' ≤ c ∧ c ≤ 'f' then some (c.toNat - 'a'.toNat + 10)
  else none

def unit? (a b c d : Char) : Option Nat := do
  return (((← hexDigit? a) * 16 + (← hexDigit? b)) * 16 + (← hexDigit? c)) * 16 + (← hexDigit? d)

/-- The character that is meant by a character after a reverse solidus. -/
def shortForm? : Char → Option Char
  | '"' => some '"'
  | '\\' => some '\\'
  | '/' => some '/'
  | 'b' => some '\x08'
  | 'f' => some '\x0c'
  | 'n' => some '\n'
  | 'r' => some '\r'
  | 't' => some '\t'
  | _ => none

/-- The pieces of a string, from after its opening quote to after its closing one. -/
inductive Literal : List Piece → List Char → List Char → Prop
  | close {rest : List Char} : Literal [] ('"' :: rest) rest
  | plain {c : Char} {ps : List Piece} {cs rest : List Char} : c ≠ '"' → c ≠ '\\' → 0x20 ≤ c.toNat →
      Literal ps cs rest → Literal (.char c :: ps) (c :: cs) rest
  | short {e c : Char} {ps : List Piece} {cs rest : List Char} : shortForm? e = some c →
      Literal ps cs rest → Literal (.char c :: ps) ('\\' :: e :: cs) rest
  | unit {a b c d : Char} {n : Nat} {ps : List Piece} {cs rest : List Char} :
      unit? a b c d = some n → Literal ps cs rest →
      Literal (.unit n :: ps) ('\\' :: 'u' :: a :: b :: c :: d :: cs) rest

/-- The characters that the pieces of a string stand for. -/
def chars? : List Piece → Option (List Char)
  | [] => some []
  | .char c :: ps => (chars? ps).map (c :: ·)
  | .unit n :: .unit m :: ps =>
    if isLowSurrogate n then none
    else if isHighSurrogate n then
      if isLowSurrogate m then
        (chars? ps).map (Char.ofNat (0x10000 + (n - 0xD800) * 0x400 + (m - 0xDC00)) :: ·)
      else none
    else (chars? (.unit m :: ps)).map (Char.ofNat n :: ·)
  | .unit n :: ps =>
    if isLowSurrogate n || isHighSurrogate n then none
    else (chars? ps).map (Char.ofNat n :: ·)

def Names (t : String) (cs rest : List Char) : Prop :=
  ∃ ps, Literal ps cs rest ∧ chars? ps = some t.toList

/-- A character that needs no escape inside a string. -/
def isPlain (c : Char) : Bool := c != '"' && c != '\\' && decide (0x20 ≤ c.toNat)

/-- A text in which nothing needs an escape is named by its own characters. -/
theorem names_self {t : String} {rest : List Char} (plain : t.toList.all isPlain = true) :
    Names t (t.toList ++ '"' :: rest) rest := by
  refine ⟨t.toList.map .char, ?_, ?_⟩
  · generalize t.toList = cs at plain
    induction cs with
    | nil => exact .close
    | cons c cs ih =>
      simp only [List.all_cons, isPlain, Bool.and_eq_true, bne_iff_ne, decide_eq_true_eq] at plain
      obtain ⟨⟨⟨quote, escape⟩, visible⟩, others⟩ := plain
      exact .plain quote escape visible (ih others)
  · generalize t.toList = cs
    induction cs with
    | nil => rfl
    | cons c cs ih => simp [chars?, ih]

def Digits (ds : List Char) : Prop := ds ≠ [] ∧ ∀ c ∈ ds, c.isDigit = true

inductive Fraction : List Char → Prop
  | none : Fraction []
  | digits {ds : List Char} : Digits ds → Fraction ('.' :: ds)

inductive Exponent : List Char → Prop
  | none : Exponent []
  | digits {e : Char} {sign ds : List Char} : e ∈ ['e', 'E'] → sign ∈ [[], ['+'], ['-']] →
      Digits ds → Exponent (e :: (sign ++ ds))

/-- A number has no leading zeros, and may have a sign, a fraction and an exponent. -/
structure Numeral (sign whole fraction exponent : List Char) : Prop where
  signed : sign ∈ [[], ['-']]
  digits : Digits whole
  leading : whole.head? = some '0' → whole = ['0']
  broken : Fraction fraction
  scaled : Exponent exponent

/-- A JSON value in which strings name values of `τ`. A number is known by its characters. -/
inductive Tree (τ : Type) where
  | null
  | bool (b : Bool)
  | number (cs : List Char)
  | text (t : τ)
  | list (items : List (Tree τ))
  | object (members : List (τ × Tree τ))

/-- A value, or what is left of a list or an object up to its closing bracket. -/
inductive Phrase (τ : Type) where
  | value (t : Tree τ)
  /-- `first` holds until an item has been spelled. -/
  | items (first : Bool) (ts : List (Tree τ))
  | members (first : Bool) (ms : List (τ × Tree τ))

/-- What stands before an item: blanks, and a comma among them unless it is the first. -/
inductive Separated : Bool → List Char → List Char → Prop
  | first {cs rest : List Char} : Blanks cs rest → Separated true cs rest
  | comma {cs cs' rest : List Char} : Blanks cs (',' :: cs') → Blanks cs' rest →
      Separated false cs rest

/-- The characters `cs` begin with a spelling of the phrase, and `rest` is left behind it; `named`
says which strings name what. -/
inductive Spells {τ : Type} (named : τ → List Char → List Char → Prop) :
    Phrase τ → List Char → List Char → Prop
  | null {rest : List Char} : Spells named (.value .null) ('n' :: 'u' :: 'l' :: 'l' :: rest) rest
  | yes {rest : List Char} :
      Spells named (.value (.bool true)) ('t' :: 'r' :: 'u' :: 'e' :: rest) rest
  | no {rest : List Char} :
      Spells named (.value (.bool false)) ('f' :: 'a' :: 'l' :: 's' :: 'e' :: rest) rest
  | number {sign whole fraction exponent rest : List Char} :
      Numeral sign whole fraction exponent →
      Spells named (.value (.number (sign ++ (whole ++ (fraction ++ exponent)))))
        (sign ++ (whole ++ (fraction ++ (exponent ++ rest)))) rest
  | text {t : τ} {cs rest : List Char} : named t cs rest →
      Spells named (.value (.text t)) ('"' :: cs) rest
  | list {ts : List (Tree τ)} {cs rest : List Char} : Spells named (.items true ts) cs rest →
      Spells named (.value (.list ts)) ('[' :: cs) rest
  | object {ms : List (τ × Tree τ)} {cs rest : List Char} :
      Spells named (.members true ms) cs rest → Spells named (.value (.object ms)) ('{' :: cs) rest
  | endItems {first : Bool} {cs rest : List Char} : Blanks cs (']' :: rest) →
      Spells named (.items first []) cs rest
  | item {first : Bool} {t : Tree τ} {ts : List (Tree τ)} {cs cs₁ cs₂ rest : List Char} :
      Separated first cs cs₁ → Spells named (.value t) cs₁ cs₂ →
      Spells named (.items false ts) cs₂ rest → Spells named (.items first (t :: ts)) cs rest
  | endMembers {first : Bool} {cs rest : List Char} : Blanks cs ('}' :: rest) →
      Spells named (.members first []) cs rest
  | member {first : Bool} {name : τ} {t : Tree τ} {ms : List (τ × Tree τ)}
      {cs cs₁ cs₂ cs₃ cs₄ cs₅ rest : List Char} :
      Separated first cs ('"' :: cs₁) → named name cs₁ cs₂ → Blanks cs₂ (':' :: cs₃) →
      Blanks cs₃ cs₄ → Spells named (.value t) cs₄ cs₅ →
      Spells named (.members false ms) cs₅ rest →
      Spells named (.members first ((name, t) :: ms)) cs rest

/-- The characters are a JSON text: they spell one value, with blanks around it. -/
def Whole {τ : Type} (named : τ → List Char → List Char → Prop) (t : Tree τ) (cs : List Char) :
    Prop :=
  ∃ cs' cs'', Blanks cs cs' ∧ Spells named (.value t) cs' cs'' ∧ Blanks cs'' []

/-- The text follows the grammar; its strings may hold surrogates outside of pairs. -/
def Grammatical (text : String) : Prop := ∃ t, Whole Literal t text.toList

/-- The text follows the grammar and all its strings name texts. -/
def WellFormed (t : Tree String) (text : String) : Prop := Whole Names t text.toList

end ImageWorker.Json
