import ImageWorker.Json.Record
import ImageWorker.Proofs.JsonStrings

/-!
# Reading back what was written

A codec round-trips when it reads back every value that it has written and leaves what stands after
it. Texts, optional texts and named variants do, and a record does when its fields do and their
names differ. Nothing is asked of the texts.
-/

namespace ImageWorker.Json

/-- What the codec writes is read back, up to where it ends. -/
def Codec.RoundTrips {α : Type} (c : Codec α) : Prop :=
  ∀ v rest, c.read (c.write v ++ rest) = .ok (v, rest)

theorem Codec.RoundTrips.decode {α : Type} {c : Codec α} (h : c.RoundTrips) (v : α) :
    c.decode (c.encode v) = .ok v := by
  have hr := h v []
  rw [List.append_nil] at hr
  simp [Codec.decode, Codec.encode, hr, skipSpace]

theorem Codec.RoundTrips.map {α β : Type} {c : Codec α} (h : c.RoundTrips) {f : α → β} {g : β → α}
    (hfg : ∀ v, f (g v) = v) : (c.map f g).RoundTrips := by
  intro v rest
  simp only [Codec.map, h (g v) rest, hfg]

theorem readText_written (expected t : String) (rest : Bytes) :
    readText expected (writeText t ++ rest) = .ok (t, rest) := by
  have opened : skipSpace (writeText t ++ rest) =
      0x22 :: ((Bytes.ofText t).flatMap escaped ++ 0x22 :: rest) := by
    simp [writeText, skipSpace, isSpace]
  simp only [readText, opened, beq_self_eq_true, if_true, string_written]

theorem Codec.text_roundTrips : Codec.text.RoundTrips := readText_written "a string"

theorem Codec.textOr_roundTrips (absent : String) : (Codec.textOr absent).RoundTrips :=
  readText_written "a string"

theorem Codec.optionalText_roundTrips : Codec.optionalText.RoundTrips := by
  intro v rest
  cases v with
  | none => rfl
  | some t =>
    have opened : skipSpace (writeText t ++ rest) = writeText t ++ rest := rfl
    have hr := readText_written "a string" t rest
    simp only [Codec.optionalText, readOptional, opened]
    split
    · rename_i h
      simp [writeText] at h
    · simp only [hr]

theorem Codec.variants_roundTrips {α : Type} {all : List α} {name : α → String}
    (known : ∀ v, variant (all.map fun v => (name v, v)) (name v) = .ok v) :
    (Codec.variants all name).RoundTrips := by
  intro v rest
  have opened : skipSpace (writeText (name v) ++ rest) =
      0x22 :: ((Bytes.ofText (name v)).flatMap escaped ++ 0x22 :: rest) := by
    simp [writeText, skipSpace, isSpace]
  simp only [Codec.variants, readVariant, opened, beq_self_eq_true, if_true, string_written]
  simp only [bind, Except.bind, known, pure, Except.pure]

namespace Fields

/-- The value of a member with another name is read by the fields after this one. -/
theorem readMember_of_ne {α β : Type} {name key : String} (h : key ≠ name) (codec : Codec α)
    (rest : Fields β) (v : Option α) (d : rest.Draft) (s : Bytes) :
    (cons name codec rest).readMember key (v, d) s =
      (rest.readMember key d s).map fun (d, r) => ((v, d), r) := by
  simp only [readMember, if_neg h]
  cases rest.readMember key d s <;> rfl

def RoundTrip : {ρ : Type} → Fields ρ → Prop
  | _, nil => True
  | _, cons _ codec rest => codec.RoundTrips ∧ rest.RoundTrip

/-- The draft in which every field has been met. -/
def filled : {ρ : Type} → (fs : Fields ρ) → ρ → fs.Draft
  | _, nil, _ => ()
  | _, cons _ _ rest, v => (some v.1, rest.filled v.2)

theorem complete_filled {ρ : Type} (fs : Fields ρ) (v : ρ) : fs.complete (fs.filled v) = .ok v := by
  induction fs with
  | nil => rfl
  | cons name codec rest ih => simp only [complete, filled, Option.some_or, ih]

theorem size_le_writeMembers {ρ : Type} (fs : Fields ρ) (lead : Bytes) (v : ρ) :
    fs.size ≤ (fs.writeMembers lead v).length := by
  induction fs generalizing lead with
  | nil => exact Nat.zero_le _
  | cons name codec rest ih =>
    have hrest := ih [0x2C] v.2
    simp only [size, writeMembers, List.length_append, List.length_cons]
    omega

def lead (first : Bool) : Bytes := if first then [] else [0x2C]

theorem nextMember_written (first : Bool) (name : String) (s : Bytes) :
    nextMember first (lead first ++ writeText name ++ s) =
      .ok (.item ((Bytes.ofText name).flatMap escaped ++ 0x22 :: s)) := by
  have written : writeText name ++ s =
      0x22 :: ((Bytes.ofText name).flatMap escaped ++ 0x22 :: s) := by simp [writeText]
  cases first <;> simp [nextMember, lead, written, skipSpace, isSpace]

/-- Reading the written members of some last fields of a record. `embed` puts a draft of these into
the draft of the whole record, in which the fields before them have been met. -/
theorem readMembers_written {ρ σ : Type} (fs : Fields ρ) (gs : Fields σ)
    (embed : gs.Draft → fs.Draft)
    (inside : ∀ key ∈ gs.names, ∀ d s,
      fs.readMember key (embed d) s = (gs.readMember key d s).map fun (d, r) => (embed d, r))
    (distinct : gs.names.Nodup) (reads : gs.RoundTrip) (first : Bool) (v : σ) (rest : Bytes)
    {fuel : Nat} (enough : gs.size < fuel) :
    fs.readMembers fuel first (embed gs.blank) (gs.writeMembers (lead first) v ++ rest) =
      .ok (embed (gs.filled v), rest) := by
  induction gs generalizing first fuel with
  | nil =>
    obtain ⟨fuel, rfl⟩ := Nat.exists_eq_succ_of_ne_zero (Nat.ne_of_gt enough)
    cases first <;> rfl
  | cons name codec gs ih =>
    obtain ⟨fuel, rfl⟩ := Nat.exists_eq_succ_of_ne_zero (Nat.ne_of_gt (Nat.zero_lt_of_lt enough))
    have fresh : name ∉ gs.names := (List.nodup_cons.mp distinct).1
    -- the first of these fields is met, and the draft says so
    have opened := nextMember_written first name
      (0x3A :: (codec.write v.1 ++ (gs.writeMembers [0x2C] v.2 ++ rest)))
    have value := reads.1 v.1 (gs.writeMembers [0x2C] v.2 ++ rest)
    have met : fs.readMember name (embed (blank (cons name codec gs)))
        (0x3A :: (codec.write v.1 ++ (gs.writeMembers [0x2C] v.2 ++ rest))) =
        .ok (embed (some v.1, gs.blank), gs.writeMembers [0x2C] v.2 ++ rest) := by
      rw [inside name List.mem_cons_self]
      simp [readMember, blank, colon, skipSpace, isSpace, value, Except.map]
    have others := ih (fun d => embed (some v.1, d))
      (by
        intro key member d s
        have hk : key ≠ name := fun h => fresh (h ▸ member)
        refine (inside key (List.mem_cons_of_mem _ member) (some v.1, d) s).trans ?_
        rw [readMember_of_ne hk]
        cases gs.readMember key d s <;> rfl)
      (List.nodup_cons.mp distinct).2 reads.2 false v.2 (Nat.lt_of_succ_lt_succ enough)
    simp only [writeMembers, List.append_assoc, List.cons_append, List.nil_append] at opened ⊢
    simp only [readMembers, opened, string_written, met]
    exact others

end Fields

theorem Codec.record_roundTrips {ρ : Type} {name : String} {fs : Fields ρ}
    (distinct : fs.names.Nodup) (reads : fs.RoundTrip) : (Codec.record name fs).RoundTrips := by
  intro v rest
  have enough : fs.size < (fs.writeMembers [] v ++ rest).length + 1 := by
    have hsize := fs.size_le_writeMembers [] v
    rw [List.length_append]
    omega
  have members := fs.readMembers_written fs id
    (by intro key _ d s; simp only [id_eq]; cases fs.readMember key d s <;> rfl)
    distinct reads true v rest enough
  have opened : skipSpace (0x7B :: fs.writeMembers [] v ++ rest) =
      0x7B :: (fs.writeMembers [] v ++ rest) := rfl
  simp only [id_eq, Fields.lead, if_true] at members
  simp only [Codec.record, Fields.read, opened, beq_self_eq_true, if_true, members,
    fs.complete_filled]

end ImageWorker.Json
