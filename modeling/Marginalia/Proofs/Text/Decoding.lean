/-
Module: Marginalia.Proofs.Text.Decoding
Purpose: The octets that strict reading accepts. The syntax of RFC 3629 is a table: a lead octet in some range
  bounds the octet behind it and says how many continuation octets follow. Its sequences are exactly the
  octet forms of the scalar values, so that overlong forms, encoded surrogates and numbers past the last code
  point are none; and the reader, which takes one octet at a time, accepts exactly the octets that fall into
  such sequences and gives the text whose octet form they are.
Main exports: Utf8.Form, Utf8.Sequence, Utf8.WellFormed, Utf8.sequence_iff_exists_encode,
  Utf8.wellFormed_iff_exists_encode, Utf8.decode_eq_ok_iff, Utf8.succeeds_decode
-/

import Mathlib.Data.List.Basic
import Marginalia.Proofs.Outcome
import Marginalia.Proofs.Text.Encoding

namespace Marginalia.Utf8

/-!
### Syntax
-/

/-- An octet between two numbers. -/
def Within (low high : Nat) (octet : UInt8) : Prop := low ≤ octet.toNat ∧ octet.toNat ≤ high

/-- A form that sequences of several octets have: the range of the lead octet, the range of the second octet,
    and the number of further octets. -/
structure Form where
  leadLow : Nat
  leadHigh : Nat
  secondLow : Nat
  secondHigh : Nat
  further : Nat

/-- The forms of several octets, in the order of RFC 3629. -/
def forms : List Form := [
    ⟨0xC2, 0xDF, 0x80, 0xBF, 0⟩,
    ⟨0xE0, 0xE0, 0xA0, 0xBF, 1⟩, ⟨0xE1, 0xEC, 0x80, 0xBF, 1⟩, ⟨0xED, 0xED, 0x80, 0x9F, 1⟩,
    ⟨0xEE, 0xEF, 0x80, 0xBF, 1⟩,
    ⟨0xF0, 0xF0, 0x90, 0xBF, 2⟩, ⟨0xF1, 0xF3, 0x80, 0xBF, 2⟩, ⟨0xF4, 0xF4, 0x80, 0x8F, 2⟩]

/-- The octets of one character: a single octet below 0x80, or several in one of the forms. -/
inductive Sequence : Octets → Prop where
  | single {octet : UInt8} (small : octet.toNat < 0x80) : Sequence [octet]
  | several {form : Form} {lead second : UInt8} {further : Octets} (known : form ∈ forms)
      (leads : Within form.leadLow form.leadHigh lead)
      (follows : Within form.secondLow form.secondHigh second) (count : further.length = form.further)
      (continue_all : ∀ octet ∈ further, Within 0x80 0xBF octet) : Sequence (lead :: second :: further)

/-- Octets are well-formed if they are the octets of one character after the other. -/
inductive WellFormed : Octets → Prop where
  | nil : WellFormed []
  | cons {sequence rest : Octets} (first : Sequence sequence) (others : WellFormed rest) :
      WellFormed (sequence ++ rest)

/-!
### Sequences are octet forms

The forms of one length admit the values of that length: those that no shorter form has, that are no
surrogates and that lie below the end of the code points.
-/

/-- The bits that mark the lead octet in front of a second and some further octets. -/
def leadMark : Nat → Nat
  | 0 => 0xC0
  | 1 => 0xE0
  | _ => 0xF0

/-- The value of a sequence after one more octet. -/
def extend (value : Nat) (octet : UInt8) : Nat := value * 0x40 + (octet.toNat - 0x80)

theorem extend_eq (value : Nat) (octet : UInt8) : extend value octet = value * 0x40 + (octet.toNat - 0x80) :=
  rfl

/-- What a lead and a second octet in front of some further octets amount to. -/
def opened (further : Nat) (lead second : UInt8) : Nat := extend (lead.toNat - leadMark further) second

/-- The value of a sequence of several octets. -/
def value (lead second : UInt8) (further : Octets) : Nat :=
  further.foldl extend (opened further.length lead second)

/-- The table, read as bounds on what the first two octets amount to. -/
theorem exists_form_iff (lead second : UInt8) (further : Nat) :
    (∃ form ∈ forms, Within form.leadLow form.leadHigh lead ∧
        Within form.secondLow form.secondHigh second ∧ form.further = further) ↔
      Within 0x80 0xBF second ∧
        (further = 0 ∧ Within 0xC2 0xDF lead ∨
          further = 1 ∧ Within 0xE0 0xEF lead ∧ 0x20 ≤ opened 1 lead second ∧
            (opened 1 lead second < 0x360 ∨ 0x380 ≤ opened 1 lead second) ∨
          further = 2 ∧ Within 0xF0 0xF4 lead ∧ 0x10 ≤ opened 2 lead second ∧ opened 2 lead second < 0x110) := by
  simp only [Within, opened, extend_eq, leadMark]
  constructor
  · rintro ⟨form, known, leads, follows, count⟩
    simp only [forms, List.mem_cons, List.not_mem_nil, or_false] at known
    rcases known with rfl | rfl | rfl | rfl | rfl | rfl | rfl | rfl
    all_goals
      simp only at leads follows count
      omega
  · rintro ⟨follows, ⟨rfl, leads⟩ | ⟨rfl, leads, long, no_surrogate⟩ | ⟨rfl, leads, long, inside⟩⟩
    · exact ⟨⟨0xC2, 0xDF, 0x80, 0xBF, 0⟩, by simp [forms], leads, follows, rfl⟩
    · rcases Nat.lt_or_ge lead.toNat 0xE1 with low | above
      · exact ⟨⟨0xE0, 0xE0, 0xA0, 0xBF, 1⟩, by simp [forms], by simp only; omega, by simp only; omega, rfl⟩
      rcases Nat.lt_or_ge lead.toNat 0xED with low | above
      · exact ⟨⟨0xE1, 0xEC, 0x80, 0xBF, 1⟩, by simp [forms], by simp only; omega, follows, rfl⟩
      rcases Nat.lt_or_ge lead.toNat 0xEE with low | above
      · exact ⟨⟨0xED, 0xED, 0x80, 0x9F, 1⟩, by simp [forms], by simp only; omega, by simp only; omega, rfl⟩
      · exact ⟨⟨0xEE, 0xEF, 0x80, 0xBF, 1⟩, by simp [forms], by simp only; omega, follows, rfl⟩
    · rcases Nat.lt_or_ge lead.toNat 0xF1 with low | above
      · exact ⟨⟨0xF0, 0xF0, 0x90, 0xBF, 2⟩, by simp [forms], by simp only; omega, by simp only; omega, rfl⟩
      rcases Nat.lt_or_ge lead.toNat 0xF4 with low | above
      · exact ⟨⟨0xF1, 0xF3, 0x80, 0xBF, 2⟩, by simp [forms], by simp only; omega, follows, rfl⟩
      · exact ⟨⟨0xF4, 0xF4, 0x80, 0x8F, 2⟩, by simp [forms], by simp only; omega, by simp only; omega, rfl⟩

theorem ofNat_octet (octet : UInt8) {n : Nat} (small : n < 0x100) (same : octet.toNat = n) :
    UInt8.ofNat n = octet := by
  rw [← UInt8.toNat_inj, CodePoint.toNat_octet small, same]

theorem continuation_octet {octet : UInt8} {n : Nat} (continues : Within 0x80 0xBF octet)
    (same : n % 0x40 = octet.toNat - 0x80) : CodePoint.continuation n = octet := by
  rcases continues with ⟨low, high⟩
  exact ofNat_octet octet (by omega) (by omega)

/-- Two octets are the octet form of their value. -/
theorem encode_two {c : CodePoint} {lead second : UInt8} (leads : Within 0xC2 0xDF lead)
    (follows : Within 0x80 0xBF second) (same : c.val = opened 0 lead second) : c.encode = [lead, second] := by
  rcases leads with ⟨lead_low, lead_high⟩
  rcases id follows with ⟨low, high⟩
  simp only [opened, extend_eq, leadMark] at same
  rw [CodePoint.encode, if_neg (by omega), if_pos (by omega), ofNat_octet lead (by omega) (by omega),
    continuation_octet follows (by omega)]

/-- Three octets are the octet form of their value, unless it has a shorter one. -/
theorem encode_three {c : CodePoint} {lead second third : UInt8} (leads : Within 0xE0 0xEF lead)
    (follows : Within 0x80 0xBF second) (ends : Within 0x80 0xBF third) (long : 0x20 ≤ opened 1 lead second)
    (same : c.val = extend (opened 1 lead second) third) : c.encode = [lead, second, third] := by
  rcases leads with ⟨lead_low, lead_high⟩
  rcases id follows with ⟨low, high⟩
  rcases id ends with ⟨low', high'⟩
  simp only [opened, extend_eq, leadMark] at same long
  rw [CodePoint.encode, if_neg (by omega), if_neg (by omega), if_pos (by omega),
    ofNat_octet lead (by omega) (by omega), continuation_octet follows (by omega),
    continuation_octet ends (by omega)]

/-- Four octets are the octet form of their value, unless it has a shorter one. -/
theorem encode_four {c : CodePoint} {lead second third fourth : UInt8} (leads : Within 0xF0 0xF4 lead)
    (follows : Within 0x80 0xBF second) (goes_on : Within 0x80 0xBF third) (ends : Within 0x80 0xBF fourth)
    (long : 0x10 ≤ opened 2 lead second)
    (same : c.val = extend (extend (opened 2 lead second) third) fourth) :
    c.encode = [lead, second, third, fourth] := by
  rcases leads with ⟨lead_low, lead_high⟩
  rcases id follows with ⟨low, high⟩
  rcases id goes_on with ⟨low', high'⟩
  rcases id ends with ⟨low'', high''⟩
  simp only [opened, extend_eq, leadMark] at same long
  rw [CodePoint.encode, if_neg (by omega), if_neg (by omega), if_neg (by omega),
    ofNat_octet lead (by omega) (by omega), continuation_octet follows (by omega),
    continuation_octet goes_on (by omega), continuation_octet ends (by omega)]

theorem val_ofNat {n : Nat} (inside : n < 0x110000) : (CodePoint.ofNat n).val = n := by
  simp [CodePoint.ofNat, inside]

theorem isSurrogate_eq_false_iff {c : CodePoint} : c.isSurrogate = false ↔ c.val < 0xD800 ∨ 0xDFFF < c.val := by
  simp only [CodePoint.isSurrogate, Bool.and_eq_false_iff, decide_eq_false_iff_not, Nat.not_le]

/-- A single octet below 0x80 is the octet form of its number. -/
theorem encode_single {octet : UInt8} (small : octet.toNat < 0x80) :
    (CodePoint.ofNat octet.toNat).encode = [octet] ∧ (CodePoint.ofNat octet.toNat).isSurrogate = false := by
  have val := val_ofNat (show octet.toNat < 0x110000 by omega)
  rw [isSurrogate_eq_false_iff, CodePoint.encode, val, if_pos small, ofNat_octet octet (by omega) rfl]
  exact ⟨rfl, by omega⟩

/-- A sequence of several octets is the octet form of its value, which is no surrogate. -/
theorem encode_value {form : Form} {lead second : UInt8} {further : Octets} (known : form ∈ forms)
    (leads : Within form.leadLow form.leadHigh lead)
    (follows : Within form.secondLow form.secondHigh second) (count : further.length = form.further)
    (continue_all : ∀ octet ∈ further, Within 0x80 0xBF octet) :
    (CodePoint.ofNat (value lead second further)).encode = lead :: second :: further ∧
      (CodePoint.ofNat (value lead second further)).isSurrogate = false := by
  rw [isSurrogate_eq_false_iff]
  rcases (exists_form_iff lead second form.further).1 ⟨form, known, leads, follows, rfl⟩ with
    ⟨second_range, ⟨none_further, lead_range⟩ | ⟨one, lead_range, long, no_surrogate⟩ |
      ⟨two, lead_range, long, inside⟩⟩
  · obtain rfl := List.length_eq_zero_iff.1 (count.trans none_further)
    have small : opened 0 lead second < 0x800 := by
      simp only [Within, opened, extend_eq, leadMark] at lead_range second_range ⊢
      omega
    have val : (CodePoint.ofNat (value lead second [])).val = opened 0 lead second :=
      val_ofNat (show opened 0 lead second < 0x110000 by omega)
    refine ⟨encode_two lead_range second_range val, ?_⟩
    rw [val]
    omega
  · obtain ⟨third, rfl⟩ := List.length_eq_one_iff.1 (count.trans one)
    have third_range := continue_all third (List.mem_singleton_self _)
    have small : opened 1 lead second < 0x400 := by
      simp only [Within, opened, extend_eq, leadMark] at lead_range second_range ⊢
      omega
    have third_bounds : 0x80 ≤ third.toNat ∧ third.toNat ≤ 0xBF := third_range
    have val : (CodePoint.ofNat (value lead second [third])).val = extend (opened 1 lead second) third :=
      val_ofNat (show extend (opened 1 lead second) third < 0x110000 by
        rw [extend_eq]
        omega)
    refine ⟨encode_three lead_range second_range third_range long val, ?_⟩
    rw [val, extend_eq]
    omega
  · obtain ⟨third, fourth, rfl⟩ := List.length_eq_two.1 (count.trans two)
    have third_range := continue_all third (by simp)
    have fourth_range := continue_all fourth (by simp)
    have third_bounds : 0x80 ≤ third.toNat ∧ third.toNat ≤ 0xBF := third_range
    have fourth_bounds : 0x80 ≤ fourth.toNat ∧ fourth.toNat ≤ 0xBF := fourth_range
    have val : (CodePoint.ofNat (value lead second [third, fourth])).val =
        extend (extend (opened 2 lead second) third) fourth :=
      val_ofNat (show extend (extend (opened 2 lead second) third) fourth < 0x110000 by
        rw [extend_eq, extend_eq]
        omega)
    refine ⟨encode_four lead_range second_range third_range fourth_range long val, ?_⟩
    rw [val, extend_eq, extend_eq]
    omega

/-- The octets of a code point that is no surrogate are a sequence. -/
theorem sequence_encode {c : CodePoint} (scalar : c.isSurrogate = false) : Sequence c.encode := by
  have bound := c.isLt
  have tail : ∀ n, Within 0x80 0xBF (CodePoint.continuation n) := by
    intro n
    rw [Within, CodePoint.continuation, CodePoint.toNat_octet (by omega)]
    omega
  rw [isSurrogate_eq_false_iff] at scalar
  rw [CodePoint.encode]
  split
  next one => exact .single (by rwa [CodePoint.toNat_octet (by omega)])
  split
  next two =>
    obtain ⟨form, known, leads, follows, count⟩ :=
      (exists_form_iff (UInt8.ofNat (0xC0 + c.val / 0x40)) (CodePoint.continuation c.val) 0).2 (by
        refine ⟨tail _, .inl ⟨rfl, ?_⟩⟩
        rw [Within, CodePoint.toNat_octet (by omega)]
        omega)
    exact .several known leads follows count.symm (by simp)
  split
  next three =>
    obtain ⟨form, known, leads, follows, count⟩ :=
      (exists_form_iff (UInt8.ofNat (0xE0 + c.val / 0x1000)) (CodePoint.continuation (c.val / 0x40)) 1).2 (by
        refine ⟨tail _, .inr (.inl ⟨rfl, ?_⟩)⟩
        simp only [Within, opened, extend_eq, leadMark, CodePoint.continuation]
        rw [CodePoint.toNat_octet (by omega), CodePoint.toNat_octet (by omega)]
        omega)
    exact .several known leads follows count.symm (by simp [tail])
  next four =>
    obtain ⟨form, known, leads, follows, count⟩ :=
      (exists_form_iff (UInt8.ofNat (0xF0 + c.val / 0x40000)) (CodePoint.continuation (c.val / 0x1000)) 2).2 (by
        refine ⟨tail _, .inr (.inr ⟨rfl, ?_⟩)⟩
        simp only [Within, opened, extend_eq, leadMark, CodePoint.continuation]
        rw [CodePoint.toNat_octet (by omega), CodePoint.toNat_octet (by omega)]
        omega)
    exact .several known leads follows count.symm (by simp [tail])

/-- The sequences are the octet forms of the code points that are no surrogates. -/
theorem sequence_iff_exists_encode {octets : Octets} :
    Sequence octets ↔ ∃ c : CodePoint, c.isSurrogate = false ∧ c.encode = octets := by
  constructor
  · intro sequence
    cases sequence with
    | single small => exact ⟨_, (encode_single small).2, (encode_single small).1⟩
    | several known leads follows count continue_all =>
        have form := encode_value known leads follows count continue_all
        exact ⟨_, form.2, form.1⟩
  · rintro ⟨c, scalar, rfl⟩
    exact sequence_encode scalar

/-- Octets are well-formed exactly if they are the octet form of a text without surrogates. -/
theorem wellFormed_iff_exists_encode {octets : Octets} :
    WellFormed octets ↔ ∃ t : Text, (∀ c ∈ t, c.isSurrogate = false) ∧ t.encode = octets := by
  constructor
  · intro well_formed
    induction well_formed with
    | nil => exact ⟨[], by simp, rfl⟩
    | cons first _ ih =>
        rcases sequence_iff_exists_encode.1 first with ⟨c, scalar, rfl⟩
        rcases ih with ⟨t, scalars, rfl⟩
        exact ⟨c :: t, by simpa using ⟨scalar, scalars⟩, rfl⟩
  · rintro ⟨t, scalars, rfl⟩
    induction t with
    | nil => exact .nil
    | cons c t ih =>
        rw [Text.encode_cons]
        exact .cons (sequence_encode (scalars c (List.mem_cons_self ..)))
          (ih fun d mem => scalars d (List.mem_cons_of_mem _ mem))

/-!
### The reader

Between two sequences the reader stands at a start, and a sequence under way ends after as many octets as are
due, so that reading well falls into reading one sequence after the other.
-/

theorem value_advance (p : Pending) (octet : UInt8) : (p.advance octet).value = extend p.value octet := rfl

theorem admits_iff {p : Pending} {octet : UInt8} : p.admits octet = true ↔ Within p.low p.high octet := by
  simp [Pending.admits, Within]

/-- A sequence under way is read to its end exactly if the next octet is admitted and as many continuation
    octets as are due come behind it. -/
theorem decodeFrom_pending_eq_ok_iff {octets : Octets} {p : Pending} {position : Nat} {t : Text} :
    decodeFrom position (some p) octets = .ok t ↔
      ∃ next further rest u, octets = next :: (further ++ rest) ∧ Within p.low p.high next ∧
        further.length = p.due ∧ (∀ octet ∈ further, Within 0x80 0xBF octet) ∧
        decodeFrom (position + 1 + p.due) none rest = .ok u ∧
        t = CodePoint.ofNat (further.foldl extend (extend p.value next)) :: u := by
  induction octets generalizing p position t with
  | nil => simp [decodeFrom]
  | cons octet octets ih =>
      rw [decodeFrom]
      by_cases admitted : p.admits octet = true
      · have within := admits_iff.1 admitted
        simp only [admitted, if_true]
        by_cases last : p.due = 0
        · -- The octet ends the sequence.
          rw [if_pos last, map_eq_ok_iff]
          constructor
          · rintro ⟨u, read, same⟩
            exact ⟨octet, [], octets, u, rfl, within, last.symm, by simp, by rwa [last], same.symm⟩
          · rintro ⟨next, further, rest, u, split, -, count, -, read, same⟩
            obtain rfl := List.length_eq_zero_iff.1 (count.trans last)
            obtain ⟨rfl, rfl⟩ := List.cons.inj split
            exact ⟨u, by rwa [last] at read, same.symm⟩
        · -- The sequence goes on with a continuation octet.
          have due : p.due = (p.advance octet).due + 1 := (Nat.succ_pred_eq_of_ne_zero last).symm
          rw [if_neg last, ih]
          constructor
          · rintro ⟨next, further, rest, u, rfl, follows, count, continue_all, read, same⟩
            refine ⟨octet, next :: further, rest, u, rfl, within, ?_, ?_, ?_, ?_⟩
            · rw [due, ← count, List.length_cons]
            · exact List.forall_mem_cons.2 ⟨follows, continue_all⟩
            · rwa [due, Nat.add_comm (p.advance octet).due, ← Nat.add_assoc]
            · rw [same, value_advance, List.foldl_cons]
          · rintro ⟨first, further, rest, u, split, -, count, continue_all, read, same⟩
            obtain ⟨rfl, rfl⟩ := List.cons.inj split
            obtain ⟨next, further, rfl⟩ := List.exists_cons_of_length_eq_add_one (count.trans due)
            rw [due, List.length_cons, Nat.add_right_cancel_iff] at count
            rcases List.forall_mem_cons.1 continue_all with ⟨follows, continue_all⟩
            refine ⟨next, further, rest, u, rfl, follows, count, continue_all, ?_, ?_⟩
            · rwa [due, Nat.add_comm (p.advance octet).due, ← Nat.add_assoc] at read
            · rw [same, value_advance, List.foldl_cons]
      · simp only [admitted]
        refine iff_of_false (by simp) ?_
        rintro ⟨next, further, rest, u, split, within, -⟩
        obtain ⟨rfl, rfl⟩ := List.cons.inj split
        exact admitted (admits_iff.2 within)

/-- A lead octet of some form begins a sequence of this form. -/
theorem opening_of_form {form : Form} {octet : UInt8} (known : form ∈ forms)
    (leads : Within form.leadLow form.leadHigh octet) (position : Nat) :
    opening position octet = .sequence ⟨position, octet, 1, form.further, form.secondLow, form.secondHigh,
      octet.toNat - leadMark form.further⟩ := by
  rcases leads with ⟨low, high⟩
  simp only [forms, List.mem_cons, List.not_mem_nil, or_false] at known
  simp only [opening]
  rcases known with rfl | rfl | rfl | rfl | rfl | rfl | rfl | rfl
  all_goals simp only at low high
  · rw [if_neg (by omega), if_neg (by omega), if_pos (by omega)]
    rfl
  · rw [if_neg (by omega), if_neg (by omega), if_neg (by omega), if_pos (by omega)]
    rfl
  · rw [if_neg (by omega), if_neg (by omega), if_neg (by omega), if_neg (by omega), if_neg (by omega),
      if_pos (by omega)]
    rfl
  · rw [if_neg (by omega), if_neg (by omega), if_neg (by omega), if_neg (by omega), if_pos (by omega)]
    rfl
  · rw [if_neg (by omega), if_neg (by omega), if_neg (by omega), if_neg (by omega), if_neg (by omega),
      if_pos (by omega)]
    rfl
  · rw [if_neg (by omega), if_neg (by omega), if_neg (by omega), if_neg (by omega), if_neg (by omega),
      if_neg (by omega), if_pos (by omega)]
    rfl
  · rw [if_neg (by omega), if_neg (by omega), if_neg (by omega), if_neg (by omega), if_neg (by omega),
      if_neg (by omega), if_neg (by omega), if_pos (by omega)]
    rfl
  · rw [if_neg (by omega), if_neg (by omega), if_neg (by omega), if_neg (by omega), if_neg (by omega),
      if_neg (by omega), if_neg (by omega), if_neg (by omega), if_pos (by omega)]
    rfl

theorem opening_of_small {octet : UInt8} (small : octet.toNat < 0x80) (position : Nat) :
    opening position octet = .complete (CodePoint.ofNat octet.toNat) := by
  simp only [opening]
  rw [if_pos small]

/-- Every other octet begins nothing. -/
theorem opening_of_no_form {octet : UInt8} (large : 0x80 ≤ octet.toNat)
    (no_form : ¬ ∃ form ∈ forms, Within form.leadLow form.leadHigh octet) (position : Nat) :
    opening position octet = .refused := by
  have outside : octet.toNat < 0xC2 ∨ 0xF4 < octet.toNat := by
    simp only [forms, List.mem_cons, List.not_mem_nil, or_false, exists_eq_or_imp, exists_eq_left, Within] at no_form
    omega
  simp only [opening]
  rw [if_neg (by omega)]
  rcases outside with below | above
  · rw [if_pos below]
  · rw [if_neg (by omega), if_neg (by omega), if_neg (by omega), if_neg (by omega), if_neg (by omega),
      if_neg (by omega), if_neg (by omega), if_neg (by omega)]

theorem length_several {lead second : UInt8} {further : Octets} {due : Nat} (position : Nat)
    (count : further.length = due) : position + (lead :: second :: further).length = position + 1 + 1 + due := by
  rw [List.length_cons, List.length_cons, count]
  omega

/-- From a start one character is read after the other, each from the octets of its form. -/
theorem decodeFrom_start_eq_ok_iff {octets : Octets} {position : Nat} {t : Text} :
    decodeFrom position none octets = .ok t ↔
      octets = [] ∧ t = [] ∨
        ∃ (c : CodePoint) (rest : Octets) (u : Text), octets = c.encode ++ rest ∧ c.isSurrogate = false ∧
          decodeFrom (position + c.width) none rest = .ok u ∧ t = c :: u := by
  constructor
  · intro read
    cases octets with
    | nil => exact .inl ⟨rfl, by simpa [decodeFrom, eq_comm] using read⟩
    | cons octet octets =>
        right
        rw [decodeFrom] at read
        rcases Nat.lt_or_ge octet.toNat 0x80 with small | large
        · rw [opening_of_small small] at read
          rcases map_eq_ok_iff.1 read with ⟨u, read, rfl⟩
          rcases encode_single small with ⟨encoded, scalar⟩
          refine ⟨_, octets, u, by rw [encoded]; rfl, scalar, ?_, rfl⟩
          rwa [← CodePoint.length_encode, encoded]
        by_cases some_form : ∃ form ∈ forms, Within form.leadLow form.leadHigh octet
        · rcases some_form with ⟨form, known, leads⟩
          rw [opening_of_form known leads] at read
          rcases decodeFrom_pending_eq_ok_iff.1 read with
            ⟨next, further, rest, u, rfl, follows, count, continue_all, read_rest, same⟩
          rcases encode_value known leads follows count continue_all with ⟨encoded, scalar⟩
          refine ⟨CodePoint.ofNat (value octet next further), rest, u, by rw [encoded]; rfl, scalar, ?_, ?_⟩
          · rwa [← CodePoint.length_encode, encoded, length_several position count]
          · rw [same, value, count, opened]
        · rw [opening_of_no_form large some_form] at read
          simp at read
  · rintro (⟨rfl, rfl⟩ | ⟨c, rest, u, rfl, scalar, read, rfl⟩)
    · rfl
    generalize encoded : c.encode = sequence
    have characters := sequence_encode scalar
    rw [encoded] at characters
    rw [← CodePoint.length_encode, encoded] at read
    cases characters with
    | single small =>
        rw [List.singleton_append, decodeFrom, opening_of_small small, map_eq_ok_iff]
        refine ⟨u, read, ?_⟩
        rw [CodePoint.eq_of_encode_eq (encoded.trans (encode_single small).1.symm)]
    | several known leads follows count continue_all =>
        have same := encode_value known leads follows count continue_all
        rw [List.cons_append, decodeFrom, opening_of_form known leads]
        simp only
        rw [decodeFrom_pending_eq_ok_iff]
        refine ⟨_, _, rest, u, rfl, follows, count, continue_all, ?_, ?_⟩
        · rwa [length_several position count] at read
        · rw [CodePoint.eq_of_encode_eq (encoded.trans same.1.symm), value, count, opened]

/-- Reading succeeds exactly on the octet form of a text without surrogates and gives this text. -/
theorem decodeFrom_eq_ok_iff {octets : Octets} {position : Nat} {t : Text} :
    decodeFrom position none octets = .ok t ↔ (∀ c ∈ t, c.isSurrogate = false) ∧ t.encode = octets := by
  induction t generalizing octets position with
  | nil =>
      rw [decodeFrom_start_eq_ok_iff]
      constructor
      · rintro (⟨rfl, -⟩ | ⟨c, rest, u, -, -, -, same⟩)
        · exact ⟨by simp, rfl⟩
        · simp at same
      · rintro ⟨-, rfl⟩
        exact .inl ⟨rfl, rfl⟩
  | cons d t ih =>
      rw [decodeFrom_start_eq_ok_iff, List.forall_mem_cons, Text.encode_cons]
      constructor
      · rintro (⟨-, none_left⟩ | ⟨c, rest, u, rfl, scalar, read, same⟩)
        · simp at none_left
        · obtain ⟨rfl, rfl⟩ := List.cons.inj same
          rcases ih.1 read with ⟨scalars, rfl⟩
          exact ⟨⟨scalar, scalars⟩, rfl⟩
      · rintro ⟨⟨scalar, scalars⟩, rfl⟩
        exact .inr ⟨d, Text.encode t, t, rfl, scalar, ih.2 ⟨scalars, rfl⟩, rfl⟩

theorem decode_eq_ok_iff {octets : Octets} {t : Text} :
    decode octets = .ok t ↔ (∀ c ∈ t, c.isSurrogate = false) ∧ t.encode = octets :=
  decodeFrom_eq_ok_iff

/-- Octets can be read exactly if they are well-formed. -/
theorem succeeds_decode {octets : Octets} : Succeeds (decode octets) ↔ WellFormed octets := by
  simp only [Succeeds, decode_eq_ok_iff, wellFormed_iff_exists_encode]

end Marginalia.Utf8
