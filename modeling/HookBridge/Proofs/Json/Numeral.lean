/-
**Numerals.**

A number is written as an integer with no needless zeros in front of it, with a minus sign or none,
then a fraction or none, then an exponent or none.  This module says so part by part and shows that
the bridge takes exactly such numerals for numbers.

Main definitions:

* `HookBridge.Json.IsInteger`, `HookBridge.Json.IsFraction`, `HookBridge.Json.IsScale` — the parts
  of a numeral;
* `HookBridge.Json.IsNumeral` — the numerals.

Main results:

* `HookBridge.Json.isNumber_iff` — **exactly the numerals are numbers**;
* `HookBridge.Json.IsNumeral.allNumberBytes` — all bytes of a numeral are ones that numbers are
  written with, so that a numeral ends where there is another byte.
-/

import HookBridge.Json.Token
import Mathlib.Data.List.TakeWhile

set_option relaxedAutoImplicit false
set_option autoImplicit false

namespace HookBridge

namespace Json

/-! ### Parts of a numeral -/

/-- All bytes are decimal digits. -/
def AllDigits (bs : Bytes) : Prop := ∀ b ∈ bs, isDigit b = true

/-- The part in front of the point: a zero, or digits that do not begin with one. -/
inductive IsInteger : Bytes → Prop
  | zero : IsInteger [0x30]
  | digits {d : UInt8} {ds : Bytes} (hd : isDigit d = true) (hne : d ≠ 0x30) (hds : AllDigits ds) :
      IsInteger (d :: ds)

/-- A point with digits behind it, or nothing. -/
inductive IsFraction : Bytes → Prop
  | none : IsFraction []
  | point {d : UInt8} {ds : Bytes} (hd : isDigit d = true) (hds : AllDigits ds) :
      IsFraction (0x2E :: d :: ds)

/-- The letter of an exponent, a sign or none, and digits. -/
inductive IsScale : Bytes → Prop
  | mk {e d : UInt8} {sign ds : Bytes} (he : e = 0x45 ∨ e = 0x65)
      (hsign : sign = [] ∨ sign = [0x2B] ∨ sign = [0x2D]) (hd : isDigit d = true)
      (hds : AllDigits ds) : IsScale (e :: (sign ++ d :: ds))

/-- A numeral, part by part. -/
inductive IsNumeral : Bytes → Prop
  | mk {sign integer fraction scale : Bytes} (hsign : sign = [] ∨ sign = [0x2D])
      (hinteger : IsInteger integer) (hfraction : IsFraction fraction)
      (hscale : scale = [] ∨ IsScale scale) :
      IsNumeral (sign ++ (integer ++ (fraction ++ scale)))

/-! ### Reading the parts -/

theorem ne_of_isDigit {b mark : UInt8} (h : isDigit b = true) (hmark : isDigit mark = false) :
    b ≠ mark := by
  rintro rfl
  rw [hmark] at h
  exact absurd h (by simp)

/-- Digits are left behind up to the first byte that is none. -/
theorem dropWhile_digits {ds rest : Bytes} (hds : AllDigits ds)
    (hrest : ∀ b ∈ rest.head?, isDigit b = false) : (ds ++ rest).dropWhile isDigit = rest := by
  rw [List.dropWhile_append_of_pos hds]
  cases rest with
  | nil => rfl
  | cons b rest => rw [List.dropWhile_cons_of_neg (by simp [hrest b rfl])]

theorem allDigits_takeWhile (bs : Bytes) : AllDigits (bs.takeWhile isDigit) :=
  fun _ hb => List.mem_takeWhile_imp hb

/-- One digit or more. -/
theorem digits_iff (bs : Bytes) : (!bs.isEmpty && bs.all isDigit) = true ↔
    ∃ d ds, bs = d :: ds ∧ isDigit d = true ∧ AllDigits ds := by
  cases bs with
  | nil => simp
  | cons d ds => simp [AllDigits, and_assoc]

theorem isExponent_iff (bs : Bytes) : isExponent bs = true ↔ IsScale bs := by
  constructor
  · intro h
    match bs with
    | [] => exact absurd h (by simp [isExponent])
    | [e] => exact absurd h (by simp [isExponent])
    | e :: s :: rest =>
        simp only [isExponent, Bool.and_assoc, Bool.and_eq_true, Bool.or_eq_true, beq_iff_eq] at h
        obtain ⟨he, hdigits⟩ := h
        by_cases hs : s = 0x2B ∨ s = 0x2D
        · rw [if_pos hs, ← Bool.and_eq_true, digits_iff] at hdigits
          obtain ⟨d, ds, rfl, hd, hds⟩ := hdigits
          exact @IsScale.mk _ _ [s] _ he (Or.inr (by simpa using hs)) hd hds
        · rw [if_neg hs, ← Bool.and_eq_true, digits_iff] at hdigits
          obtain ⟨d, ds, hrest, hd, hds⟩ := hdigits
          rw [hrest]
          exact @IsScale.mk _ _ [] _ he (Or.inl rfl) hd hds
  · intro h
    cases h with
    | @mk e d sign ds he hsign hd hds =>
        have hdigits := (digits_iff (d :: ds)).2 ⟨d, ds, rfl, hd, hds⟩
        have he : (e == 0x45 || e == 0x65) = true := by simpa using he
        rw [isExponent.eq_def]
        simp only [he, Bool.true_and]
        rcases hsign with rfl | rfl | rfl
        · have hplus : d ≠ 0x2B := ne_of_isDigit hd (by decide)
          have hminus : d ≠ 0x2D := ne_of_isDigit hd (by decide)
          simpa [hplus, hminus] using hdigits
        · simpa using hdigits
        · simpa using hdigits

/-- An exponent begins with its letter. -/
theorem not_isDigit_head_of_scale {scale : Bytes} (h : scale = [] ∨ IsScale scale) :
    ∀ b ∈ scale.head?, isDigit b = false := by
  rcases h with rfl | h
  · simp
  · cases h with
    | mk he _ _ _ => rcases he with rfl | rfl <;> simp <;> decide

theorem isNumberTail_iff (bs : Bytes) : isNumberTail bs = true ↔
    ∃ fraction scale, IsFraction fraction ∧ (scale = [] ∨ IsScale scale) ∧
      bs = fraction ++ scale := by
  constructor
  · intro h
    match bs with
    | [] => exact ⟨[], [], .none, Or.inl rfl, rfl⟩
    | p :: rest =>
        rw [isNumberTail.eq_def] at h
        simp only [beq_iff_eq] at h
        by_cases hp : p = 0x2E
        · subst hp
          rw [if_pos rfl] at h
          match rest with
          | [] => exact absurd h (by simp)
          | d :: rest =>
              simp only [Bool.and_eq_true, Bool.or_eq_true, List.isEmpty_iff, isExponent_iff] at h
              refine ⟨_, _, .point h.1 (allDigits_takeWhile rest), h.2, ?_⟩
              rw [List.cons_append, List.cons_append, List.takeWhile_append_dropWhile]
        · rw [if_neg hp, isExponent_iff] at h
          exact ⟨[], _, .none, Or.inr h, rfl⟩
  · rintro ⟨fraction, scale, hfraction, hscale, rfl⟩
    cases hfraction with
    | none =>
        rcases hscale with rfl | hscale
        · rfl
        · have hexponent := (isExponent_iff scale).2 hscale
          cases hscale with
          | @mk e d sign ds he hsign hd hds =>
              have hpoint : e ≠ 0x2E := by rcases he with rfl | rfl <;> decide
              rw [List.nil_append, isNumberTail.eq_def]
              simpa [hpoint] using hexponent
    | @point d ds hd hds =>
        have htail := dropWhile_digits hds (not_isDigit_head_of_scale hscale)
        rw [List.cons_append, List.cons_append, isNumberTail.eq_def]
        simp only [beq_self_eq_true, if_true, hd, htail, Bool.true_and, Bool.or_eq_true,
          List.isEmpty_iff, isExponent_iff]
        exact hscale

/-! ### Reading numerals -/

/-- What may follow an integer does not begin with a digit. -/
theorem not_isDigit_head_of_tail {fraction scale : Bytes} (hfraction : IsFraction fraction)
    (hscale : scale = [] ∨ IsScale scale) : ∀ b ∈ (fraction ++ scale).head?, isDigit b = false := by
  cases hfraction with
  | none => exact not_isDigit_head_of_scale hscale
  | point => simp; decide

/-- A number without a sign. -/
theorem unsigned_iff (d : UInt8) (rest : Bytes) :
    (if (d == 0x30) = true then isNumberTail rest
      else isDigit d && isNumberTail (rest.dropWhile isDigit)) = true ↔
    ∃ integer fraction scale, IsInteger integer ∧ IsFraction fraction ∧
      (scale = [] ∨ IsScale scale) ∧ d :: rest = integer ++ (fraction ++ scale) := by
  simp only [beq_iff_eq]
  constructor
  · intro h
    by_cases hd : d = 0x30
    · subst hd
      rw [if_pos rfl, isNumberTail_iff] at h
      obtain ⟨fraction, scale, hfraction, hscale, rfl⟩ := h
      exact ⟨_, fraction, scale, .zero, hfraction, hscale, rfl⟩
    · rw [if_neg hd, Bool.and_eq_true, isNumberTail_iff] at h
      obtain ⟨hdigit, fraction, scale, hfraction, hscale, htail⟩ := h
      refine ⟨_, fraction, scale, .digits hdigit hd (allDigits_takeWhile rest), hfraction, hscale,
        ?_⟩
      rw [← htail, List.cons_append, List.takeWhile_append_dropWhile]
  · rintro ⟨integer, fraction, scale, hinteger, hfraction, hscale, heq⟩
    have htail := (isNumberTail_iff _).2 ⟨fraction, scale, hfraction, hscale, rfl⟩
    cases hinteger with
    | zero =>
        obtain ⟨rfl, rfl⟩ := List.cons.inj heq
        rw [if_pos rfl]
        exact htail
    | @digits d' ds hd hne hds =>
        rw [List.cons_append] at heq
        obtain ⟨rfl, rfl⟩ := List.cons.inj heq
        rw [if_neg hne, hd, dropWhile_digits hds (not_isDigit_head_of_tail hfraction hscale), htail]
        rfl

/-- **Exactly the numerals are numbers.** -/
theorem isNumber_iff (bs : Bytes) : isNumber bs = true ↔ IsNumeral bs := by
  constructor
  · intro h
    match bs with
    | [] => exact absurd h (by simp [isNumber])
    | s :: rest =>
        rw [isNumber] at h
        by_cases hs : s = 0x2D
        · subst hs
          simp only [beq_self_eq_true, if_true] at h
          match rest with
          | [] => exact absurd h (by simp)
          | d :: rest =>
              obtain ⟨integer, fraction, scale, hinteger, hfraction, hscale, heq⟩ :=
                (unsigned_iff d rest).1 h
              rw [heq]
              exact @IsNumeral.mk [0x2D] _ _ _ (Or.inr rfl) hinteger hfraction hscale
        · simp only [beq_iff_eq, if_neg hs] at h
          obtain ⟨integer, fraction, scale, hinteger, hfraction, hscale, heq⟩ :=
            (unsigned_iff s rest).1 (by simpa using h)
          rw [heq]
          exact @IsNumeral.mk [] _ _ _ (Or.inl rfl) hinteger hfraction hscale
  · intro h
    cases h with
    | @mk sign integer fraction scale hsign hinteger hfraction hscale =>
        -- an integer begins with a digit, and so not with a sign
        obtain ⟨d, rest, heq, hminus⟩ : ∃ d rest, integer ++ (fraction ++ scale) = d :: rest ∧
            d ≠ 0x2D := by
          cases hinteger with
          | zero => exact ⟨_, _, rfl, by decide⟩
          | digits hd _ _ => exact ⟨_, _, rfl, ne_of_isDigit hd (by decide)⟩
        have hunsigned := (unsigned_iff d rest).2
          ⟨integer, fraction, scale, hinteger, hfraction, hscale, heq.symm⟩
        rw [heq]
        rcases hsign with rfl | rfl
        · rw [List.nil_append, isNumber]
          simpa [hminus] using hunsigned
        · rw [List.singleton_append, isNumber]
          simpa using hunsigned

/-! ### The bytes of a numeral -/

/-- All bytes are ones that numbers are written with. -/
def AllNumberBytes (bs : Bytes) : Prop := ∀ b ∈ bs, isNumberByte b = true

theorem AllNumberBytes.nil : AllNumberBytes [] := by simp [AllNumberBytes]

theorem AllNumberBytes.append {bs bs' : Bytes} (h : AllNumberBytes bs) (h' : AllNumberBytes bs') :
    AllNumberBytes (bs ++ bs') := fun b hb =>
  (List.mem_append.1 hb).elim (h b) (h' b)

theorem AllNumberBytes.cons {b : UInt8} {bs : Bytes} (hb : isNumberByte b = true)
    (h : AllNumberBytes bs) : AllNumberBytes (b :: bs) :=
  List.forall_mem_cons.2 ⟨hb, h⟩

theorem isNumberByte_of_isDigit {b : UInt8} (h : isDigit b = true) : isNumberByte b = true := by
  simp [isNumberByte, h]

theorem AllDigits.allNumberBytes {d : UInt8} {ds : Bytes} (hd : isDigit d = true)
    (hds : AllDigits ds) : AllNumberBytes (d :: ds) :=
  .cons (isNumberByte_of_isDigit hd) fun b hb => isNumberByte_of_isDigit (hds b hb)

/-- **All bytes of a numeral are ones that numbers are written with.** -/
theorem IsNumeral.allNumberBytes {bs : Bytes} (h : IsNumeral bs) : AllNumberBytes bs := by
  cases h with
  | @mk sign integer fraction scale hsign hinteger hfraction hscale =>
      have hsign' : AllNumberBytes sign := by
        rcases hsign with rfl | rfl
        · exact .nil
        · exact .cons (by decide) .nil
      have hinteger' : AllNumberBytes integer := by
        cases hinteger with
        | zero => exact .cons (by decide) .nil
        | digits hd _ hds => exact hds.allNumberBytes hd
      have hfraction' : AllNumberBytes fraction := by
        cases hfraction with
        | none => exact .nil
        | point hd hds => exact .cons (by decide) (hds.allNumberBytes hd)
      have hscale' : AllNumberBytes scale := by
        rcases hscale with rfl | hscale
        · exact .nil
        · cases hscale with
          | mk he hsign hd hds =>
              refine .cons (by rcases he with rfl | rfl <;> decide) (.append ?_
                (hds.allNumberBytes hd))
              rcases hsign with rfl | rfl | rfl
              · exact .nil
              · exact .cons (by decide) .nil
              · exact .cons (by decide) .nil
      exact hsign'.append (hinteger'.append (hfraction'.append hscale'))

/-- A numeral begins with a digit or a minus sign. -/
theorem IsNumeral.exists_head {bs : Bytes} (h : IsNumeral bs) :
    ∃ b rest, bs = b :: rest ∧ (isDigit b = true ∨ b = 0x2D) := by
  cases h with
  | mk hsign hinteger _ _ =>
      rcases hsign with rfl | rfl
      · cases hinteger with
        | zero => exact ⟨_, _, rfl, Or.inl (by decide)⟩
        | digits hd _ _ => exact ⟨_, _, rfl, Or.inl hd⟩
      · exact ⟨_, _, rfl, Or.inr rfl⟩

end Json

end HookBridge
