/-
**Base64 loses nothing.**

Bytes are read from every spelling of their padded text that cuts the padding short, and from
nothing else.  So no two byte sequences have a spelling in common, whatever their lengths are: the
unused bits of a last digit are zero, and the number of digits says how many bytes there are.

Main definitions:

* `HookBridge.Base64.IsSpelling` — a text is the one of some bytes, with all, some or none of its
  padding;
* `HookBridge.Base64.values` — bytes as six-bit values.

Main results:

* `HookBridge.Base64.value?_eq_some_iff` — a digit and its value belong together;
* `HookBridge.Base64.encode_toList` — the text of bytes is made of the digits of their values, and
  of padding;
* `HookBridge.Base64.unpackOnto_eq_some_iff` — values are unpacked to the bytes that they come from;
* `HookBridge.Base64.decode?_eq_some_iff` — **exactly the spellings of bytes are read as these
  bytes**.
-/

import HookBridge.Text.Base64

set_option relaxedAutoImplicit false
set_option autoImplicit false

namespace HookBridge

namespace Base64

/-- The text is the padded one of the bytes, with some number of `=` dropped at its end. -/
def IsSpelling (bs : Bytes) (text : String) : Prop :=
  ∃ dropped, (encode bs).toList = text.toList ++ List.replicate dropped '='

/-! ### Digits -/

/-- The digit of a value is read as this value, and is no padding. -/
theorem value?_digit {n : Nat} (h : n < 64) : value? (digit n) = some n ∧ digit n ≠ '=' := by
  have hall : ∀ n < 64, value? (digit n) = some n ∧ digit n ≠ '=' := by decide
  exact hall n h

/-- **A digit and its value belong together.** -/
theorem value?_eq_some_iff {c : Char} {n : Nat} : value? c = some n ↔ n < 64 ∧ c = digit n := by
  constructor
  · intro h
    rw [value?] at h
    -- a letter or a cipher stands as far from the first of its kind as its value says
    have hrange : ∀ {first last : Char}, first ≤ c ∧ c ≤ last →
        first.toNat ≤ c.toNat ∧ c.toNat ≤ last.toNat := fun hc => hc
    have hchar : ∀ k, k = c.toNat → c = Char.ofNat k := fun k hk => by rw [hk, Char.ofNat_toNat]
    split at h
    · next hc =>
      have hc : 65 ≤ c.toNat ∧ c.toNat ≤ 90 := hrange hc
      obtain rfl := Option.some.inj h
      refine ⟨by omega, ?_⟩
      rw [digit, if_pos (by omega)]
      exact hchar _ (by omega)
    split at h
    · next hc =>
      have hc : 97 ≤ c.toNat ∧ c.toNat ≤ 122 := hrange hc
      obtain rfl := Option.some.inj h
      refine ⟨by omega, ?_⟩
      rw [digit, if_neg (by omega), if_pos (by omega)]
      exact hchar _ (by omega)
    split at h
    · next hc =>
      have hc : 48 ≤ c.toNat ∧ c.toNat ≤ 57 := hrange hc
      obtain rfl := Option.some.inj h
      refine ⟨by omega, ?_⟩
      rw [digit, if_neg (by omega), if_neg (by omega), if_pos (by omega)]
      exact hchar _ (by omega)
    split at h
    · next hc =>
      obtain rfl := Option.some.inj h
      exact ⟨by decide, hc⟩
    split at h
    · next hc =>
      obtain rfl := Option.some.inj h
      exact ⟨by decide, hc⟩
    · exact absurd h (by simp)
  · rintro ⟨hn, rfl⟩
    exact (value?_digit hn).1

/-- A text is read digit by digit. -/
theorem mapM_value?_eq_some_iff {text : List Char} {ns : List Nat} :
    text.mapM value? = some ns ↔ (∀ n ∈ ns, n < 64) ∧ text = ns.map digit := by
  induction text generalizing ns with
  | nil =>
      cases ns <;> simp
  | cons c text ih =>
      rw [List.mapM_cons]
      cases ns with
      | nil => cases value? c <;> cases text.mapM value? <;> simp
      | cons n ns =>
          have hhead := @value?_eq_some_iff c n
          have htail := @ih ns
          simp only [Option.bind_eq_bind, Option.bind_eq_some_iff, Option.pure_def,
            Option.some.injEq, List.cons.injEq, exists_eq_right_right, List.forall_mem_cons,
            List.map_cons]
          rw [hhead, htail, and_and_and_comm]

/-! ### Values -/

/-- Bytes as six-bit values, four for three bytes. -/
def values : Bytes → List Nat
  | [] => []
  | [a] => [a.toNat / 4, a.toNat % 4 * 16]
  | [a, b] => [a.toNat / 4, a.toNat % 4 * 16 + b.toNat / 16, b.toNat % 16 * 4]
  | a :: b :: c :: rest =>
      a.toNat / 4 :: (a.toNat % 4 * 16 + b.toNat / 16) :: (b.toNat % 16 * 4 + c.toNat / 64)
        :: c.toNat % 64 :: values rest

theorem lt_of_mem_values {bs : Bytes} : ∀ n ∈ values bs, n < 64 := by
  induction bs using values.induct with
  | case1 => simp [values]
  | case2 a =>
      have ha := a.toNat_lt
      simp only [values, List.forall_mem_cons, List.not_mem_nil, false_imp_iff, implies_true,
        and_true]
      omega
  | case3 a b =>
      have ha := a.toNat_lt
      have hb := b.toNat_lt
      simp only [values, List.forall_mem_cons, List.not_mem_nil, false_imp_iff, implies_true,
        and_true]
      omega
  | case4 a b c rest ih =>
      have ha := a.toNat_lt
      have hb := b.toNat_lt
      have hc := c.toNat_lt
      simp only [values, List.forall_mem_cons]
      exact ⟨by omega, by omega, by omega, by omega, ih⟩

/-- The padding belongs to the number of digits, and four digits more do not change it. -/
theorem padding_add_four (n : Nat) : padding (n + 4) = padding n := by
  rw [padding, padding, Nat.add_mod_right]

theorem encodeOnto_eq (done : List Char) (bs : Bytes) :
    encodeOnto done bs = done.reverse ++ ((values bs).map digit ++
      List.replicate (padding (values bs).length) '=') := by
  fun_induction encodeOnto done bs with
  | case1 => simp [values, padding]
  | case2 done a n =>
      have ha := a.toNat_lt
      have h₁ : n / 64 = a.toNat / 4 := by omega
      have h₂ : n % 64 = a.toNat % 4 * 16 := by omega
      rw [h₁, h₂]
      rfl
  | case3 done a b n =>
      have ha := a.toNat_lt
      have hb := b.toNat_lt
      have h₁ : n / 4096 = a.toNat / 4 := by omega
      have h₂ : n / 64 % 64 = a.toNat % 4 * 16 + b.toNat / 16 := by omega
      have h₃ : n % 64 = b.toNat % 16 * 4 := by omega
      rw [h₁, h₂, h₃]
      rfl
  | case4 done a b c rest n ih =>
      have ha := a.toNat_lt
      have hb := b.toNat_lt
      have hc := c.toNat_lt
      have h₁ : n / 262144 = a.toNat / 4 := by omega
      have h₂ : n / 4096 % 64 = a.toNat % 4 * 16 + b.toNat / 16 := by omega
      have h₃ : n / 64 % 64 = b.toNat % 16 * 4 + c.toNat / 64 := by omega
      have h₄ : n % 64 = c.toNat % 64 := by omega
      rw [ih, h₁, h₂, h₃, h₄, values]
      simp [padding_add_four]

/-- The text of bytes is made of the digits of their values, and of padding. -/
theorem encode_toList (bs : Bytes) :
    (encode bs).toList = (values bs).map digit ++
      List.replicate (padding (values bs).length) '=' := by
  rw [encode, String.toList_ofList, encodeOnto_eq]
  rfl

/-! ### Unpacking -/

/-- A byte is the last eight bits of any number that ends in it. -/
theorem ofNat_eq_of_mod {n : Nat} {b : UInt8} (h : n % 256 = b.toNat) : UInt8.ofNat n = b := by
  rw [← UInt8.toNat_inj, UInt8.toNat_ofNat']
  exact h

/-- Values are unpacked to the bytes that they come from. -/
theorem unpackOnto_values (done bs : Bytes) :
    unpackOnto done (values bs) = some (done.reverse ++ bs) := by
  induction bs using values.induct generalizing done with
  | case1 => simp [values, unpackOnto]
  | case2 a =>
      have ha := a.toNat_lt
      rw [values, unpackOnto, if_pos (by omega), ofNat_eq_of_mod (b := a) (by omega)]
  | case3 a b =>
      have ha := a.toNat_lt
      have hb := b.toNat_lt
      have hn : (a.toNat / 4 * 64 + (a.toNat % 4 * 16 + b.toNat / 16)) * 64 + b.toNat % 16 * 4 =
          (a.toNat * 256 + b.toNat) * 4 := by omega
      rw [values, unpackOnto, hn, if_pos (by omega), ofNat_eq_of_mod (b := a) (by omega),
        ofNat_eq_of_mod (b := b) (by omega)]
  | case4 a b c rest ih =>
      have ha := a.toNat_lt
      have hb := b.toNat_lt
      have hc := c.toNat_lt
      have hn : ((a.toNat / 4 * 64 + (a.toNat % 4 * 16 + b.toNat / 16)) * 64 +
          (b.toNat % 16 * 4 + c.toNat / 64)) * 64 + c.toNat % 64 =
          (a.toNat * 256 + b.toNat) * 256 + c.toNat := by omega
      rw [values, unpackOnto, hn, ofNat_eq_of_mod (b := c) (by omega),
        ofNat_eq_of_mod (b := b) (by omega), ofNat_eq_of_mod (b := a) (by omega), ih]
      simp

/-- **Only the values of bytes are unpacked**, and to these bytes. -/
theorem eq_values_of_unpackOnto {done out : Bytes} {ns : List Nat} (hns : ∀ n ∈ ns, n < 64)
    (h : unpackOnto done ns = some out) : ∃ bs, ns = values bs ∧ out = done.reverse ++ bs := by
  fun_induction unpackOnto done ns with
  | case1 done => exact ⟨[], rfl, by rw [← Option.some.inj h, List.append_nil]⟩
  | case2 => exact absurd h (by simp)
  | case3 done a b hb =>
      simp only [List.forall_mem_cons] at hns
      refine ⟨_, ?_, (Option.some.inj h).symm⟩
      simp only [values, UInt8.toNat_ofNat', List.cons.injEq, and_true]
      omega
  | case4 => exact absurd h (by simp)
  | case5 done a b c n hn =>
      simp only [List.forall_mem_cons] at hns
      refine ⟨_, ?_, (Option.some.inj h).symm⟩
      simp only [values, UInt8.toNat_ofNat', List.cons.injEq, and_true]
      omega
  | case6 => exact absurd h (by simp)
  | case7 done a b c d rest n ih =>
      simp only [List.forall_mem_cons] at hns
      obtain ⟨bs, hbs, hout⟩ := ih hns.2.2.2.2 h
      refine ⟨UInt8.ofNat (n / 65536) :: UInt8.ofNat (n / 256) :: UInt8.ofNat n :: bs, ?_, ?_⟩
      · simp only [values, UInt8.toNat_ofNat', List.cons.injEq, hbs, and_true]
        omega
      · rw [hout]
        simp

/-- **Values are unpacked to the bytes that they come from**, and nothing else is unpacked. -/
theorem unpackOnto_eq_some_iff {bs : Bytes} {ns : List Nat} (hns : ∀ n ∈ ns, n < 64) :
    unpackOnto [] ns = some bs ↔ ns = values bs := by
  constructor
  · intro h
    obtain ⟨bs', rfl, rfl⟩ := eq_values_of_unpackOnto hns h
    rfl
  · rintro rfl
    exact unpackOnto_values [] bs

/-! ### Spellings -/

/-- No digit is `=`. -/
theorem ne_of_mem_digits {ns : List Nat} (hns : ∀ n ∈ ns, n < 64) :
    ∀ c ∈ ns.map digit, c ≠ '=' := by
  intro c hc
  obtain ⟨n, hn, rfl⟩ := List.mem_map.1 hc
  exact (value?_digit (hns n hn)).2

/-- A spelling has all the digits of the bytes, and no more padding than belongs to them. -/
theorem isSpelling_iff {bs : Bytes} {text : String} :
    IsSpelling bs text ↔ ∃ kept ≤ padding (values bs).length,
      text.toList = (values bs).map digit ++ List.replicate kept '=' := by
  constructor
  · rintro ⟨dropped, htext⟩
    rw [encode_toList, List.append_eq_append_iff] at htext
    rcases htext with ⟨kept, htext, hpadding⟩ | ⟨cut, hdigits, hpadding⟩
    · obtain ⟨hlength, hkept, -⟩ := List.append_eq_replicate_iff.1 hpadding.symm
      exact ⟨kept.length, by omega, by rw [htext, ← hkept]⟩
    · -- no digit can have been dropped, since none is `=`
      obtain ⟨-, hcut, -⟩ := List.append_eq_replicate_iff.1 hpadding.symm
      have hnone : cut = [] := List.eq_nil_iff_forall_not_mem.2 fun c hc =>
        ne_of_mem_digits lt_of_mem_values c (hdigits ▸ List.mem_append_right _ hc)
          (List.eq_of_mem_replicate (hcut ▸ hc))
      exact ⟨0, Nat.zero_le _, by simp [hdigits, hnone]⟩
  · rintro ⟨kept, hkept, htext⟩
    refine ⟨padding (values bs).length - kept, ?_⟩
    rw [encode_toList, htext, List.append_assoc, List.replicate_append_replicate,
      Nat.add_sub_cancel' hkept]

/-- A text that is read consists of digits whose values are unpacked, and of padding. -/
theorem decode?_eq_some_iff_unpack {text : String} {bs : Bytes} :
    decode? text = some bs ↔ ∃ ns, ∃ kept ≤ padding ns.length, (∀ n ∈ ns, n < 64) ∧
      text.toList = ns.map digit ++ List.replicate kept '=' ∧ unpackOnto [] ns = some bs := by
  constructor
  · intro h
    simp only [decode?] at h
    split at h
    · exact absurd h (by simp)
    · next ns hdigits =>
      obtain ⟨hns, hdigits⟩ := mapM_value?_eq_some_iff.1 hdigits
      split at h
      · next hpad =>
        rw [Bool.and_eq_true, List.all_eq_true, decide_eq_true_eq] at hpad
        refine ⟨ns, _, hpad.2, hns, ?_, h⟩
        rw [← hdigits, ← List.eq_replicate_iff.2 ⟨rfl, fun c hc => beq_iff_eq.1 (hpad.1 c hc)⟩,
          List.takeWhile_append_dropWhile]
      · exact absurd h (by simp)
  · rintro ⟨ns, kept, hkept, hns, htext, hunpack⟩
    have hfree : ∀ c ∈ ns.map digit, (c != '=') = true := fun c hc =>
      bne_iff_ne.2 (ne_of_mem_digits hns c hc)
    have htake : text.toList.takeWhile (· != '=') = ns.map digit := by
      rw [htext, List.takeWhile_append_of_pos hfree]
      cases kept <;> simp [List.replicate_succ]
    have hdrop : text.toList.dropWhile (· != '=') = List.replicate kept '=' := by
      rw [htext, List.dropWhile_append_of_pos hfree]
      cases kept <;> simp [List.replicate_succ]
    simp only [decode?, htake, hdrop, mapM_value?_eq_some_iff.2 ⟨hns, rfl⟩]
    rw [if_pos (by simp [hkept]), hunpack]

/-- **Exactly the spellings of bytes are read as these bytes.** -/
theorem decode?_eq_some_iff {text : String} {bs : Bytes} :
    decode? text = some bs ↔ IsSpelling bs text := by
  rw [isSpelling_iff, decode?_eq_some_iff_unpack]
  constructor
  · rintro ⟨ns, kept, hkept, hns, htext, hunpack⟩
    obtain rfl := (unpackOnto_eq_some_iff hns).1 hunpack
    exact ⟨kept, hkept, htext⟩
  · rintro ⟨kept, hkept, htext⟩
    exact ⟨values bs, kept, hkept, lt_of_mem_values, htext, unpackOnto_values [] bs⟩

/-- Bytes are read from their padded text. -/
theorem decode?_encode (bs : Bytes) : decode? (encode bs) = some bs :=
  decode?_eq_some_iff.2 ⟨0, by simp⟩

/-- No text is a spelling of two byte sequences. -/
theorem IsSpelling.unique {bs bs' : Bytes} {text : String} (h : IsSpelling bs text)
    (h' : IsSpelling bs' text) : bs = bs' :=
  Option.some.inj ((decode?_eq_some_iff.2 h).symm.trans (decode?_eq_some_iff.2 h'))

end Base64

end HookBridge
