/-
**Escaped texts, piece by piece.**

Whoever reads an escaped text from the left takes one piece of it at a time: a `%` with the digits
of a byte, or else a single byte.  The pieces are a matter of the text alone.  Readers differ in
what they make of a `%` that is a piece of its own, which is a broken escape: one lets it pass, and
another stops there.  So they make the same of a text without such a piece.  A text in which spaces
have been written for `+` is made of the same escapes, in the same places.

Main definitions:

* `HookBridge.Percent.Piece` — what is taken at a time, how it is written and what is read for it;
* `HookBridge.Percent.InPieces` — a text and its pieces;
* `HookBridge.Percent.unescapeOnce` — the text behind an escaped one, read in a single pass.

Main results:

* `HookBridge.Percent.InPieces.iff` — **a text has one list of pieces**;
* `HookBridge.Percent.InPieces.spaced` — the pieces of a text with spaces for `+`;
* `HookBridge.Percent.InPieces.lone_sign_iff` — a `%` is a piece of its own in a broken escape only;
* `HookBridge.Percent.InPieces.decode_eq`, `HookBridge.Percent.InPieces.scan?_eq` — what is made of
  the pieces by the reader that lets everything pass, and by the one that stops;
* `HookBridge.Percent.scan?_eq` — **both come to the same**, unless an escape is broken;
* `HookBridge.Percent.unescape?_eq_unescapeOnce` — **the three passes are the single pass**.
-/

import HookBridge.Proofs.Text.Concat

set_option relaxedAutoImplicit false
set_option autoImplicit false

namespace HookBridge

namespace Percent

/-! ### Pieces -/

/-- What is taken of an escaped text at a time. -/
inductive Piece
  /-- a single byte -/
  | byte (b : UInt8)
  /-- a `%` with two digits, and the byte that they write -/
  | escape (high low b : UInt8)
  deriving DecidableEq, Repr

/-- The bytes of the text that are the piece. -/
def Piece.written : Piece → Bytes
  | .byte b => [b]
  | .escape high low _ => [sign, high, low]

/-- The byte that is read for the piece. -/
def Piece.read : Piece → UInt8
  | .byte b => b
  | .escape _ _ b => b

/-- The piece with a space for a `+`.  In an escape there is none. -/
def Piece.spaced : Piece → Piece
  | .byte b => .byte (if b = plus then space else b)
  | .escape high low b => .escape high low b

/-- `InPieces bs ps`: the pieces of the bytes are `ps`, in this order.  A byte is a piece of its own
unless it is a `%` with the digits of a byte behind it. -/
inductive InPieces : Bytes → List Piece → Prop
  /-- nothing is left -/
  | nil : InPieces [] []
  /-- a `%` with two digits -/
  | escape {high low b : UInt8} {rest : Bytes} {ps : List Piece} (hb : byte? high low = some b)
      (hrest : InPieces rest ps) : InPieces (sign :: high :: low :: rest) (.escape high low b :: ps)
  /-- any other byte, which may be a `%` without two digits -/
  | byte {b : UInt8} {rest : Bytes} {ps : List Piece}
      (hb : b = sign → ∀ high low after, rest = high :: low :: after → byte? high low = none)
      (hrest : InPieces rest ps) : InPieces (b :: rest) (.byte b :: ps)

/-- Every text has pieces. -/
theorem exists_inPieces (bs : Bytes) : ∃ ps, InPieces bs ps := by
  match bs with
  | [] => exact ⟨[], .nil⟩
  | b :: rest =>
      by_cases hescape : ∃ high low x after,
          b = sign ∧ rest = high :: low :: after ∧ byte? high low = some x
      · obtain ⟨high, low, x, after, rfl, rfl, hx⟩ := hescape
        obtain ⟨ps, hps⟩ := exists_inPieces after
        exact ⟨_, .escape hx hps⟩
      · obtain ⟨ps, hps⟩ := exists_inPieces rest
        refine ⟨_, .byte ?_ hps⟩
        intro hb high low after hrest
        cases hx : byte? high low with
        | none => rfl
        | some x => exact absurd ⟨high, low, x, after, hb, hrest, hx⟩ hescape
  termination_by bs.length

/-- Nothing of the text is left out, and nothing is taken twice. -/
theorem InPieces.written {bs : Bytes} {ps : List Piece} (h : InPieces bs ps) :
    bs = ps.flatMap Piece.written := by
  induction h with
  | nil => rfl
  | escape hb hrest ih => rw [ih]; rfl
  | byte hb hrest ih => rw [ih]; rfl

theorem InPieces.unique {bs : Bytes} {ps qs : List Piece} (h : InPieces bs ps)
    (h' : InPieces bs qs) : ps = qs := by
  induction h generalizing qs with
  | nil =>
      cases h' with
      | nil => rfl
  | @escape high low b rest ps hb hrest ih =>
      cases h' with
      | escape hb' hrest' =>
          obtain rfl := Option.some.inj (hb.symm.trans hb')
          rw [ih hrest']
      | byte hb' hrest' =>
          rw [hb' rfl high low rest rfl] at hb
          exact absurd hb (by simp)
  | byte hb hrest ih =>
      cases h' with
      | escape hb' hrest' =>
          rw [hb rfl _ _ _ rfl] at hb'
          exact absurd hb' (by simp)
      | byte hb' hrest' => rw [ih hrest']

/-- **A text has one list of pieces.** -/
theorem InPieces.iff {bs : Bytes} {ps : List Piece} (h : InPieces bs ps) (qs : List Piece) :
    InPieces bs qs ↔ qs = ps := by
  constructor
  · exact fun h' => h'.unique h
  · rintro rfl
    exact h

/-! ### Spaces for `+` -/

/-- A byte becomes a `%` only by being one. -/
theorem spaced_eq_sign_iff (b : UInt8) : (if b = plus then space else b) = sign ↔ b = sign := by
  by_cases hplus : b = plus
  · subst hplus
    decide
  · rw [if_neg hplus]

/-- A piece becomes a `%` of its own only by being one. -/
theorem lone_sign_spaced_iff (ps : List Piece) :
    .byte sign ∈ ps.map Piece.spaced ↔ .byte sign ∈ ps := by
  have hpiece : ∀ p : Piece, p.spaced = .byte sign ↔ p = .byte sign := by
    intro p
    cases p with
    | byte b => simp only [Piece.spaced, Piece.byte.injEq, spaced_eq_sign_iff]
    | escape high low b => simp [Piece.spaced]
  simp only [List.mem_map, hpiece, exists_eq_right]

/-- Where the digits of a byte are missing, spaces for `+` do not bring them. -/
theorem no_digits_spaced {rest : Bytes}
    (h : ∀ high low after, rest = high :: low :: after → byte? high low = none) :
    ∀ high low after, spaced rest = high :: low :: after → byte? high low = none := by
  intro high low after heq
  obtain ⟨high, rest, rfl, rfl, hrest⟩ := List.map_eq_cons_iff.1 heq
  obtain ⟨low, after, rfl, rfl, -⟩ := List.map_eq_cons_iff.1 hrest
  rw [byte?_spaced]
  exact h high low after rfl

/-- **A space for a `+` makes no escape and breaks none.** -/
theorem InPieces.spaced {bs : Bytes} {ps : List Piece} (h : InPieces bs ps) :
    InPieces (spaced bs) (ps.map Piece.spaced) := by
  induction h with
  | nil => exact .nil
  | @escape high low b rest ps hb hrest ih =>
      obtain ⟨hhigh, hlow⟩ := ne_of_byte? hb (by decide : hexValue? plus = none)
      rw [spaced_cons, spaced_cons, spaced_cons, if_neg sign_ne_plus, if_neg hhigh, if_neg hlow]
      exact .escape hb ih
  | @byte b rest ps hb hrest ih =>
      rw [spaced_cons]
      exact .byte (fun hsign => no_digits_spaced (hb ((spaced_eq_sign_iff b).1 hsign))) ih

/-! ### Broken escapes -/

/-- A broken escape shares nothing with an escape in front of it. -/
theorem hasBrokenEscape_escape {high low b : UInt8} (hb : byte? high low = some b) (rest : Bytes) :
    HasBrokenEscape (sign :: high :: low :: rest) ↔ HasBrokenEscape rest := by
  obtain ⟨hhigh, hlow⟩ := ne_of_byte? hb (by decide : hexValue? sign = none)
  rw [hasBrokenEscape_cons, hasBrokenEscape_cons high, hasBrokenEscape_cons low]
  constructor
  · rintro (⟨-, hnone⟩ | ⟨hsign, -⟩ | ⟨hsign, -⟩ | hrest)
    · rw [hnone high low rest rfl] at hb
      exact absurd hb (by simp)
    · exact absurd hsign hhigh
    · exact absurd hsign hlow
    · exact hrest
  · exact fun hrest => Or.inr (Or.inr (Or.inr hrest))

/-- A broken escape stays broken, whatever is put in front of it. -/
theorem HasBrokenEscape.append_left {bs : Bytes} (h : HasBrokenEscape bs) (front : Bytes) :
    HasBrokenEscape (front ++ bs) := by
  obtain ⟨before, after, rfl, hnone⟩ := h
  exact ⟨front ++ before, after, (List.append_assoc ..).symm, hnone⟩

/-- **A `%` is a piece of its own in a broken escape only.** -/
theorem InPieces.lone_sign_iff {bs : Bytes} {ps : List Piece} (h : InPieces bs ps) :
    .byte sign ∈ ps ↔ HasBrokenEscape bs := by
  induction h with
  | nil => simp [HasBrokenEscape]
  | @escape high low b rest ps hb hrest ih =>
      rw [hasBrokenEscape_escape hb, ← ih]
      simp
  | @byte b rest ps hb hrest ih =>
      rw [hasBrokenEscape_cons, List.mem_cons, ih]
      refine or_congr_left ?_
      constructor
      · intro heq
        obtain rfl := Piece.byte.inj heq
        exact ⟨rfl, hb rfl⟩
      · rintro ⟨rfl, -⟩
        rfl

/-- The first pass refuses a text exactly if a `%` is a piece of its own. -/
theorem InPieces.complete_iff {bs : Bytes} {ps : List Piece} (h : InPieces bs ps) :
    complete bs = true ↔ .byte sign ∉ ps := by
  rw [h.lone_sign_iff, Percent.complete_iff]

/-! ### Two readers -/

/-- A `%` without the digits of a byte is passed on. -/
theorem decode_sign {rest : Bytes}
    (h : ∀ high low after, rest = high :: low :: after → byte? high low = none) :
    decode (sign :: rest) = sign :: decode rest := by
  match rest with
  | [] => rfl
  | [c] => rfl
  | high :: low :: after => exact decode_broken (h high low after rfl) after

/-- The reader that lets everything pass reads a byte for each piece. -/
theorem InPieces.decode_eq {bs : Bytes} {ps : List Piece} (h : InPieces bs ps) :
    decode bs = ps.map Piece.read := by
  induction h with
  | nil => rfl
  | escape hb hrest ih => rw [decode_escape hb, ih]; rfl
  | @byte b rest ps hb hrest ih =>
      by_cases hsign : b = sign
      · subst hsign
        rw [decode_sign (hb rfl), ih]
        rfl
      · rw [decode_cons_of_ne hsign, ih]
        rfl

/-- So a byte is read for each piece, a space for a `+`. -/
theorem InPieces.onePass_eq {bs : Bytes} {ps : List Piece} (h : InPieces bs ps) :
    onePass bs = (ps.map Piece.spaced).map Piece.read := by
  rw [← decode_spaced, h.spaced.decode_eq]

theorem scan?_cons_of_ne {b : UInt8} (h : b ≠ sign) (rest : Bytes) :
    scan? (b :: rest) = (scan? rest).map ((if b = plus then space else b) :: ·) := by
  rw [scan?.eq_def]
  simp only [if_neg h]

theorem scan?_escape {high low b : UInt8} (h : byte? high low = some b) (rest : Bytes) :
    scan? (sign :: high :: low :: rest) = (scan? rest).map (b :: ·) := by
  rw [scan?, if_pos rfl, h]

/-- A `%` without the digits of a byte ends the single pass. -/
theorem scan?_sign {rest : Bytes}
    (h : ∀ high low after, rest = high :: low :: after → byte? high low = none) :
    scan? (sign :: rest) = none := by
  match rest with
  | [] => rfl
  | [c] => rfl
  | high :: low :: after => rw [scan?, if_pos rfl, h high low after rfl]

/-- The single pass stops at a `%` that is a piece of its own, and otherwise reads a byte for each
piece, a space for a `+`. -/
theorem InPieces.scan?_eq {bs : Bytes} {ps : List Piece} (h : InPieces bs ps) :
    scan? bs = if .byte sign ∈ ps then none else some ((ps.map Piece.spaced).map Piece.read) := by
  induction h with
  | nil => rfl
  | @escape high low b rest ps hb hrest ih =>
      rw [scan?_escape hb, ih]
      by_cases hps : Piece.byte sign ∈ ps <;> simp [hps, Piece.spaced, Piece.read]
  | @byte b rest ps hb hrest ih =>
      by_cases hsign : b = sign
      · subst hsign
        rw [scan?_sign (hb rfl), if_pos List.mem_cons_self]
      · rw [scan?_cons_of_ne hsign, ih]
        by_cases hps : Piece.byte sign ∈ ps <;>
          simp [hps, Ne.symm hsign, Piece.spaced, Piece.read]

/-- **The pass that stops and the pass that does not** come to the same, unless an escape is
broken. -/
theorem scan?_eq (bs : Bytes) :
    scan? bs = if complete bs = true then some (onePass bs) else none := by
  obtain ⟨ps, hps⟩ := exists_inPieces bs
  rw [hps.scan?_eq, hps.onePass_eq]
  by_cases hlone : .byte sign ∈ ps
  · rw [if_pos hlone, if_neg fun hc => hps.complete_iff.1 hc hlone]
  · rw [if_neg hlone, if_pos (hps.complete_iff.2 hlone)]

/-! ### The single pass -/

/-- The text behind `raw`, read in a single pass from the left that ends at a broken escape.  Only
the bytes of a whole pass are asked whether they are text. -/
def unescapeOnce (raw : String) : Except Fault String :=
  match scan? (Utf8.encode raw) with
  | some bytes =>
      match Utf8.decode? bytes with
      | some text => .ok text
      | none => .error .notText
  | none => .error .brokenEscape

/-- **The three passes are the single pass.** -/
theorem unescape?_eq_unescapeOnce (raw : String) : unescape? raw = unescapeOnce raw := by
  rw [unescape?, unescapeOnce, scan?_eq, decode_spaced]
  by_cases hc : complete (Utf8.encode raw) = true
  · cases hread : Utf8.decode? (onePass (Utf8.encode raw)) <;> simp [hc, hread]
  · simp [hc]

end Percent

end HookBridge
