/-
**The lines of a text.**

A text that is written line by line, each line with a line break behind it, has these lines and an
empty one behind the last break.  This holds as long as no line has a break of its own, which
numbers never have.

Main definitions:

* `HookBridge.Lines.ofText` — the lines of a text;
* `HookBridge.Lines.write` — lines as a text;
* `HookBridge.HasLine` — a text has a line.

Main results:

* `HookBridge.Lines.ofText_write` — **what has been written line by line has these lines**;
* `HookBridge.hasLine_write_iff` — so it has a line exactly if this has been written;
* `HookBridge.Lines.eq_of_append_cons` — what stands before the first mark is known from the whole;
* `HookBridge.Lines.no_break_toString`, `HookBridge.Lines.no_break_ofFloat` — numbers stand on one
  line.
-/

import HookBridge.Text.Decimal

set_option relaxedAutoImplicit false
set_option autoImplicit false

namespace HookBridge

namespace Lines

/-- The lines of a text, the last of them behind the last line break. -/
def ofText (text : String) : List (List Char) := text.toList.splitOn '\n'

/-- Lines as a text, each with a line break behind it. -/
def write (lines : List String) : String := String.join (lines.map (· ++ "\n"))

theorem write_nil : write [] = "" := rfl

theorem write_cons (line : String) (rest : List String) :
    write (line :: rest) = line ++ "\n" ++ write rest := by
  rw [write, List.map_cons, String.join_cons, write]

theorem write_append (lines rest : List String) :
    write (lines ++ rest) = write lines ++ write rest := by
  induction lines with
  | nil => rw [List.nil_append, write_nil, String.empty_append]
  | cons line lines ih =>
      rw [List.cons_append, write_cons, write_cons, ih]
      simp only [String.append_assoc]

/-- **What has been written line by line has these lines.** -/
theorem ofText_write {lines : List String} (h : ∀ line ∈ lines, '\n' ∉ line.toList) :
    ofText (write lines) = lines.map String.toList ++ [[]] := by
  induction lines with
  | nil => rfl
  | cons line rest ih =>
      obtain ⟨hline, hrest⟩ := List.forall_mem_cons.1 h
      have hbreak : ∀ c ∈ line.toList, (c == '\n') = false := by
        intro c hc
        rw [beq_eq_false_iff_ne]
        rintro rfl
        exact hline hc
      have hlist : (write (line :: rest)).toList = line.toList ++ '\n' :: (write rest).toList := by
        rw [write_cons]
        simp
      rw [ofText, hlist, List.splitOn_eq_splitOnP,
        List.splitOnP_append_cons_of_forall_mem hbreak '\n' (by decide),
        ← List.splitOn_eq_splitOnP]
      rw [ofText] at ih
      rw [ih hrest, List.map_cons, List.cons_append]

/-- What stands before the first mark of a text, and what behind it, is known from the whole. -/
theorem eq_of_append_cons {mark : Char} {before after before' after' : List Char}
    (h : mark ∉ before) (h' : mark ∉ before')
    (heq : before ++ mark :: after = before' ++ mark :: after') :
    before = before' ∧ after = after' := by
  -- a longer front would have the mark in it
  rcases List.append_eq_append_iff.1 heq with ⟨gap, hfront, hrest⟩ | ⟨gap, hfront, hrest⟩
  · cases gap with
    | nil => simpa [eq_comm] using And.intro hfront hrest
    | cons c gap =>
        obtain ⟨rfl, -⟩ := List.cons.inj hrest
        exact absurd (by simp [hfront]) h'
  · cases gap with
    | nil => simpa [eq_comm] using And.intro hfront hrest
    | cons c gap =>
        obtain ⟨rfl, -⟩ := List.cons.inj hrest
        exact absurd (by simp [hfront]) h

/-! ### Numbers -/

/-- A digit is no line break. -/
theorem no_break_of_isDigit {text : List Char} (h : ∀ c ∈ text, c.isDigit = true) :
    '\n' ∉ text := fun hmem => absurd (h '\n' hmem) (by decide)

theorem isDigit_iff (c : Char) : c.isDigit = true ↔ '0' ≤ c ∧ c ≤ '9' := by
  rw [Char.isDigit, Bool.and_eq_true, decide_eq_true_eq, decide_eq_true_eq]
  rfl

theorem isDigit_of_mem_toDigits {n : Nat} {c : Char} (h : c ∈ Nat.toDigits 10 n) :
    c.isDigit = true := Nat.isDigit_of_mem_toDigits (by decide) (by decide) h

theorem toList_toString (n : Nat) : (toString n).toList = Nat.toDigits 10 n := by
  rw [Nat.toString_eq_ofList_toDigits, String.toList_ofList]

/-- A number is known from its digits. -/
theorem eq_of_toString {n n' : Nat} (h : (toString n).toList = (toString n').toList) : n = n' := by
  rw [toList_toString, toList_toString] at h
  calc
    n = Nat.ofDigitChars 10 (Nat.toDigits 10 n) 0 := Nat.ofDigitChars_ten_toDigits.symm
    _ = Nat.ofDigitChars 10 (Nat.toDigits 10 n') 0 := by rw [h]
    _ = n' := Nat.ofDigitChars_ten_toDigits

theorem no_break_toString (n : Nat) : '\n' ∉ (toString n).toList := by
  rw [toList_toString]
  exact no_break_of_isDigit fun _ => isDigit_of_mem_toDigits

/-- A whole part and a fraction stand on one line, if both do. -/
theorem no_break_fraction {whole fraction : List Char} (hwhole : '\n' ∉ whole)
    (hfraction : '\n' ∉ fraction) :
    '\n' ∉ (match fraction with
      | [] => String.ofList whole
      | ds => String.ofList (whole ++ '.' :: ds)).toList := by
  cases fraction with
  | nil => simpa using hwhole
  | cons c ds => simpa [hwhole] using hfraction

/-- A decimal stands on one line. -/
theorem no_break_text (d : Decimal) : '\n' ∉ d.text.toList := by
  rw [Decimal.text]
  split
  · exact no_break_toString _
  · -- whole and fraction are cut out of digits
    have hpadded : '\n' ∉ List.replicate ((-d.place).toNat + 1 - (Nat.toDigits 10 d.digits).length)
        '0' ++ Nat.toDigits 10 d.digits := by
      refine no_break_of_isDigit fun c hc => ?_
      rcases List.mem_append.1 hc with hzero | hdigit
      · rw [(List.mem_replicate.1 hzero).2]
        decide
      · exact isDigit_of_mem_toDigits hdigit
    refine no_break_fraction (fun hmem => hpadded (List.mem_of_mem_take hmem)) fun hmem => ?_
    have hdrop := (List.dropWhile_sublist _).mem (List.mem_reverse.1 hmem)
    exact hpadded (List.mem_of_mem_drop (List.mem_reverse.1 hdrop))

/-- The text of a number stands on one line. -/
theorem no_break_ofFloat (x : Float) : '\n' ∉ (Decimal.ofFloat x).toList := by
  unfold Decimal.ofFloat
  extract_lets bits hidden exponent fraction
  split
  · split <;> decide
  · split
    · split
      · decide
      · exact no_break_text _
    · exact no_break_text _

end Lines

/-- A text has a line: it stands between two line breaks, or between a break and an end. -/
def HasLine (text line : String) : Prop := line.toList ∈ Lines.ofText text

/-- What has been written line by line has a line exactly if this has been written. -/
theorem hasLine_write_iff {lines : List String} (h : ∀ line ∈ lines, '\n' ∉ line.toList)
    {line : String} (hne : line ≠ "") : HasLine (Lines.write lines) line ↔ line ∈ lines := by
  rw [HasLine, Lines.ofText_write h, List.mem_append, List.mem_singleton, List.mem_map]
  constructor
  · rintro (⟨line', hmem, heq⟩ | hempty)
    · rwa [← String.toList_inj.1 heq]
    · exact absurd (String.toList_inj.1 hempty) hne
  · intro hmem
    exact Or.inl ⟨line, hmem, rfl⟩

end HookBridge
