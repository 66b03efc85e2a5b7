/-
**Escapes checked first and read later.**

A path is checked for broken escapes as it has been given, and the escapes are read in a copy of it,
in which spaces stand for `+`.  That can be left to any reader that replaces the escapes it finds
and lets all else pass: in the copy it finds the escapes that have been checked, in the same places,
and there is nothing left for it to let pass that should have been refused.  So a path is read as a
reader would read it that goes over it once and stops at a broken escape.

Main definitions:

* `HookBridge.Percent.IsLenient` — what is asked of a reader of escapes;
* `HookBridge.Percent.unescapeWith` — a text checked first and then read by such a reader;
* `HookBridge.Percent.SeenAlike` — the check and the reader see the same escapes.

Main results:

* `HookBridge.Percent.isLenient_lenient?` — there is such a reader;
* `HookBridge.Percent.unescapeWith_eq` — it does not matter which one reads;
* `HookBridge.Percent.exists_seenAlike` — **the check and the reader see the same escapes**;
* `HookBridge.Percent.unescape?_spelled` — **what is read is not read again**;
* `HookBridge.Subtopic.unescape_strictly` — checking first and reading later, all of it.
-/

import HookBridge.Proofs.Subtopic
import HookBridge.Proofs.Text.Piece
import Mathlib.Data.List.Forall2

set_option relaxedAutoImplicit false
set_option autoImplicit false

namespace HookBridge

namespace Percent

/-! ### Readers that let everything pass -/

/-- What is asked of a reader of escapes: it replaces every `%` with two digits by the byte that
they write, lets every other byte pass, also a `%` without digits, and has no text to give exactly
if the bytes that come out are no UTF-8. -/
def IsLenient (read : String → Option String) : Prop :=
  ∀ s ps, InPieces (Utf8.encode s) ps → read s = Utf8.decode? (ps.map Piece.read)

/-- A reader that lets everything pass. -/
def lenient? (s : String) : Option String := Utf8.decode? (decode (Utf8.encode s))

theorem isLenient_lenient? : IsLenient lenient? := by
  intro s ps h
  rw [lenient?, h.decode_eq]

/-- The text with a space for each `+`. -/
def withSpaces (raw : String) : String :=
  String.ofList (raw.toList.map fun c => if c = '+' then ' ' else c)

/-- The text behind `raw`: the escapes are checked in `raw`, and read in the copy with spaces. -/
def unescapeWith (read : String → Option String) (raw : String) : Except Fault String :=
  if complete (Utf8.encode raw) then
    match read (withSpaces raw) with
    | some text => .ok text
    | none => .error .notText
  else .error .brokenEscape

/-! ### The copy with spaces -/

/-- Bytes without a `+` stay as they are. -/
theorem spaced_eq_self {bs : Bytes} (h : plus ∉ bs) : spaced bs = bs := by
  have hbytes : ∀ b ∈ bs, (if b = plus then space else b) = id b := by
    intro b hb
    rw [if_neg]
    · rfl
    · rintro rfl
      exact h hb
  rw [spaced, List.map_congr_left hbytes, List.map_id]

/-- A space is written for the byte of a `+` exactly if one is written for the character. -/
theorem spaced_encodeChar (c : Char) :
    spaced (String.utf8EncodeChar c) = String.utf8EncodeChar (if c = '+' then ' ' else c) := by
  by_cases hc : c = '+'
  · subst hc
    decide
  · rw [if_neg hc]
    refine spaced_eq_self fun hmem => hc ?_
    exact Utf8.eq_of_mem_encodeChar (by decide) (by decide) hmem

/-- The bytes of the copy with spaces. -/
theorem encode_withSpaces (raw : String) :
    Utf8.encode (withSpaces raw) = spaced (Utf8.encode raw) := by
  rw [Utf8.encode, withSpaces, String.toList_ofList, List.flatMap_map, Utf8.encode, spaced,
    List.map_flatMap]
  exact List.flatMap_congr fun c _ => (spaced_encodeChar c).symm

/-- **It does not matter which reader reads.** -/
theorem unescapeWith_eq {read : String → Option String} (hread : IsLenient read) (raw : String) :
    unescapeWith read raw = unescape? raw := by
  obtain ⟨ps, hps⟩ := exists_inPieces (Utf8.encode (withSpaces raw))
  rw [unescapeWith, hread _ ps hps, ← hps.decode_eq, encode_withSpaces]
  rfl

/-! ### What is seen of a text -/

/-- The check, which goes over the text as it is, and the reader, which goes over the copy with
spaces, see the same escapes in it. -/
structure SeenAlike (raw : String) (ps : List Piece) : Prop where
  /-- the pieces of the text -/
  original : ∀ qs, InPieces (Utf8.encode raw) qs ↔ qs = ps
  /-- the pieces of the copy: the same escapes in the same places, and between them the same bytes
  but for the spaces -/
  copy : ∀ qs, InPieces (Utf8.encode (withSpaces raw)) qs ↔ qs = ps.map Piece.spaced
  /-- the check accepts the text exactly if the reader finds no `%` outside the escapes, so behind
  the check there is none for it to let pass -/
  checked : complete (Utf8.encode raw) = true ↔ .byte sign ∉ ps.map Piece.spaced
  /-- every byte of the text is part of one piece -/
  whole : Utf8.encode raw = ps.flatMap Piece.written
  /-- and of every piece one byte is read, which is not looked at again -/
  read : ∀ text, unescape? raw = .ok text ↔
    .byte sign ∉ ps ∧ (ps.map Piece.spaced).map Piece.read = Utf8.encode text

/-- **The check and the reader see the same escapes.** -/
theorem exists_seenAlike (raw : String) : ∃ ps, SeenAlike raw ps := by
  obtain ⟨ps, hps⟩ := exists_inPieces (Utf8.encode raw)
  have hcopy : InPieces (Utf8.encode (withSpaces raw)) (ps.map Piece.spaced) := by
    rw [encode_withSpaces]
    exact hps.spaced
  refine ⟨ps, hps.iff, hcopy.iff, ?_, hps.written, ?_⟩
  · rw [hps.complete_iff, lone_sign_spaced_iff]
  · intro text
    rw [unescape?_eq_ok_iff, ← hps.lone_sign_iff, hps.onePass_eq, Utf8.decode?_eq_some_iff]

/-! ### Escaped marks -/

/-- An escaped `+` is a `+`, and what is on both sides of it is read on its own. -/
theorem unescape?_append_plus {x : String} (hx : x ∈ ["%2B", "%2b"]) (raw raw' text : String) :
    unescape? (raw ++ x ++ raw') = .ok text ↔
      ∃ before after, unescape? raw = .ok before ∧ unescape? raw' = .ok after ∧
        text = before ++ "+" ++ after := by
  have hmark : IsMark '+' := ⟨plus, by decide, by decide, by decide⟩
  have hspells : Spells '+' x.toList := by
    simp only [List.mem_cons, List.not_mem_nil, or_false] at hx
    rcases hx with rfl | rfl
    · exact .escaped (.cons (.inl rfl) (.inr rfl) .nil)
    · exact .escaped (.cons (.inl rfl) (.inl rfl) .nil)
  exact unescape?_append_mark hmark hspells raw raw' text

/-! ### Escaped texts -/

/-- What is written character by character is read character by character. -/
theorem reads_of_forall₂ {text : List Char} {parts : List (List Char)}
    (h : List.Forall₂ Spells text parts) :
    Reads (parts.flatten.flatMap String.utf8EncodeChar) (text.flatMap String.utf8EncodeChar) := by
  induction h with
  | nil => exact Reads.nil
  | cons hc hrest ih =>
      rw [List.flatten_cons, List.flatMap_append, List.flatMap_cons]
      exact hc.reads.append ih

/-- **What is read is not read again**: a text that has been escaped once comes back as it was, also
if it looks like an escaped one itself. -/
theorem unescape?_spelled {text : String} {parts : List (List Char)}
    (h : List.Forall₂ Spells text.toList parts) :
    unescape? (String.ofList parts.flatten) = .ok text := by
  refine Reads.unescape?_eq_ok ?_
  rw [Utf8.encode, Utf8.encode, String.toList_ofList]
  exact reads_of_forall₂ h

/-! ### Broken escapes -/

/-- A broken escape is what is wrong with a text, whatever else is. -/
theorem unescape?_eq_brokenEscape_iff (raw : String) :
    unescape? raw = .error .brokenEscape ↔ HasBrokenEscape (Utf8.encode raw) := by
  rw [unescape?_eq_error_iff]
  simp

end Percent

namespace Subtopic

/-- **Escapes checked first and read later.**  Whichever reader reads them, and it may let all pass
that is no escape, the text behind a path is what a single pass comes to that stops at a broken
escape.  The check and the reader see the same escapes; an escaped `+` is a `+`; a text that has
been escaped once comes back as it was; and a broken escape is what is wrong with a path, whatever
stands in front of it. -/
theorem unescape_strictly {read : String → Option String} (hread : Percent.IsLenient read)
    (raw : String) :
    (Percent.unescapeWith read raw = Percent.unescapeOnce raw ∧
      Percent.unescape? raw = Percent.unescapeOnce raw) ∧
    (∃ ps, Percent.SeenAlike raw ps) ∧
    (∀ x ∈ ["%2B", "%2b"], ∀ raw' text,
      Percent.unescapeWith read (raw ++ x ++ raw') = .ok text ↔
        ∃ before after, Percent.unescapeWith read raw = .ok before ∧
          Percent.unescapeWith read raw' = .ok after ∧ text = before ++ "+" ++ after) ∧
    (∀ parts, List.Forall₂ Percent.Spells raw.toList parts →
      Percent.unescapeWith read (String.ofList parts.flatten) = .ok raw) ∧
    (Percent.unescapeWith read raw = .error .brokenEscape ↔
      Percent.HasBrokenEscape (Utf8.encode raw)) ∧
    (Percent.HasBrokenEscape (Utf8.encode raw) → ∀ front,
      Percent.unescapeWith read (front ++ raw) = .error .brokenEscape ∧
        ∃ fault, normalize (front ++ raw) = .error fault ∧
          fault.toError =
            .malformedSubtopic ("invalid escape in \"" ++ (front ++ raw) ++ "\"")) := by
  simp only [Percent.unescapeWith_eq hread]
  have honce := Percent.unescape?_eq_unescapeOnce raw
  refine ⟨⟨honce, honce⟩, Percent.exists_seenAlike raw, ?_, ?_,
    Percent.unescape?_eq_brokenEscape_iff raw, ?_⟩
  · intro x hx raw' text
    exact Percent.unescape?_append_plus hx raw raw' text
  · intro parts hparts
    exact Percent.unescape?_spelled hparts
  · intro hbroken front
    have hfault : Percent.unescape? (front ++ raw) = .error .brokenEscape := by
      rw [Percent.unescape?_eq_brokenEscape_iff, Utf8.encode_append]
      exact hbroken.append_left _
    refine ⟨hfault, .brokenEscape (front ++ raw), ?_, rfl⟩
    rw [normalize, hfault]

/-- A `+`, an escaped percent sign in front of digits and a character of two bytes; an escaped `+`
next to a plain one; a text that looks like an escape, escaped; and a `%` in front of an escape,
behind a byte that is no UTF-8. -/
theorem unescape_strictly_mixed :
    Percent.IsLenient Percent.lenient? ∧
      Percent.unescapeWith Percent.lenient? "a+%252b%C3%A9" = .ok "a %2bé" ∧
      Percent.unescapeWith Percent.lenient? ("%c3%a9" ++ "%2b" ++ "+") = .ok ("é" ++ "+" ++ " ") ∧
      List.Forall₂ Percent.Spells "%41".toList [['%', '2', '5'], ['4'], ['1']] ∧
      Percent.unescapeWith Percent.lenient? "%2541" = .ok "%41" ∧
      Percent.HasBrokenEscape (Utf8.encode "%%41") ∧
      Percent.unescape? "%FF" = .error .notText ∧
      Percent.unescapeWith Percent.lenient? ("%FF" ++ "%%41") = .error .brokenEscape := by
  have hread := Percent.isLenient_lenient?
  have hparts : List.Forall₂ Percent.Spells "%41".toList [['%', '2', '5'], ['4'], ['1']] :=
    .cons (.escaped (.cons (.inl rfl) (.inl rfl) .nil))
      (.cons (.plain (by decide)) (.cons (.plain (by decide)) .nil))
  have hbroken : Percent.HasBrokenEscape (Utf8.encode "%%41") :=
    Classical.not_not.1 (mt (Percent.complete_iff _).2 (by decide))
  refine ⟨hread, ?_, ?_, hparts, ?_, hbroken, by rfl, ?_⟩
  · obtain ⟨⟨hlenient, hhere⟩, -⟩ := unescape_strictly hread "a+%252b%C3%A9"
    exact hlenient.trans (hhere.symm.trans (by rfl))
  · exact ((unescape_strictly hread "%c3%a9").2.2.1 "%2b" (by decide) "+" _).2
      ⟨"é", " ", by rfl, by rfl, rfl⟩
  · have hraw : String.ofList [['%', '2', '5'], ['4'], ['1']].flatten = "%2541" := by decide
    rw [← hraw]
    exact (unescape_strictly hread "%41").2.2.2.1 _ hparts
  · exact ((unescape_strictly hread "%%41").2.2.2.2.2 hbroken "%FF").1

end Subtopic

end HookBridge
