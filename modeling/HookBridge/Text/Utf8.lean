/-
**Text and its bytes.**

A body arrives as bytes and leaves as bytes; what the bridge decides on is text.  This module fixes
the passage between the two.

Main definitions:

* `HookBridge.Bytes` — a finite sequence of bytes;
* `HookBridge.Utf8.encode` — the UTF-8 bytes of a text;
* `HookBridge.Utf8.decode?` — the text that a byte sequence spells, if it spells one.

Main results:

* `HookBridge.Utf8.decode?_eq_some_iff` — reading accepts exactly what writing produces.
-/

set_option relaxedAutoImplicit false
set_option autoImplicit false

namespace HookBridge

/-- A finite sequence of bytes. -/
abbrev Bytes := List UInt8

namespace Utf8

/-- The UTF-8 bytes of a text, character by character. -/
def encode (s : String) : Bytes := s.toList.flatMap String.utf8EncodeChar

/-- The text that `bs` spells in UTF-8; `none` if `bs` is no UTF-8. -/
def decode? (bs : Bytes) : Option String := String.fromUTF8? bs.toByteArray

theorem toByteArray_encode (s : String) : (encode s).toByteArray = s.toByteArray := by
  rw [← String.utf8Encode_toList]; rfl

theorem encode_append (s t : String) : encode (s ++ t) = encode s ++ encode t := by
  simp [encode]

/-- **Reading accepts exactly what writing produces.** -/
theorem decode?_eq_some_iff {bs : Bytes} {s : String} : decode? bs = some s ↔ bs = encode s := by
  unfold decode? String.fromUTF8?
  constructor
  · intro h
    split at h
    · next hv =>
      have hs : bs.toByteArray = (encode s).toByteArray := by
        rw [toByteArray_encode, ← Option.some.inj h]; rfl
      exact List.toByteArray_inj.1 hs
    · simp at h
  · rintro rfl
    have hv : (encode s).toByteArray.IsValidUTF8 := by
      rw [toByteArray_encode]; exact s.isValidUTF8
    rw [dif_pos hv]
    refine congrArg some (String.toByteArray_inj.1 ?_)
    exact toByteArray_encode s

@[simp] theorem decode?_encode (s : String) : decode? (encode s) = some s :=
  decode?_eq_some_iff.2 rfl

end Utf8

end HookBridge
