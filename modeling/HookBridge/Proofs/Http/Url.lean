/-
**Plain addresses lead where they say.**

An address may be spelt in many ways, and most of what its reading does is to see through them.  One
that is written plainly, though, is taken as it stands: the place that it names is the place to
connect to, and the path behind it is what is asked for.

Main definitions:

* `HookBridge.Http.Url.IsPlainSegment` — a segment of a path that means nothing but itself;
* `HookBridge.Http.Url.pathText` — segments as a path;
* `HookBridge.Http.Url.Names` — the text names a host and a port.

Main results:

* `HookBridge.Http.Url.names_of_hostOf?` — a host and a port are named by their texts;
* `HookBridge.Http.Url.pathOf_plain` — a plain path is asked for as it stands;
* `HookBridge.Http.Url.parse?_plain` — **a plain address is taken as it stands**.
-/

import HookBridge.Http.Url
import HookBridge.Proofs.Json.Record
import HookBridge.Proofs.Text.Lines
import Mathlib.Data.Bool.AllAny
import Mathlib.Data.List.Basic
import Mathlib.Data.List.TakeWhile

set_option relaxedAutoImplicit false
set_option autoImplicit false

namespace HookBridge

namespace Http

namespace Url

/-! ### Plain texts -/

/-- The segment is a text of printable characters of ASCII, none of which has a meaning in a path or
has to be escaped there, and it does not stand for a directory. -/
structure IsPlainSegment (segment : List Char) : Prop where
  nonempty : segment ≠ []
  printable : ∀ c ∈ segment, 0x20 < c.toNat ∧ c.toNat < 0x7F
  ordinary : ∀ c ∈ segment, isSlash c = false ∧ c ∉ pathSet
  noDots : isDot segment = false ∧ isDotDot segment = false

/-- Whether a segment is plain is computed character by character. -/
instance (segment : List Char) : Decidable (IsPlainSegment segment) :=
  decidable_of_iff
    (segment ≠ [] ∧ segment.all (fun c => 0x20 < c.toNat ∧ c.toNat < 0x7F) = true ∧
      segment.all (fun c => isSlash c = false ∧ c ∉ pathSet) = true ∧
      isDot segment = false ∧ isDotDot segment = false)
    ⟨fun ⟨hne, hprintable, hordinary, hdots⟩ => ⟨hne, List.all_iff_forall_prop.1 hprintable,
        List.all_iff_forall_prop.1 hordinary, hdots⟩,
      fun h => ⟨h.nonempty, List.all_iff_forall_prop.2 h.printable,
        List.all_iff_forall_prop.2 h.ordinary, h.noDots⟩⟩

/-- The segments as a path. -/
def pathText (segments : List (List Char)) : List Char := segments.flatMap ('/' :: ·)

/-- `Names place host port`: the text names the host and the port, the usual one if it gives
none, and there is nothing in it that would end it or be left out. -/
structure Names (place : List Char) (host : String) (port : Nat) : Prop where
  authority : authorityOf? 80 place = some (host, port)
  visible : ∀ c ∈ place, 0x20 < c.toNat
  unbroken : ∀ c ∈ place, isSlash c = false ∧ c ≠ '?' ∧ c ≠ '#'

theorem Names.ne_nil {place : List Char} {host : String} {port : Nat} (h : Names place host port) :
    place ≠ [] := by
  rintro rfl
  have hnone : authorityOf? 80 [] = none := by decide
  exact absurd (hnone.symm.trans h.authority) (by simp)

/-! ### Places -/

/-- A character for which `p` does not hold is not one to split at. -/
theorem splitLast_eq_none {p : Char → Bool} {cs : List Char} (h : ∀ c ∈ cs, p c = false) :
    splitLast p cs = none := by
  have hback : cs.reverse.dropWhile (!p ·) = [] :=
    List.dropWhile_eq_nil_iff.2 fun c hc => by simp [h c (List.mem_reverse.1 hc)]
  rw [splitLast, hback]

/-- A text is split at a character behind which there is no other one to split at. -/
theorem splitLast_append {p : Char → Bool} {front back : List Char} {c : Char}
    (hc : p c = true) (h : ∀ d ∈ back, p d = false) :
    splitLast p (front ++ c :: back) = some (front, c, back) := by
  have hback : ∀ d ∈ back.reverse, (!p d) = true := fun d hd => by
    simp [h d (List.mem_reverse.1 hd)]
  have hreverse : (front ++ c :: back).reverse = back.reverse ++ c :: front.reverse := by simp
  have hstop : ¬ (!p c) = true := by simp [hc]
  rw [splitLast, hreverse, List.dropWhile_append_of_pos hback, List.takeWhile_append_of_pos hback]
  simp [hc]

/-- A port is read from its digits. -/
theorem portOf?_digits (usual : Nat) {port : Nat} (hport : port < 65536) :
    portOf? usual (Nat.toDigits 10 port) = some port := by
  have hne : (Nat.toDigits 10 port).isEmpty = false := by simp [Nat.toDigits_ne_nil]
  have hdigits : (Nat.toDigits 10 port).all Char.isDigit = true :=
    List.all_eq_true.2 fun _ => Lines.isDigit_of_mem_toDigits
  have hvalue : (Nat.toDigits 10 port).foldl (fun n c => 10 * n + (c.toNat - 48)) 0 = port :=
    Nat.ofDigitChars_toDigits (by decide) (by decide)
  simp [portOf?, hne, hdigits, hvalue, hport]

/-- The characters that have a meaning where a host or a port stands. -/
def placeMarks : List Char := ['/', '\\', '?', '#', '@', ':', ']']

/-- The character can be seen, and has no such meaning. -/
structure IsPlain (c : Char) : Prop where
  visible : 0x20 < c.toNat
  ordinary : c ∉ placeMarks

instance (c : Char) : Decidable (IsPlain c) :=
  decidable_of_iff (0x20 < c.toNat ∧ c ∉ placeMarks)
    ⟨fun h => ⟨h.1, h.2⟩, fun h => ⟨h.visible, h.ordinary⟩⟩

theorem IsPlain.ne {c mark : Char} (h : IsPlain c) (hmark : mark ∈ placeMarks) : c ≠ mark := by
  rintro rfl
  exact h.ordinary hmark

theorem isPlain_of_isDigit {c : Char} (h : c.isDigit = true) : IsPlain c where
  visible := by
    have hlow := (Char.isDigit_iff_toNat.1 h).1
    have hzero : '0'.toNat = 48 := rfl
    omega
  ordinary := by
    intro hc
    have hall : ∀ mark ∈ placeMarks, mark.isDigit = false := by simp [placeMarks]
    exact absurd ((hall c hc).symm.trans h) (by simp)

/-- **A host and a port are named by their texts**, with a colon between them. -/
theorem names_of_hostOf? {host : List Char} {name : String} (hhost : hostOf? host = some name)
    (hplain : ∀ c ∈ host, IsPlain c) {port : Nat} (hport : port < 65536) :
    Names (host ++ ':' :: (toString port).toList) name port := by
  rw [Lines.toList_toString]
  have hdigit : ∀ c ∈ Nat.toDigits 10 port, IsPlain c := fun c hc =>
    isPlain_of_isDigit (Lines.isDigit_of_mem_toDigits hc)
  have hchar : ∀ c ∈ host ++ ':' :: Nat.toDigits 10 port, c = ':' ∨ IsPlain c := by
    intro c hc
    rcases List.mem_append.1 hc with hc | hc
    · exact Or.inr (hplain c hc)
    · exact (List.mem_cons.1 hc).imp_right (hdigit c)
  have huser : splitLast (· == '@') (host ++ ':' :: Nat.toDigits 10 port) = none := by
    refine splitLast_eq_none fun c hc => ?_
    rcases hchar c hc with rfl | hc
    · decide
    · exact beq_eq_false_iff_ne.2 (hc.ne (by decide))
  have hsplit : splitLast (fun c => c == ':' || c == ']') (host ++ ':' :: Nat.toDigits 10 port) =
      some (host, ':', Nat.toDigits 10 port) := by
    refine splitLast_append (by decide) fun c hc => ?_
    have hcolon : c ≠ ':' := (hdigit c hc).ne (by decide)
    have hbracket : c ≠ ']' := (hdigit c hc).ne (by decide)
    simp [hcolon, hbracket]
  refine ⟨?_, fun c hc => ?_, fun c hc => ?_⟩
  · simp only [authorityOf?, huser, hsplit, hhost, portOf?_digits 80 hport]
  · rcases hchar c hc with rfl | hc
    · decide
    · exact hc.visible
  · rcases hchar c hc with rfl | hc
    · decide
    · have hslash : c ≠ '/' := hc.ne (by decide)
      have hback : c ≠ '\\' := hc.ne (by decide)
      exact ⟨by simp [isSlash, hslash, hback], hc.ne (by decide), hc.ne (by decide)⟩

/-! ### Paths -/

/-- Segments without slashes are what a path is cut into. -/
theorem splitOnP_plain {segment : List Char} {segments : List (List Char)}
    (h : ∀ s ∈ segment :: segments, ∀ c ∈ s, isSlash c = false) :
    (segment ++ pathText segments).splitOnP isSlash = segment :: segments := by
  induction segments generalizing segment with
  | nil =>
      rw [pathText, List.flatMap_nil, List.append_nil]
      exact List.splitOnP_eq_singleton (h segment (List.mem_cons_self ..))
  | cons next segments ih =>
      obtain ⟨hsegment, hsegments⟩ := List.forall_mem_cons.1 h
      have hslash : isSlash '/' = true := by decide
      rw [pathText, List.flatMap_cons, List.cons_append,
        List.splitOnP_append_cons_of_forall_mem hsegment _ hslash]
      exact congrArg _ (ih hsegments)

/-- Segments none of which stands for a directory are left as they are. -/
theorem resolve_plain {segments : List (List Char)}
    (h : ∀ s ∈ segments, isDot s = false ∧ isDotDot s = false) (done : List (List Char)) :
    resolve done segments = done.reverse ++ segments := by
  induction segments generalizing done with
  | nil => rw [resolve, List.append_nil]
  | cons segment segments ih =>
      obtain ⟨⟨hdot, hdots⟩, hsegments⟩ := List.forall_mem_cons.1 h
      rw [resolve, hdot, hdots, if_neg Bool.false_ne_true, if_neg Bool.false_ne_true,
        ih hsegments, List.reverse_cons, List.append_assoc, List.singleton_append]

/-- Nothing in a plain segment is escaped. -/
theorem IsPlainSegment.escape {segment : List Char} (h : IsPlainSegment segment) :
    Url.escape pathSet segment = segment := by
  have hchar : ∀ c ∈ segment, (if c.toNat ≤ 0x1F || 0x7F ≤ c.toNat || pathSet.contains c
      then escapeChar c else [c]) = [c] := by
    intro c hc
    have hprintable := h.printable c hc
    have hordinary := (h.ordinary c hc).2
    refine if_neg ?_
    simp only [Bool.or_eq_true, decide_eq_true_eq, List.contains_iff_mem, not_or]
    exact ⟨⟨by omega, by omega⟩, hordinary⟩
  rw [Url.escape, List.flatMap_congr hchar, List.flatMap_singleton']

/-- **A plain path is asked for as it stands.** -/
theorem pathOf_plain {segments : List (List Char)} (hne : segments ≠ [])
    (h : ∀ s ∈ segments, IsPlainSegment s) : pathOf (pathText segments) = pathText segments := by
  obtain ⟨segment, rest, rfl⟩ := List.exists_cons_of_ne_nil hne
  have hslash : isSlash '/' = true := by decide
  have hsplit : (segment ++ pathText rest).splitOnP isSlash = segment :: rest :=
    splitOnP_plain fun s hs c hc => ((h s hs).ordinary c hc).1
  have hescape : (segment :: rest).map (Url.escape pathSet) = (segment :: rest).map id :=
    List.map_congr_left fun s hs => (h s hs).escape
  have hresolve : resolve [] (segment :: rest) = segment :: rest :=
    resolve_plain (fun s hs => (h s hs).noDots) []
  have hpath : pathText (segment :: rest) = '/' :: (segment ++ pathText rest) := rfl
  rw [hpath, pathOf]
  simp only [hslash, if_true, hsplit, hresolve, hescape]
  rw [Json.intercalate_map_cons]
  rfl

/-! ### Addresses -/

/-- A text without blanks is trimmed of nothing. -/
theorem trim_eq_self {cs : List Char} (h : ∀ c ∈ cs, 0x20 < c.toNat) :
    ((cs.dropWhile (fun c => c.toNat ≤ 0x20)).reverse.dropWhile
      (fun c => c.toNat ≤ 0x20)).reverse.filter
        (fun c => c != '\t' && c != '\n' && c != '\r') = cs := by
  have hdrop : ∀ l : List Char, (∀ c ∈ l, 0x20 < c.toNat) →
      l.dropWhile (fun c => c.toNat ≤ 0x20) = l := by
    intro l hl
    cases l with
    | nil => rfl
    | cons c l =>
        have hc := hl c (List.mem_cons_self ..)
        exact List.dropWhile_cons_of_neg (by simpa using hc)
  rw [hdrop cs h, hdrop _ fun c hc => h c (List.mem_reverse.1 hc), List.reverse_reverse,
    List.filter_eq_self]
  intro c hc
  have hvisible := h c hc
  have hblank : ∀ d : Char, d.toNat ≤ 0x20 → c ≠ d := by
    rintro d hd rfl
    omega
  simp [hblank '\t' (by decide), hblank '\n' (by decide), hblank '\r' (by decide)]

/-- The characters of a plain path. -/
theorem of_mem_pathText {segments : List (List Char)} (h : ∀ s ∈ segments, IsPlainSegment s)
    {c : Char} (hc : c ∈ pathText segments) : 0x20 < c.toNat ∧ c ≠ '?' ∧ c ≠ '#' := by
  obtain ⟨s, hs, hc⟩ := List.mem_flatMap.1 hc
  rcases List.mem_cons.1 hc with rfl | hc
  · decide
  · have hordinary := ((h s hs).ordinary c hc).2
    refine ⟨((h s hs).printable c hc).1, ?_, ?_⟩
    · rintro rfl
      exact hordinary (by decide)
    · rintro rfl
      exact hordinary (by decide)

theorem schemeOf?_http (rest : List Char) :
    schemeOf? ("http:".toList ++ rest) = some ("http", rest) := rfl

/-- **A plain address is taken as it stands**: the place that it names, and the path behind it. -/
theorem parse?_plain {place : List Char} {host : String} {port : Nat}
    (hplace : Names place host port) {segments : List (List Char)} (hne : segments ≠ [])
    (hsegments : ∀ s ∈ segments, IsPlainSegment s) :
    parse? (String.ofList ("http://".toList ++ (place ++ pathText segments))) =
      some ⟨false, host, port, String.ofList (pathText segments)⟩ := by
  have hvisible : ∀ c ∈ "http://".toList ++ (place ++ pathText segments), 0x20 < c.toNat := by
    intro c hc
    rcases List.mem_append.1 hc with hc | hc
    · have hscheme : ∀ c ∈ "http://".toList, 0x20 < c.toNat :=
        List.all_iff_forall_prop.1 (by decide)
      exact hscheme c hc
    · rcases List.mem_append.1 hc with hc | hc
      · exact hplace.visible c hc
      · exact (of_mem_pathText hsegments hc).1
  have hscheme : schemeOf? ("http://".toList ++ (place ++ pathText segments)) =
      some ("http", '/' :: '/' :: (place ++ pathText segments)) := schemeOf?_http _
  have hslashes : ('/' :: '/' :: (place ++ pathText segments)).dropWhile isSlash =
      place ++ pathText segments := by
    obtain ⟨c, place, rfl⟩ := List.exists_cons_of_ne_nil hplace.ne_nil
    have hc := (hplace.unbroken c (List.mem_cons_self ..)).1
    simp [show isSlash '/' = true by decide, hc]
  have hend : ∀ c ∈ place, (!(isSlash c || c == '?' || c == '#')) = true := by
    intro c hc
    obtain ⟨hslash, hquery, hfragment⟩ := hplace.unbroken c hc
    simp [hslash, hquery, hfragment]
  have hstop : (pathText segments).takeWhile (fun c => !(isSlash c || c == '?' || c == '#')) = [] ∧
      (pathText segments).dropWhile (fun c => !(isSlash c || c == '?' || c == '#')) =
        pathText segments := by
    obtain ⟨segment, rest, rfl⟩ := List.exists_cons_of_ne_nil hne
    exact ⟨rfl, rfl⟩
  have hfragment : (pathText segments).takeWhile (· != '#') = pathText segments :=
    List.takeWhile_eq_self_iff.2 fun c hc => by simp [(of_mem_pathText hsegments hc).2.2]
  have hquery : (pathText segments).takeWhile (· != '?') = pathText segments ∧
      (pathText segments).dropWhile (· != '?') = [] := by
    have hall : ∀ c ∈ pathText segments, (c != '?') = true := fun c hc => by
      simp [(of_mem_pathText hsegments hc).2.1]
    exact ⟨List.takeWhile_eq_self_iff.2 hall, List.dropWhile_eq_nil_iff.2 hall⟩
  rw [parse?]
  simp only [String.toList_ofList, trim_eq_self hvisible, hscheme, true_or, if_true, hslashes,
    List.takeWhile_append_of_pos hend, List.dropWhile_append_of_pos hend, hstop.1, hstop.2,
    List.append_nil, hfragment, hquery.1, hquery.2, pathOf_plain hne hsegments]
  simp [hplace.authority]

end Url

end Http

end HookBridge
