/-
**Values, and the texts that spell them.**

A value has its tokens, and a text of the value is any layout of these: with any blanks, any escapes
in its strings and any numerals.  The bridge reads a text as a value exactly if it is a text of this
value.  So a text spells one value at most, and nothing but blanks may follow it.

Main definitions:

* `HookBridge.Json.Value.tokens` — the tokens of a value;
* `HookBridge.Json.IsText` — the texts of a value;
* `HookBridge.Json.State.seen` — the tokens that have led to a state.

Main results:

* `HookBridge.Json.ofTokens?_eq_some_iff` — the tokens of a value are read as this value, and no
  other ones are;
* `HookBridge.Json.parse?_eq_some_iff` — **exactly the texts of a value are read as this value**;
* `HookBridge.Json.IsText.unique` — a text spells one value;
* `HookBridge.Json.IsText.blank_tail` — what may follow a text is blank;
* `HookBridge.Json.exists_isText` — every value has a text;
* `HookBridge.Json.isText_record_iff` — the text of a record is one of the object of its fields;
* `HookBridge.Json.record_append_inj` — and no other record begins with it.
-/

import HookBridge.Proofs.Json.Layout

set_option relaxedAutoImplicit false
set_option autoImplicit false

namespace HookBridge

namespace Json

/-! ### Values and their tokens -/

mutual

/-- The tokens of a value. -/
def Value.tokens : Value → List Token
  | .null => [.null]
  | .bool b => [.bool b]
  | .number => [.number]
  | .str text => [.str text]
  | .arr items =>
      .openBracket :: ([Token.comma].intercalate (Value.itemTokens items) ++ [.closeBracket])
  | .obj members =>
      .openBrace :: ([Token.comma].intercalate (Value.memberTokens members) ++ [.closeBrace])

/-- The tokens of each of several items. -/
def Value.itemTokens : List Value → List (List Token)
  | [] => []
  | v :: rest => v.tokens :: Value.itemTokens rest

/-- The tokens of each of several members. -/
def Value.memberTokens : List (Option String × Value) → List (List Token)
  | [] => []
  | m :: rest => Value.pairTokens m :: Value.memberTokens rest

/-- The tokens of a member. -/
def Value.pairTokens : Option String × Value → List Token
  | (key, v) => .str key :: .colon :: v.tokens

end

/-- `IsText bs v`: the bytes are a text of the value. -/
def IsText (bs : Bytes) (v : Value) : Prop := Layout v.tokens bs

/-- Values are built up from scalars, and from values in brackets. -/
theorem Value.induction {P : Value → Prop} (null : P .null) (bool : ∀ b, P (.bool b))
    (number : P .number) (str : ∀ text, P (.str text))
    (arr : ∀ items, (∀ v ∈ items, P v) → P (.arr items))
    (obj : ∀ members, (∀ m ∈ members, P m.2) → P (.obj members)) (v : Value) : P v :=
  @Value.rec P (fun items => ∀ v ∈ items, P v) (fun members => ∀ m ∈ members, P m.2)
    (fun m => P m.2) null bool number str arr obj (by simp)
    (fun _ _ hv hrest => List.forall_mem_cons.2 ⟨hv, hrest⟩) (by simp)
    (fun _ _ hm hrest => List.forall_mem_cons.2 ⟨hm, hrest⟩) (fun _ _ hv => hv) v

theorem Value.itemTokens_eq (items : List Value) :
    Value.itemTokens items = items.map Value.tokens := by
  induction items with
  | nil => rfl
  | cons v rest ih => rw [Value.itemTokens, ih, List.map_cons]

theorem Value.memberTokens_eq (members : List (Option String × Value)) :
    Value.memberTokens members = members.map Value.pairTokens := by
  induction members with
  | nil => rfl
  | cons m rest ih => rw [Value.memberTokens, ih, List.map_cons]

@[simp] theorem Value.tokens_arr (items : List Value) : (Value.arr items).tokens =
    .openBracket :: ([Token.comma].intercalate (items.map Value.tokens) ++ [.closeBracket]) := by
  rw [Value.tokens, Value.itemTokens_eq]

@[simp] theorem Value.tokens_obj (members : List (Option String × Value)) :
    (Value.obj members).tokens = .openBrace ::
      ([Token.comma].intercalate (members.map Value.pairTokens) ++ [.closeBrace]) := by
  rw [Value.tokens, Value.memberTokens_eq]

/-! ### Tokens of values are read -/

/-- The first token of a value closes nothing. -/
theorem run_firstItem (v : Value) (stack : List Frame) (ts : List Token) :
    State.run (.firstItem stack) (v.tokens ++ ts) =
      State.run (.value (.items [] :: stack)) (v.tokens ++ ts) := by
  cases v <;> rfl

/-- The items behind the first one, and the end of the array. -/
theorem run_items {items : List Value}
    (hitems : ∀ v ∈ items, ∀ stack ts,
      State.run (.value stack) (v.tokens ++ ts) = State.run (State.close v stack) ts)
    (stack : List Frame) (done : List Value) (ts : List Token) :
    State.run (.afterItem stack done)
        ((items.flatMap fun v => .comma :: v.tokens) ++ .closeBracket :: ts) =
      State.run (State.close (.arr (done.reverse ++ items)) stack) ts := by
  induction items generalizing done with
  | nil =>
      rw [List.append_nil]
      rfl
  | cons v items ih =>
      obtain ⟨hv, hitems⟩ := List.forall_mem_cons.1 hitems
      rw [List.flatMap_cons, List.cons_append, List.cons_append, run_cons, List.append_assoc]
      change State.run (.value (.items done :: stack)) _ = _
      rw [hv]
      change State.run (.afterItem stack (v :: done)) _ = _
      rw [ih hitems, List.reverse_cons, List.append_assoc, List.singleton_append]

/-- The members behind the first one, and the end of the object. -/
theorem run_members {members : List (Option String × Value)}
    (hmembers : ∀ m ∈ members, ∀ stack ts,
      State.run (.value stack) (m.2.tokens ++ ts) = State.run (State.close m.2 stack) ts)
    (stack : List Frame) (done : List (Option String × Value)) (ts : List Token) :
    State.run (.afterMember stack done)
        ((members.flatMap fun m => .comma :: Value.pairTokens m) ++ .closeBrace :: ts) =
      State.run (State.close (.obj (done.reverse ++ members)) stack) ts := by
  induction members generalizing done with
  | nil =>
      rw [List.append_nil]
      rfl
  | cons m members ih =>
      obtain ⟨key, v⟩ := m
      obtain ⟨hv, hmembers⟩ := List.forall_mem_cons.1 hmembers
      rw [List.flatMap_cons, List.cons_append, List.cons_append, run_cons, List.append_assoc]
      change State.run (.value (.members done key :: stack)) (v.tokens ++ _) = _
      rw [hv]
      change State.run (.afterMember stack ((key, v) :: done)) _ = _
      rw [ih hmembers, List.reverse_cons, List.append_assoc, List.singleton_append]

/-- **The tokens of a value are read as this value**, inside any brackets. -/
theorem run_tokens (v : Value) (stack : List Frame) (ts : List Token) :
    State.run (.value stack) (v.tokens ++ ts) = State.run (State.close v stack) ts := by
  induction v using Value.induction generalizing stack ts with
  | null => rfl
  | bool b => rfl
  | number => rfl
  | str text => rfl
  | arr items ih =>
      cases items with
      | nil => rfl
      | cons v items =>
          obtain ⟨hv, hitems⟩ := List.forall_mem_cons.1 ih
          rw [Value.tokens_arr, intercalate_map_cons, List.cons_append, run_cons,
            List.append_assoc, List.append_assoc, List.singleton_append]
          change State.run (.firstItem stack) _ = _
          rw [run_firstItem, hv]
          exact run_items hitems stack [v] ts
  | obj members ih =>
      cases members with
      | nil => rfl
      | cons m members =>
          obtain ⟨key, v⟩ := m
          obtain ⟨hv, hmembers⟩ := List.forall_mem_cons.1 ih
          rw [Value.tokens_obj, intercalate_map_cons, List.cons_append, run_cons,
            List.append_assoc, List.append_assoc, List.singleton_append]
          change State.run (.value (.members [] key :: stack)) (v.tokens ++ _) = _
          rw [hv]
          exact run_members hmembers stack [(key, v)] ts

/-! ### Only tokens of values are read -/

/-- What stands in an open bracket, each thing with the separator behind it. -/
def separated {α : Type} (f : α → List Token) (done : List α) : List Token :=
  done.reverse.flatMap fun x => f x ++ [.comma]

/-- The tokens of an open bracket up to the value that is due. -/
def Frame.seen : Frame → List Token
  | .items done => .openBracket :: separated Value.tokens done
  | .members done key => .openBrace :: (separated Value.pairTokens done ++ [.str key, .colon])

/-- The tokens of all open brackets, of which the innermost one comes first. -/
def Frame.seenAll (stack : List Frame) : List Token := stack.reverse.flatMap Frame.seen

/-- The tokens that have led to a state. -/
def State.seen : State → List Token
  | .value stack => Frame.seenAll stack
  | .firstItem stack => Frame.seenAll stack ++ [.openBracket]
  | .firstKey stack => Frame.seenAll stack ++ [.openBrace]
  | .key stack done => Frame.seenAll stack ++ .openBrace :: separated Value.pairTokens done
  | .colon stack done k =>
      Frame.seenAll stack ++ .openBrace :: (separated Value.pairTokens done ++ [.str k])
  | .afterItem stack done => Frame.seenAll stack ++
      .openBracket :: [Token.comma].intercalate (done.reverse.map Value.tokens)
  | .afterMember stack done => Frame.seenAll stack ++
      .openBrace :: [Token.comma].intercalate (done.reverse.map Value.pairTokens)
  | .complete v => v.tokens

/-- A separator is due only where something stands in front of it. -/
def State.IsSound : State → Prop
  | .afterItem _ done => done ≠ []
  | .afterMember _ done => done ≠ []
  | _ => True

theorem Frame.seenAll_cons (frame : Frame) (stack : List Frame) :
    Frame.seenAll (frame :: stack) = Frame.seenAll stack ++ frame.seen := by
  simp [Frame.seenAll]

/-- One thing more, behind those with separators. -/
theorem intercalate_map_reverse_cons {α : Type} (f : α → List Token) (x : α) (done : List α) :
    [Token.comma].intercalate ((x :: done).reverse.map f) = separated f done ++ f x := by
  rw [List.reverse_cons, separated]
  generalize done.reverse = things
  induction things with
  | nil => simp [List.intercalate]
  | cons y things ih =>
      rw [List.flatMap_cons, List.append_assoc, ← ih, List.cons_append, intercalate_map_cons]
      cases things with
      | nil => simp [List.intercalate]
      | cons z things =>
          rw [List.cons_append, intercalate_map_cons, List.flatMap_cons]
          simp

/-- And a separator behind it. -/
theorem separated_cons {α : Type} (f : α → List Token) (x : α) (done : List α) :
    separated f (x :: done) = separated f done ++ (f x ++ [.comma]) := by
  simp [separated]

/-- A value that has been read is the last of what has been seen. -/
theorem seen_close (v : Value) (stack : List Frame) :
    (State.close v stack).seen = Frame.seenAll stack ++ v.tokens ∧
      (State.close v stack).IsSound := by
  cases stack with
  | nil => exact ⟨rfl, trivial⟩
  | cons frame stack =>
      cases frame with
      | items done =>
          refine ⟨?_, List.cons_ne_nil _ _⟩
          rw [State.close, State.seen, intercalate_map_reverse_cons, Frame.seenAll_cons, Frame.seen,
            List.append_assoc, List.cons_append]
      | members done key =>
          refine ⟨?_, List.cons_ne_nil _ _⟩
          rw [State.close, State.seen, intercalate_map_reverse_cons, Frame.seenAll_cons, Frame.seen,
            List.append_assoc, List.cons_append, List.append_assoc]
          rfl

/-- The first token of a value. -/
theorem seen_begin {stack : List Frame} {t : Token} {s : State}
    (h : State.begin? stack t = some s) :
    s.seen = Frame.seenAll stack ++ [t] ∧ s.IsSound := by
  cases t <;> simp only [State.begin?, Option.some.injEq, reduceCtorEq] at h <;> subst h
  · exact ⟨rfl, trivial⟩
  · exact ⟨rfl, trivial⟩
  · exact seen_close .null stack
  · exact seen_close (.bool _) stack
  · exact seen_close .number stack
  · exact seen_close (.str _) stack

/-- **A step sees one token more.** -/
theorem seen_step {s s' : State} {t : Token} (hs : s.IsSound) (h : State.step s t = some s') :
    s'.seen = s.seen ++ [t] ∧ s'.IsSound := by
  cases s with
  | value stack => exact seen_begin h
  | firstItem stack =>
      by_cases ht : t = .closeBracket
      · subst ht
        obtain rfl := Option.some.inj h
        obtain ⟨hclose, hsound⟩ := seen_close (.arr []) stack
        exact ⟨hclose.trans (by simp [State.seen, List.intercalate]), hsound⟩
      · have hbegin : State.begin? (.items [] :: stack) t = some s' := by
          rw [← h]
          cases t <;> first | rfl | exact absurd rfl ht
        obtain ⟨hseen, hsound⟩ := seen_begin hbegin
        refine ⟨hseen.trans ?_, hsound⟩
        rw [Frame.seenAll_cons]
        rfl
  | firstKey stack =>
      cases t with
      | closeBrace =>
          obtain rfl := Option.some.inj h
          obtain ⟨hclose, hsound⟩ := seen_close (.obj []) stack
          exact ⟨hclose.trans (by simp [State.seen, List.intercalate]), hsound⟩
      | str k =>
          obtain rfl := Option.some.inj h
          exact ⟨by simp [State.seen, separated], trivial⟩
      | _ => exact absurd h (by simp [State.step])
  | key stack done =>
      cases t with
      | str k =>
          obtain rfl := Option.some.inj h
          exact ⟨by simp [State.seen], trivial⟩
      | _ => exact absurd h (by simp [State.step])
  | colon stack done k =>
      cases t with
      | colon =>
          obtain rfl := Option.some.inj h
          exact ⟨by simp [State.seen, Frame.seenAll_cons, Frame.seen], trivial⟩
      | _ => exact absurd h (by simp [State.step])
  | afterItem stack done =>
      obtain ⟨v, done, rfl⟩ := List.exists_cons_of_ne_nil hs
      cases t with
      | closeBracket =>
          obtain rfl := Option.some.inj h
          obtain ⟨hclose, hsound⟩ := seen_close (.arr (v :: done).reverse) stack
          refine ⟨hclose.trans ?_, hsound⟩
          rw [State.seen, Value.tokens_arr, List.append_assoc, List.cons_append]
      | comma =>
          obtain rfl := Option.some.inj h
          refine ⟨?_, trivial⟩
          rw [State.seen, State.seen, Frame.seenAll_cons, Frame.seen, intercalate_map_reverse_cons,
            separated_cons]
          simp
      | _ => exact absurd h (by simp [State.step])
  | afterMember stack done =>
      obtain ⟨m, done, rfl⟩ := List.exists_cons_of_ne_nil hs
      cases t with
      | closeBrace =>
          obtain rfl := Option.some.inj h
          obtain ⟨hclose, hsound⟩ := seen_close (.obj (m :: done).reverse) stack
          refine ⟨hclose.trans ?_, hsound⟩
          rw [State.seen, Value.tokens_obj, List.append_assoc, List.cons_append]
      | comma =>
          obtain rfl := Option.some.inj h
          refine ⟨?_, trivial⟩
          rw [State.seen, State.seen, intercalate_map_reverse_cons, separated_cons]
          simp
      | _ => exact absurd h (by simp [State.step])
  | complete v => exact absurd h (by simp [State.step])

/-- A run sees the tokens that it has read. -/
theorem seen_run {s s' : State} {ts : List Token} (hs : s.IsSound)
    (h : State.run s ts = some s') : s'.seen = s.seen ++ ts := by
  induction ts generalizing s with
  | nil =>
      obtain rfl := Option.some.inj h
      rw [List.append_nil]
  | cons t ts ih =>
      obtain ⟨s₁, hstep, hrun⟩ := Option.bind_eq_some_iff.1 h
      obtain ⟨hseen, hsound⟩ := seen_step hs hstep
      rw [ih hsound hrun, hseen, List.append_assoc, List.singleton_append]

/-- **The tokens of a value are read as this value, and no other ones are.** -/
theorem ofTokens?_eq_some_iff {ts : List Token} {v : Value} :
    ofTokens? ts = some v ↔ ts = v.tokens := by
  constructor
  · intro h
    rw [ofTokens?] at h
    split at h
    · next w hrun =>
      obtain rfl := Option.some.inj h
      exact (seen_run (s := .value []) trivial hrun).symm
    · exact absurd h (by simp)
  · rintro rfl
    have hrun := run_tokens v [] []
    rw [List.append_nil] at hrun
    rw [ofTokens?, hrun]
    rfl

/-! ### Texts of values -/

theorem Apart.cons {t : Token} {ts : List Token} (ht : t ≠ .number) (h : Apart ts) :
    Apart (t :: ts) := List.isChain_cons.2 ⟨fun _ _ hnumber => absurd hnumber ht, h⟩

theorem isMark_comma : Token.comma.IsMark := ⟨0x2C, by decide⟩

/-- Things between separators stand apart if each of them does. -/
theorem apart_intercalate {α : Type} {f : α → List Token} {things : List α}
    (hthings : ∀ x ∈ things, ∀ ts, Apart ts → (∀ t ∈ ts.head?, t.IsMark) → Apart (f x ++ ts))
    {t : Token} {ts : List Token} (ht : t.IsMark) (h : Apart (t :: ts)) :
    Apart ([Token.comma].intercalate (things.map f) ++ t :: ts) := by
  -- what follows a thing is a separator, or what follows all of them
  have hrest : ∀ things : List α,
      (∀ x ∈ things, ∀ ts, Apart ts → (∀ t ∈ ts.head?, t.IsMark) → Apart (f x ++ ts)) →
      Apart ((things.flatMap fun x => .comma :: f x) ++ t :: ts) ∧
        ∀ t' ∈ ((things.flatMap fun x => Token.comma :: f x) ++ t :: ts).head?, t'.IsMark := by
    intro things hthings
    induction things with
    | nil =>
        refine ⟨h, fun t' ht' => ?_⟩
        obtain rfl := Option.some.inj ht'
        exact ht
    | cons x things ih =>
        obtain ⟨hx, hthings⟩ := List.forall_mem_cons.1 hthings
        obtain ⟨hapart, hhead⟩ := ih hthings
        rw [List.flatMap_cons, List.cons_append, List.cons_append, List.append_assoc]
        refine ⟨Apart.cons (by simp) (hx _ hapart hhead), fun t' ht' => ?_⟩
        obtain rfl := Option.some.inj ht'
        exact isMark_comma
  cases things with
  | nil => exact h
  | cons x things =>
      obtain ⟨hx, hthings⟩ := List.forall_mem_cons.1 hthings
      obtain ⟨hapart, hhead⟩ := hrest things hthings
      rw [intercalate_map_cons, List.append_assoc]
      exact hx _ hapart hhead

/-- The tokens of a value stand apart, also in front of a bracket or a separator. -/
theorem apart_tokens (v : Value) {ts : List Token} (hts : Apart ts)
    (hmark : ∀ t ∈ ts.head?, t.IsMark) : Apart (v.tokens ++ ts) := by
  induction v using Value.induction generalizing ts with
  | null => exact hts.cons (by simp)
  | bool b => exact hts.cons (by simp)
  | number => exact List.isChain_cons.2 ⟨fun t ht _ => hmark t ht, hts⟩
  | str text => exact hts.cons (by simp)
  | arr items ih =>
      rw [Value.tokens_arr, List.cons_append, List.append_assoc, List.singleton_append]
      refine Apart.cons (by simp) (apart_intercalate (fun v hv ts => ih v hv) ?_ ?_)
      · exact ⟨0x5D, by decide⟩
      · exact hts.cons (by simp)
  | obj members ih =>
      rw [Value.tokens_obj, List.cons_append, List.append_assoc, List.singleton_append]
      refine Apart.cons (by simp) (apart_intercalate (fun m hm ts hts hmark => ?_) ?_ ?_)
      · obtain ⟨key, v⟩ := m
        change Apart (.str key :: .colon :: (v.tokens ++ ts))
        exact Apart.cons (by simp) (Apart.cons (by simp) (ih _ hm hts hmark))
      · exact ⟨0x7D, by decide⟩
      · exact hts.cons (by simp)

theorem Value.apart (v : Value) : Apart v.tokens := by
  have h : Apart (v.tokens ++ []) := apart_tokens v List.isChain_nil (by simp)
  rwa [List.append_nil] at h

/-- **Exactly the texts of a value are read as this value.** -/
theorem parse?_eq_some_iff {bs : Bytes} {v : Value} : parse? bs = some v ↔ IsText bs v := by
  rw [IsText, ← lex?_eq_some_iff v.apart, parse?]
  cases hlex : lex? bs with
  | none => simp
  | some ts => simp [ofTokens?_eq_some_iff]

/-- A text spells one value. -/
theorem IsText.unique {bs : Bytes} {v v' : Value} (h : IsText bs v) (h' : IsText bs v') :
    v = v' := Option.some.inj ((parse?_eq_some_iff.2 h).symm.trans (parse?_eq_some_iff.2 h'))

/-- A record is the object of its fields, and no other value. -/
theorem isText_record_iff {entries : List (String × String)} {v : Value} :
    IsText (Utf8.encode (record entries)) v ↔ v = .obj (members entries) := by
  rw [← parse?_eq_some_iff, parse?_record, Option.some.injEq, eq_comm]

/-! ### What follows a text -/

/-- Only a number ends with one. -/
theorem Value.eq_number_of_getLast? {v : Value} (h : v.tokens.getLast? = some .number) :
    v = .number := by
  cases v with
  | number => rfl
  | arr items =>
      rw [Value.tokens_arr, ← List.cons_append, List.getLast?_append] at h
      exact absurd h (by simp)
  | obj members =>
      rw [Value.tokens_obj, ← List.cons_append, List.getLast?_append] at h
      exact absurd h (by simp)
  | _ => exact absurd h (by simp [Value.tokens])

/-- **Nothing but blanks may follow a text**, unless it is a number, which may go on. -/
theorem IsText.blank_tail {bs tail : Bytes} {v v' : Value} (h : IsText bs v)
    (hnumber : v ≠ .number) (h' : IsText (bs ++ tail) v') : ∀ b ∈ tail, isBlank b = true := by
  have hend : v.tokens.getLast? = some .number → tail = [] :=
    fun hlast => absurd (Value.eq_number_of_getLast? hlast) hnumber
  have hread := Layout.lexOnto? h v.apart hend []
  have hread' : Json.lexOnto? [] (bs ++ tail) = some v'.tokens := (lex?_eq_some_iff v'.apart).2 h'
  obtain ⟨ts, hts, heq⟩ := layout_of_lexOnto? (hread.symm.trans hread')
  rw [List.append_nil, List.reverse_reverse] at heq
  -- once the value is complete, no token is in place any more
  cases ts with
  | nil =>
      cases hts with
      | nil hblanks => exact hblanks
  | cons t ts =>
      have hrun := ofTokens?_eq_some_iff.2 heq.symm
      rw [ofTokens?, run_tokens] at hrun
      exact absurd hrun (by simp [run_cons, State.close, State.step])

/-- The first token is spelt behind the blanks in front. -/
theorem Layout.dropWhile_isBlank {t : Token} {ts : List Token} {bs : Bytes}
    (h : Layout (t :: ts) bs) :
    ∃ b more rest, t.Spelt (b :: more) ∧ bs.dropWhile isBlank = b :: (more ++ rest) := by
  cases h with
  | @cons blanks spelling rest _ _ hblanks ht hrest =>
      obtain ⟨b, more, rfl, hb, -⟩ := @Token.Spelt.read? _ _ [] ht (by simp)
      refine ⟨b, more, rest, ht, ?_⟩
      rw [List.dropWhile_append_of_pos hblanks, List.cons_append,
        List.dropWhile_cons_of_neg (by simp [hb])]

/-- What begins as a number is one. -/
theorem Token.Spelt.eq_number {t : Token} {b : UInt8} {more : Bytes} (h : t.Spelt (b :: more))
    (hb : isDigit b = true ∨ b = 0x2D) : t = .number := by
  obtain ⟨-, hmark, hquote, hnull, htrue, hfalse⟩ := Token.of_numeral_head hb
  generalize hbs : b :: more = bs at h
  cases h with
  | mark h =>
      obtain ⟨rfl, -⟩ := List.cons.inj hbs
      exact absurd (hmark.symm.trans (Token.ofByte?_eq_some_iff.2 h)) (by simp)
  | null => exact absurd (List.cons.inj hbs).1 hnull
  | boolTrue => exact absurd (List.cons.inj hbs).1 htrue
  | boolFalse => exact absurd (List.cons.inj hbs).1 hfalse
  | number => rfl
  | str => exact absurd (List.cons.inj hbs).1 hquote

/-- Whatever follows a number, it stays a number, if it is a value at all. -/
theorem IsText.number_append {bs tail : Bytes} {v : Value} (h : IsText bs .number)
    (h' : IsText (bs ++ tail) v) : v = .number := by
  obtain ⟨b, more, rest, hspelt, hdrop⟩ := Layout.dropWhile_isBlank h
  have hb : isDigit b = true ∨ b = 0x2D := by
    cases hspelt with
    | mark hmark => exact absurd hmark (by simp [marks])
    | number hnumeral =>
        obtain ⟨b', more', heq, hb⟩ := hnumeral.exists_head
        obtain ⟨rfl, -⟩ := List.cons.inj heq
        exact hb
  have hfirst : ∀ t ts, v.tokens = t :: ts → t = .number := by
    intro t ts htokens
    rw [IsText, htokens] at h'
    obtain ⟨b', more', rest', hspelt', hdrop'⟩ := Layout.dropWhile_isBlank h'
    rw [List.dropWhile_append, hdrop] at hdrop'
    obtain ⟨rfl, -⟩ := List.cons.inj hdrop'
    exact hspelt'.eq_number hb
  cases v with
  | number => rfl
  | arr items => exact absurd (hfirst _ _ (Value.tokens_arr items)) (by simp)
  | obj members => exact absurd (hfirst _ _ (Value.tokens_obj members)) (by simp)
  | _ => exact absurd (hfirst _ [] rfl) (by simp)

/-! ### Records -/

/-- **Nothing in a text ends its literal**: where the literal ends can be told whatever follows, and
so can the text. -/
theorem quote_append_inj {s s' : String} {rest rest' : List Char} :
    quote s ++ rest = quote s' ++ rest' ↔ s = s' ∧ rest = rest' := by
  refine ⟨fun h => ?_, by rintro ⟨rfl, rfl⟩; rfl⟩
  have hbytes := congrArg (fun text => (text.drop 1).flatMap String.utf8EncodeChar) h
  simp only [quote, List.cons_append, List.drop_succ_cons, List.drop_zero, List.flatMap_append,
    List.append_assoc] at hbytes
  obtain ⟨pieces, hread, htext⟩ := readLiteral_quote s (rest.flatMap String.utf8EncodeChar)
  obtain ⟨pieces', hread', htext'⟩ := readLiteral_quote s' (rest'.flatMap String.utf8EncodeChar)
  obtain ⟨rfl, -⟩ := Prod.mk.inj (Option.some.inj (hread.symm.trans (hbytes ▸ hread')))
  obtain rfl := Option.some.inj (htext.symm.trans htext')
  exact ⟨rfl, List.append_cancel_left h⟩

/-- A record is none that goes on. -/
theorem eq_nil_of_record_append {entries entries' : List (String × String)} {more : List Char}
    (h : (record entries').toList = (record entries).toList ++ more) : more = [] := by
  have htext : IsText (Utf8.encode (record entries)) (.obj (members entries)) :=
    isText_record_iff.2 rfl
  have htext' : IsText (Utf8.encode (record entries) ++ more.flatMap String.utf8EncodeChar)
      (.obj (members entries')) := by
    have hbytes : Utf8.encode (record entries') =
        Utf8.encode (record entries) ++ more.flatMap String.utf8EncodeChar := by
      rw [Utf8.encode, h, List.flatMap_append]
      rfl
    exact hbytes ▸ isText_record_iff.2 rfl
  have hblank := htext.blank_tail (by simp) htext'
  -- what goes on would end with a brace, which is no blank
  rcases List.eq_nil_or_concat more with rfl | ⟨front, c, rfl⟩
  · rfl
  · rw [record, String.toList_ofList, List.concat_eq_append, ← List.append_assoc] at h
    obtain ⟨-, hc⟩ := List.append_inj' h rfl
    obtain rfl := (List.singleton_inj.1 hc).symm
    have hbrace : (0x7D : UInt8) ∈ String.utf8EncodeChar '\x7d' := by decide
    exact absurd (hblank 0x7D (List.mem_flatMap.2 ⟨_, by simp, hbrace⟩)) (by decide)

/-- **Nothing in a record reaches beyond its end**, so where one ends can be told whatever follows,
and so can its fields. -/
theorem record_append_inj {entries entries' : List (String × String)} {rest rest' : String} :
    record entries ++ rest = record entries' ++ rest' ↔ entries = entries' ∧ rest = rest' := by
  refine ⟨fun h => ?_, by rintro ⟨rfl, rfl⟩; rfl⟩
  have hlists := congrArg String.toList h
  rw [String.toList_append, String.toList_append] at hlists
  have hrecord : record entries = record entries' := by
    refine String.toList_inj.1 ?_
    rcases List.append_eq_append_iff.1 hlists with ⟨more, hmore, -⟩ | ⟨more, hmore, -⟩
    · rw [hmore, eq_nil_of_record_append hmore, List.append_nil]
    · rw [hmore, eq_nil_of_record_append hmore, List.append_nil]
  rw [hrecord] at hlists
  refine ⟨?_, String.toList_inj.1 (List.append_cancel_left hlists)⟩
  have hvalue : IsText (Utf8.encode (record entries)) (.obj (members entries')) :=
    hrecord ▸ isText_record_iff.2 rfl
  have hmembers : members entries = members entries' :=
    (Value.obj.inj (isText_record_iff.1 hvalue)).symm
  refine List.map_injective_iff.2 (fun entry entry' heq => ?_) hmembers
  simpa [Prod.ext_iff] using heq

/-! ### Every value has a text -/

/-- The text of a literal is spelt by what the bridge itself writes. -/
theorem spells_quote (s : String) : Spells ((s.toList.flatMap escape).flatMap String.utf8EncodeChar)
    (some s) := by
  obtain ⟨pieces, hread, htext⟩ := readLiteral_quote s []
  obtain ⟨content, hcontent, heq⟩ := readLiteral_eq_some_iff.1 hread
  obtain rfl := List.append_cancel_right heq
  exact spells_iff.2 ⟨pieces, hcontent, htext⟩

theorem Token.exists_spelt (t : Token) : ∃ bs, t.Spelt bs := by
  cases t with
  | null => exact ⟨_, .null⟩
  | bool b =>
      cases b with
      | true => exact ⟨_, .boolTrue⟩
      | false => exact ⟨_, .boolFalse⟩
  | number => exact ⟨[0x30], .number ((isNumber_iff _).1 (by decide))⟩
  | str text =>
      cases text with
      | some s => exact ⟨_, .str (spells_quote s)⟩
      | none =>
          -- half a surrogate pair
          have hhalf : unit? 0x64 0x38 0x30 0x30 = some 0xD800 := by decide
          exact ⟨_, .str (spells_iff.2
            ⟨_, .long (unit?_eq_some_iff.1 hhalf) .nil, by decide⟩)⟩
  | openBrace => exact ⟨_, .mark (b := 0x7B) (by decide)⟩
  | closeBrace => exact ⟨_, .mark (b := 0x7D) (by decide)⟩
  | openBracket => exact ⟨_, .mark (b := 0x5B) (by decide)⟩
  | closeBracket => exact ⟨_, .mark (b := 0x5D) (by decide)⟩
  | colon => exact ⟨_, .mark (b := 0x3A) (by decide)⟩
  | comma => exact ⟨_, .mark (b := 0x2C) (by decide)⟩

theorem exists_layout (ts : List Token) : ∃ bs, Layout ts bs := by
  induction ts with
  | nil => exact ⟨[], .nil (by simp)⟩
  | cons t ts ih =>
      obtain ⟨rest, hrest⟩ := ih
      obtain ⟨bs, hbs⟩ := t.exists_spelt
      exact ⟨[] ++ (bs ++ rest), .cons (by simp) hbs hrest⟩

/-- **Every value has a text.** -/
theorem exists_isText (v : Value) : ∃ bs, IsText bs v := exists_layout v.tokens

end Json

end HookBridge
