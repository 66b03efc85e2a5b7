/-
**What the answers of peers mean.**

A things service lets someone in by an answer of success that names a thing, and turns someone away
by one particular status; whatever else it does, and be it nothing, says neither.  A message bus
takes a message by an answer of success, whatever stands in it.  This module says so of the answers
themselves, and shows that the bridge takes them for exactly this.

Main definitions:

* `HookBridge.Things.Names` — a value is the record of a thing;
* `HookBridge.Http.PeerAnswer.Grants`, `HookBridge.Http.PeerAnswer.Denies`,
  `HookBridge.Http.PeerAnswer.Takes` — what an answer means;
* `HookBridge.Things.replyOf`, `HookBridge.BusClient.refusalOf` — what the bridge takes it for.

Main results:

* `HookBridge.Things.readThing?_eq_some_iff` — which bodies name a thing;
* `HookBridge.Things.ofStatus_eq_permissionDenied_iff` — the one status that turns someone away;
* `HookBridge.Things.replyOf_eq_ok_iff`, `HookBridge.Things.isDenial_replyOf_iff` — **the answers of
  a things service are taken for what they mean**;
* `HookBridge.BusClient.refusalOf_eq_none_iff` — and so are those of a bus.
-/

import HookBridge.Publisher
import HookBridge.Things.Client

set_option relaxedAutoImplicit false
set_option autoImplicit false

namespace HookBridge

/-! ### Records of things -/

namespace Things

/-- `Names value thing`: the value is the record of the thing. -/
inductive Names : Json.Value → String → Prop
  /-- an object with exactly one member `value`, which is a text; other members do not count -/
  | object {before after : List (Option String × Json.Value)} {thing : String}
      (hothers : ∀ m ∈ before ++ after, ∃ key, m.1 = some key ∧ key ≠ "value") :
      Names (.obj (before ++ (some "value", .str (some thing)) :: after)) thing
  /-- an array with one item, which is a text -/
  | array {thing : String} : Names (.arr [.str (some thing)]) thing

theorem textOf?_eq_some_iff {values : List Json.Value} {text : String} :
    Json.textOf? values = some (some text) ↔ values = [.str (some text)] := by
  rw [Json.textOf?.eq_def]
  split <;> simp_all

/-- Of the members of an object only the one of this name is left. -/
theorem valuesOf_eq_singleton_iff {name : String} {members : List (Option String × Json.Value)}
    {value : Json.Value} :
    Json.valuesOf name members = [value] ↔
      ∃ before after, members = before ++ (some name, value) :: after ∧
        ∀ m ∈ before ++ after, m.1 ≠ some name := by
  rw [Json.valuesOf, List.map_eq_singleton_iff]
  constructor
  · rintro ⟨⟨key, value'⟩, hfilter, rfl⟩
    obtain ⟨before, after, rfl, hbefore, hkey, hafter⟩ := List.filter_eq_cons_iff.1 hfilter
    obtain rfl : key = some name := by simpa using hkey
    refine ⟨before, after, rfl, ?_⟩
    intro m hm
    rcases List.mem_append.1 hm with hm | hm
    · simpa using hbefore m hm
    · simpa using List.filter_eq_nil_iff.1 hafter m hm
  · rintro ⟨before, after, rfl, hothers⟩
    refine ⟨(some name, value), ?_, rfl⟩
    refine List.filter_eq_cons_iff.2 ⟨before, after, rfl, ?_, by simp, ?_⟩
    · intro m hm
      simpa using hothers m (List.mem_append_left _ hm)
    · refine List.filter_eq_nil_iff.2 fun m hm => ?_
      simpa using hothers m (List.mem_append_right _ hm)

/-- The one field of the record of a thing. -/
theorem texts?_eq_some_iff {value : Json.Value} {thing : String} :
    Json.texts? ["value"] value = some [some thing] ↔ Names value thing := by
  cases value with
  | obj members =>
      have hread : Json.texts? ["value"] (.obj members) = some [some thing] ↔
          (members.all (·.1.isSome) = true) ∧
            Json.valuesOf "value" members = [.str (some thing)] := by
        rw [Json.texts?, ← textOf?_eq_some_iff]
        by_cases hall : members.all (·.1.isSome) = true
        · rw [if_pos hall]
          simp only [hall, true_and, List.mapM_cons, List.mapM_nil]
          cases Json.textOf? (Json.valuesOf "value" members) <;> simp
        · rw [if_neg hall]
          simp [hall]
      rw [hread, valuesOf_eq_singleton_iff]
      constructor
      · rintro ⟨hall, before, after, rfl, hothers⟩
        refine Names.object fun m hm => ?_
        have hmem : m ∈ before ++ (some "value", Json.Value.str (some thing)) :: after := by
          rcases List.mem_append.1 hm with hm | hm
          · exact List.mem_append_left _ hm
          · exact List.mem_append_right _ (List.mem_cons_of_mem _ hm)
        obtain ⟨key, hkey⟩ := Option.isSome_iff_exists.1 (List.all_eq_true.1 hall m hmem)
        refine ⟨key, hkey, ?_⟩
        rintro rfl
        exact hothers m hm hkey
      · intro h
        cases h with
        | @object before after _ hothers =>
            refine ⟨?_, before, after, rfl, ?_⟩
            · refine List.all_eq_true.2 fun m hm => ?_
              rcases List.mem_append.1 hm with hm | hm
              · obtain ⟨key, hkey, -⟩ := hothers m (List.mem_append_left _ hm)
                simp [hkey]
              · rcases List.mem_cons.1 hm with rfl | hm
                · rfl
                · obtain ⟨key, hkey, -⟩ := hothers m (List.mem_append_right _ hm)
                  simp [hkey]
            · intro m hm heq
              obtain ⟨key, hkey, hne⟩ := hothers m hm
              rw [hkey] at heq
              exact hne (Option.some.inj heq)
  | arr items =>
      constructor
      · intro h
        match items with
        | [] => simp [Json.texts?, Json.textOf?] at h
        | [item] =>
            have hitem : Json.textOf? [item] = some (some thing) := by
              cases ht : Json.textOf? [item] <;> simp_all [Json.texts?]
            obtain rfl := List.singleton_inj.1 (textOf?_eq_some_iff.1 hitem)
            exact Names.array
        | item :: item' :: rest => simp [Json.texts?] at h
      · intro h
        cases h
        rfl
  | _ =>
      constructor
      · intro h
        exact absurd h (by simp [Json.texts?])
      · intro h
        cases h

/-- **Which bodies name a thing**: texts of JSON that are the record of it. -/
theorem readThing?_eq_some_iff {body : Bytes} {thing : String} :
    readThing? body = some thing ↔
      ∃ value, Json.parse? body = some value ∧ Names value thing := by
  rw [readThing?]
  cases Json.parse? body with
  | none => simp
  | some value =>
      simp only [Option.some.injEq, exists_eq_left', ← texts?_eq_some_iff]
      split
      · next heq => rw [heq]; simp
      · next hne =>
          simp only [reduceCtorEq, false_iff]
          exact hne thing

end Things

/-! ### Answers -/

namespace Http.PeerAnswer

/-- A things service lets someone in: an answer of success that names the thing. -/
def Grants (a : PeerAnswer) (thing : String) : Prop :=
  ∃ status body value, a = .response status body ∧ 200 ≤ status ∧ status < 300 ∧
    Json.parse? body = some value ∧ Things.Names value thing

/-- A things service turns someone away: an answer with status 403. -/
def Denies (a : PeerAnswer) : Prop := ∃ body, a = .response 403 body

/-- A bus takes a message: an answer of success. -/
def Takes (a : PeerAnswer) : Prop :=
  ∃ status body, a = .response status body ∧ 200 ≤ status ∧ status < 300

end Http.PeerAnswer

theorem Http.isSuccess_iff (status : Nat) :
    isSuccess status = true ↔ 200 ≤ status ∧ status < 300 := by
  simp [isSuccess]

theorem Http.isFinal_of_isSuccess {status : Nat} (h : isSuccess status = true) :
    isFinal status = true := by
  rw [isSuccess_iff] at h
  have hlt : status < 1000 := by omega
  simp [isFinal, h.1, hlt]

/-! ### What the bridge takes answers for -/

namespace Things

open Http

/-- The reply of a things service that answers so. -/
def replyOf (timeout : Duration) (a : PeerAnswer) : Reply :=
  let exchange := Network.exchange timeout (some a)
  ⟨Client.read exchange.outcome, exchange.elapsed⟩

/-- No exchange takes longer than its timeout. -/
theorem replyOf_delay_le (timeout : Duration) (a : PeerAnswer) :
    (replyOf timeout a).delay ≤ timeout := by
  cases a with
  | silent => exact Nat.le_refl _
  | close => exact Nat.zero_le _
  | response status body => exact Nat.zero_le _

/-- The one status that turns someone away. -/
theorem ofStatus_eq_permissionDenied_iff (status : Nat) :
    ErrorKind.ofStatus status = .permissionDenied ↔ status = 403 := by
  constructor
  · intro h
    unfold ErrorKind.ofStatus at h
    split at h
    · exact absurd h (by simp)
    split at h
    · exact absurd h (by simp)
    split at h
    · assumption
    -- the kinds that are left are not this one
    · exfalso
      revert h
      split
      · simp
      split
      · simp
      split
      · simp
      split <;> simp
  · rintro rfl
    rfl

/-- An answer that announces another one is as good as none. -/
theorem replyOf_response (timeout : Duration) (status : Nat) (body : Bytes) :
    (replyOf timeout (.response status body)).result =
      if isFinal status then readAnswer status body
      else .error ⟨.unknown, "the connection was closed"⟩ := by
  simp only [replyOf, Network.exchange]
  split <;> rfl

/-- **Someone is let in by the answers that say so**, under the name that they give. -/
theorem replyOf_eq_ok_iff (timeout : Duration) (a : PeerAnswer) (thing : String) :
    (replyOf timeout a).result = .ok thing ↔ a.Grants thing := by
  cases a with
  | silent => simp [replyOf, Network.exchange, Client.read, PeerAnswer.Grants]
  | close => simp [replyOf, Network.exchange, Client.read, PeerAnswer.Grants]
  | response status body =>
      have hgrants : (PeerAnswer.response status body).Grants thing ↔
          isSuccess status = true ∧ readThing? body = some thing := by
        simp only [PeerAnswer.Grants, isSuccess_iff, readThing?_eq_some_iff]
        constructor
        · rintro ⟨_, _, value, heq, hlow, hhigh, hvalue, hnames⟩
          obtain ⟨rfl, rfl⟩ := PeerAnswer.response.inj heq
          exact ⟨⟨hlow, hhigh⟩, value, hvalue, hnames⟩
        · rintro ⟨⟨hlow, hhigh⟩, value, hvalue, hnames⟩
          exact ⟨status, body, value, rfl, hlow, hhigh, hvalue, hnames⟩
      rw [hgrants, replyOf_response, readAnswer]
      by_cases hsuccess : isSuccess status = true
      · simp only [isFinal_of_isSuccess hsuccess, hsuccess, if_true, true_and]
        cases readThing? body <;> simp
      · simp only [hsuccess, Bool.false_eq_true, if_false, false_and]
        split <;> simp

/-- **Someone is turned away by the answers that say so**, and by no other failure. -/
theorem isDenial_replyOf_iff (timeout : Duration) (a : PeerAnswer) :
    (∃ e, (replyOf timeout a).result = .error e ∧ e.isDenial = true) ↔ a.Denies := by
  cases a with
  | silent => simp [replyOf, Network.exchange, Client.read, PeerAnswer.Denies, Error.isDenial]
  | close => simp [replyOf, Network.exchange, Client.read, PeerAnswer.Denies, Error.isDenial]
  | response status body =>
      have hdenies : (PeerAnswer.response status body).Denies ↔ status = 403 := by
        simp [PeerAnswer.Denies]
      rw [hdenies, replyOf_response, readAnswer]
      by_cases hsuccess : isSuccess status = true
      · have hne : status ≠ 403 := by
          rw [isSuccess_iff] at hsuccess
          omega
        simp only [isFinal_of_isSuccess hsuccess, hsuccess, if_true, hne, iff_false]
        cases readThing? body <;> simp [Error.isDenial]
      · simp only [hsuccess, Bool.false_eq_true, if_false]
        rw [← ofStatus_eq_permissionDenied_iff]
        by_cases hfinal : isFinal status = true
        · simp [hfinal, Error.isDenial, Error.ofStatus]
        · -- a status that is none of an answer is not that one either
          have hne : ErrorKind.ofStatus status ≠ .permissionDenied := by
            rw [ne_eq, ofStatus_eq_permissionDenied_iff]
            rintro rfl
            exact hfinal (by decide)
          simp [hfinal, Error.isDenial, hne]

end Things

namespace BusClient

open Http

/-- Why a bus that answers so has not taken a message, if it has not. -/
def refusalOf (timeout : Duration) (a : PeerAnswer) : Option String :=
  match read (Network.exchange timeout (some a)).outcome with
  | .ok () => none
  | .error e => some e.reason

/-- What comes of a message is known from the refusal. -/
theorem read_eq_of_refusalOf (timeout : Duration) (a : PeerAnswer) :
    read (Network.exchange timeout (some a)).outcome =
      match refusalOf timeout a with
      | none => .ok ()
      | some reason => .error ⟨reason⟩ := by
  rw [refusalOf]
  cases read (Network.exchange timeout (some a)).outcome <;> rfl

/-- **A message is taken by the answers that say so.** -/
theorem refusalOf_eq_none_iff (timeout : Duration) (a : PeerAnswer) :
    refusalOf timeout a = none ↔ a.Takes := by
  cases a with
  | silent => simp [refusalOf, Network.exchange, read, PeerAnswer.Takes]
  | close => simp [refusalOf, Network.exchange, read, PeerAnswer.Takes]
  | response status body =>
      have htakes : (PeerAnswer.response status body).Takes ↔ isSuccess status = true := by
        rw [isSuccess_iff, PeerAnswer.Takes]
        constructor
        · rintro ⟨_, _, heq, hbounds⟩
          obtain ⟨rfl, rfl⟩ := PeerAnswer.response.inj heq
          exact hbounds
        · intro hbounds
          exact ⟨status, body, rfl, hbounds⟩
      rw [htakes]
      by_cases hsuccess : isSuccess status = true
      · simp [refusalOf, Network.exchange, read, isFinal_of_isSuccess hsuccess, hsuccess]
      · by_cases hfinal : isFinal status = true
        · simp [refusalOf, Network.exchange, read, hfinal, hsuccess]
        · simp [refusalOf, Network.exchange, read, hfinal, hsuccess]

end BusClient

end HookBridge
