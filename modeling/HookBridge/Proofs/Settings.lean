/-
**Which settings are supported.**

Six of the seven keys have a condition on their value, and these are looked at in a fixed order.  A
source is taken if none of them is broken, and else it is refused for the first that is.  What is
taken goes into effect as it is, each key in a setting of its own, and a key that is absent leaves
its setting at a default.  Since the defaults are supported too, the settings in effect may be given
back as a source, and come out as they are.

Main definitions:

* `HookBridge.Settings.NamesDestination`, `HookBridge.Settings.NamesLevel`,
  `HookBridge.Settings.NamesWebAddress` — the conditions on texts;
* `HookBridge.Settings.Source.IsSupported` — every value that is given is supported;
* `HookBridge.Settings.Source.Breaks` — a value breaks the condition at a place of the order;
* `HookBridge.Settings.Source.FirstFault` — the first fault of a source;
* `HookBridge.Settings.Follows` — each setting is what its key gives, or its default;
* `HookBridge.Settings.toSource` — a source that gives all settings in effect.

Main results:

* `HookBridge.Settings.Source.breaks_iff` — each condition is looked at in its place;
* `HookBridge.Settings.check_eq_ok_iff`, `HookBridge.Settings.check_eq_error_iff` — what is taken,
  and for what a source is refused;
* `HookBridge.Settings.isSupported_toSource` — the settings in effect are supported;
* `HookBridge.Settings.check_exact` — **the check is exact, and what it takes goes into effect
  unchanged**.
-/

import HookBridge.Settings.Load

set_option relaxedAutoImplicit false
set_option autoImplicit false

namespace HookBridge

namespace Settings

/-! ### Conditions on texts -/

/-- An output of the process, or a file with a path. -/
def NamesDestination (destination : String) : Prop :=
  destination = "stdout" ∨ destination = "stderr" ∨
    ∃ path, path ≠ "" ∧ destination = "file:" ++ path

/-- A level of the logger. -/
def NamesLevel (level : String) : Prop :=
  level = "error" ∨ level = "warn" ∨ level = "info" ∨ level = "debug"

/-- An address on the web. -/
def NamesWebAddress (url : String) : Prop :=
  ∃ rest, url = "http://" ++ rest ∨ url = "https://" ++ rest

/-- A text begins with another one. -/
theorem isPrefixOf_toList_iff (front text : String) :
    front.toList.isPrefixOf text.toList = true ↔ ∃ rest, text = front ++ rest := by
  rw [List.isPrefixOf_iff_prefix]
  constructor
  · rintro ⟨rest, hrest⟩
    refine ⟨String.ofList rest, String.toList_inj.1 ?_⟩
    rw [String.toList_append, String.toList_ofList, hrest]
  · rintro ⟨rest, rfl⟩
    rw [String.toList_append]
    exact List.prefix_append _ _

/-- Something stands behind the front of a text if it is longer. -/
theorem length_lt_append_iff (front rest : String) :
    front.length < (front ++ rest).length ↔ rest ≠ "" := by
  rw [String.length_append, ne_eq, ← String.length_eq_zero_iff]
  omega

theorem isDestination_iff (destination : String) :
    isDestination destination = true ↔ NamesDestination destination := by
  rw [isDestination, Bool.or_eq_true, Bool.and_eq_true, isPrefixOf_toList_iff, decide_eq_true_eq,
    NamesDestination, ← or_assoc]
  refine or_congr (by simp [outputs]) ?_
  constructor
  · rintro ⟨⟨path, rfl⟩, hlength⟩
    exact ⟨path, (length_lt_append_iff _ _).1 hlength, rfl⟩
  · rintro ⟨path, hpath, rfl⟩
    exact ⟨⟨path, rfl⟩, (length_lt_append_iff _ _).2 hpath⟩

theorem isLevel_iff (level : String) : isLevel level = true ↔ NamesLevel level := by
  simp [isLevel, levels, NamesLevel]

theorem isWebAddress_iff (url : String) : isWebAddress url = true ↔ NamesWebAddress url := by
  rw [isWebAddress, List.any_eq_true, NamesWebAddress]
  simp only [webSchemes, List.mem_cons, List.not_mem_nil, or_false, exists_eq_or_imp,
    exists_eq_left, isPrefixOf_toList_iff, exists_or]

/-! ### Conditions on sources -/

namespace Source

/-- Every value that is given is supported. -/
structure IsSupported (s : Source) : Prop where
  logDestination : ∀ v, s.logDestination = some v → NamesDestination v
  logLevel : ∀ v, s.logLevel = some v → NamesLevel v
  thingsUrl : ∀ v, s.thingsUrl = some v → NamesWebAddress v
  publisherUrl : ∀ v, s.publisherUrl = some v → NamesWebAddress v
  thingsTimeout : ∀ v, s.thingsTimeout = some v → v ≠ 0
  publisherTimeout : ∀ v, s.publisherTimeout = some v → v ≠ 0

/-- A value that is given breaks the condition at a place of the order, and this is its fault. -/
inductive Breaks (s : Source) : Nat → Fault → Prop
  | logDestination {v : String} (given : s.logDestination = some v) (h : ¬ NamesDestination v) :
      Breaks s 0 (.destination v)
  | logLevel {v : String} (given : s.logLevel = some v) (h : ¬ NamesLevel v) :
      Breaks s 1 (.level v)
  | thingsUrl {v : String} (given : s.thingsUrl = some v) (h : ¬ NamesWebAddress v) :
      Breaks s 2 (.address "things_url" v)
  | publisherUrl {v : String} (given : s.publisherUrl = some v) (h : ¬ NamesWebAddress v) :
      Breaks s 3 (.address "publisher_url" v)
  | thingsTimeout (given : s.thingsTimeout = some 0) : Breaks s 4 (.timeout "things_timeout")
  | publisherTimeout (given : s.publisherTimeout = some 0) :
      Breaks s 5 (.timeout "publisher_timeout")

/-- The first fault of a source: no condition in front of its place is broken. -/
def FirstFault (s : Source) (fault : Fault) : Prop :=
  ∃ place, Breaks s place fault ∧ ∀ place' < place, ∀ fault', ¬ Breaks s place' fault'

variable {s : Source}

/-- A source is supported if no condition is broken. -/
theorem isSupported_iff : s.IsSupported ↔ ∀ place fault, ¬ Breaks s place fault := by
  constructor
  · intro h place fault hbreaks
    cases hbreaks with
    | logDestination given hv => exact hv (h.logDestination _ given)
    | logLevel given hv => exact hv (h.logLevel _ given)
    | thingsUrl given hv => exact hv (h.thingsUrl _ given)
    | publisherUrl given hv => exact hv (h.publisherUrl _ given)
    | thingsTimeout given => exact h.thingsTimeout _ given rfl
    | publisherTimeout given => exact h.publisherTimeout _ given rfl
  · intro h
    constructor
    · exact fun v given => Classical.not_not.1 fun hv => h _ _ (.logDestination given hv)
    · exact fun v given => Classical.not_not.1 fun hv => h _ _ (.logLevel given hv)
    · exact fun v given => Classical.not_not.1 fun hv => h _ _ (.thingsUrl given hv)
    · exact fun v given => Classical.not_not.1 fun hv => h _ _ (.publisherUrl given hv)
    · rintro v given rfl
      exact h _ _ (.thingsTimeout given)
    · rintro v given rfl
      exact h _ _ (.publisherTimeout given)

/-- A source that gives nothing is supported. -/
theorem isSupported_empty : Source.empty.IsSupported := by
  constructor <;> intro v given <;> cases given

/-- A value has a fault if it is given and breaks the condition that its check decides. -/
theorem faultOf_eq_some_iff {α : Type} {check : α → Bool} {P : α → Prop}
    (hcheck : ∀ v, check v = true ↔ P v) {fault : α → Fault} {value : Option α} {f : Fault} :
    faultOf check fault value = some f ↔ ∃ v, value = some v ∧ ¬ P v ∧ fault v = f := by
  cases value with
  | none => simp [faultOf]
  | some v =>
      rw [faultOf]
      by_cases h : P v
      · simp [(hcheck v).2 h, h]
      · simp [mt (hcheck v).1 h, h]

theorem isTimeout_iff (seconds : UInt64) : (seconds != 0) = true ↔ seconds ≠ 0 := bne_iff_ne

/-- **Each condition is looked at in its place.** -/
theorem breaks_iff (place : Nat) (fault : Fault) :
    Breaks s place fault ↔ s.faults[place]? = some (some fault) := by
  constructor
  · intro h
    cases h with
    | logDestination given h =>
        exact congrArg some ((faultOf_eq_some_iff isDestination_iff).2 ⟨_, given, h, rfl⟩)
    | logLevel given h =>
        exact congrArg some ((faultOf_eq_some_iff isLevel_iff).2 ⟨_, given, h, rfl⟩)
    | thingsUrl given h =>
        exact congrArg some ((faultOf_eq_some_iff isWebAddress_iff).2 ⟨_, given, h, rfl⟩)
    | publisherUrl given h =>
        exact congrArg some ((faultOf_eq_some_iff isWebAddress_iff).2 ⟨_, given, h, rfl⟩)
    | thingsTimeout given =>
        exact congrArg some ((faultOf_eq_some_iff isTimeout_iff).2 ⟨0, given, by simp, rfl⟩)
    | publisherTimeout given =>
        exact congrArg some ((faultOf_eq_some_iff isTimeout_iff).2 ⟨0, given, by simp, rfl⟩)
  · intro h
    match place with
    | 0 =>
        obtain ⟨v, given, hv, rfl⟩ := (faultOf_eq_some_iff isDestination_iff).1 (Option.some.inj h)
        exact .logDestination given hv
    | 1 =>
        obtain ⟨v, given, hv, rfl⟩ := (faultOf_eq_some_iff isLevel_iff).1 (Option.some.inj h)
        exact .logLevel given hv
    | 2 =>
        obtain ⟨v, given, hv, rfl⟩ := (faultOf_eq_some_iff isWebAddress_iff).1 (Option.some.inj h)
        exact .thingsUrl given hv
    | 3 =>
        obtain ⟨v, given, hv, rfl⟩ := (faultOf_eq_some_iff isWebAddress_iff).1 (Option.some.inj h)
        exact .publisherUrl given hv
    | 4 =>
        obtain ⟨v, given, hv, rfl⟩ := (faultOf_eq_some_iff isTimeout_iff).1 (Option.some.inj h)
        obtain rfl := Classical.not_not.1 hv
        exact .thingsTimeout given
    | 5 =>
        obtain ⟨v, given, hv, rfl⟩ := (faultOf_eq_some_iff isTimeout_iff).1 (Option.some.inj h)
        obtain rfl := Classical.not_not.1 hv
        exact .publisherTimeout given
    | n + 6 => simp [faults] at h

/-- The fault that is found is the first. -/
theorem fault?_eq_some_iff (fault : Fault) : s.fault? = some fault ↔ s.FirstFault fault := by
  rw [fault?, List.findSome?_eq_some_iff]
  constructor
  · rintro ⟨front, found, rest, hfaults, hfound, hfront⟩
    obtain rfl : found = some fault := hfound
    refine ⟨front.length, (breaks_iff _ _).2 ?_, fun place hplace fault' hbreaks => ?_⟩
    · rw [hfaults]
      simp
    · rw [breaks_iff, hfaults, List.getElem?_append_left hplace] at hbreaks
      exact absurd (hfront _ (List.mem_of_getElem? hbreaks)) (by simp)
  · rintro ⟨place, hbreaks, hclear⟩
    have hplace := (breaks_iff place fault).1 hbreaks
    obtain ⟨hlt, hget⟩ := List.getElem?_eq_some_iff.1 hplace
    refine ⟨s.faults.take place, some fault, s.faults.drop (place + 1), ?_, rfl, ?_⟩
    · rw [← hget, ← List.drop_eq_getElem_cons hlt, List.take_append_drop]
    · intro found hmem
      obtain ⟨place', hlt', hfound⟩ := List.mem_take_iff_getElem.1 hmem
      cases found with
      | none => rfl
      | some fault' =>
          refine absurd ((breaks_iff place' fault').2 ?_) (hclear place' (by omega) fault')
          rw [← hfound]
          exact List.getElem?_eq_getElem _

/-- No fault is found in a source that is supported, and only there. -/
theorem fault?_eq_none_iff : s.fault? = none ↔ s.IsSupported := by
  rw [isSupported_iff, fault?, List.findSome?_eq_none_iff]
  simp only [breaks_iff, id_eq]
  constructor
  · intro h place fault hfault
    exact absurd (h _ (List.mem_of_getElem? hfault)) (by simp)
  · intro h found hmem
    obtain ⟨place, hlt, rfl⟩ := List.getElem_of_mem hmem
    cases hfound : s.faults[place] with
    | none => rfl
    | some fault =>
        exact absurd ((List.getElem?_eq_getElem hlt).trans (congrArg some hfound)) (h place fault)

end Source

/-! ### The settings in effect -/

variable {s : Source} {e : Settings}

/-- A source is taken if it is supported, and goes into effect. -/
theorem check_eq_ok_iff : check s = .ok e ↔ s.IsSupported ∧ e = ofSource s := by
  rw [← Source.fault?_eq_none_iff, check]
  cases s.fault? with
  | none => simp [eq_comm]
  | some fault => simp

/-- A source is refused for its first fault. -/
theorem check_eq_error_iff {error : LoadError} :
    check s = .error error ↔ ∃ fault, s.FirstFault fault ∧ error = .value fault := by
  simp only [← Source.fault?_eq_some_iff, check]
  cases s.fault? with
  | none => simp
  | some fault => simp [eq_comm]

/-- What is given goes into effect, and else the default does. -/
def Carries {α : Type} (given : Option α) (default effective : α) : Prop :=
  (∀ v, given = some v → effective = v) ∧ (given = none → effective = default)

theorem carries_getD {α : Type} (given : Option α) (default : α) :
    Carries given default (given.getD default) := by
  cases given with
  | none => exact ⟨fun v h => absurd h (by simp), fun _ => rfl⟩
  | some w => exact ⟨fun v h => Option.some.inj h, fun h => absurd h (by simp)⟩

theorem Carries.eq_getD {α : Type} {given : Option α} {default effective : α}
    (h : Carries given default effective) : effective = given.getD default := by
  cases given with
  | none => exact h.2 rfl
  | some v => exact h.1 v rfl

/-- Each setting is what its key gives, or its default. -/
structure Follows (s : Source) (e : Settings) : Prop where
  httpPort : Carries s.httpPort 8080 e.httpPort
  thingsUrl : Carries s.thingsUrl "http://localhost:8183" e.thingsUrl
  thingsTimeout : Carries s.thingsTimeout 1 e.thingsTimeout
  publisherUrl : e.publisherUrl = s.publisherUrl
  publisherTimeout : Carries s.publisherTimeout 1 e.publisherTimeout
  logDestination : Carries s.logDestination "stdout" e.logDestination
  logLevel : Carries s.logLevel "info" e.logLevel

theorem follows_ofSource (s : Source) : Follows s (ofSource s) where
  httpPort := carries_getD _ _
  thingsUrl := carries_getD _ _
  thingsTimeout := carries_getD _ _
  publisherUrl := rfl
  publisherTimeout := carries_getD _ _
  logDestination := carries_getD _ _
  logLevel := carries_getD _ _

/-- There are no other settings that follow a source. -/
theorem follows_iff : Follows s e ↔ e = ofSource s := by
  constructor
  · intro h
    cases e
    simp only [ofSource, Settings.mk.injEq]
    exact ⟨h.httpPort.eq_getD, h.thingsUrl.eq_getD, h.thingsTimeout.eq_getD, h.publisherUrl,
      h.publisherTimeout.eq_getD, h.logDestination.eq_getD, h.logLevel.eq_getD⟩
  · rintro rfl
    exact follows_ofSource s

/-- A source that gives all settings in effect. -/
def toSource (e : Settings) : Source :=
  ⟨some e.httpPort, some e.thingsUrl, some e.thingsTimeout, e.publisherUrl,
    some e.publisherTimeout, some e.logDestination, some e.logLevel⟩

/-- What is so of the default, and of what is given, is so of what goes into effect. -/
theorem Carries.forall_some {α : Type} {P : α → Prop} {given : Option α} {default effective : α}
    (h : Carries given default effective) (hdefault : P default)
    (hgiven : ∀ v, given = some v → P v) : ∀ v, some effective = some v → P v := by
  intro v hv
  obtain rfl := Option.some.inj hv
  cases given with
  | none => rwa [h.2 rfl]
  | some w =>
      rw [h.1 w rfl]
      exact hgiven w rfl

/-- **The settings in effect are supported**, the defaults among them. -/
theorem isSupported_toSource (hs : s.IsSupported) (he : Follows s e) : e.toSource.IsSupported where
  logDestination := he.logDestination.forall_some (Or.inl rfl) hs.logDestination
  logLevel := he.logLevel.forall_some (Or.inr (Or.inr (Or.inl rfl))) hs.logLevel
  thingsUrl := he.thingsUrl.forall_some ⟨"localhost:8183", Or.inl rfl⟩ hs.thingsUrl
  publisherUrl := fun v hv => hs.publisherUrl v (he.publisherUrl ▸ hv)
  thingsTimeout := he.thingsTimeout.forall_some (by decide) hs.thingsTimeout
  publisherTimeout := he.publisherTimeout.forall_some (by decide) hs.publisherTimeout

/-- **The check is exact, and what it takes goes into effect unchanged.**  A source is taken exactly
if every value that is given is supported, and is refused for a fault exactly if this is its first
one.  If it is taken, each setting in effect is what its own key gives, or the default of this key if
it is absent; and the settings in effect are supported themselves, so that a source that gives all of
them is taken and comes to the same. -/
theorem check_exact (s : Source) :
    ((∃ e, check s = .ok e) ↔ s.IsSupported) ∧
    (∀ error, check s = .error error ↔ ∃ fault, s.FirstFault fault ∧ error = .value fault) ∧
    ∀ e, check s = .ok e →
      Follows s e ∧ e.toSource.IsSupported ∧ check e.toSource = .ok e := by
  refine ⟨?_, fun error => check_eq_error_iff, ?_⟩
  · simp only [check_eq_ok_iff, exists_and_left, exists_eq, and_true]
  · intro e he
    obtain ⟨hs, rfl⟩ := check_eq_ok_iff.1 he
    have hsupported := isSupported_toSource hs (follows_ofSource s)
    exact ⟨follows_ofSource s, hsupported, check_eq_ok_iff.2 ⟨hsupported, rfl⟩⟩

/-- Three values are not supported; the destination, which is looked at first, is. -/
def threeFaults : Source :=
  ⟨some 9090, some "ftp://things", none, none, some 0, some "file:bridge.log", some "trace"⟩

/-- The messages have an address, and the things service has more time than they. -/
def twoKeys : Source := ⟨none, none, some 3, some "http://bus:8185/messages", none, none, none⟩

theorem check_exact_three_faults :
    check threeFaults = .error (.value (.level "trace")) ∧
    ∃ e, check twoKeys = .ok e ∧ e.thingsTimeout = 3 ∧ e.publisherTimeout = 1 ∧
      check e.toSource = .ok e := by
  obtain ⟨-, herror, -⟩ := check_exact threeFaults
  obtain ⟨hok, -, heffect⟩ := check_exact twoKeys
  have hfirst : threeFaults.FirstFault (.level "trace") := by
    refine ⟨1, .logLevel rfl (by simp [NamesLevel]), fun place hplace fault hbreaks => ?_⟩
    obtain rfl := Nat.lt_one_iff.1 hplace
    obtain ⟨given, hv⟩ := hbreaks
    obtain rfl := Option.some.inj given
    exact hv ((isDestination_iff _).1 (by decide))
  have hsupported : twoKeys.IsSupported := by
    refine ⟨?_, ?_, ?_, ?_, ?_, ?_⟩ <;> intro v given <;> cases given
    · exact ⟨"bus:8185/messages", Or.inl rfl⟩
    · decide
  obtain ⟨e, he⟩ := hok.2 hsupported
  obtain ⟨hfollows, -, hagain⟩ := heffect e he
  exact ⟨(herror _).2 ⟨_, hfirst, rfl⟩, e, he, hfollows.thingsTimeout.1 3 rfl,
    hfollows.publisherTimeout.2 rfl, hagain⟩

end Settings

end HookBridge
