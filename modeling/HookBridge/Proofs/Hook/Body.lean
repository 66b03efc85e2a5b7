/-
**Bodies are read by the members that the hook knows.**

A body is a text of JSON, and a hook looks in it for its own fields.  Of an object it reads the
members of these names, wherever they stand and whatever else the object holds; an array gives its
items to the fields in order.  A field that is given twice, or that holds anything but a text, is
one that the bridge does not guess at; and neither is anything else that a body may be.

Main definitions:

* `HookBridge.Json.object` — an object whose members have texts for names;
* `HookBridge.Hook.known` — the members that a hook knows;
* `HookBridge.Hook.Fits` — the members make up a request of the hook;
* `HookBridge.HookRequest.Says` — a request says what the members hold.

Main results:

* `HookBridge.Hook.exists_reading?_iff`, `HookBridge.Hook.says_of_reading?` — which objects can be
  read, and as what;
* `HookBridge.Hook.reading?_congr_known` — **nothing but the known members counts**;
* `HookBridge.Hook.reading?_arr` — an array is read as the object that gives its items to the
  fields;
* `HookBridge.Hook.decode_by_known_members` — **what is made of any body that is a text**.
-/

import HookBridge.Proofs.Answers
import HookBridge.Proofs.Hook.Inquiry
import HookBridge.Proofs.Json.Text
import HookBridge.Proofs.Text.Base64

set_option relaxedAutoImplicit false
set_option autoImplicit false

namespace HookBridge

/-! ### Members -/

namespace Json

/-- The object with these members. -/
def object (members : List (String × Value)) : Value :=
  .obj (members.map fun m => (some m.1, m.2))

/-- `Gives members name text`: the text is the one of a member of this name, or it is empty, and
there is no such member. -/
def Gives (members : List (String × Value)) (name text : String) : Prop :=
  (name, .str (some text)) ∈ members ∨ (∀ m ∈ members, m.1 ≠ name) ∧ text = ""

/-- The text of a field, `none` if it is absent; no result if it is given twice, or holds no
text. -/
def held? (members : List (String × Value)) (name : String) : Option (Option String) :=
  textOf? ((members.filter (·.1 == name)).map (·.2))

theorem valuesOf_object (members : List (String × Value)) (name : String) :
    valuesOf name (members.map fun m => (some m.1, m.2)) =
      (members.filter (·.1 == name)).map (·.2) := by
  simp [valuesOf, List.filter_map, Function.comp_def]

/-- The fields of an object. -/
theorem texts?_object (names : List String) (members : List (String × Value)) :
    texts? names (object members) = names.mapM (held? members) := by
  have hall : (members.map fun m => (some m.1, m.2)).all
      (fun m : Option String × Value => m.1.isSome) = true := by simp
  rw [object, texts?, if_pos hall]
  simp only [valuesOf_object]
  rfl

theorem mapM_congr_mem {α β : Type} {f g : α → Option β} {l : List α}
    (h : ∀ x ∈ l, f x = g x) : l.mapM f = l.mapM g := by
  induction l with
  | nil => rfl
  | cons x l ih =>
      obtain ⟨hx, hl⟩ := List.forall_mem_cons.1 h
      rw [List.mapM_cons, List.mapM_cons, hx, ih hl]

/-- A list of values is one of a field that is absent, or that holds a text. -/
theorem textOf?_isSome_iff {values : List Value} : (textOf? values).isSome = true ↔
    values.length ≤ 1 ∧ ∀ v ∈ values, ∃ text, v = .str (some text) := by
  match values with
  | [] => simp [textOf?]
  | [.str text] => cases text <;> simp [textOf?]
  | [.null] | [.bool _] | [.number] | [.arr _] | [.obj _] => simp [textOf?]
  | v :: w :: rest => simp [textOf?]

theorem textOf?_eq_some_none_iff {values : List Value} :
    textOf? values = some none ↔ values = [] := by
  rw [textOf?.eq_def]
  split <;> simp_all

/-- **A field can be read** if it is given once at most, and holds a text if it is given. -/
theorem held?_isSome_iff {members : List (String × Value)} {name : String} :
    (held? members name).isSome = true ↔ (members.map Prod.fst).count name ≤ 1 ∧
      ∀ m ∈ members, m.1 = name → ∃ text, m.2 = .str (some text) := by
  have hcount : (members.map Prod.fst).count name = (members.filter (·.1 == name)).length := by
    rw [List.count_eq_countP, List.countP_map, List.countP_eq_length_filter]
    rfl
  rw [held?, textOf?_isSome_iff, List.length_map, hcount, List.forall_mem_map]
  simp [List.mem_filter]

/-- And then it is read as the text that is given, or as the empty one. -/
theorem gives_of_held? {members : List (String × Value)} {name : String} {text : Option String}
    (h : held? members name = some text) : Gives members name (text.getD "") := by
  cases text with
  | some text =>
      have hvalues := Things.textOf?_eq_some_iff.1 h
      obtain ⟨m, hfilter, hm⟩ := List.map_eq_singleton_iff.1 hvalues
      have hmem : m ∈ members.filter (·.1 == name) := hfilter ▸ List.mem_singleton_self m
      obtain ⟨hmem, hname⟩ := List.mem_filter.1 hmem
      refine Or.inl ?_
      rwa [Option.getD_some, ← hm, ← eq_of_beq hname]
  | none =>
      refine Or.inr ⟨fun m hm hname => ?_, rfl⟩
      have hmem : m ∈ members.filter (·.1 == name) := List.mem_filter.2 ⟨hm, by simp [hname]⟩
      rw [List.map_eq_nil_iff.1 (textOf?_eq_some_none_iff.1 h)] at hmem
      exact absurd hmem (by simp)

/-- A text that is given is the one that is read. -/
theorem eq_of_mem_of_held? {members : List (String × Value)} {name text : String}
    {text? : Option String} (h : held? members name = some text?)
    (hmem : (name, .str (some text)) ∈ members) : text? = some text := by
  have hvalue : Value.str (some text) ∈ (members.filter (·.1 == name)).map (·.2) :=
    List.mem_map.2 ⟨_, List.mem_filter.2 ⟨hmem, beq_self_eq_true name⟩, rfl⟩
  cases text? with
  | none =>
      rw [textOf?_eq_some_none_iff.1 h] at hvalue
      exact absurd hvalue (by simp)
  | some text' =>
      rw [Things.textOf?_eq_some_iff.1 h] at hvalue
      have heq := Value.str.inj (List.mem_singleton.1 hvalue)
      rw [heq]

/-- A field of an object that gives several fields one value each. -/
theorem held?_zip {names : List String} (hnames : names.Nodup) (items : List Value) {i : Nat}
    (hi : i < names.length) :
    held? (names.zip items) (names[i]?.getD "") = textOf? (items[i]?).toList := by
  rw [held?]
  congr 1
  induction names generalizing items i with
  | nil => exact absurd hi (by simp)
  | cons name names ih =>
      obtain ⟨hname, hnames⟩ := List.nodup_cons.1 hnames
      cases items with
      | nil => simp
      | cons v items =>
          cases i with
          | zero =>
              have hrest : (names.zip items).filter (·.1 == name) = [] := by
                refine List.filter_eq_nil_iff.2 fun m hm heq => hname ?_
                rw [← eq_of_beq heq]
                exact (List.of_mem_zip hm).1
              simp [hrest]
          | succ i =>
              have hi' : i < names.length := Nat.lt_of_succ_lt_succ hi
              have hne : ¬ (name == names[i]?.getD "") = true := by
                rw [List.getElem?_eq_getElem hi', Option.getD_some, beq_iff_eq]
                exact fun heq => hname (heq ▸ List.getElem_mem hi')
              rw [List.getElem?_cons_succ, List.zip_cons_cons, List.filter_cons, if_neg hne,
                List.getElem?_cons_succ]
              exact ih hnames items hi'

/-- **An array is read as the object that gives its items to the fields, in order.** -/
theorem texts?_arr {names : List String} (hnames : names.Nodup) {items : List Value}
    (hlength : items.length ≤ names.length) :
    texts? names (.arr items) = texts? names (object (names.zip items)) := by
  have hindex : (List.range names.length).map (names[·]?.getD "") = names := by
    refine List.ext_getElem (by simp) fun i _ hi => ?_
    rw [List.getElem_map, List.getElem_range, List.getElem?_eq_getElem hi, Option.getD_some]
  calc texts? names (.arr items)
      = (List.range names.length).mapM fun i => textOf? (items[i]?).toList := by
        rw [texts?, if_pos hlength]
    _ = (List.range names.length).mapM (held? (names.zip items) ∘ (names[·]?.getD "")) :=
        mapM_congr_mem fun i hi => (held?_zip hnames items (List.mem_range.1 hi)).symm
    _ = texts? names (object (names.zip items)) := by
        rw [← List.mapM_map, hindex, texts?_object]

end Json

/-! ### Requests -/

/-- The request says of each of its fields what the members hold, and of its media type what came
with the body. -/
def HookRequest.Says (members : List (String × Json.Value)) (mediaType : String) :
    HookRequest → Prop
  | .register password => Json.Gives members "password" password
  | .publish username topic payload contentType =>
      Json.Gives members "username" username ∧ Json.Gives members "topic" topic ∧
        (∃ text, Json.Gives members "payload" text ∧ Base64.IsSpelling payload text) ∧
        contentType = mediaType
  | .subscribe username topic =>
      Json.Gives members "username" username ∧ Json.Gives members "topic" topic

namespace Hook

open Json

/-- The members that the hook knows. -/
def known (h : Hook) (members : List (String × Value)) : List (String × Value) :=
  members.filter (h.fields.contains ·.1)

/-- The members make up a request of the hook, whatever else there is among them. -/
structure Fits (h : Hook) (members : List (String × Value)) : Prop where
  /-- no field is given twice -/
  once : ∀ name ∈ h.fields, (members.map Prod.fst).count name ≤ 1
  /-- a field that is given holds a text -/
  texts : ∀ m ∈ members, m.1 ∈ h.fields → ∃ text, m.2 = .str (some text)
  /-- a payload is written in base64, with all, some or none of its padding -/
  payload : h = .publish → ∀ text, ("payload", .str (some text)) ∈ members →
    ∃ bytes, Base64.IsSpelling bytes text

/-- The request that a value makes up for the hook. -/
def reading? (h : Hook) (mediaType : String) (v : Value) : Option HookRequest :=
  (texts? h.fields v).bind (h.requestOf? mediaType)

section Object

variable {h : Hook} {mediaType : String} {members : List (String × Value)} {r : HookRequest}

theorem reading?_register_iff :
    register.reading? mediaType (object members) = some r ↔
      ∃ password, held? members "password" = some password ∧
        r = .register (password.getD "") := by
  rw [reading?, texts?_object]
  cases hpassword : held? members "password" with
  | none => simp [fields, hpassword]
  | some password => simp [fields, hpassword, requestOf?, eq_comm]

theorem reading?_subscribe_iff :
    subscribe.reading? mediaType (object members) = some r ↔
      ∃ username topic, held? members "username" = some username ∧
        held? members "topic" = some topic ∧
        r = .subscribe (username.getD "") (topic.getD "") := by
  rw [reading?, texts?_object]
  cases husername : held? members "username" with
  | none => simp [fields, husername]
  | some username =>
      cases htopic : held? members "topic" with
      | none => simp [fields, husername, htopic]
      | some topic => simp [fields, husername, htopic, requestOf?, eq_comm]

theorem reading?_publish_iff :
    publish.reading? mediaType (object members) = some r ↔
      ∃ username topic payload bytes, held? members "username" = some username ∧
        held? members "topic" = some topic ∧ held? members "payload" = some payload ∧
        Base64.IsSpelling bytes (payload.getD "") ∧
        r = .publish (username.getD "") (topic.getD "") bytes mediaType := by
  simp only [← Base64.decode?_eq_some_iff]
  rw [reading?, texts?_object]
  cases husername : held? members "username" with
  | none => simp [fields, husername]
  | some username =>
      cases htopic : held? members "topic" with
      | none => simp [fields, husername, htopic]
      | some topic =>
          cases hpayload : held? members "payload" with
          | none => simp [fields, husername, htopic, hpayload]
          | some payload =>
              simp [fields, husername, htopic, hpayload, requestOf?, Option.map_eq_some_iff]
              exact exists_congr fun _ => and_congr_right fun _ => eq_comm

/-- What an object is read as says what its members hold. -/
theorem says_of_reading? (hr : h.reading? mediaType (object members) = some r) :
    r.hook = h ∧ r.Says members mediaType := by
  cases h with
  | register =>
      obtain ⟨password, hpassword, rfl⟩ := reading?_register_iff.1 hr
      exact ⟨rfl, gives_of_held? hpassword⟩
  | publish =>
      obtain ⟨username, topic, payload, bytes, husername, htopic, hpayload, hbytes, rfl⟩ :=
        reading?_publish_iff.1 hr
      exact ⟨rfl, gives_of_held? husername, gives_of_held? htopic,
        ⟨_, gives_of_held? hpayload, hbytes⟩, rfl⟩
  | subscribe =>
      obtain ⟨username, topic, husername, htopic, rfl⟩ := reading?_subscribe_iff.1 hr
      exact ⟨rfl, gives_of_held? husername, gives_of_held? htopic⟩

/-- Members that make up a request have a text for each field, or none. -/
theorem Fits.held? (hfits : h.Fits members) (name : String) (hname : name ∈ h.fields) :
    ∃ text, Json.held? members name = some text :=
  Option.isSome_iff_exists.1 (held?_isSome_iff.2
    ⟨hfits.once name hname, fun m hm heq => hfits.texts m hm (heq ▸ hname)⟩)

theorem fits_of_held? (hheld : ∀ name ∈ h.fields, ∃ text, Json.held? members name = some text)
    (hpayload : h = .publish → ∀ text, ("payload", .str (some text)) ∈ members →
      ∃ bytes, Base64.IsSpelling bytes text) : h.Fits members where
  once := fun name hname =>
    (held?_isSome_iff.1 (Option.isSome_iff_exists.2 (hheld name hname))).1
  texts := fun m hm hname =>
    (held?_isSome_iff.1 (Option.isSome_iff_exists.2 (hheld _ hname))).2 m hm rfl
  payload := hpayload

/-- **Which objects can be read**: those whose members make up a request. -/
theorem exists_reading?_iff :
    (∃ r, h.reading? mediaType (object members) = some r) ↔ h.Fits members := by
  constructor
  · rintro ⟨r, hr⟩
    cases h with
    | register =>
        obtain ⟨password, hpassword, -⟩ := reading?_register_iff.1 hr
        exact fits_of_held? (by simp [fields, hpassword]) (by simp)
    | publish =>
        obtain ⟨username, topic, payload, bytes, husername, htopic, hpayload, hbytes, -⟩ :=
          reading?_publish_iff.1 hr
        refine fits_of_held? (by simp [fields, husername, htopic, hpayload]) fun _ text hmem => ?_
        obtain rfl := eq_of_mem_of_held? hpayload hmem
        exact ⟨bytes, hbytes⟩
    | subscribe =>
        obtain ⟨username, topic, husername, htopic, -⟩ := reading?_subscribe_iff.1 hr
        exact fits_of_held? (by simp [fields, husername, htopic]) (by simp)
  · intro hfits
    cases h with
    | register =>
        obtain ⟨password, hpassword⟩ := hfits.held? "password" (by simp [fields])
        exact ⟨_, reading?_register_iff.2 ⟨_, hpassword, rfl⟩⟩
    | publish =>
        obtain ⟨username, husername⟩ := hfits.held? "username" (by simp [fields])
        obtain ⟨topic, htopic⟩ := hfits.held? "topic" (by simp [fields])
        obtain ⟨payload, hpayload⟩ := hfits.held? "payload" (by simp [fields])
        have hbytes : ∃ bytes, Base64.IsSpelling bytes (payload.getD "") := by
          rcases gives_of_held? hpayload with hmem | ⟨-, hempty⟩
          · exact hfits.payload rfl _ hmem
          · exact ⟨[], 0, by rw [hempty]; rfl⟩
        obtain ⟨bytes, hbytes⟩ := hbytes
        exact ⟨_, reading?_publish_iff.2
          ⟨_, _, _, bytes, husername, htopic, hpayload, hbytes, rfl⟩⟩
    | subscribe =>
        obtain ⟨username, husername⟩ := hfits.held? "username" (by simp [fields])
        obtain ⟨topic, htopic⟩ := hfits.held? "topic" (by simp [fields])
        exact ⟨_, reading?_subscribe_iff.2 ⟨_, _, husername, htopic, rfl⟩⟩

end Object

/-! ### What counts -/

/-- A field is read from the members that the hook knows. -/
theorem held?_known {h : Hook} (members : List (String × Value)) {name : String}
    (hname : name ∈ h.fields) : held? (h.known members) name = held? members name := by
  have hfilter : (h.known members).filter (·.1 == name) = members.filter (·.1 == name) := by
    rw [known, List.filter_filter]
    refine List.filter_congr fun m _ => ?_
    by_cases heq : m.1 = name
    · simp [heq, hname]
    · simp [heq]
  rw [Json.held?, Json.held?, hfilter]

/-- And their order does not count. -/
theorem held?_perm {members members' : List (String × Value)} (h : members.Perm members')
    (name : String) : held? members name = held? members' name := by
  have hvalues := (h.filter (·.1 == name)).map (·.2)
  rw [Json.held?, Json.held?]
  generalize (members.filter (·.1 == name)).map (·.2) = values at hvalues
  generalize (members'.filter (·.1 == name)).map (·.2) = values' at hvalues
  -- only one value has a text, and one value stands in one order
  by_cases hlength : values.length ≤ 1
  · match values with
    | [] => rw [List.nil_perm.1 hvalues]
    | [v] => rw [List.singleton_perm.1 hvalues]
    | v :: w :: rest => exact absurd hlength (by simp)
  · have hnone : ∀ vs : List Value, ¬ vs.length ≤ 1 → textOf? vs = none := by
      intro vs hvs
      refine Option.not_isSome_iff_eq_none.1 fun hsome => hvs (textOf?_isSome_iff.1 hsome).1
    rw [hnone values hlength, hnone values' (by rwa [← hvalues.length_eq])]

/-- **Nothing counts but the members that the hook knows**, in whatever order. -/
theorem reading?_congr_known {h : Hook} (mediaType : String)
    {members members' : List (String × Value)}
    (hknown : (h.known members).Perm (h.known members')) :
    h.reading? mediaType (object members) = h.reading? mediaType (object members') := by
  have hheld : ∀ name ∈ h.fields, held? members name = held? members' name := by
    intro name hname
    rw [← held?_known members hname, held?_perm hknown, held?_known members' hname]
  rw [reading?, reading?, texts?_object, texts?_object, mapM_congr_mem hheld]

theorem reading?_arr (h : Hook) (mediaType : String) {items : List Value}
    (hlength : items.length ≤ h.fields.length) :
    h.reading? mediaType (.arr items) = h.reading? mediaType (object (h.fields.zip items)) := by
  have hnodup : h.fields.Nodup := by cases h <;> decide
  rw [reading?, reading?, texts?_arr hnodup hlength]

/-! ### Bodies -/

/-- The body is refused as one that is malformed. -/
def Refuses (h : Hook) (headers : Http.Headers) (body : Bytes) : Prop :=
  ∃ detail, h.decode headers body = .error (.malformedBody detail)

section Named

variable {h : Hook} {headers : Http.Headers}
  (hnamed : h.name.toList <:+: (headers.text "vernemq-hook").toList)

include hnamed

/-- A text is decoded as what its value makes up. -/
theorem decode_of_isText {body : Bytes} {v : Value} (hbody : IsText body v) :
    h.decode headers body =
      match h.reading? (headers.text "content-type") v with
      | some r => .ok r
      | none => .error (.malformedBody ("no record of the " ++ h.name ++ " hook")) := by
  have hread : h.readBody? (headers.text "content-type") body =
      h.reading? (headers.text "content-type") v := by
    simp only [readBody?, parse?_eq_some_iff.2 hbody, reading?]
    cases texts? h.fields v <;> rfl
  have hasked : h.isNamedBy (headers.text headerName) = true := (isNamedBy_iff h _).2 hnamed
  generalize h.reading? (headers.text "content-type") v = r? at hread ⊢
  cases r? <;> rw [decode, if_pos hasked, hread]

theorem refuses_of_reading? {body : Bytes} {v : Value} (hbody : IsText body v)
    (hv : h.reading? (headers.text "content-type") v = none) : h.Refuses headers body :=
  ⟨_, by rw [decode_of_isText hnamed hbody, hv]⟩

theorem decode_eq_ok_of_isText {body : Bytes} {v : Value} (hbody : IsText body v)
    {r : HookRequest} : h.decode headers body = .ok r ↔
      h.reading? (headers.text "content-type") v = some r := by
  rw [decode_of_isText hnamed hbody]
  cases h.reading? (headers.text "content-type") v <;> simp

/-- A body that is no text at all is malformed. -/
theorem refuses_of_no_text {body : Bytes} (hbody : ∀ v, ¬ IsText body v) :
    h.Refuses headers body := by
  have hparse : parse? body = none :=
    Option.eq_none_iff_forall_ne_some.2 fun v hv => hbody v (parse?_eq_some_iff.1 hv)
  exact ⟨_, by rw [decode, headerName, if_pos ((isNamedBy_iff h _).2 hnamed), readBody?, hparse]⟩

/-- Behind a text, anything but blanks makes a body malformed. -/
theorem refuses_append {body tail : Bytes} {v : Value} (hbody : IsText body v)
    (htail : ∃ b ∈ tail, isBlank b = false) : h.Refuses headers (body ++ tail) := by
  obtain ⟨b, hb, hblank⟩ := htail
  by_cases htext : ∃ v', IsText (body ++ tail) v'
  · obtain ⟨v', hv'⟩ := htext
    by_cases hnumber : v = .number
    · obtain rfl := IsText.number_append (hnumber ▸ hbody) hv'
      exact refuses_of_reading? hnamed hv' rfl
    · have hblank' := hbody.blank_tail hnumber hv' b hb
      exact absurd (hblank.symm.trans hblank') (by simp)
  · exact refuses_of_no_text hnamed (not_exists.1 htext)

end Named

/-- **What is made of any body that is a text.**  If the header names the hook, an object is decoded
exactly if no field of the hook is given twice, each one that is given holds a text, and a payload
is written in base64; the request then says what the members hold, and anything else is malformed.
Two objects with the same members that the hook knows, in whatever order, are decoded alike.  An
array is decoded as the object that gives its items to the fields, if there are fields enough.  No
other text is decoded, nor one with anything but blanks behind it. -/
theorem decode_by_known_members (h : Hook) (headers : Http.Headers)
    (hnamed : h.name.toList <:+: (headers.text "vernemq-hook").toList) :
    (∀ (body : Bytes) (members : List (String × Value)), IsText body (object members) →
      ((∃ r, h.decode headers body = .ok r) ↔ h.Fits members) ∧
      (∀ r, h.decode headers body = .ok r →
        r.hook = h ∧ r.Says members (headers.text "content-type")) ∧
      (¬ h.Fits members → h.Refuses headers body)) ∧
    (∀ (body body' : Bytes) (members members' : List (String × Value)),
      IsText body (object members) → IsText body' (object members') →
      (h.known members).Perm (h.known members') →
      h.decode headers body = h.decode headers body') ∧
    (∀ (body : Bytes) (items : List Value), IsText body (.arr items) →
      (items.length ≤ h.fields.length →
        (∃ body', IsText body' (object (h.fields.zip items))) ∧
        ∀ body', IsText body' (object (h.fields.zip items)) →
          h.decode headers body = h.decode headers body') ∧
      (h.fields.length < items.length → h.Refuses headers body)) ∧
    (∀ (body : Bytes) (v : Value), IsText body v → (∀ members, v ≠ .obj members) →
      (∀ items, v ≠ .arr items) → h.Refuses headers body) ∧
    ∀ (body tail : Bytes) (v : Value), IsText body v → (∃ b ∈ tail, isBlank b = false) →
      h.Refuses headers (body ++ tail) := by
  refine ⟨fun body members hbody => ⟨?_, fun r hr => ?_, fun hfits => ?_⟩, ?_, ?_, ?_,
    fun body tail v hbody htail => refuses_append hnamed hbody htail⟩
  · simp only [decode_eq_ok_of_isText hnamed hbody]
    exact exists_reading?_iff
  · exact says_of_reading? ((decode_eq_ok_of_isText hnamed hbody).1 hr)
  · refine refuses_of_reading? hnamed hbody (Option.eq_none_iff_forall_ne_some.2 fun r hr => ?_)
    exact hfits (exists_reading?_iff.1 ⟨r, hr⟩)
  · intro body body' members members' hbody hbody' hknown
    rw [decode_of_isText hnamed hbody, decode_of_isText hnamed hbody',
      reading?_congr_known _ hknown]
  · intro body items hbody
    refine ⟨fun hlength => ⟨exists_isText _, fun body' hbody' => ?_⟩, fun hlength => ?_⟩
    · rw [decode_of_isText hnamed hbody, decode_of_isText hnamed hbody', reading?_arr h _ hlength]
    · refine refuses_of_reading? hnamed hbody ?_
      rw [reading?, texts?, if_neg (by omega)]
      rfl
  · intro body v hbody hobj harr
    refine refuses_of_reading? hnamed hbody ?_
    cases v with
    | obj members => exact absurd rfl (hobj members)
    | arr items => exact absurd rfl (harr items)
    | _ => rfl

/-- Header fields that name the hook of a registration. -/
def registering : Http.Headers := [("vernemq-hook", Utf8.encode "auth_on_register")]

/-- An array of one text, with blanks about it. -/
theorem isText_array_of_text :
    IsText (Utf8.encode " [\"p\"\n]") (.arr [.str (some "p")]) := by
  have hopen : Token.openBracket.Spelt [0x5B] := .mark (by decide)
  have hclose : Token.closeBracket.Spelt [0x5D] := .mark (by decide)
  have hend : Layout [.closeBracket] ([0x0A] ++ ([0x5D] ++ [])) :=
    .cons (List.forall_mem_singleton.2 (by decide)) hclose (.nil (List.forall_mem_nil _))
  exact @Layout.cons [0x20] _ _ _ _ (List.forall_mem_singleton.2 (by decide)) hopen
    (@Layout.cons [] _ _ _ _ (List.forall_mem_nil _) (.str (spells_quote "p")) hend)

/-- A member that the hook does not know makes no difference, and an array none either; a bracket
too many does. -/
theorem decode_by_known_members_register :
    let alone := Utf8.encode (record [("password", "p")])
    let among := Utf8.encode (record [("node", "n"), ("password", "p")])
    register.name.toList <:+: (registering.text "vernemq-hook").toList ∧
      (∃ r, register.decode registering alone = .ok r ∧ r.hook = .register ∧
        r.Says [("password", .str (some "p"))] "") ∧
      register.decode registering among = register.decode registering alone ∧
      register.decode registering (Utf8.encode " [\"p\"\n]") =
        register.decode registering alone ∧
      register.Refuses registering (alone ++ [0x7D]) := by
  intro alone among
  have hnamed : register.name.toList <:+: (registering.text "vernemq-hook").toList :=
    (isNamedBy_iff register _).1 (by decide +kernel)
  obtain ⟨hobject, hknown, harray, -, htail⟩ :=
    decode_by_known_members register registering hnamed
  have halone : IsText alone (object [("password", .str (some "p"))]) := isText_record_iff.2 rfl
  have hamong : IsText among (object [("node", .str (some "n")), ("password", .str (some "p"))]) :=
    isText_record_iff.2 rfl
  have hfits : register.Fits [("password", .str (some "p"))] :=
    ⟨by decide, by simp, by simp⟩
  have hmediaType : registering.text "content-type" = "" := by decide +kernel
  obtain ⟨hok, hsays, -⟩ := hobject alone _ halone
  obtain ⟨r, hr⟩ := hok.2 hfits
  refine ⟨hnamed, ⟨r, hr, hmediaType ▸ hsays r hr⟩, ?_, ?_, ?_⟩
  · refine hknown among alone _ _ hamong halone ?_
    simp [known, fields]
  · exact ((harray _ _ isText_array_of_text).1 (by decide)).2 alone halone
  · exact htail alone [0x7D] _ halone ⟨0x7D, by decide, by decide⟩

end Hook

end HookBridge
