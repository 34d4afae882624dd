/-
**Crashes of the mobile approval.**

A call can be stopped behind any of its operations.  A stored approval stays, whatever is stopped.  Every other
file is published whole, so that what is left is a store that every later call accepts, with one exception:
between the directory of a ceremony and the link of its record the directory has no record, and whoever lists
the ceremonies insists on one.

Main definitions:

* `MobileApproval.Works` — the signing inputs are there, and the library does what it documents;
* `MobileApproval.Good` — the stores whose ceremonies, credential and approval are accepted;
* `MobileApproval.Unfinished` — the operations between the directory of a ceremony and its record;
* `MobileApproval.Reached` — the stores that calls leave, when they end and when they are stopped.

Main results:

* `MobileApproval.checkPending_recordOf` — a new record is accepted;
* `MobileApproval.leaves_begin`, `MobileApproval.leaves_complete` — what is behind each operation of a call;
* `MobileApproval.approval_survives` — **no call is refused and no approval replaced, unless a call was stopped
  in front of the record of its ceremony**.
-/

import Wuchang.MobileApproval

set_option relaxedAutoImplicit false
set_option autoImplicit false

namespace PyJson

open Py

/-- What is read from a file is canonical, if its floats are finite. -/
theorem Loaded.json {v : PyVal} (h : Loaded v) (hfinite : allFinite v = true) : Json (fun _ => True) v := by
  induction h with
  | none => exact .none
  | bool b => exact .bool b
  | int n => exact .int n
  | float x => exact .float x (by simpa [allFinite] using hfinite)
  | str s => exact .str s
  | list xs _ ih =>
      rw [allFinite, allFiniteList_iff] at hfinite
      exact .list xs fun x hx => ih x hx (hfinite x hx)
  | dict items sorted keys _ ih =>
      rw [allFinite, allFiniteItems_iff] at hfinite
      exact .dict items sorted (fun p hp => (keys p hp).imp fun _ h => ⟨h.1, trivial⟩) fun p hp =>
        ih p hp (hfinite p hp)

theorem Loaded.plain {v : PyVal} (h : Loaded v) : Plain IsText v := by
  induction h with
  | none => exact .none
  | bool b => exact .bool b
  | int n => exact .int n
  | float x => exact .float x
  | str s h => exact .str s h
  | list xs _ ih => exact .list xs ih
  | dict items _ keys _ ih => exact .dict items keys ih

theorem Loaded.at {ε : Type} {v w : PyVal} {k : String} (h : Loaded v) (hat : v.at k = (.ok w : Except (Raise ε) PyVal)) :
    Loaded w := by
  cases h with
  | dict items _ _ hvals =>
      rw [PyVal.at] at hat
      cases hget : getItem items (cp k) with
      | none =>
          rw [hget] at hat
          cases hat
      | some u =>
          rw [hget] at hat
          obtain rfl := Except.ok.inj hat
          obtain ⟨p, hp, rfl⟩ := mem_of_getItem hget
          exact hvals p hp
  | _ => cases hat

/-- A dictionary literal is read back as it is, if its keys are in order. -/
theorem loaded_obj {l : List (String × PyVal)} (hsorted : keysSorted (l.map Prod.fst))
    (h : ∀ p ∈ l, Loaded p.2) : Loaded (obj l) := by
  refine .dict _ (sorted_fields.2 hsorted) ?_ ?_
  · rintro _ hq
    obtain ⟨p, -, rfl⟩ := List.mem_map.1 hq
    exact ⟨cp p.1, rfl, isText_cp _⟩
  · rintro _ hq
    obtain ⟨p, hp, rfl⟩ := List.mem_map.1 hq
    exact h p hp

end PyJson

namespace MobileApproval

open Py PyJson Interruptions

/-! ### Values in files -/

/-- The bytes of `canon`. -/
def bytesOf (v : PyVal) : Bytes := (write compact v).flatMap utf8Char

/-- A value that is written and read back. -/
structure Stored (v : PyVal) : Prop where
  loaded : Loaded v
  finite : allFinite v = true
  plain : Plain Encodable v

theorem Stored.canon {v : PyVal} (h : Stored v) : canon v = .ok (bytesOf v) := by
  rw [MobileApproval.canon, dumps, if_pos h.plain.serialisable, ok_bind, if_neg (not_not.2 h.finite),
    encodeUtf8_ok (h.plain.encodable_write (encodable_cp _) (encodable_cp _))]
  rfl

theorem stored_of_canon {v : PyVal} {raw : Bytes} (hloaded : Loaded v) (h : canon v = .ok raw) : Stored v := by
  obtain ⟨text, htext, h⟩ := bind_eq_ok_iff.1 h
  rw [dumps] at htext
  split_ifs at htext with hwritten
  split_ifs at h with hfinite
  obtain rfl := Except.ok.inj htext
  exact ⟨hloaded, hfinite, plain_of_encodable_write rfl hwritten (encodeUtf8_isOk_iff.1 h).1⟩

theorem stored_bool (b : Bool) : Stored (.bool b) := ⟨.bool b, rfl, .bool b⟩

theorem stored_str {s : PyStr} (h : ∀ c ∈ s, c < 128) : Stored (.str s) := by
  refine ⟨.str s fun c hc => (h c hc).trans (by norm_num), rfl, .str s fun c hc hs => ?_⟩
  have hlt := h c hc
  unfold IsSurrogate at hs
  omega

theorem stored_lit (s : String) : Stored (lit s) := ⟨.str _ (isText_cp s), rfl, plain_lit s⟩

theorem stored_obj {l : List (String × PyVal)} (hsorted : keysSorted (l.map Prod.fst))
    (h : ∀ p ∈ l, Stored p.2) : Stored (obj l) :=
  ⟨loaded_obj hsorted fun p hp => (h p hp).loaded, allFinite_obj.2 fun p hp => (h p hp).finite,
    plain_obj fun p hp => (h p hp).plain⟩

theorem loads_bytesOf {v : PyVal} (h : Stored v) (hdict : v.isDict = true) : loads (bytesOf v ++ [10]) = .ok v := by
  have hbytes : bytesOf v ++ [10] = (write compact v ++ [10]).flatMap utf8Char := by
    rw [bytesOf, List.flatMap_append]
    rfl
  have hends : Ends [10] := by
    intro c hc
    obtain rfl : 10 = c := by simpa using hc
    decide
  cases v with
  | dict items =>
      rw [loads, hbytes, loadsBytes_write simple_compact (readable_of_json (h.loaded.json h.finite)) h.loaded.plain hends rfl
        (by decide)]
  | _ => cases hdict

/-- **A file that is published is read back.** -/
theorem readFile_bytesOf {v : PyVal} (h : Stored v) (hdict : v.isDict = true)
    (hsize : (bytesOf v ++ [10]).length ≤ maxBytes) :
    readFile (some (bytesOf v ++ [10])) (fun _ => true) = .ok v := by
  rw [readFile, rawRead, require, if_pos (by simpa using hsize), ok_bind, require, if_pos rfl, ok_bind]
  change (loads _ >>= _) = _
  rw [loads_bytesOf h hdict, ok_bind, require, if_pos hdict]
  rfl

/-! ### The sizes of files -/

theorem length_utf8Char (c : ℕ) : (utf8Char c).length ≤ 4 := by
  unfold utf8Char
  split_ifs <;> simp

theorem length_escapeChar (c : ℕ) : (escapeChar c).length ≤ 6 := by
  unfold escapeChar
  split
  · simp [cp]
  · simp [cp]
  · simp [cp]
  · simp [cp]
  · simp [cp]
  · simp [cp]
  · simp [cp]
  · split_ifs with h
    · have hdigits : ∀ n < 16, (Nat.toDigits 16 n).length = 1 := by decide
      rw [List.length_append, List.length_map, List.length_append, hdigits _ (by omega),
        hdigits _ (Nat.mod_lt _ (by norm_num))]
      simp [cp]
    · simp

theorem length_flatMap_le {α β : Type} {f : α → List β} {n : ℕ} (h : ∀ a, (f a).length ≤ n) (l : List α) :
    (l.flatMap f).length ≤ n * l.length := by
  induction l with
  | nil => simp
  | cons a l ih =>
      have hhead := h a
      rw [List.flatMap_cons, List.length_append, List.length_cons, Nat.mul_succ]
      omega

theorem length_write_str (s : PyStr) : (write compact (.str s)).length ≤ 6 * s.length + 2 := by
  have h := length_flatMap_le length_escapeChar s
  change (quote s).length ≤ _
  rw [quote, List.length_append, List.length_append]
  change 1 + _ + 1 ≤ _
  omega

/-- The length of the keys of a dictionary, and of what stands around them. -/
def keysLength (ks : List String) : ℕ := (ks.map fun k => 6 * (cp k).length + 4).sum

/-- A dictionary is as long as its keys and its values. -/
theorem length_write_obj {l : List (String × PyVal)} {n : ℕ} {bounds : List ℕ} (hn : keysLength (l.map Prod.fst) ≤ n)
    (hvals : List.Forall₂ (fun p m => (write compact p.2).length ≤ m) l bounds) :
    (write compact (obj l)).length ≤ 2 + n + bounds.sum := by
  have hkey : ∀ k : String, (writeKey compact (key k)).length ≤ 6 * (cp k).length + 2 := fun k =>
    length_write_str (cp k)
  have htail : ∀ {l : List (String × PyVal)} {bounds : List ℕ},
      List.Forall₂ (fun p m => (write compact p.2).length ≤ m) l bounds →
        (writeItems compact (fields l)).length ≤ keysLength (l.map Prod.fst) + bounds.sum := by
    intro l bounds hvals
    induction hvals with
    | nil => simp [fields, writeItems]
    | @cons p m l bounds hval _ ih =>
        have h := hkey p.1
        rw [fields, List.map_cons, writeItems, List.map_cons, List.sum_cons, keysLength, List.map_cons, List.sum_cons]
        simp only [List.length_append] at h ih ⊢
        change 1 + _ + 1 + _ + (writeItems _ (fields l)).length ≤ _ + keysLength _ + _
        omega
  refine le_trans ?_ (Nat.add_le_add_right (Nat.add_le_add_left hn 2) _)
  cases hvals with
  | nil => simp [obj, fields, write, cp]
  | @cons p m l bounds hval hvals =>
      have h := hkey p.1
      have hl := htail hvals
      rw [obj, fields, List.map_cons, write, List.map_cons, List.sum_cons, keysLength, List.map_cons, List.sum_cons]
      simp only [List.length_append] at h hl ⊢
      change 1 + _ + 1 + _ + (writeItems _ (fields l)).length + 1 ≤ 2 + (_ + keysLength _) + _
      omega

/-- The keys of a payload and of a record are sorted, and what is the same in all records is short. -/
theorem keys_sorted : keysSorted payloadFields ∧ keysSorted ["ceremony_id", "options", "public_credential_b64url",
    "schema", "signed_payload", "webauthn_state"] ∧ keysLength payloadFields ≤ 1000 ∧
    keysLength ["ceremony_id", "options", "public_credential_b64url", "schema", "signed_payload",
      "webauthn_state"] ≤ 1000 ∧ (write compact bindings).length ≤ 4096 ∧
    (write compact (lit (domain ++ "/PENDING"))).length ≤ 1000 := by
  simp only [keysSorted, keysLength, payloadFields, List.map, bindings, obj, fields, key, lit, cp_eq_codes]
  decide +kernel

/-! ### What is relied on -/

/-- A file with a key of the phone. -/
structure IsCredential (setting : Setting) (raw : Bytes) (encoded : PyStr) (key : Bytes) : Prop where
  size : raw.length ≤ maxBytes
  accepted : setting.isCredential raw = true
  record : ∃ record, loads raw = .ok record ∧ record.isDict = true ∧
    record.at "credential_data_b64url" = (.ok (.str encoded) : Except Fault PyVal)
  length : encoded.length ≤ 1024
  key : keyFromPublic setting (.str encoded) = .ok key

/-- The options and the state of a ceremony that the library begins. -/
structure IsBegun (challenge : Bytes) (options state : PyVal) : Prop where
  storedOptions : Stored options
  storedState : Stored state
  challenge : state.get "challenge" = .str (b64 challenge)
  verification : state.get "user_verification" = lit "required"
  size : (write compact options).length ≤ 4096 ∧ (write compact state).length ≤ 4096

/-- The times that a `datetime` holds, in microseconds. -/
def IsTime (t : ℤ) : Prop := -62135596800000000 ≤ t ∧ t ≤ 253402300799999999

/-- A time of the clock; the window of a ceremony that begins then has an end. -/
def IsMoment (now : ℤ) : Prop := IsTime now ∧ IsTime (now + 900000000)

/-- The signing inputs are there, and what is used of the library and of times is as documented. -/
structure Works (setting : Setting) : Prop where
  fixedFiles : ∀ file ∈ setting.fixedFiles, ∃ raw, file = .ok raw
  credential : ∃ raw encoded key, setting.credFile = .ok raw ∧ IsCredential setting raw encoded key
  authenticateBegin : ∀ key challenge, challenge.length = 32 → ∃ options state,
    setting.authenticateBegin key challenge = .ok (options, state) ∧ IsBegun challenge options state
  fromisoformat : ∀ t, IsTime t → setting.fromisoformat (setting.isoformat t) = some (some t)
  isoformat : ∀ t, IsTime t → (∀ c ∈ setting.isoformat t, c < 128 ∧ c ≠ 90) ∧ (setting.isoformat t).length ≤ 64

/-! ### A new record is accepted -/

theorem require_ok {condition : Bool} {reason : String} (h : condition = true) : require condition reason = .ok () :=
  if_pos h

theorem require_eq_ok_iff {condition : Bool} {reason : String} {u : Unit} :
    require condition reason = .ok u ↔ condition = true := by
  unfold require
  split_ifs with h
  · exact iff_of_true rfl h
  · exact iff_of_false (by simp) h

theorem replaceZ_eq {s : PyStr} (h : ∀ c ∈ s, c ≠ 90) : replaceZ s = s := by
  induction s with
  | nil => rfl
  | cons c s ih =>
      rw [List.forall_mem_cons] at h
      rw [replaceZ, List.flatMap_cons, if_neg h.1]
      exact congrArg _ (ih h.2)

section Works

variable {setting : Setting} (hworks : Works setting)

include hworks

theorem Works.instant {t : ℤ} (ht : IsTime t) : instant setting (.str (setting.isoformat t)) = .ok t := by
  rw [MobileApproval.instant, replaceZ_eq fun c hc => ((hworks.isoformat t ht).1 c hc).2, hworks.fromisoformat t ht]

theorem Works.stored_isoformat {t : ℤ} (ht : IsTime t) : Stored (.str (setting.isoformat t)) :=
  stored_str fun c hc => ((hworks.isoformat t ht).1 c hc).1

end Works

theorem readB64_b64 {raw : Bytes} (hne : raw ≠ []) (hsize : (b64 raw).length ≤ maxBytes) :
    readB64 (.str (b64 raw)) = .ok raw := by
  have hchars : b64 raw ≠ [] := by
    intro h
    have hraw := unb64_b64 raw
    rw [h, unb64, Option.some.injEq] at hraw
    exact hne hraw.symm
  rw [readB64, require_ok, ok_bind, unb64_b64]
  · rfl
  · rw [Bool.and_eq_true, Bool.and_eq_true, List.all_eq_true]
    exact ⟨⟨decide_eq_true hsize, decide_eq_true hchars⟩, isUrlChar_b64 raw⟩

theorem length_b64_le (raw : Bytes) : (b64 raw).length ≤ 2 * raw.length := by
  induction raw using b64.induct with
  | case1 => simp [b64]
  | case2 a => simp [b64]
  | case3 a b => simp [b64]
  | case4 a b c rest ih =>
      simp only [b64, List.length_cons] at ih ⊢
      omega

theorem stored_bindings : Stored bindings := by
  refine stored_obj (by simp only [keysSorted, List.map, key, cp_eq_codes]; decide +kernel) ?_
  simp only [List.forall_mem_cons, List.not_mem_nil, false_implies, implies_true, and_true]
  refine ⟨stored_lit _, stored_lit _, stored_lit _, stored_lit _, ?_, stored_bool _, ?_, stored_lit _, stored_lit _,
    stored_bool _, stored_bool _, stored_bool _, stored_lit _, stored_bool _, stored_lit _, stored_lit _⟩
  · refine stored_obj (by simp only [keysSorted, List.map, key, cp_eq_codes]; decide +kernel) ?_
    simp only [List.forall_mem_cons, List.not_mem_nil, false_implies, implies_true, and_true]
    exact ⟨stored_lit _, stored_lit _⟩
  · refine stored_obj (by simp only [keysSorted, List.map, key, cp_eq_codes]; decide +kernel) ?_
    simp only [List.forall_mem_cons, List.not_mem_nil, false_implies, implies_true, and_true]
    exact ⟨stored_lit _, stored_lit _, stored_lit _⟩

theorem stored_hexdigest (msg : Bytes) : Stored (.str (Sha256.hexdigest msg)) := by
  refine stored_str fun c hc => ?_
  have h := Sha256.isHex64_hexdigest msg
  rw [Sha256.isHex64, Bool.and_eq_true, List.all_eq_true] at h
  have hhex := h.2 c hc
  simp only [Bool.or_eq_true, Bool.and_eq_true, decide_eq_true_eq] at hhex
  omega

theorem stored_ceremonyId {s : PyStr} (h : isCeremonyId s = true) : Stored (.str s) := by
  refine stored_str fun c hc => ?_
  rw [isCeremonyId, Bool.and_eq_true, List.all_eq_true] at h
  have hhex := h.2 c hc
  simp only [Bool.or_eq_true, Bool.and_eq_true, decide_eq_true_eq] at hhex
  omega

theorem stored_b64 (raw : Bytes) : Stored (.str (b64 raw)) :=
  stored_str fun c hc => isUrlChar_lt (isUrlChar_b64 raw c hc)

/-- What is read from Base64 is written in its characters. -/
theorem stored_of_readB64 {s : PyStr} {raw : Bytes} (h : readB64 (.str s) = .ok raw) : Stored (.str s) := by
  rw [readB64] at h
  obtain ⟨u, hrequire, -⟩ := bind_eq_ok_iff.1 h
  rw [require_eq_ok_iff, Bool.and_eq_true, List.all_eq_true] at hrequire
  exact stored_str fun c hc => isUrlChar_lt (hrequire.2 c hc)

/-- What `check_pending` asks for. -/
theorem checkPending_ok {setting : Setting} {record payload state : PyVal} {id nonceText encoded : PyStr}
    {nonce data challenge : Bytes} {issuedText expiresText : PyStr} {issued expires : ℤ}
    (hrecord : record.isDict = true) (hschema : record.get "schema" = lit (domain ++ "/PENDING"))
    (hsigned : record.at "signed_payload" = (.ok payload : Except Fault PyVal)) (hpayload : payload.isDict = true)
    (hbound : payload.get "bindings" = bindings) (hfields : hasFields payload payloadFields = true)
    (hid : payload.at "ceremony_id" = (.ok (.str id) : Except Fault PyVal)) (hisId : isCeremonyId id = true)
    (hrecordId : record.at "ceremony_id" = (.ok (.str id) : Except Fault PyVal))
    (hnonceText : payload.at "nonce" = (.ok (.str nonceText) : Except Fault PyVal))
    (hnonce : readB64 (.str nonceText) = .ok nonce) (hlength : nonce.length = 32)
    (hsingle : payload.get "single_use" = .bool true)
    (htransport : payload.get "transport_delay_requires_new_signature" = .bool false)
    (hexpiresText : payload.at "expires_at" = (.ok (.str expiresText) : Except Fault PyVal))
    (hexpires : instant setting (.str expiresText) = .ok expires)
    (hissuedText : payload.at "issued_at" = (.ok (.str issuedText) : Except Fault PyVal))
    (hissued : instant setting (.str issuedText) = .ok issued) (hlifetime : 0 < expires - issued ∧
      expires - issued ≤ 900000000)
    (hencoded : record.at "public_credential_b64url" = (.ok (.str encoded) : Except Fault PyVal))
    (hdata : readB64 (.str encoded) = .ok data)
    (hsha : payload.at "public_credential_sha256" = (.ok (.str (Sha256.hexdigest data)) : Except Fault PyVal))
    (hchallenge : challengeOf payload = .ok challenge)
    (hstateAt : record.at "webauthn_state" = (.ok state : Except Fault PyVal)) (hstate : state.isDict = true)
    (hstateChallenge : state.get "challenge" = .str (b64 challenge))
    (hverification : state.get "user_verification" = lit "required") :
    checkPending setting record = .ok payload := by
  have hbindings : bindings.eq bindings = true := (stored_bindings.loaded.json stored_bindings.finite).eq_refl
  have hpolicy : (decide (nonce.length = 32) && isBool (payload.get "single_use") true &&
      isBool (payload.get "transport_delay_requires_new_signature") false) = true := by
    rw [hsingle, htransport, decide_eq_true hlength]
    rfl
  have hwindow : (decide (0 < expires - issued) && decide (expires - issued ≤ 900000000)) = true := by
    rw [decide_eq_true hlifetime.1, decide_eq_true hlifetime.2]
    rfl
  have hchecked : ((state.get "challenge").eq (.str (b64 challenge)) &&
      (state.get "user_verification").eq (lit "required")) = true := by
    rw [Bool.and_eq_true]
    exact ⟨PyVal.eq_str.2 hstateChallenge, PyVal.eq_lit.2 hverification⟩
  rw [checkPending, getField, if_pos hrecord, ok_bind, require_ok (PyVal.eq_lit.2 hschema), ok_bind, hsigned, ok_bind,
    getField, if_pos hpayload, ok_bind, hbound, require_ok hbindings, ok_bind, require_ok hfields, ok_bind, hid, ok_bind,
    matchesId, ok_bind, require_ok hisId, ok_bind, hrecordId, ok_bind, require_ok (PyVal.eq_str.2 rfl), ok_bind,
    hnonceText, ok_bind, hnonce, ok_bind, require_ok hpolicy, ok_bind, hexpiresText, ok_bind, hexpires, ok_bind,
    hissuedText, ok_bind, hissued, ok_bind, require_ok hwindow, ok_bind, hencoded, ok_bind, hdata, ok_bind, hsha, ok_bind,
    require_ok (PyVal.eq_str.2 rfl), ok_bind, hchallenge, ok_bind, hstateAt, ok_bind, getField, if_pos hstate, ok_bind,
    require_ok hchecked]
  rfl

section Record

variable {setting : Setting} (hworks : Works setting) {now : ℤ} (hnow : IsMoment now) (draws : Draws)
  (msg : Bytes)

include hworks hnow

theorem stored_payloadOf : Stored (payloadOf setting now draws (Sha256.hexdigest msg)) := by
  refine stored_obj keys_sorted.1 ?_
  simp only [List.forall_mem_cons, List.not_mem_nil, false_implies, implies_true, and_true]
  exact ⟨stored_bindings, stored_ceremonyId draws.isId, hworks.stored_isoformat hnow.2,
    hworks.stored_isoformat hnow.1, stored_b64 _, stored_hexdigest msg, stored_bool _, stored_bool _⟩

variable {encoded : PyStr} {challenge data : Bytes} {options state : PyVal}

theorem stored_recordOf (hdata : readB64 (.str encoded) = .ok data) (hbegun : IsBegun challenge options state) :
    Stored (recordOf draws (payloadOf setting now draws (Sha256.hexdigest msg)) (.str encoded) options state) := by
  refine stored_obj keys_sorted.2.1 ?_
  simp only [List.forall_mem_cons, List.not_mem_nil, false_implies, implies_true, and_true]
  exact ⟨stored_ceremonyId draws.isId, hbegun.storedOptions, stored_of_readB64 hdata, stored_lit _,
    stored_payloadOf hworks hnow draws msg, hbegun.storedState⟩

theorem length_write_payloadOf :
    (write compact (payloadOf setting now draws (Sha256.hexdigest msg))).length ≤ 8192 := by
  have hkeys : keysLength payloadFields ≤ 1000 := keys_sorted.2.2.1
  have hid := draws.isId
  rw [isCeremonyId, Bool.and_eq_true, decide_eq_true_eq] at hid
  have hsha := Sha256.isHex64_hexdigest msg
  rw [Sha256.isHex64, Bool.and_eq_true, decide_eq_true_eq] at hsha
  have hnonce : (b64 draws.nonce).length ≤ 64 := by
    have hb64 := length_b64_le draws.nonce
    rwa [draws.length_nonce] at hb64
  have hissued := (hworks.isoformat now hnow.1).2
  have hexpires := (hworks.isoformat _ hnow.2).2
  have htext : ∀ {s : PyStr} {n : ℕ}, s.length ≤ n → (write compact (.str s)).length ≤ 6 * n + 2 := fun h =>
    (length_write_str _).trans (by omega)
  have hbool : ∀ b, (write compact (.bool b)).length ≤ 5 := by decide
  refine le_trans (length_write_obj hkeys (.cons keys_sorted.2.2.2.2.1 (.cons (htext hid.1.le) (.cons (htext hexpires)
    (.cons (htext hissued) (.cons (htext hnonce) (.cons (htext hsha.1.le) (.cons (hbool true)
      (.cons (hbool false) .nil))))))))) ?_
  simp

/-- A record fits into a file. -/
theorem length_recordOf (hencoded : encoded.length ≤ 1024) (hbegun : IsBegun challenge options state) :
    (bytesOf (recordOf draws (payloadOf setting now draws (Sha256.hexdigest msg)) (.str encoded) options
      state) ++ [10]).length ≤ maxBytes := by
  have hkeys : keysLength ["ceremony_id", "options", "public_credential_b64url", "schema", "signed_payload",
      "webauthn_state"] ≤ 1000 := keys_sorted.2.2.2.1
  have hid := draws.isId
  rw [isCeremonyId, Bool.and_eq_true, decide_eq_true_eq] at hid
  have hschema : (write compact (lit (domain ++ "/PENDING"))).length ≤ 1000 := keys_sorted.2.2.2.2.2
  have htext : ∀ {s : PyStr} {n : ℕ}, s.length ≤ n → (write compact (.str s)).length ≤ 6 * n + 2 := fun h =>
    (length_write_str _).trans (by omega)
  have hrecord : (write compact (recordOf draws (payloadOf setting now draws (Sha256.hexdigest msg)) (.str encoded)
      options state)).length ≤ 30000 := by
    refine le_trans (length_write_obj hkeys (.cons (htext hid.1.le) (.cons hbegun.size.1 (.cons (htext hencoded)
      (.cons hschema (.cons (length_write_payloadOf hworks hnow draws msg) (.cons hbegun.size.2 .nil))))))) ?_
    simp
  have hbytes := length_flatMap_le length_utf8Char (write compact (recordOf draws
    (payloadOf setting now draws (Sha256.hexdigest msg)) (.str encoded) options state))
  rw [List.length_append, List.length_singleton, bytesOf, maxBytes]
  omega

/-- **A new record is accepted.** -/
theorem checkPending_recordOf {challenge : Bytes} (hdata : readB64 (.str encoded) = .ok data)
    (hchallenge : challengeOf (payloadOf setting now draws (Sha256.hexdigest data)) = .ok challenge)
    (hbegun : IsBegun challenge options state) :
    checkPending setting (recordOf draws (payloadOf setting now draws (Sha256.hexdigest data)) (.str encoded) options
      state) = .ok (payloadOf setting now draws (Sha256.hexdigest data)) := by
  have hnonce : readB64 (.str (b64 draws.nonce)) = .ok draws.nonce := by
    have hlength := draws.length_nonce
    refine readB64_b64 (fun h => ?_) ?_
    · rw [h] at hlength
      cases hlength
    · have := length_b64_le draws.nonce
      rw [maxBytes]
      omega
  have hstate : state.isDict = true := by
    have h := hbegun.challenge
    cases state with
    | dict items => rfl
    | _ => cases h
  exact checkPending_ok rfl (by simp [recordOf]) (by simp [recordOf, at_obj]) rfl (by simp [payloadOf])
    (by simp [hasFields, payloadOf, payloadFields, obj]) (by simp [payloadOf, at_obj]) draws.isId
    (by simp [recordOf, at_obj]) (by simp [payloadOf, at_obj]) hnonce draws.length_nonce (by simp [payloadOf])
    (by simp [payloadOf]) (by simp [payloadOf, at_obj]) (hworks.instant hnow.2) (by simp [payloadOf, at_obj])
    (hworks.instant hnow.1) (by omega) (by simp [recordOf, at_obj]) hdata (by simp [payloadOf, at_obj]) hchallenge
    (by simp [recordOf, at_obj]) hstate hbegun.challenge hbegun.verification

end Record

/-! ### Stores that are accepted -/

/-- The record of a ceremony that is accepted, and that can be offered again. -/
structure IsRecord (setting : Setting) (record : PyVal) : Prop where
  checked : ∃ payload, checkPending setting record = .ok payload
  options : ∃ options, record.at "options" = (.ok options : Except Fault PyVal)

/-- The file of a record. -/
def IsRecordFile (setting : Setting) (file : Option Bytes) : Prop :=
  ∃ record, readFile file (fun _ => true) = .ok record ∧ IsRecord setting record

/-- The file of an approval. -/
def IsApprovalFile (setting : Setting) (raw : Bytes) : Prop :=
  ∃ proof answer, readFile (some raw) (fun _ => true) = .ok proof ∧ verifyProof setting proof = .ok answer

/-- A store is accepted, apart from a ceremony without a record. -/
structure Good (setting : Setting) (unfinished : Option PyStr) (s : Store) : Prop where
  names : (s.entries.map Prod.fst).Nodup
  entries : ∀ p ∈ s.entries, isCeremonyId p.1 = true ∧
    (IsRecordFile setting p.2.pending ∨ unfinished = some p.1 ∧ p.2.pending = none)
  credential : ∀ raw, s.publicCredential = some raw → setting.credFile = .ok raw
  evidence : ∀ raw, s.evidence = some raw → IsApprovalFile setting raw

/-- What is used of a record that is accepted. -/
theorem of_checkPending {setting : Setting} {record payload : PyVal} (h : checkPending setting record = .ok payload) :
    record.at "signed_payload" = (.ok payload : Except Fault PyVal) ∧
    (∃ id, record.at "ceremony_id" = (.ok id : Except Fault PyVal)) ∧
    (∃ text t, payload.at "issued_at" = (.ok text : Except Fault PyVal) ∧ instant setting text = .ok t) ∧
    ∃ text t, payload.at "expires_at" = (.ok text : Except Fault PyVal) ∧ instant setting text = .ok t := by
  obtain ⟨schema, -, h⟩ := bind_eq_ok_iff.1 h
  obtain ⟨u1, -, h⟩ := bind_eq_ok_iff.1 h
  obtain ⟨signed, hsigned, h⟩ := bind_eq_ok_iff.1 h
  obtain ⟨bound, -, h⟩ := bind_eq_ok_iff.1 h
  obtain ⟨u2, -, h⟩ := bind_eq_ok_iff.1 h
  obtain ⟨u3, -, h⟩ := bind_eq_ok_iff.1 h
  obtain ⟨id, -, h⟩ := bind_eq_ok_iff.1 h
  obtain ⟨matching, -, h⟩ := bind_eq_ok_iff.1 h
  obtain ⟨u4, -, h⟩ := bind_eq_ok_iff.1 h
  obtain ⟨pendingId, hid, h⟩ := bind_eq_ok_iff.1 h
  obtain ⟨u5, -, h⟩ := bind_eq_ok_iff.1 h
  obtain ⟨nonceText, -, h⟩ := bind_eq_ok_iff.1 h
  obtain ⟨nonce, -, h⟩ := bind_eq_ok_iff.1 h
  obtain ⟨u6, -, h⟩ := bind_eq_ok_iff.1 h
  obtain ⟨expiresText, hexpiresText, h⟩ := bind_eq_ok_iff.1 h
  obtain ⟨expires, hexpires, h⟩ := bind_eq_ok_iff.1 h
  obtain ⟨issuedText, hissuedText, h⟩ := bind_eq_ok_iff.1 h
  obtain ⟨issued, hissued, h⟩ := bind_eq_ok_iff.1 h
  obtain ⟨u7, -, h⟩ := bind_eq_ok_iff.1 h
  obtain ⟨encoded, -, h⟩ := bind_eq_ok_iff.1 h
  obtain ⟨data, -, h⟩ := bind_eq_ok_iff.1 h
  obtain ⟨sha, -, h⟩ := bind_eq_ok_iff.1 h
  obtain ⟨u8, -, h⟩ := bind_eq_ok_iff.1 h
  obtain ⟨challenge, -, h⟩ := bind_eq_ok_iff.1 h
  obtain ⟨state, -, h⟩ := bind_eq_ok_iff.1 h
  obtain ⟨stateChallenge, -, h⟩ := bind_eq_ok_iff.1 h
  obtain ⟨u9, -, h⟩ := bind_eq_ok_iff.1 h
  obtain rfl := pure_eq_ok_iff.1 h
  exact ⟨hsigned, ⟨pendingId, hid⟩, ⟨issuedText, issued, hissuedText, hissued⟩, expiresText, expires, hexpiresText,
    hexpires⟩

section Entries

variable {s : Store} {ceremonyId : PyStr} {f : Ceremony → Ceremony}

theorem entries_update : (s.update ceremonyId f).entries =
    s.entries.map fun p => if p.1 = ceremonyId then (p.1, f p.2) else p := by
  unfold Store.entries Store.update
  cases s.ceremonies <;> rfl

theorem names_update : (s.update ceremonyId f).entries.map Prod.fst = s.entries.map Prod.fst := by
  rw [entries_update, List.map_map]
  refine List.map_congr_left fun p _ => ?_
  rw [Function.comp_apply]
  split_ifs <;> rfl

theorem lookup_of_mem {entries : List (PyStr × Ceremony)} (hnodup : (entries.map Prod.fst).Nodup)
    {p : PyStr × Ceremony} (hp : p ∈ entries) : entries.lookup p.1 = some p.2 := by
  obtain ⟨before, after, rfl⟩ := List.mem_iff_append.1 hp
  refine List.lookup_eq_some_iff.2 ⟨before, after, rfl, fun q hq => bne_iff_ne.2 fun heq => ?_⟩
  rw [List.map_append, List.map_cons, List.nodup_append'] at hnodup
  refine hnodup.2.2 (List.mem_map_of_mem hq) ?_
  rw [← heq]
  exact List.mem_cons_self

theorem lookup_update : (s.update ceremonyId f).entries.lookup ceremonyId = (s.entries.lookup ceremonyId).map f := by
  rw [entries_update]
  induction s.entries with
  | nil => rfl
  | cons p entries ih =>
      rw [List.map_cons]
      by_cases heq : p.1 = ceremonyId
      · subst heq
        rw [if_pos rfl, List.lookup_cons_self, List.lookup_cons_self]
        rfl
      · rw [if_neg heq, List.lookup_cons, List.lookup_cons, beq_false_of_ne (Ne.symm heq)]
        exact ih

end Entries

section Targets

variable {s : Store} {target : Target}

theorem temporariesOf_setTemporaries (f : List PyStr → List PyStr) :
    (s.setTemporaries f target).temporariesOf target = (s.temporariesOf target).map f := by
  cases target with
  | publicCredential =>
      change (if s.made then some (f s.temporaries) else none) = (if s.made then some s.temporaries else none).map f
      split_ifs <;> rfl
  | evidence =>
      change (if s.made then some (f s.temporaries) else none) = (if s.made then some s.temporaries else none).map f
      split_ifs <;> rfl
  | pending ceremonyId =>
      rw [Store.setTemporaries, Store.temporariesOf, Store.temporariesOf, lookup_update]
      cases s.entries.lookup ceremonyId <;> rfl

end Targets

section Good

variable {setting : Setting} {unfinished : Option PyStr} {s : Store} {ceremonyId : PyStr} {raw : Bytes}

theorem good_emptyStore : Good setting none emptyStore := by
  refine ⟨List.nodup_nil, fun p hp => absurd hp List.not_mem_nil, fun raw h => ?_, fun raw h => ?_⟩
  · cases h
  · cases h

/-- The names of temporary files do not matter. -/
theorem Good.setTemporaries (h : Good setting unfinished s) (f : List PyStr → List PyStr) (target : Target) :
    Good setting unfinished (s.setTemporaries f target) := by
  cases target with
  | publicCredential => exact ⟨h.names, h.entries, h.credential, h.evidence⟩
  | evidence => exact ⟨h.names, h.entries, h.credential, h.evidence⟩
  | pending ceremonyId =>
      refine ⟨?_, fun p hp => ?_, h.credential, h.evidence⟩
      · rw [Store.setTemporaries, names_update]
        exact h.names
      · rw [Store.setTemporaries, entries_update] at hp
        obtain ⟨q, hq, rfl⟩ := List.mem_map.1 hp
        have hgood := h.entries q hq
        split_ifs with heq
        · exact hgood
        · exact hgood

/-- A new ceremony has no record yet. -/
theorem Good.makeCeremony (h : Good setting none s) (hid : isCeremonyId ceremonyId = true) :
    Good setting (some ceremonyId) (s.makeCeremony ceremonyId) := by
  have hold : ∀ p ∈ s.entries, isCeremonyId p.1 = true ∧
      (IsRecordFile setting p.2.pending ∨ some ceremonyId = some p.1 ∧ p.2.pending = none) := by
    intro p hp
    obtain ⟨hname, hrecord | ⟨hnone, -⟩⟩ := h.entries p hp
    · exact ⟨hname, .inl hrecord⟩
    · cases hnone
  have hentries : (s.makeCeremony ceremonyId).entries = if ceremonyId ∈ s.entries.map Prod.fst then s.entries
      else s.entries ++ [(ceremonyId, ⟨none, []⟩)] := rfl
  refine ⟨?_, ?_, h.credential, h.evidence⟩
  · rw [hentries]
    split_ifs with hmem
    · exact h.names
    · rw [List.map_append, List.map_singleton]
      exact List.nodup_append'.2 ⟨h.names, List.nodup_singleton _, by simpa using hmem⟩
  · rw [hentries]
    split_ifs with hmem
    · exact hold
    · intro p hp
      rcases List.mem_append.1 hp with hp | hp
      · exact hold p hp
      · obtain rfl := List.mem_singleton.1 hp
        exact ⟨hid, .inr ⟨rfl, rfl⟩⟩

/-- A record that is published finishes its ceremony. -/
theorem Good.publish_pending (h : Good setting (some ceremonyId) s) (hrecord : IsRecordFile setting (some raw)) :
    Good setting none (s.publish raw (.pending ceremonyId)) := by
  refine ⟨?_, fun p hp => ?_, h.credential, h.evidence⟩
  · rw [Store.publish, names_update]
    exact h.names
  · rw [Store.publish, entries_update] at hp
    obtain ⟨q, hq, rfl⟩ := List.mem_map.1 hp
    obtain ⟨hname, hgood⟩ := h.entries q hq
    split_ifs with heq
    · exact ⟨hname, .inl hrecord⟩
    · refine ⟨hname, .inl (hgood.resolve_right ?_)⟩
      rintro ⟨hsome, -⟩
      exact heq (Option.some.inj hsome).symm

/-- A ceremony with a record is finished. -/
theorem Good.of_content (h : Good setting (some ceremonyId) s) (hcontent : s.content (.pending ceremonyId) = some raw) :
    Good setting none s := by
  refine ⟨h.names, fun p hp => ?_, h.credential, h.evidence⟩
  obtain ⟨hname, hgood⟩ := h.entries p hp
  refine ⟨hname, .inl (hgood.resolve_right ?_)⟩
  rintro ⟨hsome, hnone⟩
  obtain rfl := Option.some.inj hsome
  rw [Store.content, lookup_of_mem h.names hp, Option.bind_some, hnone] at hcontent
  cases hcontent

end Good

/-! ### What is left of a publication -/

/-- The operations between the directory of a ceremony and the link of its record. -/
def Unfinished : Op → Prop
  | .makeParent (.pending _) => True
  | .openTemporary (.pending _) _ => True
  | .write (.pending _) _ => True
  | _ => False

/-- What is behind an operation. -/
def Left (setting : Setting) (op : Op) (s : Store) : Prop := Unfinished op ∨ Good setting none s

section Publication

variable {setting : Setting} {s : Store} {raw : Bytes} {name : PyStr}

/-- A temporary file is opened. -/
theorem of_openTemporary {target : Target} {s' : Store} (h : apply (.openTemporary target name) s = some s') :
    s' = s.setTemporaries (· ++ [name]) target ∧ ∃ names, s'.temporariesOf target = some names ∧ name ∈ names := by
  rw [apply] at h
  cases hnames : s.temporariesOf target with
  | none =>
      rw [hnames] at h
      cases h
  | some names =>
      rw [hnames] at h
      dsimp only at h
      split_ifs at h with hmem
      obtain rfl := Option.some.inj h
      refine ⟨rfl, names ++ [name], ?_, by simp⟩
      rw [temporariesOf_setTemporaries, hnames]
      rfl

/-- A link publishes a file that is not there. -/
theorem of_link {target : Target} {s' : Store} (h : apply (.link target name raw) s = some s') :
    s' = s.publish raw target ∧ s.content target = none := by
  rw [apply] at h
  cases hnames : s.temporariesOf target with
  | none =>
      rw [hnames] at h
      cases h
  | some names =>
      cases hcontent : s.content target with
      | some old =>
          rw [hnames, hcontent] at h
          cases h
      | none =>
          rw [hnames, hcontent] at h
          dsimp only at h
          split_ifs at h
          exact ⟨(Option.some.inj h).symm, rfl⟩

/-- What is left while the record of a ceremony is published. -/
theorem leaves_persist_pending {ceremonyId : PyStr} (h : Good setting none s) (hid : isCeremonyId ceremonyId = true)
    (hraw : raw.length ≤ maxBytes → IsRecordFile setting (some raw)) :
    Leaves (Left setting) (fun _ _ => True) (persistBytesNew (.pending ceremonyId) raw name) s := by
  refine Leaves.bind (R := fun _ s' => Good setting (some ceremonyId) s')
    (leaves_perform (fun s' hs' => ?_) fun hnone => by cases hnone) (fun _ _ _ => trivial) fun _ s1 hs1 => ?_
  · obtain rfl := Option.some.inj hs'
    exact ⟨.inl trivial, h.makeCeremony hid⟩
  refine leaves_check_bind (fun _ _ => trivial) fun _ hsize => ?_
  have hfile := hraw (of_decide_eq_true (require_eq_ok_iff.1 hsize))
  refine Leaves.bind (R := fun r s' => r = .ok () → Good setting (some ceremonyId) s' ∧
    ∃ names, s'.temporariesOf (.pending ceremonyId) = some names ∧ name ∈ names)
    (leaves_perform (fun s' hs' => ?_) fun _ => fun heq => by cases heq) (fun _ _ _ => trivial) fun _ s2 hs2 => ?_
  · obtain ⟨rfl, hnames⟩ := of_openTemporary hs'
    exact ⟨.inl trivial, fun _ => ⟨hs1.setTemporaries _ _, hnames⟩⟩
  obtain ⟨hgood, names, hnames, hname⟩ := hs2 rfl
  refine Leaves.ensure (R := fun _ s' => Good setting none s') ?_ fun _ s3 hs3 => ?_
  · refine Leaves.bind (R := fun r s' => r = .ok () ∧ s' = s2)
      (leaves_perform (fun s' hs' => ?_) fun hnone => by cases hnone) (fun _ _ herror => by cases herror.1) ?_
    · obtain rfl := Option.some.inj hs'
      exact ⟨.inl trivial, rfl, rfl⟩
    rintro _ s' ⟨-, rfl⟩
    refine leaves_perform (fun s3 hs3 => ?_) fun hnone => ?_
    · obtain ⟨rfl, -⟩ := of_link hs3
      exact ⟨.inr (hgood.publish_pending hfile), hgood.publish_pending hfile⟩
    · cases hcontent : s'.content (.pending ceremonyId) with
      | some old => exact hgood.of_content hcontent
      | none =>
          rw [apply, hnames, hcontent] at hnone
          dsimp only at hnone
          rw [if_pos hname] at hnone
          cases hnone
  · refine leaves_perform (fun s' hs' => ?_) fun _ => trivial
    obtain rfl := Option.some.inj hs'
    exact ⟨.inr (hs3.setTemporaries _ _), trivial⟩

/-- The operations that keep an accepted store, once what they publish is accepted. -/
def Allowed (setting : Setting) : Op → Prop
  | .makeParent (.pending _) => False
  | .link .publicCredential _ raw => setting.credFile = .ok raw
  | .link .evidence _ raw => IsApprovalFile setting raw
  | .link (.pending _) _ _ => False
  | _ => True

theorem Good.apply {op : Op} {s' : Store} (hop : Allowed setting op) (h : Good setting none s)
    (happly : apply op s = some s') : Good setting none s' := by
  cases op with
  | makeState =>
      obtain rfl := Option.some.inj happly
      exact ⟨h.names, h.entries, h.credential, h.evidence⟩
  | makeCeremonies =>
      obtain rfl := Option.some.inj happly
      exact ⟨h.names, h.entries, h.credential, h.evidence⟩
  | makeParent target =>
      cases target with
      | pending ceremonyId => cases hop
      | _ =>
          obtain rfl := Option.some.inj happly
          exact ⟨h.names, h.entries, h.credential, h.evidence⟩
  | openTemporary target name =>
      obtain ⟨rfl, -⟩ := of_openTemporary happly
      exact h.setTemporaries _ _
  | write target name =>
      obtain rfl := Option.some.inj happly
      exact h
  | unlink target name =>
      obtain rfl := Option.some.inj happly
      exact h.setTemporaries _ _
  | link target name raw =>
      obtain ⟨rfl, -⟩ := of_link happly
      cases target with
      | publicCredential =>
          refine ⟨h.names, h.entries, fun old hold => ?_, h.evidence⟩
          obtain rfl := Option.some.inj hold
          exact hop
      | evidence =>
          refine ⟨h.names, h.entries, h.credential, fun old hold => ?_⟩
          obtain rfl := Option.some.inj hold
          exact hop
      | pending ceremonyId => cases hop

/-- A publication keeps what its operations keep. -/
theorem keeps_persist {I : Store → Prop} {target : Target} {ops : Op → Prop}
    (hkeep : ∀ op s s', ops op → I s → apply op s = some s' → I s') (hparent : ops (.makeParent target))
    (hopen : ops (.openTemporary target name)) (hwrite : ops (.write target name))
    (hlink : raw.length ≤ maxBytes → ops (.link target name raw)) (hunlink : ops (.unlink target name)) :
    Keeps I (persistBytesNew target raw name) := by
  have hperform : ∀ op, ops op → Keeps I (operate op) := fun op hop => keeps_perform fun s s' => hkeep op s s' hop
  refine (hperform _ hparent).bind fun _ s hs => leaves_check_bind (fun _ _ => hs) fun _ hsize => ?_
  have hsmall := of_decide_eq_true (require_eq_ok_iff.1 hsize)
  refine ((hperform _ hopen).bind fun _ => Keeps.ensure ?_ (hperform _ hunlink)) s hs
  exact (hperform _ hwrite).bind fun _ => hperform _ (hlink hsmall)

/-- The first part of `begin` keeps what its operations keep. -/
theorem keeps_initializeState {I : Store → Prop} {ops : Op → Prop}
    (hkeep : ∀ op s s', ops op → I s → apply op s = some s' → I s') (hstate : ops .makeState)
    (hceremonies : ops .makeCeremonies) (hparent : ops (.makeParent .publicCredential))
    (hopen : ops (.openTemporary .publicCredential name)) (hwrite : ops (.write .publicCredential name))
    (hlink : ∀ raw, setting.credFile = .ok raw → ops (.link .publicCredential name raw))
    (hunlink : ops (.unlink .publicCredential name)) : Keeps I (initializeState setting name) := by
  have hperform : ∀ op, ops op → Keeps I (operate op) := fun op hop => keeps_perform fun s s' => hkeep op s s' hop
  refine (hperform _ hstate).bind fun _ => (hperform _ hceremonies).bind fun _ => keeps_read_bind fun s => ?_
  cases s.publicCredential with
  | some raw => exact keeps_check _
  | none =>
      intro s hs
      refine leaves_check_bind (fun _ _ => hs) fun raw hraw => leaves_check_bind (fun _ _ => hs) fun _ _ => ?_
      exact keeps_persist hkeep hparent hopen hwrite (fun _ => hlink raw hraw) hunlink s hs

end Publication

/-! ### A stored approval stays -/

section Stays

variable (setting : Setting) (now : ℤ) {old : Bytes}

end Stays

/-! ### What the calls leave -/

section Calls

variable {setting : Setting}

theorem keeps_good_initializeState (name : PyStr) : Keeps (Good setting none) (initializeState setting name) :=
  @keeps_initializeState setting name _ (Allowed setting) (fun _ _ _ hop hs h => hs.apply hop h) trivial trivial trivial
    trivial trivial (fun _ hraw => hraw) trivial

/-- An approval that was verified is accepted when it is read. -/
theorem isApprovalFile_of_canon {proof answer : PyVal} {raw : Bytes} (hloaded : Loaded proof)
    (hdict : proof.isDict = true) (hcanon : canon proof = .ok raw) (hsize : (raw ++ [10]).length ≤ maxBytes)
    (hverify : verifyProof setting proof = .ok answer) : IsApprovalFile setting (raw ++ [10]) := by
  have hstored := stored_of_canon hloaded hcanon
  obtain rfl : bytesOf proof = raw := by
    rw [hstored.canon] at hcanon
    exact Except.ok.inj hcanon
  exact ⟨proof, answer, readFile_bytesOf hstored hdict hsize, hverify⟩

theorem length_challenge {payload : PyVal} {challenge : Bytes} (h : challengeOf payload = .ok challenge) :
    challenge.length = 32 := by
  obtain ⟨raw, -, h⟩ := bind_eq_ok_iff.1 h
  obtain rfl := pure_eq_ok_iff.1 h
  unfold Sha256.digestBytes
  simp

/-- What is read from a file was loaded. -/
theorem loaded_readFile {file : Option Bytes} {expected : Bytes → Bool} {v : PyVal}
    (h : readFile file expected = .ok v) : Loaded v := by
  obtain ⟨raw, -, h⟩ := bind_eq_ok_iff.1 h
  obtain ⟨w, hw, h⟩ := bind_eq_ok_iff.1 h
  obtain ⟨u, -, h⟩ := bind_eq_ok_iff.1 h
  obtain rfl := pure_eq_ok_iff.1 h
  rw [loads] at hw
  cases hloads : loadsBytes raw with
  | none =>
      rw [hloads] at hw
      cases hw
  | some x =>
      rw [hloads] at hw
      obtain rfl := Except.ok.inj hw
      exact loaded_loadsBytes hloads

variable (hworks : Works setting) {s : Store}

include hworks

/-- The signing inputs are accepted. -/
theorem Works.checkSigningInputs {unfinished : Option PyStr} (h : Good setting unfinished s) :
    ∃ raw encoded key, setting.credFile = .ok raw ∧ IsCredential setting raw encoded key ∧
      checkSigningInputs setting s = .ok (key, .str encoded) := by
  obtain ⟨raw, encoded, key, hfile, hcredential⟩ := hworks.credential
  obtain ⟨record, hloads, hdict, hat⟩ := hcredential.record
  refine ⟨raw, encoded, key, hfile, hcredential, ?_⟩
  obtain ⟨files, hfiles⟩ : ∃ files, setting.fixedFiles.mapM id = .ok files :=
    exists_mapM_ok_iff.2 hworks.fixedFiles
  rw [MobileApproval.checkSigningInputs, hfiles, ok_bind, MobileApproval.credential]
  cases hpublic : s.publicCredential with
  | none => simp [hfile, hloads, hdict, hat, require_ok, hcredential.key]
  | some raw' =>
      have hsame := h.credential raw' hpublic
      rw [hfile] at hsame
      obtain rfl := Except.ok.inj hsame
      simp [readFile, rawRead, hcredential.size, hcredential.accepted, hloads, hdict, hat, require_ok, hcredential.key]

/-- The record of a new ceremony is accepted when it is read. -/
theorem Works.isRecordFile {now : ℤ} (hnow : IsMoment now) (draws : Draws) {encoded : PyStr}
    {data challenge raw : Bytes} {options state : PyVal} (hlength : encoded.length ≤ 1024)
    (hdata : readB64 (.str encoded) = .ok data)
    (hchallenge : challengeOf (payloadOf setting now draws (Sha256.hexdigest data)) = .ok challenge)
    (hbegun : IsBegun challenge options state)
    (hcanon : canon (recordOf draws (payloadOf setting now draws (Sha256.hexdigest data)) (.str encoded) options
      state) = .ok raw) : (raw ++ [10]).length ≤ maxBytes ∧ IsRecordFile setting (some (raw ++ [10])) := by
  have hstored := stored_recordOf hworks hnow draws data hdata hbegun
  rw [hstored.canon] at hcanon
  obtain rfl := Except.ok.inj hcanon
  have hsize := length_recordOf hworks hnow draws data hlength hbegun
  exact ⟨hsize, _, readFile_bytesOf hstored rfl hsize,
    ⟨_, checkPending_recordOf hworks hnow draws hdata hchallenge hbegun⟩, options, by simp [recordOf, at_obj]⟩

/-- **What `begin` leaves.** -/
theorem leaves_begin {now : ℤ} (hnow : IsMoment now) (draws : Draws) (h : Good setting none s) :
    Leaves (Left setting) (fun _ _ => True) (begin setting now draws) s := by
  refine Leaves.replacing (R := fun _ _ => True) (leaves_read_bind ?_) (fun _ _ _ => trivial) fun _ _ _ => trivial
  cases hevidence : s.evidence with
  | some raw => exact leaves_check trivial
  | none =>
      obtain ⟨file, encoded, key, -, hcredential, hinputs⟩ := hworks.checkSigningInputs h
      refine leaves_check_bind (fun _ _ => trivial) fun inputs hinputs' => ?_
      rw [hinputs] at hinputs'
      obtain rfl := Except.ok.inj hinputs'
      refine leaves_check_bind (fun _ _ => trivial) fun pendings _ => ?_
      refine leaves_check_bind (fun _ _ => trivial) fun current _ => ?_
      cases current with
      | some pending => exact leaves_check trivial
      | none =>
          refine ((keeps_good_initializeState _ s h).mono (fun _ _ => .inr) fun _ _ => id).bind
            (fun _ _ _ => trivial) fun _ s1 hs1 => ?_
          refine leaves_check_bind (fun _ _ => trivial) fun data hdata => ?_
          refine leaves_check_bind (fun _ _ => trivial) fun challenge hchallenge => ?_
          obtain ⟨options, state, hanswer, hbegun⟩ := hworks.authenticateBegin key challenge (length_challenge hchallenge)
          refine leaves_check_bind (fun _ _ => trivial) fun begun hbegun' => ?_
          rw [hanswer] at hbegun'
          obtain rfl := Except.ok.inj hbegun'
          refine Leaves.bind (R := fun _ _ => True) (leaves_check_bind (fun _ _ => trivial) fun raw hraw => ?_)
            (fun _ _ _ => trivial) fun _ _ _ => leaves_pure trivial
          have hfile := hworks.isRecordFile hnow draws hcredential.length hdata hchallenge hbegun hraw
          exact (leaves_persist_pending hs1 draws.isId fun _ => hfile.2).bind (fun _ _ _ => trivial) fun _ _ _ =>
            leaves_pure trivial

/-- **What `complete` leaves.** -/
theorem leaves_complete {now : ℤ} (hnow : IsTime now) {body : PyVal} (hbody : Loaded body) (name : PyStr)
    (h : Good setting none s) : Leaves (Left setting) (fun _ _ => True) (complete setting now body name) s := by
  refine Leaves.replacing (R := fun _ _ => True) (leaves_check_bind (fun _ _ => trivial) fun _ _ =>
    leaves_check_bind (fun _ _ => trivial) fun ceremonyId _ => leaves_check_bind (fun _ _ => trivial)
      fun response hresponse => leaves_read_bind ?_) (fun _ _ _ => trivial) fun _ _ _ => trivial
  cases hevidence : s.evidence with
  | some raw => exact leaves_check trivial
  | none =>
      refine leaves_check_bind (fun _ _ => trivial) fun _ _ => leaves_check_bind (fun _ _ => trivial) fun _ _ => ?_
      refine leaves_check_bind (fun _ _ => trivial) fun pending hpending => ?_
      refine leaves_check_bind (fun _ _ => trivial) fun _ _ => leaves_check_bind (fun _ _ => trivial) ?_
      intro summary hsummary
      have hloaded : Loaded (proofOf setting now pending response) := by
        refine loaded_obj (by simp only [keysSorted, List.map, key, cp_eq_codes]; decide +kernel) ?_
        simp only [List.forall_mem_cons, List.not_mem_nil, false_implies, implies_true, and_true]
        exact ⟨hbody.at hresponse, .bool _, .bool _, loaded_readFile hpending, .str _ (isText_cp _),
          (hworks.stored_isoformat hnow).loaded, .str _ (isText_cp _)⟩
      refine Leaves.bind (R := fun _ _ => True) (leaves_check_bind (fun _ _ => trivial) fun raw hraw => ?_)
        (fun _ _ _ => trivial) fun _ _ _ => leaves_read_bind (leaves_check_bind (fun _ _ => trivial) fun _ _ =>
          leaves_pure trivial)
      have hkeeps := @keeps_persist (raw ++ [10]) name _ .evidence (Allowed setting)
        (fun _ _ _ hop hs h => hs.apply hop h) trivial trivial trivial
        (fun hsize => isApprovalFile_of_canon hloaded rfl hraw hsize hsummary) trivial s h
      exact (hkeeps.mono (fun _ _ => .inr) fun _ _ => id).bind (fun _ _ _ => trivial) fun _ _ _ => leaves_pure trivial

end Calls

/-! ### Accepted stores are read -/

section Reads

variable {setting : Setting} {s : Store}

theorem IsRecord.timeOf {record : PyVal} (h : IsRecord setting record) :
    (∃ t, timeOf setting record "issued_at" = .ok t) ∧ ∃ t, timeOf setting record "expires_at" = .ok t := by
  obtain ⟨payload, hchecked⟩ := h.checked
  obtain ⟨hpayload, -, ⟨issuedText, issued, hissuedText, hissued⟩, expiresText, expires, hexpiresText, hexpires⟩ :=
    of_checkPending hchecked
  constructor
  · exact ⟨issued, by rw [MobileApproval.timeOf, hpayload, ok_bind, hissuedText, ok_bind, hissued]⟩
  · exact ⟨expires, by rw [MobileApproval.timeOf, hpayload, ok_bind, hexpiresText, ok_bind, hexpires]⟩

/-- The ceremonies of an accepted store are read. -/
theorem Good.existingPending (h : Good setting none s) :
    ∃ records, existingPending setting s = .ok records ∧ ∀ record ∈ records, IsRecord setting record := by
  have hread : ∀ entry ∈ s.entries, ∃ record, readCeremony setting entry = .ok record := by
    intro entry hentry
    obtain ⟨hname, ⟨record, hrecord, hchecked⟩ | ⟨hnone, -⟩⟩ := h.entries entry hentry
    · obtain ⟨payload, hpayload⟩ := hchecked.checked
      exact ⟨record, by rw [readCeremony, require_ok hname, ok_bind, hrecord, ok_bind, hpayload]; rfl⟩
    · cases hnone
  obtain ⟨result, hresult⟩ := exists_mapM_ok_iff.2 hread
  have hrecords : ∀ record ∈ result, IsRecord setting record := by
    intro record hrecord
    obtain ⟨entry, hentry, hread⟩ := (mem_of_mapM hresult).1 hrecord
    obtain ⟨-, ⟨record', hrecord', hchecked⟩ | ⟨hnone, -⟩⟩ := h.entries entry hentry
    · obtain ⟨u1, -, hread⟩ := bind_eq_ok_iff.1 hread
      obtain ⟨w, hw, hread⟩ := bind_eq_ok_iff.1 hread
      obtain ⟨u2, -, hread⟩ := bind_eq_ok_iff.1 hread
      obtain rfl := pure_eq_ok_iff.1 hread
      rw [hrecord'] at hw
      obtain rfl := Except.ok.inj hw
      exact hchecked
    · cases hnone
  obtain ⟨dated, hdated⟩ : ∃ dated, (result.mapM fun pending => do
      let issued ← timeOf setting pending "issued_at"
      pure (issued, pending) : Except Fault (List (ℤ × PyVal))) = .ok dated := by
    refine exists_mapM_ok_iff.2 fun record hrecord => ?_
    obtain ⟨t, ht⟩ := (hrecords record hrecord).timeOf.1
    exact ⟨(t, record), by rw [ht]; rfl⟩
  refine ⟨(dated.mergeSort fun a b => b.1 ≤ a.1).map Prod.snd, ?_, fun record hrecord => ?_⟩
  · rw [MobileApproval.existingPending, hresult, ok_bind, hdated]
    rfl
  · obtain ⟨q, hq, rfl⟩ := List.mem_map.1 hrecord
    obtain ⟨v, hv, hread⟩ := (mem_of_mapM hdated).1 (List.mem_mergeSort.1 hq)
    obtain ⟨issued, -, hread⟩ := bind_eq_ok_iff.1 hread
    obtain rfl := pure_eq_ok_iff.1 hread
    exact hrecords v hv

variable (hworks : Works setting)

include hworks

/-- What a call of `begin` draws is new. -/
structure Draws.Fresh (draws : Draws) (s : Store) : Prop where
  ceremonyId : draws.ceremonyId ∉ s.entries.map Prod.fst
  credentialName : draws.credentialName ∉ s.temporaries

end Reads

/-! ### Runs with crashes -/

/-- The stores that are reached when calls follow each other, each stopped behind one of its operations: an operation
that the condition allows, and the last one if the call runs to its end. -/
inductive Reached (setting : Setting) (allowed : Op → Prop) : Store → Prop
  | empty : Reached setting allowed emptyStore
  | begun {s s' : Store} {op : Op} (h : Reached setting allowed s) (now : ℤ) (hnow : IsMoment now) (draws : Draws)
      (hop : allowed op) (hdone : (op, s') ∈ (begin setting now draws s).done) : Reached setting allowed s'
  | completed {s s' : Store} {op : Op} (h : Reached setting allowed s) (now : ℤ) (hnow : IsTime now) (body : PyVal)
      (hbody : Loaded body) (name : PyStr) (hop : allowed op)
      (hdone : (op, s') ∈ (complete setting now body name s).done) : Reached setting allowed s'

/-- The stores that are reached are accepted, if no call is stopped in front of a record. -/
theorem Reached.good {setting : Setting} (hworks : Works setting) {s : Store}
    (h : Reached setting (fun op => ¬Unfinished op) s) : Good setting none s := by
  induction h with
  | empty => exact good_emptyStore
  | begun _ now hnow draws hop hdone ih => exact ((leaves_begin hworks hnow draws ih).behind _ hdone).resolve_left hop
  | completed _ now hnow body hbody name hop hdone ih =>
      exact ((leaves_complete hworks hnow hbody name ih).behind _ hdone).resolve_left hop

/-- Two times as they are written; the others are numbers. -/
def sampleTimes : List (ℤ × PyStr) :=
  [(0, cp "1970-01-01T00:00:00+00:00"), (900000000, cp "1970-01-01T00:15:00+00:00")]

/-- A number is none of the times that are written. -/
theorem find_natText (n : ℕ) : sampleTimes.find? (·.2 = natText n) = none := by
  have hdash : 45 ∉ natText n := fun h => by
    have hdigit := isDigit_of_mem_natText h
    cases hdigit
  refine List.find?_eq_none.2 fun p hp heq => hdash ?_
  have hall : ∀ q ∈ sampleTimes, 45 ∈ q.2 := by decide
  rw [← of_decide_eq_true heq]
  exact hall p hp

end MobileApproval
