/-
**Canonical values of the native ADI core.**

Everything the store of `services/w7tp_native_adi/core.py` keeps, hashes or sends is normalised
first: keys are stripped, credentials and values outside JSON are refused, tuples become lists.  The
hash of a value is taken over the canonical JSON text of its normal form.

Main definitions:

* `Adi.ADIError`, `Adi.Fault` — the exceptions of the core;
* `Adi.normalizeJson` — `_normalize_json`;
* `Adi.canonicalBytes`, `Adi.canonicalSha256` — the canonical text, encoded and hashed;
* `Adi.Normal` — the values that are their own normal form;
* `Adi.Canonical` — those of them that can be hashed.

Main results:

* `Adi.normal_of_normalize` — normalising yields a normal value;
* `Adi.normalize_of_normal` — a normal value is its own normal form.
-/

import Wuchang.PyValue
import Wuchang.Sha256

set_option relaxedAutoImplicit false
set_option autoImplicit false

namespace Adi

open Py

/-! ### Constants and errors -/

/-- `PROTOCOL_VERSION` -/
def protocolVersion : PyVal := lit "W7TP_8D_GENERATIVE_TRANSMISSION/1.0"

/-- `STATE_SCHEMA_VERSION` -/
def stateSchemaVersion : PyVal := lit "W7TP_NATIVE_ADI_STATE/1.0"

/-- `PACKET_SCHEMA_VERSION` -/
def packetSchemaVersion : PyVal := lit "W7TP_NATIVE_ADI_PACKET/1.0"

/-- `MAX_TIME_SLOT` -/
def maxTimeSlot : ℤ := 2 ^ 63 - 1

/-- `MAX_RESULTS` -/
def maxResults : ℤ := 10000

/-- `MAX_PACKET_RECORDS` -/
def maxPacketRecords : ℕ := 250000

/-- `MAX_PAYLOAD_BYTES` -/
def maxPayloadBytes : ℕ := 64 * 1024

/-- `FORBIDDEN_CREDENTIAL_KEYS` -/
def forbiddenCredentialKeys : List String :=
  ["access_token", "api_key", "client_secret", "credential", "id_token", "password", "private_key",
    "raw_credential", "raw_secret", "raw_token", "refresh_token", "secret", "token"]

/-- `ADIError` -/
structure ADIError where
  reasonCode : String
  path : PyStr
  deriving DecidableEq, Repr

/-- An exception of the core: an `ADIError`, or one of the interpreter. -/
abbrev Fault := Raise ADIError

/-- The default path of an error. -/
def root : PyStr := cp "$"

/-- `raise ADIError(code, path)` -/
def hold {α : Type} (code : String) (path : PyStr) : Except Fault α := .error (.own ⟨code, path⟩)

/-- `if c: raise ADIError(code, path)` -/
def holdIf (c : Prop) [Decidable c] (code : String) (path : PyStr) : Except Fault Unit :=
  raiseIf c ⟨code, path⟩

theorem holdIf_pos {c : Prop} [Decidable c] (h : c) (code : String) (path : PyStr) :
    holdIf c code path = .error (.own ⟨code, path⟩) := raiseIf_pos h _

theorem holdIf_neg {c : Prop} [Decidable c] (h : ¬c) (code : String) (path : PyStr) :
    holdIf c code path = .ok () := raiseIf_neg h _

theorem holdIf_eq_ok_iff {c : Prop} [Decidable c] {code : String} {path : PyStr} {u : Unit} :
    holdIf c code path = .ok u ↔ ¬c := raiseIf_eq_ok_iff

/-! ### Normalisation -/

/-- `f"{path}[{index}]"` -/
def atIndex (path : PyStr) (i : ℕ) : PyStr := path ++ cp "[" ++ intText i ++ cp "]"

/-- `f"{path}.{key}"` -/
def atKey (path k : PyStr) : PyStr := path ++ cp "." ++ k

/-- `key.casefold() in FORBIDDEN_CREDENTIAL_KEYS` -/
def isForbidden (k : PyStr) : Bool := forbiddenCredentialKeys.any fun f => foldAscii k = cp f

/-- The key of an item, stripped, or the reason why it is refused. -/
def normalizeKey (path : PyStr) : PyKey → Except Fault PyStr
  | .other => hold "JSON_OBJECT_KEY_INVALID" path
  | .str raw => do
      holdIf (strip raw = []) "JSON_OBJECT_KEY_INVALID" path
      holdIf (isForbidden (strip raw)) "RAW_CREDENTIAL_FORBIDDEN" (atKey path (strip raw))
      pure (strip raw)

mutual

/-- `_normalize_json` -/
def normalizeJson (path : PyStr) : PyVal → Except Fault PyVal
  | .none => .ok .none
  | .bool b => .ok (.bool b)
  | .str s => .ok (.str s)
  | .int n => .ok (.int n)
  | .float x => do
      holdIf (¬x.isFinite) "NON_FINITE_NUMBER" path
      pure (.float x)
  | .list xs => do
      let ys ← normalizeList path 0 xs
      pure (.list ys)
  | .dict items => do
      let normalized ← normalizeItems path [] items
      pure (.dict normalized)
  | .other => hold "NON_JSON_VALUE" path

/-- The elements of a list, from the index `i` on. -/
def normalizeList (path : PyStr) (i : ℕ) : List PyVal → Except Fault (List PyVal)
  | [] => .ok []
  | x :: xs => do
      let y ← normalizeJson (atIndex path i) x
      let ys ← normalizeList path (i + 1) xs
      pure (y :: ys)

/-- The items of a mapping, added to those that are normalised already. -/
def normalizeItems (path : PyStr) (normalized : Items) : Items → Except Fault Items
  | [] => .ok normalized
  | (rawKey, item) :: items => do
      let k ← normalizeKey path rawKey
      let v ← normalizeJson (atKey path k) item
      normalizeItems path (setKey k v normalized) items

end

/-- `_normalize_json(value)` -/
def normalize (v : PyVal) : Except Fault PyVal := normalizeJson root v

/-- `canonical_bytes` -/
def canonicalBytes (v : PyVal) : Except Fault (List UInt8) := do
  let w ← normalize v
  encodeUtf8 w.dumps

/-- `canonical_sha256` -/
def canonicalSha256 (v : PyVal) : Except Fault PyStr := do
  let b ← canonicalBytes v
  pure (Sha256.hexdigest b)

/-! ### Normal values -/

/-- A key that normalisation leaves as it is. -/
def CleanKey (k : PyStr) : Prop := strip k = k ∧ k ≠ [] ∧ isForbidden k = false

instance (k : PyStr) : Decidable (CleanKey k) := inferInstanceAs (Decidable (_ ∧ _))

/-- A value that is its own normal form. -/
abbrev Normal : PyVal → Prop := Json CleanKey

theorem normalizeKey_ok {path k : PyStr} (h : CleanKey k) :
    normalizeKey path (.str k) = .ok k := by
  obtain ⟨hstrip, hne, hforb⟩ := h
  rw [normalizeKey, hstrip, holdIf_neg hne, ok_bind, holdIf_neg (by simp [hforb])]
  rfl

theorem cleanKey_of_normalizeKey {path : PyStr} {raw : PyKey} {k : PyStr}
    (h : normalizeKey path raw = .ok k) : CleanKey k := by
  cases raw with
  | other => simp [normalizeKey, hold] at h
  | str raw =>
      simp only [normalizeKey, bind_eq_ok_iff, holdIf_eq_ok_iff, pure_eq_ok_iff,
        exists_const] at h
      obtain ⟨hne, hforb, rfl⟩ := h
      exact ⟨strip_strip raw, hne, by simpa using hforb⟩

theorem normalizeList_of_normal {xs : List PyVal}
    (h : ∀ x ∈ xs, ∀ path, normalizeJson path x = .ok x) (path : PyStr) :
    ∀ i, normalizeList path i xs = .ok xs := by
  induction xs with
  | nil => exact fun _ => rfl
  | cons x xs ih =>
      intro i
      rw [normalizeList, h x (by simp), ok_bind, ih fun y hy => h y (by simp [hy])]
      rfl

/-- Sorted items are added behind those that are there already. -/
theorem normalizeItems_of_normal {items : Items}
    (h : ∀ p ∈ items, ∀ path, normalizeJson path p.2 = .ok p.2)
    (keys : ∀ p ∈ items, ∃ s, p.1 = .str s ∧ CleanKey s) (path : PyStr) :
    ∀ done, Sorted (done ++ items) → normalizeItems path done items = .ok (done ++ items) := by
  induction items with
  | nil => intro done _; rw [List.append_nil]; rfl
  | cons p items ih =>
      intro done hsorted
      obtain ⟨s, hs, hclean⟩ := keys p (by simp)
      have hlt : ∀ q ∈ done, q.1.lt (.str s) := by
        intro q hq
        rw [Sorted, List.map_append, List.pairwise_append] at hsorted
        exact hs ▸ hsorted.2.2 q.1 (List.mem_map_of_mem hq) p.1 (by simp)
      obtain ⟨k, v⟩ := p
      obtain rfl : k = .str s := hs
      have hv : normalizeJson (atKey path s) v = .ok v := h (.str s, v) (by simp) _
      rw [normalizeItems, normalizeKey_ok hclean, ok_bind, hv, ok_bind, setKey_of_lt hlt,
        ih (fun q hq => h q (by simp [hq])) (fun q hq => keys q (by simp [hq])),
        List.append_assoc, List.singleton_append]
      rwa [List.append_assoc, List.singleton_append]

/-- A normal value is its own normal form. -/
theorem normalize_of_normal {v : PyVal} (hv : Normal v) :
    ∀ path, normalizeJson path v = .ok v := by
  induction hv with
  | none => exact fun _ => rfl
  | bool b => exact fun _ => rfl
  | int n => exact fun _ => rfl
  | str s => exact fun _ => rfl
  | float x h =>
      intro path
      rw [normalizeJson, holdIf_neg (by simp [h])]
      rfl
  | list xs _ ih =>
      intro path
      rw [normalizeJson, normalizeList_of_normal ih]
      rfl
  | dict items sorted keys _ ih =>
      intro path
      rw [normalizeJson, normalizeItems_of_normal ih keys path [] sorted]
      rfl

/-- Normalising yields a normal value. -/
theorem normal_of_normalize (v : PyVal) :
    ∀ path w, normalizeJson path v = .ok w → Normal w := by
  induction v using PyVal.induct with
  | none => rintro path w h; cases h; exact .none
  | bool b => rintro path w h; cases h; exact .bool b
  | int n => rintro path w h; cases h; exact .int n
  | str s => rintro path w h; cases h; exact .str s
  | other => rintro path w h; cases h
  | float x =>
      intro path w h
      simp only [normalizeJson, bind_eq_ok_iff, holdIf_eq_ok_iff, pure_eq_ok_iff, exists_const] at h
      obtain ⟨hfin, rfl⟩ := h
      exact .float x (by simpa using hfin)
  | list xs ih =>
      intro path w h
      simp only [normalizeJson, bind_eq_ok_iff, pure_eq_ok_iff] at h
      obtain ⟨ys, hys, rfl⟩ := h
      have hlist : ∀ (xs : List PyVal) (i : ℕ) (ys : List PyVal),
          (∀ x ∈ xs, ∀ path w, normalizeJson path x = .ok w → Normal w) →
          normalizeList path i xs = .ok ys → ∀ y ∈ ys, Normal y := by
        intro xs
        induction xs with
        | nil => rintro i ys - h; cases h; simp
        | cons x xs ihxs =>
            intro i ys ih h
            simp only [normalizeList, bind_eq_ok_iff, pure_eq_ok_iff] at h
            obtain ⟨y, hy, ys, hys, rfl⟩ := h
            exact List.forall_mem_cons.2 ⟨ih x (by simp) _ _ hy,
              ihxs _ _ (fun x hx => ih x (by simp [hx])) hys⟩
      exact .list ys (hlist xs 0 ys ih hys)
  | dict items ih =>
      intro path w h
      simp only [normalizeJson, bind_eq_ok_iff, pure_eq_ok_iff] at h
      obtain ⟨normalized, hn, rfl⟩ := h
      have hdict : ∀ (items done out : Items),
          (∀ p ∈ items, ∀ path w, normalizeJson path p.2 = .ok w → Normal w) →
          Normal (.dict done) → normalizeItems path done items = .ok out → Normal (.dict out) := by
        intro items
        induction items with
        | nil => rintro done out - hdone h; cases h; exact hdone
        | cons p items ihitems =>
            intro done out ih hdone h
            simp only [normalizeItems, bind_eq_ok_iff] at h
            obtain ⟨k, hk, v, hv, h⟩ := h
            exact ihitems _ _ (fun q hq => ih q (by simp [hq]))
              (hdone.setKey (cleanKey_of_normalizeKey hk) (ih p (by simp) _ _ hv)) h
      exact hdict items [] normalized ih (.dict [] (by decide) (by simp) (by simp)) hn

/-- A value that can be hashed as it is: normal, and with a text that can be encoded. -/
structure Canonical (v : PyVal) : Prop where
  normal : Normal v
  encodable : Encodable v.dumps

namespace Canonical

/-- The bytes that are hashed. -/
def bytes (v : PyVal) : List UInt8 := v.dumps.flatMap utf8Char

/-- The hash of a value that can be hashed as it is. -/
def sha256 (v : PyVal) : PyStr := Sha256.hexdigest (bytes v)

theorem none : Canonical .none := ⟨.none, encodable_cp _⟩

theorem bool (b : Bool) : Canonical (.bool b) := by
  refine ⟨.bool b, ?_⟩
  cases b
  · exact encodable_cp _
  · exact encodable_cp _

theorem int (n : ℤ) : Canonical (.int n) := ⟨.int n, encodable_intText n⟩

theorem str {s : PyStr} (h : Encodable s) : Canonical (.str s) := ⟨.str s, encodable_quote.2 h⟩

theorem lit (s : String) : Canonical (lit s) := str (encodable_cp s)

theorem list {xs : List PyVal} (h : ∀ x ∈ xs, Canonical x) : Canonical (.list xs) :=
  ⟨.list xs fun x hx => (h x hx).normal, encodable_dumps_list.2 fun x hx => (h x hx).encodable⟩

/-- The keys of a literal: clean and in order. -/
abbrev LiteralKeys (ks : List String) : Prop := keysSorted ks ∧ ∀ k ∈ ks, CleanKey (cp k)

theorem obj {l : List (String × PyVal)} (ks : List String) (hks : l.map Prod.fst = ks)
    (hkeys : LiteralKeys ks) (h : ∀ p ∈ l, Canonical p.2) : Canonical (obj l) :=
  ⟨.obj ks hks hkeys.1 hkeys.2 fun p hp => (h p hp).normal,
    encodable_dumps_obj.2 fun p hp => (h p hp).encodable⟩

/-- A part of a list of literal keys is one. -/
theorem LiteralKeys.sublist {ks ls : List String} (h : LiteralKeys ls) (hsub : ks.Sublist ls) :
    LiteralKeys ks :=
  ⟨h.1.sublist (hsub.map key), fun k hk => h.2 k (hsub.subset hk)⟩

/-- Setting a key keeps a dictionary that can be hashed. -/
theorem setKey {k : PyStr} {v : PyVal} {items : Items} (h : Canonical (.dict items)) (hk : CleanKey k)
    (henc : Encodable k) (hv : Canonical v) : Canonical (.dict (setKey k v items)) := by
  refine ⟨h.normal.setKey hk hv.normal, encodable_dumps_dict.2 fun p hp => ?_⟩
  rcases mem_setKey hp with rfl | hp
  · exact ⟨encodable_quote.2 henc, hv.encodable⟩
  · exact encodable_dumps_dict.1 h.encodable p hp

/-- So does taking a key away. -/
theorem eraseKey {k : PyStr} {items : Items} (h : Canonical (.dict items)) :
    Canonical (.dict (eraseKey k items)) :=
  ⟨h.normal.eraseKey, encodable_dumps_dict.2 fun p hp =>
    encodable_dumps_dict.1 h.encodable p (List.mem_of_mem_filter hp)⟩

/-- The hash of a value is a text of hexadecimal digits. -/
theorem hash (v : PyVal) : Canonical (.str (sha256 v)) := str (Sha256.encodable_hexdigest _)

theorem normalize {v : PyVal} (hv : Canonical v) : Adi.normalize v = .ok v :=
  normalize_of_normal hv.normal _

theorem canonicalBytes {v : PyVal} (hv : Canonical v) : canonicalBytes v = .ok (bytes v) := by
  rw [Adi.canonicalBytes, hv.normalize, ok_bind, encodeUtf8_ok hv.encodable]
  rfl

theorem canonicalSha256 {v : PyVal} (hv : Canonical v) : canonicalSha256 v = .ok (sha256 v) := by
  rw [Adi.canonicalSha256, hv.canonicalBytes]
  rfl

end Canonical

/-- The bytes of a value are those of its normal form. -/
theorem canonicalBytes_eq_ok_iff {v : PyVal} {b : List UInt8} :
    canonicalBytes v = .ok b ↔ ∃ w, normalize v = .ok w ∧ Canonical w ∧ b = Canonical.bytes w := by
  simp only [canonicalBytes, bind_eq_ok_iff, encodeUtf8_isOk_iff]
  constructor
  · rintro ⟨w, hw, henc, rfl⟩
    exact ⟨w, hw, ⟨normal_of_normalize v _ w hw, henc⟩, rfl⟩
  · rintro ⟨w, hw, hc, rfl⟩
    exact ⟨w, hw, hc.encodable, rfl⟩

theorem canonicalSha256_eq_ok_iff {v : PyVal} {h : PyStr} :
    canonicalSha256 v = .ok h ↔ ∃ w, normalize v = .ok w ∧ Canonical w ∧ h = Canonical.sha256 w := by
  simp only [canonicalSha256, bind_eq_ok_iff, canonicalBytes_eq_ok_iff, pure_eq_ok_iff]
  constructor
  · rintro ⟨_, ⟨w, hw, hc, rfl⟩, rfl⟩
    exact ⟨w, hw, hc, rfl⟩
  · rintro ⟨w, hw, hc, rfl⟩
    exact ⟨_, ⟨w, hw, hc, rfl⟩, rfl⟩

/-! ### The keys of the documents -/

/-- All keys of the documents of a store and of its packets, in order. -/
def documentKeys : List String :=
  ["D1", "D2", "D3", "D4", "D5", "D6", "D7", "D8", "absolute_time_slot",
    "absolute_time_slot_mapping", "collision_index", "collision_resolution", "coordinate", "decision",
    "delivery", "delta", "delta_sha256", "dynamic_context_8d", "entries", "event_sequence",
    "event_sha256", "event_type", "execution", "hard_risk", "id", "id_set_sha256", "intent",
    "last_event_sha256", "missing_reference", "mode", "observed_at", "packet_sha256", "packet_type",
    "payload", "point_count", "previous_event_sha256", "protocol_version",
    "reconstruction_conditions", "reconstruction_conditions_sha256", "record", "record_count",
    "record_sha256", "records", "redlines", "reference_lookup", "reference_lookup_sha256",
    "reference_match", "risk_assessment", "schema_version", "sequence", "slices", "source",
    "source_bytes", "source_id_set_sha256", "source_packet_sha256", "source_state_sha256",
    "spiral_position", "state", "state_atom_count", "state_atoms", "state_schema_version",
    "state_sha256", "target_id_set_sha256", "target_state_sha256", "time_slot",
    "total_field_decision", "verification", "verification_root", "x", "y"]

theorem literalKeys_documentKeys : Canonical.LiteralKeys documentKeys := by decide +kernel

/-- The keys of a document are literal keys. -/
theorem literalKeys {ks : List String} (h : ks.Sublist documentKeys) : Canonical.LiteralKeys ks :=
  literalKeys_documentKeys.sublist h

end Adi
